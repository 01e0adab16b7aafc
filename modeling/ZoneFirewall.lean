import ZoneFirewall.AddressBook.Resolve
import ZoneFirewall.CommandLine.Run
import ZoneFirewall.Configuration.Reading
import ZoneFirewall.Conversion
import ZoneFirewall.Main
import ZoneFirewall.Proofs.Flattening
import ZoneFirewall.Script.Compile
import ZoneFirewall.Script.Printer
import ZoneFirewall.Settings.Loading
import ZoneFirewall.Proofs.Resolution
import ZoneFirewall.Proofs.FirstFailure
import ZoneFirewall.Proofs.ServiceGroups
import ZoneFirewall.Proofs.CatalogHistory
import ZoneFirewall.Proofs.Compilation
import ZoneFirewall.Proofs.AddressLists
import ZoneFirewall.Proofs.RequiredRules
import ZoneFirewall.Proofs.PortRanges
import ZoneFirewall.Proofs.FirstMatch
import ZoneFirewall.Proofs.Faithfulness
import ZoneFirewall.Proofs.LiftedConstraints
import ZoneFirewall.Proofs.Chunks
import ZoneFirewall.Proofs.Acceptance
import ZoneFirewall.Proofs.Rearrangement
import ZoneFirewall.Proofs.Instructions
import ZoneFirewall.Proofs.PolicyRecords
import ZoneFirewall.Proofs.ServiceEntries
import ZoneFirewall.Proofs.AddressEntries
import ZoneFirewall.Proofs.PolicyIndex
import ZoneFirewall.Proofs.CompileFailures
import ZoneFirewall.Proofs.ReferenceFates
import ZoneFirewall.Proofs.QuotedTexts
import ZoneFirewall.Proofs.StoredTexts
import ZoneFirewall.Proofs.ScriptLines
import ZoneFirewall.Proofs.StatementTokens
import ZoneFirewall.Proofs.PolicyRemoval
import ZoneFirewall.Proofs.PolicyCreation
import ZoneFirewall.Proofs.AllOrNothing
import ZoneFirewall.Proofs.ReachedObjects
import ZoneFirewall.Proofs.SharedResolutions
import ZoneFirewall.Proofs.PolicySelection
import ZoneFirewall.Proofs.CreationRoundTrip
import ZoneFirewall.Proofs.ShortForms
import ZoneFirewall.Proofs.PortTexts
import ZoneFirewall.Proofs.ServiceOverlay
import ZoneFirewall.Proofs.SettingsRoundTrip
