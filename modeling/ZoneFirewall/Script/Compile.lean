import ZoneFirewall.AddressBook.Resolve
import ZoneFirewall.Configuration.Basic
import ZoneFirewall.Script.Basic

/-!
# Compiling policies

Policies are compiled against an address book and a service catalog. A reference that comes to one
address is matched by the address; one that comes to several is matched by an address list, which
is filled once; one that comes to none is reported and left out. Each policy then yields rules for
each of its services, for each protocol of the service, for each pair of a source and a
destination.

* `Policy.isActive`: the policies that yield anything.
* `Configuration.addressLists`: the address lists that some policies need.
* `Configuration.filterRules`: the rules of some policies.
* `Configuration.compile`: both together. `CompileError`: why there are none.
* `Configuration.compileEvents`: what compiling reports on its way.
-/

namespace ZoneFirewall

open Text

/-! ## Errors -/

/-- Why policies cannot be compiled. -/
inductive CompileError where
  /-- A group of addresses contains itself. -/
  | cyclicAddresses (zone : String) (cycle : AddressBook.Cycle)
  /-- A group of services contains itself. -/
  | cyclicServices (chain : List WideText) (name : WideText)
  /-- A service of a policy, or a member of one, is in no catalog. -/
  | unknownService (policy : Int) (service : WideText)
  deriving DecidableEq, Repr

/-- The wording for a group that contains itself. -/
def cycleMessage (scope : String) (chain : List String) (name : String) : String :=
  "Cyclic group reference in '" ++ scope ++ "': " ++ " -> ".intercalate (chain ++ [name])

/-- The wording for a service that is in no catalog. -/
def unknownServiceMessage (policy : Int) (service : WideText) : String :=
  "Policy " ++ toString policy ++ ": service '" ++ service.joined ++ "' not found"

/-- The scope that messages name for groups of services. -/
def serviceScope : String := "service"

/-- The wording of the error. -/
def CompileError.message : CompileError → String
  | .cyclicAddresses zone cycle => cycleMessage zone cycle.chain cycle.name
  | .cyclicServices chain name =>
    cycleMessage serviceScope (chain.map (·.joined)) name.joined
  | .unknownService policy service => unknownServiceMessage policy service

/-! ## References -/

/-- Two names as one: that of a reference in a zone, or of a pair of zones. -/
def joinNames (first second : String) : String := first ++ "__" ++ second

/-- A name as it is used in a zone. -/
structure Reference where
  /-- The zone. -/
  zone : String
  /-- The name. -/
  name : String
  deriving DecidableEq, Repr

/-- The name of the reference's address list. -/
def Reference.listName (r : Reference) : String := joinNames r.zone r.name

namespace Policy

/-- Whether the policy yields rules: it is switched on, and not what two zones do without any
policy. -/
def isActive (p : Policy) : Bool := !p.disabled && !p.isZoneDefault

/-- The chain of the policy's rules. -/
def chain (p : Policy) : String := joinNames p.fromZone p.toZone

/-- The policy's sources in their zone. -/
def sourceReferences (p : Policy) : List Reference := p.sources.map (⟨p.fromZone, ·⟩)

/-- The policy's destinations in their zone. -/
def destinationReferences (p : Policy) : List Reference := p.destinations.map (⟨p.toZone, ·⟩)

/-- The policy's addresses, sources first. -/
def references (p : Policy) : List Reference := p.sourceReferences ++ p.destinationReferences

end Policy

namespace Configuration

/-- The entries behind a reference. -/
def resolve (c : Configuration) (r : Reference) : Except CompileError (List Resolved) :=
  (c.objects.resolve r.zone r.name).mapError (.cyclicAddresses r.zone)

/-- What references come to, each worked out once. -/
abbrev Resolutions := Table Reference (Except CompileError (List Resolved))

/-- The active ones of some policies. -/
def active (policies : List Policy) : List Policy := policies.filter (·.isActive)

/-- What the references of the active policies come to. -/
def resolutions (c : Configuration) (policies : List Policy) : Resolutions :=
  .tabulate c.resolve ((active policies).flatMap (·.references))

/-! ## Address lists -/

/-- The address lists so far. -/
structure Lists where
  /-- The entries. -/
  entries : List ListEntry := []
  /-- The references whose list has been filled. -/
  filled : List Reference := []
  /-- The first reference for each name of a list. -/
  owners : Table String Reference := .empty
  /-- The problems that were met. -/
  diagnostics : List Diagnostic := []
  /-- How many entries there are. -/
  entryCount : Nat := 0

/-- The entries of a reference's list. -/
def listEntries (r : Reference) (items : List Resolved) : List ListEntry :=
  items.map fun item => ⟨r.listName, item.address, item.name⟩

/-- The lists after a reference that comes to the given entries. -/
def Lists.add (l : Lists) (r : Reference) (items : List Resolved) : Lists :=
  if items = [] then
    { l with diagnostics := l.diagnostics ++ [⟨.notFound r.zone r.name, 0⟩] }
  else if items.length < 2 ∨ r ∈ l.filled then l
  else
    let owner := (l.owners.get? r.listName).getD r
    { entries := l.entries ++ listEntries r items
      filled := r :: l.filled
      owners := l.owners.update r.listName (·.getD r)
      diagnostics :=
        if owner = r then l.diagnostics
        else
          l.diagnostics ++ [⟨.sharedList r.zone r.name r.listName owner.zone owner.name, 0⟩]
      entryCount := l.entryCount + items.length }

/-- The lists after some references. -/
def addReferences (c : Configuration) (known : Resolutions) (l : Lists) (refs : List Reference) :
    Except CompileError Lists :=
  refs.foldlM (fun l r => do return l.add r (← known.valueOf c.resolve r)) l

/-- The address lists that the references of the active policies need. -/
def listsFrom (c : Configuration) (known : Resolutions) (policies : List Policy) :
    Except CompileError Lists :=
  c.addReferences known {} ((active policies).flatMap (·.references))

/-- The address lists of some policies, and the problems met. -/
def addressLists (c : Configuration) (policies : List Policy) :
    Except CompileError (List ListEntry × List Diagnostic) := do
  let l ← c.listsFrom (c.resolutions policies) policies
  return (l.entries, l.diagnostics)

/-! ## Rules -/

/-- One side of a rule. -/
inductive Endpoint where
  /-- A reference that comes to one address. -/
  | single (name : String) (address : Interface)
  /-- A reference that comes to several, by the name of its list. -/
  | list (name : String)
  deriving DecidableEq, Repr

namespace Endpoint

/-- The name that comments give the endpoint. -/
def label : Endpoint → String
  | .single name _ => name
  | .list name => name

/-- What the endpoint asks of an address. The address `0.0.0.0` stands for any. -/
def addressMatch : Endpoint → AddressMatch
  | .single _ address => if address.address = .zero then .any else .network address
  | .list name => .list name

/-- Whether the endpoint is a list. -/
def isList : Endpoint → Bool
  | .single _ _ => false
  | .list _ => true

/-- The endpoint of a reference that comes to the given entries, if it comes to any. -/
def ofResolved? (r : Reference) : List Resolved → Option Endpoint
  | [] => none
  | [item] => some (.single r.name item.address)
  | _ => some (.list r.listName)

end Endpoint

/-- The endpoints of references: single addresses first, then lists. -/
def endpoints (c : Configuration) (known : Resolutions) (refs : List Reference) :
    Except CompileError (List Endpoint) := do
  let found ← refs.mapM fun r => return Endpoint.ofResolved? r (← known.valueOf c.resolve r)
  let found := found.filterMap id
  return found.filter (!·.isList) ++ found.filter (·.isList)

/-- The name of the service that every packet belongs to. -/
def anyService : String := "ANY"

/-- The protocols of a service of a policy, and the definitions that give the ports. A service
without definitions has one pass without a protocol. -/
def servicePasses (c : Configuration) (policy : Int) (service : String) :
    Except CompileError (List WideText × List Definition) :=
  if service = anyService then .ok ([""], [])
  else
    match c.services.definitions service, c.services.protocols service with
    | .ok definitions, .ok protocols =>
      .ok (if protocols = [] then [""] else protocols, definitions)
    | .error (.leaf name), _ => .error (.unknownService policy name)
    | .error (.cycle chain name), _ => .error (.cyclicServices chain name)
    | _, .error (.leaf name) => .error (.unknownService policy name)
    | _, .error (.cycle chain name) => .error (.cyclicServices chain name)

/-- The ranges of one side that constrain ports, of the definitions for a protocol. Only TCP and
UDP have ports. -/
def portRanges (side : Definition → PortRange) (protocol : WideText)
    (definitions : List Definition) : List PortRange :=
  if protocol = "tcp" ∨ protocol = "udp" then
    ((definitions.filter (·.protocol = protocol)).map side).filter (· ≠ .full)
  else []

/-- The comment of a rule: number and name of the policy, and both endpoints. A name loses its
double quotes. -/
def ruleComment (p : Policy) (source destination : Endpoint) : String :=
  "ID: " ++ toString p.id
  ++ (if p.name = "" then "" else " - " ++ String.ofList (p.name.toList.filter (· ≠ '"')))
  ++ " - " ++ source.label ++ " -> " ++ destination.label

/-- The rule of a policy for a protocol and a pair of endpoints. -/
def rule (p : Policy) (definitions : List Definition) (protocol : WideText)
    (source destination : Endpoint) : Rule where
  chain := p.chain
  source := source.addressMatch
  destination := destination.addressMatch
  protocol := protocol
  sourcePorts := portRanges (·.source) protocol definitions
  destinationPorts := portRanges (·.destination) protocol definitions
  verdict := p.action.verdict
  log := p.log
  comment := ruleComment p source destination

/-- The rules of a policy for one of its services. -/
def serviceRules (c : Configuration) (p : Policy) (sources destinations : List Endpoint)
    (service : String) : Except CompileError (List Rule) := do
  let (protocols, definitions) ← c.servicePasses p.id service
  return protocols.flatMap fun protocol =>
    sources.flatMap fun source =>
      destinations.map fun destination => rule p definitions protocol source destination

/-- The rules of a policy. -/
def policyRules (c : Configuration) (known : Resolutions) (p : Policy) :
    Except CompileError PolicyRules := do
  let sources ← c.endpoints known p.sourceReferences
  let destinations ← c.endpoints known p.destinationReferences
  let rules ← p.services.mapM (c.serviceRules p sources destinations)
  return ⟨p.describe, rules.flatten⟩

/-- The rules of the active policies. -/
def rulesFrom (c : Configuration) (known : Resolutions) (policies : List Policy) :
    Except CompileError (List PolicyRules) :=
  (active policies).mapM (c.policyRules known)

/-- The rules of some policies. -/
def filterRules (c : Configuration) (policies : List Policy) :
    Except CompileError (List PolicyRules) :=
  c.rulesFrom (c.resolutions policies) policies

/-! ## Scripts -/

/-- How many rules some blocks have. -/
def countRules (blocks : List PolicyRules) : Nat := blocks.foldl (fun n b => n + b.rules.length) 0

/-- The script of some policies. -/
def compile (c : Configuration) (policies : List Policy) : Except CompileError Script := do
  let known := c.resolutions policies
  let l ← c.listsFrom known policies
  let blocks ← c.rulesFrom known policies
  return {
    lists := l.entries, blocks, diagnostics := l.diagnostics, listEntryCount := l.entryCount,
    ruleCount := countRules blocks }

/-! ## Reports -/

/-- What compiling reports. -/
inductive CompileEvent where
  /-- A reference is resolved. -/
  | resolution (event : AddressBook.ResolutionEvent)
  /-- A problem is met. -/
  | diagnostic (diagnostic : Diagnostic)
  deriving DecidableEq, Repr

/-- What filling the lists reports for references, after those of `seen`. Each reference is
resolved, and reports its resolution, only once. -/
def referenceEvents (c : Configuration) (known : Resolutions) (seen : List Reference) (l : Lists) :
    List Reference → List CompileEvent
  | [] => []
  | r :: refs =>
    let resolutions :=
      if r ∈ seen then [] else (c.objects.resolutionEvents r.zone r.name).map .resolution
    match known.valueOf c.resolve r with
    | .error _ => resolutions
    | .ok items =>
      let after := l.add r items
      resolutions ++ (after.diagnostics.drop l.diagnostics.length).map .diagnostic
        ++ referenceEvents c known (r :: seen) after refs

/-- What compiling some policies reports, in order, up to the failure if there is one. -/
def compileEvents (c : Configuration) (policies : List Policy) : List CompileEvent :=
  c.referenceEvents (c.resolutions policies) [] {} ((active policies).flatMap (·.references))

end Configuration

end ZoneFirewall
