import ZoneFirewall.Configuration.Reading
import ZoneFirewall.Script.Compile
import ZoneFirewall.Settings.Basic

/-!
# Converting a configuration

The whole way from the text of a configuration to a script: the text is read over the catalog of
the settings, the policies of interest are kept, and they are compiled.

* `convert`: the script of a text. `ConvertError`: why there is none.
* `LogEntry`: what converting reports on its way.
* `Conversion`, `conversion`: the script and what is reported, worked out together.
  `conversion_result`: the script is that of `convert`.
-/

namespace ZoneFirewall

/-- Why a text has no script. -/
inductive ConvertError where
  /-- A short form of the settings is none. -/
  | settings (error : SpecError)
  /-- The text cannot be read. -/
  | reading (error : ReadError)
  /-- The policies cannot be compiled. -/
  | compiling (error : CompileError)

/-- The wording of the error. -/
def ConvertError.message : ConvertError → String
  | .settings error => error.message
  | .reading error => error.message
  | .compiling error => error.message

/-- The policies of a configuration that the settings keep. -/
def Settings.kept (s : Settings) (c : Configuration) : List Policy :=
  if s.allZones then c.policies else c.policiesOf s.zones

/-- The script of a configuration, the problems of reading it included. -/
def Configuration.script (c : Configuration) (policies : List Policy) :
    Except CompileError Script := do
  let script ← c.compile policies
  return { script with diagnostics := c.diagnostics ++ script.diagnostics }

/-- The script of a text. -/
def convert (settings : Settings) (resolver : Option Resolver) (text : String) :
    Except ConvertError Script := do
  let services ← settings.catalog.mapError .settings
  let configuration ← (Configuration.ofText services resolver text).mapError .reading
  (configuration.script (settings.kept configuration)).mapError .compiling

/-! ## The log -/

/-- How much a log entry matters. -/
inductive LogLevel where
  /-- Of use only for finding faults. -/
  | debug
  /-- What is being done. -/
  | info
  /-- Something is left out. -/
  | warning
  /-- The work stops. -/
  | error
  deriving DecidableEq, Repr

/-- The word for a level. -/
def LogLevel.word : LogLevel → String
  | .debug => "DEBUG"
  | .info => "INFO"
  | .warning => "WARNING"
  | .error => "ERROR"

/-- An entry of the log. -/
structure LogEntry where
  /-- How much it matters. -/
  level : LogLevel
  /-- What it says. -/
  message : String
  deriving DecidableEq, Repr

/-- The entry as it is written. -/
def LogEntry.text (e : LogEntry) : String := e.level.word ++ ": " ++ e.message

/-- The entry for a service that is replaced. -/
def redefinedEntry (name : Text.WideText) : LogEntry :=
  ⟨.debug, "Service '" ++ name.joined ++ "' redefined"⟩

/-- The entry for a diagnostic. -/
def diagnosticEntry (d : Diagnostic) : LogEntry := ⟨.warning, d.text⟩

/-- The entry for putting a service into the catalog. -/
def Settings.Event.entry : Settings.Event → LogEntry
  | .serviceRedefined name => redefinedEntry name
  | .serviceSet name specs =>
    let shown := Text.WideText.joinedWith ", " specs
    ⟨.debug, "Service '" ++ name.joined ++ "' set from settings: "
      ++ (if shown = "" then "(no ports)" else shown)⟩

/-- The entry for an event of reading. -/
def Reading.Event.entry : Reading.Event → LogEntry
  | .serviceRedefined name => redefinedEntry name
  | .diagnostic d => diagnosticEntry d

/-- The entry for an event of compiling. -/
def Configuration.CompileEvent.entry : Configuration.CompileEvent → LogEntry
  | .resolution (.unreadableInline name) => ⟨.debug, "Unparsable inline address '" ++ name ++ "'"⟩
  | .resolution (.resolvedGroup zone name count) =>
    ⟨.debug, "Resolved group " ++ zone ++ "/" ++ name ++ " to " ++ toString count ++ " address(es)"⟩
  | .diagnostic d => diagnosticEntry d

/-- The entry for a configuration that has been read. -/
def readEntry (c : Configuration) (lines : Nat) : LogEntry :=
  ⟨.info, "Read " ++ toString lines ++ " lines: " ++ toString c.policies.length ++ " policies, "
    ++ toString c.objects.size ++ " address objects, " ++ toString c.services.size ++ " services"⟩

/-- The entry for the choice of policies, if there was one. -/
def keptEntries (s : Settings) (c : Configuration) : List LogEntry :=
  if s.allZones then []
  else
    [⟨.info, "Kept " ++ toString (s.kept c).length ++ " of " ++ toString c.policies.length
      ++ " policies for zone(s) " ++ Text.WideText.joinedWith ", " s.zones⟩]

/-- The entry for a script. -/
def scriptEntry (s : Script) : LogEntry :=
  ⟨.info, "Emitted " ++ toString s.listEntryCount ++ " address-list entries and "
    ++ toString s.ruleCount ++ " filter rules for " ++ toString s.blocks.length ++ " policies"⟩

/-! ## Both together -/

/-- What becomes of a text. -/
structure Conversion where
  /-- What converting it reports, in order, up to the failure if there is one. -/
  log : List LogEntry
  /-- The script, or why there is none. -/
  result : Except ConvertError Script

/-- The conversion of a configuration, after what has been reported. -/
def Configuration.conversion (c : Configuration) (settings : Settings) (log : List LogEntry) :
    Conversion :=
  let policies := settings.kept c
  let log := log ++ (c.compileEvents policies).map (·.entry)
  match c.script policies with
  | .error e => ⟨log, .error (.compiling e)⟩
  | .ok script => ⟨log ++ [scriptEntry script], .ok script⟩

/-- The conversion of lines over a catalog, after what has been reported. -/
def Catalog.conversion (services : Catalog) (settings : Settings) (resolver : Option Resolver)
    (texts : List String) (log : List LogEntry) : Conversion :=
  let start : Reading := { configuration := { services } }
  let log := log ++ (start.events resolver texts).map (·.entry)
  match Configuration.ofLines services resolver texts with
  | .error e => ⟨log, .error (.reading e)⟩
  | .ok c => c.conversion settings (log ++ readEntry c texts.length :: keptEntries settings c)

/-- The conversion of a text. -/
def conversion (settings : Settings) (resolver : Option Resolver) (text : String) : Conversion :=
  let log := settings.events.map (·.entry)
  match settings.catalog with
  | .error e => ⟨log, .error (.settings e)⟩
  | .ok services => services.conversion settings resolver (Text.splitLines text) log

/-- What comes of a configuration is the script of the policies that are kept. -/
theorem Configuration.conversion_result (c : Configuration) (settings : Settings)
    (log : List LogEntry) :
    (c.conversion settings log).result
      = (c.script (settings.kept c)).mapError ConvertError.compiling := by
  simp only [Configuration.conversion]
  split
  · rename_i h
    rw [h]
    rfl
  · rename_i h
    rw [h]
    rfl

/-- What comes of lines is that of the configuration they are read as. -/
theorem Catalog.conversion_result (services : Catalog) (settings : Settings)
    (resolver : Option Resolver) (texts : List String) (log : List LogEntry) :
    (services.conversion settings resolver texts log).result
      = (do
        let c ← (Configuration.ofLines services resolver texts).mapError ConvertError.reading
        (c.script (settings.kept c)).mapError ConvertError.compiling) := by
  simp only [Catalog.conversion]
  split
  · rename_i h
    rw [h]
    rfl
  · rename_i c h
    rw [h, Configuration.conversion_result]
    rfl

/-- The result of a conversion is that of converting the text. -/
theorem conversion_result (settings : Settings) (resolver : Option Resolver) (text : String) :
    (conversion settings resolver text).result = convert settings resolver text := by
  simp only [conversion, convert]
  split
  · rename_i h
    rw [h]
    rfl
  · rename_i h
    rw [h, Catalog.conversion_result]
    rfl

end ZoneFirewall
