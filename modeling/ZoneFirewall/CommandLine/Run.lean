import ZoneFirewall.CommandLine.Arguments
import ZoneFirewall.CommandLine.FileTree
import ZoneFirewall.Conversion
import ZoneFirewall.Script.Printer
import ZoneFirewall.Settings.Loading
import ZoneFirewall.Text.Lines
import ZoneFirewall.Text.Utf8

/-!
# A run of the program

A run is a function of the arguments, of the bytes on standard input, of the files and of the hosts
that are known. It ends with a script on standard output or in a file, a log, and the files as they
are afterwards. Standard input and standard output are UTF-8 like all files, whatever the
surroundings prefer, and bytes that are no UTF-8 are an error there as well.

* `Outcome`, `Ending`: what a run leaves behind, and how it ends.
* `Failure`: what can go wrong. Some failures are reported in the log, any other aborts the run.
* `run`: the run.
* `pathsOf`, `readsInput`: the files that a run can depend on, and whether it depends on standard
  input.
-/

namespace ZoneFirewall.CommandLine

/-! ## Outcomes -/

/-- What can go wrong in a run. -/
inductive Failure where
  /-- A file cannot be read or written. -/
  | file (error : FileError)
  /-- Bytes are no text. -/
  | decoding (error : Text.DecodeError)
  /-- A document holds no settings. -/
  | settings (error : SettingsError)
  /-- A configuration has no script. -/
  | conversion (error : ConvertError)
  /-- An option for a zone names none. -/
  | namelessZone
  /-- A script cannot be encoded. -/
  | unencodable

/-- The wording of the failure. -/
def Failure.message : Failure → String
  | .file error => error.message
  | .decoding error => error.message
  | .settings error => error.message
  | .conversion error => error.message
  | .namelessZone => "a zone has no name"
  | .unencodable => "surrogates not allowed"

/-- Whether a fault of a document is reported. Faults of values that are tagged by hand are not,
unless they lie in how a value is written. -/
def reportsFault : Yaml.DocumentError → Bool
  | .nesting => false
  | .escapeTooLarge => false
  | .emptyNumeral => false
  | .tooManyPlaces => false
  | .truth _ => false
  | .notATime => false
  | .timeOfMapping => false
  | _ => true

/-- Whether a failure to load settings, to read a configuration or to convert it is reported. Values
of a wrong shape or too deep in the settings and numbers that are too long are not. -/
def Failure.isReported : Failure → Bool
  | .file _ => true
  | .decoding _ => true
  | .settings (.document error) => reportsFault error
  | .settings .notMapping => false
  | .settings .notList => false
  | .settings .deepValue => false
  | .settings _ => true
  | .conversion (.settings _) => false
  | .conversion (.reading ⟨_, .numeral _⟩) => false
  | .conversion _ => true
  | .namelessZone => false
  | .unencodable => false

/-- How a run ends. -/
inductive Ending where
  /-- All is done. -/
  | done
  /-- A failure has been reported. -/
  | stopped
  /-- The arguments cannot be understood. -/
  | refused
  /-- A failure that is not reported. -/
  | aborted (failure : Failure)

/-- The exit status of a run that ends so. -/
def Ending.status : Ending → Nat
  | .done => 0
  | .stopped => 1
  | .refused => 2
  | .aborted _ => 1

/-- What a run leaves behind. -/
structure Outcome where
  /-- How it ends. -/
  ending : Ending
  /-- What is on standard output. -/
  output : String := ""
  /-- The log. -/
  log : List LogEntry := []
  /-- The files. -/
  files : FileTree

/-- An entry that says what is being done. -/
def infoEntry (message : String) : LogEntry := ⟨.info, message⟩

/-- The outcome of a run that ends with a failure; the message is what is reported of it. -/
def Outcome.failed (log : List LogEntry) (files : FileTree) (failure : Failure)
    (message : String) : Outcome :=
  if failure.isReported then { ending := .stopped, log := log ++ [⟨.error, message⟩], files }
  else { ending := .aborted failure, log, files }

/-! ## Inputs -/

/-- The text of some bytes. -/
def textOfBytes (bytes : List UInt8) : Except Failure String :=
  ((Text.decodeUtf8 bytes).map Text.unifyNewlines).mapError .decoding

/-- The text of a file. -/
def FileTree.readText (files : FileTree) (path : Path) : Except Failure String := do
  textOfBytes (← (files.read path).mapError .file)

namespace Arguments

/-- The settings: those of the document that is named, with what the arguments say in their
place. -/
def settings (a : Arguments) (files : FileTree) : Except Failure Settings := do
  let loaded ←
    match a.config with
    | none => pure {}
    | some path => (Settings.ofText (← files.readText (.ofText path))).mapError .settings
  return { loaded with
    zones := if a.zones.isEmpty then loaded.zones else (a.zones.filterMap id).map .ofString,
    allZones := a.allZones || loaded.allZones }

/-- Whether the configuration is read from standard input. -/
def fromStandardInput (a : Arguments) : Bool := a.input == "-"

/-- The text of the configuration. -/
def text (a : Arguments) (input : List UInt8) (files : FileTree) : Except Failure String :=
  if a.fromStandardInput then textOfBytes input else files.readText (.ofText a.input)

/-! ## Steps of a run -/

/-- The outcome once there is a script. A file is emptied before the script is encoded; standard
output is not touched by a script that cannot be. -/
def deliver (a : Arguments) (log : List LogEntry) (files : FileTree) (script : Script) : Outcome :=
  let count := script.diagnostics.length
  let closing := if count = 0 then [] else [infoEntry (toString count ++ " warning(s) reported")]
  match a.output with
  | none =>
    if script.isEncodable then
      { ending := .done, output := script.text, log := log ++ closing, files }
    else { ending := .aborted .unencodable, log, files }
  | some path =>
    let path := Path.ofText path
    match files.makeDirectories path.parent with
    | (files, some e) => { ending := .aborted (.file e), log, files }
    | (files, none) =>
      let bytes := if script.isEncodable then script.text.toUTF8.toList else []
      match files.write path bytes with
      | .error e => { ending := .aborted (.file e), log, files }
      | .ok files =>
        if script.isEncodable then
          { ending := .done,
            log :=
              log ++ infoEntry ("RouterOS script written to: " ++ path.text) :: closing,
            files }
        else { ending := .aborted .unencodable, log, files }

/-- Whether the zones of interest are asked for, and one of them has no name. -/
def lacksZone (a : Arguments) (settings : Settings) : Bool :=
  !settings.allZones && a.zones.contains none

/-- The outcome once there is a text. Zones are asked for when it has been read. -/
def runOn (a : Arguments) (log : List LogEntry) (files : FileTree) (hosts : Table String String)
    (settings : Settings) (text : String) : Outcome :=
  let resolver := if a.noResolve then none else some (Resolver.ofTable hosts)
  let conversion := conversion settings resolver text
  let log := log ++ conversion.log
  let nameless : Outcome := { ending := .aborted .namelessZone, log, files }
  match conversion.result, a.lacksZone settings with
  | .ok _, true => nameless
  | .error (.compiling _), true => nameless
  | .ok script, false => a.deliver log files script
  | .error e, _ => .failed log files (.conversion e) e.message

/-- The outcome once it is known whether there is an input. -/
def runFrom (a : Arguments) (log : List LogEntry) (input : List UInt8) (files : FileTree)
    (hosts : Table String String) (settings : Settings) : Outcome :=
  let name := if a.fromStandardInput then "<stdin>" else a.input
  let log := log ++ [infoEntry ("Reading ScreenOS config: " ++ name)]
  match a.text input files with
  | .error failure =>
    .failed log files failure ("Cannot read ScreenOS config: " ++ failure.message)
  | .ok text => a.runOn log files hosts settings text

/-- The outcome once there are settings. -/
def runWith (a : Arguments) (log : List LogEntry) (input : List UInt8) (files : FileTree)
    (hosts : Table String String) (settings : Settings) : Outcome :=
  let found := if a.fromStandardInput then .ok true else files.contains (.ofText a.input)
  match found with
  | .error e => { ending := .aborted (.file e), log, files }
  | .ok true => a.runFrom log input files hosts settings
  | .ok false =>
    { ending := .stopped, log := log ++ [⟨.error, "Input file not found: " ++ a.input⟩], files }

/-- The outcome of writing a document of settings to start from. -/
def writeTemplate (path : Path) (files : FileTree) : Outcome :=
  match files.write path Settings.template.toUTF8.toList with
  | .error e => { ending := .aborted (.file e), files }
  | .ok files =>
    { ending := .done, log := [infoEntry ("Settings template written to: " ++ path.text)], files }

/-- The outcome of a run with these arguments, its log in full. -/
def runFully (a : Arguments) (input : List UInt8) (files : FileTree)
    (hosts : Table String String) : Outcome :=
  match a.initConfig with
  | some path => writeTemplate (.ofText path) files
  | none =>
    let log := a.config.toList.map fun path =>
      infoEntry ("Loading settings from: " ++ (Path.ofText path).text)
    match a.settings files with
    | .error failure => .failed log files failure ("Cannot load settings: " ++ failure.message)
    | .ok settings => a.runWith log input files hosts settings

/-- The outcome of a run with these arguments. -/
def run (a : Arguments) (input : List UInt8) (files : FileTree) (hosts : Table String String) :
    Outcome :=
  let outcome := a.runFully input files hosts
  { outcome with log := outcome.log.filter fun e => a.verbose || e.level ≠ .debug }

end Arguments

/-- The run of the program. -/
def run (arguments : List String) (input : List UInt8) (files : FileTree)
    (hosts : Table String String) : Outcome :=
  match Request.ofArguments arguments with
  | .refuse => { ending := .refused, files }
  | .showHelp => { ending := .done, output := helpText, files }
  | .showVersion => { ending := .done, output := versionText, files }
  | .run a => a.run input files hosts

/-! ## What a run depends on -/

/-- The paths that the arguments name. -/
def pathsOf (arguments : List String) : List Path :=
  match Request.ofArguments arguments with
  | .run a =>
    ([a.initConfig, a.config, some a.input, a.output].filterMap id).map Path.ofText
  | _ => []

/-- Whether the run depends on standard input. -/
def readsInput (arguments : List String) : Bool :=
  match Request.ofArguments arguments with
  | .run a => a.initConfig.isNone && a.fromStandardInput
  | _ => false

end ZoneFirewall.CommandLine
