import Mathlib.Data.String.Basic
import ZoneFirewall.CommandLine.Run
import ZoneFirewall.Proofs.FileContents
import ZoneFirewall.Proofs.Outcomes

/-!
# A run delivers the whole script or nothing

A run goes through stages: the settings are loaded, the input is read, its text is converted, the
script is delivered. It either gets through all of them, or ends at one with nothing on standard
output and no file written.

* `Failure.kind`: what kind of error a failure is, whichever stage it is met at.
* `Arguments.Delivers`: **the script of the input is delivered**, once and as it is. `IsBarren`:
  **nothing is delivered.** `Arguments.Ends`: a run ends one way or the other, unless writing breaks
  off. `Arguments.HasRoomFor`: there is a place for the script where it is wanted.
* `ends_deliver`, `ends_runOn`, `ends_runFrom`, `ends_runWith`, `ends_runFully`: so it is from each
  stage on.
* `ending_runOn_of_reading`, `ending_runFully_of_settings` and so on: what is reported, stage by
  stage.
* `IsAllOrNothing`, `isAllOrNothing_iff`: **a run is all or nothing, and reports what can be
  expected to go wrong**, but for an input whose path is too long: there the run is broken off.
* `walk_ofText_of_long`, `not_isAllOrNothing_of_long`: a name of more than 255 bytes is such an
  input.
-/

namespace ZoneFirewall.CommandLine

open Yaml

/-! ## Kinds of failures -/

/-- What kind of error a failure is. -/
inductive FailureKind where
  /-- The system cannot do what it is asked for. -/
  | system
  /-- A value is none that is wanted; so are bytes that are no text. -/
  | value
  /-- A document is not written as it should be. -/
  | document
  /-- A configuration cannot be converted. -/
  | conversion
  /-- A number is out of range. -/
  | overflow
  /-- Something is looked up that is not there. -/
  | lookup
  /-- A value is of a shape that nothing can be done with. -/
  | shape
  /-- Values lie too deep within one another. -/
  | depth
  deriving DecidableEq, Repr

/-- The kind of an error of a document. -/
def documentKind : DocumentError → FailureKind
  | .numeral _ | .time _ | .escape => .value
  | .escapeTooLarge | .tooManyPlaces => .overflow
  | .emptyNumeral | .truth _ => .lookup
  | .notATime | .timeOfMapping => .shape
  | .nesting => .depth
  | .forbiddenCharacter | .token | .layout | .alias | .anchor | .tag | .key | .merge => .document

/-- The kind of an error of settings. -/
def settingsKind : SettingsError → FailureKind
  | .document error => documentKind error
  | .documentNotMapping | .longNumber | .spec _ => .value
  | .notMapping | .notList => .shape
  | .deepValue => .depth

/-- The kind of an error of reading. A number with too many digits is a value of its own. -/
def readingKind : ReadFault → FailureKind
  | .numeral _ => .value
  | _ => .conversion

/-- The kind of a failure. -/
def Failure.kind : Failure → FailureKind
  | .file error => if error.fault = .endingCharacter then .value else .system
  | .decoding _ => .value
  | .settings error => settingsKind error
  | .conversion (.settings _) => .value
  | .conversion (.reading error) => readingKind error.fault
  | .conversion (.compiling _) => .conversion
  | .namelessZone => .shape
  | .unencodable => .value

/-- Whether a kind is expected when settings are loaded. -/
def FailureKind.isExpected : FailureKind → Bool
  | .system | .value | .document => true
  | _ => false

/-- Of the errors of documents, those that are expected are reported. -/
theorem reportsFault_eq (e : DocumentError) : reportsFault e = (documentKind e).isExpected := by
  cases e <;> rfl

/-- Of the errors of settings, those that are expected are reported. -/
theorem isReported_settings (e : SettingsError) :
    (Failure.settings e).isReported = (settingsKind e).isExpected := by
  cases e with
  | document e => exact reportsFault_eq e
  | _ => rfl

/-! ## Two ways to end -/

/-- Nothing is delivered: at most there are new directories. -/
structure IsBarren (files : FileTree) (o : Outcome) : Prop where
  /-- The exit status tells of a failure. -/
  status : o.ending.status ≠ 0
  /-- There is nothing on standard output. -/
  output : o.output = ""
  /-- No file is new or changed. -/
  files : files.AddsDirectories o.files

namespace Arguments

variable {a : Arguments} {log : List LogEntry} {input : List UInt8} {files files' : FileTree}
  {hosts : Table String String} {settings : Settings} {text : String} {script : Script}
  {failure : Failure} {message : String} {o : Outcome}

/-- What hosts are looked up with. -/
def resolver (a : Arguments) (hosts : Table String String) : Option Resolver :=
  if a.noResolve then none else some (Resolver.ofTable hosts)

/-- A script is where the arguments want it, and nothing else is. -/
def Receives (a : Arguments) (files : FileTree) (script : Script) (o : Outcome) : Prop :=
  match a.output with
  | none => o.output = script.text ∧ o.files = files
  | some path => o.output = "" ∧ files.SetsFile o.files (.ofText path) script.text.toUTF8.toList

/-- A script can be put where the arguments want it: it can be encoded, and if it is wanted in a
file, the directories on the way can be made, and the file can be opened. -/
def HasRoomFor (a : Arguments) (files : FileTree) (script : Script) : Prop :=
  script.isEncodable ∧ ∀ path, a.output = some path → ∃ made written,
    files.makeDirectories (Path.ofText path).parent = (made, none) ∧
      made.write (.ofText path) script.text.toUTF8.toList = .ok written

/-- The input has a script: it can be read, and converted with the settings in effect. -/
def Converts (a : Arguments) (input : List UInt8) (files : FileTree) (hosts : Table String String)
    (script : Script) : Prop :=
  ∃ settings text, a.settings files = .ok settings ∧ a.lacksZone settings = false ∧
    a.text input files = .ok text ∧ convert settings (a.resolver hosts) text = .ok script

/-- The script of the input is delivered. -/
def Delivers (a : Arguments) (input : List UInt8) (files : FileTree) (hosts : Table String String)
    (o : Outcome) : Prop :=
  ∃ script, a.Converts input files hosts script ∧ o.ending = .done ∧ a.Receives files script o

/-- Writing the script of the input breaks off: the file is open, but the script is none that can be
encoded. Then the file is empty, whatever was in it. -/
def BreaksOff (a : Arguments) (input : List UInt8) (files : FileTree) (hosts : Table String String)
    (o : Outcome) : Prop :=
  ∃ script path, a.Converts input files hosts script ∧ script.isEncodable = false ∧
    a.output = some path ∧ o.ending = .aborted .unencodable ∧ o.output = "" ∧
      files.SetsFile o.files (.ofText path) []

/-- The script of the input is delivered, or nothing is, or writing breaks off. -/
def Ends (a : Arguments) (input : List UInt8) (files : FileTree) (hosts : Table String String)
    (o : Outcome) : Prop :=
  a.Delivers input files hosts o ∨ IsBarren files o ∨ a.BreaksOff input files hosts o

/-! ## Failures -/

/-- A failure that is reported or aborts the run delivers nothing. -/
theorem isBarren_failed : IsBarren files (.failed log files failure message) := by
  unfold Outcome.failed
  split
  · exact ⟨Nat.one_ne_zero, rfl, .refl _⟩
  · exact ⟨Nat.one_ne_zero, rfl, .refl _⟩

/-- So does one that aborts it with some directories made. -/
theorem isBarren_aborted (h : files.AddsDirectories files') :
    IsBarren files { ending := .aborted failure, log, files := files' } :=
  ⟨Nat.one_ne_zero, rfl, h⟩

/-- A failure that is reported stops the run. -/
theorem ending_failed (h : failure.isReported) :
    (Outcome.failed log files failure message).ending = .stopped := by
  unfold Outcome.failed
  rw [if_pos h]

/-! ## The script -/

/-- **A script is delivered as it is, or nothing is.** Directories may be left that were made for a
file which cannot be written, or for another directory which cannot be made. -/
theorem ends_deliver (hscript : a.Converts input files hosts script) :
    a.Ends input files hosts (a.deliver log files script) := by
  unfold deliver
  rcases hpath : a.output with _ | path
  · simp only
    split
    · refine .inl ⟨script, hscript, rfl, ?_⟩
      unfold Receives
      rw [hpath]
      exact ⟨rfl, rfl⟩
    · exact .inr (.inl (isBarren_aborted (.refl _)))
  · have hnew := FileTree.addsDirectories_makeDirectories files (Path.ofText path).parent
    simp only
    rcases hmade : files.makeDirectories (Path.ofText path).parent with ⟨made, _ | e⟩
    · rw [hmade] at hnew
      simp only
      -- A file is opened, and so emptied, before it is known whether the script can be encoded.
      rcases hencodable : script.isEncodable with _ | _
      · rcases hwritten : made.write (.ofText path) [] with e | written
        · simp only [Bool.false_eq_true, if_false, hwritten]
          exact .inr (.inl (isBarren_aborted hnew))
        · simp only [Bool.false_eq_true, if_false, hwritten]
          exact .inr (.inr ⟨script, path, hscript, hencodable, hpath, rfl, rfl,
            .of_addsDirectories hnew (FileTree.setsFile_write hwritten)⟩)
      · rcases hwritten : made.write (.ofText path) script.text.toUTF8.toList with e | written
        · simp only [if_true, hwritten]
          exact .inr (.inl (isBarren_aborted hnew))
        · simp only [if_true, hwritten]
          refine .inl ⟨script, hscript, rfl, ?_⟩
          unfold Receives
          rw [hpath]
          exact ⟨rfl, .of_addsDirectories hnew (FileTree.setsFile_write hwritten)⟩
    · rw [hmade] at hnew
      exact .inr (.inl (isBarren_aborted hnew))

/-- A script for which there is room is delivered. -/
theorem ending_deliver_of_hasRoomFor (h : a.HasRoomFor files script) :
    (a.deliver log files script).ending = .done := by
  obtain ⟨hencodable, hroom⟩ := h
  unfold deliver
  rcases hpath : a.output with _ | path
  · simp only [hencodable, if_true]
  · obtain ⟨made, written, hmade, hwritten⟩ := hroom path hpath
    simp only [hmade, hencodable, if_true, hwritten]

/-! ## The conversion -/

/-- A text that has a script comes to be delivered. -/
theorem runOn_of_convert (hscript : convert settings (a.resolver hosts) text = .ok script)
    (hzones : a.lacksZone settings = false) :
    ∃ log', a.runOn log files hosts settings text = a.deliver log' files script := by
  have hresult := (conversion_result settings (a.resolver hosts) text).trans hscript
  unfold runOn
  unfold resolver at hresult
  simp only [hresult, hzones]
  exact ⟨_, rfl⟩

/-- A text that is converted, or the failure of its conversion. -/
theorem ends_runOn (hsettings : a.settings files = .ok settings)
    (htext : a.text input files = .ok text) :
    a.Ends input files hosts (a.runOn log files hosts settings text) := by
  have hresult := conversion_result settings (a.resolver hosts) text
  unfold runOn
  simp only
  split
  · exact .inr (.inl (isBarren_aborted (.refl _)))
  · exact .inr (.inl (isBarren_aborted (.refl _)))
  · rename_i script hok hzones
    exact ends_deliver ⟨settings, text, hsettings, hzones, htext, hresult.symm.trans hok⟩
  · exact .inr (.inl isBarren_failed)

/-- **What is wrong with a configuration is reported.** -/
theorem ending_runOn_of_reading {e : ReadError}
    (h : convert settings (a.resolver hosts) text = .error (.reading e))
    (hkind : readingKind e.fault = .conversion) :
    (a.runOn log files hosts settings text).ending = .stopped := by
  have hresult := (conversion_result settings (a.resolver hosts) text).trans h
  obtain ⟨line, fault⟩ := e
  have hreported : (Failure.conversion (.reading ⟨line, fault⟩)).isReported := by
    cases fault with
    | numeral => cases hkind
    | _ => rfl
  unfold runOn
  unfold resolver at hresult
  simp only [hresult]
  exact ending_failed hreported

/-- **What stands in the way of a script is reported**, unless a zone of interest has no name: then
it is not come to. -/
theorem ending_runOn_of_compiling {e : CompileError}
    (h : convert settings (a.resolver hosts) text = .error (.compiling e))
    (hzones : a.lacksZone settings = false) :
    (a.runOn log files hosts settings text).ending = .stopped := by
  have hresult := (conversion_result settings (a.resolver hosts) text).trans h
  unfold runOn
  unfold resolver at hresult
  simp only [hresult, hzones]
  exact ending_failed rfl

/-! ## The input -/

/-- Bytes that are no text are reported. -/
theorem isReported_of_textOfBytes {bytes : List UInt8} (h : textOfBytes bytes = .error failure) :
    failure.isReported := by
  unfold textOfBytes at h
  rcases hdecoded : (Text.decodeUtf8 bytes).map Text.unifyNewlines with e | decoded
  · rw [hdecoded] at h
    cases h
    rfl
  · rw [hdecoded] at h
    cases h

/-- So is a file that has no text. -/
theorem isReported_of_readText {p : Path} (h : files.readText p = .error failure) :
    failure.isReported := by
  unfold FileTree.readText at h
  rcases bind_eq_error.1 h with hread | ⟨bytes, -, hbytes⟩
  · rcases hfile : files.read p with e | bytes
    · rw [hfile] at hread
      cases hread
      rfl
    · rw [hfile] at hread
      cases hread
  · exact isReported_of_textOfBytes hbytes

/-- So is an input that has none. -/
theorem isReported_of_text (h : a.text input files = .error failure) : failure.isReported := by
  unfold text at h
  split at h
  · exact isReported_of_textOfBytes h
  · exact isReported_of_readText h

/-- From the reading of its input on, a run ends one way or the other. -/
theorem ends_runFrom (hsettings : a.settings files = .ok settings) :
    a.Ends input files hosts (a.runFrom log input files hosts settings) := by
  unfold runFrom
  simp only
  split
  · exact .inr (.inl isBarren_failed)
  · rename_i text htext
    exact ends_runOn hsettings htext

/-- An input without a text stops it. -/
theorem ending_runFrom_of_text (h : a.text input files = .error failure) :
    (a.runFrom log input files hosts settings).ending = .stopped := by
  unfold runFrom
  simp only [h]
  exact ending_failed (isReported_of_text h)

/-! ## Whether there is an input -/

/-- The input is not standard input, and its path, or a name on it, has too many bytes. -/
def HasLongInput (a : Arguments) (files : FileTree) : Prop :=
  a.fromStandardInput = false ∧ files.walk (.ofText a.input) = .error .nameTooLong

/-- Only a path that is too long is a fault of the question whether there is something at it. -/
theorem contains_eq_error {p : Path} {e : FileError} (h : files.contains p = .error e) :
    files.walk p = .error .nameTooLong := by
  unfold FileTree.contains at h
  split at h
  · assumption
  · cases h
  · cases h

/-- Where there is a text there is something. -/
theorem contains_of_readText {p : Path} (h : files.readText p = .ok text) :
    files.contains p = .ok true := by
  obtain ⟨bytes, hbytes, -⟩ := bind_eq_ok.1 h
  unfold FileTree.read at hbytes
  unfold FileTree.contains
  split at hbytes
  · cases hbytes
  · rename_i place hwalk
    rw [hwalk]
    split at hbytes
    · cases hbytes
    · cases hbytes
    · rename_i hentry
      simp only [hentry, Option.isSome_some]

/-- An input whose path is too long has no text. -/
theorem text_of_hasLongInput (h : a.HasLongInput files) :
    a.text input files = .error (.file ⟨.nameTooLong, .ofText a.input⟩) := by
  unfold text FileTree.readText FileTree.read
  simp only [h.1, h.2, Bool.false_eq_true, if_false]
  rfl

/-- Once there are settings, a run ends one way or the other. -/
theorem ends_runWith (hsettings : a.settings files = .ok settings) :
    a.Ends input files hosts (a.runWith log input files hosts settings) := by
  unfold runWith
  simp only
  split
  · exact .inr (.inl (isBarren_aborted (.refl _)))
  · exact ends_runFrom hsettings
  · exact .inr (.inl ⟨Nat.one_ne_zero, rfl, .refl _⟩)

/-- **An input that cannot be read is reported**, missing or not, unless its path is too long. -/
theorem ending_runWith_of_text (h : a.text input files = .error failure)
    (hlong : ¬ a.HasLongInput files) :
    (a.runWith log input files hosts settings).ending = .stopped := by
  unfold runWith
  simp only
  split
  · rename_i e hfound
    split at hfound
    · cases hfound
    · rename_i hstandard
      exact absurd ⟨Bool.not_eq_true _ ▸ hstandard, contains_eq_error hfound⟩ hlong
  · exact ending_runFrom_of_text h
  · rfl

/-- The question whether there is an input is asked outside of what is guarded. -/
theorem ending_runWith_of_hasLongInput (h : a.HasLongInput files) :
    (a.runWith log input files hosts settings).ending ≠ .stopped := by
  unfold runWith
  unfold FileTree.contains
  simp only [h.1, h.2, Bool.false_eq_true, if_false]
  nofun

/-- A run whose input can be read gets to converting it. -/
theorem runWith_of_text (h : a.text input files = .ok text) :
    ∃ log', a.runWith log input files hosts settings
      = a.runOn log' files hosts settings text := by
  have hfound : (if a.fromStandardInput then .ok true else files.contains (.ofText a.input))
      = Except.ok (ε := FileError) true := by
    unfold Arguments.text at h
    split at h
    · rename_i hstandard
      exact if_pos hstandard
    · rename_i hstandard
      rw [if_neg hstandard, contains_of_readText h]
  unfold runWith runFrom
  simp only [hfound, h]
  exact ⟨_, rfl⟩

/-! ## The settings -/

/-- **Settings that cannot be loaded are reported** if the failure is of a kind that is expected. -/
theorem isReported_of_settings (h : a.settings files = .error failure)
    (hkind : failure.kind.isExpected) : failure.isReported := by
  unfold settings at h
  simp only at h
  split at h
  · cases h
  · rcases bind_eq_error.1 h with hread | ⟨text, -, hloaded⟩
    · exact isReported_of_readText hread
    · rcases hofText : Settings.ofText text with e | loaded
      · rw [hofText] at hloaded
        cases hloaded
        exact (isReported_settings e).trans hkind
      · rw [hofText] at hloaded
        cases hloaded

/-- A run that is asked for a conversion ends one way or the other. -/
theorem ends_runFully (hinit : a.initConfig = none) :
    a.Ends input files hosts (a.runFully input files hosts) := by
  unfold runFully
  simp only [hinit]
  split
  · exact .inr (.inl isBarren_failed)
  · rename_i settings hsettings
    exact ends_runWith hsettings

/-- Settings that cannot be loaded stop it if the failure is expected. -/
theorem ending_runFully_of_settings (hinit : a.initConfig = none)
    (h : a.settings files = .error failure) (hkind : failure.kind.isExpected) :
    (a.runFully input files hosts).ending = .stopped := by
  unfold runFully
  simp only [hinit, h]
  exact ending_failed (isReported_of_settings h hkind)

/-- With settings that can be loaded it goes on. -/
theorem runFully_of_settings (hinit : a.initConfig = none) (h : a.settings files = .ok settings) :
    ∃ log, a.runFully input files hosts = a.runWith log input files hosts settings := by
  unfold runFully
  simp only [hinit, h]
  exact ⟨_, rfl⟩

/-- The log has no part in how a run ends. -/
theorem Ends.withLog (h : a.Ends input files hosts o) (log : List LogEntry) :
    a.Ends input files hosts { o with log } := by
  rcases h with h | h | h
  · exact .inl h
  · exact .inr (.inl ⟨h.status, h.output, h.files⟩)
  · exact .inr (.inr h)

end Arguments

/-! ## Runs -/

variable {arguments : List String} {input : List UInt8} {files : FileTree}
  {hosts : Table String String} {a : Arguments} {settings : Settings}

/-- The arguments ask for a conversion, if they can be understood: not for help, for the version or
for settings to start from. -/
def AsksForConversion (arguments : List String) : Prop :=
  match Request.ofArguments arguments with
  | .refuse => True
  | .showHelp => False
  | .showVersion => False
  | .run a => a.initConfig = none

/-- A run delivers the script of its input or nothing, and reports what is wrong with the settings,
the input and the configuration. -/
structure IsAllOrNothing (arguments : List String) (input : List UInt8) (files : FileTree)
    (hosts : Table String String) : Prop where
  /-- If the run succeeds, the script of the input is delivered. -/
  delivers : (run arguments input files hosts).ending.status = 0 →
    ∃ a, Request.ofArguments arguments = .run a ∧
      a.Delivers input files hosts (run arguments input files hosts)
  /-- So it is if the input has a script and there is room for it. -/
  succeeds : ∀ a script, Request.ofArguments arguments = .run a →
    a.Converts input files hosts script → a.HasRoomFor files script →
      (run arguments input files hosts).ending = .done
  /-- If the run does not succeed, nothing is delivered, given that a file which can be opened can
  be written. -/
  isBarren : (run arguments input files hosts).ending.status ≠ 0 →
    (∀ a script, Request.ofArguments arguments = .run a → a.Converts input files hosts script →
      script.isEncodable) → IsBarren files (run arguments input files hosts)
  /-- Settings that cannot be loaded are reported. -/
  settings_reported : ∀ a failure, Request.ofArguments arguments = .run a →
    a.settings files = .error failure → failure.kind.isExpected →
      (run arguments input files hosts).ending = .stopped
  /-- An input that cannot be read is reported, missing or not. -/
  input_reported : ∀ a settings failure, Request.ofArguments arguments = .run a →
    a.settings files = .ok settings → a.text input files = .error failure →
      (run arguments input files hosts).ending = .stopped
  /-- What is wrong with the text of a configuration is reported. -/
  reading_reported : ∀ a settings text e, Request.ofArguments arguments = .run a →
    a.settings files = .ok settings → a.text input files = .ok text →
      convert settings (a.resolver hosts) text = .error (.reading e) →
        readingKind e.fault = .conversion → (run arguments input files hosts).ending = .stopped
  /-- What stands in the way of a script is reported, if it is come to. -/
  compiling_reported : ∀ a settings text e, Request.ofArguments arguments = .run a →
    a.settings files = .ok settings → a.text input files = .ok text →
      convert settings (a.resolver hosts) text = .error (.compiling e) →
        a.lacksZone settings = false → (run arguments input files hosts).ending = .stopped

/-- A run is that of the arguments that were understood. -/
theorem run_of_request (h : Request.ofArguments arguments = .run a) :
    run arguments input files hosts = a.run input files hosts := by
  unfold run
  rw [h]

/-- Who asks for a conversion does not ask for settings to start from. -/
theorem initConfig_of_asksForConversion (h : AsksForConversion arguments)
    (hrequest : Request.ofArguments arguments = .run a) : a.initConfig = none := by
  unfold AsksForConversion at h
  rw [hrequest] at h
  exact h

/-- Once there are settings, a run ends as the stage that follows. -/
theorem exists_ending_run (h : AsksForConversion arguments)
    (hrequest : Request.ofArguments arguments = .run a)
    (hsettings : a.settings files = .ok settings) : ∃ log,
      (run arguments input files hosts).ending
        = (a.runWith log input files hosts settings).ending := by
  obtain ⟨log, hlog⟩ : ∃ log,
      a.runFully input files hosts = a.runWith log input files hosts settings :=
    a.runFully_of_settings (initConfig_of_asksForConversion h hrequest) hsettings
  have hending := congrArg Outcome.ending hlog
  rw [run_of_request hrequest]
  exact ⟨log, hending⟩

/-- Once there is a text as well, it ends as its conversion. -/
theorem exists_ending_run_of_text {text : String} (h : AsksForConversion arguments)
    (hrequest : Request.ofArguments arguments = .run a)
    (hsettings : a.settings files = .ok settings) (htext : a.text input files = .ok text) :
    ∃ log, (run arguments input files hosts).ending
      = (a.runOn log files hosts settings text).ending := by
  obtain ⟨log, hending⟩ := exists_ending_run h hrequest hsettings
  obtain ⟨log', hlog⟩ := Arguments.runWith_of_text htext
  exact ⟨log', hending.trans (congrArg Outcome.ending hlog)⟩

/-- Arguments that cannot be understood have nothing delivered; any other run ends in its stages. -/
theorem ends_of_asksForConversion (h : AsksForConversion arguments) :
    IsBarren files (run arguments input files hosts) ∨
      ∃ a, Request.ofArguments arguments = .run a ∧
        a.Ends input files hosts (run arguments input files hosts) := by
  rcases hrequest : Request.ofArguments arguments with _ | _ | _ | a
  · unfold run
    rw [hrequest]
    exact .inl ⟨Nat.succ_ne_zero 1, rfl, .refl _⟩
  · unfold AsksForConversion at h
    rw [hrequest] at h
    exact h.elim
  · unfold AsksForConversion at h
    rw [hrequest] at h
    exact h.elim
  · rw [run_of_request hrequest]
    exact .inr ⟨a, rfl, (a.ends_runFully (initConfig_of_asksForConversion h hrequest)).withLog _⟩

/-- **A run that succeeds has delivered the script of its input.** -/
theorem exists_delivers_run (h : AsksForConversion arguments)
    (hstatus : (run arguments input files hosts).ending.status = 0) :
    ∃ a, Request.ofArguments arguments = .run a ∧
      a.Delivers input files hosts (run arguments input files hosts) := by
  rcases ends_of_asksForConversion h with
    hbarren | ⟨a, hrequest, hdelivers | hbarren | ⟨-, -, -, -, -, hending, -⟩⟩
  · exact absurd hstatus hbarren.status
  · exact ⟨a, hrequest, hdelivers⟩
  · exact absurd hstatus hbarren.status
  · rw [hending] at hstatus
    cases hstatus

/-- **A run that does not succeed has delivered nothing** if what it writes can be encoded. -/
theorem isBarren_run (h : AsksForConversion arguments)
    (hstatus : (run arguments input files hosts).ending.status ≠ 0)
    (hencodable : ∀ a script, Request.ofArguments arguments = .run a →
      a.Converts input files hosts script → script.isEncodable) :
    IsBarren files (run arguments input files hosts) := by
  rcases ends_of_asksForConversion h with
    hbarren | ⟨a, hrequest, ⟨-, -, hending, -⟩ | hbarren | ⟨script, -, hconverts, hnot, -⟩⟩
  · exact hbarren
  · rw [hending] at hstatus
    exact absurd rfl hstatus
  · exact hbarren
  · rw [hencodable a script hrequest hconverts] at hnot
    cases hnot

/-- An input whose path is too long cannot be read, but that is not reported. -/
theorem not_isAllOrNothing (h : AsksForConversion arguments)
    (hrequest : Request.ofArguments arguments = .run a)
    (hsettings : a.settings files = .ok settings) (hlong : a.HasLongInput files) :
    ¬ IsAllOrNothing arguments input files hosts := by
  intro hall
  obtain ⟨log, hending⟩ : ∃ log, (run arguments input files hosts).ending
      = (a.runWith log input files hosts settings).ending :=
    exists_ending_run h hrequest hsettings
  have hstopped :=
    hall.input_reported a settings _ hrequest hsettings (a.text_of_hasLongInput hlong)
  rw [hending] at hstopped
  exact a.ending_runWith_of_hasLongInput hlong hstopped

/-- **A run delivers the whole script or nothing, and reports what is wrong**, exactly if it does
not come to an input whose path is too long. -/
theorem isAllOrNothing_iff (h : AsksForConversion arguments) :
    IsAllOrNothing arguments input files hosts ↔
      ¬ ∃ a settings, Request.ofArguments arguments = .run a ∧ a.settings files = .ok settings ∧
        a.HasLongInput files := by
  constructor
  · rintro hall ⟨a, settings, hrequest, hsettings, hlong⟩
    exact not_isAllOrNothing h hrequest hsettings hlong hall
  intro hshort
  constructor
  case delivers => exact exists_delivers_run h
  case isBarren => exact isBarren_run h
  case succeeds =>
    rintro a script hrequest ⟨settings, text, hsettings, hzones, htext, hscript⟩ hroom
    obtain ⟨log, hending⟩ : ∃ log, (run arguments input files hosts).ending = _ :=
      exists_ending_run_of_text h hrequest hsettings htext
    obtain ⟨log', hdeliver⟩ := a.runOn_of_convert hscript hzones
    rw [hending, hdeliver]
    exact a.ending_deliver_of_hasRoomFor hroom
  case settings_reported =>
    intro a failure hrequest hfailure hkind
    rw [run_of_request hrequest]
    exact a.ending_runFully_of_settings (initConfig_of_asksForConversion h hrequest) hfailure hkind
  case input_reported =>
    intro a settings failure hrequest hsettings hfailure
    obtain ⟨log, hending⟩ : ∃ log, (run arguments input files hosts).ending = _ :=
      exists_ending_run h hrequest hsettings
    rw [hending]
    exact a.ending_runWith_of_text hfailure fun hlong =>
      hshort ⟨a, settings, hrequest, hsettings, hlong⟩
  case reading_reported =>
    intro a settings text e hrequest hsettings htext herror hkind
    obtain ⟨log, hending⟩ : ∃ log, (run arguments input files hosts).ending = _ :=
      exists_ending_run_of_text h hrequest hsettings htext
    rw [hending]
    exact a.ending_runOn_of_reading herror hkind
  case compiling_reported =>
    intro a settings text e hrequest hsettings htext herror hzones
    obtain ⟨log, hending⟩ : ∃ log, (run arguments input files hosts).ending = _ :=
      exists_ending_run_of_text h hrequest hsettings htext
    rw [hending]
    exact a.ending_runOn_of_compiling herror hzones

/-- A run from standard input into a file. -/
theorem isAllOrNothing_standard_input : AsksForConversion ["-o", "rules.rsc"] ∧
    IsAllOrNothing ["-o", "rules.rsc"] [] .empty .empty := by
  have hrequest : Request.ofArguments ["-o", "rules.rsc"] = .run { output := some "rules.rsc" } :=
    rfl
  have hasks : AsksForConversion ["-o", "rules.rsc"] := by
    unfold AsksForConversion
    rw [hrequest]
  refine ⟨hasks, (isAllOrNothing_iff hasks).2 ?_⟩
  rintro ⟨a, settings, ha, -, hnamed, -⟩
  rw [hrequest] at ha
  cases ha
  cases hnamed

/-! ## Names that are too long -/

/-- An argument that does not begin with a hyphen names the input. -/
theorem ofArguments_plain {text : String} (h : text.toList.head? ≠ some '-') :
    Request.ofArguments [text] = .run { input := text } := by
  have hne : text ≠ "--" := by
    rintro rfl
    exact h rfl
  have hword : Word.ofText? text = some (.plain text) := by
    unfold Word.ofText?
    split
    · rename_i hcs
      rw [hcs] at h
      exact absurd rfl h
    · rename_i hcs
      rw [hcs] at h
      exact absurd rfl h
    · rfl
  unfold Request.ofArguments
  rw [List.takeWhile_cons_of_pos (by simpa using hne),
    List.dropWhile_cons_of_pos (by simpa using hne)]
  simp only [List.takeWhile_nil, List.dropWhile_nil, List.mapM_cons, hword, List.mapM_nil]
  rfl

/-- A text without slashes is a path of one part. -/
theorem ofText_name {name : String} (hslash : '/' ∉ name.toList) (hempty : name ≠ "")
    (hdot : name ≠ ".") : Path.ofText name = ⟨"", [name]⟩ := by
  have hroot : Path.rootOf name.toList = "" := by
    have hnone : name.toList.takeWhile (· = '/') = [] := by
      rcases hcs : name.toList with _ | ⟨c, cs⟩
      · rfl
      · refine List.takeWhile_cons_of_neg fun hc => hslash ?_
        rw [hcs, of_decide_eq_true hc]
        exact List.mem_cons_self
    unfold Path.rootOf
    rw [hnone]
    rfl
  have hparts : Path.partsOf name.toList = [name] := by
    unfold Path.partsOf
    rw [List.splitOn_eq_singleton hslash, List.map_singleton, String.ofList_toList]
    exact List.filter_cons_of_pos (by simpa using ⟨hempty, hdot⟩)
  unfold Path.ofText
  rw [hroot, hparts]

/-- A name that is too long leads nowhere. -/
theorem walk_ofText_of_long {name : String} (hslash : '/' ∉ name.toList)
    (hending : '\x00' ∉ name.toList) (hlong : FileTree.nameLimit < name.utf8ByteSize) :
    files.walk (.ofText name) = .error .nameTooLong := by
  have hempty : name ≠ "" := by
    rintro rfl
    exact absurd hlong (Nat.not_lt_zero _)
  have hdot : name ≠ "." := by
    rintro rfl
    exact absurd hlong (by decide)
  have htext : (⟨"", [name]⟩ : Path).text = name := by
    unfold Path.text
    rw [if_neg (by simp), String.intercalate_singleton, String.empty_append]
  rw [ofText_name hslash hempty hdot]
  unfold FileTree.walk FileTree.fault?
  rw [htext, if_neg (by simpa using hending)]
  by_cases hpath : name.utf8ByteSize > FileTree.pathLimit
  · rw [if_pos hpath]
  · rw [if_neg hpath]
    unfold FileTree.walkFrom FileTree.entry?
    exact if_pos hlong

/-- So a run with nothing but such a name is broken off, whatever there is. -/
theorem not_isAllOrNothing_of_long {name : String} (hhyphen : name.toList.head? ≠ some '-')
    (hslash : '/' ∉ name.toList) (hending : '\x00' ∉ name.toList)
    (hlong : FileTree.nameLimit < name.utf8ByteSize) :
    AsksForConversion [name] ∧ ¬ IsAllOrNothing [name] input files hosts := by
  have hasks : AsksForConversion [name] := by
    unfold AsksForConversion
    rw [ofArguments_plain hhyphen]
  have hnamed : name ≠ "-" := by
    rintro rfl
    exact hhyphen rfl
  exact ⟨hasks, not_isAllOrNothing hasks (ofArguments_plain hhyphen) rfl
    ⟨beq_eq_false_iff_ne.2 hnamed, walk_ofText_of_long hslash hending hlong⟩⟩

/-- An input with a name of 256 characters. -/
theorem not_isAllOrNothing_long_name :
    AsksForConversion [String.ofList (List.replicate 256 'n')] ∧
      ¬ IsAllOrNothing [String.ofList (List.replicate 256 'n')] [] .empty .empty := by
  have hchars : (String.ofList (List.replicate 256 'n')).toList = List.replicate 256 'n' :=
    String.toList_ofList
  have hsize (n : Nat) : (String.ofList (List.replicate n 'n')).utf8ByteSize = n := by
    rw [String.utf8ByteSize_ofList]
    induction n with
    | zero => rfl
    | succ n ih => exact congrArg (· + 1) ih
  refine not_isAllOrNothing_of_long ?_ ?_ ?_ ?_
  · rw [hchars]
    nofun
  · rw [hchars]
    exact fun hslash => absurd (List.eq_of_mem_replicate hslash) (by decide)
  · rw [hchars]
    exact fun hending => absurd (List.eq_of_mem_replicate hending) (by decide)
  · rw [hsize]
    decide

end ZoneFirewall.CommandLine
