import ZoneFirewall.Text.DecimalDigit
import ZoneFirewall.Text.Lines

/-!
# Arguments

The arguments name an input, which may be left out, and options in any order. An option with a
value takes it from the next argument, or after an equals sign, or, if it is a single letter, from
what follows the letter. Letters without values may stand together behind one hyphen, and long
options may be cut short as long as they can be told apart. After `--` nothing is an option.

In three corners readers of options differ, and this one follows the older rules. Two hyphens that
are attached to an option as its value are no value: `--zone=--` and `-z--` name no zone. Behind a
letter without a value, an equals sign and more letters are these letters: `-v=o` is `-vo`. Behind
letters that stand together, an equals sign is part of the value: `-vz=A` names the zone `=A`. By
the newer rules the zones would be `--` and `A`, and `-v=o` would be refused.

* `Arguments`: what the arguments ask for.
* `Word.ofText?`: what a single argument is. `Step.ofWords`: options joined with their values.
* `Request`, `Request.ofArguments`: what is to be done.
* `helpText`, `versionText`: what is shown on request.
-/

namespace ZoneFirewall.CommandLine

/-- What the arguments ask for. -/
structure Arguments where
  /-- The path of the configuration, a hyphen for standard input. -/
  input : String := "-"
  /-- The path of the script, if it is not for standard output. -/
  output : Option String := none
  /-- The zones of interest, `none` where the option for one names none. -/
  zones : List (Option String) := []
  /-- Whether all policies are converted. -/
  allZones : Bool := false
  /-- The path of the settings. -/
  config : Option String := none
  /-- The path for a document of settings to start from. -/
  initConfig : Option String := none
  /-- Whether hosts are not looked up. -/
  noResolve : Bool := false
  /-- Whether the log says more. -/
  verbose : Bool := false
  deriving DecidableEq, Repr

/-- What is to be done. -/
inductive Request where
  /-- The arguments cannot be understood. -/
  | refuse
  /-- The use of the program is asked for. -/
  | showHelp
  /-- The version of the program is asked for. -/
  | showVersion
  /-- A conversion, or whatever else the arguments ask for. -/
  | run (arguments : Arguments)
  deriving DecidableEq, Repr

/-! ## Options -/

/-- The options. -/
inductive OptionName where
  /-- Asks for the use of the program. -/
  | help
  /-- Names the script. -/
  | output
  /-- Names a zone. -/
  | zone
  /-- Converts all policies. -/
  | allZones
  /-- Names the settings. -/
  | config
  /-- Writes a document of settings to start from. -/
  | initConfig
  /-- Looks up no hosts. -/
  | noResolve
  /-- Lets the log say more. -/
  | verbose
  /-- Asks for the version of the program. -/
  | version
  deriving DecidableEq, Repr

/-- The letters of the options that have one. -/
def letters : List (Char × OptionName) :=
  [('h', .help), ('o', .output), ('z', .zone), ('c', .config), ('v', .verbose)]

/-- The words of the options. -/
def words : List (String × OptionName) :=
  [ ("--help", .help), ("--output", .output), ("--zone", .zone), ("--all-zones", .allZones),
    ("--config", .config), ("--init-config", .initConfig), ("--no-resolve", .noResolve),
    ("--verbose", .verbose), ("--version", .version) ]

/-- Whether an option has a value. -/
def OptionName.hasValue : OptionName → Bool
  | .output => true
  | .zone => true
  | .config => true
  | .initConfig => true
  | _ => false

/-- The option of a letter. -/
def letter? (c : Char) : Option OptionName := (letters.find? (·.1 = c)).map (·.2)

/-! ## Single arguments -/

/-- What an argument is. A text may be attached to an option in the same argument. -/
inductive Word where
  /-- An input, or a value for the option before it. -/
  | plain (text : String)
  /-- An option that is a letter. -/
  | letter (name : OptionName) (attached : Option (List Char))
  /-- An option that is a word. -/
  | long (name : OptionName) (attached : Option (List Char))
  /-- An option that there is none of. -/
  | unknown

/-- A text before the first equals sign, and what is attached behind it. -/
def splitEquals (cs : List Char) : List Char × Option (List Char) :=
  match cs.dropWhile (· ≠ '=') with
  | [] => (cs, none)
  | _ :: after => (cs.takeWhile (· ≠ '='), some after)

/-- What is attached to a letter that these characters follow. Between the two an equals sign may
stand. -/
def attachedText : List Char → Option (List Char)
  | [] => none
  | '=' :: after => some after
  | cs => some cs

/-- Whether characters behind a hyphen are a number. -/
def isNumber (cs : List Char) : Bool :=
  let whole := cs.takeWhile Text.isDigit
  match cs.dropWhile Text.isDigit with
  | [] => whole ≠ []
  | ['\n'] => whole ≠ []
  | '.' :: part =>
    let rest := part.dropWhile Text.isDigit
    part.takeWhile Text.isDigit ≠ [] && (rest = [] || rest = ['\n'])
  | _ => false

/-- What an argument is that starts with a hyphen and is no option that there is. -/
def strayWord (text : String) (cs : List Char) : Word :=
  if isNumber cs || cs.contains ' ' then .plain text else .unknown

/-- What an argument is; `none` for a word that more than one option starts with. -/
def Word.ofText? (text : String) : Option Word :=
  match text.toList with
  | '-' :: '-' :: cs =>
    let (name, attached) := splitEquals ('-' :: '-' :: cs)
    match words.find? (·.1 = String.ofList name) with
    | some (_, option) => some (.long option attached)
    | none =>
      match words.filter fun w => name.isPrefixOf w.1.toList with
      | [] => some (strayWord text ('-' :: cs))
      | [(_, option)] => some (.long option attached)
      | _ => none
  | '-' :: c :: cs =>
    match letter? c with
    | some option => some (.letter option (attachedText cs))
    | none => some (strayWord text (c :: cs))
  | _ => some (.plain text)

/-! ## Options within an argument -/

/-- Where an option has its value from. -/
inductive Value where
  /-- The next argument. -/
  | next
  /-- The text that is attached to the option; there is none if that is `--`. -/
  | attached (text : Option String)
  deriving DecidableEq, Repr

/-- What one argument asks for. -/
structure Asked where
  /-- The options without values, in order. -/
  flags : List OptionName := []
  /-- The option with a value at the end. -/
  valued : Option (OptionName × Value) := none

/-- The value of an option to which a text may be attached. Two hyphens are no value. -/
def Value.ofAttached : Option (List Char) → Value
  | none => .next
  | some ['-', '-'] => .attached none
  | some text => .attached (some (String.ofList text))

/-- What letters behind one hyphen ask for, the first of which is given together with what follows
it; `none` if there is no such option. -/
def askedByLetters? (name : OptionName) : List Char → Option Asked
  | [] => some (if name.hasValue then { valued := some (name, .next) } else { flags := [name] })
  | c :: cs =>
    if name.hasValue then some { valued := some (name, .ofAttached (some (c :: cs))) }
    else do
      let asked ← askedByLetters? (← letter? c) cs
      return { asked with flags := name :: asked.flags }

/-- What an option that is a letter asks for; `none` if something is attached to it that cannot
be. What is attached to a letter without a value is more letters. -/
def askedByLetter? (name : OptionName) (attached : Option (List Char)) : Option Asked :=
  if name.hasValue then some { valued := some (name, .ofAttached attached) }
  else if attached = some [] then none
  else askedByLetters? name (attached.getD [])

/-- What an option that is a word asks for; `none` if something is attached to an option that cannot
have it. -/
def askedByWord? (name : OptionName) (attached : Option (List Char)) : Option Asked :=
  if name.hasValue then some { valued := some (name, .ofAttached attached) }
  else
    match attached with
    | none => some { flags := [name] }
    | some _ => none

/-! ## Steps -/

/-- What an argument does, or an option together with the argument that is its value. -/
inductive Step where
  /-- Names the input, if it has not been named. -/
  | plain (text : String)
  /-- Sets options without values, in order, and then one with a value if there is one. -/
  | options (flags : List OptionName) (valued : Option (OptionName × Option String))
  /-- Nothing can be done with it. -/
  | surplus
  /-- An option has no value, or one that it cannot have. -/
  | refuse

/-- What an option does; its value, unless attached, is `next`. The flag says whether `next` is
used. -/
def Step.ofAsked (asked : Option Asked) (next : Option String) : Step × Bool :=
  match asked with
  | none => (.refuse, false)
  | some asked =>
    match asked.valued with
    | none => (.options asked.flags none, false)
    | some (name, .attached value) => (.options asked.flags (some (name, value)), false)
    | some (name, .next) =>
      match next with
      | some value => (.options asked.flags (some (name, some value)), true)
      | none => (.refuse, false)

/-- What a word asks for if it is an option. -/
def Word.asked? : Word → Option (Option Asked)
  | .letter name attached => some (askedByLetter? name attached)
  | .long name attached => some (askedByWord? name attached)
  | _ => none

/-- The text of a word that is no option. -/
def Word.plainText? : Word → Option String
  | .plain text => some text
  | _ => none

/-- The steps of some arguments; `taken` says that the first of them is the value of an option. -/
def Step.ofWords (taken : Bool) : List Word → List Step
  | [] => []
  | w :: rest =>
    if taken then ofWords false rest
    else
      match w with
      | .plain text => .plain text :: ofWords false rest
      | .unknown => .surplus :: ofWords false rest
      | w =>
        let (step, used) := ofAsked (w.asked?.getD none) (rest.head?.bind Word.plainText?)
        step :: ofWords used rest

/-! ## Requests -/

/-- The arguments with an option set that has no value. -/
def Arguments.withFlag (a : Arguments) : OptionName → Arguments
  | .allZones => { a with allZones := true }
  | .noResolve => { a with noResolve := true }
  | .verbose => { a with verbose := true }
  | _ => a

/-- The arguments with an option set to a value, or to none. -/
def Arguments.withValue (a : Arguments) (name : OptionName) (value : Option String) : Arguments :=
  match name with
  | .output => { a with output := value }
  | .zone => { a with zones := a.zones ++ [value] }
  | .config => { a with config := value }
  | .initConfig => { a with initConfig := value }
  | _ => a

/-- What the arguments so far ask for. -/
structure Progress where
  /-- The arguments. -/
  arguments : Arguments := {}
  /-- Whether the input has been named. -/
  inputNamed : Bool := false
  /-- Whether the last argument named the input. -/
  inputLast : Bool := false
  /-- Whether there is an argument that nothing can be done with. -/
  surplus : Bool := false

/-- The progress after an argument that is no option. -/
def Progress.plain (p : Progress) (text : String) : Progress :=
  if p.inputNamed then { p with surplus := true }
  else
    { p with
      arguments := { p.arguments with input := text }, inputNamed := true, inputLast := true }

/-- The progress after options without values, or the request that one of them makes. -/
def Progress.flags (p : Progress) : List OptionName → Except Request Progress
  | [] => .ok p
  | .help :: _ => .error .showHelp
  | .version :: _ => .error .showVersion
  | name :: rest => Progress.flags { p with arguments := p.arguments.withFlag name } rest

/-- The progress after a step, or the request that it makes. -/
def Progress.step (p : Progress) : Step → Except Request Progress
  | .plain text => .ok (p.plain text)
  | .surplus => .ok { p with surplus := true, inputLast := false }
  | .refuse => .error .refuse
  | .options names valued => do
    let p ← p.flags names
    let p := { p with inputLast := false }
    match valued with
    | none => return p
    | some (name, value) => return { p with arguments := p.arguments.withValue name value }

/-- The progress after the arguments behind `--`. The input may come right before them or be the
only one of them. -/
def Progress.afterOptions (p : Progress) (rest : List String) : Progress :=
  if p.inputNamed then { p with surplus := p.surplus || !(p.inputLast && rest.isEmpty) }
  else rest.foldl plain p

/-- The request once all arguments have been taken. -/
def Progress.request (p : Progress) : Request :=
  if p.surplus then .refuse else .run p.arguments

/-- The request of the arguments of a program. -/
def Request.ofArguments (texts : List String) : Request :=
  match (texts.takeWhile (· ≠ "--")).mapM Word.ofText? with
  | none => .refuse
  | some words =>
    match (Step.ofWords false words).foldlM Progress.step {} with
    | .error request => request
    | .ok p =>
      match texts.dropWhile (· ≠ "--") with
      | [] => p.request
      | _ :: rest => (p.afterOptions rest).request

/-! ## Help -/

/-- The name of the program. -/
def programName : String := "screen2mtk"

/-- The name and the version of the program. -/
def versionText : String := programName ++ " 0.1.0\n"

/-- How the program is used. -/
def helpText : String :=
  Text.joinLines
    [ "usage: screen2mtk [-h] [-o OUTPUT] [-z ZONES] [--all-zones] [-c CONFIG]",
      "                  [--init-config PATH] [--no-resolve] [-v] [--version]",
      "                  [input]",
      "",
      "Convert a ScreenOS configuration export to MikroTik RouterOS firewall rules.",
      "",
      "positional arguments:",
      "  input                 Path to ScreenOS config export (default: standard",
      "                        input)",
      "",
      "options:",
      "  -h, --help            show this help message and exit",
      "  -o OUTPUT, --output OUTPUT",
      "                        Write the RouterOS script here (default: standard",
      "                        output)",
      "  -z ZONES, --zone ZONES",
      "                        Zone of interest, repeatable (default: Clients)",
      "  --all-zones           Convert policies of every zone",
      "  -c CONFIG, --config CONFIG",
      "                        Path to settings YAML",
      "  --init-config PATH    Write a settings template to PATH and exit",
      "  --no-resolve          Skip host name address objects instead of resolving",
      "                        them",
      "  -v, --verbose         Verbose logging",
      "  --version             show program's version number and exit" ]

end ZoneFirewall.CommandLine
