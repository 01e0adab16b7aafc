import ZoneFirewall.Settings.Basic
import ZoneFirewall.Yaml.Meaning

/-!
# Loading settings

Values are taken generously: a single text stands for a list of one, any other value for its text,
and whatever counts as false for what the settings are without a document. The short forms of
services are checked.

* `Loadable`: what has to be known of a value; a value by itself and a position in a document are
  looked at alike.
* `Settings.ofValue`: the settings of a value. `Settings.ofText`: the settings of a document.
* `SettingsError`: why there are none; `SettingsError.message`: the wording.
-/

namespace ZoneFirewall

open Text Yaml

/-! ## Errors -/

/-- Why a value or a document holds no settings. -/
inductive SettingsError where
  /-- The document cannot be read. -/
  | document (error : DocumentError)
  /-- The document is no mapping. -/
  | documentNotMapping
  /-- The settings, or the services among them, are no mapping. -/
  | notMapping
  /-- The zones, or the short forms of a service, are no list. -/
  | notList
  /-- A number has too many digits to be shown. -/
  | longNumber
  /-- A value has too many layers to be shown. -/
  | deepValue
  /-- A short form is none. -/
  | spec (error : SpecError)

/-- The wording of the error. -/
def SettingsError.message : SettingsError → String
  | .document error => error.message
  | .documentNotMapping => "Settings file must contain a mapping"
  | .notMapping => "not a mapping"
  | .notList => "not a list"
  | .longNumber =>
    "Exceeds the limit (" ++ toString digitLimit ++ " digits) for integer string conversion; "
      ++ "use sys.set_int_max_str_digits() to increase the limit"
  | .deepValue => "a value lies too deep"
  | .spec error => error.message

/-! ## Values to load from -/

/-- Values that settings can be loaded from. -/
class Loadable (α : Type) where
  /-- The text of a value that is a text. -/
  text? : α → Option WideText
  /-- Whether a value counts as true. -/
  isTrue : α → Bool
  /-- The entries of a value that is a mapping. -/
  entries? : α → Option (List (Scalar × α))
  /-- The values that a value is made up of, if it is no text. -/
  items? : α → Option (List Value)

instance : Loadable Value where
  text? := Value.text?
  isTrue := Value.isTrue
  entries? := Value.entries?
  items? := Value.items?

instance : Loadable Position where
  text? := Position.text?
  isTrue := Position.isTrue
  entries? := Position.entries?
  items? := Position.items?

namespace Settings

open Loadable

variable {α : Type} [Loadable α]

/-- A value as text, unless it has too many layers or a number in it too many digits. -/
def textOf (v : Value) : Except SettingsError WideText :=
  if v.isDeep then .error .deepValue
  else if v.isLong then .error .longNumber
  else .ok v.shown

/-- The texts of a value that may be a single text. -/
def textsOf (v : α) : Except SettingsError (List WideText) :=
  match text? v, items? v with
  | some s, _ => .ok [s]
  | none, some items => items.mapM textOf
  | none, none => .error .notList

/-- The short forms of a service; a value that counts as false has none, but the empty text is
one. -/
def specsOf (v : α) : Except SettingsError (List WideText) :=
  if (text? v).isSome || isTrue v then textsOf v else .ok []

/-- The services of some entries, after those so far. -/
def servicesFrom (done : Table WideText (List WideText)) :
    List (Scalar × α) → Except SettingsError (Table WideText (List WideText))
  | [] => .ok done
  | (name, value) :: rest => do
    let specs ← specsOf value
    let name ← textOf (.scalar name)
    match definitionsOf specs with
    | .ok _ => servicesFrom (done.insert name specs) rest
    | .error e => .error (.spec e)

/-- The services of a value. -/
def servicesOf (v : Option α) : Except SettingsError (Table WideText (List WideText)) :=
  match v.filter isTrue with
  | none => .ok .empty
  | some v =>
    match entries? v with
    | some entries => servicesFrom .empty entries
    | none => .error .notMapping

/-- The zones of a value. -/
def zonesOf (v : Option α) : Except SettingsError (List WideText) :=
  match v.filter isTrue with
  | none => .ok [usualZone]
  | some v => textsOf v

/-- The settings of a value. -/
def ofValue (v : α) : Except SettingsError Settings :=
  match entries? v with
  | none => .error .notMapping
  | some entries => do
    let services ← servicesOf (Scalar.field? "services" entries)
    let zones ← zonesOf (Scalar.field? "zones" entries)
    return { zones, allZones := (Scalar.field? "all_zones" entries).any isTrue, services }

/-- The settings of a document; one without content gives the usual ones. -/
def ofText (text : String) : Except SettingsError Settings :=
  match Document.ofText? text with
  | .error e => .error (.document e)
  | .ok none => .ok {}
  | .ok (some document) =>
    match document.cell document.root with
    | .scalar .null => .ok {}
    | .mapping _ => ofValue document.whole
    | _ => .error .documentNotMapping

end Settings

end ZoneFirewall
