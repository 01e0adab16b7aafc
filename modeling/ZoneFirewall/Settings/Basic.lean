import ZoneFirewall.Service.Catalog
import ZoneFirewall.Service.Spec
import ZoneFirewall.Text.Lines
import ZoneFirewall.Yaml.Printer

/-!
# Settings

Settings say which zones are of interest and which services to add to the predefined ones or to put
in their place. They are kept in a document.

* `Settings`: the settings, and what they are without a document.
* `Settings.catalog`: the catalog to read a configuration with.
* `Settings.document`: the settings as a document, with a comment in front. `Settings.template`: a
  document to start from.
-/

namespace ZoneFirewall

open Text Yaml

/-- The zone of interest if none is named. -/
def usualZone : String := "Clients"

/-- What a conversion can be told. -/
structure Settings where
  /-- The zones of interest: policies from or to one of them are converted. -/
  zones : List WideText := [usualZone]
  /-- Whether all policies are converted, whatever their zones. -/
  allZones : Bool := false
  /-- Services in short notation. -/
  services : Table WideText (List WideText) := .empty

namespace Settings

/-! ## The catalog -/

/-- The definitions of short forms. -/
def definitionsOf (specs : List WideText) : Except SpecError (List Definition) :=
  specs.mapM Definition.parseSpec

/-- The predefined catalog with the services of the settings put in. -/
def catalog (s : Settings) : Except SpecError Catalog :=
  s.services.entries.foldlM (fun c e => do return c.define e.1 (← definitionsOf e.2)) .predefined

/-- What putting services into a catalog reports. -/
inductive Event where
  /-- A service of the catalog is replaced. -/
  | serviceRedefined (name : WideText)
  /-- A service has its short forms. -/
  | serviceSet (name : WideText) (specs : List WideText)
  deriving DecidableEq, Repr

/-- What putting some services into a catalog reports, up to the first short form that is none. -/
def eventsFrom (c : Catalog) : List (WideText × List WideText) → List Event
  | [] => []
  | (name, specs) :: rest =>
    match definitionsOf specs with
    | .error _ => []
    | .ok definitions =>
      (if c.services.contains name then [.serviceRedefined name] else [])
      ++ .serviceSet name specs :: eventsFrom (c.define name definitions) rest

/-- What putting the services into the predefined catalog reports. -/
def events (s : Settings) : List Event := eventsFrom .predefined s.services.entries

/-! ## The document -/

/-- The comment in front of a document. -/
def documentHeader : String :=
  Text.joinLines
    [ "# screen2mtk settings",
      "#",
      "#   zones:      only policies from or to one of these zones are converted",
      "#   all_zones:  true converts every policy regardless of zone",
      "#   services:   extra or replacement service definitions, merged into the",
      "#               predefined table before the ScreenOS input is read.",
      "#               Each entry is a list of 'tcp/443', 'udp/1812-1813',",
      "#               'icmp/8' or a bare IP protocol number such as '47'.",
      "#",
      "#   Use with: screen2mtk -c <this_file> < config.txt",
      "#" ]

/-- Texts as a list. -/
def listOutline (texts : List WideText) : Outline := .list (texts.map .text)

/-- The settings as an outline. -/
def outline (s : Settings) : Outline :=
  .mapping
    [ ("zones", listOutline s.zones),
      ("all_zones", .truth s.allZones),
      ("services", .mapping (s.services.entries.map fun e => (e.1, listOutline e.2))) ]

/-- The settings as a document. -/
def document (s : Settings) : String := documentHeader ++ s.outline.render

/-- A document to start from, with one service as an example. -/
def template : String :=
  document { services := .ofList [("HTTP-ALT", ["tcp/8000-8001"])] }

end Settings

end ZoneFirewall
