import ZoneFirewall.Hierarchy
import ZoneFirewall.Service.Predefined
import ZoneFirewall.Table

/-!
# The service catalog

The catalog keeps services, each with its definitions in order, and groups of services, each with
its members in order. Services and groups are two tables: a name that is in both is read as a
service.

* `Catalog`, `Catalog.predefined`: the tables, and the one to start from.
* `Catalog.define`, `Catalog.append`, `Catalog.createGroup`, `Catalog.addMember`: the updates.
* `Catalog.definitions`, `Catalog.protocols`: what a name comes to through its groups.
-/

namespace ZoneFirewall

open Text

/-- Services and service groups. -/
structure Catalog where
  /-- The definitions of each service. -/
  services : Table WideText (List Definition)
  /-- The members of each group. -/
  groups : Table WideText (List WideText)

namespace Catalog

/-- The catalog with nothing in it. -/
def empty : Catalog := ⟨.empty, .empty⟩

/-- The catalog of the predefined services. -/
def predefined : Catalog :=
  ⟨.ofList (predefinedServices.map fun e => (.ofString e.1, e.2)), .empty⟩

/-- Whether a name is a service or a group. -/
def contains (c : Catalog) (name : WideText) : Bool :=
  c.services.contains name || c.groups.contains name

/-- Whether a name is a group. -/
def isGroup (c : Catalog) (name : WideText) : Bool := c.groups.contains name

/-- How many services and groups there are. -/
def size (c : Catalog) : Nat := c.services.size + c.groups.size

/-! ## Updates -/

/-- Sets the definitions of a service; a group of that name is dropped. -/
def define (c : Catalog) (name : WideText) (definitions : List Definition) : Catalog :=
  ⟨c.services.insert name definitions, c.groups.erase name⟩

/-- Adds a definition at the end of a service, which is created if need be. -/
def append (c : Catalog) (name : WideText) (definition : Definition) : Catalog :=
  { c with services := c.services.update name fun old => old.getD [] ++ [definition] }

/-- Creates a group with no members; a group that is there stays as it is. -/
def createGroup (c : Catalog) (name : WideText) : Catalog :=
  { c with groups := c.groups.update name fun old => old.getD [] }

/-- Adds a member at the end of a group, which is created if need be. -/
def addMember (c : Catalog) (group member : WideText) : Catalog :=
  { c with groups := c.groups.update group fun old => old.getD [] ++ [member] }

/-! ## Expansion -/

/-- The catalog's names as a hierarchy: services are leaves, and a name that is neither service nor
group is its own error. -/
def hierarchy (c : Catalog) : Hierarchy WideText WideText Definition where
  meaning name :=
    match c.services.get? name with
    | some definitions => .leaf (.ok definitions)
    | none =>
      match c.groups.get? name with
      | some members => .group members
      | none => .leaf (.error name)
  groups := c.groups.keys
  mem_groups {name members} h := by
    split at h
    · cases h
    · split at h
      · rename_i hg
        exact Table.mem_keys_of_get? hg
      · cases h

/-- Why a name comes to no definitions: a name that is in neither table, or a cycle. -/
abbrev Failure := Hierarchy.Failure WideText WideText

/-- The definitions behind a name, groups expanded in member order. -/
def definitions (c : Catalog) (name : WideText) : Except Failure (List Definition) :=
  c.hierarchy.expand id name

/-- The list with each item only where it comes first. -/
def distinct {α : Type} [DecidableEq α] (items : List α) : List α :=
  items.foldl (fun seen x => if x ∈ seen then seen else seen ++ [x]) []

/-- The protocols of the definitions behind a name, each once, in the order of their first use. -/
def protocols (c : Catalog) (name : WideText) : Except Failure (List WideText) :=
  (c.definitions name).map fun ds => distinct (ds.map (·.protocol))

end Catalog

end ZoneFirewall
