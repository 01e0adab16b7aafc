import ZoneFirewall.AddressBook.Basic
import ZoneFirewall.AddressBook.Name
import ZoneFirewall.Hierarchy

/-!
# Resolving addresses

A reference in a zone comes to a list of named addresses. A name with a meaning of its own comes to
that, whatever the book says. Any other name is looked up in its zone: an address stands for itself,
a group for its members, an unknown name for nothing. Of entries with the same address and prefix
length a group keeps the first.

* `Resolved`, `AddressBook.resolve`: the entries behind a reference.
* `AddressBook.resolutionEvents`: what resolving a reference reports on its way.
-/

namespace ZoneFirewall

/-- An address under the name that led to it. -/
structure Resolved where
  /-- The name of the leaf. -/
  name : String
  /-- Its address. -/
  address : Interface
  deriving DecidableEq, Repr

/-- The entries without those whose address has come before. -/
def Resolved.dedup (items : List Resolved) : List Resolved :=
  items.foldl (fun kept x => if kept.any (·.address = x.address) then kept else kept ++ [x]) []

namespace AddressBook

/-- The names of a zone as a hierarchy. No leaf is without a result. -/
def hierarchy (b : AddressBook) (zone : String) : Hierarchy String Empty Resolved where
  meaning name :=
    if isAnyName name then .leaf (.ok [⟨name, .wildcard⟩])
    else
      match inlineAddress? name with
      | some address => .leaf (.ok [⟨name, address⟩])
      | none =>
        match b.get? zone name with
        | none => .leaf (.ok [])
        | some o =>
          if o.isGroup then .group o.members
          else
            match o.address with
            | some address => .leaf (.ok [⟨name, address⟩])
            | none => .leaf (.ok [])
  groups := b.objects.keys.map Prod.snd
  mem_groups {name members} h := by
    split at h
    · cases h
    · split at h
      · cases h
      · split at h
        · cases h
        · rename_i hget
          exact List.mem_map.2 ⟨(zone, name), Table.mem_keys_of_get? hget, rfl⟩

/-- A group that is met again below itself. -/
structure Cycle where
  /-- The groups from the reference down to the one that names the group again. -/
  chain : List String
  /-- The group that is met again. -/
  name : String
  deriving DecidableEq, Repr

/-- The entries behind a reference in a zone, or the cycle that keeps them from being found. -/
def resolve (b : AddressBook) (zone name : String) : Except Cycle (List Resolved) :=
  match (b.hierarchy zone).expand Resolved.dedup name with
  | .ok items => .ok items
  | .error (.cycle chain name) => .error ⟨chain, name⟩

/-! ## Reports -/

/-- What resolving a reference reports. -/
inductive ResolutionEvent where
  /-- A name looks like one that carries an address, but the address cannot be read. -/
  | unreadableInline (name : String)
  /-- A group has been resolved to so many entries. -/
  | resolvedGroup (zone name : String) (count : Nat)
  deriving DecidableEq, Repr

/-- The group that a step completes. -/
def completed? : Hierarchy.Step String → Option String
  | .enter _ => none
  | .complete name => some name

/-- The report of one step, what some names come to being known. -/
def stepEvents (b : AddressBook) (zone : String)
    (known : Table String (Except Cycle (List Resolved))) :
    Hierarchy.Step String → List ResolutionEvent
  | .enter name =>
    if !isAnyName name && (inlineText? name).isSome && (inlineAddress? name).isNone then
      [.unreadableInline name]
    else []
  | .complete name =>
    match known.valueOf (b.resolve zone) name with
    | .ok items => [.resolvedGroup zone name items.length]
    | .error _ => []

/-- What resolving a reference in a zone reports, in order, up to the failure if there is one. -/
def resolutionEvents (b : AddressBook) (zone name : String) : List ResolutionEvent :=
  let steps := (b.hierarchy zone).walk name
  let known := Table.tabulate (b.resolve zone) (steps.filterMap completed?)
  steps.flatMap (b.stepEvents zone known)

end AddressBook

end ZoneFirewall
