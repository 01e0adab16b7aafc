import ZoneFirewall.Network.Interface
import ZoneFirewall.Table

/-!
# The address book

Every zone names its own addresses and groups of addresses. An object of the book is an address, a
group, or both at once: a name that was given an address and then members is a group that remembers
its address. Giving it an address again makes it a plain address.

* `AddressObject`: an object, which has an address or at least one member.
* `AddressBook`: the objects by zone and name.
* `AddressBook.add`, `AddressBook.addMember`: the updates.
-/

namespace ZoneFirewall

/-- What a name in a zone stands for. -/
structure AddressObject where
  /-- The address, if one was given. -/
  address : Option Interface
  /-- The members; an object with members is a group. -/
  members : List String
  /-- The description that came with the address. -/
  description : String
  /-- An object is never without both an address and members. -/
  address_or_members : address.isSome ∨ members ≠ []

namespace AddressObject

/-- The object of a plain address. -/
def plain (address : Interface) (description : String) : AddressObject :=
  ⟨some address, [], description, .inl rfl⟩

/-- A group of one member. -/
def groupOf (member : String) : AddressObject := ⟨none, [member], "", .inr (by simp)⟩

/-- The object with one more member at its end. -/
def withMember (o : AddressObject) (member : String) : AddressObject :=
  ⟨o.address, o.members ++ [member], o.description, .inr (by simp)⟩

/-- Whether the object is a group. -/
def isGroup (o : AddressObject) : Bool := !o.members.isEmpty

end AddressObject

/-- The objects of all zones. -/
structure AddressBook where
  /-- The objects by zone and name. -/
  objects : Table (String × String) AddressObject

namespace AddressBook

/-- The book with nothing in it. -/
def empty : AddressBook := ⟨.empty⟩

instance : Inhabited AddressBook := ⟨empty⟩

/-- The object of a name in a zone. -/
def get? (b : AddressBook) (zone name : String) : Option AddressObject :=
  b.objects.get? (zone, name)

/-- How many objects there are in all zones. -/
def size (b : AddressBook) : Nat := b.objects.size

/-- Gives a name an address; what the name stood for is forgotten. -/
def add (b : AddressBook) (zone name : String) (address : Interface) (description : String) :
    AddressBook :=
  ⟨b.objects.insert (zone, name) (.plain address description)⟩

/-- Adds a member at the end of a group, which is created if need be. -/
def addMember (b : AddressBook) (zone group member : String) : AddressBook :=
  ⟨b.objects.update (zone, group) fun old =>
    match old with
    | some o => o.withMember member
    | none => .groupOf member⟩

/-- A name that is given an address is this address, and all others are what they were. -/
@[simp] theorem get?_add (b : AddressBook) (zone name z n : String) (address : Interface)
    (description : String) :
    (b.add zone name address description).get? z n
      = if (zone, name) = (z, n) then some (.plain address description) else b.get? z n := by
  simp only [get?, add, Table.get?_insert]

/-- A group that gets a member has it at its end, and all others are what they were. -/
@[simp] theorem get?_addMember (b : AddressBook) (zone group member z n : String) :
    (b.addMember zone group member).get? z n
      = if (zone, group) = (z, n) then
          some (match b.get? zone group with
            | some o => o.withMember member
            | none => .groupOf member)
        else b.get? z n := by
  simp only [get?, addMember, Table.get?_update]

end AddressBook

end ZoneFirewall
