import ZoneFirewall.Network.Address
import ZoneFirewall.Numeral

/-!
# Addresses with a prefix length

An interface is an address together with the length of its network prefix; the host bits are kept.
It is written with the prefix length after a slash. What stands after the slash may also be a mask:
a netmask (ones, then zeros) or else a host mask (zeros, then ones).

* `Interface`, `Interface.text`, `Interface.host`, `Interface.contains`.
* `netmask`, `maskLength?`: the mask of a prefix length, and the length of a mask.
* `Interface.parse`: the interface that a text stands for.
* `InterfaceError`: the causes; `InterfaceError.message`: their wording.
-/

namespace ZoneFirewall

open Text

/-- An address and the length of its network prefix. -/
structure Interface where
  /-- The address, host bits included. -/
  address : Address
  /-- How many leading bits belong to the network. -/
  prefixLength : Fin 33
  deriving DecidableEq, Repr

/-- The network that holds every address. -/
def Interface.wildcard : Interface := ⟨.zero, 0⟩

/-- The interface of a single host. -/
def Interface.host (x : Address) : Interface := ⟨x, 32⟩

/-- The interface as it is written. -/
def Interface.text (i : Interface) : String :=
  i.address.text ++ "/" ++ toString i.prefixLength.val

/-- The mask whose first `length` bits are ones. -/
def netmask (length : Fin 33) : BitVec 32 := BitVec.allOnes 32 <<< (32 - length.val)

/-- Whether an address lies in the interface's network. -/
def Interface.contains (i : Interface) (x : Address) : Bool :=
  x.bits &&& netmask i.prefixLength == i.address.bits &&& netmask i.prefixLength

/-! ## Masks -/

/-- The prefix length whose netmask the bits are. -/
def netmaskLength? (mask : BitVec 32) : Option (Fin 33) :=
  (List.finRange 33).find? fun k => netmask k == mask

/-- The prefix length of a netmask or, failing that, of a host mask. -/
def maskLength? (mask : BitVec 32) : Option (Fin 33) :=
  (netmaskLength? mask).orElse fun _ => netmaskLength? (~~~mask)

/-- The prefix length that is written after the slash: a number up to 32, or a mask. What has more
digits than a numeral may have is no number, zeros in front included. -/
def parseMask? (cs : List Char) : Option (Fin 33) :=
  match (if cs = [] ∨ cs.length > digitLimit then none else asciiNumber? cs) with
  | some n => if h : n < 33 then some ⟨n, h⟩ else none
  | none =>
    match Address.parse cs with
    | .ok m => maskLength? m.bits
    | .error _ => none

/-! ## Reading -/

/-- What is wrong with an interface. -/
inductive InterfaceError where
  /-- There is more than one slash. -/
  | extraSlash (text : String)
  /-- The part before the slash is no address. -/
  | address (error : AddressError)
  /-- The part after the slash is neither a prefix length nor a mask. -/
  | mask (text : String)
  deriving DecidableEq, Repr

/-- The wording of the error. -/
def InterfaceError.message : InterfaceError → String
  | .extraSlash text => "Only one '/' permitted in " ++ literal text
  | .address error => error.message
  | .mask text => literal text ++ " is not a valid netmask"

/-- The interface that a text stands for. An address without a slash is a single host. -/
def Interface.parse (text : String) : Except InterfaceError Interface :=
  match text.toList.splitOn '/' with
  | [addr] =>
    match Address.parse addr with
    | .ok x => .ok (.host x)
    | .error e => .error (.address e)
  | [addr, mask] =>
    match Address.parse addr with
    | .error e => .error (.address e)
    | .ok x =>
      match parseMask? mask with
      | some k => .ok ⟨x, k⟩
      | none => .error (.mask (String.ofList mask))
  | _ => .error (.extraSlash text)

/-- The interface of an address and a mask that are written apart. -/
def Interface.parseMasked (address mask : String) : Except InterfaceError Interface :=
  Interface.parse (address ++ "/" ++ mask)

/-- The interface of a single host whose address is given as text. -/
def Interface.parseHost (address : String) : Except InterfaceError Interface :=
  Interface.parse (address ++ "/32")

end ZoneFirewall
