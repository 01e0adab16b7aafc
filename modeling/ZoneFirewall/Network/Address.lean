import ZoneFirewall.Text.Literal

/-!
# IPv4 addresses

An address is 32 bits, written as four octets in decimal with dots between them. An octet is at
most 255, has at most three digits and does not start with a zero that could be left out.

* `Address`, `Address.ofOctets`, `Address.octets`, `Address.text`.
* `Address.parse`: the address that characters stand for, or the first thing wrong with them.
* `AddressError`: the causes; `AddressError.message`: their wording.
-/

namespace ZoneFirewall

open Text

/-- An IPv4 address. -/
structure Address where
  /-- The address as one number, the first octet in the highest place. -/
  bits : BitVec 32
  deriving DecidableEq, Repr

/-- The address `0.0.0.0`. -/
def Address.zero : Address := ⟨0⟩

/-- The address of four octets. -/
def Address.ofOctets (a b c d : BitVec 8) : Address := ⟨a ++ b ++ c ++ d⟩

/-- The four octets of an address. -/
def Address.octets (x : Address) : List (BitVec 8) :=
  [x.bits.extractLsb' 24 8, x.bits.extractLsb' 16 8, x.bits.extractLsb' 8 8, x.bits.extractLsb' 0 8]

/-- The address as it is written. -/
def Address.text (x : Address) : String :=
  ".".intercalate (x.octets.map fun o => toString o.toNat)

/-! ## Causes of failure -/

/-- What is wrong with an octet. -/
inductive OctetFault where
  /-- Nothing stands between two dots. -/
  | empty
  /-- A character is no decimal digit of the ASCII set. -/
  | notDecimal (octet : String)
  /-- There are more than three digits. -/
  | tooLong (octet : String)
  /-- There is a zero in front that could be left out. -/
  | leadingZero (octet : String)
  /-- The number is above 255. -/
  | tooLarge (value : Nat)
  deriving DecidableEq, Repr

/-- What is wrong with an address. -/
inductive AddressError where
  /-- There is no text at all. -/
  | empty
  /-- The text has not four parts between dots. -/
  | octetCount (text : String)
  /-- An octet of the text is wrong. -/
  | octet (fault : OctetFault) (text : String)
  deriving DecidableEq, Repr

/-- The wording of the fault. -/
def OctetFault.message : OctetFault → String
  | .empty => "Empty octet not permitted"
  | .notDecimal octet => "Only decimal digits permitted in " ++ literal octet
  | .tooLong octet => "At most 3 characters permitted in " ++ literal octet
  | .leadingZero octet => "Leading zeros are not permitted in " ++ literal octet
  | .tooLarge value => "Octet " ++ toString value ++ " (> 255) not permitted"

/-- The wording of the error. -/
def AddressError.message : AddressError → String
  | .empty => "Address cannot be empty"
  | .octetCount text => "Expected 4 octets in " ++ literal text
  | .octet fault text => fault.message ++ " in " ++ literal text

/-! ## Reading -/

/-- The value of an ASCII digit. -/
def asciiDigit? (c : Char) : Option Nat :=
  if '0' ≤ c ∧ c ≤ '9' then some (c.toNat - '0'.toNat) else none

/-- The number that ASCII digits stand for; `none` if a character is no such digit. -/
def asciiNumber? (cs : List Char) : Option Nat :=
  cs.foldlM (fun n c => (asciiDigit? c).map (10 * n + ·)) 0

/-- The octet that characters stand for. -/
def parseOctet (cs : List Char) : Except OctetFault (BitVec 8) :=
  if cs = [] then .error .empty
  else
    match asciiNumber? cs with
    | none => .error (.notDecimal (String.ofList cs))
    | some n =>
      if cs.length > 3 then .error (.tooLong (String.ofList cs))
      else if cs ≠ ['0'] ∧ cs.head? = some '0' then .error (.leadingZero (String.ofList cs))
      else if n > 255 then .error (.tooLarge n)
      else .ok (BitVec.ofNat 8 n)

/-- The address that characters stand for. -/
def Address.parse (cs : List Char) : Except AddressError Address :=
  if cs = [] then .error .empty
  else
    match cs.splitOn '.' with
    | [a, b, c, d] =>
      match parseOctet a, parseOctet b, parseOctet c, parseOctet d with
      | .ok a, .ok b, .ok c, .ok d => .ok (.ofOctets a b c d)
      | .error f, _, _, _ => .error (.octet f (String.ofList cs))
      | _, .error f, _, _ => .error (.octet f (String.ofList cs))
      | _, _, .error f, _ => .error (.octet f (String.ofList cs))
      | _, _, _, .error f => .error (.octet f (String.ofList cs))
    | _ => .error (.octetCount (String.ofList cs))

end ZoneFirewall
