/-!
# Bytes in base 64

Bytes are written in the 64 characters of the usual alphabet, four for three bytes, with the equals
sign to fill up the last four. Characters outside the alphabet are passed over, and nothing after
the filling is read.

* `decodeBase64?`: the bytes, unless characters are missing at the end.
-/

namespace ZoneFirewall.Yaml

/-- The six bits of a character of the alphabet. -/
def base64Value? (c : Char) : Option Nat :=
  if 'A' ≤ c ∧ c ≤ 'Z' then some (c.toNat - 'A'.toNat)
  else if 'a' ≤ c ∧ c ≤ 'z' then some (c.toNat - 'a'.toNat + 26)
  else if c.isDigit then some (c.toNat - '0'.toNat + 52)
  else if c = '+' then some 62
  else if c = '/' then some 63
  else none

/-- The bytes of the characters that are left, after `count` characters of a group of four whose
last bits are `bits`, and after `fill` equals signs. -/
def decodeBase64From (count bits fill : Nat) : List Char → Option (List UInt8)
  | [] => if count = 0 then some [] else none
  | '=' :: rest =>
    if count ≥ 2 ∧ count + fill + 1 ≥ 4 then some []
    else decodeBase64From count bits (if count ≥ 2 then fill + 1 else fill) rest
  | c :: rest =>
    match base64Value? c with
    | none => decodeBase64From count bits fill rest
    | some v =>
      match count with
      | 0 => decodeBase64From 1 v 0 rest
      | 1 => (decodeBase64From 2 (v % 16) 0 rest).map (UInt8.ofNat (bits * 4 + v / 16) :: ·)
      | 2 => (decodeBase64From 3 (v % 4) 0 rest).map (UInt8.ofNat (bits * 16 + v / 4) :: ·)
      | _ => (decodeBase64From 0 0 0 rest).map (UInt8.ofNat (bits * 64 + v) :: ·)

/-- The bytes that are written in base 64. -/
def decodeBase64? (s : String) : Option (List UInt8) := decodeBase64From 0 0 0 s.toList

end ZoneFirewall.Yaml
