import ZoneFirewall.Text.Literal

/-!
# Strict UTF-8

Bytes are read as UTF-8 with no leniency: overlong forms, surrogates and code points above U+10FFFF
are refused where they start, and the error names the bytes at fault and why they are.

* `DecodeFault`, `DecodeError`: the causes; `DecodeError.message`: their wording.
* `decodeUtf8`: the text of some bytes, or the first error.
-/

namespace ZoneFirewall.Text

/-- Why bytes at some place are no UTF-8. -/
inductive DecodeFault where
  /-- No sequence starts with this byte. -/
  | invalidStart
  /-- The sequence is broken off by a byte that cannot continue it. -/
  | invalidContinuation
  /-- The input ends within a sequence. -/
  | unexpectedEnd
  deriving DecidableEq, Repr

/-- The first bytes that could not be read. -/
structure DecodeError where
  /-- What is wrong with them. -/
  fault : DecodeFault
  /-- How many bytes come before them. -/
  start : Nat
  /-- How many they are, the first aside. -/
  extra : Nat
  /-- The first of them. -/
  byte : UInt8
  deriving DecidableEq, Repr

/-- The wording of the fault alone. -/
def DecodeFault.reason : DecodeFault → String
  | .invalidStart => "invalid start byte"
  | .invalidContinuation => "invalid continuation byte"
  | .unexpectedEnd => "unexpected end of data"

/-- The wording of the error. -/
def DecodeError.message (e : DecodeError) : String :=
  let place :=
    if e.extra = 0 then
      "byte 0x" ++ String.ofList (hexDigits 2 e.byte.toNat) ++ " in position " ++ toString e.start
    else "bytes in position " ++ toString e.start ++ "-" ++ toString (e.start + e.extra)
  "'utf-8' codec can't decode " ++ place ++ ": " ++ e.fault.reason

/-- Whether a byte continues a sequence. -/
def isContinuation (b : UInt8) : Bool := 0x80 ≤ b && b < 0xc0

/-- The first byte of a sequence: how many bytes follow it, the bits it carries, and the least and
the greatest value of the byte after it. `none` for a byte that starts no longer sequence. -/
def leadByte? (b : UInt8) : Option (Nat × Nat × UInt8 × UInt8) :=
  if 0xc2 ≤ b && b < 0xe0 then some (1, b.toNat - 0xc0, 0x80, 0xbf)
  else if b == 0xe0 then some (2, 0, 0xa0, 0xbf)
  else if b == 0xed then some (2, 0xd, 0x80, 0x9f)
  else if 0xe1 ≤ b && b < 0xf0 then some (2, b.toNat - 0xe0, 0x80, 0xbf)
  else if b == 0xf0 then some (3, 0, 0x90, 0xbf)
  else if b == 0xf4 then some (3, 4, 0x80, 0x8f)
  else if 0xf1 ≤ b && b < 0xf4 then some (3, b.toNat - 0xf0, 0x80, 0xbf)
  else none

/-- Reads `count` continuation bytes onto the bits `acc`; on failure, the fault and how many of the
bytes could be read. -/
def continuationBits :
    (count acc : Nat) → List UInt8 → Except (DecodeFault × Nat) (Nat × List UInt8)
  | 0, acc, bs => .ok (acc, bs)
  | _ + 1, _, [] => .error (.unexpectedEnd, 0)
  | count + 1, acc, b :: bs =>
    if isContinuation b then
      match continuationBits count (acc * 64 + (b.toNat - 0x80)) bs with
      | .ok r => .ok r
      | .error (f, n) => .error (f, n + 1)
    else .error (.invalidContinuation, 0)

/-- Reads one character: the character, how many bytes it took besides the first, and the rest. -/
def decodeChar (b : UInt8) (bs : List UInt8) :
    Except (DecodeFault × Nat) (Char × Nat × List UInt8) :=
  if b < 0x80 then .ok (Char.ofNat b.toNat, 0, bs)
  else
    match leadByte? b with
    | none => .error (.invalidStart, 0)
    | some (count, bits, low, high) =>
      match bs with
      | [] => .error (.unexpectedEnd, 0)
      | b₂ :: _ =>
        if low ≤ b₂ && b₂ ≤ high then
          match continuationBits count bits bs with
          | .ok (n, rest) => .ok (Char.ofNat n, count, rest)
          | .error e => .error e
        else .error (.invalidContinuation, 0)

/-- Continuation bytes that are read are taken from the front. -/
theorem length_continuationBits {count acc n : Nat} {bs rest : List UInt8}
    (h : continuationBits count acc bs = .ok (n, rest)) : rest.length ≤ bs.length := by
  fun_induction continuationBits count acc bs generalizing n rest with
  | case1 acc bs => cases h; exact Nat.le_refl _
  | case2 => cases h
  | case3 count acc b bs hb r hr ih =>
    cases h
    exact Nat.le_succ_of_le (ih hr)
  | case4 => cases h
  | case5 => cases h

/-- A character that is read leaves no more bytes than followed its first one. -/
theorem length_decodeChar {b : UInt8} {bs rest : List UInt8} {c : Char} {k : Nat}
    (h : decodeChar b bs = .ok (c, k, rest)) : rest.length ≤ bs.length := by
  unfold decodeChar at h
  split at h
  · cases h; exact Nat.le_refl _
  · split at h
    · cases h
    · split at h
      · cases h
      · split at h
        · split at h
          · rename_i hr
            cases h
            exact length_continuationBits hr
          · cases h
        · cases h

/-- The characters of bytes of which `start` came before. -/
def decodeFrom (start : Nat) (bs : List UInt8) : Except DecodeError (List Char) :=
  match bs with
  | [] => .ok []
  | b :: bs =>
    match h : decodeChar b bs with
    | .error (fault, extra) => .error ⟨fault, start, extra, b⟩
    | .ok (c, k, rest) =>
      have := length_decodeChar h
      match decodeFrom (start + k + 1) rest with
      | .error e => .error e
      | .ok cs => .ok (c :: cs)
  termination_by bs.length
  decreasing_by simp only [List.length_cons]; omega

/-- The text of some bytes, or the first place where they are no UTF-8. -/
def decodeUtf8 (bytes : List UInt8) : Except DecodeError String :=
  (decodeFrom 0 bytes).map String.ofList

end ZoneFirewall.Text
