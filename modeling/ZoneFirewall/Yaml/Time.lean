import ZoneFirewall.Text.Lines
import ZoneFirewall.Text.Literal
import ZoneFirewall.Yaml.Error

/-!
# Dates and times

A scalar such as `2024-01-02` is a date, and one such as `2024-01-02 10:30:00.5 +01:00` a date with
a time of day, which may have an offset from universal time.

* `Date`, `Clock`, `Time`: the values.
* `Time.parts?`: the parts of a scalar. `Time.parse`: the value, if it exists.
* `Date.text`, `Time.text`: the values as they are shown, and `Date.literal`, `Time.literal` as
  they are shown within lists.
-/

namespace ZoneFirewall.Yaml

/-- A day of the calendar. -/
structure Date where
  /-- The year. -/
  year : Nat
  /-- The month, from 1. -/
  month : Nat
  /-- The day of the month, from 1. -/
  day : Nat
  deriving DecidableEq, Repr

/-- A time of day. -/
structure Clock where
  /-- The hour. -/
  hour : Nat
  /-- The minute. -/
  minute : Nat
  /-- The second. -/
  second : Nat
  /-- The millionths of a second. -/
  microsecond : Nat
  /-- The minutes by which it is ahead of universal time, if that is known. -/
  offset : Option Int
  deriving DecidableEq, Repr

/-- A date with a time of day. -/
structure Time where
  /-- The date. -/
  date : Date
  /-- The time of day. -/
  clock : Clock
  deriving DecidableEq, Repr

/-! ## Reading -/

/-- The number of decimal digits. -/
def digitsValue (cs : List Char) : Nat := cs.foldl (fun n c => 10 * n + (c.toNat - 0x30)) 0

/-- Between `least` and `most` digits in front, and what follows them. -/
def splitDigits? (least most : Nat) (cs : List Char) : Option (Nat × List Char) :=
  let digits := (cs.take most).takeWhile Char.isDigit
  if digits.length < least then none else some (digitsValue digits, cs.drop digits.length)

/-- What follows a mark. -/
def afterMark? (mark : Char) : List Char → Option (List Char)
  | c :: rest => if c = mark then some rest else none
  | [] => none

namespace Time

/-- The parts of a scalar that is written as a date or a time. -/
structure Parts where
  /-- The date. -/
  date : Date
  /-- The time of day. -/
  clock : Option Clock

/-- Whether a character is a space or a tab. -/
def isSpace (c : Char) : Bool := c = ' ' || c = '\t'

/-- The offset at the end of a scalar: none, that of universal time, or hours and minutes. -/
def offset? (cs : List Char) : Option (Option Int) :=
  match cs.dropWhile isSpace with
  | [] => if cs = [] then some none else none
  | ['Z'] => some (some 0)
  | sign :: rest => do
    let factor ← if sign = '-' then some (-1 : Int) else if sign = '+' then some 1 else none
    let (hours, rest) ← splitDigits? 1 2 rest
    let minutes ←
      match rest with
      | [] => some 0
      | ':' :: rest => do
        let (minutes, rest) ← splitDigits? 2 2 rest
        if rest = [] then some minutes else none
      | _ => none
    return some (factor * (60 * hours + minutes))

/-- The fraction of a second after the point, in millionths, and what follows it. -/
def fraction (cs : List Char) : Nat × List Char :=
  match cs with
  | '.' :: rest =>
    let digits := rest.takeWhile Char.isDigit
    let shown := digits.take 6
    (digitsValue (shown ++ List.replicate (6 - shown.length) '0'), rest.drop digits.length)
  | _ => (0, cs)

/-- The time of day at the end of a scalar. -/
def clock? (cs : List Char) : Option Clock := do
  let (hour, rest) ← splitDigits? 1 2 cs
  let (minute, rest) ← splitDigits? 2 2 (← afterMark? ':' rest)
  let (second, rest) ← splitDigits? 2 2 (← afterMark? ':' rest)
  let (microsecond, rest) := fraction rest
  return { hour, minute, second, microsecond, offset := ← offset? rest }

/-- The parts of a scalar that is written as a date or a time. -/
def parts? (cs : List Char) : Option Parts := do
  let (year, rest) ← splitDigits? 4 4 cs
  let (month, rest) ← splitDigits? 1 2 (← afterMark? '-' rest)
  let (day, rest) ← splitDigits? 1 2 (← afterMark? '-' rest)
  let date : Date := ⟨year, month, day⟩
  match rest with
  | [] => return ⟨date, none⟩
  | c :: after =>
    if c = 'T' || c = 't' then return ⟨date, some (← clock? after)⟩
    else if isSpace c then return ⟨date, some (← clock? (after.dropWhile isSpace))⟩
    else none

end Time

/-! ## Existence -/

/-- Whether a year is a leap year. -/
def isLeap (year : Nat) : Bool := year % 4 = 0 && (year % 100 ≠ 0 || year % 400 = 0)

/-- The number of days of a month. -/
def daysIn (year month : Nat) : Nat :=
  if month = 2 then (if isLeap year then 29 else 28)
  else if [4, 6, 9, 11].contains month then 30 else 31

/-- What keeps a date from existing. -/
def Date.fault? (d : Date) : Option String :=
  if d.year = 0 then some "year 0 is out of range"
  else if d.month = 0 ∨ d.month > 12 then some "month must be in 1..12"
  else if d.day = 0 ∨ d.day > daysIn d.year d.month then some "day is out of range for month"
  else none

/-- What keeps a time of day from existing. -/
def Clock.fault? (c : Clock) : Option String :=
  if c.hour > 23 then some "hour must be in 0..23"
  else if c.minute > 59 then some "minute must be in 0..59"
  else if c.second > 59 then some "second must be in 0..59"
  else none

/-- A length of time as it is shown within lists: whole days, which may be negative, and the
seconds of one day. -/
def durationLiteral (seconds : Int) : String :=
  let days := seconds.fdiv 86400
  let rest := seconds.fmod 86400
  let parts :=
    (if days = 0 then [] else ["days=" ++ toString days])
    ++ (if rest = 0 then [] else ["seconds=" ++ toString rest])
  "datetime.timedelta(" ++ (if parts = [] then "0" else ", ".intercalate parts) ++ ")"

/-- What keeps an offset from existing: it has to be less than a day. -/
def offsetFault? (minutes : Int) : Option String :=
  if minutes.natAbs < 1440 then none
  else some ("offset must be a timedelta strictly between -timedelta(hours=24) and "
    ++ "timedelta(hours=24), not " ++ durationLiteral (minutes * 60) ++ ".")

/-- The date or the time that a scalar stands for. A line feed at the end does not count. -/
def Time.parse (text : String) : Except DocumentError (Date × Option Clock) :=
  match Time.parts? (Text.withoutFinalBreak text.toList) with
  | none => .error .notATime
  | some ⟨date, none⟩ =>
    match date.fault? with
    | some reason => .error (.time reason)
    | none => .ok (date, none)
  | some ⟨date, some clock⟩ =>
    match (clock.offset.bind offsetFault?).orElse fun _ =>
        date.fault?.orElse fun _ => clock.fault? with
    | some reason => .error (.time reason)
    | none => .ok (date, some clock)

/-! ## Showing -/

/-- A number with zeros in front, up to a width. -/
def padded (width n : Nat) : String :=
  let digits := toString n
  String.ofList (List.replicate (width - digits.length) '0') ++ digits

/-- A date as it is shown. -/
def Date.text (d : Date) : String :=
  padded 4 d.year ++ "-" ++ padded 2 d.month ++ "-" ++ padded 2 d.day

/-- A date as it is shown within lists. -/
def Date.literal (d : Date) : String :=
  "datetime.date(" ++ toString d.year ++ ", " ++ toString d.month ++ ", " ++ toString d.day ++ ")"

/-- An offset as it is shown. -/
def offsetText (minutes : Int) : String :=
  (if minutes < 0 then "-" else "+") ++ padded 2 (minutes.natAbs / 60) ++ ":"
    ++ padded 2 (minutes.natAbs % 60)

/-- A time as it is shown. -/
def Time.text (t : Time) : String :=
  let c := t.clock
  t.date.text ++ " " ++ padded 2 c.hour ++ ":" ++ padded 2 c.minute ++ ":" ++ padded 2 c.second
    ++ (if c.microsecond = 0 then "" else "." ++ padded 6 c.microsecond)
    ++ (match c.offset with
      | none => ""
      | some minutes => offsetText minutes)

/-- A time as it is shown within lists. -/
def Time.literal (t : Time) : String :=
  let c := t.clock
  let numbers :=
    [t.date.year, t.date.month, t.date.day, c.hour, c.minute]
    ++ (if c.second = 0 ∧ c.microsecond = 0 then []
      else if c.microsecond = 0 then [c.second] else [c.second, c.microsecond])
  let zone :=
    match c.offset with
    | none => ""
    | some 0 => ", tzinfo=datetime.timezone.utc"
    | some minutes => ", tzinfo=datetime.timezone(" ++ durationLiteral (minutes * 60) ++ ")"
  "datetime.datetime(" ++ ", ".intercalate (numbers.map toString) ++ zone ++ ")"

end ZoneFirewall.Yaml
