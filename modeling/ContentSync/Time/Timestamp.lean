/-!
# Timestamps with a fixed offset

A `Timestamp` is a local date and time of day together with the offset from UTC at which it was
written. Two timestamps denote the same instant when their UTC readings agree, whatever their
offsets.

Reading follows RFC 3339: `YYYY-MM-DD`, then `T`, `t` or a space, then `hh:mm:ss`, an optional
fraction of any length (digits past the ninth are dropped), and `Z`, `z` or `±hh:mm`. The
offset may not exceed 23:59. A second of 60 is a leap second, kept as a nanosecond count of a
billion or more. Faults are of four kinds: the input is too short, holds a wrong character, has
a field out of range, or goes on after the offset. A date that does not exist is found before
anything after it is read; an hour, minute or second out of range only after the fraction.

Writing gives `YYYY-MM-DDThh:mm:ss.fff±hh:mm`, the fraction cut (not rounded) to milliseconds.

Main definitions: `readRfc3339`, `Timestamp.toText`, `Timestamp.sameInstant`,
`Timestamp.ofUnixMillis`.
-/

namespace ContentSync.Time

/-- A local date and time with the offset it was written at. -/
structure Timestamp where
  year : Nat
  month : Nat
  day : Nat
  hour : Nat
  minute : Nat
  /-- The second of the minute, at most 59; a leap second is 59 with `nanos` past a billion. -/
  second : Nat
  nanos : Nat
  /-- Seconds east of UTC. -/
  offset : Int
deriving DecidableEq, Repr

/-- Why a text is not an RFC 3339 timestamp. -/
inductive DateFault where
  /-- The input ends before the timestamp does. -/
  | tooShort
  /-- A character is not the one the format asks for. -/
  | invalid
  /-- A field is outside its range, or the date does not exist. -/
  | outOfRange
  /-- Characters follow the offset. -/
  | tooLong
deriving DecidableEq, Repr

/-- The text that names a fault of timestamp reading. -/
def DateFault.message : DateFault → String
  | .tooShort => "premature end of input"
  | .invalid => "input contains invalid characters"
  | .outOfRange => "input is out of range"
  | .tooLong => "trailing input"

/-- Whether `y` is a leap year of the proleptic Gregorian calendar. -/
def isLeapYear (y : Nat) : Bool :=
  y % 4 = 0 ∧ (y % 100 ≠ 0 ∨ y % 400 = 0)

/-- Number of days of month `m` in year `y`. -/
def daysInMonth (y m : Nat) : Nat :=
  match m with
  | 2 => if isLeapYear y then 29 else 28
  | 4 | 6 | 9 | 11 => 30
  | _ => 31

/-- Days from 1970-01-01 to the given date of the proleptic Gregorian calendar. -/
def daysFromCivil (y m d : Nat) : Int :=
  let y : Int := if m ≤ 2 then (y : Int) - 1 else y
  let era := (if y ≥ 0 then y else y - 399) / 400
  let yoe := y - era * 400
  let mp : Int := if m > 2 then (m : Int) - 3 else (m : Int) + 9
  let doy := (153 * mp + 2) / 5 + d - 1
  let doe := yoe * 365 + yoe / 4 - yoe / 100 + doy
  era * 146097 + doe - 719468

/-- The date of the proleptic Gregorian calendar that lies `days` days after 1970-01-01. -/
def civilFromDays (days : Nat) : Nat × Nat × Nat :=
  let z := days + 719468
  let era := z / 146097
  let doe := z - era * 146097
  let yoe := (doe - doe / 1460 + doe / 36524 - doe / 146096) / 365
  let doy := doe - (365 * yoe + yoe / 4 - yoe / 100)
  let mp := (5 * doy + 2) / 153
  let d := doy - (153 * mp + 2) / 5 + 1
  let m := if mp < 10 then mp + 3 else mp - 9
  let y := yoe + era * 400
  (if m ≤ 2 then y + 1 else y, m, d)

/-- The UTC timestamp `ms` milliseconds after the start of 1970. -/
def Timestamp.ofUnixMillis (ms : Nat) : Timestamp :=
  let (year, month, day) := civilFromDays (ms / 86400000)
  let inDay := ms % 86400000 / 1000
  { year, month, day, hour := inDay / 3600, minute := inDay / 60 % 60, second := inDay % 60,
    nanos := ms % 1000 * 1000000, offset := 0 }

/-- Seconds of the UTC reading since 1970, leap fraction apart. -/
def Timestamp.utcSeconds (t : Timestamp) : Int :=
  daysFromCivil t.year t.month t.day * 86400 + t.hour * 3600 + t.minute * 60 + t.second - t.offset

/-- Whether two timestamps denote the same instant. -/
def Timestamp.sameInstant (a b : Timestamp) : Bool :=
  a.utcSeconds == b.utcSeconds && a.nanos == b.nanos

/-- Number of UTF-8 bytes of some characters. -/
def byteCount (cs : List Char) : Nat :=
  (cs.map Char.utf8Size).foldr (· + ·) 0

/-- Reads exactly `count` ASCII digits: fewer bytes than that is too short, a non-digit among
them a wrong character. -/
def fixedDigits (count : Nat) (cs : List Char) : Except DateFault (Nat × List Char) :=
  let ds := (cs.take count).takeWhile fun c => '0' ≤ c ∧ c ≤ '9'
  if ds.length < count then
    if byteCount cs < count then .error .tooShort else .error .invalid
  else .ok (ds.foldl (fun acc c => acc * 10 + (c.toNat - 48)) 0, cs.drop count)

/-- Expects the character `c`. -/
def expectChar (c : Char) : List Char → Except DateFault (List Char)
  | [] => .error .tooShort
  | d :: rest => if d = c then .ok rest else .error .invalid

/-- Reads a fraction of a second: one to nine digits count, further digits are skipped. -/
def readFraction (cs : List Char) : Except DateFault (Nat × List Char) :=
  let isDigit := fun c : Char => '0' ≤ c ∧ c ≤ '9'
  let ds := (cs.take 9).takeWhile isDigit
  if ds.isEmpty then
    if cs.isEmpty then .error .tooShort else .error .invalid
  else
    let value := ds.foldl (fun acc c => acc * 10 + (c.toNat - 48)) 0
    .ok (value * Nat.pow 10 (9 - ds.length), (cs.drop ds.length).dropWhile isDigit)

/-- Reads the offset: `Z`, `z`, or a sign (`+`, `-` or U+2212), hours, a colon, minutes. -/
def readOffset (cs : List Char) : Except DateFault (Int × List Char) := do
  match cs with
  | 'Z' :: rest => return (0, rest)
  | 'z' :: rest => return (0, rest)
  | [] => throw .tooShort
  | sign :: rest =>
    let negative ← match sign with
      | '+' => pure false
      | '-' => pure true
      | '−' => pure true
      | _ => throw .invalid
    if byteCount rest < 2 then throw .tooShort
    match rest with
    | h1 :: h2 :: rest =>
      if !('0' ≤ h1 ∧ h1 ≤ '9' ∧ '0' ≤ h2 ∧ h2 ≤ '9') then throw .invalid
      let hours := (h1.toNat - 48) * 10 + (h2.toNat - 48)
      let rest ← expectChar ':' rest
      if byteCount rest < 2 then throw .tooShort
      match rest with
      | m1 :: m2 :: rest =>
        if '0' ≤ m1 ∧ m1 ≤ '5' ∧ '0' ≤ m2 ∧ m2 ≤ '9' then
          let minutes := (m1.toNat - 48) * 10 + (m2.toNat - 48)
          let seconds : Int := hours * 3600 + minutes * 60
          return (if negative then -seconds else seconds, rest)
        else if '6' ≤ m1 ∧ m1 ≤ '9' ∧ '0' ≤ m2 ∧ m2 ≤ '9' then throw .outOfRange
        else throw .invalid
      | _ => throw .invalid
    | _ => throw .invalid

/-- Reads an RFC 3339 timestamp. The date is checked as soon as it is read, before the
separator; the time of day once its fraction is read, before the offset; and the offset's
range only after the check for trailing input. -/
def readRfc3339 (s : String) : Except DateFault Timestamp := do
  let cs := s.toList
  -- the date and the time of day take nineteen bytes at the least
  if s.utf8ByteSize < 19 then throw .tooShort
  let (year, cs) ← fixedDigits 4 cs
  let cs ← expectChar '-' cs
  let (month, cs) ← fixedDigits 2 cs
  let cs ← expectChar '-' cs
  let (day, cs) ← fixedDigits 2 cs
  if month < 1 ∨ 12 < month ∨ day < 1 ∨ daysInMonth year month < day then throw .outOfRange
  let cs ← match cs with
    | c :: rest => if c = 'T' ∨ c = 't' ∨ c = ' ' then pure rest else throw .invalid
    | [] => throw .tooShort
  let (hour, cs) ← fixedDigits 2 cs
  let cs ← expectChar ':' cs
  let (minute, cs) ← fixedDigits 2 cs
  let cs ← expectChar ':' cs
  let (second, cs) ← fixedDigits 2 cs
  let (nanos, cs) ← match cs with
    | '.' :: rest => readFraction rest
    | _ => pure (0, cs)
  if 23 < hour ∨ 59 < minute ∨ 60 < second then throw .outOfRange
  let (offset, cs) ← readOffset cs
  if !cs.isEmpty then throw .tooLong
  if offset.natAbs > 23 * 3600 + 59 * 60 then throw .outOfRange
  let (second, nanos) := if second = 60 then (59, nanos + 1000000000) else (second, nanos)
  return { year, month, day, hour, minute, second, nanos, offset }

/-- Two decimal digits of `n`. -/
def twoDigits (n : Nat) : String :=
  String.ofList [Char.ofNat (48 + n / 10 % 10), Char.ofNat (48 + n % 10)]

/-- Three decimal digits of `n`. -/
def threeDigits (n : Nat) : String :=
  String.ofList [Char.ofNat (48 + n / 100 % 10), Char.ofNat (48 + n / 10 % 10),
    Char.ofNat (48 + n % 10)]

/-- The RFC 3339 text with milliseconds and a numeric offset. -/
def Timestamp.toText (t : Timestamp) : String :=
  let (second, nanos) := if t.nanos ≥ 1000000000 then (t.second + 1, t.nanos - 1000000000)
    else (t.second, t.nanos)
  let sign := if t.offset < 0 then "-" else "+"
  let off := t.offset.natAbs
  twoDigits (t.year / 100) ++ twoDigits (t.year % 100) ++ "-" ++ twoDigits t.month ++ "-" ++
    twoDigits t.day ++ "T" ++ twoDigits t.hour ++ ":" ++ twoDigits t.minute ++ ":" ++
    twoDigits second ++ "." ++ threeDigits (nanos / 1000000) ++ sign ++
    twoDigits (off / 3600) ++ ":" ++ twoDigits (off / 60 % 60)

/-- A timestamp written with milliseconds and read back: cut to milliseconds, or the timestamp
itself when its text does not read. -/
def Timestamp.throughText (t : Timestamp) : Timestamp :=
  match readRfc3339 t.toText with
  | .ok date => date
  | .error _ => t

end ContentSync.Time
