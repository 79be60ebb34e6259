import DocStore.Calendar.Instant
import DocStore.Text.Blank
import DocStore.Text.Digits

/-!
# Time stamps

Instants as text. The strict form has fixed widths and a zone; the loose forms have no zone, stand
for UTC, and allow blanks before each number and numbers of fewer digits.
-/

namespace DocStore.Instant

open DocStore.Text

structure Stamp where
  date : Calendar.Date
  hour : Nat := 0
  minute : Nat := 0
  second : Nat := 0
  nanos : Nat := 0
  /-- Seconds that the local clock is ahead of UTC. -/
  offset : Int := 0

/-- The instant of a stamp, if its fields are in range. Second 60 is the leap second after 59. -/
def Stamp.toInstant? (s : Stamp) : Option Instant :=
  if s.date.isValid && s.hour < 24 && s.minute < 60 && s.second ≤ 60 then
    let leap := s.second == 60
    some {
      seconds := s.date.dayNumber * secondsPerDay + s.hour * 3600 + s.minute * 60
        + (if leap then 59 else s.second) - s.offset
      nanos := s.nanos + if leap then billion else 0 }
  else none

def mark (c : Char) : List Char → Option (List Char)
  | d :: rest => if c == d then some rest else none
  | [] => none

def fixedNumber (width : Nat) (s : List Char) : Option (Nat × List Char) :=
  let digits := s.take width
  if digits.length == width && digits.all isDigit then some (natOfDigits digits, s.drop width)
  else none

def shortNumber (width : Nat) (s : List Char) : Option (Nat × List Char) :=
  let digits := (s.take width).takeWhile isDigit
  if digits.isEmpty then none else some (natOfDigits digits, s.drop digits.length)

/-- An optional fraction of a second, in nanoseconds. Nine digits count, further ones are skipped. -/
def fraction : List Char → Option (Nat × List Char)
  | '.' :: s =>
    let (digits, rest) := splitDigits s
    let kept := digits.take 9
    if digits.isEmpty then none
    else some (natOfDigits kept * pow10 (9 - kept.length), rest)
  | s => some (0, s)

/-- A zone: the letter Z, or a sign with hours and minutes. -/
def zone : List Char → Option (Int × List Char)
  | c :: s =>
    if c == 'Z' || c == 'z' then some (0, s)
    else
      let sign : Option Int :=
        if c == '+' then some 1 else if c == '-' || c == '\u2212' then some (-1) else none
      do
        let sign ← sign
        let (hours, s) ← fixedNumber 2 s
        let s ← mark ':' s
        let (minutes, s) ← fixedNumber 2 s
        if hours < 24 && minutes < 60 then some (sign * (hours * 3600 + minutes * 60), s) else none
  | [] => none

/-- The strict form: `2020-01-02T03:04:05.678Z`. -/
def ofStrict? (s : List Char) : Option Instant := do
  let (year, s) ← fixedNumber 4 s
  let s ← mark '-' s
  let (month, s) ← fixedNumber 2 s
  let s ← mark '-' s
  let (day, s) ← fixedNumber 2 s
  let s ← match s with
    | c :: s => if c == 'T' || c == 't' || c == ' ' then some s else none
    | [] => none
  let (hour, s) ← fixedNumber 2 s
  let s ← mark ':' s
  let (minute, s) ← fixedNumber 2 s
  let s ← mark ':' s
  let (second, s) ← fixedNumber 2 s
  let (nanos, s) ← fraction s
  let (offset, s) ← zone s
  if s.isEmpty then
    Stamp.toInstant?
      { date := { year, month, day }, hour, minute, second, nanos, offset }
  else none

def looseNumber (s : List Char) : Option (Nat × List Char) := shortNumber 2 (dropBlanks s)

/-- A year: four digits at most without a sign, any number with one. -/
def looseYear (s : List Char) : Option (Int × List Char) :=
  match dropBlanks s with
  | '-' :: s =>
    let (digits, rest) := splitDigits s
    if digits.isEmpty then none else some (-(natOfDigits digits : Int), rest)
  | '+' :: s =>
    let (digits, rest) := splitDigits s
    if digits.isEmpty then none else some ((natOfDigits digits : Int), rest)
  | s => (shortNumber 4 s).map fun (n, rest) => ((n : Int), rest)

def looseDate (s : List Char) : Option (Calendar.Date × List Char) := do
  let (year, s) ← looseYear s
  let s ← mark '-' s
  let (month, s) ← looseNumber s
  let s ← mark '-' s
  let (day, s) ← looseNumber s
  some ({ year, month, day }, s)

/-- A loose form: the date, hours and minutes, and seconds if they are asked for. The date ends in
its mark, or else in any number of blanks. -/
def looseTime (separator : Option Char) (seconds : Bool) (s : List Char) :
    Option Instant := do
  let (date, s) ← looseDate s
  let s ← separator.elim (some (dropBlanks s)) (mark · s)
  let (hour, s) ← looseNumber s
  let s ← mark ':' s
  let (minute, s) ← looseNumber s
  let (second, nanos, s) ← if seconds then do
      let s ← mark ':' s
      let (second, s) ← looseNumber s
      let (nanos, s) ← fraction s
      some (second, nanos, s)
    else some (0, 0, s)
  if s.isEmpty then Stamp.toInstant? { date, hour, minute, second, nanos } else none

def looseDay (s : List Char) : Option Instant := do
  let (date, s) ← looseDate s
  if s.isEmpty then Stamp.toInstant? { date } else none

def ofText? (text : String) : Option Instant :=
  let s := trim text.toList
  ofStrict? s
    <|> looseTime (some 'T') true s
    <|> looseTime none true s
    <|> looseTime (some 'T') false s
    <|> looseDay s

/-- A year of four digits; beyond them it has a sign. -/
def yearText (year : Int) : String :=
  if 0 ≤ year && year ≤ 9999 then padded 4 year.toNat
  else (if year < 0 then "-" else "+") ++ padded 4 year.natAbs

/-- The strict form with milliseconds, the rest of the fraction dropped. -/
def text (t : Instant) : String :=
  let date := Calendar.Date.ofDayNumber t.dayNumber
  let s := (t.seconds % secondsPerDay).toNat
  let leap := billion ≤ t.nanos
  let second := s % 60 + if leap then 1 else 0
  let nanos := t.nanos - if leap then billion else 0
  yearText date.year ++ "-" ++ padded 2 date.month ++ "-" ++ padded 2 date.day
    ++ "T" ++ padded 2 (s / 3600) ++ ":" ++ padded 2 (s / 60 % 60) ++ ":" ++ padded 2 second
    ++ "." ++ padded 3 (nanos / 1000000) ++ "Z"

end DocStore.Instant
