import LintMend.Arithmetic
import LintMend.Text.Basic

/-!
# Instants

Points in universal time to the nanosecond, and how they are written and read. A
leap second is a second whose nanoseconds run on beyond a thousand million.
Writing gives no fraction, or one of three, six or nine digits. Reading allows
blanks between the parts and any offset.
-/

namespace LintMend

structure Instant where
  /-- Seconds since the beginning of 1970. -/
  second : Int
  /-- Nanoseconds within the second. -/
  nano : Nat
  deriving DecidableEq, Repr

/-- Why a text is no instant. -/
inductive InstantFault
  | tooShort
  | tooLong
  | invalid
  | outOfRange
  /-- The instant lies outside the calendar in universal time only. -/
  | impossible
  deriving DecidableEq, Repr

def InstantFault.message : InstantFault → String
  | tooShort => "premature end of input"
  | tooLong => "trailing input"
  | invalid => "input contains invalid characters"
  | outOfRange => "input is out of range"
  | impossible => "no possible date and time matching input"

namespace Instant

def nanosPerSecond : Nat := 1000000000

def secondsPerDay : Nat := 86400

def ofMillis (millis : Int) : Instant :=
  { second := millis.fdiv 1000, nano := (millis.fmod 1000).toNat * 1000000 }

def le (left right : Instant) : Bool :=
  decide (left.second < right.second)
    || (left.second == right.second && decide (left.nano ≤ right.nano))

def isLeap (instant : Instant) : Bool :=
  decide (nanosPerSecond ≤ instant.nano)

/-- The second of the day. -/
def clock (instant : Instant) : Nat :=
  (instant.second.fmod secondsPerDay).toNat

/-- The nanoseconds from an instant to a later one. A leap second on the way
counts, told by the time of day at which it lies. -/
def elapsed (now since : Instant) : Int :=
  let leap : Int :=
    if since.clock < now.clock then (if since.isLeap then 1 else 0)
    else if now.clock < since.clock then (if now.isLeap then -1 else 0)
    else 0
  (now.second - since.second + leap) * nanosPerSecond +
    ((now.nano : Int) - since.nano)

/-! ## The calendar -/

def isLeapYear (year : Int) : Bool :=
  year.fmod 4 == 0 && (year.fmod 100 != 0 || year.fmod 400 == 0)

def daysInMonth (year : Int) (month : Nat) : Nat :=
  if month = 2 then (if isLeapYear year then 29 else 28)
  else if month = 4 ∨ month = 6 ∨ month = 9 ∨ month = 11 then 30
  else 31

/-- The day counted from the first of January 1970. Years are taken to begin in
March, so that the leap day ends a year. -/
def dayNumber (year : Int) (month day : Nat) : Int :=
  let shifted := if month ≤ 2 then year - 1 else year
  let era := shifted.fdiv 400
  let yearOfEra := shifted - era * 400
  let monthFromMarch : Nat := if 2 < month then month - 3 else month + 9
  let dayOfYear : Int := ((153 * monthFromMarch + 2) / 5 + day - 1 : Nat)
  era * 146097 + (yearOfEra * 365 + yearOfEra.fdiv 4 - yearOfEra.fdiv 100 +
      dayOfYear) - 719468

/-- The date of a day: year, month and day of the month. -/
def dateOf (number : Int) : Int × Nat × Nat :=
  let shifted := number + 719468
  let era := shifted.fdiv 146097
  let dayOfEra := (shifted - era * 146097).toNat
  let yearOfEra :=
    (dayOfEra - dayOfEra / 1460 + dayOfEra / 36524 - dayOfEra / 146096) / 365
  let dayOfYear :=
    dayOfEra - (365 * yearOfEra + yearOfEra / 4 - yearOfEra / 100)
  let monthFromMarch := (5 * dayOfYear + 2) / 153
  let day := dayOfYear - (153 * monthFromMarch + 2) / 5 + 1
  let month :=
    if monthFromMarch < 10 then monthFromMarch + 3 else monthFromMarch - 9
  (yearOfEra + era * 400 + (if month ≤ 2 then 1 else 0), month, day)

/-! ## Writing -/

/-- A number with zeros in front up to the width. -/
def padded (width n : Nat) : String :=
  let digits := toString n
  String.ofList (List.replicate (width - digits.length) '0') ++ digits

/-- Years of four digits stand alone, all others carry a sign. -/
def yearText (year : Int) : String :=
  if 0 ≤ year ∧ year ≤ 9999 then padded 4 year.toNat
  else (if year < 0 then "-" else "+") ++ padded 4 year.natAbs

def fractionText (nano : Nat) : String :=
  if nano = 0 then ""
  else if nano % 1000000 = 0 then "." ++ padded 3 (nano / 1000000)
  else if nano % 1000 = 0 then "." ++ padded 6 (nano / 1000)
  else "." ++ padded 9 nano

/-- Year, month and day. -/
def dateText (instant : Instant) : String :=
  let (year, month, day) := dateOf (instant.second.fdiv secondsPerDay)
  yearText year ++ "-" ++ padded 2 month ++ "-" ++ padded 2 day

/-- Hour, minute and second; a leap second is the sixtieth of its minute. -/
def clockText (instant : Instant) : String :=
  let clock := instant.clock
  let second := clock % 60 + if instant.isLeap then 1 else 0
  padded 2 (clock / 3600) ++ ":" ++ padded 2 (clock / 60 % 60) ++ ":" ++
    padded 2 second

def text (instant : Instant) : String :=
  instant.dateText ++ "T" ++ instant.clockText
    ++ fractionText (instant.nano % nanosPerSecond)
    ++ "Z"

/-- Date and time for readers, to the second. -/
def calendarText (instant : Instant) : String :=
  instant.dateText ++ " " ++ instant.clockText

/-! ## Reading -/

/-- Reads at least one digit and at most `most`. -/
def number (most : Nat) (text : Text) : Except InstantFault (Nat × Text) :=
  let digits := (text.takeWhile Char.isDigit).take most
  if text.isEmpty then .error .tooShort
  else if digits.isEmpty then .error .invalid
  else
    .ok (digits.foldl (fun n c => n * 10 + (c.toNat - 48)) 0,
        text.drop digits.length)

/-- Reads blanks and a number of at most two digits within a range. -/
def field (low high : Nat) (text : Text) :
    Except InstantFault (Nat × Text) := do
  let (n, rest) ← number 2 (Text.trimStart text)
  if low ≤ n ∧ n ≤ high then return (n, rest) else throw .outOfRange

/-- Reads blanks and a mark. -/
def mark (mark : Char) (text : Text) : Except InstantFault Text :=
  match Text.trimStart text with
  | [] => .error .tooShort
  | c :: rest => if c = mark then .ok rest else .error .invalid

/-- What lies between the date and the time. -/
def separator : Text → Except InstantFault Text
  | [] => .error .tooShort
  | c :: rest =>
      if c = 't' ∨ c = 'T' ∨ c = ' ' then .ok rest else .error .invalid

/-- The years that can be read, though not all of them have instants. -/
def readableYear (year : Int) : Except InstantFault Int :=
  if -(twoTo 31 : Int) ≤ year ∧ year < twoTo 31 then .ok year
  else .error .outOfRange

/-- A year with a sign may have any number of digits. -/
def year (text : Text) : Except InstantFault (Int × Text) := do
  let (year, rest) ←
    match Text.trimStart text with
    | '-' :: rest =>
        (number rest.length rest).map fun (n, behind) => (-(n : Int), behind)
    | '+' :: rest =>
        (number rest.length rest).map fun (n, behind) => ((n : Int), behind)
    | rest => (number 4 rest).map fun (n, behind) => ((n : Int), behind)
  return (← readableYear year, rest)

/-- The nanoseconds of a fraction; digits beyond the ninth do not count. -/
def fraction (text : Text) : Except InstantFault (Nat × Text) :=
  match text with
  | '.' :: rest => do
    let (_, _) ← number 9 rest
    let digits := rest.takeWhile Char.isDigit
    let nine := (digits ++ List.replicate 9 '0').take 9
    return (nine.foldl (fun n c => n * 10 + (c.toNat - 48)) 0,
        rest.drop digits.length)
  | _ => .ok (0, text)

/-- Two digits, the first at most `first`. A text of a single byte is too short
for them. -/
def twoDigits (first : Char) (text : Text) : Except InstantFault (Nat × Text) :=
  match text with
  | a :: b :: rest =>
    if !(a.isDigit && b.isDigit) then .error .invalid
    else if first < a then .error .outOfRange
    else .ok ((a.toNat - 48) * 10 + (b.toNat - 48), rest)
  | [a] => .error (if a.utf8Size < 2 then .tooShort else .invalid)
  | [] => .error .tooShort

/-- The seconds east of universal time. -/
def offset (text : Text) : Except InstantFault (Int × Text) :=
  match text with
  | [] => .error .tooShort
  | sign :: rest =>
    if sign = 'Z' ∨ sign = 'z' then .ok (0, rest)
    else if (text.take 3).map Char.toLower = ['u', 't', 'c'] then
      .ok (0, text.drop 3)
    else if sign = '+' ∨ sign = '-' ∨ sign = '\u2212' then do
      let (hours, rest) ← twoDigits '9' rest
      let rest := rest.dropWhile fun c => c == ':' || Text.isBlank c
      let (minutes, rest) ← twoDigits '5' rest
      let seconds : Int := hours * 3600 + minutes * 60
      return (if sign = '+' then seconds else -seconds, rest)
    else .error .invalid

/-- The years an instant may lie in. -/
def minYear : Int := -262143
def maxYear : Int := 262142

def isYear (year : Int) : Bool :=
  decide (minYear ≤ year) && decide (year ≤ maxYear)

def ofText (text : Text) : Except InstantFault Instant := do
  let (year, rest) ← year text
  let (month, rest) ← field 1 12 (← mark '-' rest)
  let (day, rest) ← field 1 31 (← mark '-' rest)
  let (hour, rest) ← field 0 23 (← separator rest)
  let (minute, rest) ← field 0 59 (← mark ':' rest)
  let (second, rest) ← field 0 60 (← mark ':' rest)
  let (nano, rest) ← fraction rest
  let (offset, rest) ← offset (Text.trimStart rest)
  if !Text.blank rest then throw .tooLong
  else if daysInMonth year month < day || !isYear year || 86400 ≤
    offset.natAbs then
      throw .outOfRange
  else
    let leap := second == 60
    let clock : Int :=
      hour * 3600 + minute * 60 + (if leap then 59 else second : Nat)
    let instant : Instant :=
      { second := dayNumber year month day * secondsPerDay + clock - offset
        nano := if leap then nano + nanosPerSecond else nano }
    let (year, _, _) := dateOf (instant.second.fdiv secondsPerDay)
    if isYear year then return instant else throw .impossible

end Instant

/-- What a clock shows each time it is looked at. -/
structure Clock where
  shows : Nat → Instant

/-- A clock that stands still. -/
def Clock.still (instant : Instant) : Clock :=
  { shows := fun _ => instant }

instance : Coe Instant Clock := ⟨Clock.still⟩

end LintMend
