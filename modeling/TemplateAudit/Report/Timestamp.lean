import TemplateAudit.Text.Blank
import TemplateAudit.Text.Case

/-!
# Points in time

A timestamp is a day of the Gregorian calendar in Greenwich time, a second of that day and
nanoseconds, of which a leap second has more than a second's worth. `Timestamp.parse?` reads
RFC 3339 with some liberty about blanks and converts to Greenwich time, where it must lie in the
years -262143 to 262142; `Timestamp.render` writes as few groups of three fractional digits as the
nanoseconds need.
-/

namespace TemplateAudit

set_option autoImplicit false

structure Timestamp where
  /-- Days since 1 January 1970. -/
  day : Int
  second : Nat
  nanoseconds : Nat
deriving DecidableEq

namespace Timestamp

/-- Midnight of 1 January 1970. -/
def epoch : Timestamp := ⟨0, 0, 0⟩

def isLeapYear (year : Int) : Bool :=
  year % 4 == 0 && (year % 100 != 0 || year % 400 == 0)

def daysInMonth (year : Int) (month : Nat) : Nat :=
  if month = 2 then (if isLeapYear year then 29 else 28)
  else if month = 4 || month = 6 || month = 9 || month = 11 then 30
  else 31

/-- Days from 1 January 1970 to a date. Years are counted from March, so that the leap day is the
last of its year. -/
def dayOfDate (year : Int) (month day : Nat) : Int :=
  let y := if month ≤ 2 then year - 1 else year
  let era := y.fdiv 400
  let yearOfEra := y - era * 400
  let monthFromMarch : Int := if month ≤ 2 then month + 9 else month - 3
  let dayOfYear := (153 * monthFromMarch + 2).fdiv 5 + (day : Int) - 1
  let dayOfEra := yearOfEra * 365 + yearOfEra.fdiv 4 - yearOfEra.fdiv 100 + dayOfYear
  era * 146097 + dayOfEra - 719468

def dateOfDay (day : Int) : Int × Nat × Nat :=
  let z := day + 719468
  let era := z.fdiv 146097
  let dayOfEra := z - era * 146097
  let yearOfEra :=
    (dayOfEra - dayOfEra.fdiv 1460 + dayOfEra.fdiv 36524 - dayOfEra.fdiv 146096).fdiv 365
  let dayOfYear := dayOfEra - (365 * yearOfEra + yearOfEra.fdiv 4 - yearOfEra.fdiv 100)
  let monthFromMarch := (5 * dayOfYear + 2).fdiv 153
  let dayOfMonth := dayOfYear - (153 * monthFromMarch + 2).fdiv 5 + 1
  let month := if monthFromMarch < 10 then monthFromMarch + 3 else monthFromMarch - 9
  let year := yearOfEra + era * 400 + (if month ≤ 2 then 1 else 0)
  (year, month.toNat, dayOfMonth.toNat)

def skipBlanks (cs : List Char) : List Char :=
  cs.dropWhile Text.isBlank

def isDigit (c : Char) : Bool :=
  48 ≤ c.toNat && c.toNat ≤ 57

def value (digits : List Char) : Nat :=
  digits.foldl (fun n c => n * 10 + (c.toNat - 48)) 0

/-- One to `most` digits after blanks. -/
def number? (most : Nat) (cs : List Char) : Option (Nat × List Char) :=
  let digits := (cs.takeWhile isDigit).take most
  if digits.isEmpty then none else some (value digits, cs.drop digits.length)

/-- A year: four digits at most, or any number of them after a sign. -/
def year? (cs : List Char) : Option (Int × List Char) :=
  match skipBlanks cs with
  | '-' :: rest => (number? rest.length rest).map fun (n, after) => (-(n : Int), after)
  | '+' :: rest => (number? rest.length rest).map fun (n, after) => ((n : Int), after)
  | other => (number? 4 other).map fun (n, after) => ((n : Int), after)

/-- A separator and a number of at most two digits, with blanks before each. -/
def separated? (separator : Char) (cs : List Char) : Option (Nat × List Char) :=
  match skipBlanks cs with
  | c :: rest => if c = separator then number? 2 (skipBlanks rest) else none
  | [] => none

/-- Nanoseconds after a point; digits beyond the ninth are dropped. -/
def fraction? : List Char → Option (Nat × List Char)
  | '.' :: rest =>
    let digits := (rest.takeWhile isDigit).take 9
    if digits.isEmpty then none
    else some (value digits * Nat.pow 10 (9 - digits.length), rest.dropWhile isDigit)
  | other => some (0, other)

def pair? : List Char → Option (Nat × List Char)
  | a :: b :: rest => if isDigit a && isDigit b then some (value [a, b], rest) else none
  | _ => none

/-- The distance to Greenwich time in seconds. -/
def offset? (cs : List Char) : Option (Int × List Char) :=
  match cs with
  | [] => none
  | sign :: rest =>
    if (cs.take 3).map Text.asciiLower == ['u', 't', 'c'] then some (0, cs.drop 3)
    else if sign = 'Z' || sign = 'z' then some (0, rest)
    else if sign = '+' || sign = '-' || sign.toNat = 0x2212 then do
      let (hours, afterHours) ← pair? rest
      let (minutes, after) ← pair? (afterHours.dropWhile fun c => c = ':' || Text.isBlank c)
      let seconds : Int := hours * 3600 + minutes * 60
      if minutes < 60 && seconds < 86400 then
        some (if sign = '+' then seconds else -seconds, after)
      else none
    else none

/-- The instant of a local time `offset` seconds ahead of Greenwich. -/
def ofLocal (day : Int) (second nanoseconds : Nat) (offset : Int) : Timestamp :=
  let shifted := (second : Int) - offset
  ⟨day + shifted.fdiv 86400, (shifted.fmod 86400).toNat, nanoseconds⟩

def firstYear : Int := -262143

def lastYear : Int := 262142

/-- Whether a day lies in the years that are provided for. -/
def isDay (day : Int) : Bool :=
  dayOfDate firstYear 1 1 ≤ day && day ≤ dayOfDate lastYear 12 31

def parse? (text : String) : Option Timestamp := do
  let (year, afterYear) ← year? text.toList
  let (month, afterMonth) ← separated? '-' afterYear
  let (day, afterDay) ← separated? '-' afterMonth
  let afterMark ← match afterDay with
    | c :: rest => if c = 'T' || c = 't' || c = ' ' then some rest else none
    | [] => none
  let (hour, afterHour) ← number? 2 (skipBlanks afterMark)
  let (minute, afterMinute) ← separated? ':' afterHour
  let (second, afterSecond) ← separated? ':' afterMinute
  let (nanoseconds, afterFraction) ← fraction? afterSecond
  let (offset, rest) ← offset? (skipBlanks afterFraction)
  let isDate := firstYear ≤ year && year ≤ lastYear && 1 ≤ month && month ≤ 12 && 1 ≤ day &&
    day ≤ daysInMonth year month
  let isTime := hour < 24 && minute < 60 && second ≤ 60
  if isDate && isTime && rest.all Text.isBlank then
    let leap := if second = 60 then 1000000000 else 0
    let instant := ofLocal (dayOfDate year month day) (hour * 3600 + minute * 60 + min second 59)
      (nanoseconds + leap) offset
    if isDay instant.day then some instant else none
  else none

def padded (width n : Nat) : String :=
  let digits := toString n
  String.ofList (List.replicate (width - digits.length) '0') ++ digits

def yearText (year : Int) : String :=
  if 0 ≤ year ∧ year ≤ 9999 then padded 4 year.toNat
  else (if year < 0 then "-" else "+") ++ padded 4 year.natAbs

def fractionText (nanoseconds : Nat) : String :=
  if nanoseconds = 0 then ""
  else if nanoseconds % 1000000 = 0 then "." ++ padded 3 (nanoseconds / 1000000)
  else if nanoseconds % 1000 = 0 then "." ++ padded 6 (nanoseconds / 1000)
  else "." ++ padded 9 nanoseconds

def render (t : Timestamp) : String :=
  let (year, month, day) := dateOfDay t.day
  let leap := t.nanoseconds / 1000000000
  yearText year ++ "-" ++ padded 2 month ++ "-" ++ padded 2 day ++ "T" ++
    padded 2 (t.second / 3600) ++ ":" ++ padded 2 (t.second / 60 % 60) ++ ":" ++
    padded 2 (t.second % 60 + leap) ++ fractionText (t.nanoseconds % 1000000000) ++ "Z"

end Timestamp

end TemplateAudit
