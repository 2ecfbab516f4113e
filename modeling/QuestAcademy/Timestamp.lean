import QuestAcademy.Decimal.Digits
import QuestAcademy.Document.Reading
import QuestAcademy.Text.Blank

namespace QuestAcademy

structure Timestamp where
  day : Int
  second : Nat
  /-- Billionths of a second; a leap second counts more than a billion. -/
  nanosecond : Nat
  deriving DecidableEq

namespace Timestamp

/-- Days from the first day of 1970 to a date. Years begin in March here, so that the leap day is
the last. -/
def daysTo (year : Int) (month day : Nat) : Int :=
  let y := if month ≤ 2 then year - 1 else year
  let era := y.fdiv 400
  let yearOfEra := y - era * 400
  let dayOfYear : Int := ((153 * ((month + 9) % 12) + 2) / 5 + day - 1 : Nat)
  era * 146097 + (yearOfEra * 365 + yearOfEra / 4 - yearOfEra / 100 + dayOfYear) - 719468

def dateOf (days : Int) : Int × Nat × Nat :=
  let z := days + 719468
  let era := z.fdiv 146097
  let dayOfEra := z - era * 146097
  let yearOfEra :=
    (dayOfEra - dayOfEra / 1460 + dayOfEra / 36524 - dayOfEra / 146096) / 365
  let dayOfYear := dayOfEra - (365 * yearOfEra + yearOfEra / 4 - yearOfEra / 100)
  let shifted := (5 * dayOfYear + 2) / 153
  let day := dayOfYear - (153 * shifted + 2) / 5 + 1
  let month := if shifted < 10 then shifted + 3 else shifted - 9
  (yearOfEra + era * 400 + (if month ≤ 2 then 1 else 0), month.toNat, day.toNat)

def isLeap (year : Int) : Bool :=
  year % 4 = 0 && (year % 100 ≠ 0 || year % 400 = 0)

def daysInMonth (year : Int) (month : Nat) : Nat :=
  if month = 2 then if isLeap year then 29 else 28
  else if month = 4 || month = 6 || month = 9 || month = 11 then 30
  else 31

private def skipBlank (cs : List Char) : List Char :=
  cs.dropWhile Text.isBlankChar

private def number? (width : Nat) (cs : List Char) : Option (Nat × List Char) := do
  let cs := skipBlank cs
  let ds := (cs.take width).takeWhile Decimal.isDigit
  return (← Decimal.value? ds, cs.drop ds.length)

private def year? (cs : List Char) : Option (Int × List Char) :=
  match skipBlank cs with
  | '-' :: rest => do
    let ds := rest.takeWhile Decimal.isDigit
    return (-(← Decimal.value? ds : Nat), rest.drop ds.length)
  | '+' :: rest => do
    let ds := rest.takeWhile Decimal.isDigit
    return ((← Decimal.value? ds : Nat), rest.drop ds.length)
  | rest => do
    let (n, rest) ← number? 4 rest
    return (n, rest)

private def after? (c : Char) (cs : List Char) : Option (List Char) :=
  match skipBlank cs with
  | d :: rest => if c = d then some rest else none
  | [] => none

/-- Billionths of a second from digits after a point; digits beyond the ninth are dropped. -/
private def fraction? : List Char → Option (Nat × List Char)
  | '.' :: cs => do
    let ds := (cs.takeWhile Decimal.isDigit).take 9
    return ((← Decimal.value? ds) * Decimal.tenTo (9 - ds.length), cs.dropWhile Decimal.isDigit)
  | cs => some (0, cs)

private def twoDigits? : List Char → Option (Nat × List Char)
  | a :: b :: rest => do return (← Decimal.value? [a, b], rest)
  | _ => none

private def offset? (cs : List Char) : Option (Int × List Char) := do
  match skipBlank cs with
  | 'Z' :: rest => some (0, rest)
  | 'z' :: rest => some (0, rest)
  | c :: rest =>
    if (String.ofList ((c :: rest).take 3)).toUpper = "UTC" then some (0, rest.drop 2)
    else
      let sign ← if c = '+' then some 1 else if c = '-' || c.toNat = 0x2212 then some (-1) else none
      let (hours, rest) ← twoDigits? rest
      let (minutes, rest) ← twoDigits? (rest.dropWhile fun d => d = ':' || Text.isBlankChar d)
      let seconds := hours * 3600 + minutes * 60
      if minutes < 60 && seconds < 86400 then some (sign * (seconds : Int), rest) else none
  | [] => none

/-- The first and the last year that moments can lie in. -/
def firstYear : Int := -262143

def lastYear : Int := 262142

def isInRange (t : Timestamp) : Bool :=
  daysTo firstYear 1 1 ≤ t.day && t.day ≤ daysTo lastYear 12 31

/-- The moment that a text names: date, time and offset. -/
def parse? (s : String) : Option Timestamp := do
  let (year, cs) ← year? s.toList
  let (month, cs) ← number? 2 (← after? '-' cs)
  let (day, cs) ← number? 2 (← after? '-' cs)
  let cs ← match cs with
    | 'T' :: rest => some rest
    | 't' :: rest => some rest
    | ' ' :: rest => some rest
    | _ => none
  let (hour, cs) ← number? 2 cs
  let (minute, cs) ← number? 2 (← after? ':' cs)
  let (second, cs) ← number? 2 (← after? ':' cs)
  let (nanosecond, cs) ← fraction? cs
  let (offset, cs) ← offset? cs
  let sound := 1 ≤ month && month ≤ 12 && 1 ≤ day && day ≤ daysInMonth year month
    && hour < 24 && minute < 60 && second ≤ 60 && (skipBlank cs).isEmpty
    && firstYear ≤ year && year ≤ lastYear
  if sound then
    let leap := second = 60
    let total : Int := hour * 3600 + minute * 60 + (if leap then 59 else second) - offset
    let moment : Timestamp := {
      day := daysTo year month day + total.fdiv 86400
      second := (total.fmod 86400).toNat
      nanosecond := if leap then nanosecond + 1000000000 else nanosecond }
    if moment.isInRange then some moment else none
  else none

private def padded (width n : Nat) : String :=
  let ds := Decimal.digits n
  String.ofList (List.replicate (width - ds.length) '0' ++ ds)

def render (t : Timestamp) : String :=
  let (year, month, day) := dateOf t.day
  let leap := 1000000000 ≤ t.nanosecond
  let nanosecond := if leap then t.nanosecond - 1000000000 else t.nanosecond
  let second := t.second % 60 + (if leap then 1 else 0)
  let yearText :=
    if 0 ≤ year ∧ year ≤ 9999 then padded 4 year.natAbs
    else (if year < 0 then "-" else "+") ++ padded 4 year.natAbs
  let fraction :=
    if nanosecond = 0 then ""
    else if nanosecond % 1000000 = 0 then "." ++ padded 3 (nanosecond / 1000000)
    else if nanosecond % 1000 = 0 then "." ++ padded 6 (nanosecond / 1000)
    else "." ++ padded 9 nanosecond
  yearText ++ "-" ++ padded 2 month ++ "-" ++ padded 2 day ++ "T" ++ padded 2 (t.second / 3600)
    ++ ":" ++ padded 2 (t.second / 60 % 60) ++ ":" ++ padded 2 second ++ fraction ++ "Z"

def read : Reading Timestamp := fun form d =>
  (Reading.text form d).bind parse?

def toDocument (t : Timestamp) : Document := .text t.render

end Timestamp

end QuestAcademy
