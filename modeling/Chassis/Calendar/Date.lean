-- Dates of the calendar, and the texts that stand for them. A date is counted in days,
-- so that dates compare and shift as numbers do.
import Chassis.Text.Basic
import Chassis.Text.Digits

namespace Chassis.Calendar

/-! ## Years and months -/

/-- A year has a day more if four divides it, unless a hundred does and four hundred
does not. -/
def isLeap (year : Int) : Bool := year % 4 = 0 && (year % 100 ≠ 0 || year % 400 = 0)

/-- The days of the months in order, in a year that is not a leap year. -/
def monthLengths : List Nat := [31, 28, 31, 30, 31, 30, 31, 31, 30, 31, 30, 31]

/-- The days of a month, counted from one. -/
def daysIn (year : Int) (month : Nat) : Nat :=
  if month = 2 && isLeap year then 29 else monthLengths.getD (month - 1) 0

def firstYear : Int := -262143

def lastYear : Int := 262142

/-! ## Dates -/

/-- A date within the years of the calendar. -/
structure Date where
  year : Int
  month : Nat
  day : Nat
  year_range : firstYear ≤ year ∧ year ≤ lastYear
  month_range : 1 ≤ month ∧ month ≤ 12
  day_range : 1 ≤ day ∧ day ≤ daysIn year month
  deriving DecidableEq, Repr

namespace Date

/-- The date of a year, a month and a day, if there is one. -/
def ofParts? (year : Int) (month day : Nat) : Option Date :=
  if h : (firstYear ≤ year ∧ year ≤ lastYear) ∧ (1 ≤ month ∧ month ≤ 12) ∧ 1 ≤ day ∧
      day ≤ daysIn year month then
    some ⟨year, month, day, h.1, h.2.1, h.2.2⟩
  else none

/-- The days before a year, counted from the first day of the year one. -/
def daysBeforeYear (year : Int) : Int :=
  let past := year - 1
  365 * past + past / 4 - past / 100 + past / 400

def daysBeforeMonth (year : Int) (month : Nat) : Nat :=
  (List.range (month - 1)).foldl (fun days m => days + daysIn year (m + 1)) 0

def dayNumber (date : Date) : Int :=
  daysBeforeYear date.year + daysBeforeMonth date.year date.month + date.day

/-- The number of the first day of the calendar. -/
def firstDay : Int := daysBeforeYear firstYear + 1

/-! ## Texts -/

/-- The date as year, month and day; for the years from zero to 9999. -/
def text (date : Date) : String :=
  s!"{Text.padded 4 date.year.toNat}-{Text.padded 2 date.month}-{Text.padded 2 date.day}"

/-- A number of at least one digit and at most so many, and the text after it. -/
def readNumber? (width : Option Nat) (s : List Char) : Option (Nat × List Char) :=
  let digits := s.takeWhile Char.isDigit
  let taken := match width with
    | some w => digits.take w
    | none => digits
  if taken.isEmpty then none
  else ((Text.addDigits 10 Text.signedLimit 0 taken).toOption).map fun n => (n, s.drop taken.length)

/-- A year: four digits at most, or any number of digits after a sign. -/
def readYear? (s : List Char) : Option (Int × List Char) :=
  match s with
  | '-' :: rest => (readNumber? none rest).map fun (n, rest) => (-(n : Int), rest)
  | '+' :: rest => (readNumber? none rest).map fun (n, rest) => ((n : Int), rest)
  | s => (readNumber? (some 4) s).map fun (n, rest) => ((n : Int), rest)

/-- A hyphen, blanks, and a number of one or two digits. -/
def readPart? (s : List Char) : Option (Nat × List Char) :=
  match s with
  | '-' :: rest => readNumber? (some 2) (Text.trimStart rest)
  | _ => none

/-- The date that a text stands for. Each of its numbers may have blanks in front. -/
def read? (s : List Char) : Option Date := do
  let (year, s) ← readYear? (Text.trimStart s)
  let (month, s) ← readPart? s
  let (day, s) ← readPart? s
  if s.isEmpty then ofParts? year month day else none

end Date

end Chassis.Calendar
