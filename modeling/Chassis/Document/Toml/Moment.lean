-- Dates and times as they stand in TOML, and the one text that each is given.
import Chassis.Calendar.Date
import Chassis.Document.Reader

namespace Chassis.Document.Toml

open Reader

/-- A number with a fixed count of digits. -/
def fixedDigits (count : Nat) : Reader Nat := do
  let digits ← take count
  require (digits.all Char.isDigit)
  return Nat.ofDigitChars 10 digits 0

def date : Reader String := do
  let year ← fixedDigits 4
  char '-'
  let month ← fixedDigits 2
  char '-'
  let day ← fixedDigits 2
  require (1 ≤ month && month ≤ 12 && 1 ≤ day && day ≤ Calendar.daysIn year month)
  return s!"{Text.padded 4 year}-{Text.padded 2 month}-{Text.padded 2 day}"

/-- The part of a second: at most nine digits count, and zeros at the end are dropped. -/
def secondPart : Reader String := do
  if ← tryText "." then
    let digits ← takeSome Char.isDigit
    let digits := ((digits.take 9).reverse.dropWhile (· = '0')).reverse
    return if digits.isEmpty then "" else "." ++ String.ofList digits
  else return ""

def time : Reader String := do
  let hour ← fixedDigits 2
  char ':'
  let minute ← fixedDigits 2
  char ':'
  let second ← fixedDigits 2
  require (hour ≤ 23 && minute ≤ 59 && second ≤ 60)
  return s!"{Text.padded 2 hour}:{Text.padded 2 minute}:{Text.padded 2 second}{← secondPart}"

/-- How far local time is from universal time, in its text. -/
def offset : Reader String := do
  match ← peek? with
  | some 'Z' | some 'z' =>
    let _ ← next
    return "Z"
  | some '+' | some '-' =>
    let sign ← next
    let hours ← fixedDigits 2
    char ':'
    let minutes ← fixedDigits 2
    require (hours ≤ 23 && minutes ≤ 59)
    let sign := if sign = '-' && 0 < hours + minutes then "-" else "+"
    return s!"{sign}{Text.padded 2 hours}:{Text.padded 2 minutes}"
  | _ => return ""

/-- A date, a time, or both with or without an offset. -/
def moment : Reader String := do
  let here ← get
  if (here.drop 2).head? = some ':' then time
  else
    let day ← date
    match ← get with
    | 'T' :: rest | 't' :: rest =>
      set rest
      return s!"{day}T{← time}{← offset}"
    | ' ' :: c :: rest =>
      if c.isDigit then
        set (c :: rest)
        return s!"{day}T{← time}{← offset}"
      else return day
    | _ => return day

end Chassis.Document.Toml
