-- Keys of settings files are paths: a name, then further names after points and
-- positions in brackets. A key that is no path stands for itself.
import Chassis.Text.Digits

namespace Chassis.Settings

/-- One step from a value to a part of it. -/
inductive Step where
  | field (name : String)
  | item (position : Int)
  deriving DecidableEq, Repr

/-- How many items a list has at least for a step into it. -/
def Step.reach : Step → Nat
  | field _ => 0
  | item position => if 0 ≤ position then position.toNat + 1 else position.natAbs

/-- The steps from the root of a document to one of its parts. -/
abbrev KeyPath := List Step

/-- How many values a list can hold: their bytes are counted by a signed number of 64 bits, and a
value takes 96 of them. -/
def itemLimit : Nat := Text.signedLimit / 96

namespace KeyPath

/-- No list on the path is longer than a list can be. -/
def isHeld (path : KeyPath) : Bool := path.all fun step => step.reach ≤ itemLimit

/-- The characters of a name in a path. -/
def isNameChar (c : Char) : Bool :=
  c.isAlphanum || c == '_' || c == '-'

/-- The characters that may pad a position. -/
def isPad (c : Char) : Bool := c == ' ' || c == '\t'

/-- A name and the text after it; a name has one character at least. -/
def name? (s : List Char) : Option (String × List Char) :=
  match s.takeWhile isNameChar with
  | [] => none
  | cs => some (String.ofList cs, s.dropWhile isNameChar)

/-- A position of 64 bits and the text after it. -/
def position? (s : List Char) : Option (Int × List Char) :=
  let (negative, s) := match s with
    | '-' :: rest => (true, rest)
    | _ => (false, s)
  let digits := s.takeWhile Char.isDigit
  if digits.isEmpty then none
  else (Text.signed? negative (Nat.ofDigitChars 10 digits 0)).map fun n =>
    (n, s.dropWhile Char.isDigit)

/-- The steps after the first name. Each takes one character at least. -/
def steps? : Nat → List Char → Option (List Step)
  | _, [] => some []
  | 0, _ => none
  | fuel + 1, '.' :: rest => do
    let (name, rest) ← name? rest
    return .field name :: (← steps? fuel rest)
  | fuel + 1, '[' :: rest => do
    let (position, rest) ← position? (rest.dropWhile isPad)
    match rest.dropWhile isPad with
    | ']' :: rest => return .item position :: (← steps? fuel rest)
    | _ => none
  | _, _ => none

def parse? (key : String) : Option KeyPath := do
  let (name, rest) ← name? key.toList
  return .field name :: (← steps? rest.length rest)

/-- The path that a key of a document stands for. -/
def ofKey (key : String) : KeyPath := (parse? key).getD [.field key]

end KeyPath

end Chassis.Settings
