-- Numbers as digits: reading an unsigned number of ASCII digits, a leading plus sign allowed,
-- within the width of the number that is wanted, and writing a number with zeros in front.
namespace Chassis.Text

/-! ## Widths -/

/-- The greatest unsigned number of 64 bits. -/
def unsignedLimit : Nat := 0xffffffffffffffff

/-- The greatest signed number of 64 bits; the least one is one further from zero. -/
def signedLimit : Nat := 0x7fffffffffffffff

/-! ## Digits -/

/-- Why a text is not an unsigned number of the width that is wanted. -/
inductive DigitFault where
  | empty
  | invalidDigit
  | tooLarge
  deriving DecidableEq, Repr

def DigitFault.message : DigitFault → String
  | .empty => "cannot parse integer from empty string"
  | .invalidDigit => "invalid digit found in string"
  | .tooLarge => "number too large to fit in target type"

/-- The value of a digit in a base up to 36. -/
def digitValue? (base : Nat) (c : Char) : Option Nat :=
  let value :=
    if c.isDigit then some (c.toNat - '0'.toNat)
    else if 'a' ≤ c && c ≤ 'z' then some (c.toNat - 'a'.toNat + 10)
    else if 'A' ≤ c && c ≤ 'Z' then some (c.toNat - 'A'.toNat + 10)
    else none
  value.filter (· < base)

/-- Reads the digits one by one onto `total`; the first digit that is none, or
that takes the number above `limit`, decides the fault. -/
def addDigits (base limit : Nat) (total : Nat) : List Char → Except DigitFault Nat
  | [] => .ok total
  | c :: rest =>
    match digitValue? base c with
    | none => .error .invalidDigit
    | some d =>
      let next := total * base + d
      if next ≤ limit then addDigits base limit next rest else .error .tooLarge

/-- Reads an unsigned number of at most `limit`. -/
def readUnsigned (limit : Nat) (s : List Char) : Except DigitFault Nat :=
  match s with
  | [] => .error .empty
  | ['+'] => .error .invalidDigit
  | '+' :: digits => addDigits 10 limit 0 digits
  | digits => addDigits 10 limit 0 digits

/-- A number with a sign, if 64 bits hold it. -/
def signed? (negative : Bool) (n : Nat) : Option Int :=
  if negative then if n ≤ signedLimit + 1 then some (-(n : Int)) else none
  else if n ≤ signedLimit then some n else none

/-- Reads a signed number of 64 bits in the given base. -/
def readSigned? (base : Nat) (s : List Char) : Option Int :=
  let (negative, digits) := match s with
    | '-' :: digits => (true, digits)
    | '+' :: digits => (false, digits)
    | digits => (false, digits)
  if digits.isEmpty then none
  else (addDigits base (signedLimit + 1) 0 digits).toOption.bind (signed? negative)

/-- The character of a code point in base sixteen. -/
def codePoint? (digits : List Char) : Option Char :=
  match (addDigits 16 0x10ffff 0 digits).toOption with
  | none => none
  | some n => if 0xd800 ≤ n && n ≤ 0xdfff then none else some (Char.ofNat n)

/-! ## Writing -/

/-- A number with zeros in front up to a width. -/
def padded (width n : Nat) : String :=
  let digits := Nat.toDigits 10 n
  String.ofList (List.replicate (width - digits.length) '0' ++ digits)

end Chassis.Text
