-- Reading a decimal number with a part and an exponent.
import Chassis.Decimal.Binary64

namespace Chassis.Decimal

/-- The sign in front of a number and the text after it. -/
def splitSign : List Char → Bool × List Char
  | '-' :: rest => (true, rest)
  | '+' :: rest => (false, rest)
  | cs => (false, cs)

def isExponentMark (c : Char) : Bool := c == 'e' || c == 'E'

/-- The exponent of a number; one beyond all use is cut at a hundred thousand. -/
def exponent? : List Char → Option Int
  | [] => some 0
  | _ :: rest =>
    let (down, digits) := splitSign rest
    if digits.isEmpty || digits.any (!·.isDigit) then none
    else
      let n : Int := min 100000 (Nat.ofDigitChars 10 digits 0)
      some (if down then -n else n)

/-- Reads a number: a sign, digits with a point among or around them, an exponent.
There is one digit at least. -/
def number? (cs : List Char) : Option Binary64 := do
  let (negative, cs) := splitSign cs
  let magnitude := cs.takeWhile fun c => !isExponentMark c
  let exponent ← exponent? (cs.dropWhile fun c => !isExponentMark c)
  let whole := magnitude.takeWhile (· ≠ '.')
  let part := (magnitude.dropWhile (· ≠ '.')).drop 1
  let digits := whole ++ part
  if digits.isEmpty || digits.any (!·.isDigit) then none
  else return Binary64.ofDecimal negative (Nat.ofDigitChars 10 digits 0) (exponent - part.length)

end Chassis.Decimal
