-- Numbers in the binary64 format, kept exactly: a finite one is a whole number
-- of at most 53 bits times a power of two. Every operation here is on whole numbers.
namespace Chassis.Decimal

/-- A binary64 number. A finite one is `mantissa * 2 ^ exponent`; the mantissa is
below `2 ^ 53`, and at least `2 ^ 52` unless the exponent is the least one. -/
inductive Binary64 where
  | nan
  | infinite (negative : Bool)
  | finite (negative : Bool) (mantissa : Nat) (exponent : Int)
  deriving DecidableEq, Repr

namespace Binary64

/-- The least exponent of a finite number. -/
def leastExponent : Int := -1074

/-- The greatest exponent of a finite number. -/
def greatestExponent : Int := 971

/-- The least mantissa of 53 bits, `2 ^ 52`. -/
def leastFull : Nat := 0x10000000000000

/-- The zero of a sign. -/
def zero (negative : Bool) : Binary64 := .finite negative 0 leastExponent

/-! ## Rounding -/

/-- The whole number nearest to `num / den`; a tie goes to the even one. -/
def roundHalfEven (num den : Nat) : Nat :=
  let low := num / den
  let rest := num % den
  if 2 * rest < den then low
  else if den < 2 * rest then low + 1
  else if low % 2 = 0 then low else low + 1

/-- The quotient `num / (den * 2 ^ q)` as a fraction of whole numbers. -/
def scaleDown (num den : Nat) (q : Int) : Nat × Nat :=
  if q < 0 then (num * Nat.pow 2 (-q).toNat, den) else (num, den * Nat.pow 2 q.toNat)

/-- The exponent that leaves the quotient a mantissa of 53 bits, or the least one. -/
def exponentFor (num den : Nat) : Int :=
  let guess : Int := (Nat.log2 num : Int) - Nat.log2 den - 53
  let (n, d) := scaleDown num den guess
  max leastExponent (if 2 * leastFull ≤ n / d then guess + 1 else guess)

/-- The binary64 number nearest to `num / den`, where `den` is not zero. -/
def ofRatio (negative : Bool) (num den : Nat) : Binary64 :=
  if num = 0 then zero negative
  else
    let q := exponentFor num den
    let (n, d) := scaleDown num den q
    let m := roundHalfEven n d
    let (m, q) := if m = 2 * leastFull then (leastFull, q + 1) else (m, q)
    if greatestExponent < q then .infinite negative else .finite negative m q

/-- The binary64 number nearest to `digits * 10 ^ power`. -/
def ofDecimal (negative : Bool) (digits : Nat) (power : Int) : Binary64 :=
  let places : Int := (Nat.log2 digits : Int) * 30103 / 100000
  if digits = 0 then zero negative
  else if places + power < -400 then zero negative
  else if 400 < places + power then .infinite negative
  else if power < 0 then ofRatio negative digits (Nat.pow 10 (-power).toNat)
  else ofRatio negative (digits * Nat.pow 10 power.toNat) 1

/-! ## Arithmetic -/

/-- A finite magnitude as a fraction of whole numbers. -/
def fraction (mantissa : Nat) (exponent : Int) : Nat × Nat :=
  if exponent < 0 then (mantissa, Nat.pow 2 (-exponent).toNat)
    else (mantissa * Nat.pow 2 exponent.toNat, 1)

/-- The product of two magnitudes, rounded once; used of finite numbers only. -/
def mulMagnitude (negative : Bool) (m : Nat) (q : Int) (n : Nat) (r : Int) : Binary64 :=
  let (a, b) := fraction m q
  let (c, d) := fraction n r
  ofRatio negative (a * c) (b * d)

/-- The quotient of two magnitudes, rounded once; the divisor is not zero. -/
def divMagnitude (negative : Bool) (m : Nat) (q : Int) (n : Nat) (r : Int) : Binary64 :=
  let (a, b) := fraction m q
  let (c, d) := fraction n r
  ofRatio negative (a * d) (b * c)

/-- The number of the other sign. -/
def negate : Binary64 → Binary64
  | .nan => .nan
  | .infinite s => .infinite (!s)
  | .finite s m q => .finite (!s) m q

/-- The number is a zero of either sign. -/
def isZero : Binary64 → Bool
  | .finite _ m _ => m == 0
  | _ => false

/-- The whole number nearest to a magnitude; a half goes away from zero. -/
def roundMagnitude (mantissa : Nat) (exponent : Int) : Nat :=
  let (a, b) := fraction mantissa exponent
  (2 * a + b) / (2 * b)

/-- The nearest whole number from 0 to `limit`; what is no number gives 0. -/
def clampTo (limit : Nat) : Binary64 → Nat
  | .nan => 0
  | .infinite negative => if negative then 0 else limit
  | .finite negative m q => if negative then 0 else min limit (roundMagnitude m q)

end Binary64

end Chassis.Decimal
