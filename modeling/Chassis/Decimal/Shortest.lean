-- The shortest decimal of a binary64 number: the fewest digits that read back as
-- the number, and of those the nearest to it. Two layouts write them down.
import Chassis.Decimal.Binary64

namespace Chassis.Decimal

/-- The magnitude `digits * 10 ^ power`. -/
structure Numeral where
  digits : Nat
  power : Int
  deriving DecidableEq, Repr

/-! ## The interval that reads back -/

/-- The numbers that round to one magnitude, doubled twice so that the ends are
whole: `low`, the magnitude itself and `high`, all over `4 * den`. -/
structure ReadBack where
  low : Nat
  value : Nat
  high : Nat
  den : Nat
  closed : Bool

/-- The interval of the magnitude `m * 2 ^ q`. Below a power of two the numbers
lie twice as close, so its lower end is nearer. -/
def ReadBack.of (m : Nat) (q : Int) : ReadBack :=
  let (unit, den) := Binary64.fraction 1 q
  let below := if m = Binary64.leastFull && Binary64.leastExponent < q then 1 else 2
  { low := (4 * m - below) * unit
    value := 4 * m * unit
    high := (4 * m + 2) * unit
    den := 4 * den
    closed := m % 2 = 0 }

/-- Whether `n / d` lies in the interval. -/
def ReadBack.contains (r : ReadBack) (n d : Nat) : Bool :=
  if r.closed then r.low * d ≤ n * r.den && n * r.den ≤ r.high * d
  else r.low * d < n * r.den && n * r.den < r.high * d

/-! ## The digits -/

/-- Ten to a power as a fraction of whole numbers. -/
def tenTo (power : Int) : Nat × Nat :=
  if power < 0 then (1, Nat.pow 10 (-power).toNat) else (Nat.pow 10 power.toNat, 1)

/-- The power of ten at or below `num / den`, for a fraction that is not zero. -/
def leadingPower (num den : Nat) : Int :=
  let guess : Int := ((Nat.log2 num : Int) - Nat.log2 den) * 30103 / 100000
  let fits (e : Int) : Bool := let (a, b) := tenTo e; a * den ≤ num * b
  ([guess + 2, guess + 1, guess, guess - 1].find? fits).getD (guess - 2)

/-- The point of the grid of step `10 ^ power` that reads back and is nearest to
the value, if one of the value's two neighbours on the grid reads back. -/
def onGrid? (r : ReadBack) (power : Int) : Option Numeral :=
  let (a, b) := tenTo power
  let low := (r.value * b) / (r.den * a)
  let inside (n : Nat) : Bool := n != 0 && r.contains (n * a) b
  let lowGap := r.value * b - low * a * r.den
  let highGap := (low + 1) * a * r.den - r.value * b
  match inside low, inside (low + 1) with
  | true, true => some ⟨if highGap < lowGap then low + 1 else low, power⟩
  | true, false => some ⟨low, power⟩
  | false, true => some ⟨low + 1, power⟩
  | false, false => none

/-- Drops the zeros at the end of the digits. -/
def Numeral.strip (fuel : Nat) (d : Numeral) : Numeral :=
  match fuel with
  | 0 => d
  | fuel + 1 =>
    if d.digits ≠ 0 && d.digits % 10 = 0 then strip fuel ⟨d.digits / 10, d.power + 1⟩ else d

/-- The shortest decimal of the magnitude `m * 2 ^ q`. -/
def shortest (m : Nat) (q : Int) : Numeral :=
  if m = 0 then ⟨0, 0⟩
  else
    let r := ReadBack.of m q
    let top := leadingPower r.value r.den
    let grids := (List.range 17).map fun (n : Nat) => top - n
    match grids.findSome? (onGrid? r) with
    | some d => d.strip 20
    | none => ⟨m, q⟩

/-! ## Layouts -/

/-- The digits in positional notation, whatever the power of ten. -/
def Numeral.positional (d : Numeral) : String :=
  let ds := Nat.toDigits 10 d.digits
  if 0 ≤ d.power then String.ofList (ds ++ List.replicate d.power.toNat '0')
  else
    let places := (-d.power).toNat
    let padded := List.replicate (places + 1 - ds.length) '0' ++ ds
    let whole := padded.length - places
    String.ofList (padded.take whole ++ '.' :: padded.drop whole)

/-- The digits with a point after the first and a signed exponent of two digits or more. -/
def Numeral.scientific (d : Numeral) : String :=
  let ds := Nat.toDigits 10 d.digits
  let exponent := d.power + (ds.length - 1 : Nat)
  let power := Nat.toDigits 10 exponent.natAbs
  let power := if power.length < 2 then '0' :: power else power
  let head := match ds with
    | [] => []
    | [c] => [c]
    | c :: rest => c :: '.' :: rest
  String.ofList (head ++ ['e', if exponent < 0 then '-' else '+'] ++ power)

namespace Binary64

/-- The sign of a negative number. -/
def signText (negative : Bool) : String := if negative then "-" else ""

/-- A number in positional notation, a whole number without a point. -/
def plainText : Binary64 → String
  | .nan => "NaN"
  | .infinite s => signText s ++ "inf"
  | .finite s m q => signText s ++ (shortest m q).positional

/-- A number as JSON writes it: positional with a point from `1e-5` up to below
`1e16`, else scientific. -/
def jsonText : Binary64 → String
  | .nan => "NaN"
  | .infinite s => signText s ++ "inf"
  | .finite s m q =>
    let d := shortest m q
    let lead := d.power + ((Nat.toDigits 10 d.digits).length - 1 : Nat)
    signText s ++
      (if d.digits = 0 then "0.0"
      else if -5 ≤ lead && lead < 16 then
        if 0 ≤ d.power then d.positional ++ ".0" else d.positional
      else d.scientific)

end Binary64

end Chassis.Decimal
