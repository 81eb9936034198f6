-- Internet addresses in both versions: reading them, and the one way to write each.
import Chassis.Net.Percent
import Chassis.Text.Digits

namespace Chassis.Net

/-! ## Version 4 -/

/-- A part of an address: a number below 256 without a zero in front. -/
def octet? (s : List Char) : Option Nat :=
  match s with
  | [] => none
  | '0' :: _ :: _ => none
  | _ => if 3 < s.length || s.any (!·.isDigit) then none else (Text.addDigits 10 255 0 s).toOption

/-- An address of four parts. -/
def ipv4? (s : List Char) : Option (List Nat) :=
  match s.splitOn '.' with
  | [a, b, c, d] => do return [← octet? a, ← octet? b, ← octet? c, ← octet? d]
  | _ => none

/-! ## Version 6 -/

/-- A group of at most four hexadecimal digits. -/
def group? (s : List Char) : Option Nat :=
  if s.isEmpty || 4 < s.length then none else (Text.addDigits 16 0xffff 0 s).toOption

/-- Groups between colons; the last two may be an address of version 4. -/
def groups? (s : List Char) : Option (List Nat) :=
  if s.isEmpty then some []
  else
    let parts := s.splitOn ':'
    let last := parts.getLast?.getD []
    if last.contains '.' then do
      let front ← parts.dropLast.mapM group?
      match ← ipv4? last with
      | [a, b, c, d] => return front ++ [a * 256 + b, c * 256 + d]
      | _ => none
    else parts.mapM group?

/-- The parts around the first two colons in a row. -/
def aroundGap? : List Char → Option (List Char × List Char)
  | ':' :: ':' :: rest => some ([], rest)
  | c :: rest => (aroundGap? rest).map fun (front, back) => (c :: front, back)
  | [] => none

/-- An address of eight groups, where two colons stand for one group of zeros or more. -/
def ipv6? (s : List Char) : Option (List Nat) :=
  match aroundGap? s with
  | none => do
    let groups ← groups? s
    if groups.length = 8 then return groups else none
  | some (front, back) =>
    if front.contains '.' then none
    else do
      let front ← groups? front
      let back ← groups? back
      if front.length + back.length < 8 then
        return front ++ List.replicate (8 - front.length - back.length) 0 ++ back
      else none

/-- The start and the length of the longest run of zeros, the first one if there are several. -/
def longestZeros (groups : List Nat) : Nat × Nat :=
  let runs := (List.range groups.length).map fun i =>
    (i, ((groups.drop i).takeWhile (· = 0)).length)
  runs.foldl (fun best run => if best.2 < run.2 then run else best) (0, 0)

/-- An address of eight groups as it is written: the longest run of two zeros or more
becomes two colons. -/
def ipv6Text (groups : List Nat) : String :=
  let written (gs : List Nat) : String :=
    ":".intercalate (gs.map fun g => String.ofList (Nat.toDigits 16 g))
  let (start, length) := longestZeros groups
  if length < 2 then written groups
  else written (groups.take start) ++ "::" ++ written (groups.drop (start + length))

/-- The text is an address of either version. -/
def isAddress (s : List Char) : Bool := (ipv4? s).isSome || (ipv6? s).isSome

end Chassis.Net
