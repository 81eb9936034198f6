-- Percent encoding: a byte as a percent sign and two hexadecimal digits.
import Chassis.Text.Digits
import Chassis.Text.Utf8

namespace Chassis.Net

open Text (Bytes)

/-- A byte as a percent sign and two digits. -/
def percentByte (b : UInt8) : List Char :=
  let digit (n : Nat) : Char := (Nat.digitChar n).toUpper
  ['%', digit (b.toNat / 16), digit (b.toNat % 16)]

/-- The text with the bytes of some characters encoded. -/
def percentEncode (encoded : Char → Bool) (s : List Char) : List Char :=
  s.flatMap fun c => if encoded c then (String.utf8EncodeChar c).flatMap percentByte else [c]

/-- The bytes that a text stands for; a percent sign without two digits is itself. -/
def percentDecode : List Char → Bytes
  | [] => []
  | '%' :: a :: b :: rest =>
    match Text.digitValue? 16 a, Text.digitValue? 16 b with
    | some high, some low => UInt8.ofNat (high * 16 + low) :: percentDecode rest
    | _, _ => String.utf8EncodeChar '%' ++ percentDecode (a :: b :: rest)
  | c :: rest => String.utf8EncodeChar c ++ percentDecode rest

/-! ## Pairs -/

/-- One side of a pair: a plus sign is a blank, and broken sequences are replaced. -/
def formText (s : List Char) : String :=
  Text.decodeLossy (percentDecode (s.map fun c => if c = '+' then ' ' else c))

/-- The pairs of a query. A part without a sign of equality has an empty value. -/
def formPairs (query : List Char) : List (String × String) :=
  ((query.splitOn '&').filter fun part => !part.isEmpty).map fun part =>
    (formText (part.takeWhile (· ≠ '=')), formText ((part.dropWhile (· ≠ '=')).drop 1))

end Chassis.Net
