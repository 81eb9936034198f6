-- Characters and texts: classes of characters that are written down as tables, white space
-- in the sense of Unicode, and trimming by it.
namespace Chassis.Text

/-! ## Tables of code points -/

/-- A set of code points as a list of closed ranges. -/
abbrev Ranges := List (Nat × Nat)

/-- Membership of a code point in a table of closed ranges. -/
def Ranges.covers (table : Ranges) (code : Nat) : Bool :=
  table.any fun range => range.1 ≤ code && code ≤ range.2

/-! ## White space -/

/-- The characters with the Unicode property White_Space. -/
def isBlank (c : Char) : Bool :=
  let code := c.toNat
  (9 ≤ code && code ≤ 13) || code == 0x20 || code == 0x85 || code == 0xa0 || code == 0x1680
    || (0x2000 ≤ code && code ≤ 0x200a) || code == 0x2028 || code == 0x2029 || code == 0x202f
    || code == 0x205f || code == 0x3000

/-! ## Trimming -/

/-- The characters from the first that is not blank. -/
def trimStart (s : List Char) : List Char := s.dropWhile isBlank

/-- The characters up to the last that is not blank. -/
def trimEnd (s : List Char) : List Char := (s.reverse.dropWhile isBlank).reverse

/-- The characters without the blanks at both ends. -/
def trim (s : List Char) : List Char := trimEnd (trimStart s)

/-- The text without the blanks at both ends. -/
def trimmed (s : String) : String := String.ofList (trim s.toList)

end Chassis.Text
