-- JSON5 text: JSON with comments, names as keys, single quotes and freer numbers.
import Chassis.Decimal.Reading
import Chassis.Document.Reader
import Chassis.Document.Value
import Chassis.Text.Alphanumeric
import Chassis.Text.Basic
import Chassis.Text.Digits

namespace Chassis.Document.Json5

open Reader
open Decimal (Binary64)

/-! ## Gaps -/

/-- The characters that are skipped between the parts. -/
def isSpace (c : Char) : Bool := (Text.isBlank c && c ≠ '\u0085') || c == '\ufeff'

def endsLine (c : Char) : Bool := c == '\n' || c == '\r' || c == '\u2028' || c == '\u2029'

def blockComment : Nat → Reader Unit
  | 0 => failure
  | fuel + 1 => do
    if ← tryText "*/" then return
    let _ ← next
    blockComment fuel

/-- Drops blanks and comments. -/
def gapFor : Nat → Reader Unit
  | 0 => failure
  | fuel + 1 => do
    dropWhile isSpace
    if ← tryText "//" then
      dropWhile fun c => !endsLine c
      gapFor fuel
    else if ← tryText "/*" then
      blockComment ((← get).length + 1)
      gapFor fuel
    else return

def gap : Reader Unit := do gapFor ((← get).length + 1)

/-! ## Strings -/

/-- The number of a fixed count of hexadecimal digits. -/
def hex (count : Nat) : Reader Nat := do
  (Text.addDigits 16 0xffff 0 (← take count)).toOption

/-- The character after `\u`, which takes a second escape after a high surrogate. -/
def unicode : Reader Char := do
  let n ← hex 4
  if 0xd800 ≤ n && n ≤ 0xdbff then
    text "\\u"
    let m ← hex 4
    require (0xdc00 ≤ m && m ≤ 0xdfff)
    return Char.ofNat (0x10000 + (n - 0xd800) * 0x400 + (m - 0xdc00))
  else
    require (n < 0xdc00 || 0xdfff < n)
    return Char.ofNat n

/-- What an escape stands for, after its backslash; a line end is dropped. -/
def escaped : Reader (List Char) := do
  match ← next with
  | 'b' => return ['\x08']
  | 'f' => return ['\x0c']
  | 'n' => return ['\n']
  | 'r' => return ['\r']
  | 't' => return ['\t']
  | 'v' => return ['\x0b']
  | 'x' => return [Char.ofNat (← hex 2)]
  | 'u' => return [← unicode]
  | '0' => do
    require !(((← peek?).map Char.isDigit).getD false)
    return ['\x00']
  | '\r' => do
    let _ ← tryText "\n"
    return []
  | c => if endsLine c then return [] else if c.isDigit then failure else return [c]

/-- The characters of a string up to its closing quote. -/
def stringChars (quote : Char) : Nat → Reader (List Char)
  | 0 => failure
  | fuel + 1 => do
    let c ← next
    if c = quote then return []
    else if c = '\\' then return (← escaped) ++ (← stringChars quote fuel)
    else
      require (c ≠ '\n' && c ≠ '\r')
      return c :: (← stringChars quote fuel)

def quotedString : Reader String := do
  let quote ← next
  require (quote = '"' || quote = '\'')
  return String.ofList (← stringChars quote ((← get).length + 1))

/-! ## Names and numbers -/

def startsName (c : Char) : Bool := (Text.isAlphanumeric c && !c.isDigit) || c == '$' || c == '_'

def isNameChar (c : Char) : Bool :=
  Text.isAlphanumeric c || c == '$' || c == '_' || c == '\u200c' || c == '\u200d'

def name : Reader String := do
  match ← peek? with
  | some c =>
    require (startsName c)
    return String.ofList (← takeWhile isNameChar)
  | none => failure

/-- A whole number in base ten, in 64 bits. -/
def whole? (negative : Bool) (digits : List Char) : Option Scalar :=
  (Text.signed? negative (Nat.ofDigitChars 10 digits 0)).map .integer

/-- A whole number in base sixteen, in 32 bits. -/
def hexWhole? (digits : List Char) : Option Scalar :=
  if digits.isEmpty then none
  else (Text.addDigits 16 0xffffffff 0 digits).toOption.map fun n => .integer n

/-- The number that a word stands for; one in base sixteen has no sign. -/
def number? (word : List Char) : Option Scalar :=
  match word with
  | '0' :: 'x' :: digits => hexWhole? digits
  | '0' :: 'X' :: digits => hexWhole? digits
  | _ =>
    let (negative, magnitude) := Decimal.splitSign word
    let leadingZero := match magnitude with
      | '0' :: c :: _ => c.isDigit
      | _ => false
    if magnitude = "Infinity".toList then some (.number (.infinite negative))
    else if magnitude = "NaN".toList then some (.number .nan)
    else if leadingZero || magnitude.isEmpty then none
    else if magnitude.all Char.isDigit then whole? negative magnitude
    else if magnitude.head? = some '+' || magnitude.head? = some '-' then none
    else (Decimal.number? magnitude).map fun x => .number (if negative then x.negate else x)

def isNumberChar (c : Char) : Bool := c.isAlphanum || c == '.' || c == '+' || c == '-'

/-! ## Values -/

def items (value : Reader Value) : Nat → Reader (List Value)
  | 0 => failure
  | fuel + 1 => do
    gap
    if ← tryText "]" then return []
    let item ← value
    gap
    if ← tryText "," then return item :: (← items value fuel)
    else
      text "]"
      return [item]

/-- The entries of a table after its brace; a key that comes again replaces the one before. -/
def members (value : Reader Value) : Nat → Table → Reader Table
  | 0, _ => failure
  | fuel + 1, entries => do
    gap
    if ← tryText "\x7d" then return entries
    let key ← match ← peek? with
      | some '"' => quotedString
      | some '\'' => quotedString
      | _ => name
    gap
    text ":"
    let item ← value
    let entries := entries.put key item
    gap
    if ← tryText "," then members value fuel entries
    else
      text "\x7d"
      return entries

/-- A value without parts. -/
def simple : Reader Value := do
  match ← peek? with
  | some '"' => return .ofText (← quotedString)
  | some '\'' => return .ofText (← quotedString)
  | _ =>
    match ← takeSome isNumberChar with
    | ['n', 'u', 'l', 'l'] => return .plain .nil
    | ['t', 'r', 'u', 'e'] => return .plain (.boolean true)
    | ['f', 'a', 'l', 's', 'e'] => return .plain (.boolean false)
    | word =>
      match number? word with
      | some n => return .plain n
      | none => failure

/-- A value, with at most `depth` lists and tables inside one another. -/
def value : Nat → Reader Value
  | 0 => do
    gap
    simple
  | depth + 1 => do
    gap
    let fuel := (← get).length + 1
    if ← tryText "[" then return .list none (← items (value depth) fuel)
    else if ← tryText "\x7b" then return .table (← members (value depth) fuel [])
    else simple

/-- How many lists and tables may lie inside one another. -/
def depthLimit : Nat := 1000

def document : Reader Value := do
  let content ← value depthLimit
  gap
  return content

def read? (s : String) : Option Table :=
  match document.all? s.toList with
  | some (.table entries) => some entries
  | _ => none

end Chassis.Document.Json5
