-- RON text: values in the notation of structs, tuples, lists and maps.
import Chassis.Decimal.Reading
import Chassis.Document.Reader
import Chassis.Document.Value
import Chassis.Text.Basic
import Chassis.Text.Digits

namespace Chassis.Document.Ron

open Reader
open Decimal (Binary64)

/-! ## Gaps -/

/-- Drops a comment that may hold others; `depth` counts those that are open. -/
def blockComment : Nat → Nat → Reader Unit
  | 0, _ => failure
  | fuel + 1, depth => do
    if ← tryText "*/" then
      match depth with
      | 0 => return
      | depth + 1 => blockComment fuel depth
    else if ← tryText "/*" then blockComment fuel (depth + 1)
    else
      let _ ← next
      blockComment fuel depth

/-- Drops blanks and comments. -/
def gapFor : Nat → Reader Unit
  | 0 => failure
  | fuel + 1 => do
    dropWhile Text.isBlank
    if ← tryText "//" then
      dropWhile (· ≠ '\n')
      gapFor fuel
    else if ← tryText "/*" then
      blockComment ((← get).length + 1) 0
      gapFor fuel
    else return

def gap : Reader Unit := do gapFor ((← get).length + 1)

/-! ## Names -/

def startsName (c : Char) : Bool := c.isAlpha || c == '_'

def isNameChar (c : Char) : Bool := c.isAlphanum || c == '_'

/-- The name that starts here, which stays. -/
def nameHere (s : List Char) : List Char :=
  match s with
  | c :: _ => if startsName c then s.takeWhile isNameChar else []
  | [] => []

/-! ## Strings -/

/-- The character that an escape stands for, after its backslash. -/
def escaped : Reader Char := do
  match ← next with
  | '\'' => return '\''
  | '"' => return '"'
  | '\\' => return '\\'
  | 'n' => return '\n'
  | 'r' => return '\r'
  | 't' => return '\t'
  | '0' => return '\x00'
  | 'x' => codePoint 2
  | 'u' => do
    text "\x7b"
    let digits ← takeWhile fun c => (Text.digitValue? 16 c).isSome
    text "\x7d"
    require (!digits.isEmpty && digits.length ≤ 6)
    Text.codePoint? digits
  | _ => failure

/-- The characters of a string up to its closing quote. -/
def stringChars : Nat → Reader (List Char)
  | 0 => failure
  | fuel + 1 => do
    let c ← next
    if c = '"' then return []
    else if c = '\\' then
      match ← get with
      | '\n' :: rest => do
        set (rest.dropWhile Text.isBlank)
        stringChars fuel
      | _ => return (← escaped) :: (← stringChars fuel)
    else return c :: (← stringChars fuel)

/-- The characters of a string without escapes up to its closing mark. -/
def rawChars (closing : String) : Nat → Reader (List Char)
  | 0 => failure
  | fuel + 1 => do
    if ← tryText closing then return []
    else return (← next) :: (← rawChars closing fuel)

/-- A string without escapes, after its first letter. -/
def rawString : Reader String := do
  let marks ← takeWhile (· = '#')
  text "\""
  return String.ofList (← rawChars (String.ofList ('"' :: marks)) ((← get).length + 1))

/-- A single character after its first quote. -/
def character : Reader String := do
  let c ← next
  require (c ≠ '\'')
  let c ← if c = '\\' then escaped else pure c
  char '\''
  return String.ofList [c]

/-! ## Numbers -/

def isNumberChar (c : Char) : Bool := c.isAlphanum || c == '_' || c == '.' || c == '+' || c == '-'

/-- The whole number of some digits with a sign, in 64 bits. -/
def wholeOf (negative : Bool) (base : Nat) (digits : List Char) : Option Scalar := do
  if digits.isEmpty then none
  else
    let n ← (Text.addDigits base Text.unsignedLimit 0 digits).toOption
    match Text.signed? negative n with
    | some n => return .integer n
    | none => if negative then none else return .unsigned n

/-- The number that a word stands for. Underscores between digits do not count. -/
def number? (word : List Char) : Option Scalar :=
  let (negative, magnitude) := Decimal.splitSign word
  let digits := magnitude.filter (· ≠ '_')
  match magnitude with
  | '_' :: _ => none
  | '0' :: 'x' :: _ => wholeOf negative 16 (digits.drop 2)
  | '0' :: 'o' :: _ => wholeOf negative 8 (digits.drop 2)
  | '0' :: 'b' :: _ => wholeOf negative 2 (digits.drop 2)
  | _ =>
    if magnitude = "inf".toList then some (.number (.infinite negative))
    else if magnitude = "NaN".toList then some (.number .nan)
    else if digits.all Char.isDigit then wholeOf negative 10 digits
    else
      (Decimal.number? digits).map fun x =>
        .number (if negative then x.negate else x)

/-! ## Values -/

def keyOf? : Value → Option String
  | .scalar _ (.text s) => some s
  | .scalar _ (.boolean b) => some (toString b)
  | .scalar _ (.integer n) => some (toString n)
  | .scalar _ (.unsigned n) => some (toString n)
  | .scalar _ (.number x) => some x.plainText
  | _ => none

/-- The items up to the closing mark, with commas between them and one after the last
if it pleases. -/
def itemsTo (value : Reader Value) (closing : String) : Nat → Reader (List Value)
  | 0 => failure
  | fuel + 1 => do
    gap
    if ← tryText closing then return []
    let item ← value
    gap
    if ← tryText "," then return item :: (← itemsTo value closing fuel)
    else
      text closing
      return [item]

/-- The entries up to the closing mark; a key that comes again replaces the one before. -/
def entriesTo (key : Reader String) (value : Reader Value) (closing : String) :
    Nat → Table → Reader Table
  | 0, _ => failure
  | fuel + 1, entries => do
    gap
    if ← tryText closing then return entries
    let name ← key
    gap
    text ":"
    gap
    let item ← value
    let entries := entries.put name item
    gap
    if ← tryText "," then entriesTo key value closing fuel entries
    else
      text closing
      return entries

/-- A field name that a colon follows stands here. -/
def startsField : Reader Bool := do
  let here ← get
  let name := nameHere here
  if name.isEmpty then return false
  set (here.drop name.length)
  gap
  let found := (← get).head? = some ':'
  set here
  return found

def fieldName : Reader String := do
  let name := nameHere (← get)
  require (!name.isEmpty)
  set ((← get).drop name.length)
  return String.ofList name

/-- What stands in round brackets: nothing, fields, or a tuple. -/
def bracketed (value : Reader Value) : Reader Value := do
  gap
  let fuel := (← get).length + 1
  if ← tryText ")" then return .plain .nil
  else if ← startsField then return .table (← entriesTo fieldName value ")" fuel [])
  else return .list none (← itemsTo value ")" fuel)

/-- A value without parts. -/
def simple : Reader Value := do
  match ← get with
  | '"' :: rest => do
    set rest
    return .ofText (String.ofList (← stringChars (rest.length + 1)))
  | '\'' :: rest => do
    set rest
    return .ofText (← character)
  | 'r' :: '"' :: rest => do
    set ('"' :: rest)
    return .ofText (← rawString)
  | 'r' :: '#' :: rest => do
    set ('#' :: rest)
    return .ofText (← rawString)
  | cs =>
    let name := String.ofList (nameHere cs)
    if name = "true" || name = "false" then
      set (cs.drop name.length)
      return .plain (.boolean (name = "true"))
    else
      match number? (← takeSome isNumberChar) with
      | some n => return .plain n
      | none => failure

/-- A value, with at most `depth` values inside one another. -/
def value : Nat → Reader Value
  | 0 => simple
  | depth + 1 => do
    let here ← get
    let name := String.ofList (nameHere here)
    if ← tryText "(" then bracketed (value depth)
    else if ← tryText "[" then return .list none (← itemsTo (value depth) "]" here.length)
    else if ← tryText "\x7b" then
      let key : Reader String := do
        match keyOf? (← value depth) with
        | some key => return key
        | none => failure
      return .table (← entriesTo key (value depth) "\x7d" here.length [])
    else if name = "Some" then
      text "Some"
      gap
      text "("
      gap
      let inner ← value depth
      gap
      let _ ← tryText ","
      gap
      text ")"
      return inner
    else if name = "None" then
      text "None"
      return .plain .nil
    else if name = "" || ["true", "false", "inf", "NaN", "r"].contains name then simple
    else
      text name
      gap
      if ← tryText "(" then bracketed (value depth) else return .plain .nil

/-- How many values may lie inside one another. -/
def depthLimit : Nat := 128

/-- Drops the list of extensions in front of a document. -/
def extensions : Reader Unit := do
  gap
  if ← tryText "#![enable(" then
    dropWhile (· ≠ ']')
    text "]"
    gap
  else return

def document : Reader Value := do
  extensions
  let content ← value depthLimit
  gap
  return content

def read? (s : String) : Option Table :=
  match document.all? s.toList with
  | some (.table entries) => some entries
  | _ => none

end Chassis.Document.Ron
