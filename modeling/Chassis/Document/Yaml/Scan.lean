-- Walking through a YAML text with an eye on the column, and the scalars found there.
import Chassis.Document.Reader
import Chassis.Document.Value
import Chassis.Text.Digits

namespace Chassis.Document.Yaml

/-- A place in a text, with the values that have been named so far. -/
structure Place where
  column : Nat
  rest : List Char
  named : List (String × Value)

/-- A computation that walks through a text and may fail. -/
abbrev Scan := StateT Place Option

namespace Scan

def rest : Scan (List Char) := do return (← get).rest

def column : Scan Nat := do return (← get).column

def next : Scan Char := do
  let place ← get
  match place.rest with
  | [] => failure
  | c :: rest =>
    set { place with rest, column := if c = '\n' then 0 else place.column + 1 }
    return c

def skip : Nat → Scan Unit
  | 0 => pure ()
  | n + 1 => do
    let _ ← next
    skip n

end Scan

open Scan

/-! ## Characters -/

/-- Blanks within a line. -/
def isSpace (c : Char) : Bool := c == ' ' || c == '\t'

/-- The characters that end a scalar within brackets. -/
def isBracket (c : Char) : Bool := [',', '[', ']', '\x7b', '\x7d'].contains c

/-- The text starts with a blank or the end of its line. -/
def startsBlank : List Char → Bool
  | [] => true
  | c :: _ => isSpace c || c == '\n'

/-- The text starts with the mark of a new document, or of the end of one. -/
def startsMark (mark : String) (rest : List Char) : Bool :=
  mark.toList.isPrefixOf rest && startsBlank (rest.drop mark.length)

/-- Line ends of every kind become one character. -/
def unifyLines : List Char → List Char
  | '\r' :: '\n' :: rest => '\n' :: unifyLines rest
  | '\r' :: rest => '\n' :: unifyLines rest
  | c :: rest => c :: unifyLines rest
  | [] => []

/-! ## Gaps -/

def skipSpaces : Scan Unit := do skip ((← rest).takeWhile isSpace).length

def skipLine : Scan Unit := do skip ((← rest).takeWhile (· ≠ '\n')).length

/-- Drops blanks, comments and line ends. -/
def skipGap : Nat → Scan Unit
  | 0 => pure ()
  | fuel + 1 => do
    skipSpaces
    match ← rest with
    | '#' :: _ => do
      skipLine
      skipGap fuel
    | '\n' :: _ => do
      skip 1
      skipGap fuel
    | _ => return

/-- Drops blanks, comments and line ends, however many. -/
def gap : Scan Unit := do skipGap ((← rest).length + 1)

/-- The rest of a line, on which nothing but a comment may stand. -/
def lineEnd : Scan Unit := do
  let before ← column
  skipSpaces
  match ← rest with
  | [] => return
  | '\n' :: _ => return
  | '#' :: _ => do
    require (before < (← column))
    skipLine
  | _ => failure

/-! ## Folding -/

/-- What line ends between two parts of a scalar become: one a blank, more of them
one fewer. -/
def folded (breaks : Nat) : List Char :=
  if breaks = 1 then [' '] else List.replicate (breaks - 1) '\n'

/-- The text without blanks at its end. -/
def trimSpaces (cs : List Char) : List Char := (cs.reverse.dropWhile isSpace).reverse

/-- Drops line ends and blanks, and counts the line ends. -/
def skipBreaks : Nat → Scan Nat
  | 0 => pure 0
  | fuel + 1 => do
    skipSpaces
    match ← rest with
    | '\n' :: _ => do
      skip 1
      return (← skipBreaks fuel) + 1
    | _ => return 0

/-! ## Scalars without quotes -/

/-- The part of a scalar on one line. -/
def plainPart (inBrackets : Bool) (afterBlank : Bool) : List Char → List Char
  | [] => []
  | '\n' :: _ => []
  | ':' :: rest =>
    let bracketNext := match rest with
      | c :: _ => isBracket c
      | [] => false
    if startsBlank rest || (inBrackets && bracketNext) then []
      else ':' :: plainPart inBrackets false rest
  | '#' :: rest => if afterBlank then [] else '#' :: plainPart inBrackets false rest
  | c :: rest =>
    if inBrackets && isBracket c then [] else c :: plainPart inBrackets (isSpace c) rest

/-- The characters that no scalar without quotes starts with. -/
def isIndicator (c : Char) : Bool :=
  isBracket c || ['#', '&', '*', '!', '|', '>', '\'', '"', '%', '@', '`'].contains c

/-- A scalar without quotes may start here. -/
def startsPlain (inBrackets : Bool) : List Char → Bool
  | [] => false
  | c :: rest =>
    if c = '-' || c = '?' || c = ':' then
      !(startsBlank rest) && !(inBrackets && (rest.head?.map isBracket).getD false)
    else !isIndicator c && !isSpace c && c ≠ '\n'

/-- The part of a scalar on the line that starts here. -/
def plainLine (inBrackets : Bool) : Scan (List Char) := do
  let part := trimSpaces (plainPart inBrackets true (← rest))
  skip part.length
  return part

/-- The further lines of a scalar; each is indented by more than `indent`. -/
def plainMore (inBrackets : Bool) (indent : Int) : Nat → Scan (List Char)
  | 0 => pure []
  | fuel + 1 => do
    let here ← get
    let breaks ← skipBreaks ((← rest).length + 1)
    let there ← rest
    let goesOn := 0 < breaks && indent < (← column) && startsPlainLine there
      && !((← column) = 0 && (startsMark "---" there || startsMark "..." there))
    if goesOn then
      let part ← plainLine inBrackets
      if part.isEmpty then
        set here
        return []
      return folded breaks ++ part ++ (← plainMore inBrackets indent fuel)
    else
      set here
      return []
where
  /-- A further line starts with anything but a comment and, within brackets, one of these. -/
  startsPlainLine : List Char → Bool
    | [] => false
    | c :: _ => c ≠ '#' && !(inBrackets && isBracket c)

/-! ## Scalars in quotes -/

/-- The character of a code point with a fixed count of hexadecimal digits. -/
def codePoint (count : Nat) : Scan Char := do
  let digits := (← rest).take count
  require (digits.length = count)
  let c ← Text.codePoint? digits
  skip count
  return c

/-- The character that an escape stands for, after its backslash. -/
def escaped : Scan Char := do
  match ← next with
  | '0' => return '\x00'
  | 'a' => return '\x07'
  | 'b' => return '\x08'
  | 't' | '\t' => return '\t'
  | 'n' => return '\n'
  | 'v' => return '\x0b'
  | 'f' => return '\x0c'
  | 'r' => return '\r'
  | 'e' => return '\x1b'
  | ' ' => return ' '
  | '"' => return '"'
  | '/' => return '/'
  | '\\' => return '\\'
  | 'N' => return '\u0085'
  | '_' => return '\u00a0'
  | 'L' => return '\u2028'
  | 'P' => return '\u2029'
  | 'x' => codePoint 2
  | 'u' => codePoint 4
  | 'U' => codePoint 8
  | _ => failure

/-- The characters of a scalar up to its closing quote. `blanks` are those that
have been read and count only if no line end follows. -/
def quotedMore (quote : Char) : Nat → List Char → Scan (List Char)
  | 0, _ => failure
  | fuel + 1, blanks => do
    let c ← next
    if c = quote then
      match quote, ← rest with
      | '\'', '\'' :: _ => do
        skip 1
        return blanks ++ '\'' :: (← quotedMore quote fuel [])
      | _, _ => return blanks
    else if c = '\\' && quote = '"' then
      match ← rest with
      | '\n' :: _ => do
        let breaks ← skipBreaks ((← rest).length + 1)
        return blanks ++ List.replicate (breaks - 1) '\n' ++ (← quotedMore quote fuel [])
      | _ =>
        let e ← escaped
        return blanks ++ e :: (← quotedMore quote fuel [])
    else if c = '\n' then
      let breaks := (← skipBreaks ((← rest).length + 1)) + 1
      return folded breaks ++ (← quotedMore quote fuel [])
    else if isSpace c then quotedMore quote fuel (blanks ++ [c])
    else return blanks ++ c :: (← quotedMore quote fuel [])

def quotedScalar (quote : Char) : Scan String := do
  skip 1
  return String.ofList (← quotedMore quote ((← rest).length + 1) [])

/-! ## Scalars in blocks -/

/-- What becomes of the line ends after a block. -/
inductive Chomp where
  | clip
  | strip
  | keep
  deriving DecidableEq

/-- The lines of a block with their indentation taken off. The indentation is that
of the first line with content if it is not given. -/
def blockLines (parent : Int) (indent : Option Nat) : Nat → Scan (List (List Char))
  | 0 => pure []
  | fuel + 1 => do
    let here ← rest
    if here.isEmpty then return []
    let line := here.takeWhile (· ≠ '\n')
    let spaces := (line.takeWhile (· = ' ')).length
    let width := indent.getD spaces
    if spaces = line.length && (indent.isNone || line.length ≤ width) then
      skip line.length
      if (← rest).isEmpty then return []
      skip 1
      return [] :: (← blockLines parent indent fuel)
    else if spaces < width || (spaces : Int) ≤ parent then return []
    else
      skip line.length
      if !(← rest).isEmpty then skip 1
      return line.drop width :: (← blockLines parent (some width) fuel)

theorem drop_length_lt (count : Nat) (line : List Char) (rest : List (List Char)) :
    (rest.drop count).length < (line :: rest).length := by
  rw [List.length_drop]
  exact Nat.lt_succ_of_le (Nat.sub_le ..)

/-- The lines of a folded block: a line end between two lines of plain text becomes a
blank; around lines that are indented further it stays. -/
def foldLines : List (List Char) → List Char
  | [] => []
  | [line] => line
  | line :: rest =>
    let isDeep (l : List Char) : Bool := (l.head?.map isSpace).getD false
    let empties := (rest.takeWhile List.isEmpty).length
    match rest.drop empties with
    | [] => line
    | after :: _ =>
      if line.isEmpty then '\n' :: foldLines rest
      else if isDeep line || isDeep after then
        line ++ '\n' :: List.replicate empties '\n' ++ foldLines (rest.drop empties)
      else line ++ folded (empties + 1) ++ foldLines (rest.drop empties)
termination_by lines => lines.length
decreasing_by
  · exact Nat.lt_succ_self _
  · exact drop_length_lt ..
  · exact drop_length_lt ..

/-- A block: its mark, what follows the mark, and its lines. -/
def blockScalar (parent : Int) : Scan String := do
  let literal := (← next) = '|'
  let head := (← rest).takeWhile fun c => c.isDigit || c == '+' || c == '-'
  require (head.length ≤ 2)
  let digits := head.filter Char.isDigit
  require (digits.length ≤ 1 && digits ≠ ['0'])
  let chomp :=
    if head.contains '+' then Chomp.keep
    else if head.contains '-' then Chomp.strip
    else Chomp.clip
  skip head.length
  lineEnd
  if !(← rest).isEmpty then skip 1
  let base := (max parent 0).toNat
  let indent := digits.head?.map fun c => base + (c.toNat - '0'.toNat)
  let lines ← blockLines parent indent ((← rest).length + 1)
  let trailing := (lines.reverse.takeWhile List.isEmpty).length
  let content := lines.take (lines.length - trailing)
  let body := if literal then (content.intersperse ['\n']).flatten else foldLines content
  let ending := match chomp with
    | .strip => []
    | .clip => if content.isEmpty then [] else ['\n']
    | .keep => List.replicate (trailing + (if content.isEmpty then 0 else 1)) '\n'
  return String.ofList (body ++ ending)

end Chassis.Document.Yaml
