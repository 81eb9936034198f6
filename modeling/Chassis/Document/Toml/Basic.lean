-- TOML documents: keys, values, headers, and the document they make.
import Chassis.Document.Toml.Scalar
import Chassis.Document.Toml.Section

namespace Chassis.Document.Toml

open Reader

/-! ## Between the parts -/

def comment : Reader Unit := do
  if ← tryText "#" then
    dropWhile fun c => isAllowed c
  else return

/-- The rest of a line, on which nothing but a comment may stand. -/
def lineEnd : Reader Unit := do
  dropWhile isSpace
  comment
  if ← atEnd then return
  require (← tryNewline)

/-- Blanks, line ends and comments. -/
def gap : Nat → Reader Unit
  | 0 => pure ()
  | fuel + 1 => do
    dropWhile isSpace
    comment
    if ← tryNewline then gap fuel else return

/-! ## Keys -/

def isKeyChar (c : Char) : Bool := c.isAlphanum || c == '_' || c == '-'

/-- One name of a key. -/
def keyPart : Reader String := do
  match ← peek? with
  | some '"' =>
    let _ ← next
    anyString '"' false
  | some '\'' =>
    let _ ← next
    anyString '\'' false
  | _ => return String.ofList (← takeSome isKeyChar)

/-- A key: names with points between them. -/
def key : Nat → Reader (List String)
  | 0 => failure
  | fuel + 1 => do
    dropWhile isSpace
    let part ← keyPart
    dropWhile isSpace
    if ← tryText "." then return part :: (← key fuel) else return [part]

/-! ## Values -/

def items (value : Reader Value) : Nat → Reader (List Value)
  | 0 => failure
  | fuel + 1 => do
    gap ((← get).length + 1)
    if ← tryText "]" then return []
    let item ← value
    gap ((← get).length + 1)
    if ← tryText "," then return item :: (← items value fuel)
    else
      text "]"
      return [item]

/-- The entries of a table on one line, after its brace or a comma. -/
def members (value : Reader Value) : Nat → Sections → Reader Sections
  | 0, _ => failure
  | fuel + 1, entries => do
    let path ← key ((← get).length + 1)
    text "="
    dropWhile isSpace
    let item ← value
    dropWhile isSpace
    match putDotted item path entries with
    | none => failure
    | some entries =>
      if ← tryText "," then members value fuel entries
      else
        text "\x7d"
        return entries

/-- A value without parts. -/
def simpleValue : Reader Value := do
  match ← peek? with
  | some '"' =>
    let _ ← next
    return .ofText (← anyString '"' true)
  | some '\'' =>
    let _ ← next
    return .ofText (← anyString '\'' true)
  | _ => return .plain (← bare)

/-- A value, with at most `depth` lists and tables inside one another. -/
def value : Nat → Reader Value
  | 0 => simpleValue
  | depth + 1 => do
    if ← tryText "[" then return .list none (← items (value depth) ((← get).length + 1))
    else if ← tryText "\x7b" then
      dropWhile isSpace
      if ← tryText "\x7d" then return .table []
      return .table (finishEntries (← members (value depth) ((← get).length + 1) []))
    else simpleValue

/-- How many lists and tables may lie inside one another. -/
def depthLimit : Nat := 80

/-! ## Documents -/

/-- Reads lines until the document ends. `opened` holds the keys of the last header. -/
def lines : Nat → List String → Sections → Reader Sections
  | 0, _, _ => failure
  | fuel + 1, opened, entries => do
    gap ((← get).length + 1)
    if ← atEnd then return entries
    let length := (← get).length + 1
    if ← tryText "[[" then
      let path ← key length
      text "]]"
      lineEnd
      match openItem path entries with
      | some entries => lines fuel path entries
      | none => failure
    else if ← tryText "[" then
      let path ← key length
      text "]"
      lineEnd
      match openTable path entries with
      | some entries => lines fuel path entries
      | none => failure
    else
      let path ← key length
      text "="
      dropWhile isSpace
      let item ← value depthLimit
      lineEnd
      match inOpen (putDotted item path) opened entries with
      | some entries => lines fuel opened entries
      | none => failure

def read? (s : String) : Option Table := do
  let cs := s.toList
  let entries ← (lines (cs.length + 1) [] []).all? cs
  return finishEntries entries

end Chassis.Document.Toml
