-- INI text: sections in brackets, and keys with values that are all texts.
import Chassis.Document.Reader
import Chassis.Document.Value
import Chassis.Text.Basic
import Chassis.Text.Digits

namespace Chassis.Document.Ini

open Reader

/-! ## Texts -/

/-- What an escape stands for, after its backslash; a line end is dropped. -/
def escaped : Reader (List Char) := do
  match ← next with
  | '0' => return ['\x00']
  | 'a' => return ['\x07']
  | 'b' => return ['\x08']
  | 't' => return ['\t']
  | 'r' => return ['\r']
  | 'n' => return ['\n']
  | '\n' => return []
  | 'x' => return [← codePoint 4]
  | c => return [c]

/-- The characters up to one that ends the text, which stays; `mayEnd` says whether the
document may end first. -/
def textUntil (stops : Char → Bool) (mayEnd : Bool) : Nat → Reader (List Char)
  | 0 => failure
  | fuel + 1 => do
    match ← peek? with
    | none => if mayEnd then return [] else failure
    | some c =>
      if stops c then return []
      else
        let _ ← next
        let cs ← if c = '\\' then escaped else pure [c]
        return cs ++ (← textUntil stops mayEnd fuel)

def endsLine (c : Char) : Bool := c == '\n' || c == '\r'

/-- A text without the blanks at its ends. -/
def tidy (cs : List Char) : String := String.ofList (Text.trim cs)

/-- The value after the sign of equality. A text in quotes goes on to the end of the line. -/
def value : Reader String := do
  dropWhile fun c => Text.isBlank c && !endsLine c
  let fuel := (← get).length + 1
  match ← peek? with
  | some quote =>
    if quote = '"' || quote = '\'' then
      let _ ← next
      let inner ← textUntil (· = quote) false fuel
      let _ ← next
      return String.ofList (inner ++ Text.trimEnd (← textUntil endsLine true fuel))
    else return tidy (← textUntil endsLine true fuel)
  | none => return ""

/-! ## Documents -/

/-- Puts a value into a section, or beside the sections. -/
def putIn (opened : Option String) (key value : String) (entries : Table) : Table :=
  match opened with
  | none => entries.put key (.ofText value)
  | some name =>
    match entries.get? name with
    | some (.table inner) => entries.put name (.table (Table.put key (.ofText value) inner))
    | _ => entries.put name (.table [(key, .ofText value)])

/-- Reads the document. A section that is opened again starts anew; a comment starts
at the beginning of its line. -/
def sections : Nat → Option String → Bool → Table → Reader Table
  | 0, _, _, _ => failure
  | fuel + 1, opened, atStart, entries => do
    let blanks ← takeWhile Text.isBlank
    let atStart := match blanks.getLast? with
      | none => atStart
      | some c => c = '\n'
    let length := (← get).length + 1
    match ← peek? with
    | none => return entries
    | some c =>
      if c = ';' || c = '#' then
        require atStart
        dropWhile fun c => !endsLine c
        sections fuel opened false entries
      else if c = '[' then
        let _ ← next
        let name := tidy (← textUntil (· = ']') false length)
        let _ ← next
        sections fuel (some name) false (entries.put name .emptyTable)
      else
        let key := tidy (← textUntil (fun c => c = '=' || c = ':') false length)
        require (key ≠ "")
        let _ ← next
        sections fuel opened false (putIn opened key (← value) entries)

def read? (s : String) : Option Table :=
  let cs := s.toList
  (sections (cs.length + 1) none true []).all? cs

end Chassis.Document.Ini
