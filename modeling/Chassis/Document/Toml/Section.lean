-- The tables of a TOML document while it is read, and the rules that say which of
-- them may still be added to.
import Chassis.Document.Value

namespace Chassis.Document.Toml

/-- How a table came to be: on the way to a header, by a header, or by a key with points. -/
inductive Cause where
  | passage
  | header
  | dotted
  deriving DecidableEq, Repr

/-- A part of a document while it is read: a finished value, a table, or a list of tables. -/
inductive Section where
  | value (value : Value)
  | table (cause : Cause) (entries : List (String × Section))
  | tables (items : List (List (String × Section)))

abbrev Sections := List (String × Section)

namespace Sections

def get? (entries : Sections) (key : String) : Option Section :=
  (entries.find? (·.1 == key)).map (·.2)

def put (key : String) (part : Section) : Sections → Sections
  | [] => [(key, part)]
  | (k, old) :: rest => if k == key then (key, part) :: rest else (k, old) :: put key part rest

end Sections

/-! ## Keys with values -/

/-- Puts a value under a key with points. The tables on the way are new or were made
by such keys too; a table with a header of its own is closed to them, and so is one
that a header only passes through. -/
def putDotted (value : Value) : List String → Sections → Option Sections
  | [], _ => none
  | [key], entries =>
    match Sections.get? entries key with
    | none => some (entries ++ [(key, .value value)])
    | some _ => none
  | key :: path, entries =>
    match Sections.get? entries key with
    | none => (putDotted value path []).map fun inner => entries ++ [(key, .table .dotted inner)]
    | some (.table .dotted inner) =>
      (putDotted value path inner).map fun inner => Sections.put key (.table .dotted inner) entries
    | some (.table .passage inner) =>
      if path.length = 1 then none
      else (putDotted value path inner).map fun inner =>
        Sections.put key (.table .passage inner) entries
    | some _ => none

/-! ## Headers -/

/-- Changes the table that the last item of a list is. -/
def inLast (change : Sections → Option Sections) : List Sections → Option (List Sections)
  | [] => none
  | [item] => (change item).map ([·])
  | item :: rest => (inLast change rest).map (item :: ·)

/-- Walks to the table that holds the last key of a header, making the tables that
are missing, and changes it. Of a list of tables the last one is entered. -/
def descend (change : String → Sections → Option Sections) : List String → Sections →
    Option Sections
  | [], _ => none
  | [key], entries => change key entries
  | key :: path, entries =>
    match Sections.get? entries key with
    | none => (descend change path []).map fun inner => entries ++ [(key, .table .passage inner)]
    | some (.table cause inner) =>
      (descend change path inner).map fun inner => Sections.put key (.table cause inner) entries
    | some (.tables items) =>
      (inLast (descend change path) items).map fun items => Sections.put key (.tables items) entries
    | some (.value _) => none

/-- Opens the table of a header, which is new or was only passed through before. -/
def openTable (path : List String) (entries : Sections) : Option Sections :=
  descend (fun key entries =>
    match Sections.get? entries key with
    | none => some (entries ++ [(key, .table .header [])])
    | some (.table .passage inner) => some (Sections.put key (.table .header inner) entries)
    | some _ => none) path entries

/-- Starts a further table of a list. -/
def openItem (path : List String) (entries : Sections) : Option Sections :=
  descend (fun key entries =>
    match Sections.get? entries key with
    | none => some (entries ++ [(key, .tables [[]])])
    | some (.tables items) => some (Sections.put key (.tables (items ++ [[]])) entries)
    | some _ => none) path entries

/-- Changes the table that was opened last, given by the keys of its header. -/
def inOpen (change : Sections → Option Sections) (path : List String) (entries : Sections) :
    Option Sections :=
  match path with
  | [] => change entries
  | path =>
    descend (fun key entries =>
      match Sections.get? entries key with
      | some (.table cause inner) =>
        (change inner).map fun inner => Sections.put key (.table cause inner) entries
      | some (.tables items) =>
        (inLast change items).map fun items => Sections.put key (.tables items) entries
      | _ => none) path entries

/-! ## The finished document -/

mutual

def Section.finish : Section → Value
  | .value value => value
  | .table _ entries => .table (finishEntries entries)
  | .tables items => .list none (finishItems items)

def finishEntries : List (String × Section) → Table
  | [] => []
  | (key, part) :: rest => (key, part.finish) :: finishEntries rest

def finishItems : List (List (String × Section)) → List Value
  | [] => []
  | entries :: rest => .table (finishEntries entries) :: finishItems rest

end

end Chassis.Document.Toml
