-- Layers of settings: how one document is laid over another. A table is merged
-- entry by entry, everything else replaces what is there as a whole.
import Chassis.Document.Value
import Chassis.Settings.KeyPath

namespace Chassis.Settings

open Document

/-! ## Laying a value over another -/

/-- The entries of a table; what is no table has none. -/
def entriesOf : Value → Table
  | .table entries => entries
  | _ => []

/-- The items of a list and the place it comes from; what is no list has no items. -/
def itemsOf : Value → Option String × List Value
  | .list origin items => (origin, items)
  | _ => (none, [])

/-- The entry under a key, or nil. -/
def childOf (entries : Table) (key : String) : Value := (entries.get? key).getD (.plain .nil)

mutual

/-- The value that is seen when `upper` is laid over `lower`. -/
def lay (lower : Value) : Value → Value
  | .table entries => .table (layEntries (entriesOf lower) entries)
  | .scalar origin content => .scalar origin content
  | .list origin items => .list origin items

/-- Lays the entries of a table over those below, each over the one of its key. -/
def layEntries (lower : Table) : Table → Table
  | [] => lower
  | (key, value) :: rest => layEntries (lower.put key (lay (childOf lower key) value)) rest

end

/-! ## Changing a part -/

/-- The list with the item at `position` changed. A position past the end makes the
list grow, a negative one counts from the end, and one before the start makes
the list grow in front. -/
def adjustItem (change : Value → Value) (position : Int) (items : List Value) : List Value :=
  let nil := Value.plain .nil
  if 0 ≤ position || position.natAbs ≤ items.length then
    let place := if 0 ≤ position then position.toNat else items.length - position.natAbs
    let grown := items ++ List.replicate (place + 1 - items.length) nil
    grown.modify place change
  else
    (List.replicate (position.natAbs - items.length) nil ++ items).modify 0 change

/-- The value with the part under `path` changed; the parts on the way are made
when they are missing or of another kind. -/
def adjust (change : Value → Value) : KeyPath → Value → Value
  | [], value => change value
  | .field name :: path, value =>
    let entries := entriesOf value
    .table (entries.put name (adjust change path (childOf entries name)))
  | .item position :: path, value =>
    let (origin, items) := itemsOf value
    .list origin (adjustItem (adjust change path) position items)

/-! ## Layers -/

/-- Lays one entry of a document, whose key is a path, over a value. -/
def layEntry (lower : Value) (entry : String × Value) : Value :=
  adjust (fun part => lay part entry.2) (KeyPath.ofKey entry.1) lower

/-- Lays the entries of a document over a value. -/
def layDocument (lower : Value) (document : Table) : Value := document.foldl layEntry lower

/-- All documents laid over one another, from the lowest to the highest. -/
def merge (documents : List Table) : Table := entriesOf (documents.foldl layDocument .emptyTable)

/-- The documents, merged among themselves first, over the defaults. -/
def overDefaults (defaults : Table) (documents : List Table) : Table :=
  entriesOf (layDocument (.table defaults) (merge documents))

end Chassis.Settings
