-- The values that a configuration document holds, whatever its format: scalars,
-- lists and tables. A value remembers the document it was read from, a table does not.
import Chassis.Decimal.Shortest

namespace Chassis.Document

open Decimal (Binary64)

/-- A value without parts. -/
inductive Scalar where
  | nil
  | boolean (value : Bool)
  | integer (value : Int)
  | unsigned (value : Nat)
  | number (value : Binary64)
  | text (value : String)
  deriving DecidableEq, Repr

/-- A value of a document. Scalars and lists carry the name of the place they
come from, when they come from one. -/
inductive Value where
  | scalar (origin : Option String) (content : Scalar)
  | list (origin : Option String) (items : List Value)
  | table (entries : List (String × Value))
  deriving Repr

instance : Inhabited Value := ⟨.table []⟩

/-- The entries of a table: distinct keys in the order in which they came. -/
abbrev Table := List (String × Value)

/-! ## Tables -/

namespace Table

def get? (entries : Table) (key : String) : Option Value :=
  (entries.find? (·.1 == key)).map (·.2)

/-- The table with `value` under `key`, at the key's old place if it had one. -/
def put (key : String) (value : Value) : Table → Table
  | [] => [(key, value)]
  | (k, v) :: rest => if k == key then (key, value) :: rest else (k, v) :: put key value rest

def has (entries : Table) (key : String) : Bool := entries.any (·.1 == key)

end Table

namespace Value

/-- A scalar that comes from nowhere in particular. -/
def plain (content : Scalar) : Value := .scalar none content

/-- A text that comes from nowhere in particular. -/
def ofText (s : String) : Value := plain (.text s)

def emptyTable : Value := .table []

/-! ## Origins -/

mutual

/-- The value with every scalar and list marked as coming from `origin`. -/
def stamp (origin : String) : Value → Value
  | .scalar _ content => .scalar (some origin) content
  | .list _ items => .list (some origin) (stampItems origin items)
  | .table entries => .table (stampEntries origin entries)

def stampItems (origin : String) : List Value → List Value
  | [] => []
  | item :: rest => stamp origin item :: stampItems origin rest

def stampEntries (origin : String) : List (String × Value) → List (String × Value)
  | [] => []
  | (key, value) :: rest => (key, stamp origin value) :: stampEntries origin rest

end

/-- The place a value comes from; a table comes from none. -/
def origin? : Value → Option String
  | .scalar origin _ => origin
  | .list origin _ => origin
  | .table _ => none

end Value

end Chassis.Document
