-- Log events: what happened, how much it matters, and who says so.
import Chassis.Text.Quoted

namespace Chassis.Logging

/-- How much an event matters, from the least to the most. -/
inductive Level where
  | trace
  | debug
  | info
  | warn
  | error
  deriving DecidableEq, Repr

namespace Level

def name : Level → String
  | trace => "TRACE"
  | debug => "DEBUG"
  | info => "INFO"
  | warn => "WARN"
  | error => "ERROR"

def ofName? (name : String) : Option Level :=
  [trace, debug, info, warn, error].find? (·.name == name)

/-- The place among the levels, from the most important one. -/
def rank : Level → Nat
  | error => 1
  | warn => 2
  | info => 3
  | debug => 4
  | trace => 5

end Level

/-- A value of a field of an event. A text is quoted on log lines, what is displayed
stands as it is. -/
inductive FieldValue where
  | text (value : String)
  | display (value : String)
  | number (value : Nat)
  | truth (value : Bool)
  deriving DecidableEq, Repr

/-- The value alone, without quotes. -/
def FieldValue.plain : FieldValue → String
  | .text s => s
  | .display s => s
  | .number n => toString n
  | .truth b => toString b

/-- The value on a line of text. -/
def FieldValue.shown : FieldValue → String
  | .text s => Text.quoted s
  | value => value.plain

/-- An event: its target names the part of the program that it comes from. -/
structure Event where
  level : Level
  target : String
  message : String
  fields : List (String × FieldValue)
  deriving DecidableEq, Repr

end Chassis.Logging
