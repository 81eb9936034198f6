-- Directives: which events a filter lets through, by the start of their target, the
-- names of their fields, and their level. A directive that names a span, or a value of a
-- field, speaks of events within spans only.
import Chassis.Logging.Event
import Chassis.Text.Alphanumeric
import Chassis.Text.Basic
import Chassis.Text.Digits
import Chassis.Text.Utf8

namespace Chassis.Logging

open Text (Bytes)

/-! ## Ceilings -/

/-- The least important level that passes; without one, nothing passes. -/
abbrev Ceiling := Option Level

/-- The ceilings by their numbers. -/
def ceilings : List Ceiling := [none, some .error, some .warn, some .info, some .debug, some .trace]

/-- The ceilings by their names in lower case. -/
def ceilingNames : List (String × Ceiling) := [
  ("off", none), ("error", some .error), ("warn", some .warn), ("info", some .info),
  ("debug", some .debug), ("trace", some .trace)]

/-- The ceiling of a number or of a name in any case. -/
def Ceiling.ofText? (s : String) : Option Ceiling :=
  match Text.readUnsigned Text.unsignedLimit s.toList with
  | .ok n => ceilings[n]?
  | .error _ => ceilingNames.lookup (String.ofList (s.toList.map Char.toLower))

/-- Whether a level passes below a ceiling. -/
def Ceiling.admits : Ceiling → Level → Bool
  | none, _ => false
  | some ceiling, level => level.rank ≤ ceiling.rank

/-! ## Directives -/

/-- A directive. What it does not name may be anything. -/
structure Directive where
  target : Option String
  span : Option String
  fields : List (String × Option String)
  ceiling : Ceiling
  deriving DecidableEq, Repr

namespace Directive

/-- The directive that lets everything through. -/
def all : Directive := ⟨none, none, [], some .trace⟩

/-- Why a text is no directive. A position within a character is fatal. -/
inductive Defect where
  | malformed
  | badLevel
  | torn
  deriving DecidableEq, Repr

/-- The defect in words, unless it is fatal. -/
def Defect.message? : Defect → Option String
  | malformed => some "invalid filter directive"
  | badLevel =>
    some ("error parsing level filter: expected one of \"off\", \"error\", \"warn\", " ++
      "\"info\", \"debug\", \"trace\", or a number 0-5")
  | torn => none

/-! ## Reading -/

/-- What is being read, and the position where it began. -/
inductive Reading where
  | start
  | word (begun : Nat)
  | span (begun : Nat)
  | field (begun : Nat)
  | fieldsDone
  | spanDone
  | level (begun : Nat)
  deriving DecidableEq, Repr

/-- The characters, besides letters and numerals, that a directive may begin with. -/
def isOpening (c : Char) : Bool := c == '-' || c == ':' || c == '_' || Text.isAlphanumeric c

/-- A position between two characters, or at an end. -/
def isBetween (whole : Bytes) (position : Nat) : Bool :=
  match whole[position]? with
  | some b => b.toNat < 0x80 || 0xc0 ≤ b.toNat
  | none => true

/-- The text between two positions. -/
def cut (whole : Bytes) (first last : Nat) : Except Defect String :=
  if isBetween whole first && isBetween whole last then
    ((Text.decode? ((whole.take last).drop first)).elim (.error .torn) .ok)
  else .error .torn

/-- A field by its name, and perhaps its value. -/
def fieldOf (s : String) : String × Option String :=
  match s.splitOn "=" with
  | name :: value :: _ => (name, some value)
  | _ => (s, none)

/-- The directive with the field that ends at a position. -/
def withField (whole : Bytes) (d : Directive) (first last : Nat) : Except Defect Directive := do
  let text ← cut whole first last
  if text.isEmpty then throw .malformed
  return { d with fields := d.fields ++ [fieldOf text] }

/-- One more character at a position. -/
def step (whole : Bytes) (d : Directive) (reading : Reading) (position : Nat) (c : Char) :
    Except Defect (Directive × Reading) :=
  match reading with
  | .start =>
    if c = '[' then .ok (d, .span (position + 1))
    else if isOpening c then .ok (d, .word position)
    else .error .malformed
  | .word begun =>
    if c = '=' || c = '[' then do
      let target ← cut whole begun position
      return ({ d with target := some target }, if c = '=' then .level (position + 1)
        else .span (position + 1))
    else .ok (d, .word begun)
  | .span begun =>
    if c = ']' then do
      let span ← cut whole begun position
      return ({ d with span := some span }, .spanDone)
    else if c = '\x7b' then do
      let span ← cut whole begun position
      return ({ d with span := if span.isEmpty then none else some span }, .field (position + 1))
    else .ok (d, .span begun)
  | .field begun =>
    if c = '\x7d' then do
      let d ← withField whole d begun position
      return (d, .fieldsDone)
    else .ok (d, .field begun)
  | .fieldsDone => if c = ']' then .ok (d, .spanDone) else .error .malformed
  | .spanDone => if c = '=' then .ok (d, .level (position + 1)) else .error .malformed
  | .level begun => .ok (d, .level begun)

/-- The characters one after another; each counts by its bytes. -/
def steps (whole : Bytes) (d : Directive) (reading : Reading) (position : Nat) :
    List Char → Except Defect (Directive × Reading)
  | [] => .ok (d, reading)
  | c :: rest => do
    let (d, reading) ← step whole d reading position c
    steps whole d reading (position + c.utf8Size) rest

/-- What the end of the text decides. A word alone is a level, or else a target. -/
def finish (whole : Bytes) (d : Directive) : Reading → Except Defect Directive
  | .word begun => do
    let text ← cut whole begun whole.length
    match Ceiling.ofText? text with
    | some ceiling => return { d with ceiling, target := none }
    | none => return { d with ceiling := some .trace, target := some text }
  | .level begun => do
    let text ← cut whole begun whole.length
    if text.isEmpty then return { d with ceiling := some .trace }
    match Ceiling.ofText? text with
    | some ceiling => return { d with ceiling }
    | none => throw .badLevel
  | .spanDone => .ok d
  | _ => .error .malformed

/-- Reads a directive. Blanks around it are not looked at, but they do count when its
parts are cut out of the whole text by their positions. -/
def parse (s : String) : Except Defect Directive := do
  let whole := Text.utf8 s
  let (d, reading) ← steps whole all .start 0 (Text.trim s.toList)
  finish whole d reading

/-! ## Events -/

/-- The directive speaks of events wherever they happen. -/
def isStatic (d : Directive) : Bool := d.span.isNone && d.fields.all fun field => field.2.isNone

def fieldNames (d : Directive) : List String := d.fields.map (·.1)

/-- The directive speaks of an event: the target begins like that of the directive, and
all its fields are there. -/
def covers (d : Directive) (event : Event) : Bool :=
  (d.target.elim true fun target => target.toList.isPrefixOf event.target.toList)
    && d.fieldNames.all fun name => name == "message" || event.fields.any (·.1 == name)

/-- How much a directive says: the length of its target, and the number of its fields. -/
def detail (d : Directive) : Nat × Nat :=
  (d.target.elim 0 fun target => (Text.utf8 target).length + 1, d.fields.length)

/-- The directive goes before another: it says more, or as much and comes later. -/
def outranks (new old : Directive) : Bool :=
  if new.detail.1 ≠ old.detail.1 then old.detail.1 < new.detail.1
  else if new.detail.2 ≠ old.detail.2 then old.detail.2 < new.detail.2
  else Text.textsLe old.fieldNames new.fieldNames

end Directive

end Chassis.Logging
