-- One line of an environment file: a name, the sign of equality, and a value with
-- quotes, escapes and substitutions.
import Chassis.Environ.Line
import Chassis.Text.Alphanumeric

namespace Chassis.Environ

/-! ## Values -/

/-- What a character of a value stands in. A substitution that is being read has a bare
name or a name in braces; it may stand within double quotes. -/
inductive Inside where
  | text
  | strong
  | escape
  | bare (name : List Char)
  | braced (name : List Char)
  | ended
  deriving DecidableEq, Repr

/-- How far a value has been read: what the next character stands in, and whether
double quotes are open. -/
structure Reading where
  inside : Inside
  weak : Bool
  deriving DecidableEq, Repr

/-- The character that an escape stands for. -/
def escapeOf? (c : Char) : Option Char :=
  if c = 'n' then some '\n' else if ['\\', '\'', '"', '$', ' '].contains c then some c else none

/-- The value that is put in place of a name. -/
def substituted (lookup : String → String) (name : List Char) : List Char :=
  (lookup (String.ofList name)).toList

/-- One character of plain text or within double quotes: what it yields, and what follows. -/
def readText (weak : Bool) (c : Char) : List Char × Reading :=
  if c = '$' then ([], ⟨.bare [], weak⟩)
  else if c = '\\' then ([], ⟨.escape, weak⟩)
  else if c = '"' then ([], ⟨.text, !weak⟩)
  else if weak then ([c], ⟨.text, weak⟩)
  else if c = '\'' then ([], ⟨.strong, weak⟩)
  else if c = ' ' || c = '\t' then ([], ⟨.ended, weak⟩)
  else ([c], ⟨.text, weak⟩)

/-- One character of a value, or none if it does not fit. The character that ends a bare
name is taken as it is, except one that starts the next substitution. -/
def readChar (lookup : String → String) (reading : Reading) (c : Char) :
    Option (List Char × Reading) :=
  let weak := reading.weak
  match reading.inside with
  | .ended => if c = ' ' || c = '\t' then some ([], reading) else none
  | .escape => (escapeOf? c).map fun e => ([e], ⟨.text, weak⟩)
  | .strong => some (if c = '\'' then ([], ⟨.text, weak⟩) else ([c], reading))
  | .bare name =>
    if Text.isAlphanumeric c then some ([], ⟨.bare (name ++ [c]), weak⟩)
    else if c = '\x7b' && name.isEmpty then some ([], ⟨.braced [], weak⟩)
    else if c = '$' then some (substituted lookup name, ⟨.bare [], weak⟩)
    else some (substituted lookup name ++ [c], ⟨.text, weak⟩)
  | .braced name =>
    if c = '\x7d' then some (substituted lookup name, ⟨.text, weak⟩)
    else some ([], ⟨.braced (name ++ [c]), weak⟩)
  | .text => some (readText weak c)

/-- Reads a value from the character at `index` on: its text, and what is still open. A
fault is the index of the character that does not fit. -/
def readValue (lookup : String → String) (reading : Reading) (index : Nat) :
    List Char → Except Nat (List Char × Reading)
  | [] => .ok ([], reading)
  | c :: rest =>
    if reading.inside = .ended && c = '#' then .ok ([], reading)
    else match readChar lookup reading c with
      | none => .error index
      | some (cs, reading) =>
        match readValue lookup reading (index + 1) rest with
        | .error index => .error index
        | .ok (more, reading) => .ok (cs ++ more, reading)

/-- The value of a text, in which every quote and every brace must be closed. -/
def valueOf (lookup : String → String) (s : List Char) : Except Fault String :=
  let unclosed : Except Fault String := .error (.badLine (String.ofList s) (Text.byteLength s - 1))
  match readValue lookup ⟨.text, false⟩ 0 s with
  | .error index => .error (.badLine (String.ofList s) index)
  | .ok (_, ⟨_, true⟩) => unclosed
  | .ok (_, ⟨.strong, false⟩) => unclosed
  | .ok (_, ⟨.braced _, false⟩) => unclosed
  | .ok (cs, ⟨.bare name, false⟩) => .ok (String.ofList (cs ++ substituted lookup name))
  | .ok (cs, ⟨_, false⟩) => .ok (String.ofList cs)

/-! ## Lines -/

def startsName (c : Char) : Bool := c.isAlpha || c == '_'

def isNameChar (c : Char) : Bool := c.isAlphanum || c == '_' || c == '.'

/-- A place in a line: the bytes before it, and the text from there. -/
structure Spot where
  index : Nat
  rest : List Char

def Spot.skip (spot : Spot) (p : Char → Bool) : Spot :=
  ⟨spot.index + Text.byteLength (spot.rest.takeWhile p), spot.rest.dropWhile p⟩

/-- Takes a name, or says where none stands. -/
def Spot.name (spot : Spot) : Except Nat (String × Spot) :=
  match spot.rest with
  | [] => .error spot.index
  | c :: _ =>
    if startsName c then .ok (String.ofList (spot.rest.takeWhile isNameChar), spot.skip isNameChar)
    else .error spot.index

/-- Takes the sign of equality, or says where none stands. -/
def Spot.equals (spot : Spot) : Except Nat Spot :=
  match spot.rest with
  | '=' :: rest => .ok ⟨spot.index + 1, rest⟩
  | _ => .error spot.index

/-- The name and the place of the value. A name `export` without a sign of equality
stands in front of the name that counts. -/
def Spot.assignment (spot : Spot) : Except Nat (String × Spot) := do
  let (name, spot) ← spot.name
  let spot := spot.skip Text.isBlank
  match spot.equals with
  | .ok spot => return (name, spot.skip Text.isBlank)
  | .error index =>
    if name = "export" then
      let (name, spot) ← spot.name
      let spot ← (spot.skip Text.isBlank).equals
      return (name, spot.skip Text.isBlank)
    else throw index

/-- What a line says: nothing, or a variable with its value. `lookup` gives the values of
the substitutions. -/
def readLine (lookup : String → String) (line : String) :
    Except Fault (Option (String × Option String)) :=
  let start : Spot := Spot.skip ⟨0, Text.trimEnd line.toList⟩ Text.isBlank
  match start.rest with
  | [] => .ok none
  | '#' :: _ => .ok none
  | _ =>
    match start.assignment with
    | .error index => .error (.badLine line index)
    | .ok (name, spot) =>
      match spot.rest with
      | [] => .ok (some (name, none))
      | '#' :: _ => .ok (some (name, none))
      | value => (valueOf lookup value).map fun value => some (name, some value)

end Chassis.Environ
