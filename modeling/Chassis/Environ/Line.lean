-- The logical lines of an environment file: a quote or a backslash makes a line go
-- on with the next one, and a comment ends it early.
import Chassis.Files.Fault
import Chassis.Text.Basic
import Chassis.Text.Utf8

namespace Chassis.Environ

open Text (Bytes)

/-! ## Faults -/

/-- Why an environment file cannot be read to its end. -/
inductive Fault where
  | badLine (line : String) (index : Nat)
  | notUtf8
  | file (fault : Files.Fault)
  deriving DecidableEq, Repr

def Fault.message : Fault → String
  | .badLine line index => s!"Error parsing line: '{line}', error at line index: {index}"
  | .notUtf8 => "stream did not contain valid UTF-8"
  | .file fault => fault.message

/-- The fault and its causes in words, from the outermost. What the files themselves
say is its own cause. -/
def Fault.causes (fault : Fault) : List String :=
  match fault with
  | .badLine .. => [fault.message]
  | fault => [fault.message, fault.message]

/-! ## States -/

/-- Where a character stands: in plain text, after a blank, after a backslash, or in
quotes of either kind. -/
inductive Mode where
  | plain
  | blank
  | escape
  | weak
  | weakEscape
  | strong
  | strongEscape
  deriving DecidableEq, Repr

/-- The mode after a character outside quotes that means something. -/
def openingMode? (c : Char) : Option Mode :=
  match c with
  | '\\' => some .escape
  | '"' => some .weak
  | '\'' => some .strong
  | _ => none

/-- The blanks that a comment may follow. -/
def isGap (c : Char) : Bool := Text.isBlank c && c ≠ '\n' && c ≠ '\r'

/-- The mode after a character; a hash after a blank starts a comment, which has none. -/
def Mode.after? (mode : Mode) (c : Char) : Option Mode :=
  match mode with
  | .blank => if c = '#' then none else some ((openingMode? c).getD .plain)
  | .plain => some (if isGap c then .blank else (openingMode? c).getD .plain)
  | .escape => some .plain
  | .weak => some (if c = '\\' then .weakEscape else if c = '"' then .plain else .weak)
  | .weakEscape => some .weak
  | .strong => some (if c = '\\' then .strongEscape else if c = '\'' then .plain else .strong)
  | .strongEscape => some .strong

/-- The mode at the end of a line, or the characters before a comment. -/
def scan (mode : Mode) : List Char → List Char ⊕ Mode
  | [] => .inr mode
  | c :: rest =>
    match mode.after? c with
    | none => .inl []
    | some mode =>
      match scan mode rest with
      | .inl kept => .inl (c :: kept)
      | .inr mode => .inr mode

/-! ## Lines -/

/-- The lines of some bytes, each with its line end. -/
def physicalLines : Bytes → List Bytes
  | [] => []
  | b :: rest =>
    if b = 10 then [b] :: physicalLines rest
    else match physicalLines rest with
      | [] => [[b]]
      | line :: lines => (b :: line) :: lines

def withoutEnd (line : List Char) : List Char :=
  match line.reverse with
  | '\n' :: '\r' :: rest => rest.reverse
  | '\n' :: rest => rest.reverse
  | _ => line

/-- The text starts with a hash, blanks aside. -/
def isComment (line : List Char) : Bool := (Text.trimStart line).head? = some '#'

/-- Gathers physical lines into logical ones. `held` holds what the lines before have
left open. A fault is the last thing that is gathered. -/
def gather (mode : Mode) (held : List Char) : List Bytes → List (Except Fault String)
  | [] =>
    if mode = .plain then []
    else [.error (.badLine (String.ofList held) (Text.byteLength held))]
  | bytes :: rest =>
    match Text.decode? bytes with
    | none => [.error .notUtf8]
    | some line =>
      let held' := held ++ line.toList
      if isComment held' then .ok "" :: gather .plain [] rest
      else match scan mode line.toList with
        | .inl kept => .ok (String.ofList (held ++ kept)) :: gather .plain [] rest
        | .inr .plain => .ok (String.ofList (withoutEnd held')) :: gather .plain [] rest
        | .inr mode => gather mode held' rest

/-- The bytes without a byte order mark at their start. -/
def withoutMark : Bytes → Bytes
  | 0xef :: 0xbb :: 0xbf :: rest => rest
  | bytes => bytes

def logicalLines (bytes : Bytes) : List (Except Fault String) :=
  gather .plain [] (physicalLines (withoutMark bytes))

end Chassis.Environ
