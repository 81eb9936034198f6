-- Reading a value of a document as what a setting wants: a text, a truth value, an
-- unsigned number. Words and numbers stand for one another where that is sensible.
import Chassis.Document.Value
import Chassis.Text.Digits
import Chassis.Text.Lowercase
import Chassis.Text.Quoted

namespace Chassis.Settings

open Document
open Decimal (Binary64)

/-! ## What was found and what was wanted -/

/-- A value that cannot be read as what is wanted. -/
inductive Unfit where
  | unit
  | boolean (value : Bool)
  | integer (value : Int)
  | unsigned (value : Nat)
  | number (value : Binary64)
  | text (value : String)
  | sequence
  | map
  deriving DecidableEq, Repr

def Unfit.describe : Unfit → String
  | .unit => "unit value"
  | .boolean b => s!"boolean `{b}`"
  | .integer i => s!"64-bit integer `{i}`"
  | .unsigned n => s!"64-bit unsigned integer `{n}`"
  | .number x => s!"floating point `{x.plainText}`"
  | .text s => s!"string {Text.quoted s}"
  | .sequence => "sequence"
  | .map => "map"

inductive Width where
  | w16
  | w32
  | w64
  deriving DecidableEq, Repr

def Width.bits : Width → Nat
  | w16 => 16
  | w32 => 32
  | w64 => 64

/-- How many numbers a width has. -/
def Width.size : Width → Nat
  | w16 => UInt16.size
  | w32 => UInt32.size
  | w64 => UInt64.size

inductive Wanted where
  | text
  | boolean
  | integer
  | unsigned
  | ofWidth (width : Width)
  deriving DecidableEq, Repr

def Wanted.describe : Wanted → String
  | .text => "a string"
  | .boolean => "a boolean"
  | .integer => "an integer"
  | .unsigned => "an unsigned 64 bit or less integer"
  | .ofWidth width => s!"an unsigned {width.bits} bit integer"

/-- A value of the wrong kind: what was found, what was wanted, and where the value
comes from when that is known. -/
structure Mismatch where
  found : Unfit
  wanted : Wanted
  origin : Option String
  deriving DecidableEq, Repr

/-- A value as it is named when it does not fit. -/
def Unfit.ofValue : Value → Unfit
  | .scalar _ .nil => .unit
  | .scalar _ (.boolean b) => .boolean b
  | .scalar _ (.integer i) => .integer i
  | .scalar _ (.unsigned n) => .unsigned n
  | .scalar _ (.number x) => .number x
  | .scalar _ (.text s) => .text s
  | .list _ _ => .sequence
  | .table _ => .map

def mismatch (value : Value) (wanted : Wanted) : Mismatch := ⟨.ofValue value, wanted, value.origin?⟩

/-! ## Words -/

/-- The words that mean yes, in lower case. -/
def yesWords : List String := ["true", "on", "yes"]

/-- The words that mean no, in lower case. -/
def noWords : List String := ["false", "off", "no"]

/-! ## Texts -/

/-- A scalar as text, unless it is nil. -/
def textOf? : Scalar → Option String
  | .nil => none
  | .boolean b => some (toString b)
  | .integer i => some (toString i)
  | .unsigned n => some (toString n)
  | .number x => some x.plainText
  | .text s => some s

/-- Any scalar but nil is a text. -/
def asText (value : Value) : Except Mismatch String :=
  match value with
  | .scalar _ content =>
    match textOf? content with
    | some s => .ok s
    | none => .error (mismatch value .text)
  | _ => .error (mismatch value .text)

/-! ## Truth values -/

/-- The truth value of a text in lower case. -/
def truth? (s : String) : Option Bool :=
  if s = "1" || yesWords.contains s then some true
  else if s = "0" || noWords.contains s then some false
  else none

/-- A number is true unless it is zero; a text must be one of the words, in any case. -/
def asBoolean (value : Value) : Except Mismatch Bool :=
  match value with
  | .scalar origin content =>
    match content with
    | .boolean b => .ok b
    | .integer i => .ok (i ≠ 0)
    | .unsigned n => .ok (n ≠ 0)
    | .number x => .ok (!x.isZero)
    | .text s =>
      match truth? (Text.lower s) with
      | some b => .ok b
      | none => .error ⟨.text (Text.lower s), .boolean, origin⟩
    | .nil => .error (mismatch value .boolean)
  | _ => .error (mismatch value .boolean)

/-! ## Unsigned numbers -/

/-- The greatest unsigned number of 64 bits. -/
def maxUnsigned : Nat := Text.unsignedLimit

/-- The number of a text: a word of yes is 1, a word of no is 0. -/
def unsignedOfText? (s : String) : Option Nat :=
  if yesWords.contains (Text.lower s) then some 1
  else if noWords.contains (Text.lower s) then some 0
  else (Text.readUnsigned maxUnsigned s.toList).toOption

/-- A value as an unsigned number of 64 bits; a number with a part is rounded. -/
def asUnsigned (value : Value) : Except Mismatch Nat :=
  match value with
  | .scalar origin content =>
    match content with
    | .boolean b => .ok b.toNat
    | .integer i => if 0 ≤ i then .ok i.toNat else .error ⟨.integer i, .unsigned, origin⟩
    | .unsigned n => .ok n
    | .number x => .ok (x.clampTo maxUnsigned)
    | .text s =>
      match unsignedOfText? s with
      | some n => .ok n
      | none => .error ⟨.text s, .integer, origin⟩
    | .nil => .error (mismatch value .integer)
  | _ => .error (mismatch value .integer)

/-- A value as an unsigned number of a width, which is never cut to fit. -/
def asWidth (width : Width) (value : Value) : Except Mismatch (Fin width.size) := do
  let n ← asUnsigned value
  if h : n < width.size then return ⟨n, h⟩
  else throw ⟨.unsigned n, .ofWidth width, none⟩

end Chassis.Settings
