-- JSON text: reading values, reading a list of strings, and writing strings.
import Chassis.Document.Value
import Chassis.Text.Digits
import Chassis.Text.Utf8

namespace Chassis.Document.Json

open Decimal (Binary64)

/-- What stands in the place of a string, by the kind of value. -/
inductive Found where
  | null
  | boolean (value : Bool)
  | integer (value : Int)
  | number (value : Binary64)
  | sequence
  | map
  deriving DecidableEq, Repr

def Found.describe : Found → String
  | .null => "null"
  | .boolean b => s!"boolean `{b}`"
  | .integer i => s!"integer `{i}`"
  | .number x => s!"floating point `{x.jsonText}`"
  | .sequence => "sequence"
  | .map => "map"

/-- Why a text is not the JSON that is wanted. -/
inductive Fault where
  | endInList
  | endInObject
  | endInString
  | endInValue
  | colonWanted
  | listEndWanted
  | objectEndWanted
  | identWanted
  | valueWanted
  | quoteWanted
  | badEscape
  | badNumber
  | numberRange
  | controlCharacter
  | loneSurrogate
  | trailingComma
  | trailingCharacters
  | halfSurrogate
  | tooDeep
  | notString (found : Found)
  deriving DecidableEq, Repr

def Fault.message : Fault → String
  | .endInList => "EOF while parsing a list"
  | .endInObject => "EOF while parsing an object"
  | .endInString => "EOF while parsing a string"
  | .endInValue => "EOF while parsing a value"
  | .colonWanted => "expected `:`"
  | .listEndWanted => "expected `,` or `]`"
  | .objectEndWanted => "expected `,` or `\x7d`"
  | .identWanted => "expected ident"
  | .valueWanted => "expected value"
  | .quoteWanted => "key must be a string"
  | .badEscape => "invalid escape"
  | .badNumber => "invalid number"
  | .numberRange => "number out of range"
  | .controlCharacter => "control character (\\u0000-\\u001F) found while parsing a string"
  | .loneSurrogate => "lone leading surrogate in hex escape"
  | .trailingComma => "trailing comma"
  | .trailingCharacters => "trailing characters"
  | .halfSurrogate => "unexpected end of hex escape"
  | .tooDeep => "recursion limit exceeded"
  | .notString found => s!"invalid type: {found.describe}, expected a string"

def stringOf : Value → Except Fault String
  | .scalar _ (.text s) => .ok s
  | .scalar _ .nil => .error (.notString .null)
  | .scalar _ (.boolean b) => .error (.notString (.boolean b))
  | .scalar _ (.integer i) => .error (.notString (.integer i))
  | .scalar _ (.unsigned n) => .error (.notString (.integer n))
  | .scalar _ (.number x) => .error (.notString (.number x))
  | .list _ _ => .error (.notString .sequence)
  | .table _ => .error (.notString .map)

/-! ## White space and words -/

/-- The four characters that JSON skips. -/
def isSpace (c : Char) : Bool := c == ' ' || c == '\t' || c == '\n' || c == '\r'

/-- The text from its first character that is not skipped. -/
def skip (s : List Char) : List Char := s.dropWhile isSpace

/-- Reads the letters of a word that must stand here. -/
def readWord : List Char → List Char → Except Fault (List Char)
  | [], s => .ok s
  | _ :: _, [] => .error .endInValue
  | w :: word, c :: rest => if c = w then readWord word rest else .error .identWanted

/-! ## Strings -/

def hexValue? (c : Char) : Option Nat := Text.digitValue? 16 c

def hex4? (a b c d : Char) : Option Nat := do
  let a ← hexValue? a
  let b ← hexValue? b
  let c ← hexValue? c
  let d ← hexValue? d
  return ((a * 16 + b) * 16 + c) * 16 + d

/-- The four digits of a hex escape; fewer than four bytes are the end of the text. -/
def readHex4 (s : List Char) : Except Fault (Nat × List Char) :=
  if Text.byteLength (s.take 4) < 4 then .error .endInString
  else match s with
    | a :: b :: c :: d :: rest =>
      match hex4? a b c d with
      | some n => .ok (n, rest)
      | none => .error .badEscape
    | _ => .error .badEscape

/-- The character of a pair of surrogates. -/
def pairChar (high low : Nat) : Char :=
  Char.ofNat (0x10000 + (high - 0xd800) * 0x400 + (low - 0xdc00))

/-- The character after `\u`, which takes a second escape when the first is a
high surrogate. -/
def readUnicode (s : List Char) : Except Fault (Char × List Char) := do
  let (n, rest) ← readHex4 s
  if 0xdc00 ≤ n && n ≤ 0xdfff then throw .loneSurrogate
  else if n < 0xd800 || 0xdbff < n then return (Char.ofNat n, rest)
  else match rest with
    | '\\' :: 'u' :: rest =>
      let (m, rest) ← readHex4 rest
      if 0xdc00 ≤ m && m ≤ 0xdfff then return (pairChar n m, rest) else throw .loneSurrogate
    | [] => throw .endInString
    | ['\\'] => throw .endInString
    | _ => throw .halfSurrogate

/-- The character that a one-letter escape stands for. -/
def shortEscape? (c : Char) : Option Char :=
  match c with
  | '"' => some '"'
  | '\\' => some '\\'
  | '/' => some '/'
  | 'b' => some '\x08'
  | 'f' => some '\x0c'
  | 'n' => some '\n'
  | 'r' => some '\r'
  | 't' => some '\t'
  | _ => none

/-- One step inside a string: its end, or a character. -/
def readCharacter : List Char → Except Fault ((Option Char) × List Char)
  | [] => .error .endInString
  | '"' :: rest => .ok (none, rest)
  | '\\' :: [] => .error .endInString
  | '\\' :: 'u' :: rest => do
    let (c, rest) ← readUnicode rest
    return (some c, rest)
  | '\\' :: c :: rest =>
    match shortEscape? c with
    | some c => .ok (some c, rest)
    | none => .error .badEscape
  | c :: rest => if c.toNat < 0x20 then .error .controlCharacter else .ok (some c, rest)

/-- The characters up to the closing quote. Each step takes one character at least. -/
def readChars : Nat → List Char → Except Fault ((List Char) × List Char)
  | 0, _ => .error .endInString
  | fuel + 1, s => do
    match ← readCharacter s with
    | (none, rest) => return ([], rest)
    | (some c, rest) =>
      let (cs, rest) ← readChars fuel rest
      return (c :: cs, rest)

def readString (s : List Char) : Except Fault (String × List Char) := do
  let (cs, rest) ← readChars (s.length + 1) s
  return (String.ofList cs, rest)

/-! ## Numbers -/

/-- The greatest unsigned number of 64 bits. -/
def maxUnsigned : Nat := Text.unsignedLimit

/-- The digits of a number as they are gathered: those that fit 64 bits, and the
power of ten that the rest and the point leave. -/
structure Gathered where
  digits : Nat
  power : Int
  full : Bool

/-- Takes one digit before the point. Once the digits are full, each further one
only raises the power. -/
def Gathered.whole (g : Gathered) (d : Nat) : Gathered :=
  if !g.full && g.digits * 10 + d ≤ maxUnsigned then { g with digits := g.digits * 10 + d }
  else { g with power := g.power + 1, full := true }

/-- Takes one digit after the point. Once the digits are full, further ones are dropped. -/
def Gathered.part (g : Gathered) (d : Nat) : Gathered :=
  if !g.full && g.digits * 10 + d ≤ maxUnsigned then
    { g with digits := g.digits * 10 + d, power := g.power - 1 }
  else { g with full := true }

def digit (c : Char) : Nat := c.toNat - '0'.toNat

/-- The number of some digits, rounded to 64 bits, times a power of ten, with one
rounding for each factor; none when it is out of range. -/
def scaled (fuel : Nat) (x : Binary64) (power : Int) : Option Binary64 :=
  match fuel, x with
  | fuel + 1, .finite s m q =>
    if m = 0 then some (.finite s m q)
    else if power < -308 then
      match Binary64.ofDecimal false 1 308 with
      | .finite _ n r => scaled fuel (Binary64.divMagnitude s m q n r) (power + 308)
      | _ => none
    else if 308 < power then none
    else
      match Binary64.ofDecimal false 1 power.natAbs with
      | .finite _ n r =>
        match if power < 0 then Binary64.divMagnitude s m q n r
          else Binary64.mulMagnitude s m q n r with
        | .finite s m q => some (.finite s m q)
        | _ => none
      | _ => none
  | _, _ => none

/-- The exponent after `e`; one that is beyond all use is cut at a million. -/
def readExponent (s : List Char) : Except Fault (Int × List Char) :=
  let (negative, s) := match s with
    | '+' :: rest => (false, rest)
    | '-' :: rest => (true, rest)
    | _ => (false, s)
  match s with
  | [] => .error .endInValue
  | c :: _ =>
    if c.isDigit then
      let n := (s.takeWhile Char.isDigit).foldl (fun n c => min 1000000 (n * 10 + digit c)) 0
      .ok (if negative then -(n : Int) else n, s.dropWhile Char.isDigit)
    else .error .badNumber

/-- The digits after a point. -/
def readPart (g : Gathered) (s : List Char) : Except Fault (Gathered × List Char) :=
  match s with
  | [] => .error .endInValue
  | c :: _ =>
    if c.isDigit then
      .ok ((s.takeWhile Char.isDigit).foldl (fun g c => g.part (digit c)) g,
        s.dropWhile Char.isDigit)
    else .error .badNumber

/-- The digits before the point: a single zero, or a number that starts with none. -/
def readWhole (s : List Char) : Except Fault (Gathered × List Char) :=
  match s with
  | [] => .error .endInValue
  | '0' :: c :: rest => if c.isDigit then .error .badNumber else .ok (⟨0, 0, false⟩, c :: rest)
  | '0' :: [] => .ok (⟨0, 0, false⟩, [])
  | c :: _ =>
    if c.isDigit then
      .ok ((s.takeWhile Char.isDigit).foldl (fun g c => g.whole (digit c)) ⟨0, 0, false⟩,
        s.dropWhile Char.isDigit)
    else .error .badNumber

/-- A number with a point, an exponent or too many digits. -/
def floating (negative : Bool) (g : Gathered) (exponent : Int) : Except Fault Scalar :=
  match scaled 4 (Binary64.ofDecimal false g.digits 0) (g.power + exponent) with
  | some x => .ok (.number (if negative then x.negate else x))
  | none =>
    if g.digits ≠ 0 && 0 ≤ g.power + exponent then .error .numberRange
    else .ok (.number (Binary64.zero negative))

/-- A number without point and exponent. -/
def wholeNumber (negative : Bool) (n : Nat) : Scalar :=
  if negative then
    if 0 < n && n ≤ Text.signedLimit + 1 then .integer (-(n : Int))
    else .number (Binary64.ofDecimal true n 0)
  else if n ≤ Text.signedLimit then .integer n else .unsigned n

def readNumber (s : List Char) : Except Fault (Scalar × List Char) := do
  let (negative, s) := match s with
    | '-' :: rest => (true, rest)
    | _ => (false, s)
  let (g, s) ← readWhole s
  match s with
  | '.' :: rest =>
    let (g, s) ← readPart g rest
    match s with
    | 'e' :: rest | 'E' :: rest =>
      let (e, s) ← readExponent rest
      return (← floating negative g e, s)
    | _ => return (← floating negative g 0, s)
  | 'e' :: rest | 'E' :: rest =>
    let (e, s) ← readExponent rest
    return (← floating negative g e, s)
  | _ =>
    if g.full then return (← floating negative g 0, s)
      else return (wholeNumber negative g.digits, s)

/-! ## Lists and objects -/

/-- The items of a list after its opening bracket, or after an item. -/
def readItems {α : Type} (item : List Char → Except Fault (α × List Char)) :
    Nat → Bool → List Char → Except Fault ((List α) × List Char)
  | 0, _, _ => .error .endInList
  | fuel + 1, first, s =>
    match skip s with
    | [] => .error .endInList
    | ']' :: rest => .ok ([], rest)
    | c :: rest => do
      let start ← (if first then .ok (c :: rest)
        else if c = ',' then
          match skip rest with
          | [] => .error .endInValue
          | ']' :: _ => .error .trailingComma
          | s => .ok s
        else .error .listEndWanted)
      let (x, rest) ← item start
      let (xs, rest) ← readItems item fuel false rest
      return (x :: xs, rest)

/-- The entries of an object after its opening brace, or after an entry; a key
that comes again takes the place of the one before. -/
def readEntries (value : List Char → Except Fault (Value × List Char)) : Nat → Bool → Table →
    List Char → Except Fault (Table × List Char)
  | 0, _, _, _ => .error .endInObject
  | fuel + 1, first, entries, s =>
    match skip s with
    | [] => .error .endInObject
    | '\x7d' :: rest => .ok (entries, rest)
    | c :: rest => do
      let start ← (if first then .ok (c :: rest)
        else if c = ',' then
          match skip rest with
          | [] => .error .endInValue
          | '\x7d' :: _ => .error .trailingComma
          | s => .ok s
        else .error .objectEndWanted)
      match start with
      | '"' :: rest =>
        let (key, rest) ← readString rest
        match skip rest with
        | ':' :: rest =>
          let (v, rest) ← value rest
          readEntries value fuel false (entries.put key v) rest
        | [] => throw .endInObject
        | _ => throw .colonWanted
      | _ => throw .quoteWanted

/-- The value that starts here, with at most `depth` lists and objects inside
one another. -/
def readValue : Nat → List Char → Except Fault (Value × List Char)
  | depth, s =>
    match skip s with
    | [] => .error .endInValue
    | 'n' :: rest => do return (.plain .nil, ← readWord "ull".toList rest)
    | 't' :: rest => do return (.plain (.boolean true), ← readWord "rue".toList rest)
    | 'f' :: rest => do return (.plain (.boolean false), ← readWord "alse".toList rest)
    | '"' :: rest => do
      let (t, rest) ← readString rest
      return (.ofText t, rest)
    | '[' :: rest =>
      match depth with
      | 0 => .error .tooDeep
      | depth + 1 => do
        let (items, rest) ← readItems (readValue depth) (rest.length + 1) true rest
        return (.list none items, rest)
    | '\x7b' :: rest =>
      match depth with
      | 0 => .error .tooDeep
      | depth + 1 => do
        let (entries, rest) ← readEntries (readValue depth) (rest.length + 1) true [] rest
        return (.table entries, rest)
    | c :: rest =>
      if c = '-' || c.isDigit then do
        let (n, rest) ← readNumber (c :: rest)
        return (.plain n, rest)
      else .error .valueWanted

/-- How many lists and objects may lie inside one another. -/
def depthLimit : Nat := 127

/-- What may follow a complete text: white space alone. -/
def finish {α : Type} : α × List Char → Except Fault α
  | (x, rest) => if (skip rest).isEmpty then .ok x else .error .trailingCharacters

def read (s : String) : Except Fault Value := readValue depthLimit s.toList >>= finish

/-! ## Lists of strings -/

/-- The kind of a number that stands in the place of a string. -/
def foundNumber : Scalar → Found
  | .integer i => .integer i
  | .unsigned n => .integer n
  | .number x => .number x
  | _ => .null

/-- A string, or the fault that the value in its place makes as soon as it starts. -/
def readStringItem (s : List Char) : Except Fault (String × List Char) :=
  match skip s with
  | [] => .error .endInValue
  | '"' :: rest => readString rest
  | 'n' :: rest => do
    let _ ← readWord "ull".toList rest
    throw (.notString .null)
  | 't' :: rest => do
    let _ ← readWord "rue".toList rest
    throw (.notString (.boolean true))
  | 'f' :: rest => do
    let _ ← readWord "alse".toList rest
    throw (.notString (.boolean false))
  | '[' :: _ => .error (.notString .sequence)
  | '\x7b' :: _ => .error (.notString .map)
  | c :: rest =>
    if c = '-' || c.isDigit then do
      let (n, _) ← readNumber (c :: rest)
      throw (.notString (foundNumber n))
    else .error .valueWanted

/-- The strings of a JSON text that is a list of strings. -/
def readStrings (s : String) : Except Fault (List String) :=
  match skip s.toList with
  | [] => .error .endInValue
  | '[' :: rest => readItems readStringItem (rest.length + 1) true rest >>= finish
  | _ => .error .valueWanted

/-! ## Writing -/

def hexDigit (n : Nat) : Char := Nat.digitChar n

/-- One character of a written string: the quote, the backslash and the controls
are escaped, all else stands as it is. -/
def writeChar (c : Char) : List Char :=
  match c with
  | '"' => ['\\', '"']
  | '\\' => ['\\', '\\']
  | '\x08' => ['\\', 'b']
  | '\x0c' => ['\\', 'f']
  | '\n' => ['\\', 'n']
  | '\r' => ['\\', 'r']
  | '\t' => ['\\', 't']
  | c =>
    if c.toNat < 0x20 then ['\\', 'u', '0', '0', hexDigit (c.toNat / 16), hexDigit (c.toNat % 16)]
    else [c]

/-- A string between quotes. -/
def writeString (s : String) : String :=
  String.ofList ('"' :: s.toList.flatMap writeChar ++ ['"'])

/-- An object with the given members in their order; each value is JSON text already. -/
def writeObject (members : List (String × String)) : String :=
  "\x7b" ++ ",".intercalate (members.map fun (key, value) => writeString key ++ ":" ++ value) ++
    "\x7d"

def writeStrings (items : List String) : String :=
  "[" ++ ",".intercalate (items.map writeString) ++ "]"

end Chassis.Document.Json
