-- The scalars of TOML: strings in four forms, numbers, truth values and moments.
import Chassis.Decimal.Reading
import Chassis.Document.Reader
import Chassis.Document.Toml.Moment
import Chassis.Document.Value
import Chassis.Text.Digits

namespace Chassis.Document.Toml

open Reader
open Decimal (Binary64)

/-! ## Characters -/

/-- Blanks within a line. -/
def isSpace (c : Char) : Bool := c == ' ' || c == '\t'

/-- Control characters other than a tab stand nowhere. -/
def isAllowed (c : Char) : Bool := c == '\t' || (0x20 ≤ c.toNat && c.toNat ≠ 0x7f)

/-- The end of a line, if one stands here. -/
def tryNewline : Reader Bool := do
  if ← tryText "\n" then return true else tryText "\r\n"

/-! ## Strings -/

/-- The character that an escape stands for, after its backslash. -/
def escaped : Reader Char := do
  match ← next with
  | 'b' => return '\x08'
  | 't' => return '\t'
  | 'n' => return '\n'
  | 'f' => return '\x0c'
  | 'r' => return '\r'
  | '"' => return '"'
  | '\\' => return '\\'
  | 'u' => codePoint 4
  | 'U' => codePoint 8
  | _ => failure

/-- The characters of a string on one line, up to its closing quote. -/
def lineString (quote : Char) (escapes : Bool) : Nat → Reader (List Char)
  | 0 => failure
  | fuel + 1 => do
    let c ← next
    if c = quote then return []
    else if c = '\\' && escapes then return (← escaped) :: (← lineString quote escapes fuel)
    else
      require (isAllowed c)
      return c :: (← lineString quote escapes fuel)

/-- How many quotes stand here, of the five that can. -/
def quotesHere (quote : Char) : Reader Nat := do
  return (((← get).take 5).takeWhile (· = quote)).length

/-- Drops blanks and line ends, with one line end at least, after a backslash. -/
def lineFold (fuel : Nat) : Reader Bool := do
  let here ← get
  dropWhile isSpace
  if ← tryNewline then
    let rec more : Nat → Reader Unit
      | 0 => pure ()
      | fuel + 1 => do
        dropWhile isSpace
        if ← tryNewline then more fuel else pure ()
    more fuel
    return true
  else
    set here
    return false

/-- The characters of a string over several lines, up to its three closing quotes;
up to two more may stand before them. -/
def blockString (quote : Char) (escapes : Bool) : Nat → Reader (List Char)
  | 0 => failure
  | fuel + 1 => do
    let quotes ← quotesHere quote
    if 3 ≤ quotes then
      set ((← get).drop quotes)
      return List.replicate (quotes - 3) quote
    else if ← tryNewline then return '\n' :: (← blockString quote escapes fuel)
    else
      let c ← next
      if c = '\\' && escapes then
        if ← lineFold fuel then blockString quote escapes fuel
        else return (← escaped) :: (← blockString quote escapes fuel)
      else
        require (isAllowed c)
        return c :: (← blockString quote escapes fuel)

/-- A string after its first quote, in whichever form it has. -/
def anyString (quote : Char) (block : Bool) : Reader String := do
  let escapes := quote = '"'
  let fuel := (← get).length + 1
  match ← get with
  | a :: b :: rest =>
    if block && a = quote && b = quote then
      set rest
      let _ ← tryNewline
      return String.ofList (← blockString quote escapes fuel)
    else return String.ofList (← lineString quote escapes fuel)
  | _ => return String.ofList (← lineString quote escapes fuel)

/-! ## Numbers -/

/-- Digits of a base with single underscores between them, without the underscores. -/
def grouped (base : Nat) (cs : List Char) : Option (List Char) :=
  let rec go (afterDigit : Bool) : List Char → Option (List Char)
    | [] => if afterDigit then some [] else none
    | '_' :: rest => if afterDigit then go false rest else none
    | c :: rest =>
      if (Text.digitValue? base c).isSome then (go true rest).map (c :: ·) else none
  go false cs

/-- A whole number in a base that is marked in front. -/
def based (base : Nat) (cs : List Char) : Option Scalar := do
  let digits ← grouped base cs
  let n ← (Text.addDigits base Text.signedLimit 0 digits).toOption
  return .integer n

/-- The digits of a whole number in base ten, which has no zero in front. -/
def wholeDigits (cs : List Char) : Option (List Char) := do
  let digits ← grouped 10 cs
  match digits with
  | '0' :: _ :: _ => none
  | _ => return digits

/-- A number with a part or an exponent; one that is too large is none. -/
def float (cs : List Char) : Option Scalar := do
  let (negative, cs) := Decimal.splitSign cs
  let magnitude := cs.takeWhile fun c => !Decimal.isExponentMark c
  let exponent ← match cs.dropWhile fun c => !Decimal.isExponentMark c with
    | [] => some (0 : Int)
    | _ :: rest =>
      let (down, rest) := Decimal.splitSign rest
      (grouped 10 rest).map fun digits =>
        let n : Int := min 100000 (Nat.ofDigitChars 10 digits 0)
        if down then -n else n
  let whole ← wholeDigits (magnitude.takeWhile (· ≠ '.'))
  let part ← match magnitude.dropWhile (· ≠ '.') with
    | [] => some []
    | _ :: rest => grouped 10 rest
  let digits := Nat.ofDigitChars 10 (whole ++ part) 0
  match Binary64.ofDecimal negative digits (exponent - part.length) with
  | .infinite _ => none
  | x => return .number x

def number? (cs : List Char) : Option Scalar :=
  match cs with
  | '0' :: 'x' :: rest => based 16 rest
  | '0' :: 'o' :: rest => based 8 rest
  | '0' :: 'b' :: rest => based 2 rest
  | _ =>
    let (negative, magnitude) := Decimal.splitSign cs
    if magnitude = "inf".toList then some (.number (.infinite negative))
    else if magnitude = "nan".toList then some (.number .nan)
    else if magnitude.any fun c => c == '.' || c == 'e' || c == 'E' then float cs
    else do
      let digits ← wholeDigits magnitude
      let n ← Text.signed? negative (Nat.ofDigitChars 10 digits 0)
      return .integer n

def isWordChar (c : Char) : Bool := c.isAlphanum || c == '+' || c == '-' || c == '_' || c == '.'

/-- A moment starts with four digits and a hyphen, or with two and a colon. -/
def startsMoment : List Char → Bool
  | a :: b :: c :: d :: '-' :: _ => a.isDigit && b.isDigit && c.isDigit && d.isDigit
  | a :: b :: ':' :: _ => a.isDigit && b.isDigit
  | _ => false

/-- A scalar that is no string. -/
def bare : Reader Scalar := do
  if startsMoment (← get) then return .text (← moment)
  else
    let word ← takeSome isWordChar
    if word = "true".toList then return .boolean true
    else if word = "false".toList then return .boolean false
    else match number? word with
      | some scalar => return scalar
      | none => failure

end Chassis.Document.Toml
