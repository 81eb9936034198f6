-- Reading a text from its front: a reader takes characters off the text, or fails.
import Chassis.Text.Digits

namespace Chassis.Document

/-- A computation that takes characters off the front of a text and may fail. -/
abbrev Reader := StateT (List Char) Option

/-- Fails unless something holds. -/
def require {m : Type → Type} [Alternative m] (holds : Bool) : m Unit :=
  if holds then pure () else failure

namespace Reader

/-- The next character, which stays. -/
def peek? : Reader (Option Char) := do return (← get).head?

def atEnd : Reader Bool := do return (← get).isEmpty

def next : Reader Char := do
  match ← get with
  | [] => failure
  | c :: rest =>
    set rest
    return c

def char (c : Char) : Reader Unit := do
  if (← next) = c then return else failure

/-- Takes a text if it stands here. -/
def tryText (s : String) : Reader Bool := do
  let here ← get
  if s.toList.isPrefixOf here then
    set (here.drop s.length)
    return true
  else return false

def text (s : String) : Reader Unit := do
  if ← tryText s then return else failure

/-- Takes the characters up to the first that is not of a class. -/
def takeWhile (p : Char → Bool) : Reader (List Char) := do
  let here ← get
  set (here.dropWhile p)
  return here.takeWhile p

/-- Drops the characters up to the first that is not of a class. -/
def dropWhile (p : Char → Bool) : Reader Unit := do
  set ((← get).dropWhile p)

/-- Takes one character of a class and all that follow of it. -/
def takeSome (p : Char → Bool) : Reader (List Char) := do
  let cs ← takeWhile p
  if cs.isEmpty then failure else return cs

/-- Takes a fixed count of characters. -/
def take (count : Nat) : Reader (List Char) := do
  let here ← get
  require (count ≤ here.length)
  set (here.drop count)
  return here.take count

/-- The character of a code point with a fixed count of hexadecimal digits. -/
def codePoint (count : Nat) : Reader Char := do Text.codePoint? (← take count)

/-- Runs a reader on a whole text, which it must use up. -/
def all? {α : Type} (reader : Reader α) (s : List Char) : Option α :=
  match reader.run s with
  | some (x, []) => some x
  | _ => none

end Reader

end Chassis.Document
