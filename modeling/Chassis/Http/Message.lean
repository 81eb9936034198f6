-- Requests and responses, and what of a request counts: its method, the path that its
-- target names, and the first header of a name.
import Chassis.Text.Native

namespace Chassis.Http

open Text (Bytes Native)

/-- The names and values of headers, in order. Values may be any bytes. -/
abbrev Headers := List (String × Native)

/-- A request. Its body is never looked at. -/
structure Request where
  method : String
  target : String
  headers : Headers
  body : Bytes
  deriving DecidableEq, Repr

structure Response where
  status : Nat
  headers : Headers
  body : String
  deriving DecidableEq, Repr

/-! ## Headers -/

/-- A name of a header in lower case. -/
def lowerName (name : String) : String := String.ofList (name.toList.map Char.toLower)

/-- The value of the first header of a name, which is given in lower case. -/
def Headers.first? (headers : Headers) (name : String) : Option Native :=
  (headers.find? fun header => lowerName header.1 == name).map (·.2)

/-- A text that may stand in a header: it has no control characters but tabs. -/
def isHeaderValue (s : String) : Bool :=
  s.toList.all fun c => c == '\t' || (0x20 ≤ c.toNat && c.toNat ≠ 0x7f)

/-! ## Targets -/

/-- The characters up to a query or a fragment. -/
def beforeQuery (s : List Char) : List Char := s.takeWhile fun c => c ≠ '?' && c ≠ '#'

/-- The text after a scheme and its slashes. -/
def afterScheme? : List Char → Option (List Char)
  | ':' :: '/' :: '/' :: rest => some rest
  | '/' :: _ => none
  | _ :: rest => afterScheme? rest
  | [] => none

/-- The path that a target names. A whole address without a path names the top; a host
without a scheme, or an asterisk, names none. -/
def path? (target : String) : Option String :=
  match target.toList with
  | '/' :: rest => some (String.ofList ('/' :: beforeQuery rest))
  | cs =>
    (afterScheme? cs).map fun rest =>
      let path := (beforeQuery rest).dropWhile (· ≠ '/')
      if path.isEmpty then "/" else String.ofList path

end Chassis.Http
