-- Addresses of resources: scheme, credentials, host, port, path and query. The parts
-- are kept as they are written, since all that is asked of them is what they decode to.
import Chassis.Net.Address

namespace Chassis.Net

/-- Why a text is no address of a resource. -/
inductive UrlFault where
  | relative
  | emptyHost
  | badPort
  | badIpv4
  | badIpv6
  | badDomain
  | badInternational
  deriving DecidableEq, Repr

def UrlFault.message : UrlFault → String
  | .relative => "relative URL without a base"
  | .emptyHost => "empty host"
  | .badPort => "invalid port number"
  | .badIpv4 => "invalid IPv4 address"
  | .badIpv6 => "invalid IPv6 address"
  | .badDomain => "invalid domain character"
  | .badInternational => "invalid international domain name"

/-- The parts of an address. -/
structure Url where
  username : List Char
  password : Option (List Char)
  host : Option String
  port : Option Nat
  path : List Char
  query : List Char
  deriving DecidableEq, Repr

namespace Url

/-! ## Schemes -/

/-- The schemes with rules of their own, and their usual ports. -/
def specialPorts : List (String × Option Nat) := [
  ("http", some 80), ("https", some 443), ("ws", some 80), ("wss", some 443), ("ftp", some 21),
  ("file", none)]

def isSchemeChar (c : Char) : Bool := c.isAlphanum || c == '+' || c == '-' || c == '.'

/-- The scheme in lower case and the text after its colon. -/
def scheme? (s : List Char) : Option (String × List Char) :=
  match s with
  | [] => none
  | c :: _ =>
    if !c.isAlpha then none
    else match s.dropWhile isSchemeChar with
      | ':' :: rest => some (String.ofList ((s.takeWhile isSchemeChar).map Char.toLower), rest)
      | _ => none

/-! ## Hosts -/

/-- The characters that no host holds. -/
def isForbidden (c : Char) : Bool :=
  ['\x00', '\t', '\n', '\r', ' ', '#', '/', ':', '<', '>', '?', '@', '[', '\\', ']', '^',
    '|'].contains c

/-- Controls and what is beyond ASCII. -/
def isControlOrWide (c : Char) : Bool := c.toNat < 0x20 || 0x7e < c.toNat

def bracketHost (s : List Char) : Except UrlFault String :=
  if s.getLast? ≠ some ']' then .error .badIpv6
  else match ipv6? ((s.drop 1).dropLast) with
    | some groups => .ok s!"[{ipv6Text groups}]"
    | none => .error .badIpv6

/-- A host of a scheme without rules of its own. -/
def opaqueHost (s : List Char) : Except UrlFault String :=
  if s.head? = some '[' then bracketHost s
  else if s.any isForbidden then .error .badDomain
  else .ok (String.ofList (percentEncode isControlOrWide s))

/-- A number of an address of version 4, in base ten, eight or sixteen. -/
def looseNumber? (s : List Char) : Option Nat :=
  let read (base : Nat) (digits : List Char) : Option Nat :=
    (Text.addDigits base (Text.unsignedLimit + 1) 0 digits).toOption
  match s with
  | [] => none
  | '0' :: 'x' :: digits => read 16 digits
  | '0' :: 'X' :: digits => read 16 digits
  | '0' :: digit :: digits => read 8 (digit :: digits)
  | digits => read 10 digits

/-- The parts of a domain, without an empty one at the end. -/
def labels (s : List Char) : List (List Char) :=
  let parts := s.splitOn '.'
  if 1 < parts.length && parts.getLast? = some [] then parts.dropLast else parts

/-- The last part of a domain is a number, so that the domain must be an address. -/
def endsInNumber (s : List Char) : Bool :=
  match (labels s).getLast? with
  | none => false
  | some last => (!last.isEmpty && last.all Char.isDigit) || (looseNumber? last).isSome

/-- An address of version 4 with one to four numbers, the last of which fills the rest. -/
def looseIpv4? (s : List Char) : Option String := do
  let numbers ← (labels s).mapM looseNumber?
  if 4 < numbers.length || numbers.isEmpty then none
  else if numbers.dropLast.any (255 < ·) then none
  else
    let last := numbers.getLast?.getD 0
    if Nat.pow 256 (5 - numbers.length) ≤ last then none
    else
      let front := (numbers.dropLast.zip [0x1000000, 0x10000, 0x100]).foldl
        (fun n (part, weight) => n + part * weight) 0
      let n := front + last
      return ".".intercalate
        ([n / 0x1000000, n / 0x10000 % 256, n / 256 % 256, n % 256].map toString)

/-- A host of a scheme with rules of its own: a domain in lower case, or an address. -/
def domainHost (s : List Char) : Except UrlFault String :=
  if s.head? = some '[' then bracketHost s
  else
    match Text.decode? (percentDecode s) with
    | none => .error .badInternational
    | some decoded =>
      let domain := decoded.toList.map Char.toLower
      if domain.isEmpty then .error .emptyHost
      else if domain.any fun c => isForbidden c || isControlOrWide c || c == '%' then
        .error .badInternational
      else if endsInNumber domain then
        match looseIpv4? domain with
        | some address => .ok address
        | none => .error .badIpv4
      else .ok (String.ofList domain)

/-! ## Authorities -/

def endsAuthority (special : Bool) (c : Char) : Bool :=
  c == '/' || c == '?' || c == '#' || (special && c == '\\')

/-- The part of a text before the last sign `@`, and the part after it. -/
def aroundLastAt? (s : List Char) : Option (List Char × List Char) :=
  if s.contains '@' then
    let back := (s.reverse.takeWhile (· ≠ '@')).reverse
    some (s.take (s.length - back.length - 1), back)
  else none

/-- The characters of a host up to its port; a colon within brackets is part of it. -/
def hostPart (inBrackets : Bool) : List Char → List Char
  | [] => []
  | c :: rest =>
    if c = ':' && !inBrackets then []
    else c :: hostPart (if c = '[' then true else if c = ']' then false else inBrackets) rest

/-- The port after its colon; the scheme's usual one and an empty one are none. A
backslash ends it under any scheme, and is given back. -/
def portOf (usual : Option Nat) (s : List Char) : Except UrlFault (Option Nat × List Char) :=
  let digits := s.takeWhile Char.isDigit
  let rest := s.dropWhile Char.isDigit
  match Text.addDigits 10 65535 0 digits with
  | .error _ => .error .badPort
  | .ok n =>
    if !rest.isEmpty && rest.head? ≠ some '\\' then .error .badPort
    else .ok (if digits.isEmpty || usual = some n then none else some n, rest)

/-- What an authority holds, and the text after it. -/
structure Authority where
  username : List Char
  password : Option (List Char)
  host : Option String
  port : Option Nat
  rest : List Char

/-- Reads the authority after the two slashes. -/
def authority (special : Bool) (usual : Option Nat) (s : List Char) :
    Except UrlFault Authority := do
  let text := s.takeWhile fun c => !endsAuthority special c
  let after := s.dropWhile fun c => !endsAuthority special c
  let (credentials, place) := (aroundLastAt? text).getD ([], text)
  if text.head? = some '@' && place.isEmpty && credentials.isEmpty && !after.isEmpty then
    throw .emptyHost
  let username := credentials.takeWhile (· ≠ ':')
  let secret := (credentials.dropWhile (· ≠ ':')).drop 1
  let password := if secret.isEmpty then none else some secret
  let written := hostPart false place
  let portText := place.drop written.length
  if written.isEmpty && special then throw .emptyHost
  let host ← if special then domainHost written else opaqueHost written
  if host.isEmpty && !portText.isEmpty then throw .emptyHost
  let (port, rest) ← match portText with
    | [] => .ok (none, [])
    | _ :: digits => portOf usual digits
  if host.isEmpty && !(username.isEmpty && password.isNone) then throw .emptyHost
  return ⟨username, password, if host.isEmpty then none else some host, port, rest ++ after⟩

/-! ## Paths -/

/-- A segment that stands for the directory itself. -/
def isHere (segment : List Char) : Bool :=
  [".", "%2e"].contains (String.ofList (segment.map Char.toLower))

/-- A segment that stands for the directory above. -/
def isUp (segment : List Char) : Bool :=
  ["..", "%2e.", ".%2e", "%2e%2e"].contains (String.ofList (segment.map Char.toLower))

/-- The segments of a path without the detours; `done` holds those before, the last one first. -/
def straighten (done : List (List Char)) : List (List Char) → List (List Char)
  | [] => done.reverse
  | segment :: rest =>
    if isUp segment then straighten (if rest.isEmpty then [] :: done.drop 1 else done.drop 1) rest
    else if isHere segment then straighten (if rest.isEmpty then [] :: done else done) rest
    else straighten (segment :: done) rest

/-- A path after its first slash. -/
def pathFrom (special : Bool) (s : List Char) : List Char :=
  let s := if special then s.map fun c => if c = '\\' then '/' else c else s
  (straighten [] (s.splitOn '/')).flatMap ('/' :: ·)

def pathAfter (special : Bool) (s : List Char) : List Char :=
  match s with
  | [] => if special then ['/'] else []
  | '/' :: rest => pathFrom special rest
  | '\\' :: rest => pathFrom special (if special then rest else s)
  | s => pathFrom special s

/-! ## Whole addresses -/

/-- The parts before and after the first of some characters. -/
def cut (c : Char) (s : List Char) : List Char × List Char :=
  (s.takeWhile (· ≠ c), (s.dropWhile (· ≠ c)).drop 1)

/-- The path and the query of a text that may hold a fragment too. -/
def pathAndQuery (s : List Char) : List Char × List Char := cut '?' (cut '#' s).1

def withAuthority (special : Bool) (usual : Option Nat) (s : List Char) : Except UrlFault Url := do
  let a ← authority special usual s
  let (path, query) := pathAndQuery a.rest
  return ⟨a.username, a.password, a.host, a.port, pathAfter special path, query⟩

/-- The address of a file, whose host is a domain or left out. -/
def ofFile (s : List Char) : Except UrlFault Url := do
  let isSlash (c : Char) : Bool := c == '/' || c == '\\'
  let (path, query) := pathAndQuery s
  match path with
  | '/' :: '/' :: after =>
    let name := after.takeWhile fun c => !isSlash c
    let host ← if name.isEmpty then .ok "" else domainHost name
    let host := if host = "" || host = "localhost" then none else some host
    return ⟨[], none, host, none, pathAfter true (after.dropWhile fun c => !isSlash c), query⟩
  | _ => return ⟨[], none, none, none, pathAfter true path, query⟩

/-- The text without what does not count: blanks and controls around it, and tabs and
line ends within it. -/
def clean (s : List Char) : List Char :=
  let isEdge (c : Char) : Bool := c.toNat ≤ 0x20
  let trimmed := ((s.dropWhile isEdge).reverse.dropWhile isEdge).reverse
  trimmed.filter fun c => c ≠ '\t' && c ≠ '\n' && c ≠ '\r'

def parse (s : String) : Except UrlFault Url :=
  match scheme? (clean s.toList) with
  | none => .error .relative
  | some (scheme, rest) =>
    match specialPorts.lookup scheme with
    | some usual =>
      if scheme = "file" then ofFile rest
      else withAuthority true usual (rest.dropWhile fun c => c == '/' || c == '\\')
    | none =>
      match rest with
      | '/' :: '/' :: after => withAuthority false none after
      | '/' :: after =>
        let (path, query) := pathAndQuery after
        .ok ⟨[], none, none, none, pathFrom false path, query⟩
      | _ =>
        let (path, query) := pathAndQuery rest
        .ok ⟨[], none, none, none, path, query⟩

end Url

end Chassis.Net
