-- How to reach the database: what an address says about it, over what is usual.
import Chassis.Net.Url
import Chassis.Session.Fault
import Chassis.Text.Quoted

namespace Chassis.Session

open Net (Url)

/-- How much encryption is asked for. -/
inductive SslMode where
  | disable
  | allow
  | prefer
  | require
  | verifyCa
  | verifyFull
  deriving DecidableEq, Repr

namespace SslMode

/-- The modes by their names in lower case. -/
def names : List (String × SslMode) := [
  ("disable", disable), ("allow", allow), ("prefer", prefer), ("require", require),
  ("verify-ca", verifyCa), ("verify-full", verifyFull)]

/-- The mode of a name in any case. -/
def ofName? (name : String) : Option SslMode :=
  names.lookup (String.ofList (name.toList.map Char.toLower))

def label : SslMode → String
  | disable => "Disable"
  | allow => "Allow"
  | prefer => "Prefer"
  | require => "Require"
  | verifyCa => "VerifyCa"
  | verifyFull => "VerifyFull"

end SslMode

/-- How to reach the database. A socket goes before the host. -/
structure Options where
  host : String
  port : Nat
  socket : Option String
  username : String
  password : Option String
  database : Option String
  sslMode : SslMode
  applicationName : Option String
  options : Option String
  deriving DecidableEq, Repr

namespace Options

/-- Why an address does not say how to reach a database. -/
inductive Defect where
  | url (fault : Net.UrlFault)
  | broken (text : Text.Break)
  | number (fault : Text.DigitFault)
  | address
  | sslMode (name : String)
  deriving DecidableEq, Repr

def Defect.message (defect : Defect) : String :=
  "error with configuration: " ++ match defect with
    | .url fault => fault.message
    | .broken text => text.message
    | .number fault => fault.message
    | .address => "invalid IP address syntax"
    | .sslMode name => s!"error with configuration: unknown value {Text.quoted name} for `ssl_mode`"

def usual (username : String) : Options where
  host := "localhost"
  port := 5432
  socket := none
  username := username
  password := none
  database := none
  sslMode := .prefer
  applicationName := none
  options := none

/-! ## Parameters -/

/-- The text with a backslash in front of blanks and backslashes. -/
def escapeOption (s : String) : String :=
  String.ofList (s.toList.flatMap fun c => if c = ' ' || c = '\\' then ['\\', c] else [c])

def addOptions (o : Options) (more : String) : Options :=
  { o with options := some (match o.options with
      | some before => before ++ " " ++ more
      | none => more) }

def addNamed (o : Options) (name value : String) : Options :=
  let more := s!"-c {escapeOption name}={escapeOption value}"
  match o.options with
  | some "" => { o with options := some more }
  | _ => o.addOptions more

/-- The name in the brackets of a key. -/
def bracketName? (key : String) : Option String :=
  match key.toList with
  | 'o' :: 'p' :: 't' :: 'i' :: 'o' :: 'n' :: 's' :: '[' :: rest =>
    if rest.getLast? = some ']' then some (String.ofList rest.dropLast) else none
  | _ => none

/-- A number within a width. -/
def numberOf (limit : Nat) (s : String) : Except Defect Nat :=
  (Text.readUnsigned limit s.toList).mapError .number

/-- What one parameter of the query changes; an unknown one changes nothing. -/
def withParameter (o : Options) (key value : String) : Except Defect Options :=
  match key with
  | "sslmode" | "ssl-mode" =>
    match SslMode.ofName? value with
    | some mode => .ok { o with sslMode := mode }
    | none => .error (.sslMode value)
  | "statement-cache-capacity" => (numberOf Text.unsignedLimit value).map fun _ => o
  | "host" =>
    .ok (if value.toList.head? = some '/' then { o with socket := some value }
      else { o with host := value })
  | "hostaddr" =>
    if Net.isAddress value.toList then .ok { o with host := value } else .error .address
  | "port" => (numberOf 65535 value).map fun port => { o with port }
  | "dbname" => .ok { o with database := some value }
  | "user" => .ok { o with username := value }
  | "password" => .ok { o with password := some value }
  | "application_name" => .ok { o with applicationName := some value }
  | "options" => .ok (o.addOptions value)
  | key =>
    match bracketName? key with
    | some name => .ok (o.addNamed name value)
    | none => .ok o

/-! ## Addresses -/

/-- The text that a part of an address decodes to. -/
def decoded (s : List Char) : Except Defect String :=
  (Text.decode (Net.percentDecode s)).mapError .broken

/-- A host that decodes to something with a slash in front is the place of a socket;
any other stays as it is written. -/
def withHost (o : Options) (host : String) : Except Defect Options :=
  let bytes := Net.percentDecode host.toList
  if bytes.head? = some 0x2f then
    (decoded host.toList).map fun socket => { o with socket := some socket }
  else .ok { o with host }

/-- What an address says, over what is usual. Later parameters win over earlier ones. -/
def ofUrl (o : Options) (url : Url) : Except Defect Options := do
  let o ← match url.host with
    | some host => o.withHost host
    | none => .ok o
  let o := match url.port with
    | some port => { o with port }
    | none => o
  let o ← if url.username.isEmpty then .ok o
    else (decoded url.username).map fun username => { o with username }
  let o ← match url.password with
    | some password => (decoded password).map fun password => { o with password := some password }
    | none => .ok o
  let path := url.path.dropWhile (· = '/')
  let o ← if path.isEmpty then .ok o
    else (decoded path).map fun database => { o with database := some database }
  (Net.formPairs url.query).foldlM (fun o (key, value) => o.withParameter key value) o

/-- What the text of an address says, over what is usual. -/
def parse (usual : Options) (s : String) : Except Defect Options :=
  match Url.parse s with
  | .error fault => .error (.url fault)
  | .ok url => usual.ofUrl url

end Options

end Chassis.Session
