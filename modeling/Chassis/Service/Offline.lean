-- A machine without a network: its own addresses can be bound, nothing else is reached,
-- and no name can be looked up. The database for practice answers queries by rule.
import Chassis.Net.Address
import Chassis.Net.Url
import Chassis.Service.Run

namespace Chassis.Service.Offline

open Session (Login Reply)

/-- Why nobody is reached: the number, the kind and the text that the system has for it. -/
structure Fault where
  code : Nat
  kind : String
  text : String

/-- The fault of whoever tries to reach somebody. -/
def unreached : Fault := ⟨101, "NetworkUnreachable", "Network is unreachable"⟩

def login : Login := .unreachable s!"{unreached.text} (os error {unreached.code})"

def hostAndPort (address : String) : String × String :=
  let parts := address.splitOn ":"
  (":".intercalate parts.dropLast, parts.getLast?.getD "")

/-- A host that is a number by itself, in the one way to write it within an address. -/
def numericHost? (host : String) : Option String :=
  let cs := host.toList
  match Net.Url.looseIpv4? cs with
  | some four => some four
  | none =>
    let bare := if cs.head? = some '[' && cs.getLast? = some ']' then cs.tail.dropLast else cs
    (Net.ipv6? bare).map fun groups => s!"[{Net.ipv6Text groups}]"

/-- The address that is bound when somebody listens; `free` stands for one with a port
that was free. -/
def listen (free address : String) : Except String String :=
  let (host, port) := hostAndPort address
  match numericHost? (if host = "localhost" then "127.0.0.1" else host) with
  | some host => .ok (if port = "0" then free else s!"{host}:{port}")
  | none => .error "failed to lookup address information: Temporary failure in name resolution"

/-- The reply of the database for practice: a query can ask to fail or to be cut off, and
else says how many rows it affects. -/
def reply (query : String) : Reply :=
  match query.toList with
  | 'F' :: 'A' :: 'I' :: 'L' :: ' ' :: text => .refused (String.ofList text)
  | ['K', 'I', 'L', 'L'] => .cut
  | _ =>
    let last := (((query.splitOn " ").filter fun word => !word.isEmpty).getLast?.getD "").toList
    .rows ((Text.readUnsigned Text.unsignedLimit last).toOption.getD 0)

end Chassis.Service.Offline
