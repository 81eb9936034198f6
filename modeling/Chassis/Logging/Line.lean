-- The lines that events leave: text for people, and objects for programs.
import Chassis.Document.Json
import Chassis.Logging.Event

namespace Chassis.Logging

/-- When an event happened, and where in the program. -/
structure Stamp where
  time : String
  file : String
  line : Nat
  deriving DecidableEq, Repr

/-! ## Text -/

/-- A character of a message. What could steer a terminal is spelled out. -/
def messageChar (c : Char) : List Char :=
  let code := c.toNat
  if [0x07, 0x08, 0x0c, 0x1b, 0x7f].contains code then
    ['\\', 'x', Nat.digitChar (code / 16), Nat.digitChar (code % 16)]
  else if 0x80 ≤ code && code ≤ 0x9f then
    ['\\', 'u', '\x7b', Nat.digitChar (code / 16), Nat.digitChar (code % 16), '\x7d']
  else [c]

def messageText (message : String) : String := String.ofList (message.toList.flatMap messageChar)

/-- The name of a level, as wide as the widest. -/
def levelText (level : Level) : String :=
  String.ofList (List.replicate (5 - level.name.length) ' ') ++ level.name

def fieldsText (fields : List (String × FieldValue)) : String :=
  String.join (fields.map fun (name, value) => s!" {name}={value.shown}")

def textLine (stamp : Stamp) (event : Event) : String :=
  s!"{stamp.time} {levelText event.level} {event.target}: {stamp.file}:{stamp.line}: " ++
    messageText event.message ++ fieldsText event.fields

/-! ## Objects -/

def FieldValue.json : FieldValue → String
  | .text s => Document.Json.writeString s
  | .display s => Document.Json.writeString s
  | .number n => toString n
  | .truth b => toString b

/-- The members of the object of an event; the message is the first of its fields. -/
def jsonMembers (stamp : Stamp) (event : Event) : List (String × String) := [
  ("timestamp", Document.Json.writeString stamp.time),
  ("level", Document.Json.writeString event.level.name),
  ("fields", Document.Json.writeObject
    ((("message", FieldValue.display event.message) :: event.fields).map fun (name, value) =>
      (name, value.json))),
  ("target", Document.Json.writeString event.target),
  ("filename", Document.Json.writeString stamp.file),
  ("line_number", toString stamp.line)]

/-- The line of an event as an object. -/
def jsonLine (stamp : Stamp) (event : Event) : String :=
  Document.Json.writeObject (jsonMembers stamp event)

end Chassis.Logging
