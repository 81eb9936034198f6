-- Why the database could not be used.
import Chassis.Text.Quoted

namespace Chassis.Session

/-- A fault of the database, with the words of whoever found it. -/
inductive Fault where
  | invalidUrl (detail : String)
  | connectionFailed (detail : String)
  | queryFailed (detail : String)
  deriving DecidableEq, Repr

namespace Fault

def kind : Fault → String
  | invalidUrl _ => "InvalidUrl"
  | connectionFailed _ => "ConnectionFailed"
  | queryFailed _ => "QueryFailed"

/-- The words of whoever found the fault. -/
def detail : Fault → String
  | invalidUrl detail => detail
  | connectionFailed detail => detail
  | queryFailed detail => detail

/-- What a fault of a kind is called in a message. -/
def headline : Fault → String
  | invalidUrl _ => "invalid database url"
  | connectionFailed _ => "connection failed"
  | queryFailed _ => "query failed"

def message (fault : Fault) : String := s!"{fault.headline}: {fault.detail}"

def diagnostic (fault : Fault) : String := s!"{fault.kind}({Text.quoted fault.detail})"

end Fault

end Chassis.Session
