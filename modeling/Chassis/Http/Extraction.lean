-- Requests that need a session: each of them is given one, or is turned away without it.
import Chassis.Http.Site
import Chassis.Session.Factory

namespace Chassis.Http

open Logging (Event)
open Session (Conditions Factory)

/-- The response that says how long its body is. -/
def Response.measured (response : Response) : Response :=
  { response with headers := response.headers ++ [lengthHeader response.body] }

/-- The response to a request for which there is no session. -/
def unavailable : Response := bare 500 []

/-- What becomes of a request that needs a session. -/
inductive Extraction where
  | session (number : Nat)
  | rejected (response : Response)
  | crashed
  deriving DecidableEq, Repr

/-- Asks the pool for the session of a request. -/
def extract (factory : Factory) (now : Conditions) : Factory × Extraction × List Event :=
  match factory.acquireForRequest now with
  | (factory, .session number, events) => (factory, .session number, events)
  | (factory, .failed _, events) => (factory, .rejected unavailable.measured, events)
  | (factory, .crashed, events) => (factory, .crashed, events)

end Chassis.Http
