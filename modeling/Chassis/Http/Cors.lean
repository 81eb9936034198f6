-- Which foreign origins may read responses: those that are listed, byte for byte, and
-- with credentials, so that a wildcard is never among them.
import Chassis.Http.Message
import Chassis.Logging.Event

namespace Chassis.Http

open Logging (Event)
open Text (Native)

/-! ## The allow-list -/

/-- Why an origin of the settings is not allowed. -/
inductive Skip where
  | wildcard
  | illegal
  deriving DecidableEq, Repr

/-- Whether an origin is skipped. -/
def skip? (origin : String) : Option Skip :=
  if origin = "*" then some .wildcard
  else if isHeaderValue origin then none
  else some .illegal

/-- Where the events about origins come from. -/
def corsTarget : String := "yavin::presentation::router"

/-- The warning about an origin that is skipped. -/
def Skip.event (origin : String) : Skip → Event
  | wildcard => ⟨.warn, corsTarget, "Skipping wildcard CORS origin, credentials are enabled", []⟩
  | illegal => ⟨.warn, corsTarget, "Skipping invalid CORS origin",
      [("origin", .display origin), ("error", .display "failed to parse header value")]⟩

def allowed (origins : List String) : List String :=
  origins.filter fun origin => (skip? origin).isNone

/-- The warnings about the others. -/
def skipEvents (origins : List String) : List Event :=
  origins.filterMap fun origin => (skip? origin).map (·.event origin)

/-! ## The policy -/

/-- What a policy lets through: anything, what it lists, or whatever a request asks for. -/
inductive Allowance where
  | anything
  | listed (values : List String)
  | asked
  deriving DecidableEq, Repr

/-- A list of origins; one with an asterisk cannot be made. -/
def Allowance.ofOrigins? (origins : List String) : Option Allowance :=
  if origins.contains "*" then none else some (.listed origins)

def Allowance.values : Allowance → List String
  | listed values => values
  | _ => []

/-- What foreign origins may do, and what of a response they get to see. -/
structure Policy where
  origins : Allowance
  methods : Allowance
  headers : Allowance
  exposed : Allowance
  credentials : Bool
  deriving DecidableEq, Repr

/-- The policy that lets in those of the origins that are not skipped, with credentials. -/
def Policy.ofOrigins? (origins : List String) : Option Policy :=
  (Allowance.ofOrigins? (allowed origins)).map fun listed =>
    ⟨listed, .asked, .asked, .listed [], true⟩

/-- A policy with credentials must not let through anything without bounds. -/
def Policy.isUsable (policy : Policy) : Bool :=
  !(policy.credentials && [policy.origins, policy.methods, policy.headers, policy.exposed].contains
    .anything)

/-! ## Headers -/

def header? (name : String) (value : Option Native) : Headers :=
  (value.map fun v => (name, v)).toList

/-- Every response depends on these headers of the request. -/
def varyHeader : String × Native :=
  ("vary", .text "origin, access-control-request-method, access-control-request-headers")

/-- Credentials are allowed in every response. -/
def credentialsHeader : String × Native := ("access-control-allow-credentials", .text "true")

/-- The origin of the request, if it is allowed. -/
def originHeader (allowed : List String) (headers : Headers) : Headers :=
  header? "access-control-allow-origin"
    ((headers.first? "origin").filter (allowed.map .text).contains)

/-- What a request asks whether it may send, it may. -/
def echoed (headers : Headers) : Headers :=
  header? "access-control-allow-methods" (headers.first? "access-control-request-method")
    ++ header? "access-control-allow-headers" (headers.first? "access-control-request-headers")

/-- The headers that tell foreign origins what they may do. -/
def corsHeaders (allowed : List String) (request : Request) : Headers :=
  originHeader allowed request.headers ++ [credentialsHeader, varyHeader]
    ++ (if request.method = "OPTIONS" then echoed request.headers else [])

end Chassis.Http
