-- Where the program runs: on a developer's machine, under test or in production.
import Chassis.Document.Json
import Chassis.Text.Basic
import Chassis.Text.Lowercase

namespace Chassis.Settings

/-- The kind of place that the program runs in. -/
inductive Deployment where
  | dev
  | test
  | prod
  deriving DecidableEq, Repr

namespace Deployment

def name : Deployment → String
  | dev => "Local"
  | test => "Test"
  | prod => "Prod"

/-- The name within the names of settings files. -/
def fileTag : Deployment → String
  | dev => "local"
  | test => "test"
  | prod => "prod"

/-- The deployment of a name in lower case. -/
def ofLowercase? (name : String) : Option Deployment :=
  if name = "local" then some dev
  else if name = "test" then some test
  else if name = "prod" || name = "production" then some prod
  else none

/-- The form in which names are compared: trimmed and in lower case. -/
def canonical (name : String) : String := Text.lower (Text.trimmed name)

/-- Reads a name; a name that is none is given back in canonical form. -/
def parse (name : String) : Except String Deployment :=
  match ofLowercase? (canonical name) with
  | some deployment => .ok deployment
  | none => .error (canonical name)

/-- What is said of a name that is none. -/
def unknownMessage (canonicalName : String) : String :=
  s!"Invalid environment: {canonicalName}. Expected: local, test, or prod"

end Deployment

/-! ## Values -/

/-- Why a value is no deployment. -/
inductive DeploymentFault where
  | json (fault : Document.Json.Fault)
  | unknownName (canonicalName : String)
  deriving DecidableEq, Repr

def DeploymentFault.message : DeploymentFault → String
  | .json fault => fault.message
  | .unknownName name => Deployment.unknownMessage name

/-- Reads a value, which must be a string and the name of a deployment. -/
def Deployment.ofValue (value : Document.Value) : Except DeploymentFault Deployment := do
  let name ← (Document.Json.stringOf value).mapError .json
  (parse name).mapError .unknownName

end Chassis.Settings
