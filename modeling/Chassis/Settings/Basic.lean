-- The settings of the service: what they are, their defaults, and what can be wrong with them.
import Chassis.Settings.Coerce
import Chassis.Settings.Deployment
import Chassis.Settings.Origins

namespace Chassis

open Document

/-- How log lines look on the console. -/
inductive LogFormat where
  | text
  | json
  deriving DecidableEq, Repr

structure Settings where
  appName : String
  appVersion : String
  debug : Bool
  deployment : Settings.Deployment
  serverHost : String
  serverPort : UInt16
  databaseUrl : String
  databaseMaxConnections : UInt32
  databaseAcquireTimeoutSecs : UInt64
  secretKey : String
  algorithm : String
  accessTokenExpireMinutes : UInt32
  corsOrigins : List String
  qdrantUrl : String
  openaiApiKey : String
  claudeApiKey : String
  ollamaUrl : String
  logDir : String
  logFormat : LogFormat
  logRetentionDays : UInt32
  deriving DecidableEq, Repr

namespace LogFormat

def name : LogFormat → String
  | text => "text"
  | json => "json"

/-- The name when it is shown among settings. -/
def label : LogFormat → String
  | text => "Text"
  | json => "Json"

/-- The format of a name, which must be spelt exactly. -/
def ofName? (name : String) : Option LogFormat :=
  if name = "text" then some text else if name = "json" then some json else none

end LogFormat

namespace Settings

/-! ## Faults -/

/-- Why a value is no log format. -/
inductive LogFormatFault where
  | unknownName (name : String)
  | wrongShape
  deriving DecidableEq, Repr

def LogFormatFault.message : LogFormatFault → String
  | .unknownName name => s!"enum LogFormat does not have variant constructor {name}"
  | .wrongShape =>
    "value of enum LogFormat should be represented by either string or table with exactly one key"

/-- Why the value of a setting with a form of its own cannot be read. -/
inductive Misreading where
  | origins (fault : OriginsFault)
  | logFormat (fault : LogFormatFault)
  | deployment (canonicalName : String)
  deriving DecidableEq, Repr

def Misreading.message : Misreading → String
  | .origins fault => fault.message
  | .logFormat fault => fault.message
  | .deployment name => Deployment.unknownMessage name

/-- Why there are no settings. A document that wants a list longer than any can be is a crash. -/
inductive Fault where
  | unknownDeployment (canonicalName : String)
  | unparsed (file : String)
  | mistyped (key : String) (mismatch : Mismatch)
  | misread (key : String) (misreading : Misreading)
  | crashed
  deriving DecidableEq, Repr

/-- A mismatch in words, with the key and the place that the value comes from. -/
def Mismatch.message (key : String) (m : Mismatch) : String :=
  s!"invalid type: {m.found.describe}, expected {m.wanted.describe} for key `{key}`"
    ++ (match m.origin with
      | some origin => s!" in {origin}"
      | none => "")

/-- What is wrong with the configuration, unless it is the name of the deployment. The
words for a document that does not parse are left to the reader of its format. -/
def Fault.detail? : Fault → Option String
  | .unknownDeployment _ => none
  | .unparsed file => some s!"{file} does not parse"
  | .mistyped key m => some (m.message key)
  | .misread key misreading => some s!"{misreading.message} for key `{key}`"
  | .crashed => none

/-- The fault in words; a crash has none. -/
def Fault.message (fault : Fault) : String :=
  match fault with
  | .unknownDeployment name => Deployment.unknownMessage name
  | .crashed => ""
  | fault => "invalid configuration: " ++ fault.detail?.getD ""

/-- The fault and its cause in words, from the outermost. -/
def Fault.causes (fault : Fault) : List String :=
  match fault with
  | .crashed => []
  | fault => fault.message :: fault.detail?.toList

/-! ## Variables -/

/-- The variables that count, in the order in which they are documented. -/
def variableNames : List String := [
  "APP_NAME", "APP_VERSION", "DEBUG", "DATABASE_URL", "SECRET_KEY", "ALGORITHM",
  "ACCESS_TOKEN_EXPIRE_MINUTES", "CORS_ORIGINS", "QDRANT_URL", "OPENAI_API_KEY",
  "CLAUDE_API_KEY", "OLLAMA_URL", "APP_ENV", "SERVER_HOST", "SERVER_PORT",
  "DATABASE_MAX_CONNECTIONS", "DATABASE_ACQUIRE_TIMEOUT_SECS", "LOG_DIR", "LOG_FORMAT",
  "LOG_RETENTION_DAYS"]

/-- Variables: names and their values, each name once. -/
abbrev Variables := List (String × String)

def Variables.get? (vars : Variables) (name : String) : Option String :=
  (vars.find? (·.1 == name)).map (·.2)

/-- The place that a value from a variable comes from. -/
def variableOrigin : String := "the environment"

/-- The layer of the variables: each that counts is a text under its name in lower case. -/
def variableLayer (vars : Variables) : Table :=
  (vars.filter fun (name, _) => variableNames.contains name).map fun (name, value) =>
    (Text.lower name, .scalar (some variableOrigin) (.text value))

def deploymentOf (vars : Variables) : Except Fault Deployment :=
  match vars.get? "APP_ENV" with
  | none => .ok .dev
  | some name => (Deployment.parse name).mapError .unknownDeployment

/-! ## Defaults -/

/-- The lowest layer. -/
def defaults : Table := [
  ("app_name", .ofText "YAVIN 1 Backend API"),
  ("app_version", .ofText "0.1.0"),
  ("debug", .plain (.boolean true)),
  ("server_host", .ofText "0.0.0.0"),
  ("server_port", .plain (.integer 8000)),
  ("database_url", .ofText "postgresql://postgres:postgres@db:5432/yavin1_db"),
  ("database_max_connections", .plain (.integer 10)),
  ("database_acquire_timeout_secs", .plain (.integer 30)),
  ("secret_key", .ofText "change-me-in-production"),
  ("algorithm", .ofText "HS256"),
  ("access_token_expire_minutes", .plain (.integer 30)),
  ("cors_origins", .list none [.ofText "http://localhost:5173", .ofText "http://localhost:3000"]),
  ("qdrant_url", .ofText "http://qdrant:6333"),
  ("openai_api_key", .ofText ""),
  ("claude_api_key", .ofText ""),
  ("ollama_url", .ofText ""),
  ("log_dir", .ofText "logs"),
  ("log_format", .ofText "text"),
  ("log_retention_days", .plain (.integer 10))]

end Settings

end Chassis
