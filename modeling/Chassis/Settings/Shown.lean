-- Settings as they are shown in logs: every field with its name, on one line or
-- one field a line. What is secret is not shown.
import Chassis.Settings.Basic
import Chassis.Text.Quoted

namespace Chassis.Settings

/-- The form of a field's value. -/
inductive Shape where
  | atom (text : String)
  | items (texts : List String)
  deriving DecidableEq, Repr

/-- What stands in place of a secret. -/
def redaction : String := "[REDACTED]"

/-- A secret as it is shown: an empty one can be told from one that is set. -/
def redacted (secret : String) : String := if secret = "" then secret else redaction

/-- A text as a field. -/
def quotedAtom (s : String) : Shape := .atom (Text.quoted s)

/-- The fields in the order in which they are shown. The database's address holds a
password and is never shown, empty or not. -/
def shapes (s : Settings) : List (String × Shape) := [
  ("app_name", quotedAtom s.appName),
  ("app_version", quotedAtom s.appVersion),
  ("debug", .atom (toString s.debug)),
  ("app_env", .atom s.deployment.name),
  ("server_host", quotedAtom s.serverHost),
  ("server_port", .atom (toString s.serverPort.toNat)),
  ("database_url", quotedAtom redaction),
  ("database_max_connections", .atom (toString s.databaseMaxConnections.toNat)),
  ("database_acquire_timeout_secs", .atom (toString s.databaseAcquireTimeoutSecs.toNat)),
  ("secret_key", quotedAtom (redacted s.secretKey)),
  ("algorithm", quotedAtom s.algorithm),
  ("access_token_expire_minutes", .atom (toString s.accessTokenExpireMinutes.toNat)),
  ("cors_origins", .items (s.corsOrigins.map Text.quoted)),
  ("qdrant_url", quotedAtom s.qdrantUrl),
  ("openai_api_key", quotedAtom (redacted s.openaiApiKey)),
  ("claude_api_key", quotedAtom (redacted s.claudeApiKey)),
  ("ollama_url", quotedAtom s.ollamaUrl),
  ("log_dir", quotedAtom s.logDir),
  ("log_format", .atom s.logFormat.label),
  ("log_retention_days", .atom (toString s.logRetentionDays.toNat))]

def Shape.line : Shape → String
  | .atom text => text
  | .items texts => "[" ++ ", ".intercalate texts ++ "]"

/-- A value over several lines, an item a line. -/
def Shape.block : Shape → String
  | .atom text => text
  | .items [] => "[]"
  | .items texts => "[\n" ++ String.join (texts.map fun text => s!"        {text},\n") ++ "    ]"

def shown (s : Settings) : String :=
  "Settings \x7b " ++ ", ".intercalate
    (s.shapes.map fun (name, shape) => s!"{name}: {shape.line}") ++ " \x7d"

/-- The settings with a field a line. -/
def shownInBlock (s : Settings) : String :=
  "Settings \x7b\n" ++ String.join
    (s.shapes.map fun (name, shape) => s!"    {name}: {shape.block},\n") ++ "\x7d"

end Chassis.Settings
