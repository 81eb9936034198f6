-- The settings one by one: each has a key and a form in which its value is read. The settings are
-- read from what the layers come to.
import Chassis.Settings.Basic
import Chassis.Settings.Layers

namespace Chassis.Settings

open Document

/-! ## Forms -/

inductive Form where
  | text
  | boolean
  | port
  | count
  | seconds
  | origins
  | logFormat

abbrev Form.Carrier : Form → Type
  | text => String
  | boolean => Bool
  | port => UInt16
  | count => UInt32
  | seconds => UInt64
  | origins => List String
  | logFormat => LogFormat

/-- The log format of a value: its name, or a table with that name as its only key. -/
def asLogFormat (value : Value) : Except LogFormatFault LogFormat :=
  let named (name : String) : Except LogFormatFault LogFormat :=
    match LogFormat.ofName? name with
    | some format => .ok format
    | none => .error (.unknownName name)
  match value with
  | .scalar _ (.text name) => named name
  | .table [(name, _)] => named name
  | _ => .error .wrongShape

def Form.read (key : String) (value : Value) : (form : Form) → Except Fault form.Carrier
  | text => (asText value).mapError (.mistyped key)
  | boolean => (asBoolean value).mapError (.mistyped key)
  | port => ((asWidth .w16 value).map UInt16.ofFin).mapError (.mistyped key)
  | count => ((asWidth .w32 value).map UInt32.ofFin).mapError (.mistyped key)
  | seconds => ((asWidth .w64 value).map UInt64.ofFin).mapError (.mistyped key)
  | origins => (asOrigins value).mapError fun fault => .misread key (.origins fault)
  | logFormat => (asLogFormat value).mapError fun fault => .misread key (.logFormat fault)

/-! ## Settings -/

/-- A setting that layers decide; the deployment is none of them. -/
inductive Setting where
  | appName
  | appVersion
  | debug
  | serverHost
  | serverPort
  | databaseUrl
  | databaseMaxConnections
  | databaseAcquireTimeoutSecs
  | secretKey
  | algorithm
  | accessTokenExpireMinutes
  | corsOrigins
  | qdrantUrl
  | openaiApiKey
  | claudeApiKey
  | ollamaUrl
  | logDir
  | logFormat
  | logRetentionDays
  deriving DecidableEq, Repr

namespace Setting

def every : List Setting := [
  appName, appVersion, debug, serverHost, serverPort, databaseUrl, databaseMaxConnections,
  databaseAcquireTimeoutSecs, secretKey, algorithm, accessTokenExpireMinutes,
  corsOrigins, qdrantUrl,
  openaiApiKey, claudeApiKey, ollamaUrl, logDir, logFormat, logRetentionDays]

def key : Setting → String
  | appName => "app_name"
  | appVersion => "app_version"
  | debug => "debug"
  | serverHost => "server_host"
  | serverPort => "server_port"
  | databaseUrl => "database_url"
  | databaseMaxConnections => "database_max_connections"
  | databaseAcquireTimeoutSecs => "database_acquire_timeout_secs"
  | secretKey => "secret_key"
  | algorithm => "algorithm"
  | accessTokenExpireMinutes => "access_token_expire_minutes"
  | corsOrigins => "cors_origins"
  | qdrantUrl => "qdrant_url"
  | openaiApiKey => "openai_api_key"
  | claudeApiKey => "claude_api_key"
  | ollamaUrl => "ollama_url"
  | logDir => "log_dir"
  | logFormat => "log_format"
  | logRetentionDays => "log_retention_days"

def form : Setting → Form
  | debug => .boolean
  | serverPort => .port
  | databaseMaxConnections => .count
  | databaseAcquireTimeoutSecs => .seconds
  | accessTokenExpireMinutes => .count
  | corsOrigins => .origins
  | logFormat => .logFormat
  | logRetentionDays => .count
  | _ => .text

/-- Reads a value of the setting. -/
def read (setting : Setting) (value : Value) : Except Fault setting.form.Carrier :=
  setting.form.read setting.key value

def ofKey? (key : String) : Option Setting := every.find? fun setting => setting.key = key

end Setting

/-! ## Reading all of them -/

def deploymentField (merged : Table) (key : String) : Except Fault Deployment := do
  let name ← Form.text.read key (childOf merged key)
  (Deployment.parse name).mapError fun name => .misread key (.deployment name)

/-- Reads what a table has under a key, for its fault alone. What no setting is called is
passed over. -/
def checkKey (merged : Table) (key : String) : Except Fault Unit :=
  if key = "app_env" then (deploymentField merged key).map fun _ => ()
  else match Setting.ofKey? key with
    | some setting => (setting.read (childOf merged key)).map fun _ => ()
    | none => .ok ()

/-- Reads the settings from a merged document. Its entries are read in an order of their own, which
is not that of the document, and the first fault is the one that is told. What `order` leaves
out is read last, in the order of the settings. -/
def ofTableIn (order : List String) (merged : Table) : Except Fault Settings := do
  order.forM (checkKey merged)
  let read (setting : Setting) := setting.read (childOf merged setting.key)
  return {
    appName := ← read .appName
    appVersion := ← read .appVersion
    debug := ← read .debug
    deployment := ← deploymentField merged "app_env"
    serverHost := ← read .serverHost
    serverPort := ← read .serverPort
    databaseUrl := ← read .databaseUrl
    databaseMaxConnections := ← read .databaseMaxConnections
    databaseAcquireTimeoutSecs := ← read .databaseAcquireTimeoutSecs
    secretKey := ← read .secretKey
    algorithm := ← read .algorithm
    accessTokenExpireMinutes := ← read .accessTokenExpireMinutes
    corsOrigins := ← read .corsOrigins
    qdrantUrl := ← read .qdrantUrl
    openaiApiKey := ← read .openaiApiKey
    claudeApiKey := ← read .claudeApiKey
    ollamaUrl := ← read .ollamaUrl
    logDir := ← read .logDir
    logFormat := ← read .logFormat
    logRetentionDays := ← read .logRetentionDays }

/-- Reads the settings from a merged document in their own order. -/
abbrev ofTable (merged : Table) : Except Fault Settings := ofTableIn [] merged

/-- The document that the settings are read from: the variables over the file of the
deployment over the common file over the defaults, and the deployment over all. -/
def mergedLayers (deployment : Deployment) (common own : Table) (vars : Variables) : Table :=
  let layers := overDefaults defaults [common, own, variableLayer vars]
  entriesOf (layEntry (.table layers) ("app_env", .ofText deployment.name))

/-- The settings of two documents and the variables, read in some order. -/
def ofLayersIn (order : List String) (deployment : Deployment) (common own : Table)
    (vars : Variables) : Except Fault Settings :=
  ofTableIn order (mergedLayers deployment common own vars)

/-- The settings of two documents and the variables, read in their own order. -/
abbrev ofLayers (deployment : Deployment) (common own : Table) (vars : Variables) :
    Except Fault Settings :=
  ofLayersIn [] deployment common own vars

end Chassis.Settings
