-- How logging is set up, and what the settings of the service ask for.
import Chassis.Settings.Basic

namespace Chassis.Logging

/-- What every log file ends in, after its date. -/
def fileTag : String := "log"

/-- How logging is set up. The console filter gives way to the filter variable. -/
structure Config where
  environment : String
  jsonFormat : Bool
  consoleFilter : String
  fileFilter : String
  directory : String
  fileStem : String
  retentionDays : Nat
  deriving DecidableEq, Repr

/-- The set-up without any settings. -/
def Config.standard : Config where
  environment := "Local"
  jsonFormat := false
  consoleFilter := "info"
  fileFilter := "info"
  directory := "logs"
  fileStem := "yavin1"
  retentionDays := 10

end Chassis.Logging

namespace Chassis.Settings

/-- The set-up of logging that the settings ask for. -/
def logging (s : Settings) : Logging.Config where
  environment := s.deployment.name
  jsonFormat := s.logFormat = .json
  consoleFilter := if s.debug then "debug" else "info"
  fileFilter := "info"
  directory := s.logDir
  fileStem := "yavin1"
  retentionDays := s.logRetentionDays.toNat

end Chassis.Settings
