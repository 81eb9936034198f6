-- A run of the service: settings, logging, the archiver in the background, the session
-- factory and the listener, in this order; then it serves until it is told to stop.
-- What fails on the way ends the run with a report.
import Chassis.Http.Server
import Chassis.Instance
import Chassis.Logging.Archive.Background
import Chassis.Logging.Archive.OnFiles
import Chassis.Logging.Setup
import Chassis.Settings.Shown

namespace Chassis.Service

open Logging (Event Logger Stamp)

/-! ## Reports of failures -/

/-- A text whose lines after the first are set in. -/
def setIn (margin : String) (s : String) : String := ("\n" ++ margin).intercalate (s.splitOn "\n")

/-- A cause in a list of several, with its number. -/
def numberedCause (number : Nat) (cause : String) : String :=
  let digits := toString number
  String.ofList (List.replicate (5 - digits.length) ' ') ++ digits ++ ": " ++ setIn "       " cause

/-- The causes below one another; they have numbers if there are several. -/
def causeLines (causes : List String) : List String :=
  match causes with
  | [cause] => ["    " ++ setIn "    " cause]
  | causes => causes.mapIdx numberedCause

def failureReport (context : String) (causes : List String) : String :=
  let below := if causes.isEmpty then ""
    else "\n\nCaused by:\n" ++ "\n".intercalate (causeLines causes)
  s!"Error: {context}{below}\n"

/-! ## Runs -/

/-- What the service finds on the machine: the day, how lines are stamped, the name of
the user, and what listening at an address comes to: the address that is bound, or why not. -/
structure Machine where
  today : Calendar.Date
  stamp : Stamp
  user : String
  listen : String → Except String String

/-- The variable that filters the console. -/
def filterVariable : String := "RUST_LOG"

/-- The variable that names the user of the database. -/
def userVariable : String := "PGUSER"

/-- Where the events of the run itself come from. -/
def target : String := "yavin_backend"

def settingsEvent (settings : Settings) : Event :=
  ⟨.debug, target, "Settings loaded", [("settings", .display settings.shown)]⟩

def listeningEvent (address : String) : Event := ⟨.info, target, s!"Listening on {address}", []⟩

inductive Ending where
  | finished
  | failed (context : String) (causes : List String)
  | crashed
  deriving DecidableEq, Repr

namespace Ending

def code : Ending → Nat
  | finished => 0
  | failed .. => 1
  | crashed => 101

/-- The report, unless the run crashed. -/
def report? : Ending → Option String
  | finished => some ""
  | failed context causes => some (failureReport context causes)
  | crashed => none

end Ending

/-- A service that serves: its logging, its server, and the address that is bound. -/
structure Running where
  logger : Logger
  server : Http.Server
  address : String

def addressOf (settings : Settings) : String :=
  s!"{settings.serverHost}:{settings.serverPort.toNat}"

/-- The milliseconds between two passes of the archiver. -/
def archivePeriod : Nat := 60 * 60 * 1000

/-- The first pass of the archiver. -/
def archiveOnce (machine : Machine) (settings : Settings) (logger : Logger) : Logger :=
  let archiver := Logging.Archive.Archiver.ofConfig settings.logging
  let task := Logging.Archive.Background.start archivePeriod logger.files
  let (task, notices) :=
    task.steps (fun _ => archiver.runOnFiles machine.today) [.poll, .passEnds, .poll]
  { logger with files := task.state }.logAll machine.stamp
    (notices.flatMap Logging.Archive.Background.Notice.events)

/-- From the settings to the server: what serves, or how the run ends, and with what logging. -/
def begin (machine : Machine) (inst : Instance) : Except (Logger × Ending) Running := do
  let (inst, loaded) := inst.settings
  let logger := Logger.ofFiles inst.files
  let settings ← loaded.mapError fun fault =>
    match fault with
    | .crashed => (logger, .crashed)
    | fault => (logger, .failed "Failed to load settings" fault.causes)
  let (logger, ready) :=
    logger.setUp (inst.environ.get? filterVariable) settings.logging machine.today machine.stamp
  ready.mapError fun fault =>
    (logger, if fault.causes.isEmpty then .crashed
      else .failed "Failed to initialize tracing" fault.causes)
  let logger := logger.log machine.stamp (settingsEvent settings)
  let logger := archiveOnce machine settings logger
  let user := (inst.environ.get? userVariable).getD machine.user
  let (making, events) := Session.Factory.make user settings.database
  let logger := logger.logAll machine.stamp events
  let factory ← match making with
    | .made factory => pure factory
    | .refused fault =>
      throw (logger, .failed "Failed to create database session factory" [fault.message])
    | .crashed => throw (logger, .crashed)
  let address := addressOf settings
  let bound ← (machine.listen address).mapError fun cause =>
    (logger, .failed s!"Failed to bind {address}" [cause])
  let logger := logger.log machine.stamp (listeningEvent address)
  let some (server, signs) := Http.Server.start settings factory (some bound)
    | throw (logger, .failed s!"Failed to bind {address}" [])
  let logger := logger.logAll machine.stamp (Http.Sign.events signs)
  match settings.openSite.1 with
  | .opened site => return ⟨logger, { server with site }, bound⟩
  | .crashed => throw (logger, .crashed)

/-- The service goes through some moves of its server. -/
def Running.steps (running : Running) (machine : Machine) (moves : List Http.Move) :
    Running × List Http.Sign :=
  let (server, signs) := running.server.steps moves
  ({ running with server, logger := running.logger.logAll machine.stamp (Http.Sign.events signs) },
    signs)

def Running.stop (running : Running) (machine : Machine) : Running :=
  (running.steps machine [.shutdown, .settle, .settle]).1

end Chassis.Service
