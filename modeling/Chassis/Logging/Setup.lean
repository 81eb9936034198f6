-- Setting logging up: a directory and a file of the day, a filter for the console and
-- one for the file. It can be set up once; an attempt that fails leaves the way free.
import Chassis.Files.Tree
import Chassis.Logging.FileName
import Chassis.Logging.Filter
import Chassis.Logging.Line

namespace Chassis.Logging

/-! ## What is set up -/

/-- The filters in force, the shape of console lines, and the log file. -/
structure Outlets where
  consoleFilter : Filter
  fileFilter : Filter
  jsonFormat : Bool
  file : String
  deriving DecidableEq, Repr

/-- Logging: what is set up, the events that went to the console, and the files. -/
structure Logger where
  outlets : Option Outlets
  console : List (Stamp × Event)
  files : Files.Node

/-- Why logging could not be set up. -/
inductive SetupFault where
  | directory (path : String) (fault : Files.Fault)
  | fileDirectory (fault : Files.Fault)
  | file (fault : Files.Fault)
  | filter (defect : Directive.Defect)
  | already
  deriving DecidableEq, Repr

namespace SetupFault

def kind : SetupFault → String
  | directory .. => "LogDirectory"
  | fileDirectory _ => "Appender"
  | file _ => "Appender"
  | filter _ => "Filter"
  | already => "AlreadyInitialized"

/-- The fault and its causes in words, from the outermost; nothing if it is fatal. -/
def causes : SetupFault → List String
  | directory path fault =>
    [s!"failed to create log directory {path}: {fault.message}", fault.message]
  | fileDirectory fault =>
    let cause := s!"failed to create log directory: {fault.message}"
    [s!"failed to open rolling log file: {cause}", cause, fault.message]
  | file fault =>
    let cause := s!"failed to create log file: {fault.message}"
    [s!"failed to open rolling log file: {cause}", cause, fault.message]
  | filter defect =>
    match defect.message? with
    | none => []
    | some cause =>
      let again := if defect = .badLevel then [cause] else []
      [s!"invalid log filter: {cause}", cause] ++ again
  | already =>
    let cause := "a global default trace dispatcher has already been set"
    [s!"tracing already initialized: {cause}", cause]

/-- The fault in words, unless it is fatal. -/
def message? (fault : SetupFault) : Option String := fault.causes.head?

end SetupFault

/-! ## Steps -/

/-- Opens a log file for more lines, with the directories above it if that is needed. -/
def openFile (tree : Files.Node) (path : String) : Files.Node × Except SetupFault Unit :=
  match Files.write tree path id with
  | .ok tree => (tree, .ok ())
  | .error _ =>
    match Files.makeDirectoriesUp tree (Files.Path.ofString path).reverse.tail with
    | (tree, .error fault) => (tree, .error (.fileDirectory fault))
    | (tree, .ok ()) =>
      match Files.write tree path id with
      | .ok tree => (tree, .ok ())
      | .error fault => (tree, .error (.file fault))

/-- The filter of the console: the variable, if it can be read, or else what the set-up says. -/
def consoleFilter (wanted : Option String) (config : Config) : Except Directive.Defect Filter :=
  match wanted.map Filter.parse with
  | some (.ok filter) => .ok filter
  | some (.error .torn) => .error .torn
  | _ => Filter.parse config.consoleFilter

def filters (wanted : Option String) (config : Config) :
    Except Directive.Defect (Filter × Filter) := do
  let console ← consoleFilter wanted config
  let file ← Filter.parse config.fileFilter
  return (console, file)

/-- The log file of a day. -/
def Config.fileOn (config : Config) (today : Calendar.Date) : String :=
  Files.Path.join config.directory (fileName config.fileStem today)

/-! ## Logging -/

namespace Logger

/-- Logging before it is set up. -/
def ofFiles (files : Files.Node) : Logger := ⟨none, [], files⟩

/-- Logs an event on every outlet whose filter admits it. -/
def log (logger : Logger) (stamp : Stamp) (event : Event) : Logger :=
  match logger.outlets with
  | none => logger
  | some outlets =>
    let console := if outlets.consoleFilter.admits event then logger.console ++ [(stamp, event)]
      else logger.console
    let files :=
      if outlets.fileFilter.admits event then
        let line := Text.utf8 (textLine stamp event ++ "\n")
        match Files.write logger.files outlets.file fun body => .plain (body.toBytes ++ line) with
        | .ok files => files
        | .error _ => logger.files
      else logger.files
    { logger with console, files }

def logAll (logger : Logger) (stamp : Stamp) (events : List Event) : Logger :=
  events.foldl (fun logger event => logger.log stamp event) logger

/-- The event of logging that has just been set up. -/
def readyEvent (config : Config) : Event where
  level := .info
  target := "yavin::infrastructure::observability::init_tracing"
  message := "Tracing initialized"
  fields :=
    [("environment", .display config.environment), ("json_format", .truth config.jsonFormat),
    ("log_dir", .display config.directory)]

/-- Sets logging up on a day: the directory, the file, the filters, and then only once.
`wanted` is the value of the filter variable. -/
def setUp (logger : Logger) (wanted : Option String) (config : Config) (today : Calendar.Date)
    (stamp : Stamp) :
    Logger × Except SetupFault Unit :=
  match Files.makeDirectories logger.files config.directory with
  | (files, .error fault) => ({ logger with files }, .error (.directory config.directory fault))
  | (files, .ok ()) =>
    match openFile files (config.fileOn today) with
    | (files, .error fault) => ({ logger with files }, .error fault)
    | (files, .ok ()) =>
      let logger := { logger with files }
      match filters wanted config with
      | .error defect => (logger, .error (.filter defect))
      | .ok (consoleFilter, fileFilter) =>
        if logger.outlets.isSome then (logger, .error .already)
        else
          let outlets : Outlets :=
            ⟨consoleFilter, fileFilter, config.jsonFormat, config.fileOn today⟩
          (Logger.log { logger with outlets := some outlets } stamp (readyEvent config), .ok ())

end Logger

end Chassis.Logging
