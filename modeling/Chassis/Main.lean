-- The command line: a run of the service over the files of the working directory. It
-- answers the requests on its standard input, one method and target a line, and stops
-- at the end of the input.
import Chassis.Files.Seed
import Chassis.Service.Offline
import Chassis.Service.Run
import Std.Time.Format

namespace Chassis.Command

open Files (Node)

/-! ## The machine -/

def fileBytes? (path : String) : IO (Option Text.Bytes) := do
  try
    return some (← IO.FS.readBinFile path).toList
  catch _ => return none

def namesIn (directory : String) : IO (List String) := do
  try
    let place ← IO.FS.realPath directory
    return (← place.readDir).toList.map (·.fileName)
  catch _ => return []

/-- The tree with the files of these paths that there are. -/
def withFiles (tree : Node) : List String → IO Node
  | [] => return tree
  | path :: rest => do
    match ← fileBytes? path with
    | none => withFiles tree rest
    | some bytes =>
      let (directory, name) := Files.splitLast path
      withFiles (Files.seedAs tree directory (.text name) (.file Files.newFileMode (.plain bytes)))
        rest

def settingsFiles : List String :=
  let bases := Settings.commonName :: [Settings.Deployment.dev, .test, .prod].map Settings.ownName
  Instance.environFileName ::
    bases.flatMap fun base => base :: Document.Format.extensions.map fun (ending, _) =>
      s!"{base}.{ending}"

/-- The variables that count and are set. -/
def environ : IO Environ := do
  let names := Settings.variableNames ++ [Service.filterVariable, Service.userVariable]
  let values ← names.mapM fun name => return (name, ← IO.getEnv name)
  return values.filterMap fun (name, value) => value.map fun value => (.text name, .text value)

/-- The time as it is stamped, and the day. -/
def now : IO (String × Option Calendar.Date) := do
  let t ← Std.Time.PlainDateTime.now
  let two (n : Int) : String := Text.padded 2 n.toNat
  let day := Calendar.Date.ofParts? t.date.year t.date.month.toInt.toNat t.date.day.toInt.toNat
  let clock := s!"{two t.time.hour.toInt}:{two t.time.minute.toInt}:{two t.time.second.toInt}"
  return ((day.map Calendar.Date.text).getD "" ++ " " ++ clock, day)

/-! ## What a run leaves -/

/-- The files below a directory, with their contents. -/
def filesIn (tree : Node) (directory : String) : List (String × Text.Bytes) :=
  match Files.look tree directory with
  | .error _ => []
  | .ok node => (Files.below node).filterMap fun (path, node) =>
    match node with
    | Node.file _ body => some (Files.Path.join directory path, body.toBytes)
    | _ => none

/-- Writes the log files of a run, and removes those that it removed. -/
def keepLogs (old new : Node) (directory : String) : IO Unit := do
  let kept := filesIn new directory
  IO.FS.createDirAll directory
  for (path, bytes) in kept do
    IO.FS.writeBinFile path ⟨bytes.toArray⟩
  for (path, _) in filesIn old directory do
    if (kept.lookup path).isNone then IO.FS.removeFile path

def printConsole (logger : Logging.Logger) : IO Unit := do
  let json := (logger.outlets.map (·.jsonFormat)).getD false
  for (stamp, event) in logger.console do
    IO.println (if json then Logging.jsonLine stamp event else Logging.textLine stamp event)

/-- Answers the requests of the input, each on a connection of its own. -/
partial def answerRequests (machine : Service.Machine) (running : Service.Running) (id : Nat) :
    IO Service.Running := do
  let line ← (← IO.getStdin).getLine
  if line.isEmpty then return running
  match (line.trimAscii.toString.splitOn " ") with
  | [method, target] =>
    let (running, signs) :=
      running.steps machine [.connect, .ask id ⟨method, target, [], []⟩, .answer id, .leave id]
    for sign in signs do
      if let .answered _ response := sign then
        IO.println s!"{response.status} {response.body}"
    answerRequests machine running (id + 1)
  | _ => answerRequests machine running id

/-- A run over some files, and the logging that it leaves. -/
def runOver (machine : Service.Machine) (inst : Instance) :
    IO (Logging.Logger × Service.Ending) := do
  match Service.begin machine inst with
  | .error (logger, ending) => return (logger, ending)
  | .ok running =>
    let running ← answerRequests machine running 0
    return ((running.stop machine).logger, .finished)

/-- Runs the service over the files of the working directory, and tells how the run ended. -/
def run : IO Service.Ending := do
  let (time, day) ← now
  let some today := day | return .crashed
  let inst : Instance :=
    ⟨← environ, ← withFiles (.directory Files.newDirectoryMode []) settingsFiles, none⟩
  let logs := match inst.settings.2 with
    | .ok settings => settings.logDir
    | .error _ => Logging.Config.standard.directory
  let files ← withFiles inst.files ((← namesIn logs).map (Files.Path.join logs))
  let machine : Service.Machine :=
    ⟨today, ⟨time, "service", 0⟩, "postgres", Service.Offline.listen "127.0.0.1:0"⟩
  let (logger, ending) ← runOver machine { inst with files }
  printConsole logger
  keepLogs files logger.files logs
  return ending

end Chassis.Command

/-- Runs the service; the exit code says how the run ended. -/
def main : IO UInt32 := do
  let ending ← Chassis.Command.run
  IO.eprint (ending.report?.getD "")
  return UInt32.ofNat ending.code
