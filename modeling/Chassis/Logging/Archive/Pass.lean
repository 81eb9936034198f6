-- A pass of the archiver: it removes archives that were left incomplete, packs the log
-- files of days that are over, and removes the archives of days that are too long ago.
-- A file that it cannot deal with is counted, and the pass goes on with the next.
import Chassis.Logging.Archive.Script
import Chassis.Logging.FileName

namespace Chassis.Logging.Archive

open Calendar (Date)

/-! ## Reports -/

/-- How many files a pass packed, removed, and could not deal with. -/
structure Report where
  compressed : Nat
  pruned : Nat
  failed : Nat
  deriving DecidableEq, Repr

namespace Report

def none : Report := ⟨0, 0, 0⟩

def oneCompressed : Report := ⟨1, 0, 0⟩

def onePruned : Report := ⟨0, 1, 0⟩

def oneFailed : Report := ⟨0, 0, 1⟩

instance : Add Report where
  add a b := ⟨a.compressed + b.compressed, a.pruned + b.pruned, a.failed + b.failed⟩

end Report

/-! ## The archiver -/

/-- Whose logs are archived, where, and for how many days archives are kept. -/
structure Archiver where
  directory : String
  fileStem : String
  retentionDays : Nat
  deriving DecidableEq, Repr

/-- The archiver of the logs that a set-up writes. -/
def Archiver.ofConfig (config : Config) : Archiver :=
  ⟨config.directory, config.fileStem, config.retentionDays⟩

namespace Archiver

/-- Where the events of the archiver come from. -/
def target : String := "yavin::infrastructure::observability::log_archiver"

def pathOf (a : Archiver) (name : String) : String := Files.Path.join a.directory name

def dealtEvent (a : Archiver) (message name : String) : Event :=
  ⟨.debug, target, message, [("path", .display (a.pathOf name))]⟩

/-- An event about a file that could not be dealt with. -/
def failedEvent (a : Archiver) (message name : String) (fault : Files.Fault) : Event :=
  ⟨.warn, target, message, [("path", .display (a.pathOf name)), ("error", .display fault.message)]⟩

def finishedEvent (report : Report) : Event where
  level := .info
  target := target
  message := "Log archival pass finished"
  fields := [("compressed", .number report.compressed), ("pruned", .number report.pruned),
    ("failed", .number report.failed)]

/-- The files in a listing that have the stem, a date, and the given tag. -/
def dated (a : Archiver) (tag : String) (entries : List Entry) : List (String × Date) :=
  entries.filterMap fun entry =>
    if entry.isFile then
      entry.name.text?.bind fun name => (dateIn? a.fileStem tag name).map fun date => (name, date)
    else none

/-! ## Files one by one -/

/-- Removes an archive that was left incomplete. -/
def removePartial (a : Archiver) (name : String) : Script Report :=
  .act (.remove name) fun result =>
    match result with
    | .ok () => .done .none
    | .error fault =>
      .note (a.failedEvent "Failed to remove partial log archive" name fault) (.done .oneFailed)

/-- How a log file is packed: under another name first, and it goes last. -/
def packing (log : String) : List Act := [
  .openLog log, .create (partialName log), .fill log (partialName log),
  .rename (partialName log) (archiveName log), .remove log]

def compress (a : Archiver) (log : String) : Script Report := do
  match ← Script.acts (packing log) with
  | .ok () =>
    Script.say (a.dealtEvent "Compressed rotated log file" (archiveName log))
    return .oneCompressed
  | .error fault =>
    Script.say (a.failedEvent "Failed to compress rotated log file" log fault)
    return .oneFailed

/-- Removes an archive that is too old. -/
def prune (a : Archiver) (name : String) : Script Report :=
  .act (.remove name) fun result =>
    match result with
    | .ok () => .note (a.dealtEvent "Pruned expired log archive" name) (.done .onePruned)
    | .error fault =>
      .note (a.failedEvent "Failed to prune log archive" name fault) (.done .oneFailed)

/-! ## Passes -/

/-- Deals with files one after another, and adds the reports up. -/
def each (handle : String → Script Report) : List String → Script Report
  | [] => .done .none
  | name :: rest => do
    let first ← handle name
    let others ← each handle rest
    return first + others

/-- Lists the directory, and deals with the files of a tag whose dates are wanted. -/
def sweep (a : Archiver) (tag : String) (wanted : Date → Bool) (handle : String → Script Report) :
    ExceptT Files.Fault Script Report :=
  ExceptT.mk <| .list fun listing =>
    match listing with
    | .error fault => .done (.error fault)
    | .ok entries => do
      let report ← each handle (((a.dated tag entries).filter (wanted ·.2)).map (·.1))
      return .ok report

/-- A pass on a day, which keeps the archives from a day on. It fails only if the
directory cannot be listed. -/
def pass (a : Archiver) (today : Date) (oldestKept : Int) : ExceptT Files.Fault Script Report := do
  let partials ← a.sweep partialTag (fun _ => true) a.removePartial
  let logs ← a.sweep fileTag (fun date => date.dayNumber < today.dayNumber) a.compress
  let archives ← a.sweep archiveTag (fun date => date.dayNumber < oldestKept) a.prune
  let report := partials + logs + archives
  if report ≠ .none then ExceptT.lift (Script.say (finishedEvent report))
  return report

/-- The first day whose archives are kept, if the calendar reaches back to it. -/
def oldestKept? (a : Archiver) (today : Date) : Option Int :=
  let day := today.dayNumber - a.retentionDays
  if Date.firstDay ≤ day then some day else none

end Archiver

inductive PassEnd where
  | finished (report : Report)
  | failed (fault : Files.Fault)
  | crashed
  deriving DecidableEq, Repr

/-- A pass on a day. It is a crash, before anything is touched, if the calendar does not
reach back to the first day that is kept. -/
def Archiver.runOn {σ : Type} (a : Archiver) (today : Date) (handler : Handler σ) (state : σ) :
    σ × List Event × PassEnd :=
  match a.oldestKept? today with
  | none => (state, [], .crashed)
  | some oldestKept =>
    match (a.pass today oldestKept).run.run handler state with
    | (state, events, .ok report) => (state, events, .finished report)
    | (state, events, .error fault) => (state, events, .failed fault)

end Chassis.Logging.Archive
