-- The archiver in the background: a pass at once, and then one at every tick, until the task is
-- aborted. The task hears of the end of a pass before it waits for the next tick, which may be due
-- by then. A pass that fails or crashes leaves a warning.
import Chassis.Logging.Archive.Pass
import Chassis.Text.Quoted

namespace Chassis.Logging.Archive

namespace Background

/-- How far a task has come. It has not run yet, it waits for a tick that is due at a time, or it
waits for the pass that began at a time, until that is over. A task without a period crashes. -/
inductive Stage where
  | fresh
  | waiting (due : Nat)
  | passing (began due : Nat)
  | passed (due : Nat) (ending : PassEnd)
  | crashed
  deriving DecidableEq, Repr

/-- What can happen: time elapses, the task gets to run, a pass that is under way ends, or the task
is aborted. -/
inductive Move where
  | elapse (time : Nat)
  | poll
  | passEnds
  | abort
  deriving DecidableEq, Repr

/-- What can be seen of a task: a pass that begins at a time, when it is handed to a thread, one
that ends with its events, and a warning. -/
inductive Notice (σ : Type) where
  | begins (time : Nat) (state : σ)
  | ends (state : σ) (events : List Event) (ending : PassEnd)
  | warns (event : Event)

/-- The events among what is seen. -/
def Notice.events {σ : Type} : Notice σ → List Event
  | begins .. => []
  | ends _ events _ => events
  | warns event => [event]

end Background

/-- The background task: its period in milliseconds, the time on its clock, the files, how many
passes have begun, and how far it has come. -/
structure Background (σ : Type) where
  period : Nat
  clock : Nat
  state : σ
  passes : Nat
  stage : Background.Stage
  isAborted : Bool

namespace Background

variable {σ : Type}

/-- A task that has just been started. -/
def start (period : Nat) (state : σ) : Background σ := ⟨period, 0, state, 0, .fresh, false⟩

/-- Why a pass crashes. -/
def crashText : String := "`NaiveDate - TimeDelta` overflowed"

def warning? (number : Nat) : PassEnd → Option Event
  | .finished _ => none
  | .failed fault =>
    some ⟨.warn, Archiver.target, "Log archival pass failed", [("error", .display fault.message)]⟩
  | .crashed =>
    let error := s!"task {number} panicked with message {Text.quoted crashText}"
    some ⟨.warn, Archiver.target, "Log archival task panicked", [("error", .display error)]⟩

/-- Waits for the tick that is due at a time. If that has come, a pass begins, and the next tick is
due a period after this one, however late it is. -/
def await (task : Background σ) (due : Nat) : Background σ × List (Notice σ) :=
  if due ≤ task.clock then
    ({ task with passes := task.passes + 1, stage := .passing task.clock (due + task.period) },
      [.begins task.clock task.state])
  else ({ task with stage := .waiting due }, [])

/-- The task gets to run. Its first tick is due at once. -/
def poll (task : Background σ) : Background σ × List (Notice σ) :=
  match task.stage with
  | .fresh =>
    if task.period = 0 then ({ task with stage := .crashed }, []) else task.await task.clock
  | .waiting due => task.await due
  | .passed due ending =>
    let (next, notices) := task.await due
    (next, (warning? task.passes ending).toList.map .warns ++ notices)
  | _ => (task, [])

/-- The pass that is under way ends. -/
def endPass (run : Nat → σ → σ × List Event × PassEnd) (task : Background σ) :
    Background σ × List (Notice σ) :=
  match task.stage with
  | .passing began due =>
    let (state, events, ending) := run began task.state
    ({ task with state, stage := .passed due ending }, [.ends state events ending])
  | _ => (task, [])

/-- One move. A pass that is under way ends even if the task is aborted, but then nobody hears
how. -/
def step (run : Nat → σ → σ × List Event × PassEnd) (task : Background σ) :
    Move → Background σ × List (Notice σ)
  | .elapse time => ({ task with clock := task.clock + time }, [])
  | .poll => if task.isAborted then (task, []) else task.poll
  | .passEnds => task.endPass run
  | .abort => ({ task with isAborted := true }, [])

/-- Moves one after another. -/
def steps (run : Nat → σ → σ × List Event × PassEnd) (task : Background σ) :
    List Move → Background σ × List (Notice σ)
  | [] => (task, [])
  | move :: rest =>
    let (task, notices) := task.step run move
    let (task, more) := task.steps run rest
    (task, notices ++ more)

end Background

end Chassis.Logging.Archive
