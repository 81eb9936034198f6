-- Scopes of sessions: a session is acquired, lent to some work, and released when the
-- work has ended, in whatever way it ended. A task runs a scope step by step. A scope
-- that the work of another one calls is put on top of that one, and when it has ended
-- its outcome is handed down.
import Chassis.Document.Value
import Chassis.Session.Fault

namespace Chassis.Session

open Document (Value)

/-! ## Scopes -/

/-- How work ends: with a value, with a fault of the database, with an error of its own,
or in a crash. -/
inductive Outcome where
  | returned (value : Value)
  | failed (fault : Fault)
  | rejected (text : String)
  | crashed

/-- What the provider answers to a scope, and how often it pauses before. -/
inductive Acquisition where
  | grant (pauses : Nat) (value : Int)
  | refuse (pauses : Nat) (fault : Fault)

/-- The last act of some work. -/
inductive Ending where
  | outright (outcome : Outcome)
  | sessionValue

mutual

/-- A session to be had, and the work that is done with it. -/
inductive Scope where
  | mk (name : String) (acquisition : Acquisition) (work : Work)

/-- Work with a session, which holds a number. A nested scope that fails ends the work,
one that is attempted does not; a crash ends both. -/
inductive Work where
  | stop (ending : Ending)
  | add (amount : Int) (rest : Work)
  | pause (count : Nat) (rest : Work)
  | note (mark : Value) (rest : Work)
  | nest (inner : Scope) (rest : Work)
  | attempt (inner : Scope) (rest : Work)

end

/-! ## What is seen -/

/-- What others see of a scope. -/
inductive Notice where
  | acquired (scope : String)
  | refused (scope : String)
  | started (scope : String)
  | noted (scope : String) (mark : Value) (held : Int)
  | tried (scope : String) (outcome : Outcome)
  | released (scope : String) (held : Int)

/-- What one step shows: nothing, that the task pauses, or a notice about one of its
scopes, which are numbered in the order in which they begin. -/
inductive Signal where
  | quiet
  | pause
  | tell (scope : Nat) (notice : Notice)

/-- The outcome of an ending, for the number that the session holds. -/
def Ending.outcome (held : Int) : Ending → Outcome
  | .outright outcome => outcome
  | .sessionValue => .returned (.plain (.integer held))

/-- The number that is added for the value of a nested scope. -/
def addend : Value → Int
  | .scalar _ (.integer i) => i
  | .scalar _ (.unsigned n) => n
  | _ => 0

/-! ## Tasks -/

/-- A session that is held: the number and the name of the scope that acquired it, and
the number that it holds. -/
structure Held where
  scope : Nat
  name : String
  value : Int

/-- The session with a number added to the one that it holds. -/
def Held.add (held : Held) (amount : Int) : Held := { held with value := held.value + amount }

/-- A scope whose work has called another one, and the work that is left for it. -/
structure Caller where
  held : Held
  attempts : Bool
  rest : Work

/-- Where the scope on top of a task stands: it waits for its session, its work is about to
start, its work goes on, or it has ended. -/
inductive Stage where
  | acquiring (scope : Nat) (name : String) (acquisition : Acquisition) (work : Work)
  | entering (held : Held) (work : Work)
  | working (held : Held) (work : Work)
  | leaving (outcome : Outcome)

/-- The sessions that the scope on top holds. -/
def Stage.held : Stage → List Held
  | .entering held _ => [held]
  | .working held _ => [held]
  | _ => []

/-- A scope under way: the one on top, those below it, which wait for it, and how many
have begun. -/
structure Task where
  stage : Stage
  callers : List Caller
  begun : Nat

namespace Task

def begin (task : Task) : Scope → Task
  | .mk name acquisition work =>
    { task with stage := .acquiring task.begun name acquisition work, begun := task.begun + 1 }

/-- The task of a scope before its first step. -/
def ofScope (scope : Scope) : Task := begin ⟨.leaving .crashed, [], 0⟩ scope

/-- The work calls a scope, and waits for it. -/
def call (task : Task) (caller : Caller) (inner : Scope) : Task :=
  { task with callers := caller :: task.callers }.begin inner

/-- The scope on top ends, and its session is dropped. -/
def release (task : Task) (held : Held) (outcome : Outcome) : Signal × Task :=
  (.tell held.scope (.released held.name held.value), { task with stage := .leaving outcome })

/-- The provider is asked for a session. -/
def acquire (task : Task) (scope : Nat) (name : String) (work : Work) : Acquisition → Signal × Task
  | .grant (pauses + 1) value =>
    (.pause, { task with stage := .acquiring scope name (.grant pauses value) work })
  | .refuse (pauses + 1) fault =>
    (.pause, { task with stage := .acquiring scope name (.refuse pauses fault) work })
  | .grant 0 value =>
    (.tell scope (.acquired name), { task with stage := .entering ⟨scope, name, value⟩ work })
  | .refuse 0 fault =>
    (.tell scope (.refused name), { task with stage := .leaving (.failed fault) })

/-- The work does its next act. -/
def perform (task : Task) (held : Held) : Work → Signal × Task
  | .stop ending => task.release held (ending.outcome held.value)
  | .add amount rest => (.quiet, { task with stage := .working (held.add amount) rest })
  | .pause 0 rest => (.quiet, { task with stage := .working held rest })
  | .pause (count + 1) rest => (.pause, { task with stage := .working held (.pause count rest) })
  | .note mark rest =>
    (.tell held.scope (.noted held.name mark held.value), { task with stage := .working held rest })
  | .nest inner rest => (.quiet, task.call ⟨held, false, rest⟩ inner)
  | .attempt inner rest => (.quiet, task.call ⟨held, true, rest⟩ inner)

/-- A scope that has called another one learns what came of that. A crash unwinds it, and
an outcome that is no value ends it unless it only attempts. -/
def resume (task : Task) (caller : Caller) (outcome : Outcome) : Signal × Task :=
  let held := caller.held
  match caller.attempts, outcome with
  | _, .crashed => task.release held .crashed
  | true, outcome =>
    (.tell held.scope (.tried held.name outcome), { task with stage := .working held caller.rest })
  | false, .returned value =>
    (.quiet, { task with stage := .working (held.add (addend value)) caller.rest })
  | false, outcome => task.release held outcome

/-- One step of a task, unless its first scope has ended. -/
def step? (task : Task) : Option (Signal × Task) :=
  match task.stage with
  | .acquiring scope name acquisition work => some (task.acquire scope name work acquisition)
  | .entering held work =>
    some (.tell held.scope (.started held.name), { task with stage := .working held work })
  | .working held work => some (task.perform held work)
  | .leaving outcome =>
    match task.callers with
    | [] => none
    | caller :: callers => some ({ task with callers }.resume caller outcome)

/-- What came of the first scope of a task. -/
def outcome? (task : Task) : Option Outcome :=
  match task.stage, task.callers with
  | .leaving outcome, [] => some outcome
  | _, _ => none

/-- The sessions that the scopes of a task hold, that of the scope on top first. -/
def held (task : Task) : List Held := task.stage.held ++ task.callers.map (·.held)

/-- A task that is dropped drops the sessions that it holds, with what is seen of it. -/
def cancel (task : Task) : List (Nat × Notice) :=
  task.held.map fun held => (held.scope, .released held.name held.value)

end Task

/-! ## Steps are bounded -/

mutual

/-- How many steps a scope takes at most. -/
def Scope.weight : Scope → Nat
  | .mk _ (.grant pauses _) work => pauses + 2 + work.weight
  | .mk _ (.refuse pauses _) _ => pauses + 1

/-- How many steps some work takes at most. -/
def Work.weight : Work → Nat
  | .stop _ => 1
  | .add _ rest => rest.weight + 1
  | .pause count rest => rest.weight + count + 1
  | .note _ rest => rest.weight + 1
  | .nest inner rest => inner.weight + rest.weight + 2
  | .attempt inner rest => inner.weight + rest.weight + 2

end

/-- How many steps are left for the scope on top. -/
def Stage.weight : Stage → Nat
  | .acquiring _ _ (.grant pauses _) work => pauses + 2 + work.weight
  | .acquiring _ _ (.refuse pauses _) _ => pauses + 1
  | .entering _ work => work.weight + 1
  | .working _ work => work.weight
  | .leaving _ => 0

/-- How many steps are left for the scopes that wait; to resume one is a step. -/
def callersWeight : List Caller → Nat
  | [] => 0
  | caller :: callers => caller.rest.weight + 1 + callersWeight callers

namespace Task

/-- How many steps a task takes at most. -/
def weight (task : Task) : Nat := task.stage.weight + callersWeight task.callers

theorem weight_begin (task : Task) (scope : Scope) :
    (task.begin scope).weight = scope.weight + callersWeight task.callers := by
  obtain ⟨name, acquisition, work⟩ := scope
  cases acquisition <;> simp [begin, weight, Stage.weight, Scope.weight]

theorem weight_acquire (task : Task) (scope : Nat) (name : String) (work : Work)
    (acquisition : Acquisition) :
    (task.acquire scope name work acquisition).2.weight <
      ({ task with stage := .acquiring scope name acquisition work } : Task).weight := by
  rcases acquisition with ⟨_ | pauses, value⟩ | ⟨_ | pauses, fault⟩ <;>
    simp only [acquire, weight, Stage.weight] <;> omega

theorem weight_perform (task : Task) (held : Held) (work : Work) :
    (task.perform held work).2.weight <
    ({ task with stage := .working held work } : Task).weight := by
  have hcall (caller : Caller) (inner : Scope) : (task.call caller inner).weight =
      inner.weight + (caller.rest.weight + 1 + callersWeight task.callers) :=
    weight_begin _ _
  cases work with
  | stop ending => simp [perform, release, weight, Stage.weight, Work.weight]
  | add amount rest => simp [perform, weight, Stage.weight, Work.weight]
  | pause count rest =>
    cases count <;> simp only [perform, weight, Stage.weight, Work.weight] <;> omega
  | note mark rest => simp [perform, weight, Stage.weight, Work.weight]
  | nest inner rest =>
    simp only [perform, hcall]
    simp only [weight, Stage.weight, Work.weight]
    omega
  | attempt inner rest =>
    simp only [perform, hcall]
    simp only [weight, Stage.weight, Work.weight]
    omega

theorem weight_resume (task : Task) (caller : Caller) (outcome : Outcome) :
    (task.resume caller outcome).2.weight ≤ caller.rest.weight + callersWeight task.callers := by
  unfold resume
  dsimp only
  split <;> simp [release, weight, Stage.weight]

theorem weight_step? {task next : Task} {signal : Signal} (h : task.step? = some (signal, next)) :
    next.weight < task.weight := by
  unfold step? at h
  split at h
  · rename_i scope name acquisition work hstage
    have hless := weight_acquire task scope name work acquisition
    rw [Option.some.inj h, ← hstage] at hless
    exact hless
  · rename_i held work hstage
    cases h
    simp [weight, hstage, Stage.weight]
  · rename_i held work hstage
    have hless := weight_perform task held work
    rw [Option.some.inj h, ← hstage] at hless
    exact hless
  · rename_i outcome hstage
    split at h
    · cases h
    · rename_i caller callers hcallers
      have hless := weight_resume { task with callers } caller outcome
      rw [Option.some.inj h] at hless
      simp only [weight, hstage, hcallers, Stage.weight, callersWeight] at hless ⊢
      omega

/-- The task goes on until its next pause or its end. -/
def poll (task : Task) : Task × List Notice :=
  match _h : task.step? with
  | none => (task, [])
  | some (.pause, next) => (next, [])
  | some (.quiet, next) => next.poll
  | some (.tell _ notice, next) =>
    let (last, seen) := next.poll
    (last, notice :: seen)
termination_by task.weight
decreasing_by all_goals exact weight_step? _h

/-- The task goes on for a number of polls. -/
def polls (task : Task) : Nat → Task × List Notice
  | 0 => (task, [])
  | count + 1 =>
    let (task, seen) := task.poll
    let (task, more) := task.polls count
    (task, seen ++ more)

end Task

/-! ## Running scopes -/

def acquisitions (seen : List Notice) : Nat := seen.countP fun notice => notice matches .acquired _

def releases (seen : List Notice) : Nat := seen.countP fun notice => notice matches .released ..

/-- How a scope ended, unless it was cancelled, and how many sessions had been acquired
and released by then. -/
structure Turn where
  outcome : Option Outcome
  acquired : Nat
  released : Nat

/-- One scope from its start to its end, or until it is dropped after a number of polls. -/
def runScope (scope : Scope) (limit : Option Nat) : Option Outcome × List Notice :=
  let (task, seen) := (Task.ofScope scope).polls (limit.getD scope.weight)
  match task.outcome? with
  | some outcome => (some outcome, seen)
  | none => (none, seen ++ task.cancel.map (·.2))

/-- Scopes one after another; `seen` is what was seen before them. -/
def inTurn (seen : List Notice) : List (Scope × Option Nat) → List Turn × List Notice
  | [] => ([], seen)
  | (scope, limit) :: rest =>
    let (outcome, more) := runScope scope limit
    let seen := seen ++ more
    let (turns, all) := inTurn seen rest
    (⟨outcome, acquisitions seen, releases seen⟩ :: turns, all)

/-- One round: every task is polled, in order; one that has ended shows nothing. -/
def pollRound : List Task → List Task × List Notice
  | [] => ([], [])
  | task :: rest =>
    let (task, seen) := task.poll
    let (tasks, more) := pollRound rest
    (task :: tasks, seen ++ more)

def pollRounds (tasks : List Task) : Nat → List Task × List Notice
  | 0 => (tasks, [])
  | count + 1 =>
    let (tasks, seen) := pollRound tasks
    let (tasks, more) := pollRounds tasks count
    (tasks, seen ++ more)

/-- Scopes side by side, in as many rounds as the longest of them can need. -/
def sideBySide (scopes : List Scope) : List Outcome × List Notice :=
  let count := (scopes.map Scope.weight).foldl max 0
  let (tasks, seen) := pollRounds (scopes.map Task.ofScope) count
  (tasks.filterMap Task.outcome?, seen)

end Chassis.Session
