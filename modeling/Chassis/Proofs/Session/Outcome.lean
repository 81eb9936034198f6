-- What comes of a scope, said without its steps: a refusal, or whatever comes of its work. Each
-- step of a task leaves it as it is, so a scope that ends ends with it.
import Chassis.Session.Scope

namespace Chassis.Session

/-! ## Scopes and work -/

mutual

/-- What comes of a scope: the fault of its provider, or what comes of its work, unchanged. -/
def Scope.outcome : Scope → Outcome
  | .mk _ (.refuse _ fault) _ => .failed fault
  | .mk _ (.grant _ value) work => work.outcome value

/-- What comes of work with a session that holds a number. -/
def Work.outcome (value : Int) : Work → Outcome
  | .stop ending => ending.outcome value
  | .add amount rest => rest.outcome (value + amount)
  | .pause _ rest => rest.outcome value
  | .note _ rest => rest.outcome value
  | .nest inner rest =>
    match inner.outcome with
    | .returned added => rest.outcome (value + addend added)
    | outcome => outcome
  | .attempt inner rest =>
    match inner.outcome with
    | .crashed => .crashed
    | _ => rest.outcome value

end

/-! ## Tasks -/

/-- What comes of a scope when the one that it has called has ended. -/
def Caller.outcome (inner : Outcome) (caller : Caller) : Outcome :=
  match caller.attempts, inner with
  | _, .crashed => .crashed
  | true, _ => caller.rest.outcome caller.held.value
  | false, .returned value => caller.rest.outcome (caller.held.value + addend value)
  | false, outcome => outcome

/-- What comes of the scope on top. -/
def Stage.outcome : Stage → Outcome
  | .acquiring _ name acquisition work => (Scope.mk name acquisition work).outcome
  | .entering held work => work.outcome held.value
  | .working held work => work.outcome held.value
  | .leaving outcome => outcome

namespace Task

/-- What comes of the first scope of a task: the outcome of the scope on top is handed down. -/
def eventual (task : Task) : Outcome := task.callers.foldl Caller.outcome task.stage.outcome

theorem eventual_begin (task : Task) (scope : Scope) :
    (task.begin scope).eventual = task.callers.foldl Caller.outcome scope.outcome := by
  obtain ⟨name, acquisition, work⟩ := scope
  rfl

theorem eventual_acquire (task : Task) (scope : Nat) (name : String) (work : Work)
    (acquisition : Acquisition) :
    (task.acquire scope name work acquisition).2.eventual =
      task.callers.foldl Caller.outcome (Scope.mk name acquisition work).outcome := by
  rcases acquisition with ⟨_ | pauses, value⟩ | ⟨_ | pauses, fault⟩ <;>
    simp [acquire, eventual, Stage.outcome, Scope.outcome]

/-- Work that calls a scope comes to what the scope's outcome makes of it. -/
theorem outcome_nest (held : Held) (inner : Scope) (rest : Work) :
    (Work.nest inner rest).outcome held.value =
    Caller.outcome inner.outcome ⟨held, false, rest⟩ := by
  rw [Work.outcome]
  cases inner.outcome <;> rfl

theorem outcome_attempt (held : Held) (inner : Scope) (rest : Work) :
    (Work.attempt inner rest).outcome held.value =
    Caller.outcome inner.outcome ⟨held, true, rest⟩ := by
  rw [Work.outcome]
  cases inner.outcome <;> rfl

theorem eventual_perform (task : Task) (held : Held) (work : Work) :
    (task.perform held work).2.eventual =
    task.callers.foldl Caller.outcome (work.outcome held.value) := by
  cases work with
  | stop ending => simp [perform, release, eventual, Stage.outcome, Work.outcome]
  | add amount rest => simp [perform, eventual, Stage.outcome, Work.outcome, Held.add]
  | pause count rest => cases count <;> simp [perform, eventual, Stage.outcome, Work.outcome]
  | note mark rest => simp [perform, eventual, Stage.outcome, Work.outcome]
  | nest inner rest =>
    rw [outcome_nest]
    exact eventual_begin _ inner
  | attempt inner rest =>
    rw [outcome_attempt]
    exact eventual_begin _ inner

theorem eventual_resume (task : Task) (caller : Caller) (outcome : Outcome) :
    (task.resume caller outcome).2.eventual =
    task.callers.foldl Caller.outcome (caller.outcome outcome) := by
  obtain ⟨held, attempts, rest⟩ := caller
  cases attempts <;> cases outcome <;> rfl

/-- No step changes what will come of a task. -/
theorem eventual_step {task next : Task} {signal : Signal} (h : task.step? = some (signal, next)) :
    next.eventual = task.eventual := by
  unfold step? at h
  unfold eventual
  split at h
  · rename_i scope name acquisition work hstage
    have hnext := eventual_acquire task scope name work acquisition
    rw [Option.some.inj h] at hnext
    rw [hstage]
    exact hnext
  · rename_i held work hstage
    cases h
    rw [hstage]
    rfl
  · rename_i held work hstage
    have hnext := eventual_perform task held work
    rw [Option.some.inj h] at hnext
    rw [hstage]
    exact hnext
  · rename_i outcome hstage
    split at h
    · cases h
    · rename_i caller callers hcallers
      have hnext := eventual_resume { task with callers } caller outcome
      rw [Option.some.inj h] at hnext
      rw [hstage, hcallers]
      exact hnext

theorem eventual_of_outcome? {task : Task} {outcome : Outcome} (h : task.outcome? = some outcome) :
    task.eventual = outcome := by
  unfold outcome? at h
  split at h
  · rename_i hstage hcallers
    cases h
    rw [eventual, hstage, hcallers]
    rfl
  · cases h

end Task

end Chassis.Session
