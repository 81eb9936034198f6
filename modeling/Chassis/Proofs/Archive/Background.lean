-- The archiver in the background, however time elapses, whenever the task gets to run and whatever
-- becomes of passes. They follow one another: none begins before its tick, nor before the end of
-- the one before has been heard. Each is followed by the next, until the task is aborted.
import Chassis.Logging.Archive.Background

namespace Chassis.Logging.Archive.Background

variable {σ : Type}

/-! ## Passes one after another -/

/-- What is warned of when a pass is over: nothing if it has finished, else that it has failed, and
why, or that it has crashed. -/
inductive Warned : PassEnd → List Event → Prop
  | finished {report : Report} : Warned (.finished report) []
  | failed {fault : Files.Fault} {event : Event} : event.level = .warn →
      event.message = "Log archival pass failed" →
      event.fields = [("error", .display fault.message)] → Warned (.failed fault) [event]
  | crashed {event : Event} : event.level = .warn → event.message = "Log archival task panicked" →
      Warned .crashed [event]

theorem warned_warning? (number : Nat) (ending : PassEnd) :
    Warned ending (warning? number ending).toList := by
  cases ending with
  | finished report => exact .finished
  | failed fault => exact .failed rfl rfl rfl
  | crashed => exact .crashed rfl rfl

section

variable (run : Nat → σ → σ × List Event × PassEnd) (initial : σ) (period : Nat)

/-- What is seen of a whole pass that begins at a time on some files. -/
def passed (time : Nat) (state : σ) : List (Notice σ) :=
  [.begins time state, .ends (run time state).1 (run time state).2.1 (run time state).2.2]

/-- What is seen of a number of passes that have been heard of, and the files that they leave. Each
begins at its tick or later, on the files that the one before it has left. After its end comes what
is warned of, before the next one begins. -/
inductive Told (first : Nat) : Nat → σ → List (Notice σ) → Prop
  | nothing : Told first 0 initial []
  | pass {n time : Nat} {state : σ} {notices : List (Notice σ)} {warnings : List Event} :
      Told first n state notices → first + n * period ≤ time →
        Warned (run time state).2.2 warnings →
      Told first (n + 1) (run time state).1
        (notices ++ passed run time state ++ warnings.map .warns)

/-- How far a task has come, and what has been seen of it: passes that have been heard of, and then
nothing, a pass that is under way, or one that is over and has not been heard of yet. The next tick
is due one period after the last one. -/
inductive Goes : Background σ → List (Notice σ) → Prop
  | fresh {clock : Nat} {isAborted : Bool} : Goes ⟨period, clock, initial, 0, .fresh, isAborted⟩ []
  | waiting {first n clock : Nat} {state : σ} {notices : List (Notice σ)} {isAborted : Bool} :
      Told run initial period first n state notices → first + n * period ≤ clock + period →
      Goes ⟨period, clock, state, n, .waiting (first + n * period), isAborted⟩ notices
  | passing {first n clock time : Nat} {state : σ} {notices : List (Notice σ)} {isAborted : Bool} :
      Told run initial period first n state notices → first + n * period ≤ time → time ≤ clock →
      Goes ⟨period, clock, state, n + 1, .passing time (first + (n + 1) * period), isAborted⟩
        (notices ++ [.begins time state])
  | passed {first n clock time : Nat} {state : σ} {notices : List (Notice σ)} {isAborted : Bool} :
      Told run initial period first n state notices → first + n * period ≤ time → time ≤ clock →
      Goes ⟨period, clock, (run time state).1, n + 1,
        .passed (first + (n + 1) * period) (run time state).2.2,
        isAborted⟩ (notices ++ Background.passed run time state)

end

section

variable {run : Nat → σ → σ × List Event × PassEnd} {initial : σ} {period : Nat}
  {task : Background σ}
  {notices : List (Notice σ)}

/-! ## One move -/

theorem await_of_due {due : Nat} (h : due ≤ task.clock) : task.await due =
    ({ task with passes := task.passes + 1, stage := .passing task.clock (due + task.period) },
      [.begins task.clock task.state]) := by
  unfold await
  rw [if_pos h]

/-- A task that has heard of all its passes waits for the next tick, or begins the next pass. -/
theorem goes_await {first n clock due : Nat} {state : σ} {stage : Stage} {isAborted : Bool}
    (htold : Told run initial period first n state notices) (hdue : due = first + n * period)
    (hsoon : due ≤ clock + period) :
    let next := await ⟨period, clock, state, n, stage, isAborted⟩ due
    Goes run initial period next.1 (notices ++ next.2) := by
  intro next
  by_cases hcome : due ≤ clock
  · have hnext : next = (⟨period, clock, state, n + 1, .passing clock (due + period), isAborted⟩,
        [.begins clock state]) := await_of_due hcome
    have hlater : due + period = first + (n + 1) * period := by
      rw [hdue, Nat.add_assoc, Nat.succ_mul]
    rw [hnext, hlater]
    exact .passing htold (hdue ▸ hcome) (Nat.le_refl clock)
  · have hnext : next = (⟨period, clock, state, n, .waiting due, isAborted⟩, []) := if_neg hcome
    subst hdue
    rw [hnext, List.append_nil]
    exact .waiting htold hsoon

theorem Goes.elapse (h : Goes run initial period task notices) (time : Nat) :
    Goes run initial period { task with clock := task.clock + time } notices := by
  cases h with
  | fresh => exact .fresh
  | waiting htold hdue => exact .waiting htold (by dsimp only; omega)
  | passing htold hbegan hclock => exact .passing htold hbegan (by dsimp only; omega)
  | passed htold hbegan hclock => exact .passed htold hbegan (by dsimp only; omega)

theorem Goes.abort (h : Goes run initial period task notices) :
    Goes run initial period { task with isAborted := true } notices := by
  cases h with
  | fresh => exact .fresh
  | waiting htold hdue => exact .waiting htold hdue
  | passing htold hbegan hclock => exact .passing htold hbegan hclock
  | passed htold hbegan hclock => exact .passed htold hbegan hclock

theorem Goes.endPass (h : Goes run initial period task notices) :
    Goes run initial period (task.endPass run).1 (notices ++ (task.endPass run).2) := by
  cases h with
  | fresh => exact .fresh
  | waiting htold hdue =>
    rw [Background.endPass, List.append_nil]
    exact .waiting htold hdue
  | passing htold hbegan hclock =>
    rw [Background.endPass, List.append_assoc]
    exact .passed htold hbegan hclock
  | passed htold hbegan hclock =>
    rw [Background.endPass, List.append_nil]
    exact .passed htold hbegan hclock

theorem Goes.poll (hperiod : 0 < period) (h : Goes run initial period task notices) :
    Goes run initial period task.poll.1 (notices ++ task.poll.2) := by
  cases h with
  | @fresh clock isAborted =>
    have hdue : clock = clock + 0 * period := by simp
    rw [Background.poll, if_neg (Nat.ne_of_gt hperiod)]
    exact goes_await .nothing hdue (Nat.le_add_right clock period)
  | waiting htold hdue => exact goes_await htold rfl hdue
  | passing htold hbegan hclock =>
    rw [Background.poll, List.append_nil]
    exact .passing htold hbegan hclock
  | passed htold hbegan hclock =>
    rw [Background.poll]
    dsimp only
    rw [← List.append_assoc]
    apply goes_await (htold.pass hbegan (warned_warning? _ _)) rfl
    rw [Nat.succ_mul]
    omega

/-- Each move keeps it so. -/
theorem Goes.step (hperiod : 0 < period) (h : Goes run initial period task notices) (move : Move) :
    Goes run initial period (task.step run move).1 (notices ++ (task.step run move).2) := by
  cases move with
  | elapse time =>
    rw [Background.step, List.append_nil]
    exact h.elapse time
  | poll =>
    rw [Background.step]
    split
    · rw [List.append_nil]
      exact h
    · exact h.poll hperiod
  | passEnds => exact h.endPass
  | abort =>
    rw [Background.step, List.append_nil]
    exact h.abort

theorem Goes.steps (hperiod : 0 < period) (h : Goes run initial period task notices)
    (moves : List Move) :
    Goes run initial period (task.steps run moves).1 (notices ++ (task.steps run moves).2) := by
  induction moves generalizing task notices with
  | nil =>
    rw [Background.steps, List.append_nil]
    exact h
  | cons move rest ih =>
    rw [Background.steps]
    dsimp only
    rw [← List.append_assoc]
    exact ih (h.step hperiod move)

/-! ## The next pass -/

/-- The next pass begins when the task gets to run: there was none yet, or a tick is due and no pass
is under way. -/
def IsReady (clock : Nat) : Stage → Prop
  | .fresh => True
  | .waiting due => due ≤ clock
  | .passed due _ => due ≤ clock
  | _ => False

theorem getLast?_poll (hperiod : 0 < task.period) (h : IsReady task.clock task.stage) :
    task.poll.2.getLast? = some (.begins task.clock task.state) := by
  unfold poll
  cases hstage : task.stage with
  | fresh =>
    dsimp only
    rw [if_neg (Nat.ne_of_gt hperiod), await_of_due (Nat.le_refl _)]
    rfl
  | waiting due =>
    rw [hstage] at h
    dsimp only
    rw [await_of_due h]
    rfl
  | passed due ending =>
    rw [hstage] at h
    dsimp only
    rw [await_of_due h, List.getLast?_append]
    rfl
  | passing began due =>
    rw [hstage] at h
    exact h.elim
  | crashed =>
    rw [hstage] at h
    exact h.elim

/-- Whatever the task has been doing, a period later it can begin a pass, if one that was under way
is over. -/
theorem Goes.isReady (h : Goes run initial period task notices) :
    IsReady (task.clock + period) (task.endPass run).1.stage := by
  cases h with
  | fresh => trivial
  | waiting htold hdue => exact hdue
  | @passing first n clock time state notices isAborted htold hbegan hclock =>
    have hdue : first + (n + 1) * period ≤ clock + period := by
      rw [Nat.succ_mul]
      omega
    exact hdue
  | @passed first n clock time state notices isAborted htold hbegan hclock =>
    have hdue : first + (n + 1) * period ≤ clock + period := by
      rw [Nat.succ_mul]
      omega
    exact hdue

theorem endPass_kept (run : Nat → σ → σ × List Event × PassEnd) (task : Background σ) :
    (task.endPass run).1.clock = task.clock ∧ (task.endPass run).1.period = task.period ∧
      (task.endPass run).1.isAborted = task.isAborted := by
  unfold endPass
  split <;> exact ⟨rfl, rfl, rfl⟩

theorem Goes.period_eq (h : Goes run initial period task notices) : task.period = period := by
  cases h <;> rfl

theorem Goes.begins_next (hperiod : 0 < period) (h : Goes run initial period task notices)
    (halive : task.isAborted = false) :
    (task.steps run [.passEnds, .elapse period, .poll]).2.getLast? =
      some (.begins (task.clock + period) (task.endPass run).1.state) := by
  have hready := h.isReady
  obtain ⟨hclock, hperiod', halive'⟩ := endPass_kept run task
  rw [h.period_eq] at hperiod'
  rw [halive] at halive'
  rcases hend : task.endPass run with ⟨later, ending⟩
  rw [hend] at hready hclock hperiod' halive'
  dsimp only at hready hclock hperiod' halive'
  have hpoll : ({ later with clock := later.clock + period } : Background σ).poll.2.getLast? =
      some (.begins (later.clock + period) later.state) := by
    apply getLast?_poll
    · rw [hperiod']
      exact hperiod
    · rw [hclock]
      exact hready
  have hsteps : (task.steps run [.passEnds, .elapse period, .poll]).2 =
      ending ++ ({ later with clock := later.clock + period } : Background σ).poll.2 := by
    simp [Background.steps, Background.step, hend, halive']
  rw [hsteps, List.getLast?_append, hpoll, hclock]
  rfl

/-! ## After an abort -/

theorem isAborted_await (task : Background σ) (due : Nat) :
    (task.await due).1.isAborted = task.isAborted := by
  unfold await
  split <;> rfl

theorem isAborted_poll (task : Background σ) : task.poll.1.isAborted = task.isAborted := by
  unfold poll
  split
  · split
    · rfl
    · exact isAborted_await task _
  · exact isAborted_await task _
  · exact isAborted_await task _
  · rfl

/-- A task is aborted by an abort and by nothing else. -/
theorem isAborted_steps (run : Nat → σ → σ × List Event × PassEnd) (task : Background σ)
    (moves : List Move) :
    (task.steps run moves).1.isAborted = true ↔ task.isAborted = true ∨ .abort ∈ moves := by
  induction moves generalizing task with
  | nil => simp [steps]
  | cons move rest ih =>
    rw [steps]
    dsimp only
    rw [ih]
    cases move with
    | elapse time => simp [step]
    | abort => simp [step]
    | passEnds => simp [step, (endPass_kept run task).2.2]
    | poll =>
      rw [step]
      split
      · simp
      · simp [isAborted_poll]

/-- Of an aborted task, nothing is seen but the end of the pass that was under way. -/
theorem ends_of_aborted (h : task.isAborted = true) (moves : List Move) :
    ∀ notice ∈ (task.steps run moves).2, ∃ state events ending,
      notice = .ends state events ending := by
  induction moves generalizing task with
  | nil => simp [steps]
  | cons move rest ih =>
    rw [steps]
    dsimp only
    intro notice hnotice
    rcases List.mem_append.mp hnotice with hnow | hlater
    · cases move with
      | elapse time => simp [step] at hnow
      | abort => simp [step] at hnow
      | poll => simp [step, h] at hnow
      | passEnds =>
        rw [step, endPass] at hnow
        split at hnow
        · exact ⟨_, _, _, List.mem_singleton.mp hnow⟩
        · cases hnow
    · exact ih ((isAborted_steps run task [move]).mpr (Or.inl h)) notice hlater

end

/-- With any period, however time elapses and whenever the task gets to run, whatever passes come
to. A pass begins when the task gets to run for the first time. From then on passes follow one
another: each begins at its tick or later, when the one before is over and heard of, on the files
that it has left, and is followed by its warning, if it failed or crashed. However the passes ended,
there is a next one when a period has elapsed, unless the task is aborted; then no pass begins any
more, and nothing is seen but the end of the one that was under way. -/
theorem passes_follow_one_another_until_the_task_is_aborted
    (run : Nat → σ → σ × List Event × PassEnd) {period : Nat} (hperiod : 0 < period) (initial : σ)
    (moves : List Move) :
    let task := ((start period initial).steps run moves).1
    let notices := ((start period initial).steps run moves).2
    (∀ time, ((start period initial).steps run [.elapse time, .poll]).2 = [.begins time initial]) ∧
      Goes run initial period task notices ∧
      (.abort ∉ moves → (task.steps run [.passEnds, .elapse period, .poll]).2.getLast? =
        some (.begins (task.clock + period) (task.endPass run).1.state)) ∧
      (.abort ∈ moves → ∀ more, ∀ notice ∈ (task.steps run more).2,
        ∃ state events ending, notice = .ends state events ending) := by
  intro task notices
  have hstart : Goes run initial period (start period initial) [] := .fresh
  have hgoes : Goes run initial period task notices := hstart.steps hperiod moves
  have haborted : task.isAborted = true ↔ .abort ∈ moves :=
    (isAborted_steps run (start period initial) moves).trans (by simp [start])
  refine ⟨?_, hgoes, ?_, ?_⟩
  · intro time
    have hnonzero : period ≠ 0 := Nat.ne_of_gt hperiod
    simp [steps, step, start, poll, hnonzero, await]
  · intro hnever
    apply hgoes.begins_next hperiod
    rw [← Bool.not_eq_true, haborted]
    exact hnever
  · intro habort more
    exact ends_of_aborted (haborted.mpr habort) more

/-- Passes that fail, crash and finish in turn, on files that are counted. -/
def unsteady (_ count : Nat) : Nat × List Event × PassEnd :=
  (count + 1, [], if count = 0 then .failed .notFound else if count = 1 then .crashed
    else .finished ⟨0, 0, 0⟩)

/-- The first pass takes longer than two periods, so that two ticks are due when it is over. A
fourth pass follows the third one a period later. -/
theorem an_unsteady_archiver_goes_on :
    let moves : List Move := [.poll, .elapse 25, .passEnds, .poll, .passEnds, .poll]
    let task := ((start 10 0).steps unsteady moves).1
    0 < 10 ∧
      ((start 10 0).steps unsteady moves).2 = [.begins 0 0, .ends 1 [] (.failed .notFound)] ++
        ((warning? 1 (.failed .notFound)).toList.map .warns ++
          [.begins 25 1, .ends 2 [] .crashed] ++
        ((warning? 2 .crashed).toList.map .warns ++ [.begins 25 2])) ∧
      (task.steps unsteady [.passEnds, .elapse 10, .poll]).2.getLast? = some (.begins 35 3) := by
  intro moves task
  have hperiod : 0 < 10 := by decide
  obtain ⟨-, -, hnext, -⟩ :=
    passes_follow_one_another_until_the_task_is_aborted unsteady hperiod 0 moves
  exact ⟨hperiod, rfl, hnext (by decide)⟩

end Chassis.Logging.Archive.Background
