-- Scopes side by side, step by step in any order, each of them dropped at any pause or not at all.
-- Every session that is acquired is released once, and not before its scope has ended.
import Mathlib.Algebra.BigOperators.Group.Finset.Basic
import Mathlib.Data.Fin.VecNotation
import Mathlib.Data.Fintype.Basic
import Chassis.Proofs.Session.Outcome
import Chassis.Proofs.Session.Standing

namespace Chassis.Session

/-! ## Crews -/

/-- A task waits to be polled, is in the midst of a poll, or was dropped. -/
inductive Condition where
  | resting
  | polled
  | dropped
  deriving DecidableEq, Repr

/-- A task among others. -/
structure Member where
  task : Task
  condition : Condition

/-- A task rests after a pause. -/
def Signal.condition : Signal → Condition
  | .pause => .resting
  | _ => .polled

namespace Member

/-- The next step of a task, unless it was dropped. -/
def step? (member : Member) : Option (Signal × Member) :=
  match member.condition with
  | .dropped => none
  | _ => member.task.step?.map fun (signal, next) => (signal, ⟨next, signal.condition⟩)

/-- The sessions that the scopes of a task hold: one for each scope that has acquired its session
and not ended. -/
def held (member : Member) : List Held :=
  match member.condition with
  | .dropped => []
  | _ => member.task.held

/-- The scopes of a task that have begun and not ended. -/
def underWay (member : Member) : Standings :=
  match member.condition with
  | .dropped => []
  | _ => member.task.underWay

/-- The task has ended by itself, or was dropped. -/
def hasEnded (member : Member) : Bool := member.condition = .dropped || member.task.outcome?.isSome

end Member

/-- Tasks side by side, and what is seen of their scopes. -/
structure Crew (n : Nat) where
  members : Fin n → Member
  log : List ((Fin n × Nat) × Notice)

/-- A move of whoever runs the tasks: one of them does a step, or is dropped. -/
inductive Move (n : Nat) where
  | step (index : Fin n)
  | drop (index : Fin n)
  deriving DecidableEq, Repr

namespace Crew

variable {n : Nat}

/-- Nothing has been polled yet. -/
def start (scopes : Fin n → Scope) : Crew n := ⟨fun i => ⟨.ofScope (scopes i), .resting⟩, []⟩

/-- All that is seen. -/
def seen (crew : Crew n) : List Notice := crew.log.map (·.2)

/-- A member is replaced, and something is seen of it. -/
def place (crew : Crew n) (index : Fin n) (member : Member) (notices : List (Nat × Notice)) :
    Crew n where
  members := Function.update crew.members index member
  log := crew.log ++ notices.map fun (scope, notice) => ((index, scope), notice)

/-- One move. Nothing is dropped in the midst of a poll. -/
def apply (crew : Crew n) : Move n → Crew n
  | .step index =>
    match (crew.members index).step? with
    | none => crew
    | some (signal, member) => crew.place index member signal.notices
  | .drop index =>
    if (crew.members index).condition = .resting then
      crew.place index { crew.members index with condition := .dropped }
        (crew.members index).task.cancel
    else crew

/-- Any number of moves. -/
def run (crew : Crew n) (moves : List (Move n)) : Crew n := moves.foldl apply crew

end Crew

/-! ## Members -/

theorem openOf_waiting (callers : List Caller) :
    openOf (waiting callers) = callers.map (·.held.scope) := by
  induction callers with
  | nil => rfl
  | cons caller rest ih => simpa [openOf, waiting, Standing.isOpen] using ih

/-- The scopes that hold sessions are those that have acquired one and not ended. -/
theorem openOf_underWay (task : Task) : openOf task.underWay = task.held.map (·.scope) := by
  have hsplit : openOf task.underWay = openOf task.stage.underWay ++
      openOf (waiting task.callers) := by
    simp [openOf, Task.underWay]
  rw [hsplit, openOf_waiting, Task.held, List.map_append, List.map_map]
  congr 1
  cases task.stage <;> rfl

theorem Member.openOf_underWay (member : Member) :
    openOf member.underWay = member.held.map (·.scope) := by
  obtain ⟨task, condition⟩ := member
  cases condition with
  | resting => exact Session.openOf_underWay task
  | polled => exact Session.openOf_underWay task
  | dropped => rfl

theorem Task.held_of_outcome? {task : Task} {outcome : Outcome} (h : task.outcome? = some outcome) :
    task.held = [] := by
  unfold outcome? at h
  split at h
  · rename_i hstage hcallers
    rw [held, hstage, hcallers]
    rfl
  · cases h

theorem Member.held_of_hasEnded {member : Member} (h : member.hasEnded = true) :
    member.held = [] := by
  simp only [hasEnded, Bool.or_eq_true, decide_eq_true_eq, Option.isSome_iff_exists] at h
  unfold held
  split
  · rfl
  · rename_i hcondition
    obtain hdropped | ⟨outcome, houtcome⟩ := h
    · exact absurd hdropped hcondition
    · exact Task.held_of_outcome? houtcome

/-! ## What every crew keeps -/

/-- Each task is where it is said to be, no resting task stands between the acquisition of a session
and the start of the work, and every session that was acquired is held or was released. -/
structure Crew.Sound {n : Nat} (scopes : Fin n → Scope) (crew : Crew n) : Prop where
  tally : ∀ i, Tally (crew.members i).task.begun (crew.members i).underWay fun scope =>
    seenOf crew.log (i, scope)
  resting : ∀ i, (crew.members i).condition = .resting → ∀ entry ∈ (crew.members i).task.underWay,
    entry.2 ≠ .holding
  count : acquisitions crew.seen = releases crew.seen + ∑ i,
    (openOf (crew.members i).underWay).length
  outcome : ∀ i, (crew.members i).task.eventual = (scopes i).outcome

section

variable {n : Nat} {scopes : Fin n → Scope} {crew : Crew n}

theorem seenOf_keyed (index other : Fin n) (notices : List (Nat × Notice)) (scope : Nat) :
    seenOf (notices.map fun (scope, notice) => ((index, scope), notice)) (other, scope) =
      if index = other then seenOf notices scope else [] := by
  induction notices with
  | nil => simp [seenOf]
  | cons entry rest ih =>
    obtain ⟨first, notice⟩ := entry
    rw [List.map_cons, ← List.singleton_append, seenOf_append, ih, ← List.singleton_append,
      seenOf_append]
    by_cases h : index = other <;> by_cases hfirst : first = scope <;> simp [seenOf, h, hfirst]

theorem acquisitions_append (seen more : List Notice) :
    acquisitions (seen ++ more) = acquisitions seen + acquisitions more :=
  List.countP_append

theorem releases_append (seen more : List Notice) :
    releases (seen ++ more) = releases seen + releases more :=
  List.countP_append

theorem Crew.seen_place (crew : Crew n) (index : Fin n) (member : Member)
    (notices : List (Nat × Notice)) :
    (crew.place index member notices).seen = crew.seen ++ notices.map (·.2) := by
  simp [seen, place]

/-- To keep a crew sound it is enough to look at the member that is replaced. -/
theorem Crew.Sound.place (h : crew.Sound scopes) {index : Fin n} {member : Member}
    {notices : List (Nat × Notice)}
    (htally : Tally member.task.begun member.underWay fun scope =>
      seenOf crew.log (index, scope) ++ seenOf notices scope)
    (hresting : member.condition = .resting → ∀ entry ∈ member.task.underWay, entry.2 ≠ .holding)
    (hcount : (openOf member.underWay).length + releases (notices.map (·.2)) =
      (openOf (crew.members index).underWay).length + acquisitions (notices.map (·.2)))
    (houtcome : member.task.eventual = (crew.members index).task.eventual) :
    (crew.place index member notices).Sound scopes := by
  have hsum : ∑ i, (openOf ((crew.place index member notices).members i).underWay).length +
      (openOf (crew.members index).underWay).length =
        ∑ i, (openOf (crew.members i).underWay).length + (openOf member.underWay).length := by
    have hothers : ∀ i ∈ Finset.univ.erase index,
        (openOf ((crew.place index member notices).members i).underWay).length =
          (openOf (crew.members i).underWay).length := by
      intro i hi
      simp [Crew.place, Function.update_of_ne (Finset.ne_of_mem_erase hi)]
    rw [← Finset.add_sum_erase _ _ (Finset.mem_univ index), Finset.sum_congr rfl hothers,
      ← Finset.add_sum_erase _ (fun i => (openOf (crew.members i).underWay).length)
        (Finset.mem_univ index)]
    simp only [Crew.place, Function.update_self]
    omega
  refine ⟨fun i => ?_, fun i => ?_, ?_, fun i => ?_⟩
  · by_cases hi : i = index
    · subst hi
      simpa [Crew.place, seenOf_append, seenOf_keyed] using htally
    · simpa [Crew.place, seenOf_append, seenOf_keyed, Function.update_of_ne hi, Ne.symm hi]
        using h.tally i
  · by_cases hi : i = index
    · subst hi
      simpa [Crew.place] using hresting
    · simpa [Crew.place, Function.update_of_ne hi] using h.resting i
  · have hold := h.count
    rw [seen_place, acquisitions_append, releases_append]
    omega
  · by_cases hi : i = index
    · subst hi
      simpa [Crew.place] using houtcome.trans (h.outcome i)
    · simpa [Crew.place, Function.update_of_ne hi] using h.outcome i

theorem Member.underWay_of_ne {member : Member} (h : member.condition ≠ .dropped) :
    member.underWay = member.task.underWay := by
  unfold underWay
  split
  · rename_i hdropped
    exact absurd hdropped h
  · rfl

theorem Signal.condition_ne_dropped (signal : Signal) : signal.condition ≠ .dropped := by
  cases signal <;> simp [condition]

/-- What a step of a member does to its scopes under way. -/
theorem Member.step?_change {member next : Member} {signal : Signal}
    (h : member.step? = some (signal, next)) :
    Change member.task.begun member.underWay signal next.task.begun next.task.underWay ∧
      next.condition = signal.condition ∧ next.task.eventual = member.task.eventual := by
  unfold step? at h
  split at h
  · cases h
  · rename_i hcondition
    obtain ⟨⟨signal', after⟩, hafter, heq⟩ := Option.map_eq_some_iff.mp h
    cases heq
    rw [underWay_of_ne hcondition]
    exact ⟨change_of_step hafter, rfl, Task.eventual_step hafter⟩

theorem Change.resting {begun begun' : Nat} {before after : Standings}
    (h : Change begun before .pause begun' after) : ∀ entry ∈ after, entry.2 ≠ .holding := by
  cases h with
  | pause scopes hscopes => exact hscopes

/-- A task that rests holds sessions of scopes only whose work has started. -/
theorem Tally.cancel {task : Task} {begun : Nat} {seen : Nat → List Notice}
    (h : Tally begun task.underWay seen) (hresting : ∀ entry ∈ task.underWay, entry.2 ≠ .holding) :
    Tally begun [] fun scope => seen scope ++ seenOf task.cancel scope := by
  obtain ⟨stage, callers, count⟩ := task
  have hcallers : waiting callers = (callers.map (·.held)).map fun held =>
      (held.scope, .working) := by
    rw [List.map_map]
    rfl
  cases stage with
  | acquiring scope name acquisition work => exact Tally.drop (hcallers ▸ h.forget rfl)
  | entering held work => exact absurd rfl (hresting (held.scope, .holding) List.mem_cons_self)
  | working held work =>
    have hhelds :
        Tally begun ((held :: callers.map (·.held)).map fun held => (held.scope, .working))
            seen := by
      rw [List.map_cons, ← hcallers]
      exact h
    exact hhelds.drop
  | leaving outcome =>
    have hhelds :
        Tally begun ((callers.map (·.held)).map fun held => (held.scope, .working)) seen := by
      rw [← hcallers]
      exact h
    exact hhelds.drop

theorem acquisitions_cancel (task : Task) : acquisitions (task.cancel.map (·.2)) = 0 := by
  simp [acquisitions, Task.cancel]

theorem releases_cancel (task : Task) : releases (task.cancel.map (·.2)) = task.held.length := by
  simp [releases, Task.cancel]

/-- One move keeps a crew sound. -/
theorem Crew.Sound.apply (h : crew.Sound scopes) (move : Move n) :
    (crew.apply move).Sound scopes := by
  cases move with
  | step index =>
    unfold Crew.apply
    dsimp only
    split
    · exact h
    · rename_i signal next hstep
      obtain ⟨hchange, hcondition, heventual⟩ := Member.step?_change hstep
      have hunder : next.underWay = next.task.underWay :=
        Member.underWay_of_ne (hcondition ▸ signal.condition_ne_dropped)
      refine h.place (hunder ▸ (h.tally index).change hchange) (fun hresting => ?_)
        (hunder ▸ hchange.count) heventual
      rw [hcondition] at hresting
      cases signal with
      | pause => exact hchange.resting
      | quiet => cases hresting
      | tell scope notice => cases hresting
  | drop index =>
    unfold Crew.apply
    dsimp only
    split
    · rename_i hresting
      have hunder : (crew.members index).underWay = (crew.members index).task.underWay :=
        Member.underWay_of_ne (by rw [hresting]; simp)
      have htally := h.tally index
      rw [hunder] at htally
      refine h.place (htally.cancel (h.resting index hresting)) nofun ?_ rfl
      rw [acquisitions_cancel, releases_cancel, hunder, Session.openOf_underWay, List.length_map]
      exact Nat.zero_add _
    · exact h

/-- Before the first move each scope has begun, and nothing is seen of it. -/
theorem Crew.sound_start (scopes : Fin n → Scope) : (start scopes).Sound scopes := by
  have htop (i : Fin n) : ((start scopes).members i).task.underWay = [(0, .outside)] := by
    simp only [start, Task.ofScope]
    obtain ⟨name, acquisition, work⟩ := scopes i
    rfl
  have hbegun (i : Fin n) : ((start scopes).members i).task.begun = 1 := by
    simp only [start, Task.ofScope]
    obtain ⟨name, acquisition, work⟩ := scopes i
    rfl
  have hunder (i : Fin n) : ((start scopes).members i).underWay = [(0, .outside)] := htop i
  have hnone : Tally 0 [] fun _ => [] :=
    ⟨nofun, nofun, List.nodup_nil, fun _ _ => rfl, fun _ _ => ⟨.outside, .outside, rfl⟩⟩
  refine ⟨fun i => ?_, fun i _ => ?_, ?_, fun i => Task.eventual_begin _ (scopes i)⟩
  · rw [hbegun, hunder]
    exact hnone.begin
  · rw [htop]
    simp
  · simp only [hunder]
    simp [openOf, Standing.isOpen, seen, start, acquisitions, releases]

/-- However the tasks are run, the crew is sound. -/
theorem Crew.sound_run (scopes : Fin n → Scope) (moves : List (Move n)) :
    ((start scopes).run moves).Sound scopes := by
  have hkept {crew : Crew n} (h : crew.Sound scopes) : (crew.run moves).Sound scopes := by
    unfold run
    induction moves generalizing crew with
    | nil => exact h
    | cons move rest ih => exact ih (h.apply move)
  exact hkept (sound_start scopes)

/-- A session that was acquired is held or was released. -/
theorem Crew.Sound.count_held (h : crew.Sound scopes) :
    acquisitions crew.seen = releases crew.seen + ∑ i, (crew.members i).held.length := by
  have hcount := h.count
  simpa only [Member.openOf_underWay, List.length_map] using hcount

/-- When all have ended, all sessions are released. -/
theorem Crew.Sound.balanced (h : crew.Sound scopes)
    (hended : ∀ i, (crew.members i).hasEnded = true) :
    acquisitions crew.seen = releases crew.seen := by
  rw [h.count_held, Finset.sum_eq_zero fun i _ => ?_, Nat.add_zero]
  rw [Member.held_of_hasEnded (hended i), List.length_nil]

/-! ## Refusals -/

/-- A task whose provider refuses a session: it waits for the answer, or has ended with it. -/
def Member.IsRefused (name : String) (fault : Fault) (member : Member) : Prop :=
  member.task.callers = [] ∧
    ((∃ pauses work, member.task.stage = .acquiring 0 name (.refuse pauses fault) work) ∨
    member.task.stage = .leaving (.failed fault))

/-- The task of a member is refused a session, and nothing is seen of it but that. -/
structure Crew.Refuses (crew : Crew n) (index : Fin n) (name : String) (fault : Fault) : Prop where
  member : (crew.members index).IsRefused name fault
  log : ∀ entry ∈ crew.log, entry.1.1 = index → entry = ((index, 0), .refused name)

section

variable {name : String} {fault : Fault}

theorem Member.IsRefused.step {member next : Member} {signal : Signal}
    (h : member.IsRefused name fault) (hstep : member.step? = some (signal, next)) :
    next.IsRefused name fault ∧ ∀ entry ∈ signal.notices, entry = (0, .refused name) := by
  unfold step? at hstep
  split at hstep
  · cases hstep
  · obtain ⟨⟨signal', after⟩, hafter, heq⟩ := Option.map_eq_some_iff.mp hstep
    cases heq
    obtain ⟨hcallers, ⟨pauses, work, hstage⟩ | hstage⟩ := h
    · simp only [Task.step?, hstage, Option.some.injEq] at hafter
      cases pauses with
      | zero =>
        cases hafter
        exact ⟨⟨hcallers, .inr rfl⟩, fun entry hentry => List.mem_singleton.mp hentry⟩
      | succ pauses =>
        cases hafter
        exact ⟨⟨hcallers, .inl ⟨pauses, work, rfl⟩⟩, nofun⟩
    · simp only [Task.step?, hstage, hcallers] at hafter
      cases hafter

theorem Member.IsRefused.cancel {member : Member} (h : member.IsRefused name fault) :
    member.task.cancel = [] := by
  obtain ⟨hcallers, ⟨pauses, work, hstage⟩ | hstage⟩ := h
  · rw [Task.cancel, Task.held, hcallers, hstage]
    rfl
  · rw [Task.cancel, Task.held, hcallers, hstage]
    rfl

theorem Crew.Refuses.place {index other : Fin n} {member : Member} {notices : List (Nat × Notice)}
    (h : crew.Refuses index name fault)
    (hmember : other = index → member.IsRefused name fault ∧ ∀ entry ∈ notices,
      entry = (0, .refused name)) :
    (crew.place other member notices).Refuses index name fault := by
  refine ⟨?_, fun entry hentry hindex => ?_⟩
  · by_cases hother : index = other
    · subst hother
      simpa [Crew.place] using (hmember rfl).1
    · simpa [Crew.place, Function.update_of_ne hother] using h.member
  · rcases List.mem_append.mp hentry with hold | hnew
    · exact h.log entry hold hindex
    · obtain ⟨⟨scope, notice⟩, hnotice, rfl⟩ := List.mem_map.mp hnew
      have heq := (hmember hindex).2 _ hnotice
      cases heq
      dsimp only at hindex
      rw [hindex]

theorem Crew.Refuses.apply {index : Fin n} (h : crew.Refuses index name fault) (move : Move n) :
    (crew.apply move).Refuses index name fault := by
  cases move with
  | step other =>
    unfold Crew.apply
    dsimp only
    split
    · exact h
    · rename_i signal next hstep
      exact h.place fun hother => (hother ▸ h.member).step hstep
  | drop other =>
    unfold Crew.apply
    dsimp only
    split
    · refine h.place fun hother => ?_
      subst hother
      rw [h.member.cancel]
      exact ⟨h.member, nofun⟩
    · exact h

/-- A scope that is refused a session is seen refused at most, however the tasks are run. -/
theorem Crew.refuses_run {index : Fin n} {pauses : Nat} {work : Work}
    (hscope : scopes index = .mk name (.refuse pauses fault) work) (moves : List (Move n)) :
    ((start scopes).run moves).Refuses index name fault := by
  have hkept {crew : Crew n} (h : crew.Refuses index name fault) :
      (crew.run moves).Refuses index name fault := by
    unfold run
    induction moves generalizing crew with
    | nil => exact h
    | cons move rest ih => exact ih (h.apply move)
  refine hkept ⟨?_, nofun⟩
  simp only [start, hscope]
  exact ⟨rfl, .inl ⟨pauses, work, rfl⟩⟩

end

/-! ## Sessions and scopes -/

/-- Scopes side by side, stepped in any order, each dropped at a pause or not. At any time as many
sessions are acquired and not released as there are scopes that have acquired one and not ended.
What is seen of a scope is a refusal alone, or its session acquired, its work started, and its
session released, each once and in this order, and released only when the work is over. When
all tasks have ended, all sessions are released. A scope that completes hands on what came of its
work, and one that is refused hands on the fault, and its work is never called. -/
theorem every_session_is_released_once (scopes : Fin n → Scope) (moves : List (Move n)) :
    let crew := (Crew.start scopes).run moves
    (releases crew.seen ≤ acquisitions crew.seen ∧
      acquisitions crew.seen - releases crew.seen = ∑ i, (crew.members i).held.length) ∧
      (∀ i scope, ∃ standing : Standing, standing.Fits (seenOf crew.log (i, scope)) ∧
        (standing.isOpen = true ↔ ∃ held ∈ (crew.members i).held, held.scope = scope)) ∧
      ((∀ i, (crew.members i).hasEnded = true) → acquisitions crew.seen = releases crew.seen) ∧
      (∀ i outcome, (crew.members i).task.outcome? = some outcome → outcome = (scopes i).outcome) ∧
      ∀ i name pauses fault work, scopes i = .mk name (.refuse pauses fault) work →
        (∀ entry ∈ crew.log, entry.1.1 = i → entry = ((i, 0), .refused name)) ∧
          ∀ outcome, (crew.members i).task.outcome? = some outcome → outcome = .failed fault := by
  intro crew
  have hsound : crew.Sound scopes := Crew.sound_run scopes moves
  have hcount := hsound.count_held
  have houtcome (i : Fin n) (outcome : Outcome)
      (h : (crew.members i).task.outcome? = some outcome) :
      outcome = (scopes i).outcome := (Task.eventual_of_outcome? h).symm.trans (hsound.outcome i)
  refine ⟨⟨by omega, by omega⟩, fun i scope => ?_, hsound.balanced, houtcome, ?_⟩
  · obtain ⟨standing, hfits, hopen⟩ := (hsound.tally i).standing scope
    refine ⟨standing, hfits, hopen.trans ?_⟩
    rw [Member.openOf_underWay, List.mem_map]
  · intro i name pauses fault work hscope
    refine ⟨(Crew.refuses_run hscope moves).log, fun outcome h => ?_⟩
    rw [houtcome i outcome h, hscope]
    rfl

/-- A scope that opens another one whose work crashes, and a scope that pauses. -/
def crashAndPause : Fin 2 → Scope :=
  let inner : Scope := .mk "inner" (.grant 0 1) (.stop (.outright .crashed))
  ![.mk "outer" (.grant 0 0) (.attempt inner (.stop .sessionValue)),
    .mk "paused" (.grant 0 5) (.pause 1 (.stop .sessionValue))]

/-- The second scope is dropped at its pause, when the first one has crashed. -/
def crashThenDrop : List (Move 2) :=
  List.replicate 3 (.step 1) ++ List.replicate 9 (.step 0) ++ [.drop 1]

/-- The three sessions are released. -/
theorem a_crash_and_a_drop_release_all :
    (∀ i, (((Crew.start crashAndPause).run crashThenDrop).members i).hasEnded = true) ∧
      acquisitions ((Crew.start crashAndPause).run crashThenDrop).seen = 3 ∧
      releases ((Crew.start crashAndPause).run crashThenDrop).seen = 3 := by
  have hended : ∀ i, (((Crew.start crashAndPause).run crashThenDrop).members i).hasEnded =
      true := by
    decide +kernel
  have hacquired : acquisitions ((Crew.start crashAndPause).run crashThenDrop).seen = 3 := by
    decide +kernel
  have hall := (every_session_is_released_once crashAndPause crashThenDrop).2.2.1
  exact ⟨hended, hacquired, (hall hended).symm.trans hacquired⟩

end

end Chassis.Session
