-- Tasks that are polled in turn. A poll is a number of moves, and so are rounds of polls: what
-- every run of moves keeps holds of them, and they go on until each scope has come to its outcome.
import Mathlib.Data.List.FinRange
import Mathlib.Data.List.Fold
import Mathlib.Data.List.MinMax
import Chassis.Proofs.Session.Interleaving

namespace Chassis.Session

/-! ## Polls come to an end -/

namespace Task

theorem isSome_outcome? {task : Task} (h : task.step? = none) : task.outcome?.isSome = true := by
  unfold step? at h
  split at h
  · cases h
  · cases h
  · cases h
  · rename_i outcome hstage
    split at h
    · rename_i hcallers
      simp [outcome?, hstage, hcallers]
    · cases h

theorem step?_of_outcome? {task : Task} (h : task.outcome?.isSome = true) : task.step? = none := by
  unfold outcome? at h
  split at h
  · rename_i hstage hcallers
    simp [step?, hstage, hcallers]
  · cases h

theorem weight_ofScope (scope : Scope) : (ofScope scope).weight = scope.weight :=
  weight_begin _ scope

theorem eventual_ofScope (scope : Scope) : (ofScope scope).eventual = scope.outcome :=
  eventual_begin _ scope

theorem poll_eq (task : Task) : task.poll =
    match task.step? with
    | none => (task, [])
    | some (.pause, next) => (next, [])
    | some (.quiet, next) => next.poll
    | some (.tell _ notice, next) => (next.poll.1, notice :: next.poll.2) := by
  rw [poll]
  split <;> rename_i h <;> rw [h]

/-- A poll ends a task, or brings it nearer to its end. -/
theorem poll_ends (task : Task) : task.poll.1.outcome?.isSome = true ∨
    task.poll.1.weight < task.weight := by
  induction task using poll.induct with
  | case1 task h =>
    rw [poll_eq, h]
    exact .inl (isSome_outcome? h)
  | case2 task next h =>
    rw [poll_eq, h]
    exact .inr (weight_step? h)
  | case3 task next h ih =>
    rw [poll_eq, h]
    exact ih.imp_right fun hless => hless.trans (weight_step? h)
  | case4 task scope notice next h _ _ _ ih =>
    rw [poll_eq, h]
    exact ih.imp_right fun hless => hless.trans (weight_step? h)

/-- A poll changes nothing of what a task comes to in the end. -/
theorem eventual_poll (task : Task) : task.poll.1.eventual = task.eventual := by
  induction task using poll.induct with
  | case1 task h => rw [poll_eq, h]
  | case2 task next h =>
    rw [poll_eq, h]
    exact eventual_step h
  | case3 task next h ih =>
    rw [poll_eq, h]
    exact ih.trans (eventual_step h)
  | case4 task scope notice next h _ _ _ ih =>
    rw [poll_eq, h]
    exact ih.trans (eventual_step h)

theorem eventual_polls (task : Task) (count : Nat) :
    (task.polls count).1.eventual = task.eventual := by
  induction count generalizing task with
  | zero => rfl
  | succ count ih => exact (ih _).trans (eventual_poll task)

theorem poll_of_outcome? {task : Task} (h : task.outcome?.isSome = true) :
    task.poll = (task, []) := by
  rw [poll_eq, step?_of_outcome? h]

theorem polls_of_outcome? {task : Task} (h : task.outcome?.isSome = true) (count : Nat) :
    task.polls count = (task, []) := by
  induction count with
  | zero => rfl
  | succ count ih =>
    rw [polls, poll_of_outcome? h]
    dsimp only
    rw [ih, List.append_nil]

/-- After as many polls as the task is heavy, it has ended. -/
theorem outcome?_polls {task : Task} {count : Nat} (h : task.weight ≤ count) :
    (task.polls count).1.outcome? = some task.eventual := by
  have hsome : (task.polls count).1.outcome?.isSome = true := by
    induction count generalizing task with
    | zero =>
      refine isSome_outcome? ?_
      cases hstep : task.step? with
      | none => exact hstep
      | some result =>
        have hless := weight_step? hstep
        omega
    | succ count ih =>
      rw [polls]
      dsimp only
      rcases poll_ends task with hsome | hless
      · rw [polls_of_outcome? hsome]
        exact hsome
      · exact ih (by omega)
  obtain ⟨outcome, houtcome⟩ := Option.isSome_iff_exists.mp hsome
  rw [houtcome, ← eventual_polls task count, eventual_of_outcome? houtcome]

end Task

/-! ## Polls are moves -/

namespace Crew

variable {n : Nat}

theorem run_append (crew : Crew n) (moves more : List (Move n)) :
    crew.run (moves ++ more) = (crew.run moves).run more :=
  List.foldl_append

theorem apply_step {crew : Crew n} {index : Fin n} {signal : Signal} {next : Task}
    (hlive : (crew.members index).condition ≠ .dropped)
    (hstep : (crew.members index).task.step? = some (signal, next)) :
    crew.apply (.step index) = crew.place index ⟨next, signal.condition⟩ signal.notices := by
  have hmember : (crew.members index).step? = some (signal, ⟨next, signal.condition⟩) := by
    unfold Member.step?
    split
    · rename_i hdropped
      exact absurd hdropped hlive
    · rw [hstep]
      rfl
  simp only [apply, hmember]

theorem apply_drop {crew : Crew n} {index : Fin n} (h : (crew.members index).condition = .resting) :
    crew.apply (.drop index) =
      crew.place index { crew.members index with condition := .dropped }
        (crew.members index).task.cancel := by
  simp only [apply, if_pos h]

@[simp]
theorem members_place (crew : Crew n) (index : Fin n) (member : Member)
    (notices : List (Nat × Notice)) :
    (crew.place index member notices).members index = member := by
  simp [place]

/-- Some moves bring a member to a task and show something. It has ended then, or rests, and the
others are as they were. -/
def Brings (crew : Crew n) (index : Fin n) (task : Task) (shown : List Notice) : Prop :=
  ∃ moves condition, (crew.run moves).members =
    Function.update crew.members index ⟨task, condition⟩ ∧
    (crew.run moves).seen = crew.seen ++ shown ∧ condition ≠ .dropped ∧
    (task.outcome?.isSome = true ∨ condition = .resting)

theorem Brings.step {crew : Crew n} {index : Fin n} {signal : Signal} {next last : Task}
    {shown : List Notice} (hlive : (crew.members index).condition ≠ .dropped)
    (hstep : (crew.members index).task.step? = some (signal, next))
    (h : (crew.place index ⟨next, signal.condition⟩ signal.notices).Brings index last shown) :
    crew.Brings index last (signal.notices.map (·.2) ++ shown) := by
  obtain ⟨moves, condition, hmembers, hseen, hcondition, hlast⟩ := h
  rw [← apply_step hlive hstep] at hmembers hseen
  refine ⟨.step index :: moves, condition, ?_, ?_, hcondition, hlast⟩
  · refine hmembers.trans ?_
    rw [apply_step hlive hstep]
    exact Function.update_idem _ _ _
  · refine hseen.trans ?_
    rw [apply_step hlive hstep, seen_place, List.append_assoc]

/-- A poll of a member is a number of its steps. -/
theorem brings_poll {crew : Crew n} {index : Fin n}
    (hlive : (crew.members index).condition ≠ .dropped) :
    crew.Brings index (crew.members index).task.poll.1 (crew.members index).task.poll.2 := by
  generalize htask : (crew.members index).task = task
  induction task using Task.poll.induct generalizing crew with
  | case1 task h =>
    refine ⟨[], (crew.members index).condition, ?_, ?_, hlive, .inl ?_⟩
    · rw [Task.poll_eq, h, ← htask]
      exact (Function.update_eq_self index crew.members).symm
    · rw [Task.poll_eq, h]
      exact (List.append_nil _).symm
    · rw [Task.poll_eq, h]
      exact Task.isSome_outcome? h
  | case2 task next h =>
    rw [Task.poll_eq, h]
    refine Brings.step hlive (htask ▸ h)
      ⟨[], .resting, ?_, (List.append_nil _).symm, nofun, .inr rfl⟩
    exact (Function.update_idem _ _ _).symm
  | case3 task next h ih =>
    rw [Task.poll_eq, h]
    exact Brings.step hlive (htask ▸ h) (ih (by simp [Signal.condition]) (by simp))
  | case4 task scope notice next h _ _ _ ih =>
    rw [Task.poll_eq, h]
    exact Brings.step hlive (htask ▸ h) (ih (by simp [Signal.condition]) (by simp))

/-- So are any number of polls of it. -/
theorem brings_polls {crew : Crew n} {index : Fin n}
    (hlive : (crew.members index).condition ≠ .dropped)
    (hlast : (crew.members index).task.outcome?.isSome = true ∨
      (crew.members index).condition = .resting) (count : Nat) :
    crew.Brings index ((crew.members index).task.polls count).1
      ((crew.members index).task.polls count).2 := by
  induction count generalizing crew with
  | zero =>
    exact ⟨[], (crew.members index).condition, (Function.update_eq_self index crew.members).symm,
      (List.append_nil _).symm, hlive, hlast⟩
  | succ count ih =>
    obtain ⟨moves, condition, hmembers, hseen, hcondition, hlast'⟩ := brings_poll hlive
    have hmember : (crew.run moves).members index =
        ⟨(crew.members index).task.poll.1, condition⟩ := by
      rw [hmembers, Function.update_self]
    obtain ⟨more, last, hmembers', hseen', hrest⟩ :=
      ih (by rw [hmember]; exact hcondition) (by rw [hmember]; exact hlast')
    rw [hmember] at hmembers' hseen' hrest
    refine ⟨moves ++ more, last, ?_, ?_, hrest⟩
    · rw [run_append, hmembers', hmembers]
      exact Function.update_idem _ _ _
    · rw [run_append, hseen', hseen, List.append_assoc]
      rfl

end Crew

/-- A scope that is run by itself comes to its outcome, unless it is dropped before. -/
theorem runScope_fst {scope : Scope} {limit : Option Nat} {outcome : Outcome}
    (h : (runScope scope limit).1 = some outcome) : outcome = scope.outcome := by
  have heventual := Task.eventual_polls (Task.ofScope scope) (limit.getD scope.weight)
  unfold runScope at h
  generalize (Task.ofScope scope).polls (limit.getD scope.weight) = polled at h heventual
  obtain ⟨task, shown⟩ := polled
  dsimp only at h heventual
  cases houtcome : task.outcome? with
  | none =>
    rw [houtcome] at h
    cases h
  | some last =>
    rw [houtcome] at h
    cases h
    rw [← Task.eventual_of_outcome? houtcome, heventual, Task.eventual_ofScope]

/-- What is seen of a scope that is run by itself, to its end or to the poll at which it is dropped,
is what some moves show until it has ended. -/
theorem runScope_snd (scope : Scope) (limit : Option Nat) :
    ∃ moves, let crew := (Crew.start fun _ : Fin 1 => scope).run moves
      crew.seen = (runScope scope limit).2 ∧ ∀ index, (crew.members index).hasEnded = true := by
  have hlive : ((Crew.start fun _ : Fin 1 => scope).members 0).condition ≠ .dropped := nofun
  have hbrings : (Crew.start fun _ : Fin 1 => scope).Brings 0
      ((Task.ofScope scope).polls (limit.getD scope.weight)).1
      ((Task.ofScope scope).polls (limit.getD scope.weight)).2 :=
    Crew.brings_polls hlive (.inr rfl) _
  unfold runScope
  generalize (Task.ofScope scope).polls (limit.getD scope.weight) = polled at hbrings ⊢
  obtain ⟨task, shown⟩ := polled
  obtain ⟨moves, condition, hmembers, hseen, -, hlast⟩ := hbrings
  have hmember (index : Fin 1) : ((Crew.start fun _ : Fin 1 => scope).run moves).members index =
      ⟨task, condition⟩ := by
    rw [hmembers, Subsingleton.elim index 0, Function.update_self]
  dsimp only at hlast ⊢
  cases houtcome : task.outcome? with
  | some outcome =>
    refine ⟨moves, hseen, fun index => ?_⟩
    rw [hmember]
    simp [Member.hasEnded, houtcome]
  | none =>
    have hresting : condition = .resting := hlast.resolve_left (by simp [houtcome])
    subst hresting
    have hdrop := Crew.apply_drop (congrArg Member.condition (hmember 0))
    refine ⟨moves ++ [.drop 0], ?_, fun index => ?_⟩
    · rw [Crew.run_append]
      refine (congrArg Crew.seen hdrop).trans ?_
      rw [Crew.seen_place, hseen, hmember]
      rfl
    · rw [Crew.run_append, Subsingleton.elim index 0]
      refine (congrArg (fun crew : Crew 1 => (crew.members 0).hasEnded) hdrop).trans ?_
      simp [Member.hasEnded]

/-- A scope that is run by itself releases each session that it acquires. -/
theorem runScope_releases (scope : Scope) (limit : Option Nat) :
    acquisitions (runScope scope limit).2 = releases (runScope scope limit).2 := by
  obtain ⟨moves, hseen, hended⟩ := runScope_snd scope limit
  rw [← hseen]
  exact (Crew.sound_run _ moves).balanced hended

/-! ## Rounds -/

theorem pollRound_fst (tasks : List Task) : (pollRound tasks).1 = tasks.map (·.poll.1) := by
  induction tasks with
  | nil => rfl
  | cons task rest ih => exact congrArg (task.poll.1 :: ·) ih

theorem pollRounds_fst (tasks : List Task) (count : Nat) :
    (pollRounds tasks count).1 = tasks.map fun task => (task.polls count).1 := by
  induction count generalizing tasks with
  | zero => exact (List.map_id tasks).symm
  | succ count ih =>
    rw [pollRounds, ih, pollRound_fst, List.map_map]
    rfl

namespace Crew

variable {n : Nat} {crew : Crew n}

/-- Nobody was dropped. -/
def IsWhole (crew : Crew n) : Prop := ∀ index, (crew.members index).condition ≠ .dropped

/-- The tasks of some members. -/
def tasks (crew : Crew n) (indices : List (Fin n)) : List Task :=
  indices.map fun index => (crew.members index).task

/-- A round is a number of moves, whoever takes part in it. -/
theorem run_pollRound (hwhole : crew.IsWhole) {indices : List (Fin n)} (hnodup : indices.Nodup) :
    ∃ moves, (crew.run moves).IsWhole ∧
      (crew.run moves).seen = crew.seen ++ (pollRound (crew.tasks indices)).2 ∧
      ∀ index, ((crew.run moves).members index).task =
        if index ∈ indices then (crew.members index).task.poll.1
          else (crew.members index).task := by
  -- The first poll leaves the tasks of the rest as they are, so the rest of the round is a round of
  -- theirs.
  induction indices generalizing crew with
  | nil => exact ⟨[], hwhole, (List.append_nil _).symm, fun _ => rfl⟩
  | cons first rest ih =>
    obtain ⟨hnot, hrest⟩ := List.nodup_cons.mp hnodup
    obtain ⟨moves, condition, hmembers, hseen, hcondition, -⟩ := brings_poll (hwhole first)
    have hother (index : Fin n) (hne : index ≠ first) :
        (crew.run moves).members index = crew.members index := by
      rw [hmembers, Function.update_of_ne hne]
    have hfirst : (crew.run moves).members first =
        ⟨(crew.members first).task.poll.1, condition⟩ := by
      rw [hmembers, Function.update_self]
    have hwhole' : (crew.run moves).IsWhole := by
      intro index
      by_cases hindex : index = first
      · rw [hindex, hfirst]
        exact hcondition
      · rw [hother index hindex]
        exact hwhole index
    have htasks : (crew.run moves).tasks rest = crew.tasks rest := by
      refine List.map_congr_left fun index hindex => ?_
      rw [hother index fun heq => hnot (heq ▸ hindex)]
    obtain ⟨more, hlast, hshown, hall⟩ := ih hwhole' hrest
    refine ⟨moves ++ more, ?_, ?_, fun index => ?_⟩
    · rw [run_append]
      exact hlast
    · rw [run_append, hshown, hseen, htasks, List.append_assoc]
      rfl
    · rw [run_append, hall]
      by_cases hindex : index = first
      · subst hindex
        rw [if_neg hnot, if_pos List.mem_cons_self, hfirst]
      · simp [hindex, hother index hindex]

/-- Rounds of all members are a number of moves. -/
theorem run_pollRounds (hwhole : crew.IsWhole) (count : Nat) :
    ∃ moves, (crew.run moves).seen = crew.seen ++
      (pollRounds (crew.tasks (List.finRange n)) count).2 ∧
      ∀ index, ((crew.run moves).members index).task =
        ((crew.members index).task.polls count).1 := by
  induction count generalizing crew with
  | zero => exact ⟨[], (List.append_nil _).symm, fun _ => rfl⟩
  | succ count ih =>
    obtain ⟨moves, hwhole', hseen, hround⟩ := run_pollRound hwhole (List.nodup_finRange n)
    obtain ⟨more, hshown, hall⟩ := ih hwhole'
    have htasks : (crew.run moves).tasks (List.finRange n) =
        (pollRound (crew.tasks (List.finRange n))).1 := by
      rw [pollRound_fst, tasks, tasks, List.map_map]
      refine List.map_congr_left fun index hindex => ?_
      rw [hround, if_pos hindex]
      rfl
    refine ⟨moves ++ more, ?_, fun index => ?_⟩
    · rw [run_append, hshown, hseen, htasks, pollRounds, List.append_assoc]
    · rw [run_append, hall, hround, if_pos (List.mem_finRange index)]
      rfl

end Crew

/-- There are enough rounds for each scope. -/
theorem weight_le_rounds {scope : Scope} {scopes : List Scope} (h : scope ∈ scopes) :
    (Task.ofScope scope).weight ≤ (scopes.map Scope.weight).foldl max 0 := by
  rw [Task.weight_ofScope, List.foldl_eq_foldr]
  exact List.le_max_of_le' 0 (List.mem_map_of_mem h) (Nat.le_refl _)

/-- Scopes that are run side by side come to their outcomes. -/
theorem sideBySide_fst (scopes : List Scope) :
    (sideBySide scopes).1 = scopes.map Scope.outcome := by
  have hall : (pollRounds (scopes.map Task.ofScope) ((scopes.map Scope.weight).foldl max 0)).1.map
      Task.outcome? =
      (scopes.map Scope.outcome).map some := by
    rw [pollRounds_fst, List.map_map, List.map_map, List.map_map]
    refine List.map_congr_left fun scope hscope => ?_
    exact (Task.outcome?_polls (weight_le_rounds hscope)).trans
      (congrArg some (Task.eventual_ofScope scope))
  unfold sideBySide
  dsimp only
  rw [← Function.id_comp Task.outcome?, ← List.filterMap_map, hall, List.filterMap_map]
  exact List.filterMap_some

/-- What is seen of scopes that are run side by side is what some moves show, after which all of
them have ended. -/
theorem sideBySide_snd (scopes : List Scope) :
    ∃ moves, let crew := (Crew.start scopes.get).run moves
      crew.seen = (sideBySide scopes).2 ∧ ∀ index, (crew.members index).hasEnded = true := by
  have hwhole : (Crew.start scopes.get).IsWhole := fun _ => nofun
  have htasks : (Crew.start scopes.get).tasks (List.finRange scopes.length) =
      scopes.map Task.ofScope := by
    have hget : (List.finRange scopes.length).map (Task.ofScope ∘ scopes.get) =
        scopes.map Task.ofScope := by
      rw [← List.map_map, List.map_get_finRange]
    exact hget
  obtain ⟨moves, hseen, hall⟩ := Crew.run_pollRounds hwhole ((scopes.map Scope.weight).foldl max 0)
  refine ⟨moves, ?_, fun index => ?_⟩
  · rw [hseen, htasks]
    rfl
  · have hended := Task.outcome?_polls (weight_le_rounds (scopes.get_mem index))
    have htask : ((Crew.start scopes.get).members index).task = Task.ofScope (scopes.get index) :=
      rfl
    unfold Member.hasEnded
    rw [hall, htask, hended]
    simp

/-- Scopes that are run side by side release each session that they acquire. -/
theorem sideBySide_releases (scopes : List Scope) :
    acquisitions (sideBySide scopes).2 = releases (sideBySide scopes).2 := by
  obtain ⟨moves, hseen, hended⟩ := sideBySide_snd scopes
  rw [← hseen]
  exact (Crew.sound_run scopes.get moves).balanced hended

end Chassis.Session
