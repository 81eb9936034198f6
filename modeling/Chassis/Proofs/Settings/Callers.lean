-- Calls for the settings from any number of threads, step by step in any order, while environment
-- and files change. The first call that publishes decides for all of them, and for good.
import Mathlib.Data.List.Induction
import Chassis.Instance

namespace Chassis

open Settings (Call)

namespace Settings.Call

variable {ε α σ : Type}

/-- What a step of a call can do, by what is in the cell and by what loading would give: to the cell
and to the call. -/
inductive Next (cell : Cell α) (result : Except ε α) : Call ε α → Cell α → Call ε α → Prop
  | found {value : α} : cell = some value → Next cell result .started cell (.finished (.ok value))
  | missed : cell = none → Next cell result .started cell .loading
  | loads : Next cell result .loading cell (.loaded result)
  | fails {fault : ε} : Next cell result (.loaded (.error fault)) cell (.finished (.error fault))
  | publishes {value : α} :
      cell = none → Next cell result (.loaded (.ok value)) (some value) (.finished (.ok value))
  | comesLate {value old : α} :
      cell = some old → Next cell result (.loaded (.ok value)) cell (.finished (.ok old))
  | rests {last : Except ε α} : Next cell result (.finished last) cell (.finished last)

theorem next_step (load : σ → σ × Except ε α) (world : σ) (cell : Cell α) (call : Call ε α) :
    Next cell (load world).2 call (step load world cell call).2.1
      (step load world cell call).2.2 := by
  cases call with
  | started =>
    cases cell with
    | none => exact .missed rfl
    | some value => exact .found rfl
  | loading => exact .loads
  | loaded result =>
    cases result with
    | error fault => exact .fails
    | ok value =>
      cases cell with
      | none => exact .publishes rfl
      | some old => exact .comesLate rfl
  | finished last => exact .rests

end Settings.Call

/-- An instance with calls for its settings, in the order in which they began. -/
structure Callers where
  inst : Instance
  calls : List (Call Instance.Fault Settings)

namespace Callers

/-- A call begins, or does its next step, or something else changes the environment and the
files. -/
inductive Move where
  | begin
  | step (index : Nat)
  | change (environ : Environ) (files : Files.Node)

/-- An instance that has not been asked for its settings yet. -/
def start (environ : Environ) (files : Files.Node) : Callers := ⟨⟨environ, files, none⟩, []⟩

def apply (callers : Callers) : Move → Callers
  | .begin => { callers with calls := callers.calls ++ [.started] }
  | .step index =>
    match callers.calls[index]? with
    | none => callers
    | some call =>
      let (inst, cell, call) := Call.step Instance.load callers.inst callers.inst.cell call
      ⟨{ inst with cell }, callers.calls.set index call⟩
  | .change environ files => { callers with inst := { callers.inst with environ, files } }

/-- Any number of moves. -/
def run (callers : Callers) (moves : List Move) : Callers := moves.foldl apply callers

/-! ## One move -/

section

variable {callers : Callers} {value : Settings}

theorem apply_step {index : Nat} {call : Call Instance.Fault Settings}
    (hcall : callers.calls[index]? = some call) :
    ∃ (inst : Instance) (cell : Call.Cell Settings) (next : Call Instance.Fault Settings),
      callers.apply (.step index) = ⟨{ inst with cell }, callers.calls.set index next⟩ ∧
        Call.Next callers.inst.cell callers.inst.load.2 call cell next := by
  have hnext := Call.next_step Instance.load callers.inst callers.inst.cell call
  simp only [apply, hcall]
  exact ⟨_, _, _, rfl, hnext⟩

theorem apply_step_of_none {index : Nat} (hcall : callers.calls[index]? = none) :
    callers.apply (.step index) = callers := by
  simp only [apply, hcall]

/-- Nothing but the first call that publishes changes what is in the cell. -/
theorem cell_apply (callers : Callers) (move : Move) :
    (callers.apply move).inst.cell = callers.inst.cell ∨
      ∃ (index : Nat) (value : Settings), move = .step index ∧
        callers.calls[index]? = some (.loaded (.ok value)) ∧
        callers.inst.cell = none ∧ (callers.apply move).inst.cell = some value := by
  cases move with
  | begin => exact .inl rfl
  | change environ files => exact .inl rfl
  | step index =>
    cases hcall : callers.calls[index]? with
    | none => exact .inl (by rw [apply_step_of_none hcall])
    | some call =>
      obtain ⟨inst, cell, next, happly, hnext⟩ := apply_step hcall
      rw [happly]
      cases hnext with
      | publishes hempty => exact .inr ⟨index, _, rfl, hcall, hempty, rfl⟩
      | _ => exact .inl rfl

/-- A call is as it was, or has just begun, or has done a step. -/
theorem calls_apply {move : Move} {index : Nat} {call : Call Instance.Fault Settings}
    (h : (callers.apply move).calls[index]? = some call) :
    callers.calls[index]? = some call ∨ (callers.calls.length ≤ index ∧ call = .started) ∨
      ∃ before cell, move = .step index ∧ callers.calls[index]? = some before ∧
        Call.Next callers.inst.cell callers.inst.load.2 before cell call ∧
        (callers.apply move).inst.cell = cell := by
  cases move with
  | begin =>
    by_cases hlt : index < callers.calls.length
    · exact .inl ((List.getElem?_append_left hlt).symm.trans h)
    · have hle := Nat.not_lt.mp hlt
      have hmem := List.mem_of_getElem? ((List.getElem?_append_right hle).symm.trans h)
      exact .inr (.inl ⟨hle, List.mem_singleton.mp hmem⟩)
  | change environ files => exact .inl h
  | step other =>
    cases hcall : callers.calls[other]? with
    | none =>
      rw [apply_step_of_none hcall] at h
      exact .inl h
    | some before =>
      obtain ⟨inst, cell, next, happly, hnext⟩ := apply_step hcall
      rw [happly] at h ⊢
      by_cases hindex : other = index
      · subst hindex
        have hlt := (List.getElem?_eq_some_iff.mp hcall).1
        rw [List.getElem?_set_self hlt] at h
        cases h
        exact .inr (.inr ⟨before, cell, rfl, hcall, hnext, rfl⟩)
      · rw [List.getElem?_set_ne hindex] at h
        exact .inl h

theorem length_le_apply (callers : Callers) (move : Move) :
    callers.calls.length ≤ (callers.apply move).calls.length := by
  cases move with
  | begin => simp [apply]
  | change environ files => exact Nat.le_refl _
  | step index =>
    cases hcall : callers.calls[index]? with
    | none => simp [apply_step_of_none hcall]
    | some call =>
      obtain ⟨inst, cell, next, happly, -⟩ := apply_step hcall
      simp [happly]

/-- A call that has begun is as it was, or has done a step. -/
theorem exists_apply {move : Move} {index : Nat} {before : Call Instance.Fault Settings}
    (h : callers.calls[index]? = some before) :
    ∃ call, (callers.apply move).calls[index]? = some call ∧
      (call = before ∨ ∃ cell, Call.Next callers.inst.cell callers.inst.load.2 before
        cell call) := by
  have hlt := (List.getElem?_eq_some_iff.mp h).1
  obtain ⟨call, hcall⟩ : ∃ call, (callers.apply move).calls[index]? = some call :=
    ⟨_, List.getElem?_eq_getElem (Nat.lt_of_lt_of_le hlt (length_le_apply callers move))⟩
  refine ⟨call, hcall, ?_⟩
  rcases calls_apply hcall with hold | ⟨hle, -⟩ | ⟨before', cell, -, hbefore, hnext, -⟩
  · exact .inl (Option.some.inj (hold.symm.trans h))
  · exact absurd hlt (Nat.not_lt.mpr hle)
  · cases hbefore.symm.trans h
    exact .inr ⟨cell, hnext⟩

theorem cell_kept (h : callers.inst.cell = some value) (move : Move) :
    (callers.apply move).inst.cell = some value := by
  rcases cell_apply callers move with hsame | ⟨_, _, -, -, hempty, -⟩
  · exact hsame.trans h
  · rw [h] at hempty
    cases hempty

/-! ## What every process keeps -/

/-- Each call that has returned settings has returned those in the cell. -/
def Agree (callers : Callers) : Prop :=
  ∀ (index : Nat) value, callers.calls[index]? = some (.finished (.ok value)) →
    callers.inst.cell = some value

theorem Agree.apply (h : callers.Agree) (move : Move) : (callers.apply move).Agree := by
  intro index value hcall
  rcases calls_apply hcall with hold | ⟨-, hstarted⟩ | ⟨before, cell, -, hbefore, hnext, hcell⟩
  · exact cell_kept (h index value hold) move
  · cases hstarted
  · cases hnext with
    | found hvalue => exact hcell.trans hvalue
    | publishes hempty => exact hcell
    | comesLate hvalue => exact hcell.trans hvalue
    | rests => exact hcell.trans (h index value hbefore)

/-- The cell is full, and the calls from a number on have not looked or have found what is in it. -/
structure Served (value : Settings) (count : Nat) (callers : Callers) : Prop where
  cell : callers.inst.cell = some value
  calls : ∀ (index : Nat) call, count ≤ index → callers.calls[index]? = some call →
    call = .started ∨ call = .finished (.ok value)

theorem Served.apply {count : Nat} (h : callers.Served value count) (move : Move) :
    (callers.apply move).Served value count := by
  refine ⟨cell_kept h.cell move, fun index call hindex hcall => ?_⟩
  rcases calls_apply hcall with hold | ⟨-, hstarted⟩ | ⟨before, cell, -, hbefore, hnext, hcell⟩
  · exact h.calls index call hindex hold
  · exact .inl hstarted
  · rcases h.calls index before hindex hbefore with rfl | rfl
    · cases hnext with
      | found hvalue =>
        cases hvalue.symm.trans h.cell
        exact .inr rfl
      | missed hempty => cases hempty.symm.trans h.cell
    · cases hnext with
      | rests => exact .inr rfl

/-- The next step of such a call is its last. -/
theorem Served.step {count : Nat} (h : callers.Served value count) {index : Nat}
    {call : Call Instance.Fault Settings} (hindex : count ≤ index)
    (hcall : callers.calls[index]? = some call) :
    (callers.apply (.step index)).calls[index]? = some (.finished (.ok value)) := by
  obtain ⟨inst, cell, next, happly, hnext⟩ := apply_step hcall
  have hfinished : next = .finished (.ok value) := by
    rcases h.calls index call hindex hcall with rfl | rfl
    · cases hnext with
      | found hvalue =>
        cases hvalue.symm.trans h.cell
        rfl
      | missed hempty => cases hempty.symm.trans h.cell
    · cases hnext with
      | rests => rfl
  rw [happly, hfinished]
  exact List.getElem?_set_self (List.getElem?_eq_some_iff.mp hcall).1

/-- A call whose load has failed returns the fault, or is about to. -/
def Fails (index : Nat) (fault : Instance.Fault) (callers : Callers) : Prop :=
  callers.calls[index]? = some (.loaded (.error fault)) ∨
    callers.calls[index]? = some (.finished (.error fault))

theorem Fails.apply {index : Nat} {fault : Instance.Fault} (h : callers.Fails index fault)
    (move : Move) :
    (callers.apply move).Fails index fault := by
  rcases h with h | h
  · obtain ⟨call, hcall, rfl | ⟨cell, hnext⟩⟩ := exists_apply h
    · exact .inl hcall
    · cases hnext with
      | fails => exact .inr hcall
  · obtain ⟨call, hcall, rfl | ⟨cell, hnext⟩⟩ := exists_apply h
    · exact .inr hcall
    · cases hnext with
      | rests => exact .inr hcall

/-- What each move keeps is kept by any number of them. -/
theorem run_induction {motive : Callers → Prop} (hstart : motive callers)
    (happly : ∀ callers move, motive callers → motive (callers.apply move)) (moves : List Move) :
    motive (callers.run moves) := by
  unfold run
  induction moves generalizing callers with
  | nil => exact hstart
  | cons move rest ih => exact ih (happly callers move hstart)

end

/-! ## Where settings come from -/

/-- In the course of the moves a call has loaded the settings. -/
def HasLoaded (callers : Callers) (moves : List Move) (value : Settings) : Prop :=
  ∃ earlier index later, moves = earlier ++ .step index :: later ∧
    (callers.run earlier).calls[index]? = some .loading ∧
      (callers.run earlier).inst.load.2 = .ok value

theorem HasLoaded.concat {callers : Callers} {moves : List Move} {value : Settings}
    (h : callers.HasLoaded moves value) (move : Move) :
    callers.HasLoaded (moves ++ [move]) value := by
  obtain ⟨earlier, index, later, rfl, hcall, hload⟩ := h
  exact ⟨earlier, index, later ++ [move], by simp, hcall, hload⟩

theorem run_concat (callers : Callers) (moves : List Move) (move : Move) :
    callers.run (moves ++ [move]) = (callers.run moves).apply move := by
  simp [run]

/-- Settings in the cell, or in the hands of a call, were loaded by a call. -/
theorem hasLoaded_of_held (environ : Environ) (files : Files.Node) (moves : List Move)
    (value : Settings)
    (h : ((start environ files).run moves).inst.cell = some value ∨
      ∃ index : Nat, ((start environ files).run moves).calls[index]? = some (.loaded (.ok value))) :
    (start environ files).HasLoaded moves value := by
  -- From the last move backwards: it filled the cell or a hand with what was in a hand before it,
  -- unless it was the load itself.
  induction moves using List.reverseRecOn with
  | nil =>
    rcases h with h | ⟨index, h⟩
    · cases h
    · cases h
  | append_singleton moves move ih =>
    rw [run_concat] at h
    rcases h with hcell | ⟨index, hcall⟩
    · rcases cell_apply ((start environ files).run moves) move with hsame |
        ⟨index, other, -, hloaded, -, hfilled⟩
      · exact (ih (.inl (hsame.symm.trans hcell))).concat move
      · cases hfilled.symm.trans hcell
        exact (ih (.inr ⟨index, hloaded⟩)).concat move
    · rcases calls_apply hcall with hold | ⟨-, hstarted⟩ | ⟨before, cell, rfl, hbefore, hnext, -⟩
      · exact (ih (.inr ⟨index, hold⟩)).concat move
      · cases hstarted
      · generalize hloads : ((start environ files).run moves).inst.load.2 = result at hnext
        cases hnext with
        | loads => exact ⟨moves, index, [], rfl, hbefore, hloads⟩

/-- In whatever order the steps are done, and whatever changes in between: all calls that return
settings return those in the cell. A call has loaded them, and they stay there for good. Each call
that begins when they are there returns them with its next step, without loading. A call whose load
fails returns the fault, and no move changes the cell but the step that publishes what was
loaded. -/
theorem all_callers_get_the_same_settings (environ : Environ) (files : Files.Node)
    (moves : List Move) :
    let callers := (start environ files).run moves
    (∀ (index : Nat) value, callers.calls[index]? = some (.finished (.ok value)) →
      callers.inst.cell = some value) ∧
      (∀ value, callers.inst.cell = some value → (start environ files).HasLoaded moves value ∧
        ∀ more, (callers.run more).inst.cell = some value ∧
          ∀ (index : Nat) call, callers.calls.length ≤ index →
            (callers.run more).calls[index]? = some call →
            (call = .started ∨ call = .finished (.ok value)) ∧
              ((callers.run more).apply (.step index)).calls[index]? =
                some (.finished (.ok value))) ∧
      (∀ index fault, callers.Fails index fault → ∀ more, (callers.run more).Fails index fault) ∧
      ∀ move, (callers.apply move).inst.cell ≠ callers.inst.cell →
        ∃ (index : Nat) (value : Settings), move = .step index ∧
          callers.calls[index]? = some (.loaded (.ok value)) ∧
          callers.inst.cell = none ∧ (callers.apply move).inst.cell = some value := by
  intro callers
  have hagree : callers.Agree := by
    have hstart : (start environ files).Agree := nofun
    exact run_induction hstart (fun _ move h => h.apply move) moves
  refine ⟨hagree, fun value hcell =>
    ⟨hasLoaded_of_held environ files moves value (.inl hcell), fun more => ?_⟩, ?_, ?_⟩
  · have hnone : callers.Served value callers.calls.length := by
      refine ⟨hcell, fun index call hindex hcall => ?_⟩
      exact absurd (List.getElem?_eq_some_iff.mp hcall).1 (Nat.not_lt.mpr hindex)
    have hserved : (callers.run more).Served value callers.calls.length :=
      run_induction hnone (fun _ move h => h.apply move) more
    exact ⟨hserved.cell, fun index call hindex hcall =>
      ⟨hserved.calls index call hindex hcall, hserved.step hindex hcall⟩⟩
  · intro index fault hfails more
    exact run_induction hfails (fun _ move h => h.apply move) more
  · intro move hchange
    exact (cell_apply callers move).resolve_left hchange

end Callers

end Chassis
