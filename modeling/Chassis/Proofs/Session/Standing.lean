-- How far the scopes of a task have come. What is seen of a scope moves it from one standing to the
-- next, and a step of a task moves no scope but the one on top, or puts a new one there.
import Mathlib.Data.List.Nodup
import Chassis.Session.Scope

namespace Chassis.Session

/-! ## Standings -/

/-- How far a scope has come: it has no session yet, or was refused one; it holds one, and its work
has started; its session is released. -/
inductive Standing where
  | outside
  | refused
  | holding
  | working
  | released
  deriving DecidableEq, Repr

namespace Standing

/-- The standing after a notice, if the notice may be given. -/
def after? : Standing → Notice → Option Standing
  | outside, .refused _ => some refused
  | outside, .acquired _ => some holding
  | holding, .started _ => some working
  | working, .noted .. => some working
  | working, .tried .. => some working
  | working, .released .. => some released
  | _, _ => none

/-- The scope has acquired a session and not ended. -/
def isOpen : Standing → Bool
  | holding => true
  | working => true
  | _ => false

/-- Nothing more comes of the scope. -/
def isOver : Standing → Bool
  | refused => true
  | released => true
  | _ => false

end Standing

/-- A notice that work gives between its start and the release of its session. -/
def Notice.isOfWork : Notice → Bool
  | .noted .. => true
  | .tried .. => true
  | _ => false

/-- What is seen of a scope in a standing: a refusal and nothing else, or a session acquired, its
work started, what the work does, and the session released, each once and in this order. -/
inductive Standing.Fits : Standing → List Notice → Prop
  | outside : Fits outside []
  | refused (name : String) : Fits refused [.refused name]
  | holding (name : String) : Fits holding [.acquired name]
  | working (name name' : String) (work : List Notice)
      (hwork : ∀ notice ∈ work, notice.isOfWork = true) :
      Fits working (.acquired name :: .started name' :: work)
  | released (name name' name'' : String) (work : List Notice)
      (hwork : ∀ notice ∈ work, notice.isOfWork = true)
      (value : Int) :
      Fits released (.acquired name :: .started name' :: work ++ [.released name'' value])

theorem Standing.Fits.after {standing next : Standing} {seen : List Notice} {notice : Notice}
    (h : standing.Fits seen) (hafter : standing.after? notice = some next) :
    next.Fits (seen ++ [notice]) := by
  cases h with
  | outside => cases notice <;> cases hafter <;> constructor
  | refused name => cases hafter
  | holding name =>
    cases notice <;> cases hafter
    exact .working name _ [] fun notice hmem => by cases hmem
  | working name name' work hwork =>
    have hmore {notice : Notice} (hnotice : notice.isOfWork = true) : ∀ other ∈ work ++ [notice],
        other.isOfWork = true := by
      intro other hother
      rcases List.mem_append.mp hother with hmem | hmem
      · exact hwork other hmem
      · rwa [List.mem_singleton.mp hmem]
    cases notice <;> cases hafter
    · exact .working name name' _ (hmore rfl)
    · exact .working name name' _ (hmore rfl)
    · exact .released name name' _ work hwork _
  | released name name' name'' work hwork value => cases hafter

/-! ## What a step changes -/

/-- Scopes and their standings. -/
abbrev Standings := List (Nat × Standing)

/-- The scope on top, unless it has ended. -/
def Stage.underWay : Stage → Standings
  | .acquiring scope _ _ _ => [(scope, .outside)]
  | .entering held _ => [(held.scope, .holding)]
  | .working held _ => [(held.scope, .working)]
  | .leaving _ => []

/-- The scopes that wait for others. -/
def waiting (callers : List Caller) : Standings :=
  callers.map fun caller => (caller.held.scope, .working)

/-- The scopes of a task that have begun and not ended, that on top first. -/
def Task.underWay (task : Task) : Standings := task.stage.underWay ++ waiting task.callers

/-- What one step does to the scopes under way and to the number of those that have begun. No
task pauses between the acquisition of a session and the start of the work. -/
inductive Change (begun : Nat) : Standings → Signal → Nat → Standings → Prop
  | quiet (scopes : Standings) : Change begun scopes .quiet begun scopes
  | pause (scopes : Standings) (hscopes : ∀ entry ∈ scopes, entry.2 ≠ .holding) :
    Change begun scopes .pause begun scopes
  | call (scopes : Standings) : Change begun scopes .quiet (begun + 1) ((begun, .outside) :: scopes)
  | move (scope : Nat) (below : Standings) {standing next : Standing} {notice : Notice}
      (hafter : standing.after? notice = some next) (hnext : next.isOver = false) :
      Change begun ((scope, standing) :: below) (.tell scope notice) begun ((scope, next) :: below)
  | leave (scope : Nat) (below : Standings) {standing next : Standing} {notice : Notice}
      (hafter : standing.after? notice = some next) (hnext : next.isOver = true) :
      Change begun ((scope, standing) :: below) (.tell scope notice) begun below

theorem waiting_not_holding {callers : List Caller} :
    ∀ entry ∈ waiting callers, entry.2 ≠ .holding := by
  intro entry hmem
  obtain ⟨caller, -, rfl⟩ := List.mem_map.mp hmem
  simp

theorem change_begin (task : Task) (scope : Scope) :
    Change task.begun (waiting task.callers) .quiet (task.begin scope).begun
      (task.begin scope).underWay := by
  obtain ⟨name, acquisition, work⟩ := scope
  exact .call _

theorem change_release (task : Task) (held : Held) (outcome : Outcome) :
    Change task.begun ((held.scope, .working) :: waiting task.callers) (task.release held outcome).1
      (task.release held outcome).2.begun (task.release held outcome).2.underWay :=
  .leave held.scope (waiting task.callers) rfl rfl

theorem change_acquire (task : Task) (scope : Nat) (name : String) (work : Work)
    (acquisition : Acquisition) :
    Change task.begun ((scope, .outside) :: waiting task.callers)
      (task.acquire scope name work acquisition).1
      (task.acquire scope name work acquisition).2.begun
      (task.acquire scope name work acquisition).2.underWay := by
  have hnot : ∀ entry ∈ (scope, Standing.outside) :: waiting task.callers, entry.2 ≠ .holding := by
    intro entry hmem
    rcases List.mem_cons.mp hmem with rfl | hmem
    · simp
    · exact waiting_not_holding entry hmem
  rcases acquisition with ⟨_ | pauses, value⟩ | ⟨_ | pauses, fault⟩
  · exact .move scope _ rfl rfl
  · exact .pause _ hnot
  · exact .leave scope _ rfl rfl
  · exact .pause _ hnot

theorem change_perform (task : Task) (held : Held) (work : Work) :
    Change task.begun ((held.scope, .working) :: waiting task.callers) (task.perform held work).1
      (task.perform held work).2.begun (task.perform held work).2.underWay := by
  cases work with
  | stop ending => exact change_release task held _
  | add amount rest => exact .quiet _
  | pause count rest =>
    cases count with
    | zero => exact .quiet _
    | succ count =>
      refine .pause _ fun entry hmem => ?_
      rcases List.mem_cons.mp hmem with rfl | hmem
      · simp
      · exact waiting_not_holding entry hmem
  | note mark rest => exact .move held.scope _ rfl rfl
  | nest inner rest =>
    exact change_begin { task with callers := ⟨held, false, rest⟩ :: task.callers } inner
  | attempt inner rest =>
    exact change_begin { task with callers := ⟨held, true, rest⟩ :: task.callers } inner

theorem change_resume (task : Task) (caller : Caller) (outcome : Outcome) :
    Change task.begun ((caller.held.scope, .working) :: waiting task.callers)
      (task.resume caller outcome).1
      (task.resume caller outcome).2.begun (task.resume caller outcome).2.underWay := by
  unfold Task.resume
  dsimp only
  split
  · exact change_release task caller.held _
  · exact .move caller.held.scope _ rfl rfl
  · exact .quiet _
  · exact change_release task caller.held _

/-- All that a step can do to the scopes of a task. -/
theorem change_of_step {task next : Task} {signal : Signal} (h : task.step? = some (signal, next)) :
    Change task.begun task.underWay signal next.begun next.underWay := by
  unfold Task.step? at h
  unfold Task.underWay
  split at h
  · rename_i scope name acquisition work hstage
    have hchange := change_acquire task scope name work acquisition
    rw [Option.some.inj h] at hchange
    rw [hstage]
    exact hchange
  · rename_i held work hstage
    cases h
    rw [hstage]
    exact .move held.scope _ rfl rfl
  · rename_i held work hstage
    have hchange := change_perform task held work
    rw [Option.some.inj h] at hchange
    rw [hstage]
    exact hchange
  · rename_i outcome hstage
    split at h
    · cases h
    · rename_i caller callers hcallers
      have hchange := change_resume { task with callers } caller outcome
      rw [Option.some.inj h] at hchange
      rw [hstage, hcallers]
      exact hchange

/-! ## What is seen -/

section

variable {κ : Type} [DecidableEq κ]

/-- What a log has of one scope. -/
def seenOf (log : List (κ × Notice)) (key : κ) : List Notice := (log.filter (·.1 = key)).map (·.2)

theorem seenOf_append (log more : List (κ × Notice)) (key : κ) :
    seenOf (log ++ more) key = seenOf log key ++ seenOf more key := by
  simp [seenOf]

end

/-- The notice of a signal, if it is one. -/
def Signal.notices : Signal → List (Nat × Notice)
  | .tell scope notice => [(scope, notice)]
  | _ => []

/-- The scopes that have acquired a session and not ended. -/
def openOf (scopes : Standings) : List Nat := (scopes.filter (·.2.isOpen)).map (·.1)

/-- The scopes under way are where they are said to be, and no other scope holds a session. -/
structure Tally (begun : Nat) (scopes : Standings) (seen : Nat → List Notice) : Prop where
  fits : ∀ entry ∈ scopes, entry.2.Fits (seen entry.1)
  known : ∀ entry ∈ scopes, entry.1 < begun
  distinct : (scopes.map (·.1)).Nodup
  fresh : ∀ scope, begun ≤ scope → seen scope = []
  others : ∀ scope, scope ∉ scopes.map (·.1) → ∃ standing : Standing, standing.Fits (seen scope) ∧
    standing.isOpen = false

section

variable {begun begun' : Nat} {before after : Standings} {signal : Signal}
    {seen : Nat → List Notice}

theorem Tally.standing (h : Tally begun before seen) (scope : Nat) :
    ∃ standing : Standing, standing.Fits (seen scope) ∧
      (standing.isOpen = true ↔ scope ∈ openOf before) := by
  by_cases hmem : scope ∈ before.map (·.1)
  · obtain ⟨entry, hentry, rfl⟩ := List.mem_map.mp hmem
    refine ⟨entry.2, h.fits entry hentry, fun hopen => ?_, fun hopen => ?_⟩
    · exact List.mem_map.mpr ⟨entry, List.mem_filter.mpr ⟨hentry, hopen⟩, rfl⟩
    · obtain ⟨other, hother, heq⟩ := List.mem_map.mp hopen
      obtain ⟨hother, hopen⟩ := List.mem_filter.mp hother
      rwa [List.inj_on_of_nodup_map h.distinct hother hentry heq] at hopen
  · obtain ⟨standing, hfits, hclosed⟩ := h.others scope hmem
    refine ⟨standing, hfits, fun hopen => ?_, fun hopen => ?_⟩
    · rw [hclosed] at hopen
      cases hopen
    · obtain ⟨entry, hentry, rfl⟩ := List.mem_map.mp hopen
      exact absurd (List.mem_map.mpr ⟨entry, (List.mem_filter.mp hentry).1, rfl⟩) hmem

/-- A notice about the scope on top concerns no other. -/
theorem seenOf_tell (scope other : Nat) (notice : Notice) :
    seenOf (Signal.tell scope notice).notices other = if scope = other then [notice] else [] := by
  by_cases h : scope = other <;> simp [seenOf, Signal.notices, h]

/-- The scope on top gives a notice that it may give. -/
theorem Tally.tell {scope : Nat} {below : Standings} {standing next : Standing} {notice : Notice}
    (h : Tally begun ((scope, standing) :: below) seen)
    (hafter : standing.after? notice = some next) :
    Tally begun ((scope, next) :: below) fun other => seen other ++
    seenOf (Signal.tell scope notice).notices other := by
  obtain ⟨hnot, -⟩ := List.nodup_cons.mp h.distinct
  have hless : scope < begun := h.known _ List.mem_cons_self
  refine ⟨?_, ?_, h.distinct, ?_, ?_⟩
  · intro entry hentry
    rcases List.mem_cons.mp hentry with rfl | hbelow
    · rw [seenOf_tell, if_pos rfl]
      exact (h.fits _ List.mem_cons_self).after hafter
    · have hne : scope ≠ entry.1 := by
        rintro rfl
        exact hnot (List.mem_map.mpr ⟨entry, hbelow, rfl⟩)
      rw [seenOf_tell, if_neg hne, List.append_nil]
      exact h.fits entry (List.mem_cons_of_mem _ hbelow)
  · intro entry hentry
    rcases List.mem_cons.mp hentry with rfl | hbelow
    · exact hless
    · exact h.known entry (List.mem_cons_of_mem _ hbelow)
  · intro other hother
    have hne : scope ≠ other := by omega
    rw [seenOf_tell, if_neg hne, List.append_nil, h.fresh other hother]
  · intro other hother
    have hne : scope ≠ other := fun heq => hother (heq ▸ List.mem_cons_self)
    rw [seenOf_tell, if_neg hne, List.append_nil]
    exact h.others other hother

/-- A scope that holds no session need not be kept in mind. -/
theorem Tally.forget {scope : Nat} {below : Standings} {standing : Standing}
    (h : Tally begun ((scope, standing) :: below) seen) (hclosed : standing.isOpen = false) :
    Tally begun below seen := by
  refine ⟨fun entry hentry => h.fits entry (List.mem_cons_of_mem _ hentry),
    fun entry hentry => h.known entry (List.mem_cons_of_mem _ hentry),
    (List.nodup_cons.mp h.distinct).2, h.fresh, ?_⟩
  intro other hother
  by_cases heq : other = scope
  · subst heq
    exact ⟨standing, h.fits _ List.mem_cons_self, hclosed⟩
  · exact h.others other fun hmem => (List.mem_cons.mp hmem).elim heq hother

/-- A scope that begins has not been seen yet. -/
theorem Tally.begin (h : Tally begun before seen) :
    Tally (begun + 1) ((begun, .outside) :: before) seen := by
  refine ⟨?_, ?_, List.nodup_cons.mpr ⟨?_, h.distinct⟩,
    fun scope hscope => h.fresh scope (by omega), ?_⟩
  · intro entry hentry
    rcases List.mem_cons.mp hentry with rfl | hentry
    · rw [h.fresh begun (Nat.le_refl begun)]
      exact .outside
    · exact h.fits entry hentry
  · intro entry hentry
    rcases List.mem_cons.mp hentry with rfl | hentry
    · exact Nat.lt_succ_self begun
    · exact Nat.lt_succ_of_lt (h.known entry hentry)
  · intro hmem
    obtain ⟨entry, hentry, heq⟩ := List.mem_map.mp hmem
    have hless := h.known entry hentry
    dsimp only at heq
    omega
  · exact fun scope hscope => h.others scope fun hmem => hscope (List.mem_cons_of_mem _ hmem)

theorem Standing.isOpen_of_isOver {standing : Standing} (h : standing.isOver = true) :
    standing.isOpen = false := by
  cases standing <;> cases h <;> rfl

theorem Tally.unseen (h : Tally begun before seen) :
    Tally begun before fun scope => seen scope ++ seenOf ([] : List (Nat × Notice)) scope := by
  simpa [seenOf] using h

/-- What a step changes is what is seen of it. -/
theorem Tally.change (h : Tally begun before seen)
    (hchange : Change begun before signal begun' after) :
    Tally begun' after fun scope => seen scope ++ seenOf signal.notices scope := by
  cases hchange with
  | quiet => exact h.unseen
  | pause => exact h.unseen
  | call => exact h.begin.unseen
  | move scope below hafter hnext => exact h.tell hafter
  | leave scope below hafter hnext => exact (h.tell hafter).forget (Standing.isOpen_of_isOver hnext)

/-- Sessions that are dropped one after another, each of a scope whose work has started. -/
theorem Tally.drop {helds : List Held}
    (h : Tally begun (helds.map fun held => (held.scope, .working)) seen) :
    Tally begun [] fun scope =>
      seen scope ++ seenOf (helds.map fun held => (held.scope, .released held.name held.value))
        scope := by
  induction helds generalizing seen with
  | nil => exact h.unseen
  | cons held rest ih =>
    have hafter : Standing.working.after? (.released held.name held.value) = some .released := rfl
    have hrest := ih ((h.tell hafter).forget rfl)
    have hsplit (scope : Nat) :
        seenOf ((held :: rest).map fun held => (held.scope, .released held.name held.value)) scope =
        seenOf (Signal.tell held.scope (.released held.name held.value)).notices scope ++
          seenOf (rest.map fun held => (held.scope, .released held.name held.value)) scope :=
      seenOf_append [_] _ scope
    simpa only [hsplit, ← List.append_assoc] using hrest

/-- Of a notice, how it changes the number of sessions that are held. -/
theorem Standing.count_after {standing next : Standing} {notice : Notice}
    (h : standing.after? notice = some next) :
    next.isOpen.toNat + releases [notice] = standing.isOpen.toNat + acquisitions [notice] := by
  cases standing <;> cases notice <;> cases h <;> rfl

theorem length_openOf_cons (scope : Nat) (standing : Standing) (below : Standings) :
    (openOf ((scope, standing) :: below)).length = standing.isOpen.toNat +
    (openOf below).length := by
  cases standing <;> simp [openOf, Standing.isOpen, Nat.add_comm]

/-- A session that is acquired opens a scope, and one that is released closes it. -/
theorem Change.count (hchange : Change begun before signal begun' after) :
    (openOf after).length + releases (signal.notices.map (·.2)) =
      (openOf before).length + acquisitions (signal.notices.map (·.2)) := by
  cases hchange with
  | quiet => rfl
  | pause => rfl
  | call => rfl
  | @move scope below standing next notice hafter hnext =>
    have hcount := Standing.count_after hafter
    simp only [length_openOf_cons, Signal.notices, List.map_cons, List.map_nil]
    omega
  | @leave scope below standing next notice hafter hnext =>
    have hcount := Standing.count_after hafter
    rw [Standing.isOpen_of_isOver hnext] at hcount
    simp only [length_openOf_cons, Signal.notices, List.map_cons, List.map_nil, Bool.toNat_false]
      at hcount ⊢
    omega

end

end Chassis.Session
