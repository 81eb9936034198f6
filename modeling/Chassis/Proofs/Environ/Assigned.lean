-- What an environment file assigns, said without the environment that it is applied to line by
-- line: a name means its value in the environment, else that of its first assignment. Applying a
-- file supplies these assignments one after another, up to the first bad line.
import Chassis.Proofs.Environ.Kept
import Chassis.Proofs.Environ.Zeros

namespace Chassis.Environ

/-! ## Assignments -/

/-- The names and values that lines of a file assign, in their order. -/
abbrev Assignments := List (String × String)

/-- What a name means after some assignments: its value in the environment, which may be empty, else
that of its first assignment. -/
def meaning? (environ : Environ) (before : Assignments) (name : String) : Option String :=
  (get? environ name).or (before.lookup name)

/-- All assignments up to the end of some lines or to the first bad one, and what is wrong with
that. A substitution in a line has what its name means by then. -/
def assigned (environ : Environ) (before : Assignments) : List (Except Fault String) →
    Assignments × Option Fault
  | [] => (before, none)
  | .error fault :: _ => (before, some fault)
  | .ok line :: rest =>
    match readLine (fun name => (meaning? environ before name).getD "") line with
    | .error fault => (before, some fault)
    | .ok none => assigned environ before rest
    | .ok (some (name, value)) => assigned environ (before ++ [(name, value.getD "")]) rest

/-- The assignments of a file. -/
def assignedBy (environ : Environ) (bytes : Text.Bytes) : Assignments × Option Fault :=
  assigned environ [] (logicalLines bytes)

/-- The environment with some assignments supplied, one after another. -/
def supplyAll (environ : Environ) (assignments : Assignments) : Environ :=
  assignments.foldl (fun environ assignment => supply environ assignment.1 assignment.2) environ

theorem supplyAll_concat (environ : Environ) (before : Assignments) (name value : String) :
    supplyAll environ (before ++ [(name, value)]) =
    supply (supplyAll environ before) name value := by
  unfold supplyAll
  rw [List.foldl_append]
  rfl

theorem meaning?_concat (environ : Environ) (before : Assignments) (name value other : String) :
    meaning? environ (before ++ [(name, value)]) other =
      (meaning? environ before other).or (if name = other then some value else none) := by
  unfold meaning?
  rw [List.lookup_append, Option.or_assoc]
  by_cases h : name = other
  · simp [h]
  · have hne : (other == name) = false := beq_false_of_ne (Ne.symm h)
    simp [List.lookup_cons, h, hne]

/-- After some assignments have been supplied, each name has what it means by them. -/
theorem get?_supplyAll (environ : Environ) (assignments : Assignments) (name : String) :
    get? (supplyAll environ assignments) name = meaning? environ assignments name := by
  induction assignments using List.reverseRecOn with
  | nil => simp [supplyAll, meaning?]
  | append_singleton before last ih => rw [supplyAll_concat, get?_supply, ih, meaning?_concat]

/-! ## Applying a file -/

/-- How a file ends whose first bad line, if it has one, is wrong in some way. -/
def endingOf : Option Fault → Ending
  | none => .complete
  | some fault => .failed fault

/-- The environment `now` is what `environ` has become by the assignments before, and `given` are
values of the file that are all set in it. -/
structure Carries (environ : Environ) (before : Assignments) (now : Environ)
    (given : Given) : Prop where
  supplied : now = supplyAll environ before
  given : ∀ name, (given.lookup name).join.isSome = true → (get? now name).isSome = true

theorem Carries.start (environ : Environ) : Carries environ [] environ [] := by
  refine ⟨rfl, fun name h => ?_⟩
  simp at h

section

variable {environ now : Environ} {before : Assignments} {given : Given}
    (h : Carries environ before now given)
include h

/-- What the file has given itself need not be asked for: it is in the environment by then. -/
theorem Carries.substitution_eq :
    substitution now given = fun name => (meaning? environ before name).getD "" := by
  funext name
  unfold substitution
  rw [← get?_supplyAll, ← h.supplied]
  cases hnow : get? now name with
  | some value => rfl
  | none =>
    have hgiven : (given.lookup name).join = none := by
      rw [← Option.not_isSome_iff_eq_none]
      intro hset
      have hisSome := h.given name hset
      rw [hnow] at hisSome
      cases hisSome
    simp [hgiven]

/-- One more assignment is supplied, which changes nothing if its name is set. -/
theorem Carries.supply (name : String) (value : Option String) :
    Carries environ (before ++ [(name, value.getD "")]) (supply now name (value.getD ""))
      ((name, value) :: given) := by
  refine ⟨?_, fun other hother => ?_⟩
  · rw [supplyAll_concat, h.supplied]
  · rw [get?_supply]
    by_cases hname : name = other
    · cases get? now other <;> simp [hname]
    · have hne : (other == name) = false := beq_false_of_ne (Ne.symm hname)
      rw [List.lookup_cons, hne] at hother
      simp [h.given other hother]

end

/-- Line by line, applying a file comes to supplying what it assigns, unless it is cut off. -/
theorem Carries.applyLines {environ now : Environ} {before : Assignments} {given : Given}
    {lines : List (Except Fault String)} (h : Carries environ before now given)
    (hend : (applyLines now given lines).2 ≠ .crashed) :
    applyLines now given lines =
      (supplyAll environ (assigned environ before lines).1,
        endingOf (assigned environ before lines).2) := by
  induction lines generalizing before now given with
  | nil => exact Prod.ext h.supplied rfl
  | cons line rest ih =>
    rcases line with fault | line
    · exact Prod.ext h.supplied rfl
    · rw [Environ.applyLines] at hend ⊢
      rw [assigned, ← h.substitution_eq]
      rcases hread : readLine (substitution now given) line with fault | _ | ⟨name, value⟩
      · exact Prod.ext h.supplied rfl
      · rw [hread] at hend
        exact ih h hend
      · rw [hread] at hend
        dsimp only at hend ⊢
        split
        · rename_i hzero
          simp only [hzero, if_true, ne_eq, not_true_eq_false] at hend
        · rename_i hset
          rw [if_neg hset] at hend
          exact ih (h.supply name value) hend

/-- Nothing is cut off where there are no zeros. -/
theorem applyLines_ne_crashed {now : Environ} {given : Given} {lines : List (Except Fault String)}
    (hnow : ∀ name value, get? now name = some value → NoZero value)
    (hgiven : ∀ name value, given.lookup name = some (some value) → NoZero value)
    (hlines : ∀ line, .ok line ∈ lines → NoZero line) :
    (applyLines now given lines).2 ≠ .crashed := by
  induction lines generalizing now given with
  | nil =>
    intro hcrashed
    cases hcrashed
  | cons line rest ih =>
    have hrest : ∀ line, .ok line ∈ rest → NoZero line := fun other hother =>
      hlines other (List.mem_cons_of_mem _ hother)
    rcases line with fault | line
    · intro hcrashed
      cases hcrashed
    · have hsubstitution (name : String) : NoZero (substitution now given name) := by
        unfold substitution
        cases hvalue : get? now name with
        | some value => exact hnow name value hvalue
        | none =>
          cases hlookup : (given.lookup name).join with
          | none => simp [NoZero]
          | some value => exact hgiven name value (Option.join_eq_some_iff.mp hlookup)
      rw [applyLines]
      rcases hread : readLine (substitution now given) line with fault | _ | ⟨name, value⟩
      · intro hcrashed
        cases hcrashed
      · exact ih hnow hgiven hrest
      · have hvalue : NoZero (value.getD "") :=
          noZero_readLine hsubstitution (hlines line List.mem_cons_self) hread
        have hset : ((get? now name).isNone && (value.getD "").toList.contains '\x00') = false := by
          simpa [NoZero] using fun _ => hvalue
        simp only [hset, Bool.false_eq_true, if_false]
        refine ih (fun other text htext => ?_) (fun other text htext => ?_) hrest
        · rw [get?_supply, Option.or_eq_some_iff] at htext
          rcases htext with hold | ⟨-, hnew⟩
          · exact hnow other text hold
          · split at hnew
            · cases hnew
              exact hvalue
            · cases hnew
        · rw [List.lookup_cons] at htext
          split at htext
          · cases htext
            exact hvalue
          · exact hgiven other text htext

/-- Loading a file supplies what it assigns, unless it is cut off. -/
theorem load_eq_supplyAll {environ : Environ} {bytes : Text.Bytes}
    (hend : (load environ (.ok bytes)).2 ≠ .crashed) :
    load environ (.ok bytes) =
      (supplyAll environ (assignedBy environ bytes).1,
        (assignedBy environ bytes).2.elim .read .failed) := by
  have hlines : (applyLines environ [] (logicalLines bytes)).2 ≠ .crashed := by
    intro hcrash
    apply hend
    unfold load apply
    dsimp only
    split <;> simp_all
  unfold load apply assignedBy
  dsimp only
  rw [(Carries.start environ).applyLines hlines]
  cases (assigned environ [] (logicalLines bytes)).2 <;> rfl

theorem load_ne_crashed {environ : Environ}
    (hzero : ∀ name value, get? environ name = some value → NoZero value) {bytes : Text.Bytes}
    (hbytes : 0 ∉ bytes) : (load environ (.ok bytes)).2 ≠ .crashed := by
  have hlines : (applyLines environ [] (logicalLines bytes)).2 ≠ .crashed :=
    applyLines_ne_crashed hzero (by simp) fun line hline => noZero_of_logicalLines hbytes hline
  unfold load apply
  dsimp only
  split <;> simp_all

/-- A file without zeros is read to its first bad line, and the environment then has what each name
means by its assignments. -/
theorem load_assigned {environ : Environ}
    (hzero : ∀ name value, get? environ name = some value → NoZero value) {bytes : Text.Bytes}
    (hbytes : 0 ∉ bytes) :
    (load environ (.ok bytes)).2 = ((assignedBy environ bytes).2.elim .read .failed) ∧
      ∀ name, get? (load environ (.ok bytes)).1 name =
        meaning? environ (assignedBy environ bytes).1 name := by
  rw [load_eq_supplyAll (load_ne_crashed hzero hbytes)]
  exact ⟨rfl, get?_supplyAll environ _⟩

end Chassis.Environ
