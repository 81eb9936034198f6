-- An environment only grows: what is set in it stays as it is, whatever environment files are
-- loaded and however their loading ends.
import Mathlib.Data.List.Nodup
import Chassis.Environ.Apply

namespace Chassis.Environ

open Text (Native)

/-! ## Setting variables -/

theorem value?_put (environ : Environ) (name other : String) (value : Native) :
    value? (put environ (.text name) value) other = if name = other then some value
    else value? environ other := by
  unfold value? put
  rw [List.find?_append]
  by_cases h : name = other
  · subst h
    have hnone : (environ.filter (·.1 ≠ .text name)).find? (·.1 == .text name) = none := by
      rw [List.find?_eq_none]
      intro entry hentry
      simpa using (List.mem_filter.mp hentry).2
    rw [hnone, if_pos rfl]
    simp
  · have hsame : (environ.filter (·.1 ≠ .text name)).find? (·.1 == .text other) =
        environ.find? (·.1 == .text other) := by
      rw [List.find?_filter]
      congr 1
      funext entry
      by_cases heq : entry.1 = .text other
      · simp [heq, Ne.symm h]
      · simp [heq]
    rw [hsame, if_neg h]
    simp [h]

/-- A variable is supplied where there is none. -/
theorem get?_supply (environ : Environ) (name value other : String) :
    get? (supply environ name value) other =
    (get? environ other).or (if name = other then some value else none) := by
  unfold supply
  split
  · rename_i hset
    by_cases h : name = other
    · subst h
      obtain ⟨old, hold⟩ := Option.isSome_iff_exists.mp hset
      rw [hold, Option.some_or]
    · rw [if_neg h, Option.or_none]
  · rename_i hunset
    rw [get?, value?_put]
    by_cases h : name = other
    · subst h
      rw [Option.not_isSome_iff_eq_none.mp hunset, if_pos rfl, if_pos rfl]
      rfl
    · rw [if_neg h, if_neg h, Option.or_none]
      rfl

/-! ## Growing environments -/

/-- Each variable that is a text is the same text later. -/
def Extends (environ later : Environ) : Prop :=
  ∀ name value, get? environ name = some value → get? later name = some value

theorem Extends.refl (environ : Environ) : Extends environ environ := fun _ _ h => h

theorem Extends.trans {environ later last : Environ} (h : Extends environ later)
    (h' : Extends later last) :
    Extends environ last := fun name value hvalue => h' name value (h name value hvalue)

theorem extends_supply (environ : Environ) (name value : String) :
    Extends environ (supply environ name value) := by
  intro other old hold
  rw [get?_supply, hold, Option.some_or]

/-- The names of an environment without repetitions. -/
def IsDistinct (environ : Environ) : Prop := (environ.map (·.1)).Nodup

theorem IsDistinct.put {environ : Environ} (h : IsDistinct environ) (name value : Native) :
    IsDistinct (put environ name value) := by
  unfold IsDistinct Environ.put
  rw [List.map_append, List.nodup_append]
  refine ⟨h.sublist (List.filter_sublist.map _), List.nodup_singleton _,
    fun other hother new hnew heq => ?_⟩
  obtain ⟨entry, hentry, rfl⟩ := List.mem_map.mp hother
  have hne : entry.1 ≠ name := by simpa using (List.mem_filter.mp hentry).2
  exact hne (heq.trans (List.mem_singleton.mp hnew))

theorem IsDistinct.supply {environ : Environ} (h : IsDistinct environ) (name value : String) :
    IsDistinct (supply environ name value) := by
  unfold Environ.supply
  split
  · exact h
  · exact h.put _ _

/-! ## Loading -/

/-- What the lines of a file do to an environment: they supply one variable after another. -/
theorem applyLines_induction {motive : Environ → Prop} (environ : Environ) (given : Given)
    (lines : List (Except Fault String)) (hstart : motive environ)
    (hsupply : ∀ environ name value, motive environ → motive (supply environ name value)) :
    motive (applyLines environ given lines).1 := by
  induction lines generalizing environ given with
  | nil => exact hstart
  | cons line rest ih =>
    rcases line with fault | line
    · exact hstart
    · rw [applyLines]
      split
      · exact hstart
      · exact ih environ given hstart
      · dsimp only
        split
        · exact hstart
        · exact ih _ _ (hsupply environ _ _ hstart)

/-- The environment that is left when a file was loaded, wholly or in part. -/
theorem load_induction {motive : Environ → Prop} (environ : Environ)
    (contents : Except Files.Fault Text.Bytes) (hstart : motive environ)
    (hsupply : ∀ environ name value, motive environ → motive (supply environ name value)) :
    motive (load environ contents).1 := by
  rcases contents with fault | bytes
  · cases fault <;> exact hstart
  · have happly : motive (apply environ bytes).1 := applyLines_induction environ [] _ hstart hsupply
    unfold load
    dsimp only
    split <;> rename_i hresult <;> rw [hresult] at happly <;> exact happly

/-- Loading a file changes no variable that is set. -/
theorem extends_load (environ : Environ) (contents : Except Files.Fault Text.Bytes) :
    Extends environ (load environ contents).1 :=
  load_induction environ contents (Extends.refl environ) fun later name value h =>
    h.trans (extends_supply later name value)

theorem IsDistinct.load {environ : Environ} (h : IsDistinct environ)
    (contents : Except Files.Fault Text.Bytes) :
    IsDistinct (load environ contents).1 :=
  load_induction environ contents h fun _ name value hdistinct => hdistinct.supply name value

/-! ## Texts -/

/-- An environment of texts as texts: the same variables, in the same order. -/
theorem eq_of_texts? {environ : Environ} {vars : List (String × String)}
    (h : texts? environ = some vars) :
    environ = vars.map fun (name, value) => (.text name, .text value) := by
  induction environ generalizing vars with
  | nil =>
    cases h
    rfl
  | cons entry rest ih =>
    obtain ⟨name, value⟩ := entry
    rw [texts?, List.mapM_cons] at h
    simp only [Option.bind_eq_bind, Option.bind_eq_some_iff, Option.pure_def, Option.some.injEq]
      at h
    obtain ⟨first, ⟨name', hname, value', hvalue, rfl⟩, others, hothers, rfl⟩ := h
    have hrest := ih hothers
    cases name with
    | raw bytes => cases hname
    | text name =>
      cases value with
      | raw bytes => cases hvalue
      | text value =>
        cases hname
        cases hvalue
        rw [hrest]
        rfl

theorem mem_of_get? {environ : Environ} {name value : String} (h : get? environ name = some value) :
    (Native.text name, Native.text value) ∈ environ := by
  unfold get? value? at h
  obtain ⟨native, hnative, htext⟩ := Option.bind_eq_some_iff.mp h
  obtain ⟨entry, hfind, rfl⟩ := Option.map_eq_some_iff.mp hnative
  have hname : entry.1 = .text name := by simpa using List.find?_some hfind
  have hvalue : entry.2 = .text value := by
    cases hentry : entry.2 with
    | raw bytes =>
      rw [hentry] at htext
      cases htext
    | text content =>
      rw [hentry] at htext
      cases htext
      rfl
  rw [← hname, ← hvalue]
  exact List.mem_of_find?_eq_some hfind

section

variable {environ : Environ} {vars : List (String × String)} (h : texts? environ = some vars)
include h

theorem mem_texts {name value : String} (hvalue : get? environ name = some value) :
    (name, value) ∈ vars := by
  have hmem := mem_of_get? hvalue
  rw [eq_of_texts? h] at hmem
  obtain ⟨⟨name', value'⟩, hentry, heq⟩ := List.mem_map.mp hmem
  cases heq
  exact hentry

theorem nodup_texts (hdistinct : IsDistinct environ) : (vars.map (·.1)).Nodup := by
  have hnames : environ.map (·.1) = (vars.map (·.1)).map Native.text := by
    rw [eq_of_texts? h, List.map_map, List.map_map]
    rfl
  unfold IsDistinct at hdistinct
  rw [hnames] at hdistinct
  exact hdistinct.of_map _

/-- The value of a variable is that of the first text of its name. -/
theorem get?_of_texts? (name : String) :
    get? environ name = (vars.find? (·.1 == name)).map (·.2) := by
  rw [eq_of_texts? h, get?, value?, List.find?_map, Option.map_map]
  have hsame : ((fun entry : Native × Native => entry.1 == .text name) ∘
      fun entry : String × String => (Native.text entry.1, Native.text entry.2)) = fun entry =>
          entry.1 == name := by
    funext entry
    by_cases hname : entry.1 = name
    · simp [hname]
    · simp [hname]
  rw [hsame]
  cases vars.find? (·.1 == name) <;> rfl

end

/-- All names and values are texts. -/
def IsText (environ : Environ) : Prop :=
  ∀ entry ∈ environ, ∃ name value, entry = (Native.text name, Native.text value)

theorem IsText.texts? {environ : Environ} (h : IsText environ) :
    ∃ vars, texts? environ = some vars := by
  induction environ with
  | nil => exact ⟨[], rfl⟩
  | cons entry rest ih =>
    obtain ⟨name, value, rfl⟩ := h entry List.mem_cons_self
    obtain ⟨vars, hvars⟩ := ih fun other hother => h other (List.mem_cons_of_mem _ hother)
    refine ⟨(name, value) :: vars, ?_⟩
    unfold Environ.texts? at hvars ⊢
    rw [List.mapM_cons, hvars]
    rfl

theorem IsText.supply {environ : Environ} (h : IsText environ) (name value : String) :
    IsText (supply environ name value) := by
  unfold Environ.supply put
  split
  · exact h
  · intro entry hentry
    rcases List.mem_append.mp hentry with hold | hnew
    · exact h entry (List.mem_filter.mp hold).1
    · exact ⟨name, value, List.mem_singleton.mp hnew⟩

theorem IsText.load {environ : Environ} (h : IsText environ)
    (contents : Except Files.Fault Text.Bytes) :
    IsText (load environ contents).1 :=
  load_induction environ contents h fun _ name value htext => htext.supply name value

end Chassis.Environ
