-- Trimming: what is trimmed has no blanks at its ends, so that trimming it again changes nothing,
-- and blanks that are put there come off again.
import Chassis.Text.Basic
import Mathlib.Data.List.DropRight

namespace Chassis.Text

theorem trimStart_trimStart (s : List Char) : trimStart (trimStart s) = trimStart s := by
  unfold trimStart
  rw [List.dropWhile_idempotent]

theorem trimEnd_trimEnd (s : List Char) : trimEnd (trimEnd s) = trimEnd s := by
  unfold trimEnd
  rw [List.reverse_reverse, List.dropWhile_idempotent]

theorem trimEnd_front (s : List Char) : trimEnd s <+: s := by
  unfold trimEnd
  rw [← List.reverse_suffix, List.reverse_reverse]
  exact List.dropWhile_suffix _

/-- A text that begins with a character that is no blank keeps it. -/
theorem trimStart_of_front {s front : List Char} (hfront : front <+: s) (hs : trimStart s = s) :
    trimStart front = front := by
  cases front with
  | nil => rfl
  | cons c rest =>
    obtain ⟨back, rfl⟩ := hfront
    have hc : ¬isBlank c = true := List.dropWhile_eq_self_iff.mp hs (Nat.succ_pos _)
    unfold trimStart
    rw [List.dropWhile_cons_of_neg hc]

theorem trim_trim (s : List Char) : trim (trim s) = trim s := by
  unfold trim
  rw [trimStart_of_front (trimEnd_front _) (trimStart_trimStart s), trimEnd_trimEnd]

theorem trimmed_trimmed (s : String) : trimmed (trimmed s) = trimmed s := by
  unfold trimmed
  rw [String.toList_ofList, trim_trim]

/-- Nothing is trimmed where there are no blanks. -/
theorem trim_of_no_blanks {s : List Char} (h : ∀ c ∈ s, isBlank c = false) : trim s = s := by
  have hkeep (t : List Char) (ht : ∀ c ∈ t, isBlank c = false) : t.dropWhile isBlank = t := by
    cases t with
    | nil => rfl
    | cons c rest => rw [List.dropWhile_cons_of_neg (by simp [ht c List.mem_cons_self])]
  unfold trim trimEnd trimStart
  rw [hkeep s h, hkeep s.reverse fun c hc => h c (List.mem_reverse.mp hc), List.reverse_reverse]

/-! ## Blanks around a text -/

/-- Characters that are all blank. -/
def AreBlanks (s : List Char) : Prop := ∀ c ∈ s, isBlank c = true

instance (s : List Char) : Decidable (AreBlanks s) := List.decidableBAll (isBlank · = true) s

theorem trimStart_eq_nil {s : List Char} : trimStart s = [] ↔ AreBlanks s :=
  List.dropWhile_eq_nil_iff

theorem trimStart_front {blanks : List Char} (h : AreBlanks blanks) (s : List Char) :
    trimStart (blanks ++ s) = trimStart s := List.dropWhile_append_of_pos h

theorem trim_front {blanks : List Char} (h : AreBlanks blanks) (s : List Char) :
    trim (blanks ++ s) = trim s := by
  unfold trim
  rw [trimStart_front h]

/-- Blanks at the end stay when the start is trimmed, unless there is nothing else. -/
theorem trimStart_back (s : List Char) {blanks : List Char} (h : AreBlanks blanks) :
    trimStart (s ++ blanks) = if trimStart s = [] then [] else trimStart s ++ blanks := by
  have hblanks : blanks.dropWhile isBlank = [] := trimStart_eq_nil.mpr h
  unfold trimStart
  rw [List.dropWhile_append, hblanks]
  simp only [List.isEmpty_iff]

theorem head?_trimStart_back (s : List Char) {blanks : List Char} (h : AreBlanks blanks) :
    (trimStart (s ++ blanks)).head? = (trimStart s).head? := by
  rw [trimStart_back s h]
  split
  · rename_i hnil
    rw [hnil]
  · rename_i hne
    rw [List.head?_append_of_ne_nil _ hne]

theorem trimEnd_back (s : List Char) {blanks : List Char} (h : AreBlanks blanks) :
    trimEnd (s ++ blanks) = trimEnd s := by
  have hreverse : ∀ c ∈ blanks.reverse, isBlank c = true := fun c hc => h c (List.mem_reverse.mp hc)
  unfold trimEnd
  rw [List.reverse_append, List.dropWhile_append_of_pos hreverse]

theorem trim_back (s : List Char) {blanks : List Char} (h : AreBlanks blanks) :
    trim (s ++ blanks) = trim s := by
  unfold trim
  rw [trimStart_back s h]
  split
  · rename_i hnil
    rw [hnil]
  · exact trimEnd_back _ h

/-- What is not blank comes after the blanks in front. -/
theorem exists_front {c : Char} {blanks s w t : List Char} (hblanks : AreBlanks blanks)
    (hc : isBlank c = false) (h : blanks ++ s = w ++ c :: t) : ∃ more, w = blanks ++ more ∧
    s = more ++ c :: t := by
  rcases List.append_eq_append_iff.mp h with hmore | ⟨extra, rfl, hextra⟩
  · exact hmore
  · cases extra with
    | nil => exact ⟨[], by simp, hextra.symm⟩
    | cons d extra =>
      rw [List.cons_append, List.cons.injEq] at hextra
      have hblank := hblanks c (by simp [hextra.1])
      rw [hc] at hblank
      cases hblank

/-- What is not blank comes before the blanks at the end. -/
theorem exists_back {c : Char} {blanks s w t : List Char} (hblanks : AreBlanks blanks)
    (hc : isBlank c = false) (h : s ++ blanks = t ++ c :: w) : ∃ more, w = more ++ blanks ∧
    s = t ++ c :: more := by
  have hnot : c ∉ blanks := by
    intro hmem
    have hblank := hblanks c hmem
    rw [hc] at hblank
    cases hblank
  rcases List.append_eq_append_iff.mp h with ⟨extra, -, hextra⟩ | ⟨extra, hs, hextra⟩
  · exact absurd (by simp [hextra]) hnot
  · cases extra with
    | nil =>
      rw [List.nil_append] at hextra
      exact absurd (hextra ▸ List.mem_cons_self) hnot
    | cons d extra =>
      rw [List.cons_append, List.cons.injEq] at hextra
      obtain ⟨rfl, rfl⟩ := hextra
      exact ⟨extra, rfl, hs⟩

end Chassis.Text
