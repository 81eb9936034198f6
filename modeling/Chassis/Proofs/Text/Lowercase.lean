-- Small letters and ASCII. An ASCII text comes to small letters one letter at a time; and no text
-- with other characters comes to an ASCII text, unless there is a k in it, to which the sign of the
-- kelvin comes too.
import Chassis.Proofs.Text.Utf8
import Chassis.Text.Basic
import Chassis.Text.Lowercase

namespace Chassis.Text

/-- Characters of ASCII. -/
def AreAscii (s : List Char) : Prop := ∀ c ∈ s, c.toNat < 0x80

instance (s : List Char) : Decidable (AreAscii s) := List.decidableBAll (Char.toNat · < 0x80) s

/-- The same but for the case of ASCII letters. -/
def IsCaseOf (s t : String) : Prop := s.toList.map Char.toLower = t.toList.map Char.toLower

instance (s t : String) : Decidable (IsCaseOf s t) :=
  inferInstanceAs (Decidable (s.toList.map Char.toLower = t.toList.map Char.toLower))

/-! ## The case of ASCII letters -/

theorem toLower_of_not_ascii {c : Char} (h : 0x80 ≤ c.toNat) : c.toLower = c := by
  unfold Char.toLower
  rw [dif_neg]
  rintro ⟨-, hlast⟩
  have hcode : c.toNat ≤ 0x5a := hlast
  omega

theorem toLower_of_ascii {c : Char} (h : c.toNat < 0x80) : c.toLower.toNat < 0x80 := by
  unfold Char.toLower
  split
  · rename_i hletter
    have hfirst : 0x41 ≤ c.toNat := hletter.1
    have hlast : c.toNat ≤ 0x5a := hletter.2
    have hsum : (c.val + ('a'.val - 'A'.val)).toNat = (c.toNat + 0x20) % 2 ^ 32 :=
      UInt32.toNat_add _ _
    change (c.val + ('a'.val - 'A'.val)).toNat < 0x80
    omega
  · exact h

theorem isAscii_toLower {c : Char} : c.toLower.toNat < 0x80 ↔ c.toNat < 0x80 := by
  constructor
  · refine fun h => Nat.lt_of_not_le fun hbeyond => ?_
    rw [toLower_of_not_ascii hbeyond] at h
    exact Nat.not_lt.mpr hbeyond h
  · exact toLower_of_ascii

theorem areAscii_map_toLower {s : List Char} : AreAscii (s.map Char.toLower) ↔ AreAscii s := by
  unfold AreAscii
  simp only [List.forall_mem_map, isAscii_toLower]

/-- No letter is blank, in either case. -/
theorem isBlank_toLower (c : Char) : isBlank c.toLower = isBlank c := by
  by_cases hascii : c.toNat < 0x80
  · have hall : ∀ n < 0x80, isBlank (Char.ofNat n).toLower = isBlank (Char.ofNat n) := by decide
    rw [← Char.ofNat_toNat c]
    exact hall c.toNat hascii
  · rw [toLower_of_not_ascii (Nat.not_lt.mp hascii)]

/-! ## Small letters -/

/-- Capital letters beyond ASCII have small letters beyond ASCII, but for the sign of the kelvin. -/
theorem lowerRuns_beyond : ∀ run ∈ lowerRuns,
    (run.first = 0x212a ∧ run.last = 0x212a ∨ 0x80 ≤ run.first + run.shift) ∧
      (run.last + run.shift < 0xd800 ∨ 0xdfff < run.first + run.shift ∧
        run.last + run.shift < 0x110000) := by
  decide +kernel

theorem lowerChar_of_not_ascii {c : Char} (h : 0x80 ≤ c.toNat) :
    c = '\u212a' ∨ ∃ d ∈ lowerChar c, 0x80 ≤ d.toNat := by
  unfold lowerChar
  rw [if_neg (Nat.not_lt.mpr h)]
  split
  · exact Or.inr ⟨'\u0307', by simp, by decide⟩
  · split
    · rename_i run hfind
      obtain ⟨hbeyond, hvalid⟩ := lowerRuns_beyond run (List.mem_of_find?_eq_some hfind)
      have hcovers := List.find?_some hfind
      simp only [CaseRun.covers, Bool.and_eq_true, decide_eq_true_eq] at hcovers
      obtain ⟨⟨hfirst, hlast⟩, -⟩ := hcovers
      rcases hbeyond with hkelvin | hlow
      · have hcode : c.toNat = 0x212a := by omega
        exact Or.inl (Char.toNat_inj.mp hcode)
      · refine Or.inr ⟨Char.ofNat (run.lower c.toNat), List.mem_singleton_self _, ?_⟩
        unfold CaseRun.lower
        rw [toNat_ofNat (by omega)]
        omega
    · exact Or.inr ⟨c, List.mem_singleton_self c, h⟩

theorem lowerFrom_of_ascii {s : List Char} (h : AreAscii s) (before : List Char) :
    lowerFrom before s = s.map Char.toLower := by
  induction s generalizing before with
  | nil => rfl
  | cons c rest ih =>
    obtain ⟨hc, hrest⟩ := List.forall_mem_cons.mp h
    have hsigma : c ≠ 'Σ' := by
      rintro rfl
      exact absurd hc (by decide)
    rw [lowerFrom, if_neg hsigma, lowerChar, if_pos hc, ih hrest, List.map_cons,
      List.singleton_append]

/-- What comes to ASCII without a k is ASCII. -/
theorem ascii_of_lowerFrom {before s : List Char} (h : AreAscii (lowerFrom before s))
    (hk : 'k' ∉ lowerFrom before s) :
    AreAscii s := by
  induction s generalizing before with
  | nil => exact fun c hc => by cases hc
  | cons c rest ih =>
    rw [lowerFrom] at h hk
    obtain ⟨hhead, htail⟩ := List.forall_mem_append.mp h
    rw [List.mem_append, not_or] at hk
    refine List.forall_mem_cons.mpr ⟨Nat.lt_of_not_le fun hbeyond => ?_, ih htail hk.2⟩
    split at hhead
    · unfold lowerSigma at hhead
      split at hhead
      · exact absurd (hhead 'ς' (List.mem_singleton_self _)) (by decide)
      · exact absurd (hhead 'σ' (List.mem_singleton_self _)) (by decide)
    · rename_i hsigma
      rw [if_neg hsigma] at hk
      rcases lowerChar_of_not_ascii hbeyond with rfl | ⟨d, hd, hhigh⟩
      · exact hk.1 (by decide +kernel)
      · exact absurd (hhead d hd) (Nat.not_lt.mpr hhigh)

theorem lower_of_ascii {s : String} (h : AreAscii s.toList) :
    lower s = String.ofList (s.toList.map Char.toLower) := by
  unfold lower
  rw [lowerFrom_of_ascii h]

/-- A text comes to an ASCII word without a k just when it is that word, the case of letters
aside. -/
theorem lower_eq_iff {s word : String} (hword : AreAscii word.toList) (hk : 'k' ∉ word.toList)
    (hsmall : word.toList.map Char.toLower = word.toList) : lower s = word ↔ IsCaseOf s word := by
  unfold IsCaseOf
  rw [hsmall]
  constructor
  · intro h
    have hlower : lowerFrom [] s.toList = word.toList := by
      rw [← h, lower, String.toList_ofList]
    rw [← lowerFrom_of_ascii (ascii_of_lowerFrom (hlower ▸ hword) (hlower ▸ hk)) [], hlower]
  · intro h
    have hascii : AreAscii s.toList := areAscii_map_toLower.mp (h ▸ hword)
    rw [lower_of_ascii hascii, h, String.ofList_toList]

end Chassis.Text
