-- Numerals: a number that is read is the one that its digits stand for, however many there are, or
-- else it is above the limit. Nothing is cut off and nothing wraps around.
import Chassis.Text.Digits
import Chassis.Proofs.Text.Lowercase

namespace Chassis.Text

/-- Decimal digits, one at least. -/
def AreDigits (s : List Char) : Prop := s ≠ [] ∧ ∀ c ∈ s, c.isDigit = true

instance (s : List Char) : Decidable (AreDigits s) :=
  @instDecidableAnd _ _ inferInstance (List.decidableBAll (Char.isDigit · = true) s)

/-- The numerals of a number: digits that come to it, with or without a plus sign. -/
inductive IsNumeral : List Char → Nat → Prop
  | bare {digits : List Char} : AreDigits digits → IsNumeral digits (Nat.ofDigitChars 10 digits 0)
  | plus {digits : List Char} : AreDigits digits →
    IsNumeral ('+' :: digits) (Nat.ofDigitChars 10 digits 0)

/-! ## Digits -/

theorem digitValue?_eq_some {c : Char} {d : Nat} :
    digitValue? 10 c = some d ↔ c.isDigit = true ∧ c.toNat - '0'.toNat = d := by
  have hletter (x : Nat) : (some (x + 10)).filter (· < 10) = none := by simp [Option.filter_some]
  unfold digitValue?
  by_cases hdigit : c.isDigit = true
  · have hnine : c.toNat ≤ 57 := (Char.isDigit_iff_toNat.mp hdigit).2
    have hten : c.toNat - 48 < 10 := by omega
    simp [hdigit, Option.filter_some, hten]
  · simp only [hdigit, if_false, false_and, iff_false, Bool.false_eq_true]
    split
    · rw [hletter]
      nofun
    · split
      · rw [hletter]
        nofun
      · nofun

theorem not_isBlank_of_isDigit {c : Char} (h : c.isDigit = true) : isBlank c = false := by
  obtain ⟨hfirst, hlast⟩ : 48 ≤ c.toNat ∧ c.toNat ≤ 57 := Char.isDigit_iff_toNat.mp h
  simp [isBlank]
  omega

theorem le_ofDigitChars (s : List Char) (total : Nat) : total ≤ Nat.ofDigitChars 10 s total := by
  induction s generalizing total with
  | nil => exact Nat.le_refl total
  | cons c rest ih =>
    rw [Nat.ofDigitChars_cons]
    have := ih (10 * total + (c.toNat - '0'.toNat))
    omega

/-- Digits are added up to the number that they come to, if that is within the limit. -/
theorem addDigits_eq_ok {limit total n : Nat} (htotal : total ≤ limit) {s : List Char} :
    addDigits 10 limit total s = .ok n ↔
      (∀ c ∈ s, c.isDigit = true) ∧ Nat.ofDigitChars 10 s total = n ∧ n ≤ limit := by
  induction s generalizing total with
  | nil =>
    rw [addDigits, Nat.ofDigitChars_nil, Except.ok.injEq]
    constructor
    · rintro rfl
      exact ⟨nofun, rfl, htotal⟩
    · exact fun h => h.2.1
  | cons c rest ih =>
    rw [addDigits, Nat.ofDigitChars_cons, List.forall_mem_cons]
    cases hdigit : digitValue? 10 c with
    | none =>
      have hnot : ¬c.isDigit = true := by
        intro h
        rw [digitValue?_eq_some.mpr ⟨h, rfl⟩] at hdigit
        cases hdigit
      simp [hnot]
    | some d =>
      obtain ⟨hc, rfl⟩ := digitValue?_eq_some.mp hdigit
      have hnext : total * 10 + (c.toNat - '0'.toNat) = 10 * total + (c.toNat - '0'.toNat) := by
        omega
      dsimp only
      rw [hnext]
      by_cases hlimit : 10 * total + (c.toNat - '0'.toNat) ≤ limit
      · rw [if_pos hlimit, ih hlimit]
        simp [hc]
      · rw [if_neg hlimit]
        constructor
        · nofun
        · rintro ⟨-, rfl, hle⟩
          exact absurd (Nat.le_trans (le_ofDigitChars rest _) hle) hlimit

/-! ## Numerals -/

theorem addDigits_eq_ok_of_ne_nil {limit n : Nat} {s : List Char} (hs : s ≠ []) :
    addDigits 10 limit 0 s = .ok n ↔ AreDigits s ∧ Nat.ofDigitChars 10 s 0 = n ∧ n ≤ limit := by
  rw [addDigits_eq_ok (Nat.zero_le limit), AreDigits]
  simp [hs]

/-- A number is read from its numerals, and from nothing else. -/
theorem readUnsigned_eq_ok {limit n : Nat} {s : List Char} :
    readUnsigned limit s = .ok n ↔ IsNumeral s n ∧ n ≤ limit := by
  constructor
  · intro h
    unfold readUnsigned at h
    split at h
    · cases h
    · cases h
    · rename_i digits hne
      have hdigits : digits ≠ [] := by
        rintro rfl
        exact hne rfl
      obtain ⟨hall, rfl, hlimit⟩ := (addDigits_eq_ok_of_ne_nil hdigits).mp h
      exact ⟨.plus hall, hlimit⟩
    · rename_i hnil _ _
      obtain ⟨hall, rfl, hlimit⟩ := (addDigits_eq_ok_of_ne_nil hnil).mp h
      exact ⟨.bare hall, hlimit⟩
  · rintro ⟨hnumeral, hlimit⟩
    cases hnumeral with
    | bare hdigits =>
      have hread := (addDigits_eq_ok_of_ne_nil hdigits.1).mpr ⟨hdigits, rfl, hlimit⟩
      unfold readUnsigned
      split
      · exact absurd rfl hdigits.1
      · exact absurd (hdigits.2 '+' List.mem_cons_self) (by decide)
      · exact absurd (hdigits.2 '+' List.mem_cons_self) (by decide)
      · exact hread
    | plus hdigits =>
      have hread := (addDigits_eq_ok_of_ne_nil hdigits.1).mpr ⟨hdigits, rfl, hlimit⟩
      unfold readUnsigned
      split
      · rename_i heq
        cases heq
      · rename_i heq
        cases heq
        exact absurd rfl hdigits.1
      · rename_i heq
        cases heq
        exact hread
      · rename_i hplus
        exact absurd rfl (hplus _)

/-- A number in decimal digits is a numeral of it. -/
theorem isNumeral_toString (n : Nat) : IsNumeral (toString n).toList n := by
  have hdigits : AreDigits (Nat.toDigits 10 n) :=
    ⟨Nat.toDigits_ne_nil, fun c => Nat.isDigit_of_mem_toDigits (by decide) (by decide)⟩
  have hself := IsNumeral.bare hdigits
  rw [Nat.ofDigitChars_ten_toDigits] at hself
  rwa [Nat.toString_eq_repr, Nat.toList_repr]

/-! ## Small letters -/

theorem toLower_of_isDigit {c : Char} (h : c.isDigit = true) : c.toLower = c := by
  have hnine : c.toNat ≤ 57 := (Char.isDigit_iff_toNat.mp h).2
  unfold Char.toLower
  rw [dif_neg]
  rintro ⟨hfirst, -⟩
  have hletter : 65 ≤ c.toNat := hfirst
  omega

/-- A numeral begins with a plus sign or a digit, and so does what it comes to in small letters. -/
theorem IsNumeral.head_lower {s : String} {n : Nat} (h : IsNumeral s.toList n) :
    ∃ c rest, (lower s).toList = c :: rest ∧ (c = '+' ∨ c.isDigit = true) := by
  have hsmall {c : Char} {rest : List Char} (hs : s.toList = c :: rest) (hascii : c.toNat < 0x80)
      (hc : c.toLower = c) : (lower s).toList = c :: lowerFrom [c] rest := by
    have hsigma : c ≠ 'Σ' := by
      rintro rfl
      exact absurd hascii (by decide)
    unfold lower
    rw [String.toList_ofList, hs, lowerFrom, if_neg hsigma, lowerChar, if_pos hascii, hc,
      List.singleton_append]
  generalize hchars : s.toList = chars at h
  cases h with
  | bare hdigits =>
    obtain ⟨c, rest, rfl⟩ := List.exists_cons_of_ne_nil hdigits.1
    have hc := hdigits.2 c List.mem_cons_self
    have hnine : c.toNat ≤ 57 := (Char.isDigit_iff_toNat.mp hc).2
    exact ⟨c, _, hsmall hchars (by omega) (toLower_of_isDigit hc), Or.inr hc⟩
  | plus => exact ⟨'+', _, hsmall hchars (by decide) (by decide), Or.inl rfl⟩

end Chassis.Text
