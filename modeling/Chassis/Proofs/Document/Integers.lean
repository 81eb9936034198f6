-- JSON integers: one of 64 bits, with a sign or without, is read as it is written, digit for digit.
import Mathlib.Algebra.Group.Int.Defs
import Chassis.Proofs.Document.Objects
import Chassis.Proofs.Text.Numerals

namespace Chassis.Document.Json

open Text (AreDigits le_ofDigitChars)

/-! ## Digits -/

theorem digits_whole {total : Nat} {digits : List Char}
    (h : Nat.ofDigitChars 10 digits total ≤ maxUnsigned) :
    digits.foldl (fun (g : Gathered) c => g.whole (digit c)) ⟨total, 0, false⟩ =
      ⟨Nat.ofDigitChars 10 digits total, 0, false⟩ := by
  induction digits generalizing total with
  | nil => rfl
  | cons c rest ih =>
    rw [Nat.ofDigitChars_cons] at h ⊢
    have hfit : total * 10 + digit c ≤ maxUnsigned := by
      have := le_ofDigitChars rest (10 * total + (c.toNat - '0'.toNat))
      unfold digit
      omega
    have hnext : total * 10 + digit c = 10 * total + (c.toNat - '0'.toNat) := by
      unfold digit
      omega
    rw [List.foldl_cons, Gathered.whole, if_pos (by simpa using hfit), hnext]
    exact ih h

/-- A number without a zero in front. -/
def IsPlainNumber (digits : List Char) : Prop :=
  AreDigits digits ∧ (digits.head? = some '0' → digits = ['0'])

theorem isPlainNumber_toDigits (n : Nat) : IsPlainNumber (Nat.toDigits 10 n) := by
  refine ⟨⟨Nat.toDigits_ne_nil, fun c => Nat.isDigit_of_mem_toDigits (by decide) (by decide)⟩, ?_⟩
  induction n using Nat.strongRecOn with
  | ind n ih =>
    rw [Nat.toDigits_eq_if (by decide)]
    split
    · rename_i hsmall
      intro hhead
      rw [List.head?_cons, Option.some.injEq] at hhead
      rw [hhead]
    · rename_i hlarge
      intro hhead
      rw [List.head?_append_of_ne_nil _ Nat.toDigits_ne_nil] at hhead
      have hzero := ih (n / 10) (by omega) hhead
      have hvalue := @Nat.ofDigitChars_ten_toDigits (n / 10)
      rw [hzero] at hvalue
      have : (0 : Nat) = n / 10 := hvalue
      omega

section

variable {digits : List Char} (h : IsPlainNumber digits) {next : Char}
    (hnext : next.isDigit = false)
include h hnext

theorem readWhole_digits (hfit : Nat.ofDigitChars 10 digits 0 ≤ maxUnsigned) (rest : List Char) :
    readWhole (digits ++ next :: rest) =
    .ok (⟨Nat.ofDigitChars 10 digits 0, 0, false⟩, next :: rest) := by
  obtain ⟨⟨hne, hall⟩, hzero⟩ := h
  obtain ⟨c, more, rfl⟩ := List.exists_cons_of_ne_nil hne
  have htake : (c :: more ++ next :: rest).takeWhile Char.isDigit = c :: more := by
    rw [List.takeWhile_append_of_pos hall, List.takeWhile_cons_of_neg (by simp [hnext]),
      List.append_nil]
  have hdrop : (c :: more ++ next :: rest).dropWhile Char.isDigit = next :: rest := by
    rw [List.dropWhile_append_of_pos hall, List.dropWhile_cons_of_neg (by simp [hnext])]
  unfold readWhole
  split
  · rename_i heq
    cases heq
  · rename_i d after heq
    have hc : c = '0' := (List.cons.inj heq).1
    have hmore : more = [] := (List.cons.inj (hzero (by rw [hc]; rfl))).2
    subst hc hmore
    obtain ⟨rfl, rfl⟩ := List.cons.inj (List.cons.inj heq).2
    rw [hnext]
    rfl
  · rename_i heq
    have hempty : more ++ next :: rest = [] := (List.cons.inj heq).2
    simp at hempty
  · rename_i hnot heq
    obtain ⟨rfl, rfl⟩ := List.cons.inj heq
    rw [if_pos (hall c List.mem_cons_self), htake, hdrop, digits_whole hfit]

variable (hpoint : next ∉ ['.', 'e', 'E'])
include hpoint

/-- A number that ends here is a whole one. -/
theorem readNumber_digits (hfit : Nat.ofDigitChars 10 digits 0 ≤ maxUnsigned) (negative : Bool)
    (rest : List Char) :
    readNumber ((if negative then ['-'] else []) ++ digits ++ next :: rest) =
      .ok (wholeNumber negative (Nat.ofDigitChars 10 digits 0), next :: rest) := by
  have hwhole := readWhole_digits h hnext hfit rest
  simp only [List.mem_cons, List.not_mem_nil, or_false, not_or] at hpoint
  obtain ⟨hdot, hsmall, hcapital⟩ := hpoint
  unfold readNumber
  split
  rename_i minus after hsign
  obtain ⟨rfl, rfl⟩ : minus = negative ∧ after = digits ++ next :: rest := by
    cases negative with
    | true =>
      cases hsign
      exact ⟨rfl, rfl⟩
    | false =>
      split at hsign
      · rename_i tail heq
        obtain ⟨c, more, rfl⟩ := List.exists_cons_of_ne_nil h.1.1
        have hc : c = '-' := (List.cons.inj heq).1
        have hdigit := h.1.2 c List.mem_cons_self
        rw [hc] at hdigit
        cases hdigit
      · cases hsign
        exact ⟨rfl, rfl⟩
  rw [hwhole]
  simp only [bind, Except.bind]
  split
  · rename_i heq
    exact absurd (List.cons.inj heq).1 hdot
  · rename_i heq
    exact absurd (List.cons.inj heq).1 hsmall
  · rename_i heq
    exact absurd (List.cons.inj heq).1 hcapital
  · rfl

end

/-- The scalar that an integer of 64 bits is read as. -/
def scalarOf (i : Int) : Scalar := if i ≤ Text.signedLimit then .integer i else .unsigned i.toNat

/-- An integer of 64 bits, with a sign or without. -/
def IsLong (i : Int) : Prop := -(2 ^ 63) ≤ i ∧ i < 2 ^ 64

theorem toList_toString (i : Int) :
    (toString i).toList = (if decide (i < 0) then ['-'] else []) ++ Nat.toDigits 10 i.natAbs := by
  rw [Int.toString_eq_repr, Int.repr_eq_if]
  by_cases hnegative : i < 0
  · have habs : (-i).toNat = i.natAbs := by omega
    rw [if_neg (by omega), String.toList_append, Nat.toList_repr, habs, decide_eq_true hnegative]
    rfl
  · have habs : i.toNat = i.natAbs := by omega
    rw [if_pos (by omega), Nat.toList_repr, habs, decide_eq_false hnegative]
    rfl

theorem wholeNumber_natAbs {i : Int} (h : IsLong i) :
    wholeNumber (decide (i < 0)) i.natAbs = scalarOf i := by
  obtain ⟨hleast, hmost⟩ := h
  unfold wholeNumber scalarOf Text.signedLimit
  by_cases hnegative : i < 0
  · have hself : -(i.natAbs : Int) = i := by omega
    rw [if_pos (decide_eq_true hnegative), if_pos (by simp; omega), if_pos (by omega), hself]
  · have hself : (i.natAbs : Int) = i := by omega
    have habs : i.natAbs = i.toNat := by omega
    rw [if_neg (by simpa using hnegative), hself]
    by_cases hsigned : i ≤ 0x7fffffffffffffff
    · rw [if_pos (by omega), if_pos (by omega)]
    · rw [if_neg (by omega), if_neg (by omega), habs]

theorem readNumber_integer {i : Int} (h : IsLong i) {next : Char}
    (hnext : next = ',' ∨ next = '\x7d') (rest : List Char) :
    readNumber ((toString i).toList ++ next :: rest) = .ok (scalarOf i, next :: rest) := by
  have hdigit : next.isDigit = false := by rcases hnext with rfl | rfl <;> decide
  have hpoint : next ∉ ['.', 'e', 'E'] := by rcases hnext with rfl | rfl <;> decide
  have hfit : Nat.ofDigitChars 10 (Nat.toDigits 10 i.natAbs) 0 ≤ maxUnsigned := by
    obtain ⟨hleast, hmost⟩ := h
    rw [Nat.ofDigitChars_ten_toDigits]
    unfold maxUnsigned Text.unsignedLimit
    omega
  have hread := readNumber_digits (isPlainNumber_toDigits i.natAbs) hdigit hpoint hfit
    (decide (i < 0)) rest
  rwa [Nat.ofDigitChars_ten_toDigits, wholeNumber_natAbs h, ← toList_toString] at hread

theorem readValue_number {c : Char} (hc : c = '-' ∨ c.isDigit = true) {s rest : List Char}
    {x : Scalar} (h : readNumber (c :: s) = .ok (x, rest)) (depth : Nat) :
    readValue depth (c :: s) = .ok (.plain x, rest) := by
  have hother {d : Char} (hd : d ≠ '-') (hd' : d.isDigit = false) : c ≠ d := by
    rintro rfl
    rcases hc with hminus | hdigit
    · exact hd hminus
    · rw [hdigit] at hd'
      cases hd'
  have hspace : isSpace c = false := by
    have h1 := hother (d := ' ') (by decide) (by decide)
    have h2 := hother (d := '\t') (by decide) (by decide)
    have h3 := hother (d := '\n') (by decide) (by decide)
    have h4 := hother (d := '\r') (by decide) (by decide)
    simp [isSpace, h1, h2, h3, h4]
  rw [readValue, skip_of_not hspace]
  split
  · rename_i heq
    cases heq
  · rename_i heq
    exact absurd (List.cons.inj heq).1 (hother (by decide) (by decide))
  · rename_i heq
    exact absurd (List.cons.inj heq).1 (hother (by decide) (by decide))
  · rename_i heq
    exact absurd (List.cons.inj heq).1 (hother (by decide) (by decide))
  · rename_i heq
    exact absurd (List.cons.inj heq).1 (hother (by decide) (by decide))
  · rename_i heq
    exact absurd (List.cons.inj heq).1 (hother (by decide) (by decide))
  · rename_i heq
    exact absurd (List.cons.inj heq).1 (hother (by decide) (by decide))
  · rename_i heq
    obtain ⟨rfl, rfl⟩ := List.cons.inj heq
    rw [if_pos (by simpa using hc)]
    exact ok_of_bind.mpr ⟨_, h, rfl⟩

theorem exists_head (i : Int) : ∃ c rest, (toString i).toList = c :: rest ∧
    (c = '-' ∨ c.isDigit = true) := by
  rw [toList_toString]
  split
  · exact ⟨'-', _, rfl, Or.inl rfl⟩
  · obtain ⟨⟨hne, hall⟩, -⟩ := isPlainNumber_toDigits i.natAbs
    obtain ⟨c, rest, hdigits⟩ := List.exists_cons_of_ne_nil hne
    exact ⟨c, rest, hdigits, Or.inr (hall c (by rw [hdigits]; exact List.mem_cons_self))⟩

/-- An integer that is written is a value. -/
theorem reads_integer {i : Int} (h : IsLong i) (depth : Nat) :
    Reads depth (toString i).toList (.plain (scalarOf i)) := by
  intro next rest hnext
  have hread := readNumber_integer h hnext rest
  obtain ⟨c, more, htext, hc⟩ := exists_head i
  rw [htext] at hread ⊢
  exact readValue_number hc hread depth

end Chassis.Document.Json
