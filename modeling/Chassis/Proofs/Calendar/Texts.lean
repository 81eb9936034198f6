-- The texts of dates. The text of a date has four digits for the year and two each for the month
-- and the day, and the date is read back from it. A date can be written in other ways too, but
-- there is nothing in any of them but digits, blanks, hyphens and plus signs.
import Chassis.Proofs.Calendar.Range
import Chassis.Proofs.Text.Numerals

namespace Chassis.Calendar.Date

open Text (padded)

/-! ## Digits -/

/-- The last digits of a number, so many of them. -/
def lastDigits : Nat → Nat → List Char
  | 0, _ => []
  | width + 1, n => lastDigits width (n / 10) ++ [Nat.digitChar (n % 10)]

theorem length_lastDigits (width n : Nat) : (lastDigits width n).length = width := by
  induction width generalizing n with
  | zero => rfl
  | succ width ih => simp [lastDigits, ih]

theorem isDigit_lastDigits {width n : Nat} : ∀ c ∈ lastDigits width n, c.isDigit = true := by
  induction width generalizing n with
  | zero => simp [lastDigits]
  | succ width ih =>
    intro c hc
    rw [lastDigits, List.mem_append, List.mem_singleton] at hc
    rcases hc with hfront | rfl
    · exact ih c hfront
    · rw [Nat.isDigit_digitChar, decide_eq_true_eq]
      omega

theorem lastDigits_zero (width : Nat) : lastDigits width 0 = List.replicate width '0' := by
  induction width with
  | zero => rfl
  | succ width ih =>
    rw [lastDigits, Nat.zero_div, ih, List.replicate_succ']
    rfl

/-- A number that has no more digits is what its last digits come to. -/
theorem ofDigitChars_lastDigits {width n : Nat} (h : n < 10 ^ width) :
    Nat.ofDigitChars 10 (lastDigits width n) 0 = n := by
  induction width generalizing n with
  | zero =>
    rw [Nat.pow_zero] at h
    have hzero : n = 0 := by omega
    rw [hzero]
    rfl
  | succ width ih =>
    have hfront : n / 10 < 10 ^ width := by
      rw [Nat.pow_succ] at h
      omega
    have hlast : n % 10 < 10 := Nat.mod_lt n (by decide)
    rw [lastDigits, Nat.ofDigitChars_append, ih hfront, Nat.ofDigitChars_cons, Nat.ofDigitChars_nil,
      Nat.toNat_digitChar_of_lt_ten hlast]
    have hzero : '0'.toNat = 48 := rfl
    omega

theorem toList_padded {width n : Nat} (hwidth : 0 < width) (h : n < 10 ^ width) :
    (padded width n).toList = lastDigits width n := by
  unfold padded
  rw [String.toList_ofList]
  induction width generalizing n with
  | zero => exact absurd hwidth (Nat.lt_irrefl 0)
  | succ width ih =>
    rw [lastDigits]
    by_cases hsmall : n < 10
    · have hfront : n / 10 = 0 := by omega
      have hlast : n % 10 = n := by omega
      rw [Nat.toDigits_of_lt_base hsmall, hfront, hlast, lastDigits_zero]
      rfl
    · have hfront : n / 10 < 10 ^ width := by
        rw [Nat.pow_succ] at h
        omega
      have hwidth : 0 < width := by
        rcases Nat.eq_zero_or_pos width with rfl | hpos
        · rw [Nat.pow_zero] at hfront
          omega
        · exact hpos
      rw [Nat.toDigits_of_base_le (by decide) (Nat.not_lt.mp hsmall), List.length_append,
        List.length_singleton, Nat.add_sub_add_right, ← List.append_assoc, ih hwidth hfront]

/-! ## The text of a date -/

theorem month_lt (date : Date) : date.month < 10 ^ 2 := by
  have hlast := date.month_range.2
  omega

theorem day_lt (date : Date) : date.day < 10 ^ 2 := by
  have hlast := date.day_range.2
  have hlength := daysIn_le date.year date.month
  omega

/-- The text of a date of the years from zero to 9999. -/
theorem toList_text {date : Date} (hfirst : 0 ≤ date.year) (hlast : date.year ≤ 9999) :
    date.text.toList = lastDigits 4 date.year.toNat ++
      '-' :: (lastDigits 2 date.month ++ '-' :: lastDigits 2 date.day) := by
  have hyear : date.year.toNat < 10 ^ 4 := by omega
  have hparts : date.text =
      padded 4 date.year.toNat ++ "-" ++ padded 2 date.month ++ "-" ++ padded 2 date.day := rfl
  rw [hparts]
  simp [toList_padded _ hyear, toList_padded _ date.month_lt, toList_padded _ date.day_lt]

/-! ## Reading -/

theorem exists_lastDigits {width : Nat} (hwidth : 0 < width) (n : Nat) :
    ∃ c digits, lastDigits width n = c :: digits ∧ c.isDigit = true := by
  have hne : lastDigits width n ≠ [] := by
    intro hnil
    have hlength := length_lastDigits width n
    rw [hnil, List.length_nil] at hlength
    omega
  obtain ⟨c, digits, hcons⟩ := List.exists_cons_of_ne_nil hne
  exact ⟨c, digits, hcons, isDigit_lastDigits c (by rw [hcons]; exact List.mem_cons_self)⟩

theorem trimStart_lastDigits {width : Nat} (hwidth : 0 < width) (n : Nat) (rest : List Char) :
    Text.trimStart (lastDigits width n ++ rest) = lastDigits width n ++ rest := by
  obtain ⟨c, digits, hcons, hc⟩ := exists_lastDigits hwidth n
  rw [hcons, List.cons_append, Text.trimStart, List.dropWhile_cons_of_neg]
  simp [Text.not_isBlank_of_isDigit hc]

/-- A number is read up to its width, whatever comes after it. -/
theorem readNumber?_lastDigits {width n : Nat} (hwidth : 0 < width) (h : n < 10 ^ width)
    (hlimit : n ≤ Text.signedLimit) (rest : List Char) :
    readNumber? (some width) (lastDigits width n ++ rest) = some (n, rest) := by
  have hall : ∀ c ∈ lastDigits width n, c.isDigit = true := isDigit_lastDigits
  have hne : lastDigits width n ≠ [] := by
    obtain ⟨c, digits, hcons, -⟩ := exists_lastDigits hwidth n
    simp [hcons]
  have hread : Text.addDigits 10 Text.signedLimit 0 (lastDigits width n) = .ok n :=
    (Text.addDigits_eq_ok (Nat.zero_le _)).mpr ⟨hall, ofDigitChars_lastDigits h, hlimit⟩
  unfold readNumber?
  simp only [List.takeWhile_append_of_pos hall, List.take_left' (length_lastDigits width n),
    List.isEmpty_iff, hne, if_false, hread, List.drop_left, Except.toOption, Option.map_some]

theorem readYear?_lastDigits {n : Nat} (h : n < 10 ^ 4) (rest : List Char) :
    readYear? (lastDigits 4 n ++ rest) = some ((n : Int), rest) := by
  have hlimit : n ≤ Text.signedLimit := by
    unfold Text.signedLimit
    omega
  have hread := readNumber?_lastDigits (by decide) h hlimit rest
  obtain ⟨c, digits, hcons, hc⟩ := exists_lastDigits (by decide : 0 < 4) n
  unfold readYear?
  split
  · rename_i hminus
    rw [hcons, List.cons_append, List.cons.injEq] at hminus
    rw [hminus.1] at hc
    exact absurd hc (by decide)
  · rename_i hplus
    rw [hcons, List.cons_append, List.cons.injEq] at hplus
    rw [hplus.1] at hc
    exact absurd hc (by decide)
  · rw [hread]
    rfl

theorem readPart?_lastDigits {n : Nat} (h : n < 10 ^ 2) (rest : List Char) :
    readPart? ('-' :: (lastDigits 2 n ++ rest)) = some (n, rest) := by
  have hlimit : n ≤ Text.signedLimit := by
    unfold Text.signedLimit
    omega
  rw [readPart?, trimStart_lastDigits (by decide), readNumber?_lastDigits (by decide) h hlimit]

theorem ofParts?_eq (date : Date) : ofParts? date.year date.month date.day = some date := by
  unfold ofParts?
  rw [dif_pos ⟨date.year_range, date.month_range, date.day_range⟩]

/-- A date of the years from zero to 9999 is read back from its text. -/
theorem read?_text {date : Date} (hfirst : 0 ≤ date.year) (hlast : date.year ≤ 9999) :
    read? date.text.toList = some date := by
  have hyear := readYear?_lastDigits (n := date.year.toNat) (by omega)
    ('-' :: (lastDigits 2 date.month ++ '-' :: lastDigits 2 date.day))
  have hmonth := readPart?_lastDigits date.month_lt ('-' :: lastDigits 2 date.day)
  have hday := readPart?_lastDigits date.day_lt []
  rw [Int.toNat_of_nonneg hfirst] at hyear
  rw [List.append_nil] at hday
  rw [toList_text hfirst hlast, read?, trimStart_lastDigits (by decide), hyear]
  simp [hmonth, hday, ofParts?_eq]

/-! ## Texts that can be read -/

/-- A number is read from digits in front of the rest. -/
theorem readNumber?_front {width : Option Nat} {s rest : List Char} {n : Nat}
    (h : readNumber? width s = some (n, rest)) :
    ∃ digits, s = digits ++ rest ∧ ∀ c ∈ digits, c.isDigit = true := by
  obtain ⟨taken, htaken, hread⟩ : ∃ taken, taken <+: s.takeWhile Char.isDigit ∧
      (if taken.isEmpty then none
        else ((Text.addDigits 10 Text.signedLimit 0 taken).toOption).map fun n =>
          (n, s.drop taken.length)) =
        some (n, rest) := by
    cases width with
    | none => exact ⟨_, List.prefix_rfl, h⟩
    | some width => exact ⟨_, List.take_prefix width _, h⟩
  split at hread
  · cases hread
  · obtain ⟨total, -, hpair⟩ := Option.map_eq_some_iff.mp hread
    cases hpair
    have hfront : taken <+: s := htaken.trans (List.takeWhile_prefix _)
    refine ⟨taken, (List.prefix_iff_eq_append.mp hfront).symm, fun c hc => ?_⟩
    exact List.all_eq_true.mp List.all_takeWhile c (htaken.subset hc)

/-- A character that the texts of dates are made of, in whatever way they are written. -/
def IsDateChar (c : Char) : Prop := c.isDigit = true ∨ Text.isBlank c = true ∨ c = '-' ∨ c = '+'

instance (c : Char) : Decidable (IsDateChar c) := inferInstanceAs (Decidable (_ ∨ _ ∨ _ ∨ _))

theorem isDateChar_readNumber? {width : Option Nat} {s rest : List Char} {n : Nat}
    (h : readNumber? width s = some (n, rest)) (hrest : ∀ c ∈ rest, IsDateChar c) :
    ∀ c ∈ s, IsDateChar c := by
  obtain ⟨digits, rfl, hdigits⟩ := readNumber?_front h
  intro c hc
  rcases List.mem_append.mp hc with hdigit | hlater
  · exact .inl (hdigits c hdigit)
  · exact hrest c hlater

theorem isDateChar_trimStart {s : List Char} (h : ∀ c ∈ Text.trimStart s, IsDateChar c) :
    ∀ c ∈ s, IsDateChar c := by
  intro c hc
  rw [← List.takeWhile_append_dropWhile (p := Text.isBlank) (l := s), List.mem_append] at hc
  rcases hc with hblank | hlater
  · exact .inr (.inl (List.all_eq_true.mp List.all_takeWhile c hblank))
  · exact h c hlater

theorem isDateChar_readYear? {s rest : List Char} {year : Int} (h : readYear? s = some (year, rest))
    (hrest : ∀ c ∈ rest, IsDateChar c) : ∀ c ∈ s, IsDateChar c := by
  have hnumber {width : Option Nat} {digits : List Char} (value : Nat → Int)
      (hyear : (readNumber? width digits).map (fun read => (value read.1, read.2)) =
        some (year, rest)) :
      ∀ c ∈ digits, IsDateChar c := by
    obtain ⟨⟨n, after⟩, hread, hpair⟩ := Option.map_eq_some_iff.mp hyear
    cases hpair
    exact isDateChar_readNumber? hread hrest
  unfold readYear? at h
  split at h
  · exact List.forall_mem_cons.mpr ⟨.inr (.inr (.inl rfl)), hnumber (fun n => -(n : Int)) h⟩
  · exact List.forall_mem_cons.mpr ⟨.inr (.inr (.inr rfl)), hnumber (fun n => (n : Int)) h⟩
  · exact hnumber (fun n => (n : Int)) h

theorem isDateChar_readPart? {s rest : List Char} {n : Nat} (h : readPart? s = some (n, rest))
    (hrest : ∀ c ∈ rest, IsDateChar c) : ∀ c ∈ s, IsDateChar c := by
  unfold readPart? at h
  split at h
  · exact List.forall_mem_cons.mpr
      ⟨.inr (.inr (.inl rfl)), isDateChar_trimStart (isDateChar_readNumber? h hrest)⟩
  · cases h

/-- Whatever is read as a date has digits, blanks, hyphens and plus signs only. -/
theorem isDateChar_of_read? {s : List Char} {date : Date} (h : read? s = some date) :
    ∀ c ∈ s, IsDateChar c := by
  unfold read? at h
  simp only [Option.bind_eq_bind, Option.bind_eq_some_iff, Prod.exists,
    Option.ite_none_right_eq_some, List.isEmpty_iff] at h
  obtain ⟨year, afterYear, hyear, month, afterMonth, hmonth, day, afterDay, hday, rfl, -⟩ := h
  have hnothing : ∀ c ∈ ([] : List Char), IsDateChar c := nofun
  exact isDateChar_trimStart
    (isDateChar_readYear? hyear (isDateChar_readPart? hmonth (isDateChar_readPart? hday hnothing)))

end Chassis.Calendar.Date
