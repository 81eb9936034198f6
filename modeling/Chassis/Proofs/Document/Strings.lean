-- JSON lists of strings: a grammar of how they may be written. Reading takes just what the grammar
-- allows, and writing keeps to it, so that what is written reads back.
import Mathlib.Data.List.DropRight
import Mathlib.Data.List.TakeWhile
import Chassis.Document.Json
import Chassis.Proofs.Bind
import Chassis.Proofs.Text.Utf8

namespace Chassis.Document.Json

/-! ## The grammar -/

/-- The letters of the short escapes, each with what it stands for. -/
def escapes : List (Char × Char) :=
  [('"', '"'), ('\\', '\\'), ('/', '/'), ('b', '\x08'), ('f', '\x0c'), ('n', '\n'), ('r', '\r'),
    ('t', '\t')]

/-- A character as it may be written between quotes: as it is, by a short escape, by its code, or by
the codes of two surrogates. -/
inductive IsCharacter : List Char → Char → Prop
  | plain {c : Char} : 0x20 ≤ c.toNat → c ≠ '"' → c ≠ '\\' → IsCharacter [c] c
  | short {letter c : Char} : (letter, c) ∈ escapes → IsCharacter ['\\', letter] c
  | code {w x y z c : Char} : hex4? w x y z = some c.toNat → IsCharacter ['\\', 'u', w, x, y, z] c
  | pair {w x y z w' x' y' z' c : Char} {high low : Nat} :
      hex4? w x y z = some high → 0xd800 ≤ high → high ≤ 0xdbff →
      hex4? w' x' y' z' = some low → 0xdc00 ≤ low → low ≤ 0xdfff →
      c.toNat = 0x10000 + (high - 0xd800) * 0x400 + (low - 0xdc00) →
      IsCharacter ['\\', 'u', w, x, y, z, '\\', 'u', w', x', y', z'] c

/-- Characters as they may be written one after another. -/
inductive AreCharacters : List Char → List Char → Prop
  | nil : AreCharacters [] []
  | cons {text more cs : List Char} {c : Char} :
      IsCharacter text c → AreCharacters more cs → AreCharacters (text ++ more) (c :: cs)

/-- A string between its quotes. -/
inductive IsString : List Char → String → Prop
  | quotes {text : List Char} {x : String} : AreCharacters text x.toList →
    IsString ('"' :: text ++ ['"']) x

/-- White space that JSON allows. -/
def AreSpaces (s : List Char) : Prop := ∀ c ∈ s, isSpace c = true

instance (s : List Char) : Decidable (AreSpaces s) := List.decidableBAll (isSpace · = true) s

/-- What may stand between an item and the closing bracket. -/
inductive AreMore : List Char → List String → Prop
  | none {w : List Char} : AreSpaces w → AreMore w []
  | next {w w' text rest : List Char} {x : String} {xs : List String} :
      AreSpaces w → AreSpaces w' → IsString text x → AreMore rest xs →
      AreMore (w ++ ',' :: (w' ++ (text ++ rest))) (x :: xs)

/-- What may stand between the brackets. -/
inductive AreItems : List Char → List String → Prop
  | none {w : List Char} : AreSpaces w → AreItems w []
  | some {w text rest : List Char} {x : String} {xs : List String} :
      AreSpaces w → IsString text x → AreMore rest xs → AreItems (w ++ (text ++ rest)) (x :: xs)

/-- A list of strings between its brackets. -/
inductive IsList : List Char → List String → Prop
  | brackets {inner : List Char} {xs : List String} : AreItems inner xs →
    IsList ('[' :: inner ++ [']']) xs

/-- A text that is a list of strings, with white space around it. -/
def IsListText (s : String) (xs : List String) : Prop :=
  ∃ w text w', AreSpaces w ∧ AreSpaces w' ∧ IsList text xs ∧ s.toList = w ++ (text ++ w')

/-! ## White space -/

theorem skip_spaces {w : List Char} (h : AreSpaces w) (s : List Char) : skip (w ++ s) = skip s :=
  List.dropWhile_append_of_pos h

theorem skip_of_not {c : Char} (h : isSpace c = false) (s : List Char) :
    skip (c :: s) = c :: s := by
  unfold skip
  rw [List.dropWhile_cons_of_neg (by simp [h])]

/-- Before what is not skipped there are spaces alone. -/
theorem exists_skipped (s : List Char) : ∃ w, AreSpaces w ∧ s = w ++ skip s :=
  ⟨s.takeWhile isSpace, fun _ h => List.mem_takeWhile_imp h, List.takeWhile_append_dropWhile.symm⟩

theorem skip_skip (s : List Char) : skip (skip s) = skip s := by
  unfold skip
  rw [List.dropWhile_idempotent]

theorem skip_eq_nil {s : List Char} : skip s = [] ↔ AreSpaces s := List.dropWhile_eq_nil_iff

/-! ## Characters -/

theorem hexValue?_lt {c : Char} {n : Nat} (h : hexValue? c = some n) : n < 16 := by
  unfold hexValue? Text.digitValue? at h
  simpa using (Option.filter_eq_some_iff.mp h).2

theorem hex4?_lt {w x y z : Char} {n : Nat} (h : hex4? w x y z = some n) : n < 0x10000 := by
  unfold hex4? at h
  simp only [Option.bind_eq_bind, Option.bind_eq_some_iff, Option.pure_def, Option.some.injEq] at h
  obtain ⟨a, ha, b, hb, c, hc, d, hd, rfl⟩ := h
  have := hexValue?_lt ha
  have := hexValue?_lt hb
  have := hexValue?_lt hc
  have := hexValue?_lt hd
  omega

theorem four_le_byteLength (w x y z : Char) : 4 ≤ Text.byteLength [w, x, y, z] := by
  have := w.utf8Size_pos
  have := x.utf8Size_pos
  have := y.utf8Size_pos
  have := z.utf8Size_pos
  simp only [Text.byteLength, List.foldl_cons, List.foldl_nil]
  omega

/-- A code is read where four digits stand. -/
theorem readHex4_eq_ok {s rest : List Char} {n : Nat} :
    readHex4 s = .ok (n, rest) ↔ ∃ w x y z, s = w :: x :: y :: z :: rest ∧
    hex4? w x y z = some n := by
  unfold readHex4
  constructor
  · intro h
    split at h
    · cases h
    · split at h
      · rename_i w x y z more _
        split at h
        · rename_i hcode
          cases h
          exact ⟨w, x, y, z, rfl, hcode⟩
        · cases h
      · cases h
  · rintro ⟨w, x, y, z, rfl, hcode⟩
    have hlong := four_le_byteLength w x y z
    rw [if_neg (by simpa using hlong)]
    simp only [hcode]

theorem shortEscape?_eq_some {letter c : Char} : shortEscape? letter = some c ↔
    (letter, c) ∈ escapes := by
  unfold shortEscape? escapes
  constructor
  · intro h
    split at h <;> cases h <;> simp
  · intro h
    simp only [List.mem_cons, Prod.mk.injEq, List.not_mem_nil, or_false] at h
    rcases h with ⟨rfl, rfl⟩ | ⟨rfl, rfl⟩ | ⟨rfl, rfl⟩ | ⟨rfl, rfl⟩ | ⟨rfl, rfl⟩ | ⟨rfl, rfl⟩ |
      ⟨rfl, rfl⟩ | ⟨rfl, rfl⟩ <;>
      rfl

/-- Two surrogates make a character. -/
theorem toNat_pairChar {high low : Nat} (hhigh : 0xd800 ≤ high ∧ high ≤ 0xdbff)
    (hlow : 0xdc00 ≤ low ∧ low ≤ 0xdfff) :
    (pairChar high low).toNat = 0x10000 + (high - 0xd800) * 0x400 + (low - 0xdc00) := by
  unfold pairChar
  rw [Text.toNat_ofNat (by omega)]

theorem isCharacter_of_code {s rest : List Char} {c : Char} (h : readUnicode s = .ok (c, rest)) :
    ∃ text, IsCharacter ('\\' :: 'u' :: text) c ∧ s = text ++ rest := by
  unfold readUnicode at h
  obtain ⟨⟨high, after⟩, hfirst, hrest⟩ := ok_of_bind.mp h
  obtain ⟨w, x, y, z, rfl, hhex⟩ := readHex4_eq_ok.mp hfirst
  have hlt := hex4?_lt hhex
  dsimp only at hrest
  split at hrest
  · cases hrest
  · rename_i hnotLow
    split at hrest
    · rename_i hnotHigh
      cases hrest
      simp only [Bool.and_eq_true, decide_eq_true_eq, Bool.or_eq_true, not_and] at hnotLow hnotHigh
      have hcode : (Char.ofNat high).toNat = high := Text.toNat_ofNat (by omega)
      exact ⟨[w, x, y, z], .code (hhex.trans (congrArg some hcode.symm)), rfl⟩
    · rename_i hhigh
      simp only [Bool.or_eq_true, decide_eq_true_eq, not_or, Nat.not_lt] at hhigh
      split at hrest
      · obtain ⟨⟨low, last⟩, hsecond, hpair⟩ := ok_of_bind.mp hrest
        obtain ⟨w', x', y', z', rfl, hhex'⟩ := readHex4_eq_ok.mp hsecond
        dsimp only at hpair
        split at hpair
        · rename_i hlow
          obtain ⟨rfl, rfl⟩ := Prod.mk.inj (Except.ok.inj hpair)
          simp only [Bool.and_eq_true, decide_eq_true_eq] at hlow
          exact ⟨[w, x, y, z, '\\', 'u', w', x', y', z'],
            .pair hhex hhigh.1 hhigh.2 hhex' hlow.1 hlow.2 (toNat_pairChar hhigh hlow), rfl⟩
        · cases hpair
      · cases hrest
      · cases hrest
      · cases hrest

/-- A character that is read was written in one of the ways there are. -/
theorem isCharacter_of_read {s rest : List Char} {c : Char}
    (h : readCharacter s = .ok (some c, rest)) :
    ∃ text, IsCharacter text c ∧ s = text ++ rest := by
  unfold readCharacter at h
  split at h
  · cases h
  · cases h
  · cases h
  · obtain ⟨⟨d, after⟩, hcode, heq⟩ := ok_of_bind.mp h
    cases heq
    obtain ⟨text, htext, rfl⟩ := isCharacter_of_code hcode
    exact ⟨_, htext, rfl⟩
  · rename_i letter more hnotCode
    split at h
    · rename_i hshort
      cases h
      exact ⟨['\\', letter], .short (shortEscape?_eq_some.mp hshort), rfl⟩
    · cases h
  · rename_i first more hquote hend hcode hshort
    split at h
    · cases h
    · rename_i hplain
      cases h
      refine ⟨[c], .plain (by omega) ?_ ?_, rfl⟩
      · rintro rfl
        exact hquote rfl
      · rintro rfl
        cases rest with
        | nil => exact hend rfl rfl
        | cons d rest => exact hshort d rest rfl rfl

theorem end_of_read {s rest : List Char} (h : readCharacter s = .ok (none, rest)) :
    s = '"' :: rest := by
  unfold readCharacter at h
  split at h
  · cases h
  · cases h
    rfl
  · cases h
  · obtain ⟨⟨d, after⟩, -, heq⟩ := ok_of_bind.mp h
    cases heq
  · split at h <;> cases h
  · split at h <;> cases h

/-- A code that is no surrogate is read as its character. -/
theorem readUnicode_of_code {w x y z c : Char} (hhex : hex4? w x y z = some c.toNat)
    (rest : List Char) :
    readUnicode (w :: x :: y :: z :: rest) = .ok (c, rest) := by
  have hread : readHex4 (w :: x :: y :: z :: rest) = .ok (c.toNat, rest) :=
    readHex4_eq_ok.mpr ⟨w, x, y, z, rfl, hhex⟩
  have hvalid : c.toNat < 0xd800 ∨ 0xdfff < c.toNat ∧ c.toNat < 0x110000 := c.valid
  unfold readUnicode
  rw [hread]
  simp only [bind, Except.bind]
  rw [if_neg (by simp; omega), if_pos (by simp; omega), Char.ofNat_toNat]
  rfl

/-- The codes of two surrogates are read as the character that they make. -/
theorem readUnicode_of_pair {w x y z w' x' y' z' : Char} {high low : Nat}
    (hhex : hex4? w x y z = some high) (hhigh : 0xd800 ≤ high ∧ high ≤ 0xdbff)
    (hhex' : hex4? w' x' y' z' = some low) (hlow : 0xdc00 ≤ low ∧ low ≤ 0xdfff) (rest : List Char) :
    readUnicode (w :: x :: y :: z :: '\\' :: 'u' :: w' :: x' :: y' :: z' :: rest) =
    .ok (pairChar high low, rest) := by
  have hfirst : readHex4 (w :: x :: y :: z :: '\\' :: 'u' :: w' :: x' :: y' :: z' :: rest) =
      .ok (high, '\\' :: 'u' :: w' :: x' :: y' :: z' :: rest) :=
        readHex4_eq_ok.mpr ⟨w, x, y, z, rfl, hhex⟩
  have hsecond : readHex4 (w' :: x' :: y' :: z' :: rest) = .ok (low, rest) :=
    readHex4_eq_ok.mpr ⟨w', x', y', z', rfl, hhex'⟩
  unfold readUnicode
  rw [hfirst]
  simp only [bind, Except.bind]
  rw [if_neg (by simp; omega), if_neg (by simp; omega), hsecond]
  simp only
  rw [if_pos (by simp; omega)]
  rfl

/-- A character that is written in one of the ways is read. -/
theorem readCharacter_eq {text : List Char} {c : Char} (h : IsCharacter text c) (rest : List Char) :
    readCharacter (text ++ rest) = .ok (some c, rest) := by
  cases h with
  | plain hlow hquote hslash =>
    rw [List.singleton_append]
    unfold readCharacter
    split
    · rename_i heq
      cases heq
    · rename_i heq
      cases heq
      exact absurd rfl hquote
    · rename_i heq
      cases heq
      exact absurd rfl hslash
    · rename_i heq
      cases heq
      exact absurd rfl hslash
    · rename_i heq
      cases heq
      exact absurd rfl hslash
    · rename_i heq
      cases heq
      rw [if_neg (Nat.not_lt.mpr hlow)]
  | @short letter c hmem =>
    have hshort := shortEscape?_eq_some.mpr hmem
    rw [List.cons_append, List.singleton_append]
    unfold readCharacter
    split
    · rename_i heq
      cases heq
    · rename_i heq
      cases heq
    · rename_i heq
      cases heq
    · rename_i heq
      cases heq
      cases hshort
    · rename_i heq
      cases heq
      rw [hshort]
    · rename_i hcatch heq
      cases heq
      exact absurd rfl (hcatch letter rest rfl)
  | code hhex =>
    simp only [List.cons_append, List.nil_append, readCharacter, readUnicode_of_code hhex rest]
    rfl
  | @pair w x y z w' x' y' z' c high low hhex hhigh hhigh' hhex' hlow hlow' hc =>
    have hpair : pairChar high low = c := by
      rw [← Char.ofNat_toNat (pairChar high low), toNat_pairChar ⟨hhigh, hhigh'⟩ ⟨hlow, hlow'⟩,
        ← hc, Char.ofNat_toNat]
    have hread := readUnicode_of_pair hhex ⟨hhigh, hhigh'⟩ hhex' ⟨hlow, hlow'⟩ rest
    rw [hpair] at hread
    simp only [List.cons_append, List.nil_append, readCharacter, hread]
    rfl

/-! ## Strings -/

theorem areCharacters_of_read {fuel : Nat} {s rest cs : List Char}
    (h : readChars fuel s = .ok (cs, rest)) :
    ∃ text, AreCharacters text cs ∧ s = text ++ '"' :: rest := by
  induction fuel generalizing s cs with
  | zero => cases h
  | succ fuel ih =>
    rw [readChars] at h
    obtain ⟨⟨_ | c, after⟩, hfirst, hmore⟩ := ok_of_bind.mp h
    · cases hmore
      exact ⟨[], .nil, end_of_read hfirst⟩
    · obtain ⟨⟨ds, last⟩, hrest, heq⟩ := ok_of_bind.mp hmore
      cases heq
      obtain ⟨text, htext, rfl⟩ := isCharacter_of_read hfirst
      obtain ⟨later, hlater, rfl⟩ := ih hrest
      exact ⟨text ++ later, .cons htext hlater, by simp⟩

theorem readChars_eq {text cs : List Char} (h : AreCharacters text cs) {fuel : Nat}
    (hfuel : cs.length < fuel) (rest : List Char) :
    readChars fuel (text ++ '"' :: rest) = .ok (cs, rest) := by
  induction h generalizing fuel with
  | nil =>
    obtain ⟨fuel, rfl⟩ := Nat.exists_eq_succ_of_ne_zero (Nat.ne_zero_of_lt hfuel)
    rfl
  | @cons text more cs c htext _ ih =>
    obtain ⟨fuel, rfl⟩ := Nat.exists_eq_succ_of_ne_zero (Nat.ne_zero_of_lt hfuel)
    have hrest := ih (Nat.lt_of_succ_lt_succ hfuel)
    rw [Nat.succ_eq_add_one, readChars, List.append_assoc, readCharacter_eq htext]
    simp only [bind, Except.bind]
    rw [hrest]
    rfl

theorem AreCharacters.length_le {text cs : List Char} (h : AreCharacters text cs) :
    cs.length ≤ text.length := by
  induction h with
  | nil => exact Nat.le_refl 0
  | @cons text more cs c htext _ ih =>
    have hpos : 0 < text.length := by cases htext <;> exact Nat.succ_pos _
    rw [List.length_append, List.length_cons]
    omega

/-- A string is read up to the quote that closes it. -/
theorem readString_eq_ok {s rest : List Char} {x : String} :
    readString s = .ok (x, rest) ↔ ∃ text, AreCharacters text x.toList ∧
    s = text ++ '"' :: rest := by
  unfold readString
  constructor
  · intro h
    obtain ⟨⟨cs, after⟩, hread, heq⟩ := ok_of_bind.mp h
    cases heq
    rw [String.toList_ofList]
    exact areCharacters_of_read hread
  · rintro ⟨text, htext, rfl⟩
    have hlength := htext.length_le
    rw [readChars_eq htext (by simp; omega)]
    simp [bind, Except.bind, pure, Except.pure]

/-- Where a string is wanted, a string is read, and nothing else. -/
theorem readStringItem_eq_ok {s rest : List Char} {x : String} :
    readStringItem s = .ok (x, rest) ↔ ∃ text, IsString text x ∧ skip s = text ++ rest := by
  unfold readStringItem
  constructor
  · intro h
    split at h
    · cases h
    · rename_i more hskip
      obtain ⟨text, htext, rfl⟩ := readString_eq_ok.mp h
      exact ⟨_, .quotes htext, by simp [hskip]⟩
    · obtain ⟨_, -, hthrow⟩ := ok_of_bind.mp h
      cases hthrow
    · obtain ⟨_, -, hthrow⟩ := ok_of_bind.mp h
      cases hthrow
    · obtain ⟨_, -, hthrow⟩ := ok_of_bind.mp h
      cases hthrow
    · cases h
    · cases h
    · split at h
      · obtain ⟨_, -, hthrow⟩ := ok_of_bind.mp h
        cases hthrow
      · cases h
  · rintro ⟨_, ⟨htext⟩, hskip⟩
    rw [hskip]
    exact readString_eq_ok.mpr ⟨_, htext, by simp⟩

/-! ## Lists -/

theorem IsString.cons {text : List Char} {x : String} (h : IsString text x) :
    ∃ more, text = '"' :: more := by
  cases h with
  | quotes => exact ⟨_, rfl⟩

/-- Before a string nothing is skipped. -/
theorem IsString.skip {text : List Char} {x : String} (h : IsString text x) (rest : List Char) :
    skip (text ++ rest) = text ++ rest := by
  obtain ⟨more, rfl⟩ := h.cons
  exact skip_of_not rfl _

/-- A reader of items that takes every string, and for which it stands for what `f` makes of it. -/
def TakesStrings {α : Type} (item : List Char → Except Fault (α × List Char))
    (f : String → α) : Prop :=
  ∀ text x, IsString text x → ∀ rest, item (text ++ rest) = .ok (f x, rest)

theorem takesStrings_readStringItem : TakesStrings readStringItem id :=
  fun text _ hx rest => readStringItem_eq_ok.mpr ⟨text, hx, hx.skip rest⟩

section

variable {α : Type} {item : List Char → Except Fault (α × List Char)} {f : String → α}

/-- The list ends at its bracket. -/
theorem readItems_end {w : List Char} (hw : AreSpaces w) (fuel : Nat) (first : Bool)
    (rest : List Char) :
    readItems item (fuel + 1) first (w ++ ']' :: rest) = .ok ([], rest) := by
  have hskip : skip (w ++ ']' :: rest) = ']' :: rest := by rw [skip_spaces hw, skip_of_not rfl]
  rw [readItems]
  simp only [hskip]

variable (hitem : TakesStrings item f) {w w' text s rest : List Char} {x : String} {items : List α}
    {fuel : Nat}
include hitem

/-- The first item stands at the start. -/
theorem readItems_first (hw : AreSpaces w) (hx : IsString text x)
    (hmore : readItems item fuel false s = .ok (items, rest)) :
    readItems item (fuel + 1) true (w ++ (text ++ s)) = .ok (f x :: items, rest) := by
  have hread := hitem text x hx s
  rw [readItems, skip_spaces hw, hx.skip]
  obtain ⟨inner, rfl⟩ := hx.cons
  split
  · rename_i heq
    cases heq
  · rename_i heq
    cases heq
  · rename_i heq
    cases heq
    exact ok_of_bind.mpr ⟨_, rfl, ok_of_bind.mpr ⟨_, hread, ok_of_bind.mpr ⟨_, hmore, rfl⟩⟩⟩

/-- A further item stands after a comma. -/
theorem readItems_next (hw : AreSpaces w) (hw' : AreSpaces w') (hx : IsString text x)
    (hmore : readItems item fuel false s = .ok (items, rest)) :
    readItems item (fuel + 1) false (w ++ ',' :: (w' ++ (text ++ s))) =
    .ok (f x :: items, rest) := by
  have hread := hitem text x hx s
  have hnext : skip (w' ++ (text ++ s)) = text ++ s := by rw [skip_spaces hw', hx.skip]
  rw [readItems, skip_spaces hw, skip_of_not rfl]
  obtain ⟨inner, rfl⟩ := hx.cons
  split
  · rename_i heq
    cases heq
  · rename_i heq
    cases heq
  · rename_i heq
    cases heq
    refine ok_of_bind.mpr ⟨_, ?_, ok_of_bind.mpr ⟨_, hread, ok_of_bind.mpr ⟨_, hmore, rfl⟩⟩⟩
    rw [if_neg (by simp), if_pos rfl, hnext]
    rfl

theorem AreMore.read {more : List Char} {xs : List String} (h : AreMore more xs)
    (hfuel : xs.length < fuel) (rest : List Char) :
    readItems item fuel false (more ++ ']' :: rest) = .ok (xs.map f, rest) := by
  induction h generalizing fuel with
  | none hw =>
    obtain ⟨fuel, rfl⟩ := Nat.exists_eq_succ_of_ne_zero (Nat.ne_zero_of_lt hfuel)
    exact readItems_end hw fuel false rest
  | next hw hw' htext _ ih =>
    obtain ⟨fuel, rfl⟩ := Nat.exists_eq_succ_of_ne_zero (Nat.ne_zero_of_lt hfuel)
    have hmore := ih (Nat.lt_of_succ_lt_succ hfuel)
    simp only [List.append_assoc, List.cons_append]
    exact readItems_next hitem hw hw' htext hmore

theorem AreItems.read {inner : List Char} {xs : List String} (h : AreItems inner xs)
    (hfuel : xs.length < fuel) (rest : List Char) :
    readItems item fuel true (inner ++ ']' :: rest) = .ok (xs.map f, rest) := by
  obtain ⟨fuel, rfl⟩ := Nat.exists_eq_succ_of_ne_zero (Nat.ne_zero_of_lt hfuel)
  cases h with
  | none hw => exact readItems_end hw fuel true rest
  | some hw htext hmore =>
    have hrest := hmore.read hitem (Nat.lt_of_succ_lt_succ hfuel) rest
    simp only [List.append_assoc]
    exact readItems_first hitem hw htext hrest

end

theorem areMore_of_read {fuel : Nat} {s rest : List Char} {xs : List String}
    (h : readItems readStringItem fuel false s = .ok (xs, rest)) :
    ∃ more, AreMore more xs ∧ s = more ++ ']' :: rest := by
  induction fuel generalizing s xs with
  | zero => cases h
  | succ fuel ih =>
    obtain ⟨w, hw, hs⟩ := exists_skipped s
    rw [readItems] at h
    split at h
    · cases h
    · rename_i hskip
      cases h
      rw [hskip] at hs
      exact ⟨w, .none hw, hs⟩
    · rename_i c after _ hskip
      rw [hskip] at hs
      obtain ⟨start, hstart, hitem⟩ := ok_of_bind.mp h
      obtain ⟨⟨x, later⟩, hx, hrest⟩ := ok_of_bind.mp hitem
      obtain ⟨⟨ys, last⟩, hys, heq⟩ := ok_of_bind.mp hrest
      cases heq
      simp only [Bool.false_eq_true, if_false] at hstart
      split at hstart
      · rename_i hcomma
        obtain ⟨w', hw', hafter⟩ := exists_skipped after
        split at hstart
        · cases hstart
        · cases hstart
        · cases hstart
          obtain ⟨text, htext, hnext⟩ := readStringItem_eq_ok.mp hx
          rw [skip_skip] at hnext
          obtain ⟨more, hmore, rfl⟩ := ih hys
          refine ⟨_, .next hw hw' htext hmore, ?_⟩
          rw [hs, hcomma, hafter, hnext]
          simp
      · cases hstart

theorem areItems_of_read {fuel : Nat} {s rest : List Char} {xs : List String}
    (h : readItems readStringItem fuel true s = .ok (xs, rest)) :
    ∃ inner, AreItems inner xs ∧ s = inner ++ ']' :: rest := by
  cases fuel with
  | zero => cases h
  | succ fuel =>
    obtain ⟨w, hw, hs⟩ := exists_skipped s
    rw [readItems] at h
    split at h
    · cases h
    · rename_i hskip
      cases h
      rw [hskip] at hs
      exact ⟨w, .none hw, hs⟩
    · rename_i c after _ hskip
      obtain ⟨start, hstart, hitem⟩ := ok_of_bind.mp h
      obtain ⟨⟨x, later⟩, hx, hrest⟩ := ok_of_bind.mp hitem
      obtain ⟨⟨ys, last⟩, hys, heq⟩ := ok_of_bind.mp hrest
      cases heq
      cases hstart
      obtain ⟨text, htext, hnext⟩ := readStringItem_eq_ok.mp hx
      rw [← hskip, skip_skip] at hnext
      obtain ⟨more, hmore, rfl⟩ := areMore_of_read hys
      refine ⟨_, .some hw htext hmore, ?_⟩
      rw [hs, hnext]
      simp

theorem AreMore.length_le {more : List Char} {xs : List String} (h : AreMore more xs) :
    xs.length ≤ more.length := by
  induction h with
  | none => exact Nat.zero_le _
  | next _ _ _ _ ih =>
    simp only [List.length_append, List.length_cons]
    omega

theorem AreItems.length_le {inner : List Char} {xs : List String} (h : AreItems inner xs) :
    xs.length ≤ inner.length := by
  cases h with
  | none => exact Nat.zero_le _
  | some _ htext hmore =>
    obtain ⟨more, rfl⟩ := htext.cons
    have := hmore.length_le
    simp only [List.length_append, List.length_cons]
    omega

theorem AreItems.length_lt {inner : List Char} {xs : List String} (h : AreItems inner xs)
    (rest : List Char) :
    xs.length < (inner ++ ']' :: rest).length + 1 := by
  have := h.length_le
  rw [List.length_append]
  omega

/-- A text is read as a list of strings just when it is one. -/
theorem readStrings_eq_ok {s : String} {xs : List String} : readStrings s = .ok xs ↔
    IsListText s xs := by
  unfold readStrings IsListText
  constructor
  · intro h
    obtain ⟨w, hw, hs⟩ := exists_skipped s.toList
    split at h
    · cases h
    · rename_i after hskip
      obtain ⟨⟨ys, rest⟩, hread, hfinish⟩ := ok_of_bind.mp h
      obtain ⟨inner, hinner, rfl⟩ := areItems_of_read hread
      unfold finish at hfinish
      dsimp only at hfinish
      split at hfinish
      · rename_i hrest
        cases hfinish
        refine ⟨w, _, rest, hw, skip_eq_nil.mp (List.isEmpty_iff.mp hrest), .brackets hinner, ?_⟩
        rw [hs, hskip]
        simp
      · cases hfinish
    · cases h
  · rintro ⟨w, _, w', hw, hw', ⟨hinner⟩, hs⟩
    rename_i inner
    have hskip : skip s.toList = '[' :: (inner ++ ']' :: w') := by
      rw [hs, skip_spaces hw, List.append_assoc, List.cons_append, skip_of_not rfl,
        List.singleton_append]
    have hread := hinner.read takesStrings_readStringItem (hinner.length_lt w') w'
    rw [List.map_id] at hread
    have hend : finish (xs, w') = .ok xs := by simp [finish, skip_eq_nil.mpr hw']
    rw [hskip]
    exact ok_of_bind.mpr ⟨_, hread, hend⟩

/-! ## Lists as values -/

/-- A string is a value. -/
theorem takesStrings_readValue (depth : Nat) : TakesStrings (readValue depth) .ofText := by
  rintro _ x ⟨htext⟩ rest
  rename_i text
  have hskip : skip ('"' :: text ++ ['"'] ++ rest) = '"' :: (text ++ '"' :: rest) := by
    rw [List.append_assoc, List.cons_append, skip_of_not rfl, List.singleton_append]
  have hread : readString (text ++ '"' :: rest) = .ok (x, rest) :=
    readString_eq_ok.mpr ⟨text, htext, rfl⟩
  rw [readValue, hskip]
  exact ok_of_bind.mpr ⟨_, hread, rfl⟩

/-- A list of strings is a value. -/
theorem readValue_list {text : List Char} {xs : List String} (h : IsList text xs) (depth : Nat)
    (rest : List Char) :
    readValue (depth + 1) (text ++ rest) = .ok (.list none (xs.map .ofText), rest) := by
  obtain ⟨hinner⟩ := h
  rename_i inner
  have hskip : skip ('[' :: inner ++ [']'] ++ rest) = '[' :: (inner ++ ']' :: rest) := by
    rw [List.append_assoc, List.cons_append, skip_of_not rfl, List.singleton_append]
  have hread := hinner.read (takesStrings_readValue depth) (hinner.length_lt rest) rest
  rw [readValue, hskip]
  exact ok_of_bind.mpr ⟨_, hread, rfl⟩

/-! ## Writing -/

theorem hexValue?_hexDigit : ∀ n < 16, hexValue? (hexDigit n) = some n := by decide

theorem isCharacter_writeChar (c : Char) : IsCharacter (writeChar c) c := by
  unfold writeChar
  split
  · exact .short (by decide)
  · exact .short (by decide)
  · exact .short (by decide)
  · exact .short (by decide)
  · exact .short (by decide)
  · exact .short (by decide)
  · exact .short (by decide)
  · rename_i hquote hslash _ _ _ _ _
    split
    · rename_i hcontrol
      refine .code ?_
      have hhigh := hexValue?_hexDigit (c.toNat / 16) (by omega)
      have hlow := hexValue?_hexDigit (c.toNat % 16) (by omega)
      have hzero := hexValue?_hexDigit 0 (by omega)
      have hdigit : hexDigit 0 = '0' := rfl
      rw [hdigit] at hzero
      simp only [hex4?, hzero, hhigh, hlow, Option.bind_eq_bind, Option.bind_some, Option.pure_def,
        Option.some.injEq]
      omega
    · exact .plain (by omega) hquote hslash

theorem areCharacters_write (cs : List Char) : AreCharacters (cs.flatMap writeChar) cs := by
  induction cs with
  | nil => exact .nil
  | cons c rest ih => exact .cons (isCharacter_writeChar c) ih

theorem isString_writeString (x : String) : IsString (writeString x).toList x := by
  unfold writeString
  rw [String.toList_ofList]
  exact .quotes (areCharacters_write x.toList)

theorem areSpaces_nil : AreSpaces [] := by simp [AreSpaces]

theorem areMore_write (xs : List String) :
    AreMore (xs.flatMap fun x => ',' :: (writeString x).toList) xs := by
  induction xs with
  | nil => exact .none areSpaces_nil
  | cons x rest ih =>
    have hnext := AreMore.next areSpaces_nil areSpaces_nil (isString_writeString x) ih
    rw [List.nil_append, List.nil_append] at hnext
    rw [List.flatMap_cons, List.cons_append]
    exact hnext

theorem intercalate_comma (text : List Char) (more : List (List Char)) :
    [','].intercalate (text :: more) = text ++ more.flatMap (',' :: ·) := by
  induction more generalizing text with
  | nil => simp
  | cons next rest ih =>
    rw [List.intercalate_cons_cons, ih, List.flatMap_cons]
    simp

/-- A list of strings that is written is one. -/
theorem isList_writeStrings (xs : List String) : IsList (writeStrings xs).toList xs := by
  have hitems : AreItems ([','].intercalate (xs.map fun x => (writeString x).toList)) xs := by
    cases xs with
    | nil => exact .none areSpaces_nil
    | cons x rest =>
      rw [List.map_cons, intercalate_comma, List.flatMap_map]
      have hsome := AreItems.some areSpaces_nil (isString_writeString x) (areMore_write rest)
      rwa [List.nil_append] at hsome
  have htext : (writeStrings xs).toList =
      '[' :: [','].intercalate (xs.map fun x => (writeString x).toList) ++ [']'] := by
    unfold writeStrings
    simp [Function.comp_def]
  rw [htext]
  exact .brackets hitems

theorem isListText_writeStrings (xs : List String) : IsListText (writeStrings xs) xs :=
  ⟨[], _, [], areSpaces_nil, areSpaces_nil, isList_writeStrings xs, by simp⟩

end Chassis.Document.Json
