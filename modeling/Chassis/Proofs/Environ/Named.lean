-- The names that stand in an environment file: those that its lines assign, and those behind the
-- dollar signs in them. Environments that give these names the same values come to the same by the
-- file, and the file leaves alone whatever is called otherwise.
import Chassis.Proofs.Environ.Kept
import Chassis.Proofs.Environ.Zeros

namespace Chassis.Environ

open Text (Native)

/-! ## Names in a text -/

/-- A name stands behind a dollar sign: as far as letters and digits go, or in braces. -/
inductive Refers : List Char → List Char → Prop
  | bare {before name after : List Char} : (∀ c ∈ name, Text.isAlphanumeric c = true) →
      (∀ c ∈ after.head?, Text.isAlphanumeric c = false) →
        Refers (before ++ '$' :: (name ++ after)) name
  | braced {before name after : List Char} : '\x7d' ∉ name →
      Refers (before ++ '$' :: '\x7b' :: (name ++ '\x7d' :: after)) name

theorem Refers.subset {whole name : List Char} (h : Refers whole name) : name ⊆ whole := by
  intro c hc
  cases h with
  | bare => simp [hc]
  | braced => simp [hc]

/-- Some of a text is left to be read. A name that is being read stands right before it, behind its
dollar sign. -/
def IsLeft (whole rest : List Char) : Inside → Prop
  | .bare name =>
    (∀ c ∈ name, Text.isAlphanumeric c = true) ∧ ∃ before, whole = before ++ '$' :: (name ++ rest)
  | .braced name => '\x7d' ∉ name ∧ ∃ before, whole = before ++ '$' :: '\x7b' :: (name ++ rest)
  | _ => rest <:+ whole

theorem IsLeft.suffix {whole rest : List Char} {inside : Inside} (h : IsLeft whole rest inside) :
    rest <:+ whole := by
  cases inside with
  | bare name =>
    obtain ⟨-, before, rfl⟩ := h
    exact ⟨before ++ '$' :: name, by simp⟩
  | braced name =>
    obtain ⟨-, before, rfl⟩ := h
    exact ⟨before ++ '$' :: '\x7b' :: name, by simp⟩
  | text => exact h
  | strong => exact h
  | escape => exact h
  | ended => exact h

/-- A dollar sign is followed by a bare name. -/
theorem isLeft_dollar {whole rest : List Char} (h : '$' :: rest <:+ whole) :
    IsLeft whole rest (.bare []) := by
  obtain ⟨before, rfl⟩ := h
  exact ⟨nofun, before, rfl⟩

section

variable {lookup lookup' : String → String} {whole rest : List Char} {reading : Reading} {c : Char}

theorem isLeft_readText {weak : Bool} (h : c :: rest <:+ whole) :
    IsLeft whole rest (readText weak c).2.inside := by
  have hrest : rest <:+ whole := (List.suffix_cons c rest).trans h
  unfold readText
  split
  · rename_i hdollar
    subst hdollar
    exact isLeft_dollar h
  · repeat' split
    all_goals exact hrest

/-- What one character leaves. -/
theorem IsLeft.readChar (h : IsLeft whole (c :: rest) reading.inside) {cs : List Char}
    {next : Reading} (hchar : readChar lookup reading c = some (cs, next)) :
    IsLeft whole rest next.inside := by
  have hrest : rest <:+ whole := (List.suffix_cons c rest).trans h.suffix
  have hself := h.suffix
  obtain ⟨inside, weak⟩ := reading
  unfold Environ.readChar at hchar
  dsimp only at h hchar
  cases inside with
  | text =>
    have hnext : (readText weak c).2 = next := congrArg Prod.snd (Option.some.inj hchar)
    rw [← hnext]
    exact isLeft_readText hself
  | strong =>
    dsimp only at hchar
    split at hchar
    · cases hchar
      exact hrest
    · cases hchar
      exact hrest
  | escape =>
    obtain ⟨e, -, he⟩ := Option.map_eq_some_iff.mp hchar
    cases he
    exact hrest
  | ended =>
    dsimp only at hchar
    split at hchar
    · cases hchar
      exact hrest
    · cases hchar
  | bare name =>
    obtain ⟨hname, before, hwhole⟩ := h
    dsimp only at hchar
    split at hchar
    · rename_i halphanumeric
      cases hchar
      refine ⟨?_, before, by simp [hwhole]⟩
      intro d hd
      rcases List.mem_append.mp hd with hold | hnew
      · exact hname d hold
      · rw [List.mem_singleton.mp hnew]
        exact halphanumeric
    · split at hchar
      · rename_i hbrace
        simp only [Bool.and_eq_true, decide_eq_true_eq, List.isEmpty_iff] at hbrace
        obtain ⟨rfl, rfl⟩ := hbrace
        cases hchar
        exact ⟨nofun, before, hwhole⟩
      · split at hchar
        · rename_i hdollar
          subst hdollar
          cases hchar
          exact isLeft_dollar hself
        · cases hchar
          exact hrest
  | braced name =>
    obtain ⟨hname, before, hwhole⟩ := h
    dsimp only at hchar
    split at hchar
    · cases hchar
      exact hrest
    · rename_i hopen
      cases hchar
      refine ⟨?_, before, by simp [hwhole]⟩
      intro hclosed
      rcases List.mem_append.mp hclosed with hold | hnew
      · exact hname hold
      · exact hopen (List.mem_singleton.mp hnew).symm

/-! ## What depends on the values of names -/

variable (hlookup : ∀ name, Refers whole name →
      lookup (String.ofList name) = lookup' (String.ofList name))
include hlookup

theorem substituted_congr {name : List Char} (h : Refers whole name) :
    substituted lookup name = substituted lookup' name := by
  unfold substituted
  rw [hlookup name h]

theorem readChar_congr (h : IsLeft whole (c :: rest) reading.inside) :
    readChar lookup reading c = readChar lookup' reading c := by
  obtain ⟨inside, weak⟩ := reading
  unfold readChar
  dsimp only at h ⊢
  cases inside with
  | bare name =>
    obtain ⟨hname, before, rfl⟩ := h
    dsimp only
    split
    · rfl
    · rename_i hnot
      have hrefers : Refers (before ++ '$' :: (name ++ c :: rest)) name := by
        refine .bare hname ?_
        intro d hd
        cases hd
        simpa using hnot
      rw [substituted_congr hlookup hrefers]
  | braced name =>
    obtain ⟨hname, before, rfl⟩ := h
    dsimp only
    split
    · rename_i hclosed
      subst hclosed
      rw [substituted_congr hlookup (.braced hname)]
    · rfl
  | text => rfl
  | strong => rfl
  | escape => rfl
  | ended => rfl

/-- A value is read alike with what gives the same to the names in it. -/
theorem readValue_congr {index : Nat} (h : IsLeft whole rest reading.inside) :
    readValue lookup reading index rest = readValue lookup' reading index rest := by
  induction rest generalizing reading index with
  | nil => rfl
  | cons c rest ih =>
    rw [readValue, readValue, readChar_congr hlookup h]
    split
    · rfl
    · cases hchar : readChar lookup' reading c with
      | none => rfl
      | some entry =>
        obtain ⟨cs, next⟩ := entry
        dsimp only
        rw [ih (h.readChar hchar)]

omit hlookup in
/-- A bare name at the end of a value stands in it. -/
theorem refers_of_readValue {index : Nat} {cs name : List Char} {weak : Bool}
    (h : IsLeft whole rest reading.inside)
    (hread : readValue lookup reading index rest = .ok (cs, ⟨.bare name, weak⟩)) :
    Refers whole name := by
  induction rest generalizing reading index cs with
  | nil =>
    cases hread
    obtain ⟨hname, before, rfl⟩ := h
    exact .bare hname nofun
  | cons c rest ih =>
    rw [readValue] at hread
    split at hread
    · rename_i hended
      cases hread
      simp at hended
    · cases hchar : readChar lookup reading c with
      | none =>
        rw [hchar] at hread
        cases hread
      | some entry =>
        obtain ⟨ds, next⟩ := entry
        rw [hchar] at hread
        dsimp only at hread
        cases hlater : readValue lookup next (index + 1) rest with
        | error fault =>
          rw [hlater] at hread
          cases hread
        | ok result =>
          obtain ⟨more, last⟩ := result
          rw [hlater] at hread
          cases hread
          exact ih (h.readChar hchar) hlater

theorem valueOf_congr (h : rest <:+ whole) : valueOf lookup rest = valueOf lookup' rest := by
  have hleft : IsLeft whole rest (Reading.inside ⟨.text, false⟩) := h
  unfold valueOf
  dsimp only
  rw [readValue_congr hlookup hleft]
  split
  · rfl
  · rfl
  · rfl
  · rfl
  · rename_i hread
    rw [substituted_congr hlookup (refers_of_readValue hleft hread)]
  · rfl

end

/-- A line reads alike with what gives the same to the names in it. -/
theorem readLine_congr {lookup lookup' : String → String} {line : String}
    (hlookup : ∀ name, Refers (Text.trimEnd line.toList) name →
      lookup (String.ofList name) = lookup' (String.ofList name)) :
    readLine lookup line = readLine lookup' line := by
  unfold readLine
  dsimp only
  split
  · rfl
  · rfl
  · split
    · rfl
    · rename_i name spot hassignment
      split
      · rfl
      · rfl
      · have hrest := (Spot.assignment_back hassignment).trans (Spot.skip_back _ _)
        rw [valueOf_congr hlookup hrest]

/-! ## Names in a file -/

/-- A name stands in a line: the line assigns it, or it stands behind a dollar sign. -/
inductive StandsIn (line name : String) : Prop
  | assigned {lookup : String → String} {value : Option String} :
      readLine lookup line = .ok (some (name, value)) → StandsIn line name
  | referred : Refers (Text.trimEnd line.toList) name.toList → StandsIn line name

/-- The names that stand in what there is to read. -/
def StandsInFile (contents : Except Files.Fault Text.Bytes) (name : String) : Prop :=
  ∃ bytes line, contents = .ok bytes ∧ .ok line ∈ logicalLines bytes ∧ StandsIn line name

/-- The names of a kind are all that stand in the lines. -/
def Covers (related : String → Prop) (lines : List (Except Fault String)) : Prop :=
  ∀ line, .ok line ∈ lines → ∀ name, StandsIn line name → related name

theorem Covers.head {related : String → Prop} {line : String} {rest : List (Except Fault String)}
    (h : Covers related (.ok line :: rest)) {name : String} (hname : StandsIn line name) :
    related name :=
  h line List.mem_cons_self name hname

theorem Covers.tail {related : String → Prop} {line : Except Fault String}
    {rest : List (Except Fault String)} (h : Covers related (line :: rest)) : Covers related rest :=
  fun other hother => h other (List.mem_cons_of_mem line hother)

theorem covers_logicalLines {related : String → Prop} {bytes : Text.Bytes}
    (h : ∀ name, StandsInFile (.ok bytes) name → related name) :
    Covers related (logicalLines bytes) :=
  fun line hline name hname => h name ⟨bytes, line, rfl, hline, hname⟩

/-- The environments give the same values to the names of a kind. -/
def Agree (related : String → Prop) (environ environ' : Environ) : Prop :=
  ∀ name, related name → value? environ name = value? environ' name

/-- A variable that is not called by a name of a kind. -/
def IsForeign (related : String → Prop) (entry : Native × Native) : Prop :=
  ∀ name, related name → entry.1 ≠ .text name

section

variable {related : String → Prop} {environ environ' : Environ}

theorem Agree.get? (h : Agree related environ environ') {name : String} (hname : related name) :
    get? environ name = get? environ' name := by
  unfold Environ.get?
  rw [h name hname]

theorem Agree.supply (h : Agree related environ environ') {name : String} (hname : related name)
    (value : String) :
    Agree related (supply environ name value) (supply environ' name value) := by
  unfold Environ.supply
  rw [h.get? hname]
  split
  · exact h
  · intro other hother
    rw [value?_put, value?_put, h other hother]

theorem mem_supply_of_foreign {entry : Native × Native} (hforeign : IsForeign related entry)
    {name : String} (hname : related name) (value : String) : entry ∈ supply environ name value ↔
    entry ∈ environ := by
  have hne := hforeign name hname
  unfold supply put
  split
  · rfl
  · have hnew : entry ≠ (.text name, .text value) := fun heq => hne (congrArg Prod.fst heq)
    simp [hne, hnew]

variable (given : Given) {lines : List (Except Fault String)} (hlines : Covers related lines)
include hlines

/-- Where all names in the lines have the same values, the lines do the same. -/
theorem applyLines_agree (h : Agree related environ environ') :
    (applyLines environ given lines).2 = (applyLines environ' given lines).2 ∧
      Agree related (applyLines environ given lines).1 (applyLines environ' given lines).1 := by
  induction lines generalizing environ environ' given with
  | nil => exact ⟨rfl, h⟩
  | cons line rest ih =>
    rcases line with fault | line
    · exact ⟨rfl, h⟩
    · have hread : readLine (substitution environ given) line =
          readLine (substitution environ' given) line := by
        refine readLine_congr fun name hname => ?_
        unfold substitution
        rw [h.get? (hlines.head (.referred (by rwa [String.toList_ofList])))]
      rw [applyLines, applyLines, hread]
      rcases hassigned : readLine (substitution environ' given) line with fault | _ | ⟨name, value⟩
      · exact ⟨rfl, h⟩
      · exact ih given hlines.tail h
      · have hname := hlines.head (.assigned hassigned)
        dsimp only
        rw [h.get? hname]
        split
        · exact ⟨rfl, h⟩
        · exact ih _ hlines.tail (h.supply hname _)

/-- The lines leave alone what is called by no name in them. -/
theorem mem_applyLines_of_foreign {entry : Native × Native} (hforeign : IsForeign related entry) :
    entry ∈ (applyLines environ given lines).1 ↔ entry ∈ environ := by
  induction lines generalizing environ given with
  | nil => rfl
  | cons line rest ih =>
    rcases line with fault | line
    · rfl
    · rw [applyLines]
      rcases hassigned : readLine (substitution environ given) line with fault | _ | ⟨name, value⟩
      · rfl
      · exact ih given hlines.tail
      · have hname := hlines.head (.assigned hassigned)
        dsimp only
        split
        · rfl
        · rw [ih _ hlines.tail]
          exact mem_supply_of_foreign hforeign hname _

end

section

variable {related : String → Prop} {environ environ' : Environ}
  {contents : Except Files.Fault Text.Bytes}
  (hnames : ∀ name, StandsInFile contents name → related name)
include hnames

theorem load_agree (h : Agree related environ environ') :
    (load environ contents).2 = (load environ' contents).2 ∧
      Agree related (load environ contents).1 (load environ' contents).1 := by
  rcases contents with fault | bytes
  · cases fault <;> exact ⟨rfl, h⟩
  · obtain ⟨hending, hagree⟩ := applyLines_agree [] (covers_logicalLines hnames) h
    unfold load apply
    dsimp only
    generalize applyLines environ [] (logicalLines bytes) = first at hending hagree ⊢
    generalize applyLines environ' [] (logicalLines bytes) = second at hending hagree ⊢
    obtain ⟨later, ending⟩ := first
    obtain ⟨later', ending'⟩ := second
    dsimp only at hending hagree
    subst hending
    cases ending <;> exact ⟨rfl, hagree⟩

theorem mem_load_of_foreign {entry : Native × Native} (hforeign : IsForeign related entry) :
    entry ∈ (load environ contents).1 ↔ entry ∈ environ := by
  rcases contents with fault | bytes
  · cases fault <;> rfl
  · have hmem : entry ∈ (applyLines environ [] (logicalLines bytes)).1 ↔ entry ∈ environ :=
      mem_applyLines_of_foreign [] (covers_logicalLines hnames) hforeign
    unfold load apply
    dsimp only
    split <;> rename_i hresult <;> rw [hresult] at hmem <;> exact hmem

end

end Chassis.Environ
