-- JSON objects: a grammar of how they may be written without white space. An object of distinct
-- keys that keeps to it is read back, every member with its key and its value, and writing keeps to
-- it.
import Mathlib.Data.List.Forall2
import Chassis.Proofs.Document.Strings

namespace Chassis.Document.Json

/-! ## The grammar -/

/-- A text that is read as a value in front of what may follow it in an object. -/
def Reads (depth : Nat) (text : List Char) (v : Value) : Prop :=
  ∀ next rest, next = ',' ∨ next = '\x7d' →
    readValue depth (text ++ next :: rest) = .ok (v, next :: rest)

/-- A member: its key, a colon, and a text that is read as its value. -/
inductive IsMember (depth : Nat) : List Char → String × Value → Prop
  | colon {key value : List Char} {entry : String × Value} :
      IsString key entry.1 → Reads depth value entry.2 → IsMember depth (key ++ ':' :: value) entry

/-- An object between its braces: its members with a comma between any two, and nothing else. -/
inductive IsObject (depth : Nat) : List Char → Table → Prop
  | braces {members : List (List Char)} {table : Table} :
      List.Forall₂ (IsMember depth) members table →
        IsObject depth ('\x7b' :: [','].intercalate members ++ ['\x7d']) table

/-! ## Entries -/

theorem put_of_not_mem {table : Table} {key : String} (h : key ∉ table.map (·.1)) (value : Value) :
    table.put key value = table ++ [(key, value)] := by
  induction table with
  | nil => rfl
  | cons entry rest ih =>
    rw [List.map_cons, List.mem_cons, not_or] at h
    rw [Table.put, if_neg (by simpa using Ne.symm h.1), ih h.2, List.cons_append]

section

variable {depth : Nat} {text : List Char} {entry : String × Value} (h : IsMember depth text entry)
  {next : Char}
  {rest : List Char} (hnext : next = ',' ∨ next = '\x7d') (fuel : Nat) (entries : Table)
include h hnext

/-- The first member stands at the start. -/
theorem readEntries_first :
    readEntries (readValue depth) (fuel + 1) true entries (text ++ next :: rest) =
      readEntries (readValue depth) fuel false (entries.put entry.1 entry.2) (next :: rest) := by
  obtain ⟨⟨hchars⟩, hvalue⟩ := h
  rename_i value chars
  have hkey : readString (chars ++ '"' :: ':' :: (value ++ next :: rest)) =
      .ok (entry.1, ':' :: (value ++ next :: rest)) := readString_eq_ok.mpr ⟨chars, hchars, rfl⟩
  have hcolon : skip (':' :: (value ++ next :: rest)) = ':' :: (value ++ next :: rest) :=
    skip_of_not rfl _
  simp only [List.append_assoc, List.cons_append, List.nil_append]
  rw [readEntries, skip_of_not rfl]
  split
  · rename_i heq
    cases heq
  · rename_i heq
    cases heq
  · rename_i heq
    cases heq
    simp only [if_true, bind, Except.bind]
    rw [hkey]
    simp only
    rw [hcolon]
    simp only
    rw [hvalue next rest hnext]

/-- A further member stands after a comma. -/
theorem readEntries_next :
    readEntries (readValue depth) (fuel + 1) false entries (',' :: (text ++ next :: rest)) =
      readEntries (readValue depth) fuel false (entries.put entry.1 entry.2) (next :: rest) := by
  rw [← readEntries_first h hnext fuel entries]
  obtain ⟨⟨hchars⟩, hvalue⟩ := h
  simp only [List.append_assoc, List.cons_append, List.nil_append]
  rw [readEntries, readEntries, skip_of_not rfl, skip_of_not rfl]
  rfl

end

theorem readEntries_end (depth fuel : Nat) (first : Bool) (entries : Table) (rest : List Char) :
    readEntries (readValue depth) (fuel + 1) first entries ('\x7d' :: rest) =
    .ok (entries, rest) := by
  rw [readEntries, skip_of_not rfl]
  rfl

/-- After a member stands a comma, or the brace. -/
theorem exists_next (members : List (List Char)) (rest : List Char) :
    ∃ next after, (next = ',' ∨ next = '\x7d') ∧ members.flatMap (',' :: ·) ++ '\x7d' :: rest =
      next :: after := by
  cases members with
  | nil => exact ⟨'\x7d', rest, Or.inr rfl, rfl⟩
  | cons member members => exact ⟨',', _, Or.inl rfl, rfl⟩

/-- The members after the first one are read up to the brace. -/
theorem readEntries_more {depth : Nat} {members : List (List Char)} {table : Table}
    (h : List.Forall₂ (IsMember depth) members table) {fuel : Nat} (hfuel : members.length < fuel)
    {entries : Table} (hkeys : ((entries ++ table).map (·.1)).Nodup) (rest : List Char) :
    readEntries (readValue depth) fuel false entries
      (members.flatMap (',' :: ·) ++ '\x7d' :: rest) =
      .ok (entries ++ table, rest) := by
  induction h generalizing fuel entries with
  | nil =>
    obtain ⟨fuel, rfl⟩ := Nat.exists_eq_succ_of_ne_zero (Nat.ne_zero_of_lt hfuel)
    rw [List.append_nil]
    exact readEntries_end depth fuel false entries rest
  | @cons text entry members table hmember _ ih =>
    obtain ⟨fuel, rfl⟩ := Nat.exists_eq_succ_of_ne_zero (Nat.ne_zero_of_lt hfuel)
    obtain ⟨next, after, hnext, hafter⟩ := exists_next members rest
    have hfresh : entry.1 ∉ entries.map (·.1) := by
      rw [List.map_append, List.map_cons] at hkeys
      exact fun hmem => (List.nodup_append.mp hkeys).2.2 _ hmem _ List.mem_cons_self rfl
    have hput : entries.put entry.1 entry.2 = entries ++ [entry] := put_of_not_mem hfresh entry.2
    have happend : entries ++ entry :: table = entries ++ [entry] ++ table :=
      List.append_cons entries entry table
    rw [happend] at hkeys ⊢
    have hmore := ih (Nat.lt_of_succ_lt_succ hfuel) hkeys
    rw [hafter] at hmore
    rw [List.flatMap_cons, List.append_assoc, hafter, List.cons_append,
      readEntries_next hmember hnext, hput, hmore]

/-- The members between the braces are read. -/
theorem readEntries_all {depth : Nat} {members : List (List Char)} {table : Table}
    (h : List.Forall₂ (IsMember depth) members table) {fuel : Nat} (hfuel : members.length < fuel)
    (hkeys : (table.map (·.1)).Nodup) (rest : List Char) :
    readEntries (readValue depth) fuel true [] ([','].intercalate members ++ '\x7d' :: rest) =
    .ok (table, rest) := by
  obtain ⟨fuel, rfl⟩ := Nat.exists_eq_succ_of_ne_zero (Nat.ne_zero_of_lt hfuel)
  cases h with
  | nil => exact readEntries_end depth fuel true [] rest
  | @cons text entry members table hmember hmembers =>
    obtain ⟨next, after, hnext, hafter⟩ := exists_next members rest
    have hmore : readEntries (readValue depth) fuel false [entry] (next :: after) =
        .ok (entry :: table, rest) := by
      rw [← hafter]
      exact readEntries_more hmembers (Nat.lt_of_succ_lt_succ hfuel) hkeys rest
    rw [intercalate_comma, List.append_assoc, hafter, readEntries_first hmember hnext]
    exact hmore

/-! ## Objects -/

theorem length_le_intercalate (members : List (List Char)) :
    members.length ≤ ([','].intercalate members).length + 1 := by
  cases members with
  | nil => exact Nat.zero_le _
  | cons text more =>
    have hmore : more.length ≤ (more.flatMap (',' :: ·)).length := by
      induction more with
      | nil => exact Nat.le_refl 0
      | cons next rest ih =>
        rw [List.flatMap_cons, List.length_append, List.length_cons, List.length_cons]
        omega
    rw [intercalate_comma, List.length_append, List.length_cons]
    omega

/-- An object of distinct keys is a value. -/
theorem readValue_object {depth : Nat} {text : List Char} {table : Table}
    (h : IsObject depth text table) (hkeys : (table.map (·.1)).Nodup) (rest : List Char) :
    readValue (depth + 1) (text ++ rest) = .ok (.table table, rest) := by
  obtain ⟨hmembers⟩ := h
  rename_i members
  have hskip : skip ('\x7b' :: [','].intercalate members ++ ['\x7d'] ++ rest) =
      '\x7b' :: ([','].intercalate members ++ '\x7d' :: rest) := by
    rw [List.append_assoc, List.cons_append, skip_of_not rfl, List.singleton_append]
  have hfuel : members.length < ([','].intercalate members ++ '\x7d' :: rest).length + 1 := by
    have := length_le_intercalate members
    rw [List.length_append, List.length_cons]
    omega
  have hread := readEntries_all hmembers hfuel hkeys rest
  rw [readValue, hskip]
  exact ok_of_bind.mpr ⟨_, hread, rfl⟩

/-- A text that is an object of distinct keys is read. -/
theorem read_object {s : String} {table : Table} (h : IsObject 126 s.toList table)
    (hkeys : (table.map (·.1)).Nodup) : read s = .ok (.table table) := by
  have hread := readValue_object h hkeys []
  rw [List.append_nil] at hread
  exact ok_of_bind.mpr ⟨_, hread, rfl⟩

/-! ## Writing -/

theorem reads_writeString (depth : Nat) (x : String) :
    Reads depth (writeString x).toList (.ofText x) :=
  fun _ _ _ => takesStrings_readValue depth _ x (isString_writeString x) _

theorem reads_writeStrings (depth : Nat) (xs : List String) :
    Reads (depth + 1) (writeStrings xs).toList (.list none (xs.map .ofText)) :=
  fun _ _ _ => readValue_list (isList_writeStrings xs) depth _

/-- A key with the text of its value, and the entry that they are read as. -/
def Writes (depth : Nat) (member : String × String) (entry : String × Value) : Prop :=
  member.1 = entry.1 ∧ Reads depth member.2.toList entry.2

/-- An object that is written is one. -/
theorem isObject_writeObject {depth : Nat} {members : List (String × String)} {table : Table}
    (h : List.Forall₂ (Writes depth) members table) :
    IsObject depth (writeObject members).toList table := by
  have hmembers : List.Forall₂ (IsMember depth)
      (members.map fun member => (writeString member.1).toList ++ ':' :: member.2.toList)
      table := by
    rw [List.forall₂_map_left_iff]
    refine h.imp fun member entry hmember => ?_
    obtain ⟨hkey, hvalue⟩ := hmember
    have hstring := isString_writeString member.1
    rw [hkey] at hstring ⊢
    exact .colon hstring hvalue
  have htext : (writeObject members).toList =
      '\x7b' :: [','].intercalate
        (members.map fun member => (writeString member.1).toList ++ ':' :: member.2.toList) ++
        ['\x7d'] := by
    unfold writeObject
    simp [Function.comp_def]
  rw [htext]
  exact .braces hmembers

/-- An object of distinct keys that is written is read back. -/
theorem read_writeObject {members : List (String × String)} {table : Table}
    (h : List.Forall₂ (Writes 126) members table) (hkeys : (table.map (·.1)).Nodup) :
    read (writeObject members) = .ok (.table table) :=
  read_object (isObject_writeObject h) hkeys

/-- A document with one list of strings is read back. -/
theorem read_writeObject_list (key : String) (xs : List String) :
    read (writeObject [(key, writeStrings xs)]) =
    .ok (.table [(key, .list none (xs.map .ofText))]) :=
  read_writeObject (.cons ⟨rfl, reads_writeStrings 125 xs⟩ .nil) (by simp)

end Chassis.Document.Json
