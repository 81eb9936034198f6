-- Documents whose keys are plain names and whose values are no tables: laid over one another,
-- each key keeps the value of the highest document that mentions it, as a whole. Over documents
-- of any kind, the highest one still keeps its own.
import Mathlib.Data.List.TakeWhile
import Chassis.Settings.Layers

namespace Chassis.Settings

open Document

/-! ## Plain documents -/

/-- A key that is a single name. -/
def IsPlainKey (key : String) : Prop := key.toList ≠ [] ∧ key.toList.all KeyPath.isNameChar = true

instance (key : String) : Decidable (IsPlainKey key) :=
  inferInstanceAs (Decidable (key.toList ≠ [] ∧ key.toList.all KeyPath.isNameChar = true))

/-- A value that is laid over another entry by entry. -/
def isTable : Value → Bool
  | .table _ => true
  | _ => false

/-- A document of plain keys without tables. -/
def IsPlain (document : Table) : Prop := ∀ entry ∈ document, IsPlainKey entry.1 ∧
    isTable entry.2 = false

instance (document : Table) : Decidable (IsPlain document) :=
  inferInstanceAs (Decidable (∀ entry ∈ document, IsPlainKey entry.1 ∧ isTable entry.2 = false))

/-- The value that a list of keys and values has for a key. Of two values for a key the later one
wins. -/
def mentioned? {α : Type} : List (String × α) → String → Option α
  | [], _ => none
  | (k, value) :: rest, key => (mentioned? rest key).or (if k = key then some value else none)

/-- A key that stands for an entry of the document itself. -/
def IsTop (key : String) : Prop := KeyPath.ofKey key = [.field key]

theorem ofKey_plain {key : String} (h : IsPlainKey key) : IsTop key := by
  obtain ⟨hne, hall⟩ := h
  rw [List.all_eq_true] at hall
  have htake : key.toList.takeWhile KeyPath.isNameChar = key.toList :=
    List.takeWhile_eq_self_iff.mpr hall
  have hdrop : key.toList.dropWhile KeyPath.isNameChar = [] := List.dropWhile_eq_nil_iff.mpr hall
  unfold IsTop KeyPath.ofKey KeyPath.parse? KeyPath.name?
  rw [htake, hdrop]
  cases hlist : key.toList with
  | nil => exact absurd hlist hne
  | cons c rest =>
    have hkey : String.ofList (c :: rest) = key := by rw [← hlist, String.ofList_toList]
    simp [KeyPath.steps?, hkey]

/-! ## Entries of tables -/

theorem get?_cons (entry : String × Value) (entries : Table) (key : String) :
    Table.get? (entry :: entries) key = if entry.1 = key then some entry.2
    else Table.get? entries key := by
  unfold Table.get?
  by_cases h : entry.1 = key
  · simp [h]
  · simp [h]

theorem get?_put (table : Table) (key : String) (value : Value) (other : String) :
    (table.put key value).get? other = if key = other then some value else table.get? other := by
  induction table with
  | nil => rw [Table.put, get?_cons]
  | cons entry rest ih =>
    rw [Table.put]
    split
    · rename_i heq
      rw [beq_iff_eq] at heq
      rw [get?_cons, get?_cons, heq]
      split <;> rfl
    · rename_i hne
      rw [beq_iff_eq] at hne
      rw [get?_cons, ih, get?_cons]
      by_cases h : entry.1 = other
      · rw [if_pos h, if_pos h, if_neg fun hkey => hne (h.trans hkey.symm)]
      · rw [if_neg h, if_neg h]

theorem mentioned?_append {α : Type} (lower upper : List (String × α)) (key : String) :
    mentioned? (lower ++ upper) key = (mentioned? upper key).or (mentioned? lower key) := by
  induction lower with
  | nil => simp [mentioned?]
  | cons entry rest ih =>
    obtain ⟨k, value⟩ := entry
    rw [List.cons_append, mentioned?, mentioned?, ih, Option.or_assoc]

/-- The keys of a table without repetitions. -/
def IsDistinct (table : Table) : Prop := (table.map (·.1)).Nodup

theorem keys_put (table : Table) (key : String) (value : Value) :
    (table.put key value).map (·.1) = if key ∈ table.map (·.1) then table.map (·.1)
    else table.map (·.1) ++ [key] := by
  induction table with
  | nil => rfl
  | cons entry rest ih =>
    rw [Table.put]
    split
    · rename_i heq
      rw [beq_iff_eq] at heq
      simp [heq]
    · rename_i hne
      rw [beq_iff_eq] at hne
      rw [List.map_cons, ih]
      by_cases h : key ∈ rest.map (·.1)
      · simp_all
      · have hnot : key ≠ entry.1 := fun heq => hne heq.symm
        simp_all

theorem IsDistinct.put {table : Table} (h : IsDistinct table) (key : String) (value : Value) :
    IsDistinct (table.put key value) := by
  unfold IsDistinct at *
  rw [keys_put]
  split
  · exact h
  · rename_i hnot
    rw [List.nodup_append]
    refine ⟨h, by simp, ?_⟩
    intro a ha b hb hab
    simp only [List.mem_singleton] at hb
    subst hb hab
    exact hnot ha

theorem mentioned?_of_not_mem {α : Type} {entries : List (String × α)} {key : String}
    (h : key ∉ entries.map (·.1)) : mentioned? entries key = none := by
  induction entries with
  | nil => rfl
  | cons entry rest ih =>
    rw [List.map_cons, List.mem_cons, not_or] at h
    rw [mentioned?, ih h.2, if_neg (Ne.symm h.1)]
    rfl

section

variable {α : Type} {entries : List (String × α)} (h : (entries.map (·.1)).Nodup)
include h

/-- With distinct keys there is one value for a key only. -/
theorem mentioned?_eq_find? (key : String) :
    mentioned? entries key = (entries.find? (·.1 == key)).map (·.2) := by
  induction entries with
  | nil => rfl
  | cons entry rest ih =>
    obtain ⟨hnot, hrest⟩ := List.nodup_cons.mp h
    rw [mentioned?]
    by_cases heq : entry.1 = key
    · rw [mentioned?_of_not_mem (heq ▸ hnot)]
      simp [heq]
    · have hfirst : (entry.1 == key) = false := beq_false_of_ne heq
      rw [ih hrest]
      simp [hfirst, heq]

theorem mentioned?_of_mem {key : String} {value : α} (hmem : (key, value) ∈ entries) :
    mentioned? entries key = some value := by
  induction entries with
  | nil => cases hmem
  | cons entry rest ih =>
    obtain ⟨hnot, hrest⟩ := List.nodup_cons.mp h
    rw [mentioned?]
    rcases List.mem_cons.mp hmem with rfl | hmem
    · rw [mentioned?_of_not_mem hnot, Option.none_or, if_pos rfl]
    · rw [ih hrest hmem, Option.some_or]

end

theorem mentioned?_eq_get? {table : Table} (h : IsDistinct table) (key : String) :
    mentioned? table key = table.get? key := mentioned?_eq_find? h key

/-! ## Laying plain documents -/

/-- A table with the entries of a document put into it, one after another. -/
def putAll (table document : Table) : Table :=
  document.foldl (fun table entry => table.put entry.1 entry.2) table

theorem layEntry_top (table : Table) {entry : String × Value} (hkey : IsTop entry.1) :
    layEntry (.table table) entry =
    .table (table.put entry.1 (lay (childOf table entry.1) entry.2)) := by
  unfold layEntry
  rw [hkey]
  rfl

theorem lay_of_not_table (lower : Value) {value : Value} (h : isTable value = false) :
    lay lower value = value := by
  cases value with
  | scalar origin content => rw [lay]
  | list origin items => rw [lay]
  | table entries => cases h

theorem layEntry_plain (table : Table) {entry : String × Value} (hkey : IsPlainKey entry.1)
    (hvalue : isTable entry.2 = false) :
    layEntry (.table table) entry = .table (table.put entry.1 entry.2) := by
  rw [layEntry_top table (ofKey_plain hkey), lay_of_not_table _ hvalue]

theorem layDocument_plain (table : Table) {document : Table} (h : IsPlain document) :
    layDocument (.table table) document = .table (putAll table document) := by
  unfold layDocument putAll
  induction document generalizing table with
  | nil => rfl
  | cons entry rest ih =>
    obtain ⟨hkey, hvalue⟩ := h entry List.mem_cons_self
    rw [List.foldl_cons, List.foldl_cons, layEntry_plain table hkey hvalue]
    exact ih _ fun other hother => h other (List.mem_cons_of_mem _ hother)

theorem get?_putAll (table document : Table) (key : String) :
    (putAll table document).get? key = (mentioned? document key).or (table.get? key) := by
  unfold putAll
  induction document generalizing table with
  | nil => rfl
  | cons entry rest ih =>
    rw [List.foldl_cons, ih, get?_put, mentioned?, Option.or_assoc]
    congr 1
    split <;> rfl

theorem IsDistinct.putAll {table : Table} (h : IsDistinct table) (document : Table) :
    IsDistinct (putAll table document) := by
  unfold Settings.putAll
  induction document generalizing table with
  | nil => exact h
  | cons entry rest ih => exact ih (h.put entry.1 entry.2)

theorem mem_put {table : Table} {key : String} {value : Value} {entry : String × Value}
    (h : entry ∈ table.put key value) : entry = (key, value) ∨ entry ∈ table := by
  induction table with
  | nil => exact Or.inl (List.mem_singleton.mp h)
  | cons first rest ih =>
    rw [Table.put] at h
    split at h
    · rcases List.mem_cons.mp h with heq | hmem
      · exact Or.inl heq
      · exact Or.inr (List.mem_cons_of_mem _ hmem)
    · rcases List.mem_cons.mp h with heq | hmem
      · exact Or.inr (heq ▸ List.mem_cons_self)
      · exact (ih hmem).imp_right (List.mem_cons_of_mem _)

theorem IsPlain.putAll {table document : Table} (h : IsPlain table) (hdocument : IsPlain document) :
    IsPlain (putAll table document) := by
  unfold Settings.putAll
  induction document generalizing table with
  | nil => exact h
  | cons entry rest ih =>
    refine ih (fun other hother => ?_) fun other hother =>
      hdocument other (List.mem_cons_of_mem _ hother)
    rcases mem_put hother with rfl | hmem
    · exact hdocument entry List.mem_cons_self
    · exact h other hmem

/-- Documents are merged among themselves first, and then laid over the defaults. -/
theorem overDefaults_plain (defaults : Table) {documents : List Table}
    (h : ∀ document ∈ documents, IsPlain document) (key : String) :
    (overDefaults defaults documents).get? key =
    (mentioned? documents.flatten key).or (defaults.get? key) := by
  have hmerge {below : Table} {documents : List Table}
      (h : ∀ document ∈ documents, IsPlain document) :
      documents.foldl layDocument (.table below) = .table (putAll below documents.flatten) := by
    induction documents generalizing below with
    | nil => rfl
    | cons document rest ih =>
      rw [List.foldl_cons, layDocument_plain below (h document List.mem_cons_self),
        ih fun other hother => h other (List.mem_cons_of_mem _ hother), List.flatten_cons]
      unfold putAll
      rw [List.foldl_append]
  have hflat : IsPlain documents.flatten := fun entry hentry => by
    obtain ⟨document, hdocument, hmem⟩ := List.mem_flatten.mp hentry
    exact h document hdocument entry hmem
  have hnil : IsPlain ([] : Table) := fun entry hentry => by cases hentry
  have hempty : IsDistinct ([] : Table) := List.nodup_nil
  have hmerged : merge documents = putAll [] documents.flatten := by
    unfold merge
    rw [Value.emptyTable, hmerge h]
    rfl
  unfold overDefaults
  rw [hmerged, layDocument_plain defaults (hnil.putAll hflat)]
  simp only [entriesOf]
  rw [get?_putAll, mentioned?_eq_get? (hempty.putAll _), get?_putAll]
  cases mentioned? documents.flatten key <;> rfl

/-! ## Any documents -/

/-- A table whose keys are distinct and stand for themselves. -/
structure IsFlat (table : Table) : Prop where
  distinct : IsDistinct table
  top : ∀ key ∈ table.map (·.1), IsTop key

theorem IsFlat.put {table : Table} (h : IsFlat table) {key : String} (hkey : IsTop key)
    (value : Value) :
    IsFlat (table.put key value) := by
  refine ⟨h.distinct.put key value, fun other hother => ?_⟩
  rw [keys_put] at hother
  split at hother
  · exact h.top other hother
  · rcases List.mem_append.mp hother with hmem | hmem
    · exact h.top other hmem
    · exact List.mem_singleton.mp hmem ▸ hkey

/-- The first step of every key is a key that stands for itself. -/
theorem ofKey_eq_cons (key : String) : ∃ name path, KeyPath.ofKey key = .field name :: path ∧
    IsTop name := by
  cases hparse : KeyPath.parse? key with
  | none =>
    have hself : KeyPath.ofKey key = [.field key] := by simp [KeyPath.ofKey, hparse]
    exact ⟨key, [], hself, hself⟩
  | some steps =>
    have hsteps : KeyPath.ofKey key = steps := by simp [KeyPath.ofKey, hparse]
    unfold KeyPath.parse? KeyPath.name? at hparse
    cases htake : key.toList.takeWhile KeyPath.isNameChar with
    | nil => simp [htake] at hparse
    | cons c rest =>
      have hplain : IsPlainKey (String.ofList (c :: rest)) := by
        unfold IsPlainKey
        rw [String.toList_ofList, List.all_eq_true, ← htake]
        refine ⟨by simp [htake], fun d hd => ?_⟩
        exact List.mem_takeWhile_imp hd
      simp only [htake, Option.bind_eq_bind, Option.bind_some, Option.bind_eq_some_iff,
        Option.pure_def, Option.some.injEq] at hparse
      obtain ⟨path, -, rfl⟩ := hparse
      exact ⟨_, path, hsteps, ofKey_plain hplain⟩

theorem isFlat_layDocument {table : Table} (h : IsFlat table) (document : Table) :
    ∃ table', layDocument (.table table) document = .table table' ∧ IsFlat table' := by
  unfold layDocument
  induction document generalizing table with
  | nil => exact ⟨table, rfl, h⟩
  | cons entry rest ih =>
    obtain ⟨name, path, hkey, hname⟩ := ofKey_eq_cons entry.1
    rw [List.foldl_cons, layEntry, hkey, adjust]
    exact ih (h.put hname _)

theorem isFlat_merged {table : Table} (h : IsFlat table) (documents : List Table) :
    ∃ table', documents.foldl layDocument (.table table) = .table table' ∧ IsFlat table' := by
  induction documents generalizing table with
  | nil => exact ⟨table, rfl, h⟩
  | cons document rest ih =>
    obtain ⟨table', heq, htable'⟩ := isFlat_layDocument h document
    rw [List.foldl_cons, heq]
    exact ih htable'

/-- A flat table that is laid over another one lays each of its entries over the one of its key. -/
theorem get?_layDocument_flat (lower : Table) {upper : Table} (h : IsFlat upper) (key : String) :
    (entriesOf (layDocument (.table lower) upper)).get? key =
      match upper.get? key with
      | some value => some (lay (childOf lower key) value)
      | none => lower.get? key := by
  unfold layDocument
  -- Along the upper table: an entry that was laid is not touched again, since no later one has its
  -- key.
  induction upper generalizing lower with
  | nil => rfl
  | cons entry rest ih =>
    obtain ⟨hnot, hdistinct⟩ := List.nodup_cons.mp h.distinct
    have hrest : IsFlat rest :=
      ⟨hdistinct, fun other hother => h.top other (List.mem_cons_of_mem _ hother)⟩
    rw [List.foldl_cons, layEntry_top lower (h.top entry.1 List.mem_cons_self),
      ih _ hrest, get?_cons]
    by_cases heq : entry.1 = key
    · have hnone : Table.get? rest key = none := by
        rw [← mentioned?_eq_get? hdistinct]
        exact mentioned?_of_not_mem (heq ▸ hnot)
      rw [hnone, if_pos heq, heq]
      simp only [get?_put, if_true]
    · have hlower (value : Value) : (lower.put entry.1 value).get? key = lower.get? key := by
        rw [get?_put, if_neg heq]
      rw [if_neg heq]
      unfold childOf
      simp only [hlower]

/-- With a plain document on top, what all documents say of a key is what it says, or what those
below it say. -/
theorem overDefaults_concat (defaults : Table) (documents : List Table) :
    ∃ below : Table, ∀ top : Table, IsPlain top → ∀ key,
      (overDefaults defaults (documents ++ [top])).get? key =
        match (mentioned? top key).or (below.get? key) with
        | some value => some (lay (childOf defaults key) value)
        | none => defaults.get? key := by
  have hempty : IsFlat ([] : Table) := ⟨List.nodup_nil, fun key hkey => by cases hkey⟩
  obtain ⟨below, hbelow, hflat⟩ := isFlat_merged hempty documents
  refine ⟨below, fun top htop key => ?_⟩
  obtain ⟨all, hall, hflat'⟩ := isFlat_layDocument hflat top
  have hmerge : merge (documents ++ [top]) = all := by
    unfold merge
    rw [List.foldl_append, Value.emptyTable, hbelow, List.foldl_cons, List.foldl_nil, hall]
    rfl
  have hput : all = putAll below top := by
    rw [layDocument_plain below htop, Value.table.injEq] at hall
    exact hall.symm
  unfold overDefaults
  rw [hmerge, get?_layDocument_flat defaults hflat', hput, get?_putAll]

/-- What a plain document on top says of a key stands, whatever is below it. -/
theorem overDefaults_top (defaults : Table) (documents : List Table) {top : Table}
    (htop : IsPlain top) {key : String} {value : Value} (hvalue : mentioned? top key = some value)
    (htable : isTable value = false) :
    (overDefaults defaults (documents ++ [top])).get? key = some value := by
  obtain ⟨below, hget⟩ := overDefaults_concat defaults documents
  rw [hget top htop, hvalue, Option.some_or]
  dsimp only
  rw [lay_of_not_table _ htable]

end Chassis.Settings
