-- The ways to write a list of origins: as a list of texts, as a JSON list in a text, or with
-- commas. Each is read as the trimmed entries that are not empty, and these are what is left of
-- themselves.
import Chassis.Proofs.Document.Strings
import Chassis.Proofs.Settings.Precedence
import Chassis.Proofs.Text.Blank

namespace Chassis.Settings

open Document
open Document.Json (AreSpaces IsListText)
open Text (AreBlanks)

/-! ## Tidy entries -/

theorem mem_tidy {entries : List String} {entry : String} (h : entry ∈ tidy entries) :
    entry ≠ "" ∧ Text.trimmed entry = entry := by
  unfold tidy at h
  obtain ⟨hmem, hne⟩ := List.mem_filter.mp h
  obtain ⟨raw, -, rfl⟩ := List.mem_map.mp hmem
  exact ⟨of_decide_eq_true hne, Text.trimmed_trimmed raw⟩

theorem tidy_eq_self {entries : List String}
    (h : ∀ entry ∈ entries, entry ≠ "" ∧ Text.trimmed entry = entry) :
    tidy entries = entries := by
  have hmap : entries.map Text.trimmed = entries := by
    rw [List.map_congr_left fun entry hentry => (h entry hentry).2, List.map_id']
  unfold tidy
  rw [hmap, List.filter_eq_self]
  exact fun entry hentry => decide_eq_true (h entry hentry).1

/-- Tidy entries are what is left of themselves. -/
theorem tidy_tidy (entries : List String) : tidy (tidy entries) = tidy entries :=
  tidy_eq_self fun _ => mem_tidy

/-- What counts of an entry is what is left when it is trimmed. -/
theorem tidy_congr {entries others : List String}
    (h : entries.map Text.trimmed = others.map Text.trimmed) :
    tidy entries = tidy others := by
  unfold tidy
  rw [h]

/-! ## Parts between commas -/

section

variable {separator : Char} {s more : List Char} (hmore : separator ∉ more)
include hmore

/-- What stands in front of a text and has no separator belongs to its first part. -/
theorem splitOn_front : ∃ first parts, s.splitOn separator = first :: parts ∧
    (more ++ s).splitOn separator = (more ++ first) :: parts := by
  induction more with
  | nil =>
    cases hparts : s.splitOn separator with
    | nil => exact absurd hparts (List.splitOn_ne_nil _ _)
    | cons first parts => exact ⟨first, parts, rfl, hparts⟩
  | cons c rest ih =>
    obtain ⟨hne, hrest⟩ := not_or.mp (mt List.mem_cons.mpr hmore)
    obtain ⟨first, parts, hs, hfront⟩ := ih hrest
    refine ⟨first, parts, hs, ?_⟩
    rw [List.cons_append, List.splitOn_cons_eq_if_modifyHead, hfront,
      if_neg (by simpa using Ne.symm hne)]
    rfl

/-- What stands behind a text and has no separator belongs to its last part. -/
theorem splitOn_back : ∃ parts last, s.splitOn separator = parts ++ [last] ∧
    (s ++ more).splitOn separator = parts ++ [last ++ more] := by
  induction s with
  | nil => exact ⟨[], [], List.splitOn_nil _, List.splitOn_eq_singleton hmore⟩
  | cons c rest ih =>
    obtain ⟨parts, last, hrest, hback⟩ := ih
    rw [List.cons_append, List.splitOn_cons_eq_if_modifyHead, List.splitOn_cons_eq_if_modifyHead,
      hrest, hback]
    by_cases hc : (c == separator) = true
    · rw [if_pos hc, if_pos hc]
      exact ⟨[] :: parts, last, rfl, rfl⟩
    · rw [if_neg hc, if_neg hc]
      cases parts with
      | nil => exact ⟨[], c :: last, rfl, rfl⟩
      | cons part parts => exact ⟨(c :: part) :: parts, last, rfl, rfl⟩

end

/-- Entries without separators are the parts of what joins them. -/
theorem splitOn_intercalate {entries : List String} (hne : entries ≠ [])
    (h : ∀ entry ∈ entries, ',' ∉ entry.toList) :
    ((",".intercalate entries).toList.splitOn ',').map String.ofList = entries := by
  have hparts : ∀ part ∈ entries.map String.toList, ',' ∉ part := by
    intro part hpart
    obtain ⟨entry, hentry, rfl⟩ := List.mem_map.mp hpart
    exact h entry hentry
  have hcomma : ",".toList = [','] := rfl
  rw [String.toList_intercalate, hcomma,
    List.splitOn_intercalate ',' hparts (by simpa using hne), List.map_map]
  simp [Function.comp_def]

/-! ## From a text to the list -/

/-- The first character of a text that is not blank is an opening bracket. -/
def StartsList (s : String) : Prop := (Text.trimStart s.toList).head? = some '['

instance (s : String) : Decidable (StartsList s) :=
  inferInstanceAs (Decidable ((Text.trimStart s.toList).head? = some '['))

theorem originsOfText_of_startsList {s : String} (h : StartsList s) :
    originsOfText s = (Json.readStrings s).map tidy := by
  unfold originsOfText
  split
  · rfl
  · rename_i hother
    obtain ⟨rest, hrest⟩ := List.head?_eq_some_iff.mp h
    exact absurd hrest (hother rest)

theorem originsOfText_of_not {s : String} (h : ¬StartsList s) :
    originsOfText s = .ok (tidy ((s.toList.splitOn ',').map String.ofList)) := by
  unfold originsOfText
  split
  · rename_i hbracket
    exact absurd (by rw [StartsList, hbracket, List.head?_cons]) h
  · rfl

theorem isBlank_of_isSpace {c : Char} (h : Json.isSpace c = true) : Text.isBlank c = true := by
  unfold Json.isSpace at h
  simp only [Bool.or_eq_true, beq_iff_eq] at h
  rcases h with ((rfl | rfl) | rfl) | rfl <;> decide

theorem areBlanks_of_areSpaces {s : List Char} (h : AreSpaces s) : AreBlanks s :=
  fun c hc => isBlank_of_isSpace (h c hc)

theorem startsList_of_isListText {s : String} {entries : List String} (h : IsListText s entries) :
    StartsList s := by
  obtain ⟨w, _, w', hw, -, ⟨hinner⟩, hs⟩ := h
  unfold StartsList
  rw [hs, Text.trimStart_front (areBlanks_of_areSpaces hw)]
  rfl

/-- A text that looks like a JSON list is read if it is one. -/
theorem originsOfText_eq_ok {s : String} (h : StartsList s) {origins : List String} :
    originsOfText s = .ok origins ↔ ∃ entries, IsListText s entries ∧ tidy entries = origins := by
  rw [originsOfText_of_startsList h]
  simp only [← Json.readStrings_eq_ok]
  cases Json.readStrings s with
  | error fault => simp [Except.map]
  | ok entries => simp [Except.map]

theorem originsOfText_commas {entries : List String} (h : ∀ entry ∈ entries, ',' ∉ entry.toList)
    (hstart : ¬StartsList (",".intercalate entries)) :
    originsOfText (",".intercalate entries) = .ok (tidy entries) := by
  rw [originsOfText_of_not hstart]
  by_cases hne : entries = []
  · subst hne
    rfl
  · rw [splitOn_intercalate hne h]

/-! ## Blanks around a text -/

theorem comma_not_mem {blanks : List Char} (h : AreBlanks blanks) : ',' ∉ blanks :=
  fun hcomma => absurd (h ',' hcomma) (by decide)

theorem trim_parts_front {blanks : List Char} (h : AreBlanks blanks) (s : List Char) :
    ((blanks ++ s).splitOn ',').map Text.trim = (s.splitOn ',').map Text.trim := by
  obtain ⟨first, parts, hs, hfront⟩ := splitOn_front (s := s) (comma_not_mem h)
  rw [hfront, hs, List.map_cons, List.map_cons, Text.trim_front h]

theorem trim_parts_back (s : List Char) {blanks : List Char} (h : AreBlanks blanks) :
    ((s ++ blanks).splitOn ',').map Text.trim = (s.splitOn ',').map Text.trim := by
  obtain ⟨parts, last, hs, hback⟩ := splitOn_back (s := s) (comma_not_mem h)
  rw [hback, hs, List.map_append, List.map_append, List.map_singleton, List.map_singleton,
    Text.trim_back last h]

section

variable {u s v : String} (hu : AreBlanks u.toList) (hv : AreBlanks v.toList)
include hu hv

theorem startsList_padded : StartsList (u ++ s ++ v) ↔ StartsList s := by
  unfold StartsList
  rw [String.toList_append, String.toList_append, Text.head?_trimStart_back _ hv,
    Text.trimStart_front hu]

/-- Blanks around a text with commas belong to its first entry and to its last one, and are
trimmed. -/
theorem originsOfText_padded (hs : ¬StartsList s) :
    originsOfText (u ++ s ++ v) = originsOfText s := by
  have htrim (parts : List (List Char)) :
      (parts.map String.ofList).map Text.trimmed = (parts.map Text.trim).map String.ofList := by
    rw [List.map_map, List.map_map]
    refine List.map_congr_left fun part _ => ?_
    rw [Function.comp_apply, Text.trimmed, String.toList_ofList, Function.comp_apply]
  rw [originsOfText_of_not hs, originsOfText_of_not ((startsList_padded hu hv).not.mpr hs),
    String.toList_append, String.toList_append]
  refine congrArg Except.ok (tidy_congr ?_)
  rw [htrim, htrim, trim_parts_back _ hv, trim_parts_front hu]

/-- A list that is padded is one only if no other white space is put around it than what JSON
allows. -/
theorem isListText_padded {entries : List String} :
    IsListText (u ++ s ++ v) entries ↔ IsListText s entries ∧ AreSpaces u.toList ∧
    AreSpaces v.toList := by
  unfold IsListText
  rw [String.toList_append, String.toList_append, List.append_assoc]
  constructor
  · rintro ⟨w, _, w', hw, hw', ⟨hinner⟩, h⟩
    rename_i inner
    obtain ⟨front, rfl, hfront⟩ := Text.exists_front (c := '[') hu rfl h
    have hback : s.toList ++ v.toList = (front ++ '[' :: inner) ++ ']' :: w' := by
      rw [hfront]
      simp
    obtain ⟨back, rfl, hs⟩ := Text.exists_back hv rfl hback
    have hmore (c : Char) (hc : c ∈ front) : Json.isSpace c = true :=
      hw c (List.mem_append_right _ hc)
    have hless (c : Char) (hc : c ∈ back) : Json.isSpace c = true :=
      hw' c (List.mem_append_left _ hc)
    refine ⟨⟨front, _, back, hmore, hless, .brackets hinner, by rw [hs]; simp⟩, ?_, ?_⟩
    · exact fun c hc => hw c (List.mem_append_left _ hc)
    · exact fun c hc => hw' c (List.mem_append_right _ hc)
  · rintro ⟨⟨w, text, w', hw, hw', htext, hs⟩, hspaces, hspaces'⟩
    refine ⟨u.toList ++ w, text, w' ++ v.toList, ?_, ?_, htext, by rw [hs]; simp⟩
    · exact fun c hc => (List.mem_append.mp hc).elim (hspaces c) (hw c)
    · exact fun c hc => (List.mem_append.mp hc).elim (hw' c) (hspaces' c)

end

/-! ## From a value to the list -/

theorem originsOfText_tidy {text : String} {origins : List String}
    (h : originsOfText text = .ok origins) :
    ∃ entries, origins = tidy entries := by
  unfold originsOfText at h
  split at h
  · rcases hread : Json.readStrings text with fault | entries
    · rw [hread] at h
      cases h
    · rw [hread] at h
      cases h
      exact ⟨entries, rfl⟩
  · cases h
    exact ⟨_, rfl⟩

/-- However the origins are written, what is read are trimmed entries that are not empty. -/
theorem asOrigins_tidy {value : Value} {origins : List String} (h : asOrigins value = .ok origins) :
    ∃ entries, origins = tidy entries := by
  unfold asOrigins at h
  split at h
  · split at h
    · rename_i hread
      cases h
      exact originsOfText_tidy hread
    · cases h
  · split at h
    · cases h
      exact ⟨_, rfl⟩
    · cases h
  · cases h

theorem asOrigins_text (origin : Option String) (s : String) :
    asOrigins (.scalar origin (.text s)) = (originsOfText s).mapError .json := by
  unfold asOrigins
  dsimp only
  cases originsOfText s <;> rfl

theorem asOrigins_of_read {value : Value} {origins : List String} :
    Setting.corsOrigins.read value = .ok origins ↔ asOrigins value = .ok origins := ok_of_mapError

theorem read_ofVariable {s : String} {origins : List String} :
    Setting.corsOrigins.read (ofVariable s) = .ok origins ↔ originsOfText s = .ok origins := by
  rw [asOrigins_of_read, ofVariable, asOrigins_text, ok_of_mapError]

theorem tidy_of_loaded {place : Place} {shelf : Shelf} {vars : Variables} {settings : Settings}
    (hload : ofShelf place shelf vars = .ok settings) :
    ∃ entries, settings.corsOrigins = tidy entries := by
  obtain ⟨_, _, _, hread⟩ := ofShelf_ok hload
  exact asOrigins_tidy (asOrigins_of_read.mp (hread .corsOrigins))

/-- The list is the one of the variable, when that is set. -/
theorem originsOfText_of_loaded {place : Place} {shelf : Shelf} {vars : Variables}
    {settings : Settings} (hload : ofShelf place shelf vars = .ok settings) {text : String}
    (htext : mentioned? vars "CORS_ORIGINS" = some text) :
    originsOfText text = .ok settings.corsOrigins := by
  obtain ⟨deployment, common, own, hread⟩ := ofShelf_ok hload
  have hvariable : mentioned? vars Setting.corsOrigins.variableName = some text := htext
  have horigins := hread .corsOrigins
  rw [childOf_mergedLayers_variable deployment vars hvariable] at horigins
  exact read_ofVariable.mp horigins

end Chassis.Settings
