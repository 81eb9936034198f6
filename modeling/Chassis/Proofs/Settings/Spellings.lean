-- Origins may be given in three ways that come to the same list. White space around the list does
-- not matter between commas; around a JSON list it must be what JSON allows.
import Chassis.Proofs.Settings.Origins
import Chassis.Proofs.Settings.Single

namespace Chassis.Settings

open Document
open Document.Json (AreSpaces IsListText)
open Text (AreBlanks)

/-! ## The ways to give a list -/

/-- An item of a list that is a text. -/
def IsTextOf (item : Value) (entry : String) : Prop := ∃ origin, item = .scalar origin (.text entry)

/-- The ways to give a list of origins: as a list of texts, as a text that is a JSON list, and as a
text with commas, if no entry has one and the whole does not look like a JSON list. -/
inductive Spells : Value → List String → Prop
  | list {origin : Option String} {items : List Value} {entries : List String} :
      List.Forall₂ IsTextOf items entries → Spells (.list origin items) entries
  | json {origin : Option String} {s : String} {entries : List String} :
      IsListText s entries → Spells (.scalar origin (.text s)) entries
  | commas {origin : Option String} {entries : List String} :
      (∀ entry ∈ entries, ',' ∉ entry.toList) → ¬StartsList (",".intercalate entries) →
      Spells (.scalar origin (.text (",".intercalate entries))) entries

theorem textsOf?_eq_some {items : List Value} {entries : List String}
    (h : List.Forall₂ IsTextOf items entries) :
    textsOf? items = some entries := by
  unfold textsOf?
  induction h with
  | nil => rfl
  | cons hitem _ ih =>
    obtain ⟨origin, rfl⟩ := hitem
    rw [List.mapM_cons, ih]
    rfl

theorem Spells.isTable {value : Value} {entries : List String} (h : Spells value entries) :
    isTable value = false := by
  cases h <;> rfl

/-- However a list is given, it is read as its tidy entries. -/
theorem read_of_spells {value : Value} {entries : List String} (h : Spells value entries) :
    Setting.corsOrigins.read value = .ok (tidy entries) := by
  refine asOrigins_of_read.mpr ?_
  cases h with
  | list hitems =>
    unfold asOrigins
    simp only [textsOf?_eq_some hitems]
  | json hlist =>
    rw [asOrigins_text, (originsOfText_eq_ok (startsList_of_isListText hlist)).mpr
      ⟨entries, hlist, rfl⟩]
    rfl
  | commas hcommas hstart =>
    rw [asOrigins_text, originsOfText_commas hcommas hstart]
    rfl

/-- What looks like a JSON list and is none cannot be read. -/
theorem read_of_not_listText {origin : Option String} {s : String} (hstart : StartsList s)
    (hnot : ¬∃ entries, IsListText s entries) :
    ∃ fault, Setting.corsOrigins.read (.scalar origin (.text s)) =
      .error (.misread "cors_origins" (.origins (.json fault))) := by
  rcases hread : Json.readStrings s with fault | entries
  · have hvalue : asOrigins (.scalar origin (.text s)) = .error (.json fault) := by
      rw [asOrigins_text, originsOfText_of_startsList hstart, hread]
      rfl
    exact ⟨fault, error_of_mapError.mpr ⟨_, hvalue, rfl⟩⟩
  · exact absurd ⟨entries, Json.readStrings_eq_ok.mp hread⟩ hnot

/-! ## Loading them -/

/-- A value for the origins with which settings can be loaded if the rest can be read, and then have
these origins. -/
def Yields (value : Value) (origins : List String) : Prop :=
  ∀ place shelf vars deployment common own, Opened place shelf vars deployment common own →
    Gives common own vars .corsOrigins value →
      ((∃ settings, ofShelf place shelf vars = .ok settings) ↔
        RestReads (mergedLayers deployment common own vars) .corsOrigins) ∧
      ∀ settings, ofShelf place shelf vars = .ok settings → settings.corsOrigins = origins

/-- A value for the origins with which no settings can be loaded. The configuration is called
invalid, on account of this value when the rest can be read. -/
def Refuses (value : Value) : Prop :=
  ∀ place shelf vars deployment common own, Opened place shelf vars deployment common own →
    Gives common own vars .corsOrigins value →
      ∃ fault detail, ofShelf place shelf vars = .error fault ∧
        fault.message = "invalid configuration: " ++ detail ∧
        (RestReads (mergedLayers deployment common own vars) .corsOrigins →
          ∃ jsonFault, fault = .misread "cors_origins" (.origins (.json jsonFault)))

theorem yields_of_spells {value : Value} {entries : List String} (h : Spells value entries) :
    Yields value (tidy entries) := by
  intro place shelf vars deployment common own hopened hgives
  have hread := read_of_spells h
  refine ⟨hopened.exists_settings hgives h.isTable hread, fun settings hload => ?_⟩
  have hself := ((hopened.ofShelf_eq_ok hgives h.isTable).mp hload).2.1
  exact Except.ok.inj (hself.symm.trans hread)

theorem refuses_of_not_listText {origin : Option String} {s : String} (hstart : StartsList s)
    (hnot : ¬∃ entries, IsListText s entries) : Refuses (.scalar origin (.text s)) := by
  intro place shelf vars deployment common own hopened hgives
  obtain ⟨jsonFault, hfault⟩ := read_of_not_listText hstart hnot
  obtain ⟨fault, key, hload, hkey, hown⟩ := hopened.exists_fault hgives rfl hfault
  obtain ⟨detail, -, hmessage⟩ := Fault.message_of_key? hkey
  exact ⟨fault, detail, hload, hmessage, fun hrest => ⟨jsonFault, hown hrest⟩⟩

/-! ## Nothing but a list -/

/-- A JSON document that gives a list of origins and nothing else. -/
def listDocument (entries : List String) : String :=
  Json.writeObject [("cors_origins", Json.writeStrings entries)]

/-- The list as it is read from a document. -/
def listedValue (origin : String) (entries : List String) : Value :=
  .list (some origin) (entries.map fun entry => .scalar (some origin) (.text entry))

theorem spells_listedValue (origin : String) (entries : List String) :
    Spells (listedValue origin entries) entries := by
  refine .list ?_
  rw [List.forall₂_map_left_iff, List.forall₂_same]
  exact fun entry _ => ⟨_, rfl⟩

theorem stampItems_texts (origin : String) (entries : List String) :
    Value.stampItems origin (entries.map .ofText) = entries.map fun entry =>
    .scalar (some origin) (.text entry) := by
  induction entries with
  | nil => rfl
  | cons entry rest ih =>
    rw [List.map_cons, Value.stampItems, ih]
    rfl

/-- A list that is all there is in a document is loaded. -/
theorem exists_settings_of_document (place : Place) (entries : List String) :
    ∃ settings, ofShelf place (commonAlone (listDocument entries)) [] = .ok settings ∧
      settings.corsOrigins = tidy entries := by
  have hdocument := Json.read_writeObject_list Setting.corsOrigins.key entries
  have hread := read_of_spells (spells_listedValue (place.origin "appsettings.json") entries)
  have hstamp : (Value.list none (entries.map .ofText)).stamp (place.origin "appsettings.json") =
      listedValue (place.origin "appsettings.json") entries := by
    rw [Value.stamp, stampItems_texts]
    rfl
  rw [← hstamp] at hread
  exact (loads_alone_iff place hdocument rfl).mpr hread

/-- A list that is all there is among the variables, as JSON, is loaded. -/
theorem exists_settings_of_variable (place : Place) (entries : List String) :
    ∃ settings, ofShelf place (fun _ => none) [("CORS_ORIGINS", Json.writeStrings entries)] =
      .ok settings ∧
      settings.corsOrigins = tidy entries := by
  have hopened : Opened place (fun _ => none) [("CORS_ORIGINS", Json.writeStrings entries)]
      .dev [] [] :=
    ⟨rfl, rfl, rfl⟩
  have hspells : Spells (ofVariable (Json.writeStrings entries)) entries :=
    .json (Json.isListText_writeStrings entries)
  obtain ⟨hloads, horigins⟩ := yields_of_spells hspells _ _ _ _ _ _ hopened (.byVariable rfl)
  have hrest : RestReads (mergedLayers .dev [] [] [("CORS_ORIGINS", Json.writeStrings entries)])
      .corsOrigins :=
    @restReads_set [] .corsOrigins _ _ _ _ |>.mpr (restReads_defaults .corsOrigins)
  obtain ⟨settings, hload⟩ := hloads.mpr hrest
  exact ⟨settings, hload, horigins settings hload⟩

/-! ## Three ways -/

/-- Every list of origins can be given as a list and as JSON, and one without commas that does not
look like JSON with commas too: whichever it is, its entries are loaded, trimmed and without the
empty ones. Origins that are loaded are trimmed and not empty, and are loaded again as they are. A
text that looks like a JSON list is one, or is refused. -/
theorem origins_may_be_given_in_three_ways :
    (∀ value entries, Spells value entries → Yields value (tidy entries)) ∧
      (∀ place entries,
        (∃ settings, ofShelf place (commonAlone (listDocument entries)) [] = .ok settings ∧
          settings.corsOrigins = tidy entries) ∧
        ∃ settings, ofShelf place (fun _ => none) [("CORS_ORIGINS", Json.writeStrings entries)] =
          .ok settings ∧
          settings.corsOrigins = tidy entries) ∧
      (∀ place shelf vars settings, ofShelf place shelf vars = .ok settings →
        (∀ entry ∈ settings.corsOrigins, entry ≠ "" ∧ Text.trimmed entry = entry) ∧
          ∀ value, Spells value settings.corsOrigins → Yields value settings.corsOrigins) ∧
      ∀ origin s, StartsList s →
        (∃ entries, IsListText s entries ∧ Yields (.scalar origin (.text s)) (tidy entries)) ∨
          (¬∃ entries, IsListText s entries) ∧ Refuses (.scalar origin (.text s)) := by
  refine ⟨fun _ _ => yields_of_spells,
    fun place entries =>
      ⟨exists_settings_of_document place entries, exists_settings_of_variable place entries⟩,
    fun place shelf vars settings hload => ?_, fun origin s hstart => ?_⟩
  · obtain ⟨entries, hentries⟩ := tidy_of_loaded hload
    rw [hentries]
    refine ⟨fun _ => mem_tidy, fun value hspells => ?_⟩
    have hyields := yields_of_spells hspells
    rwa [tidy_tidy] at hyields
  · by_cases hlist : ∃ entries, IsListText s entries
    · obtain ⟨entries, hentries⟩ := hlist
      exact Or.inl ⟨entries, hentries, yields_of_spells (.json hentries)⟩
    · exact Or.inr ⟨hlist, refuses_of_not_listText hstart hlist⟩

/-- An entry with a comma comes out of a document as it is, and goes into a variable as JSON. -/
theorem an_entry_with_a_comma_is_kept :
    ∃ settings, ofShelf ⟨id, id⟩ (commonAlone (listDocument [" a\u2003", "", "b,c"])) [] =
      .ok settings ∧
      settings.corsOrigins = ["a", "b,c"] ∧
      Yields (ofVariable (Json.writeStrings ["a", "b,c"])) ["a", "b,c"] := by
  obtain ⟨-, halone, hagain, -⟩ := origins_may_be_given_in_three_ways
  obtain ⟨settings, hload, horigins⟩ := (halone ⟨id, id⟩ [" a\u2003", "", "b,c"]).1
  have htidy : tidy [" a\u2003", "", "b,c"] = ["a", "b,c"] := by decide
  have hkept := horigins.trans htidy
  refine ⟨settings, hload, hkept, ?_⟩
  rw [← hkept]
  exact (hagain _ _ _ _ hload).2 _ (.json (Json.isListText_writeStrings settings.corsOrigins))

/-! ## White space around them -/

section

variable {u s v : String} (hu : AreBlanks u.toList) (hv : AreBlanks v.toList)
include hu hv

theorem read_padded (h : ¬StartsList s) :
    Setting.corsOrigins.read (ofVariable (u ++ s ++ v)) =
    Setting.corsOrigins.read (ofVariable s) := by
  have hsame : asOrigins (ofVariable (u ++ s ++ v)) = asOrigins (ofVariable s) := by
    rw [ofVariable, ofVariable, asOrigins_text, asOrigins_text, originsOfText_padded hu hv h]
  exact congrArg (Except.mapError _) hsame

theorem read_padded_list (h : StartsList s) {origins : List String} :
    Setting.corsOrigins.read (ofVariable (u ++ s ++ v)) = .ok origins ↔
      Setting.corsOrigins.read (ofVariable s) = .ok origins ∧ AreSpaces u.toList ∧
      AreSpaces v.toList := by
  rw [read_ofVariable, read_ofVariable, originsOfText_eq_ok h,
    originsOfText_eq_ok ((startsList_padded hu hv).mpr h)]
  simp only [isListText_padded hu hv]
  constructor
  · rintro ⟨entries, ⟨hlist, hspaces⟩, horigins⟩
    exact ⟨⟨entries, hlist, horigins⟩, hspaces⟩
  · rintro ⟨⟨entries, hlist, horigins⟩, hspaces⟩
    exact ⟨entries, ⟨hlist, hspaces⟩, horigins⟩

end

/-- White space around the text of the variable does not matter if the text does not look like a
JSON list. If it does, the same is loaded just when the white space is what JSON allows. -/
theorem only_json_spaces_may_surround_a_list (place : Place) (shelf : Shelf) (vars : Variables)
    {u s v : String} (hu : AreBlanks u.toList) (hv : AreBlanks v.toList) :
    (¬StartsList s → ofShelf place shelf (vars.set "CORS_ORIGINS" (u ++ s ++ v)) =
        ofShelf place shelf (vars.set "CORS_ORIGINS" s)) ∧
      (StartsList s → ∀ settings, ofShelf place shelf (vars.set "CORS_ORIGINS" (u ++ s ++ v)) =
        .ok settings ↔
        ofShelf place shelf (vars.set "CORS_ORIGINS" s) = .ok settings ∧ AreSpaces u.toList ∧
        AreSpaces v.toList) := by
  have hname : Setting.corsOrigins.variableName = "CORS_ORIGINS" := rfl
  rw [← hname]
  refine ⟨fun hnot => ofShelf_set_congr (read_padded hu hv hnot), fun hstart settings => ?_⟩
  have hread := @read_padded_list u s v hu hv hstart settings.corsOrigins
  rw [ofShelf_set_eq_ok, ofShelf_set_eq_ok]
  constructor
  · rintro ⟨common, own, hopened, hself, hrest⟩
    obtain ⟨hself, hspaces⟩ := hread.mp hself
    exact ⟨⟨common, own, hopened, hself, hrest⟩, hspaces⟩
  · rintro ⟨⟨common, own, hopened, hself, hrest⟩, hspaces⟩
    exact ⟨common, own, hopened, hread.mpr ⟨hself, hspaces⟩, hrest⟩

/-- A line break and a hard space do not matter around entries with commas, but a list is not
read. -/
theorem a_hard_space_does_not_matter_between_commas :
    let load (text : String) :=
  ofShelf ⟨id, id⟩ (fun _ => none) (Variables.set [] "CORS_ORIGINS" text)
    AreBlanks "\u00a0".toList ∧ AreBlanks "\n".toList ∧ ¬StartsList "http://a, http://b" ∧
      StartsList "[\"http://a\"]" ∧
      load ("\u00a0" ++ "http://a, http://b" ++ "\n") = load "http://a, http://b" ∧
      ∀ settings, load ("\u00a0" ++ "[\"http://a\"]" ++ "\n") ≠ .ok settings := by
  intro load
  have hu : AreBlanks "\u00a0".toList := by decide
  have hv : AreBlanks "\n".toList := by decide
  have hnot : ¬StartsList "http://a, http://b" := by decide
  have hstart : StartsList "[\"http://a\"]" := by decide
  have hcommas := (only_json_spaces_may_surround_a_list ⟨id, id⟩ (fun _ => none) [] hu hv).1 hnot
  have hlist := (only_json_spaces_may_surround_a_list ⟨id, id⟩ (fun _ => none) [] hu hv).2 hstart
  refine ⟨hu, hv, hnot, hstart, hcommas, fun settings hload => ?_⟩
  exact absurd ((hlist settings).mp hload).2.1 (by decide)

/-- A hard space in front of a list keeps it from being read. -/
theorem a_hard_space_before_a_list_matters :
    AreBlanks "\u00a0".toList ∧
      (ofShelf ⟨id, id⟩ (fun _ => none) (Variables.set [] "CORS_ORIGINS" "[\"http://a\"]")).map
        (·.corsOrigins) =
        .ok ["http://a"] ∧
      (ofShelf ⟨id, id⟩ (fun _ => none)
        (Variables.set [] "CORS_ORIGINS" ("\u00a0" ++ "[\"http://a\"]" ++ ""))).isOk = false :=
  ⟨by decide, rfl, rfl⟩

end Chassis.Settings
