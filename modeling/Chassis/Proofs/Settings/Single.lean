-- One setting at a time: when the rest can be loaded, a value that is given for a setting is loaded
-- if it can be read, and is called invalid if it cannot. A document may hold nothing but that
-- value.
import Chassis.Proofs.Document.Objects
import Chassis.Proofs.Settings.Given
import Chassis.Proofs.Settings.Held

namespace Chassis.Settings

open Document

/-! ## The rest -/

/-- All that loading needs but the value of one setting is there. -/
def RestLoads (place : Place) (shelf : Shelf) (vars : Variables) (setting : Setting) : Prop :=
  ∃ deployment common own, Opened place shelf vars deployment common own ∧
    RestReads (mergedLayers deployment common own vars) setting

/-- A fault of the configuration, as it is told. -/
def Fault.IsInvalid (fault : Fault) : Prop :=
  ∃ detail, fault.detail? = some detail ∧ fault.message = "invalid configuration: " ++ detail

theorem fault_of_readDocument {place : Place} {shelf : Shelf} {name : String} {fault : Fault}
    (h : readDocument place shelf name = .error fault) :
    fault = .crashed ∨ ∃ file, fault = .unparsed file := by
  unfold readDocument at h
  split at h
  · cases h
  · split at h
    · cases h
      exact Or.inr ⟨_, rfl⟩
    · split at h
      · cases h
      · cases h
        exact Or.inl rfl

section

variable {place : Place} {shelf : Shelf} {vars : Variables} {deployment : Deployment}

/-- Once the deployment is known, whatever fails and is no crash is the configuration. -/
theorem isInvalid_of_ofShelf (hchosen : deploymentOf vars = .ok deployment) {fault : Fault}
    (h : ofShelf place shelf vars = .error fault) (hcrash : fault ≠ .crashed) :
    fault.IsInvalid := by
  have hdocument {name : String} (hfault : readDocument place shelf name = .error fault) :
      fault.IsInvalid := by
    obtain ⟨file, rfl⟩ := (fault_of_readDocument hfault).resolve_left hcrash
    exact ⟨_, rfl, rfl⟩
  unfold ofShelf ofShelfIn at h
  rcases fault_of_bind h with hunknown | ⟨_, -, h⟩
  · rw [hchosen] at hunknown
    cases hunknown
  rcases fault_of_bind h with hcommon | ⟨common, -, h⟩
  · exact hdocument hcommon
  rcases fault_of_bind h with hown | ⟨own, -, h⟩
  · exact hdocument hown
  rcases fault_of_ofTable h with hdeployment | ⟨setting, hsetting⟩
  · rw [deploymentField_mergedLayers] at hdeployment
    cases hdeployment
  · exact Fault.message_of_key? (Form.key?_of_read hsetting)

/-! ## A value that is given -/

section

variable {common own : Table} (h : Opened place shelf vars deployment common own)
  {setting : Setting} {value : Value}
  (hgives : Gives common own vars setting value) (hvalue : isTable value = false)
include h hgives hvalue

/-- A value that is given is what is loaded, if the rest can be read. -/
theorem Opened.loads_iff {a : setting.form.Carrier} :
    (∃ settings, ofShelf place shelf vars = .ok settings ∧ setting.of settings = a) ↔
      RestReads (mergedLayers deployment common own vars) setting ∧ setting.read value = .ok a := by
  constructor
  · rintro ⟨settings, hload, rfl⟩
    obtain ⟨-, hread, -⟩ := (h.ofShelf_eq_ok hgives hvalue).mp hload
    exact ⟨(h.exists_settings hgives hvalue hread).mp ⟨settings, hload⟩, hread⟩
  · rintro ⟨hrest, hread⟩
    obtain ⟨settings, hload⟩ := (h.exists_settings hgives hvalue hread).mpr hrest
    obtain ⟨-, hself, -⟩ := (h.ofShelf_eq_ok hgives hvalue).mp hload
    exact ⟨settings, hload, Except.ok.inj (hself.symm.trans hread)⟩

/-- A value that cannot be read makes the configuration invalid, and is to blame if the rest can
be. -/
theorem Opened.fails {fault : Fault} (hfault : setting.read value = .error fault) :
    ∃ other, ofShelf place shelf vars = .error other ∧ other.IsInvalid ∧
      (RestReads (mergedLayers deployment common own vars) setting → other = fault) := by
  obtain ⟨other, key, hload, hkey, hself⟩ := h.exists_fault hgives hvalue hfault
  exact ⟨other, hload, Fault.message_of_key? hkey, hself⟩

end

/-! ## A variable that is set -/

section

variable {setting : Setting} {text : String}

theorem opened_set {common own : Table} :
    Opened place shelf (vars.set setting.variableName text) deployment common own ↔
      Opened place shelf vars deployment common own := by
  have hchosen := deploymentOf_set vars setting text
  constructor
  · exact fun h => ⟨hchosen.symm.trans h.chosen, h.common, h.own⟩
  · exact fun h => ⟨hchosen.trans h.chosen, h.common, h.own⟩

/-- A variable that is set is what is loaded, if the rest can be. -/
theorem loads_set_iff {a : setting.form.Carrier} :
    (∃ settings, ofShelf place shelf (vars.set setting.variableName text) = .ok settings ∧
      setting.of settings = a) ↔
      RestLoads place shelf vars setting ∧ setting.read (ofVariable text) = .ok a := by
  have hgives (common own : Table) :
      Gives common own (vars.set setting.variableName text) setting (ofVariable text) :=
    .byVariable (mentioned?_set vars _ text)
  constructor
  · rintro ⟨settings, hload, ha⟩
    obtain ⟨common, own, hopened, -⟩ := ofShelf_eq_ok_iff_opened.mp hload
    obtain ⟨hrest, hread⟩ := (hopened.loads_iff (hgives common own) rfl).mp ⟨settings, hload, ha⟩
    exact ⟨⟨_, common, own, opened_set.mp hopened, restReads_set.mp hrest⟩, hread⟩
  · rintro ⟨⟨_, common, own, hopened, hrest⟩, hread⟩
    exact ((opened_set.mpr hopened).loads_iff (hgives common own) rfl).mpr
      ⟨restReads_set.mpr hrest, hread⟩

/-- No variable has a say in whether a load is a crash. -/
theorem crashes_set_iff :
    ofShelf place shelf (vars.set setting.variableName text) = .error .crashed ↔
      ofShelf place shelf vars = .error .crashed := by
  rw [ofShelf_eq_crashed, ofShelf_eq_crashed, deploymentOf_set]

/-- A variable that cannot be read makes the configuration invalid, and is to blame if the rest can
be. -/
theorem fails_set (hchosen : deploymentOf vars = .ok deployment)
    (hcrash : ofShelf place shelf vars ≠ .error .crashed) {fault : Fault}
    (hfault : setting.read (ofVariable text) = .error fault) :
    ∃ other, ofShelf place shelf (vars.set setting.variableName text) = .error other ∧
      other.IsInvalid ∧
      (RestLoads place shelf vars setting → other = fault) := by
  rcases hload : ofShelf place shelf (vars.set setting.variableName text) with other | settings
  · have hother : other ≠ .crashed := by
      rintro rfl
      exact hcrash (crashes_set_iff.mp hload)
    refine ⟨other, rfl, isInvalid_of_ofShelf ((deploymentOf_set vars setting text).trans hchosen)
      hload hother, ?_⟩
    rintro ⟨_, common, own, hopened, hrest⟩
    obtain ⟨_, hother, -, hself⟩ :=
      (opened_set.mpr hopened).fails (.byVariable (mentioned?_set vars _ text)) rfl hfault
    rw [hload] at hother
    exact (Except.error.inj hother).trans (hself (restReads_set.mpr hrest))
  · obtain ⟨-, hread⟩ := loads_set_iff.mp ⟨settings, hload, rfl⟩
    rw [hfault] at hread
    cases hread

end

end

/-! ## A document with one value -/

/-- A shelf with nothing but a common document in JSON. -/
def commonAlone (text : String) : Shelf := fun file => if file = "appsettings.json" then
    some (Text.utf8 text) else none

theorem documentText_writeObject (members : List (String × String)) :
    documentText (Text.utf8 (Json.writeObject members)) = Json.writeObject members := by
  obtain ⟨rest, hrest⟩ : ∃ rest, (Json.writeObject members).toList = '\x7b' :: rest := by
    unfold Json.writeObject
    rw [String.append_assoc, String.toList_append]
    exact ⟨_, rfl⟩
  unfold documentText Text.withoutMark
  rw [Text.decodeLossy_utf8, hrest]
  rfl

/-- The document is opened, and every value in it is marked with where it comes from. -/
theorem opened_commonAlone (place : Place) {members : List (String × String)} {table : Table}
    (hread : Json.read (Json.writeObject members) = .ok (.table table))
    (hheld : isHeld table = true) :
    Opened place (commonAlone (Json.writeObject members)) [] .dev
      (Value.stampEntries (place.origin "appsettings.json") table) [] := by
  refine ⟨rfl, ?_, rfl⟩
  have hfind : find? (commonAlone (Json.writeObject members)) commonName =
      some ("appsettings.json", .json, Text.utf8 (Json.writeObject members)) := rfl
  have hparse : Format.json.read? (Json.writeObject members) = some table := by
    unfold Format.read?
    dsimp only
    rw [hread]
  unfold readDocument
  rw [hfind]
  dsimp only
  rw [documentText_writeObject, hparse]
  dsimp only
  rw [if_pos hheld]

theorem isHeld_alone (setting : Setting) (value : Value) :
    isHeld [(setting.key, value)] = true := by
  unfold isHeld
  rw [List.all_cons, setting.isTop_key]
  rfl

theorem gives_alone (setting : Setting) (value : Value) :
    Gives [(setting.key, value)] [] [] setting value :=
  .byCommon rfl nofun ⟨[], [], rfl, nofun⟩

theorem key_injective : Function.Injective Setting.key := by
  intro setting other h
  rw [← lower_variableName] at h
  exact variableName_injective ((lower_eq_key (variableName_mem setting) other).mp h)

theorem restReads_defaults (setting : Setting) :
    RestReads (mergedLayers .dev [] [] []) setting := by
  intro other _
  cases other <;> exact ⟨_, rfl⟩

/-- Next to one value, the others have their defaults. -/
theorem restReads_alone (setting : Setting) {value : Value} (hvalue : isTable value = false) :
    RestReads (mergedLayers .dev [(setting.key, value)] [] []) setting := by
  have hnil : IsPlain [] := nofun
  have hplain : IsPlain [(setting.key, value)] := by
    intro entry hentry
    cases List.mem_singleton.mp hentry
    exact ⟨lower_variableName setting ▸ isPlainKey_lower (variableName_mem setting), hvalue⟩
  intro other hother
  have hmissing : mentioned? [(setting.key, value)] other.key = none := by
    rw [mentioned?, mentioned?, if_neg fun hkey => hother (key_injective hkey).symm]
    rfl
  have hdefault := restReads_defaults setting other hother
  rw [childOf_mergedLayers hnil hnil] at hdefault
  rw [childOf_mergedLayers hplain hnil]
  unfold winning at hdefault ⊢
  rw [hmissing]
  exact hdefault

section

variable (place : Place) {setting : Setting} {text : String} {value : Value}
  (hread : Json.read (Json.writeObject [(setting.key, text)]) = .ok (.table [(setting.key, value)]))
include hread

/-- A document with one value is opened. -/
theorem opened_alone : Opened place (commonAlone (Json.writeObject [(setting.key, text)])) [] .dev
    [(setting.key, value.stamp (place.origin "appsettings.json"))] [] := by
  have hopened := opened_commonAlone place hread (isHeld_alone setting value)
  rwa [Value.stampEntries, Value.stampEntries] at hopened

/-- A document with one value is loaded just when the value can be read. -/
theorem loads_alone_iff (hvalue : isTable (value.stamp (place.origin "appsettings.json")) = false)
    {a : setting.form.Carrier} :
    (∃ settings, ofShelf place (commonAlone (Json.writeObject [(setting.key, text)])) [] =
      .ok settings ∧
      setting.of settings = a) ↔
        setting.read (value.stamp (place.origin "appsettings.json")) = .ok a := by
  rw [(opened_alone place hread).loads_iff (gives_alone setting _) hvalue]
  exact and_iff_right (restReads_alone setting hvalue)

end

end Chassis.Settings
