-- Where the value of a setting stands: a variable gives it, or the document of the deployment, or
-- the common one, each in its turn. The value that is given is the one that is read, and nothing
-- else is.
import Chassis.Proofs.Settings.Deployment

namespace Chassis.Settings

open Document

/-! ## A key in a document -/

/-- Nothing in a document has to do with a key, not even with a part of its value. -/
def LeavesAlone (document : Table) (key : String) : Prop :=
  ∀ entry ∈ document, (KeyPath.ofKey entry.1).head? ≠ some (.field key)

/-- A document has a value for a key, and nothing that comes after has to do with the key. -/
def Sets (document : Table) (key : String) (value : Value) : Prop :=
  ∃ before after, document = before ++ (key, value) :: after ∧ LeavesAlone after key

section

variable {document : Table} {key : String}

/-- A document over a table makes a table. -/
theorem layDocument_table (table document : Table) :
    layDocument (.table table) document =
    .table (entriesOf (layDocument (.table table) document)) := by
  unfold layDocument
  induction document generalizing table with
  | nil => rfl
  | cons entry rest ih =>
    obtain ⟨name, path, hsteps, -⟩ := ofKey_eq_cons entry.1
    rw [List.foldl_cons, layEntry, hsteps, adjust]
    exact ih _

theorem get?_layDocument_of_leavesAlone (h : LeavesAlone document key) (table : Table) :
    (entriesOf (layDocument (.table table) document)).get? key = table.get? key := by
  unfold layDocument
  induction document generalizing table with
  | nil => rfl
  | cons entry rest ih =>
    obtain ⟨name, path, hsteps, -⟩ := ofKey_eq_cons entry.1
    have hname : name ≠ key := by
      rintro rfl
      exact h entry List.mem_cons_self (by rw [hsteps, List.head?_cons])
    rw [List.foldl_cons, layEntry, hsteps, adjust,
      ih fun other hother => h other (List.mem_cons_of_mem _ hother),
      get?_put, if_neg hname]
    rfl

theorem get?_layDocument_of_sets (hkey : IsTop key) {value : Value} (hvalue : isTable value = false)
    (h : Sets document key value) (table : Table) :
    (entriesOf (layDocument (.table table) document)).get? key = some value := by
  obtain ⟨before, after, rfl, hafter⟩ := h
  have hsplit : layDocument (.table table) (before ++ (key, value) :: after) =
      layDocument (layEntry (layDocument (.table table) before) (key, value)) after := by
    unfold layDocument
    rw [List.foldl_append, List.foldl_cons]
  have hput (table : Table) :
      layEntry (.table table) (key, value) = .table (table.put key value) := by
    have htop := @layEntry_top table (key, value) hkey
    rwa [lay_of_not_table _ hvalue] at htop
  rw [hsplit, layDocument_table table before, hput, get?_layDocument_of_leavesAlone hafter,
    get?_put, if_pos rfl]

end

/-! ## The value that is given -/

/-- The value that is given for a setting: by its variable, by the document of the deployment if the
variable is not set, by the common document if that one does not have to do with it either. -/
inductive Gives (common own : Table) (vars : Variables) (setting : Setting) : Value → Prop
  | byVariable {text : String} : mentioned? vars setting.variableName = some text →
      Gives common own vars setting (ofVariable text)
  | byOwn {value : Value} : mentioned? vars setting.variableName = none →
      Sets own setting.key value →
      Gives common own vars setting value
  | byCommon {value : Value} : mentioned? vars setting.variableName = none →
      LeavesAlone own setting.key →
      Sets common setting.key value → Gives common own vars setting value

theorem Setting.isTop_key (setting : Setting) : IsTop setting.key := by
  rw [← lower_variableName]
  exact ofKey_plain (isPlainKey_lower (variableName_mem setting))

section

variable {deployment : Deployment} {common own : Table} {vars : Variables} {setting : Setting}
    {value : Value}

theorem childOf_of_merge (hvalue : isTable value = false)
    (h : (merge [common, own, variableLayer vars]).get? setting.key = some value) :
    childOf (mergedLayers deployment common own vars) setting.key = value := by
  unfold childOf
  rw [mergedLayers_eq, get?_put, if_neg (ne_key setting), overDefaults,
    get?_layDocument_flat defaults (isFlat_merge _), h]
  exact lay_of_not_table _ hvalue

/-- A variable that is not set does not have to do with its setting. -/
theorem get?_merge_of_unset (hunset : mentioned? vars setting.variableName = none) :
    (merge [common, own, variableLayer vars]).get? setting.key =
      (entriesOf (layDocument (.table (entriesOf (layDocument (.table []) common))) own)).get?
        setting.key := by
  have hmerge : merge [common, own, variableLayer vars] =
      entriesOf
        (layDocument (layDocument (layDocument (.table []) common) own) (variableLayer vars)) := rfl
  rw [hmerge, layDocument_table [] common, layDocument_table _ own,
    layDocument_plain _ (isPlain_variableLayer vars),
    entriesOf, get?_putAll, mentioned?_variableLayer, hunset]
  rfl

/-- The value that is given is the one that is read. -/
theorem childOf_of_gives (h : Gives common own vars setting value)
    (hvalue : isTable value = false) :
    childOf (mergedLayers deployment common own vars) setting.key = value := by
  cases h with
  | byVariable htext => exact childOf_mergedLayers_variable deployment vars htext
  | byOwn hunset hsets =>
    refine childOf_of_merge hvalue ?_
    rw [get?_merge_of_unset hunset, get?_layDocument_of_sets setting.isTop_key hvalue hsets]
  | byCommon hunset hleaves hsets =>
    refine childOf_of_merge hvalue ?_
    rw [get?_merge_of_unset hunset, get?_layDocument_of_leavesAlone hleaves,
      get?_layDocument_of_sets setting.isTop_key hvalue hsets]

end

/-! ## Loading -/

/-- What a load reads before it looks at any setting. -/
structure Opened (place : Place) (shelf : Shelf) (vars : Variables) (deployment : Deployment)
    (common own : Table) :
    Prop where
  chosen : deploymentOf vars = .ok deployment
  common : readDocument place shelf commonName = .ok common
  own : readDocument place shelf (ownName deployment) = .ok own

section

variable {place : Place} {shelf : Shelf} {vars : Variables} {deployment : Deployment}
  {common own : Table}
  {settings : Settings}

theorem Opened.ofShelf_eq (h : Opened place shelf vars deployment common own) :
    ofShelf place shelf vars = ofLayers deployment common own vars := by
  unfold ofShelf ofShelfIn
  rw [h.chosen, h.common]
  simp only [bind, Except.bind]
  rw [h.own]

/-- Settings are loaded from what was opened. -/
theorem ofShelf_eq_ok_iff_opened : ofShelf place shelf vars = .ok settings ↔
    ∃ common own, Opened place shelf vars settings.deployment common own ∧
      ∀ setting : Setting,
        setting.read (childOf (mergedLayers settings.deployment common own vars) setting.key) =
          .ok (setting.of settings) := by
  constructor
  · intro h
    have hchosen := deploymentOf_of_ofShelf h
    unfold ofShelf ofShelfIn at h
    obtain ⟨deployment, hdeployment, h⟩ := ok_of_bind.mp h
    obtain ⟨common, hcommon, h⟩ := ok_of_bind.mp h
    obtain ⟨own, hown, h⟩ := ok_of_bind.mp h
    obtain rfl : deployment = settings.deployment := Except.ok.inj (hdeployment.symm.trans hchosen)
    exact ⟨common, own, ⟨hchosen, hcommon, hown⟩, (ofTable_eq_ok.mp h).2⟩
  · rintro ⟨common, own, hopened, hread⟩
    rw [hopened.ofShelf_eq]
    exact ofTable_eq_ok.mpr ⟨deploymentField_mergedLayers _ _, hread⟩

/-- With a value given for one setting, settings are loaded when that value can be read, and all
the others can. -/
theorem Opened.ofShelf_eq_ok (h : Opened place shelf vars deployment common own) {setting : Setting}
    {value : Value} (hgives : Gives common own vars setting value)
    (hvalue : isTable value = false) :
    ofShelf place shelf vars = .ok settings ↔
      deployment = settings.deployment ∧ setting.read value = .ok (setting.of settings) ∧
        ∀ other : Setting, other ≠ setting →
          other.read (childOf (mergedLayers deployment common own vars) other.key) =
          .ok (other.of settings) := by
  rw [h.ofShelf_eq]
  unfold ofLayers ofLayersIn
  rw [ofTable_eq_ok, deploymentField_mergedLayers, Except.ok.injEq]
  refine and_congr_right fun _ => ⟨fun hread => ?_, fun ⟨hread, hothers⟩ other => ?_⟩
  · have hself := hread setting
    rw [childOf_of_gives hgives hvalue] at hself
    exact ⟨hself, fun other _ => hread other⟩
  · by_cases hother : other = setting
    · subst hother
      rw [childOf_of_gives hgives hvalue]
      exact hread
    · exact hothers other hother

/-- All settings but one can be read from a table. -/
def RestReads (merged : Table) (setting : Setting) : Prop :=
  ∀ other : Setting, other ≠ setting → ∃ value, other.read (childOf merged other.key) = .ok value

section

variable (h : Opened place shelf vars deployment common own) {setting : Setting} {value : Value}
  (hgives : Gives common own vars setting value) (hvalue : isTable value = false)
include h hgives hvalue

theorem Opened.exists_settings {a : setting.form.Carrier} (ha : setting.read value = .ok a) :
    (∃ settings, ofShelf place shelf vars = .ok settings) ↔
      RestReads (mergedLayers deployment common own vars) setting := by
  constructor
  · rintro ⟨settings, hload⟩ other hother
    exact ⟨_, ((h.ofShelf_eq_ok hgives hvalue).mp hload).2.2 other hother⟩
  · intro hrest
    have hall (other : Setting) :
        ∃ value, other.read (childOf (mergedLayers deployment common own vars) other.key) =
            .ok value := by
      by_cases hother : other = setting
      · subst hother
        rw [childOf_of_gives hgives hvalue]
        exact ⟨a, ha⟩
      · exact hrest other hother
    obtain ⟨values, hvalues⟩ := Classical.skolem.mp hall
    refine ⟨Setting.all deployment values, ?_⟩
    rw [h.ofShelf_eq]
    exact ofTable_eq_ok.mpr ⟨deploymentField_mergedLayers _ _,
      fun other => by rw [hvalues, Setting.of_all]⟩

/-- A value that cannot be read makes the load fail with a fault of the configuration: its own one,
when the rest can be read. -/
theorem Opened.exists_fault {fault : Fault} (hfault : setting.read value = .error fault) :
    ∃ other key, ofShelf place shelf vars = .error other ∧ other.key? = some key ∧
      (RestReads (mergedLayers deployment common own vars) setting → other = fault) := by
  rcases hload : ofShelf place shelf vars with other | settings
  · have htable : ofTable (mergedLayers deployment common own vars) = .error other :=
      h.ofShelf_eq.symm.trans hload
    rcases fault_of_ofTable htable with hdeployment | ⟨culprit, hculprit⟩
    · rw [deploymentField_mergedLayers] at hdeployment
      cases hdeployment
    · refine ⟨other, culprit.key, rfl, Form.key?_of_read hculprit, fun hrest => ?_⟩
      by_cases hself : culprit = setting
      · subst hself
        rw [childOf_of_gives hgives hvalue, hfault] at hculprit
        exact (Except.error.inj hculprit).symm
      · obtain ⟨_, hok⟩ := hrest culprit hself
        rw [hculprit] at hok
        cases hok
  · have hread := ((h.ofShelf_eq_ok hgives hvalue).mp hload).2.1
    rw [hfault] at hread
    cases hread

end

end

/-! ## Setting a variable -/

/-- The variables with one of them set to a text. -/
def Variables.set (vars : Variables) (name text : String) : Variables :=
  vars.filter (fun entry => entry.1 ≠ name) ++ [(name, text)]

theorem mentioned?_set (vars : Variables) (name text : String) :
    mentioned? (vars.set name text) name = some text := by
  unfold Variables.set
  rw [mentioned?_append]
  simp [mentioned?]

theorem mentioned?_set_of_ne (vars : Variables) {name other : String} (hne : other ≠ name)
    (text : String) :
    mentioned? (vars.set name text) other = mentioned? vars other := by
  unfold Variables.set
  rw [mentioned?_append]
  simp only [mentioned?, if_neg (Ne.symm hne), Option.none_or]
  induction vars with
  | nil => rfl
  | cons entry rest ih =>
    rw [List.filter_cons, mentioned?]
    split
    · rw [mentioned?, ih]
    · rename_i hentry
      have hother : entry.1 ≠ other := by
        rintro rfl
        exact hentry (by simpa using hne)
      rw [ih, if_neg hother, Option.or_none]

theorem get?_set_of_ne (vars : Variables) {name other : String} (hne : other ≠ name)
    (text : String) :
    (vars.set name text).get? other = vars.get? other := by
  unfold Variables.set Variables.get?
  rw [List.find?_append, List.find?_filter]
  have hlast : [(name, text)].find? (·.1 == other) = none := by simp [Ne.symm hne]
  rw [hlast, Option.or_none]
  congr 2
  funext entry
  by_cases hentry : entry.1 = other
  · simp [hentry, hne]
  · simp [hentry]

theorem variableName_injective : Function.Injective Setting.variableName := by
  have hnames : (Setting.every.map Setting.variableName).Nodup := by decide
  intro setting other h
  exact List.inj_on_of_nodup_map hnames setting.mem_every other.mem_every h

theorem deploymentOf_set (vars : Variables) (setting : Setting) (text : String) :
    deploymentOf (vars.set setting.variableName text) = deploymentOf vars := by
  have hname : "APP_ENV" ≠ setting.variableName := by cases setting <;> decide
  unfold deploymentOf
  rw [get?_set_of_ne vars hname]

section

variable {place : Place} {shelf : Shelf} {vars : Variables} {setting : Setting}
    {settings : Settings} {text : String}

theorem childOf_set {deployment : Deployment} {common own : Table} {other : Setting}
    (hother : other ≠ setting) :
    childOf (mergedLayers deployment common own (vars.set setting.variableName text)) other.key =
      childOf (mergedLayers deployment common own vars) other.key :=
  childOf_mergedLayers_congr
    (mentioned?_set_of_ne vars (fun hname => hother (variableName_injective hname)) text)

theorem restReads_set {deployment : Deployment} {common own : Table} :
    RestReads (mergedLayers deployment common own (vars.set setting.variableName text)) setting ↔
      RestReads (mergedLayers deployment common own vars) setting := by
  unfold RestReads
  exact forall_congr' fun other => forall_congr' fun hother => by rw [childOf_set hother]

/-- A variable that is set decides its setting, and leaves the others to what decides them
anyway. -/
theorem ofShelf_set_eq_ok : ofShelf place shelf (vars.set setting.variableName text) =
    .ok settings ↔
    ∃ common own, Opened place shelf vars settings.deployment common own ∧
      setting.read (ofVariable text) = .ok (setting.of settings) ∧
        ∀ other : Setting, other ≠ setting →
          other.read (childOf (mergedLayers settings.deployment common own vars) other.key) =
            .ok (other.of settings) := by
  have hgives (common own : Table) :
      Gives common own (vars.set setting.variableName text) setting (ofVariable text) :=
    .byVariable (mentioned?_set vars _ text)
  constructor
  · intro hload
    obtain ⟨common, own, hopened, -⟩ := ofShelf_eq_ok_iff_opened.mp hload
    obtain ⟨-, hread, hrest⟩ := (hopened.ofShelf_eq_ok (hgives common own) rfl).mp hload
    refine ⟨common, own, ⟨?_, hopened.common, hopened.own⟩, hread, fun other hother => ?_⟩
    · rw [← deploymentOf_set vars setting text, hopened.chosen]
    · rw [← childOf_set hother]
      exact hrest other hother
  · rintro ⟨common, own, hopened, hread, hrest⟩
    have hchosen := (deploymentOf_set vars setting text).trans hopened.chosen
    have hset : Opened place shelf (vars.set setting.variableName text) settings.deployment
        common own :=
      ⟨hchosen, hopened.common, hopened.own⟩
    refine (hset.ofShelf_eq_ok (hgives common own) rfl).mpr ⟨rfl, hread, fun other hother => ?_⟩
    rw [childOf_set hother]
    exact hrest other hother

/-- Two texts that are read alike make no difference. -/
theorem ofShelf_set_congr {text' : String}
    (h : setting.read (ofVariable text) = setting.read (ofVariable text')) :
    ofShelf place shelf (vars.set setting.variableName text) =
      ofShelf place shelf (vars.set setting.variableName text') := by
  unfold ofShelf ofShelfIn
  rw [deploymentOf_set, deploymentOf_set]
  refine bind_congr fun deployment => bind_congr fun common => bind_congr fun own => ?_
  refine ofTable_congr_read ?_ fun other => ?_
  · rw [childOf_mergedLayers_deployment, childOf_mergedLayers_deployment]
  · by_cases hother : other = setting
    · subst hother
      rw [childOf_mergedLayers_variable deployment _ (mentioned?_set vars _ text),
        childOf_mergedLayers_variable deployment _ (mentioned?_set vars _ text'), h]
    · rw [childOf_set hother, childOf_set hother]

end

end Chassis.Settings
