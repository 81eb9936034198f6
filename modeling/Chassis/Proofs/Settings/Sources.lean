-- A text means the same wherever it is given: by a variable, or by the document of the deployment
-- under the key of its setting. What goes wrong is told in the same words, but for the place that
-- is named, in whatever order the settings are read.
import Chassis.Proofs.Settings.Single

namespace Chassis.Settings

open Document

/-! ## What a document says of a key -/

/-- The entries of a document that have to do with a key. -/
def about (key : String) (document : Table) : Table :=
  document.filter fun entry => (KeyPath.ofKey entry.1).head? == some (.field key)

/-- Laid over tables that agree on a key, a document gives the key what its entries for it give. -/
theorem get?_layDocument_about {key : String} {table other : Table}
    (h : table.get? key = other.get? key) (document : Table) :
    (entriesOf (layDocument (.table table) document)).get? key =
      (entriesOf (layDocument (.table other) (about key document))).get? key := by
  unfold layDocument about
  induction document generalizing table other with
  | nil => exact h
  | cons entry rest ih =>
    obtain ⟨name, path, hsteps, -⟩ := ofKey_eq_cons entry.1
    rw [List.foldl_cons, layEntry, hsteps, adjust]
    by_cases hname : name = key
    · subst hname
      rw [List.filter_cons_of_pos (by simp [hsteps]), List.foldl_cons, layEntry, hsteps, adjust]
      refine ih ?_
      simp only [entriesOf, childOf, get?_put, if_true, h]
    · rw [List.filter_cons_of_neg (by simp [hsteps, hname])]
      refine ih ?_
      rw [entriesOf, get?_put, if_neg hname]
      exact h

/-- Documents that say the same of a key are as good as one another for it. -/
theorem get?_layDocument_congr {key : String} {table other document document' : Table}
    (h : table.get? key = other.get? key) (hsame : about key document = about key document') :
    (entriesOf (layDocument (.table table) document)).get? key =
      (entriesOf (layDocument (.table other) document')).get? key := by
  rw [get?_layDocument_about rfl document, hsame, ← get?_layDocument_about h.symm document']

/-- Of the two documents, nothing matters to a setting but what they say of its key. -/
theorem childOf_mergedLayers_about (deployment : Deployment) {common common' own own' : Table}
    (vars : Variables) {setting : Setting}
    (hcommon : about setting.key common' = about setting.key common)
    (hown : about setting.key own' = about setting.key own) :
    childOf (mergedLayers deployment common' own' vars) setting.key =
      childOf (mergedLayers deployment common own vars) setting.key := by
  have hmerge (common own : Table) : merge [common, own, variableLayer vars] =
      entriesOf
        (layDocument (layDocument (layDocument (.table []) common) own) (variableLayer vars)) := rfl
  have hget : (merge [common', own', variableLayer vars]).get? setting.key =
      (merge [common, own, variableLayer vars]).get? setting.key := by
    rw [hmerge, hmerge, layDocument_table [] common, layDocument_table [] common',
      layDocument_table _ own, layDocument_table _ own']
    exact get?_layDocument_congr
      (get?_layDocument_congr (get?_layDocument_congr rfl hcommon) hown) rfl
  unfold childOf
  rw [mergedLayers_eq, mergedLayers_eq, get?_put, get?_put, if_neg (ne_key setting),
    if_neg (ne_key setting),
    overDefaults, overDefaults, get?_layDocument_flat defaults (isFlat_merge _),
    get?_layDocument_flat defaults (isFlat_merge _), hget]

/-! ## Documents in another order -/

/-- No two entries of a document have to do with one key. -/
def HasOneEach (document : Table) : Prop := ∀ key, (about key document).length ≤ 1

theorem about_of_perm {document document' : Table} (h : document'.Perm document)
    (hone : HasOneEach document) (key : String) : about key document' = about key document := by
  have hperm : (about key document').Perm (about key document) := h.filter _
  have hlength := hone key
  cases hentries : about key document with
  | nil =>
    rw [hentries] at hperm
    exact hperm.eq_nil
  | cons entry rest =>
    rw [hentries, List.length_cons] at hlength
    obtain rfl : rest = [] := List.length_eq_zero_iff.mp (by omega)
    rw [hentries] at hperm
    exact hperm.eq_singleton

/-- The order in which the entries of a document come shows only where several of them have to do
with one key. -/
theorem ofLayers_of_perm {order : List String} (deployment : Deployment)
    {common common' own own' : Table} (vars : Variables) (hcommon : common'.Perm common)
    (hown : own'.Perm own) (hone : HasOneEach common) (hone' : HasOneEach own) :
    ofLayersIn order deployment common' own' vars =
      ofLayersIn order deployment common own vars := by
  unfold ofLayersIn
  refine ofTable_congr ?_ fun setting => ?_
  · rw [childOf_mergedLayers_deployment, childOf_mergedLayers_deployment]
  · exact childOf_mergedLayers_about deployment vars (about_of_perm hcommon hone setting.key)
      (about_of_perm hown hone' setting.key)

/-! ## Faults in two places -/

/-- A fault without the place that the value in it comes from. -/
def Fault.unplaced : Fault → Fault
  | .mistyped key m => .mistyped key { m with origin := none }
  | fault => fault

/-- Two faults of one kind, told in the same words but for the place that is named in the end. -/
structure Fault.IsLike (origin origin' : String) (fault fault' : Fault) : Prop where
  kind : fault.unplaced = fault'.unplaced
  words : fault.message = fault'.message ∨
    ∃ words, fault.message = words ++ origin ∧ fault'.message = words ++ origin'

section

variable (origin origin' : String)

theorem Fault.IsLike.refl (fault : Fault) : Fault.IsLike origin origin' fault fault :=
  ⟨rfl, Or.inl rfl⟩

theorem isLike_mistyped (key : String) (found : Unfit) (wanted : Wanted) :
    Fault.IsLike origin origin' (.mistyped key ⟨found, wanted, some origin⟩)
      (.mistyped key ⟨found, wanted, some origin'⟩) := by
  have hwords (place : String) : (Fault.mistyped key ⟨found, wanted, some place⟩).message =
      "invalid configuration: " ++
      (s!"invalid type: {found.describe}, expected {wanted.describe} for key `{key}`" ++ " in ") ++
          place := by
    rw [String.append_assoc, String.append_assoc]
    rfl
  exact ⟨rfl, Or.inr ⟨_, hwords origin, hwords origin'⟩⟩

/-- A text is read alike wherever it comes from. -/
theorem read_text_paired (setting : Setting) (text : String) :
    Paired (Fault.IsLike origin origin') Eq (setting.read (.scalar (some origin) (.text text)))
      (setting.read (.scalar (some origin') (.text text))) := by
  unfold Setting.read
  have hwidth (width : Width) {α : Type} (f : Fin width.size → α) :
      Paired (Fault.IsLike origin origin') Eq
        (((asWidth width (.scalar (some origin) (.text text))).map f).mapError
          (.mistyped setting.key))
        (((asWidth width (.scalar (some origin') (.text text))).map f).mapError
            (.mistyped setting.key)) := by
    unfold asWidth asUnsigned
    dsimp only
    cases unsignedOfText? text with
    | none => exact isLike_mistyped origin origin' setting.key (.text text) .integer
    | some n => exact paired_of_eq (.refl origin origin') rfl
  cases setting.form with
  | text => exact rfl
  | boolean =>
    unfold Form.read asBoolean
    dsimp only
    cases truth? (Text.lower text) with
    | none => exact isLike_mistyped origin origin' setting.key (.text (Text.lower text)) .boolean
    | some b => exact rfl
  | port => exact hwidth .w16 UInt16.ofFin
  | count => exact hwidth .w32 UInt32.ofFin
  | seconds => exact hwidth .w64 UInt64.ofFin
  | origins => exact paired_of_eq (.refl origin origin') rfl
  | logFormat => exact paired_of_eq (.refl origin origin') rfl

end

/-! ## Taking a variable away -/

/-- The variables without one of them. -/
def Variables.unset (vars : Variables) (name : String) : Variables :=
  vars.filter fun entry => entry.1 ≠ name

theorem mentioned?_unset (vars : Variables) (name : String) :
    mentioned? (vars.unset name) name = none := by
  refine mentioned?_of_not_mem fun hmem => ?_
  obtain ⟨entry, hentry, rfl⟩ := List.mem_map.mp hmem
  simpa using (List.mem_filter.mp hentry).2

theorem mentioned?_unset_of_ne (vars : Variables) {name other : String} (hne : other ≠ name)
    (text : String) :
    mentioned? (vars.unset name) other = mentioned? (vars.set name text) other := by
  unfold Variables.set
  rw [mentioned?_append]
  simp only [mentioned?, if_neg (Ne.symm hne), Option.none_or]
  rfl

theorem deploymentOf_unset (vars : Variables) (setting : Setting) (text : String) :
    deploymentOf (vars.unset setting.variableName) =
    deploymentOf (vars.set setting.variableName text) := by
  have hname : setting.variableName ≠ "APP_ENV" := by cases setting <;> decide
  have hlast : [(setting.variableName, text)].find? (·.1 == "APP_ENV") = none := by simp [hname]
  unfold deploymentOf Variables.set Variables.get?
  rw [List.find?_append, hlast, Option.or_none]
  rfl

/-! ## Giving the text in a document -/

/-- A document in place of another: it says the same, but for a key that it binds to a text. What
else they say may be too much to be held, for both of them. -/
inductive RebindsIn (key text origin : String) : Except Fault Table →
    Except Fault Table → Prop where
  | held {own own' : Table} (same : ∀ other, other ≠ key → about other own' = about other own)
      (sets : Sets own' key (.scalar (some origin) (.text text))) :
      RebindsIn key text origin (.ok own) (.ok own')
  | unheld : RebindsIn key text origin (.error .crashed) (.error .crashed)

/-- A shelf whose documents say the same, but for a key that the document of the deployment binds to
a text. -/
structure Rebinds (place : Place) (shelf shelf' : Shelf) (vars : Variables)
    (key text origin : String) : Prop where
  common : readDocument place shelf' commonName = readDocument place shelf commonName
  own : ∀ deployment, deploymentOf vars = .ok deployment →
    RebindsIn key text origin (readDocument place shelf (ownName deployment))
      (readDocument place shelf' (ownName deployment))

theorem exists_variableName {name : String} (hname : name ∈ variableNames)
    (hother : name ≠ "APP_ENV") :
    ∃ setting : Setting, setting.variableName = name := by
  have hall : ∀ name ∈ variableNames, name ≠ "APP_ENV" →
      name ∈ Setting.every.map Setting.variableName := by
    decide
  obtain ⟨setting, -, hsetting⟩ := List.mem_map.mp (hall name hname hother)
  exact ⟨setting, hsetting⟩

section

variable {place : Place} {shelf shelf' : Shelf} {vars : Variables} {setting : Setting}
    {text origin : String}

/-- The text is the one that is read, and every other setting has the value that it has with the
variable. -/
theorem ofLayers_paired (deployment : Deployment) (common : Table) {own own' : Table}
    (hsame : ∀ other, other ≠ setting.key → about other own' = about other own)
    (hsets : Sets own' setting.key (.scalar (some origin) (.text text))) (order : List String) :
    Paired (Fault.IsLike variableOrigin origin) Eq
      (ofLayersIn order deployment common own (vars.set setting.variableName text))
      (ofLayersIn order deployment common own' (vars.unset setting.variableName)) := by
  have hread (other : Setting) : Paired (Fault.IsLike variableOrigin origin) Eq
      (other.read
        (childOf (mergedLayers deployment common own (vars.set setting.variableName text))
          other.key))
      (other.read (childOf (mergedLayers deployment common own' (vars.unset setting.variableName))
          other.key)) := by
    by_cases hother : other = setting
    · subst hother
      rw [childOf_mergedLayers_variable deployment _ (mentioned?_set vars _ text),
        childOf_of_gives (.byOwn (mentioned?_unset vars _) hsets) rfl]
      exact read_text_paired variableOrigin origin other text
    · have hvariable : other.variableName ≠ setting.variableName :=
        fun heq => hother (variableName_injective heq)
      have hkey : other.key ≠ setting.key := fun heq => hother (key_injective heq)
      rw [childOf_mergedLayers_about deployment _ rfl (hsame other.key hkey),
        childOf_mergedLayers_congr (mentioned?_unset_of_ne vars hvariable text)]
      exact paired_of_eq (.refl variableOrigin origin) rfl
  unfold ofLayersIn
  refine (ofTable_paired (.refl variableOrigin origin) ?_ hread order).mono
    fun settings others hsettings => ?_
  · rw [childOf_mergedLayers_deployment, childOf_mergedLayers_deployment]
  · exact Setting.eq_of_of hsettings.1 hsettings.2

theorem ofShelf_paired (h : Rebinds place shelf shelf' vars setting.key text origin)
    (order : List String) :
    Paired (Fault.IsLike variableOrigin origin) Eq
      (ofShelfIn order place shelf (vars.set setting.variableName text))
      (ofShelfIn order place shelf' (vars.unset setting.variableName)) := by
  unfold ofShelfIn
  rw [deploymentOf_unset vars setting text, deploymentOf_set, h.common]
  cases hchosen : deploymentOf vars with
  | error fault => exact Fault.IsLike.refl variableOrigin origin fault
  | ok deployment =>
    have hown := h.own deployment hchosen
    cases readDocument place shelf commonName with
    | error fault => exact Fault.IsLike.refl variableOrigin origin fault
    | ok common =>
      simp only [bind, Except.bind]
      generalize readDocument place shelf (ownName deployment) = read at hown ⊢
      generalize readDocument place shelf' (ownName deployment) = read' at hown ⊢
      cases hown with
      | held hsame hsets => exact ofLayers_paired deployment common hsame hsets order
      | unheld => exact Fault.IsLike.refl variableOrigin origin .crashed

end

/-! ## A document for every text -/

/-- A shelf with one more file. -/
def Shelf.put (shelf : Shelf) (file : String) (bytes : Text.Bytes) : Shelf := fun name =>
  if name = file then some bytes else shelf name

/-- The name of the document of a deployment in JSON. -/
def ownJson (deployment : Deployment) : String := s!"{ownName deployment}.json"

/-- A document of one key that is bound to a text. -/
def textDocument (key text : String) : Text.Bytes :=
  Text.utf8 (Json.writeObject [(key, Json.writeString text)])

section

variable {place : Place} {shelf : Shelf} {vars : Variables} {deployment : Deployment}

/-- Where the deployment has no file, a document of its own is what is read. -/
theorem readDocument_put (hnone : ∀ file ∈ candidates (ownName deployment), shelf file = none)
    {key : String} (hkey : IsTop key) (text : String) :
    readDocument place (shelf.put (ownJson deployment) (textDocument key text))
      (ownName deployment) =
      .ok [(key, .scalar (some (place.origin (ownJson deployment))) (.text text))] := by
  have halone : ∀ file ∈ candidates (ownName deployment),
      shelf.put (ownJson deployment) (textDocument key text) file =
        Shelf.put (fun _ => none) (ownJson deployment) (textDocument key text) file := by
    intro file hfile
    unfold Shelf.put
    rw [hnone file hfile]
  have hfind : find? (Shelf.put (fun _ => none) (ownJson deployment) (textDocument key text))
      (ownName deployment) =
      some (ownJson deployment, .json, textDocument key text) := by
    cases deployment <;> rfl
  have hread : Json.read (Json.writeObject [(key, Json.writeString text)]) =
      .ok (.table [(key, .ofText text)]) :=
    Json.read_writeObject (.cons ⟨rfl, Json.reads_writeString 126 text⟩ .nil) (by simp)
  have hheld : isHeld [(key, .ofText text)] = true := by
    unfold isHeld
    rw [List.all_cons, hkey]
    rfl
  rw [readDocument_congr halone, readDocument, hfind]
  dsimp only
  rw [textDocument, documentText_writeObject, Format.read?, hread]
  dsimp only
  rw [if_pos hheld]
  rfl

theorem rebinds_put (hchosen : deploymentOf vars = .ok deployment)
    (hnone : ∀ file ∈ candidates (ownName deployment), shelf file = none) (setting : Setting)
    (text : String) :
    Rebinds place shelf (shelf.put (ownJson deployment) (textDocument setting.key text)) vars
      setting.key text
      (place.origin (ownJson deployment)) where
  common := by
    have hnot : ∀ file ∈ candidates commonName, file ≠ ownJson deployment := by
      cases deployment <;> decide
    exact readDocument_congr fun file hfile => if_neg (hnot file hfile)
  own other hother := by
    obtain rfl : deployment = other := Except.ok.inj (hchosen.symm.trans hother)
    have hnothing : find? shelf (ownName deployment) = none := by
      obtain ⟨hbare, hendings⟩ := List.forall_mem_cons.mp hnone
      unfold find?
      rw [hbare, if_neg (by simp), List.findSome?_eq_none_iff]
      rintro ⟨ending, format⟩ hentry
      exact Option.map_eq_none_iff.mpr
        (hendings _ (List.mem_map.mpr ⟨(ending, format), hentry, rfl⟩))
    have hempty : readDocument place shelf (ownName deployment) = .ok [] := by
      rw [readDocument, hnothing]
    rw [hempty, readDocument_put hnone setting.isTop_key]
    refine .held (fun key hkey => ?_) ?_
    · have hhead : (KeyPath.ofKey setting.key).head? = some (.field setting.key) := by
        rw [setting.isTop_key]; rfl
      simp [about, hhead, Ne.symm hkey]
    · exact ⟨[], [], rfl, nofun⟩

end

/-! ## Both loads -/

/-- Loads that come to the same: in whatever orders they read, the same settings come of both or of
none; and faults are alike if both read in one order. -/
structure LoadAlike (origin origin' : String) (load load' : List String → Except Fault Settings) :
    Prop where
  settings : ∀ order order' settings, load order = .ok settings ↔ load' order' = .ok settings
  faults : ∀ order, Paired (Fault.IsLike origin origin') Eq (load order) (load' order)

/-- The order of reading has no say in what is loaded. -/
theorem ofShelf_order {place : Place} {shelf : Shelf} {vars : Variables}
    {order order' : List String} {settings : Settings} :
    ofShelfIn order place shelf vars = .ok settings ↔
    ofShelfIn order' place shelf vars = .ok settings := by
  unfold ofShelfIn ofLayersIn
  simp only [ok_of_bind, ofTable_eq_ok]

theorem loadAlike_of_rebinds {place : Place} {shelf shelf' : Shelf} {vars : Variables}
    {setting : Setting} {text origin : String}
    (h : Rebinds place shelf shelf' vars setting.key text origin) :
    LoadAlike variableOrigin origin
      (fun order => ofShelfIn order place shelf (vars.set setting.variableName text))
      fun order => ofShelfIn order place shelf' (vars.unset setting.variableName) where
  settings order _ _ := (ofShelf_paired h order).eq_ok_iff.trans ofShelf_order
  faults := ofShelf_paired h

end Chassis.Settings
