-- One variable chooses the deployment. What the documents say of it changes nothing, unless it
-- wants a list that cannot be held; nor do the files of other deployments, and a name of no
-- deployment is refused before any file is read.
import Chassis.Proofs.Files.Directory
import Chassis.Proofs.Settings.Held

namespace Chassis.Settings

open Document

/-! ## What documents say of the deployment -/

/-- An entry for the deployment or for a part of it. -/
def isForDeployment (entry : String × Value) : Bool :=
  (KeyPath.ofKey entry.1).head? == some (.field "app_env")

/-- A document without what it says of the deployment. -/
def withoutDeployment (document : Table) : Table :=
  document.filter fun entry => !isForDeployment entry

theorem withoutDeployment_twice (document : Table) :
    withoutDeployment (withoutDeployment document) = withoutDeployment document := by
  unfold withoutDeployment
  rw [List.filter_filter]
  simp only [Bool.and_self]

/-- Two tables that agree but for the deployment. -/
def AgreeElsewhere (table other : Table) : Prop :=
  ∀ key, key ≠ "app_env" → table.get? key = other.get? key

theorem AgreeElsewhere.trans {table other third : Table} (h : AgreeElsewhere table other)
    (h' : AgreeElsewhere other third) : AgreeElsewhere table third :=
  fun key hkey => (h key hkey).trans (h' key hkey)

theorem AgreeElsewhere.symm {table other : Table} (h : AgreeElsewhere table other) :
    AgreeElsewhere other table :=
  fun key hkey => (h key hkey).symm

theorem agreeElsewhere_put (table : Table) (value : Value) :
    AgreeElsewhere (table.put "app_env" value) table := by
  intro key hkey
  rw [get?_put, if_neg (Ne.symm hkey)]

theorem layEntry_forDeployment (table : Table) {entry : String × Value}
    (hentry : isForDeployment entry = true) :
    ∃ laid, layEntry (.table table) entry = .table laid ∧ AgreeElsewhere laid table := by
  obtain ⟨name, path, hsteps, -⟩ := ofKey_eq_cons entry.1
  rw [isForDeployment, hsteps, List.head?_cons, beq_iff_eq, Option.some.injEq, Step.field.injEq]
    at hentry
  subst hentry
  rw [layEntry, hsteps, adjust]
  exact ⟨_, rfl, agreeElsewhere_put table _⟩

section

variable {table other : Table} (h : AgreeElsewhere table other)
include h

/-- An entry that is laid over both leaves them in agreement. -/
theorem AgreeElsewhere.layEntry (entry : String × Value) :
    ∃ laid laid', Settings.layEntry (.table table) entry = .table laid ∧
      Settings.layEntry (.table other) entry = .table laid' ∧ AgreeElsewhere laid laid' := by
  obtain ⟨name, path, hsteps, -⟩ := ofKey_eq_cons entry.1
  rw [Settings.layEntry, Settings.layEntry, hsteps, adjust, adjust]
  refine ⟨_, _, rfl, rfl, fun key hkey => ?_⟩
  rw [get?_put, get?_put]
  by_cases hname : name = key
  · subst hname
    simp only [entriesOf, childOf, h name hkey]
  · rw [if_neg hname, if_neg hname]
    exact h key hkey

/-- A document over one of them, and what it says of other things over the other one. -/
theorem AgreeElsewhere.layDocument (document : Table) :
    ∃ laid laid', Settings.layDocument (.table table) document = .table laid ∧
      Settings.layDocument (.table other) (withoutDeployment document) = .table laid' ∧
      AgreeElsewhere laid laid' := by
  unfold Settings.layDocument withoutDeployment
  induction document generalizing table other with
  | nil => exact ⟨table, other, rfl, rfl, h⟩
  | cons entry rest ih =>
    by_cases hentry : isForDeployment entry = true
    · obtain ⟨laid, hlaid, hsame⟩ := layEntry_forDeployment table hentry
      rw [List.foldl_cons, hlaid, List.filter_cons_of_neg (by simp [hentry])]
      exact ih (hsame.trans h)
    · obtain ⟨laid, laid', hlaid, hlaid', hsame⟩ := h.layEntry entry
      rw [List.foldl_cons, hlaid, List.filter_cons_of_pos (by simp [hentry]),
        List.foldl_cons, hlaid']
      exact ih hsame

theorem AgreeElsewhere.layDocuments (documents : List Table) :
    ∃ laid laid', documents.foldl Settings.layDocument (.table table) = .table laid ∧
      (documents.map withoutDeployment).foldl Settings.layDocument (.table other) = .table laid' ∧
      AgreeElsewhere laid laid' := by
  induction documents generalizing table other with
  | nil => exact ⟨table, other, rfl, rfl, h⟩
  | cons document rest ih =>
    obtain ⟨laid, laid', hlaid, hlaid', hsame⟩ := h.layDocument document
    rw [List.foldl_cons, hlaid, List.map_cons, List.foldl_cons, hlaid']
    exact ih hsame

end

theorem agreeElsewhere_merge (documents : List Table) :
    AgreeElsewhere (merge documents) (merge (documents.map withoutDeployment)) := by
  have hempty : AgreeElsewhere [] [] := fun _ _ => rfl
  obtain ⟨laid, laid', hlaid, hlaid', hsame⟩ := hempty.layDocuments documents
  unfold merge Value.emptyTable
  rw [hlaid, hlaid']
  exact hsame

theorem isFlat_merge (documents : List Table) : IsFlat (merge documents) := by
  have hempty : IsFlat ([] : Table) := ⟨List.nodup_nil, fun key hkey => by cases hkey⟩
  obtain ⟨merged, hmerged, hflat⟩ := isFlat_merged hempty documents
  unfold merge Value.emptyTable
  rw [hmerged]
  exact hflat

theorem agreeElsewhere_overDefaults (defaults : Table) (documents : List Table) :
    AgreeElsewhere (overDefaults defaults documents)
      (overDefaults defaults (documents.map withoutDeployment)) := by
  intro key hkey
  unfold overDefaults
  rw [get?_layDocument_flat defaults (isFlat_merge _),
    get?_layDocument_flat defaults (isFlat_merge _), agreeElsewhere_merge documents key hkey]

/-- What two documents say of the deployment has no say. -/
theorem ofLayers_withoutDeployment {order : List String} (deployment : Deployment)
    (common own : Table) (vars : Variables) :
    ofLayersIn order deployment (withoutDeployment common) (withoutDeployment own) vars =
      ofLayersIn order deployment common own vars := by
  -- Both sides agree with the layers that are all without the deployment, the variables too.
  have hfull := agreeElsewhere_overDefaults defaults [common, own, variableLayer vars]
  have hless := agreeElsewhere_overDefaults defaults
    [withoutDeployment common, withoutDeployment own, variableLayer vars]
  simp only [List.map_cons, List.map_nil, withoutDeployment_twice] at hfull hless
  unfold ofLayersIn
  refine ofTable_congr ?_ fun setting => ?_
  · rw [childOf_mergedLayers_deployment, childOf_mergedLayers_deployment]
  · have hkey := Ne.symm (ne_key setting)
    unfold childOf
    rw [mergedLayers_eq, mergedLayers_eq, get?_put, get?_put, (hless.trans hfull.symm) _ hkey]

/-- Documents that were read, or could not be read, and say the same but for the deployment. -/
abbrev SameElsewhere : Except Fault Table → Except Fault Table → Prop :=
  Both fun document other => withoutDeployment document = withoutDeployment other

theorem ofShelf_sameElsewhere {order : List String} {place : Place} {shelf shelf' : Shelf}
    {vars : Variables}
    (hcommon : SameElsewhere (readDocument place shelf commonName)
      (readDocument place shelf' commonName))
    (hown : ∀ deployment, deploymentOf vars = .ok deployment →
      SameElsewhere (readDocument place shelf (ownName deployment))
        (readDocument place shelf' (ownName deployment))) :
    ofShelfIn order place shelf vars = ofShelfIn order place shelf' vars := by
  unfold ofShelfIn
  cases hdeployment : deploymentOf vars with
  | error fault => rfl
  | ok deployment =>
    refine both_eq.mp (hcommon.bind fun common common' hsame => ?_)
    refine (hown deployment hdeployment).bind fun own own' hsame' => ?_
    rw [both_eq, ← ofLayers_withoutDeployment, hsame, hsame', ofLayers_withoutDeployment]

/-! ## Files of other deployments -/

/-- The files that are looked for when the document of a name is. -/
def candidates (name : String) : List String :=
  name :: Format.extensions.map fun (ending, _) => s!"{name}.{ending}"

theorem readDocument_congr {place : Place} {shelf shelf' : Shelf} {name : String}
    (h : ∀ file ∈ candidates name, shelf file = shelf' file) :
    readDocument place shelf name = readDocument place shelf' name := by
  obtain ⟨hbare, hendings⟩ := List.forall_mem_cons.mp h
  have hfind : find? shelf name = find? shelf' name := by
    unfold find?
    rw [hbare, ← List.head?_filterMap, ← List.head?_filterMap]
    congr 2
    refine List.filterMap_congr fun ⟨ending, format⟩ hmem => ?_
    dsimp only
    rw [hendings _ (List.mem_map.mpr ⟨(ending, format), hmem, rfl⟩)]
  unfold readDocument
  rw [hfind]

/-- A file of a deployment: its document, with any ending or none. -/
def IsFileOf (deployment : Deployment) (file : String) : Prop :=
  file = ownName deployment ∨ ∃ ending, file = ownName deployment ++ "." ++ ending

/-- A file of a deployment other than the one that the variables choose. -/
def IsElsewhere (vars : Variables) (file : String) : Prop :=
  ∃ deployment, deploymentOf vars ≠ .ok deployment ∧ IsFileOf deployment file

theorem ownName_of_isFileOf {deployment : Deployment} {file : String}
    (h : IsFileOf deployment file) :
    (ownName deployment).toList <+: file.toList := by
  rcases h with rfl | ⟨ending, rfl⟩
  · exact List.prefix_rfl
  · exact ⟨'.' :: ending.toList, by simp⟩

/-- The files that are looked for. -/
def lookedFor (deployment : Deployment) : List String :=
  candidates commonName ++ candidates (ownName deployment)

theorem isFileOf_of_candidate {deployment : Deployment} {file : String}
    (h : file ∈ candidates (ownName deployment)) :
    IsFileOf deployment file := by
  rcases List.mem_cons.mp h with rfl | hending
  · exact Or.inl rfl
  · obtain ⟨⟨ending, format⟩, -, rfl⟩ := List.mem_map.mp hending
    exact Or.inr ⟨ending, rfl⟩

theorem ownName_not_prefix {deployment other : Deployment} (hother : other ≠ deployment) :
    ¬ (ownName other).toList <+: (ownName deployment).toList := by
  cases deployment <;> cases other <;> first | exact absurd rfl hother | decide

theorem not_isFileOf {deployment other : Deployment} (hother : other ≠ deployment) {file : String}
    (hfile : file ∈ lookedFor deployment) : ¬ IsFileOf other file := by
  intro h
  have hprefix := ownName_of_isFileOf h
  rcases List.mem_append.mp hfile with hcommon | hown
  · have hnone : ∀ file ∈ candidates commonName, ¬ (ownName other).toList <+: file.toList := by
      cases other <;> decide
    exact hnone file hcommon hprefix
  · have hprefix' := ownName_of_isFileOf (isFileOf_of_candidate hown)
    rcases List.prefix_or_prefix_of_prefix hprefix hprefix' with hshort | hshort
    · exact ownName_not_prefix hother hshort
    · exact ownName_not_prefix (Ne.symm hother) hshort

theorem not_isElsewhere {vars : Variables} {deployment : Deployment}
    (hdeployment : deploymentOf vars = .ok deployment) {file : String}
    (hfile : file ∈ lookedFor deployment) : ¬ IsElsewhere vars file := by
  rintro ⟨other, hother, h⟩
  refine not_isFileOf (fun heq => ?_) hfile h
  rw [heq] at hother
  exact hother hdeployment

/-- Files that are not looked for have no say. -/
theorem ofShelf_lookedFor {order : List String} {place : Place} {shelf shelf' : Shelf}
    {vars : Variables}
    (h : ∀ deployment, deploymentOf vars = .ok deployment → ∀ file ∈ lookedFor deployment,
      shelf file = shelf' file) :
    ofShelfIn order place shelf vars = ofShelfIn order place shelf' vars := by
  unfold ofShelfIn
  cases hdeployment : deploymentOf vars with
  | error fault => rfl
  | ok deployment =>
    obtain ⟨hcommon, hown⟩ := List.forall_mem_append.mp (h deployment hdeployment)
    simp only [bind, Except.bind, readDocument_congr hcommon, readDocument_congr hown]

/-- A text without a slash, which ends in another character than a point. -/
def IsPlainName (name : String) : Prop :=
  '/' ∉ name.toList ∧ name.toList.getLast?.any (· ≠ '.') = true

instance : DecidablePred IsPlainName := fun _ => instDecidableAnd

theorem isPlainName_ending : ∀ entry ∈ Format.extensions, IsPlainName entry.1 := by decide

theorem IsPlainName.isName {name : String} (h : IsPlainName name) : Files.IsName name := by
  obtain ⟨hslash, hlast⟩ := h
  obtain ⟨c, hc, hne⟩ := (Option.any_eq_true _ _).mp hlast
  exact Files.isName_of_last hslash hc (of_decide_eq_true hne)

theorem IsPlainName.candidates {name : String} (h : IsPlainName name) :
    ∀ file ∈ candidates name, IsPlainName file := by
  refine List.forall_mem_cons.mpr ⟨h, fun file hfile => ?_⟩
  obtain ⟨⟨ending, format⟩, hentry, rfl⟩ := List.mem_map.mp hfile
  obtain ⟨hslash, hlast⟩ := isPlainName_ending _ hentry
  obtain ⟨c, hc, -⟩ := (Option.any_eq_true _ _).mp hlast
  have hlist : (name ++ "." ++ ending).toList = name.toList ++ '.' :: ending.toList := by simp
  have hend : (name ++ "." ++ ending).toList.getLast? = ending.toList.getLast? := by
    rw [hlist, List.getLast?_append, List.getLast?_cons, hc]
    rfl
  change '/' ∉ (name ++ "." ++ ending).toList ∧
    (name ++ "." ++ ending).toList.getLast?.any (· ≠ '.') = true
  rw [hend, hlist]
  exact ⟨by simp [h.1, hslash], hlast⟩

theorem isPlainName_common : IsPlainName commonName := by decide

theorem isPlainName_own (deployment : Deployment) : IsPlainName (ownName deployment) := by
  cases deployment <;> decide

theorem isName_lookedFor (deployment : Deployment) {file : String}
    (hfile : file ∈ lookedFor deployment) :
    Files.IsName file := by
  rcases List.mem_append.mp hfile with h | h
  · exact (isPlainName_common.candidates file h).isName
  · exact ((isPlainName_own deployment).candidates file h).isName

section

open Files (Node Entries Opens barrier? mayRead)

/-- The file of a name in a directory that a path opens is the entry of that name. -/
theorem shelfOf_eq {tree : Node} {directory : String} {above : List Files.Name} {mode : Nat}
    {entries : Entries} (h : Opens tree directory above mode entries) {name : String}
    (hname : Files.IsName name)
    (hlink : ∀ target, Entries.get? entries (.text name) ≠ some (.link target)) :
    shelfOf tree directory name =
      match barrier? directory mode name, Entries.get? entries (.text name) with
      | none, some (.file permissions body) =>
        if mayRead permissions then some body.toBytes else none
      | _, _ => none := by
  unfold shelfOf Files.isFile Files.read
  simp only [h.look_join hname hlink]
  cases barrier? directory mode name with
  | some fault => rfl
  | none =>
    cases Entries.get? entries (.text name) with
    | none => rfl
    | some node =>
      cases node with
      | file permissions body =>
        simp only [bind, Except.bind]
        cases mayRead permissions <;> rfl
      | directory permissions below => rfl
      | link target => rfl

/-- A directory without links. -/
def HasNoLinks (entries : Entries) : Prop :=
  ∀ name target, Entries.get? entries name ≠ some (.link target)

theorem load_elsewhere {order : List String} {tree tree' : Node} {directory : String}
    {above above' : List Files.Name} {mode : Nat}
    {entries entries' : Entries} {vars : Variables} (h : Opens tree directory above mode entries)
    (h' : Opens tree' directory above' mode entries') (hlinks : HasNoLinks entries)
    (hlinks' : HasNoLinks entries')
    (hsame : ∀ file, ¬ IsElsewhere vars file →
      Entries.get? entries (.text file) = Entries.get? entries' (.text file)) :
    loadIn order tree directory vars = loadIn order tree' directory vars := by
  refine ofShelf_lookedFor fun deployment hdeployment file hfile => ?_
  have hname := isName_lookedFor deployment hfile
  rw [shelfOf_eq h hname (hlinks _), shelfOf_eq h' hname (hlinks' _),
    hsame file (not_isElsewhere hdeployment hfile)]

end

/-! ## Loading -/

/-- In whatever order the settings are read. Loaded settings have the deployment that the variable
names, and without the variable the one of a developer's machine, whatever any document says.
Entries of the documents for the deployment, in whatever form, leave the result as it is, a fault
too; so do the files of other deployments. A name of no deployment is a fault, whatever files there
are. The one thing by which an entry of a document can make the load fail by itself, whatever it is
for, is a position too far for any list: the load is a crash just when a document that is looked at
has one. -/
theorem one_variable_chooses_the_deployment (vars : Variables) (order : List String) :
    (∀ place shelf settings, ofShelfIn order place shelf vars = .ok settings →
      (vars.get? "APP_ENV" = none → settings.deployment = .dev) ∧
        ∀ name, vars.get? "APP_ENV" = some name → Deployment.parse name = .ok settings.deployment) ∧
      (∀ place shelf shelf',
        SameElsewhere (readDocument place shelf commonName) (readDocument place shelf' commonName) →
        (∀ deployment, deploymentOf vars = .ok deployment →
          SameElsewhere (readDocument place shelf (ownName deployment))
            (readDocument place shelf' (ownName deployment))) →
        ofShelfIn order place shelf vars = ofShelfIn order place shelf' vars) ∧
      (∀ place (shelf shelf' : Shelf),
        (∀ file, ¬ IsElsewhere vars file → shelf file = shelf' file) →
        ofShelfIn order place shelf vars = ofShelfIn order place shelf' vars) ∧
      (∀ tree tree' directory above above' mode entries entries',
        Files.Opens tree directory above mode entries →
        Files.Opens tree' directory above' mode entries' →
        HasNoLinks entries → HasNoLinks entries' →
        (∀ file, ¬ IsElsewhere vars file →
          Files.Entries.get? entries (.text file) = Files.Entries.get? entries' (.text file)) →
        loadIn order tree directory vars = loadIn order tree' directory vars) ∧
      (∀ name canonical, vars.get? "APP_ENV" = some name →
        Deployment.parse name = .error canonical →
        ∀ place shelf, ofShelfIn order place shelf vars = .error (.unknownDeployment canonical)) ∧
      ∀ place shelf, ofShelfIn order place shelf vars = .error .crashed ↔
        ∃ deployment, deploymentOf vars = .ok deployment ∧ (Unheld shelf commonName ∨
          (∃ common, readDocument place shelf commonName = .ok common) ∧
          Unheld shelf (ownName deployment)) := by
  refine ⟨fun place shelf settings hload => ?_, fun _ _ _ => ofShelf_sameElsewhere,
    fun place shelf shelf' hsame => ?_,
    fun _ _ _ _ _ _ _ _ => load_elsewhere, fun name canonical hname hparse place shelf => ?_,
    fun _ _ => ofShelf_eq_crashed⟩
  · have hdeployment := deploymentOf_of_ofShelf hload
    unfold deploymentOf at hdeployment
    constructor
    · intro hunset
      rw [hunset] at hdeployment
      exact (Except.ok.inj hdeployment).symm
    · intro name hname
      rw [hname] at hdeployment
      exact ok_of_mapError.mp hdeployment
  · exact ofShelf_lookedFor fun _ hdeployment file hfile =>
      hsame file (not_isElsewhere hdeployment hfile)
  · unfold ofShelfIn deploymentOf
    rw [hname]
    dsimp only
    rw [hparse]
    rfl

/-- A common document with a list and a path for the deployment. -/
def spoiled : Shelf := fun file =>
  if file = "appsettings.json" then
    some (Text.utf8 "\x7b\"app_env\": [\"test\"], \"app_env[0].x\": 1\x7d") else none

/-- The same with a document of another deployment that does not parse. -/
def broken : Shelf := fun file => if file = "appsettings.test.toml" then some (Text.utf8 "?")
    else spoiled file

/-- A list, a path and a broken document of another deployment do not keep production from being
chosen. -/
theorem production_is_chosen_among_broken_documents :
    let vars : Variables := [("APP_ENV", " Production ")]
    (ofShelf ⟨id, id⟩ broken vars).isOk = true ∧
      (∀ settings, ofShelf ⟨id, id⟩ broken vars = .ok settings → settings.deployment = .prod) ∧
      ofShelf ⟨id, id⟩ broken vars = ofShelf ⟨id, id⟩ spoiled vars := by
  intro vars
  obtain ⟨hchosen, -, hfiles, -⟩ := one_variable_chooses_the_deployment vars []
  have hprod : Deployment.parse " Production " = .ok .prod := by decide
  have hvars : deploymentOf vars ≠ .ok .test := by decide
  refine ⟨by decide +kernel, fun settings hload => ?_, hfiles _ _ _ fun file hfile =>
    if_neg fun htest => hfile ?_⟩
  · have hname := (hchosen _ _ settings hload).2 " Production " rfl
    exact (Except.ok.inj (hprod.symm.trans hname)).symm
  · exact ⟨.test, hvars, Or.inr ⟨"toml", htest⟩⟩

/-- A document with nothing but an entry for the deployment, at the last position that can be
written. -/
def farDocument : Text.Bytes := Text.utf8 "\x7b\"app_env[9223372036854775807]\": \"test\"\x7d"

/-- That document as the common one. -/
def farAway : Shelf := fun file =>
  if file = "appsettings.json" then some farDocument else none

/-- That entry keeps the settings from being loaded, which they are without it. -/
theorem a_far_position_keeps_settings_from_being_loaded :
    (Format.json.read? (documentText farDocument)).map (List.map isForDeployment) = some [true] ∧
      (∃ settings, ofShelf ⟨id, id⟩ (fun _ => none) [] = .ok settings) ∧
      ofShelf ⟨id, id⟩ farAway [] = .error .crashed :=
  ⟨by decide +kernel, exists_of_isOk (isOk_defaults ⟨id, id⟩), by decide +kernel⟩

end Chassis.Settings
