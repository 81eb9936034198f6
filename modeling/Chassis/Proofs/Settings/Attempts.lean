-- Attempts to load the settings, one after another, with other files at each of them. A failed one
-- is not kept, but the variables that its environment file has set are.
import Chassis.Instance
import Chassis.Proofs.Environ.Kept
import Chassis.Proofs.Files.Directory
import Chassis.Proofs.Settings.Deployment

namespace Chassis

open Settings (Setting ofVariable)

/-- The environment after an attempt with the files of a tree. -/
def Environ.after (environ : Environ) (files : Files.Node) : Environ :=
  (load environ (contentsOf files Instance.environFileName)).1

namespace Instance

/-- Asks for the settings when the files are those of a tree. -/
def attempt (inst : Instance) (files : Files.Node) : Instance × Except Fault Settings :=
  Instance.settings { inst with files }

/-- Attempts one after another, and what came of each. -/
def attempts (inst : Instance) : List Files.Node → Instance × List (Except Fault Settings)
  | [] => (inst, [])
  | files :: rest =>
    let (inst, result) := inst.attempt files
    let (inst, results) := inst.attempts rest
    (inst, result :: results)

/-! ## One attempt -/

theorem eq_of_loadEnvironFile {inst later : Instance} {loading : Environ.Loading}
    (h : inst.loadEnvironFile environFileName = (later, loading)) :
    later = { inst with environ := inst.environ.after inst.files } := (congrArg Prod.fst h).symm

/-- Whatever becomes of loading, it changes nothing but the environment. -/
theorem load_fst (inst : Instance) :
    inst.load.1 = { inst with environ := inst.environ.after inst.files } := by
  unfold load
  split
  · exact eq_of_loadEnvironFile ‹_›
  · exact eq_of_loadEnvironFile ‹_›
  · split <;> exact eq_of_loadEnvironFile ‹_›

/-- An instance that keeps no settings yet loads them, and keeps what it has loaded. -/
theorem attempt_of_empty {inst : Instance} (hempty : inst.cell = none) (files : Files.Node) :
    let result := (load ⟨inst.environ, files, none⟩).2
    inst.attempt files = (⟨inst.environ.after files, files, result.toOption⟩, result) := by
  obtain ⟨environ, before, cell⟩ := inst
  dsimp only at hempty
  subst hempty
  have hfst := load_fst ⟨environ, files, none⟩
  unfold attempt settings Settings.Call.run
  rcases hload : load ⟨environ, files, none⟩ with ⟨later, result⟩
  rw [hload] at hfst
  dsimp only at hfst
  subst hfst
  rcases result with fault | value
  · simp [Settings.Call.step, hload, Except.toOption]
  · simp [Settings.Call.step, Settings.Call.publish, hload, Except.toOption]

/-- Settings that were loaded come from the documents and the variables of the environment. -/
theorem settings_of_load {inst : Instance} {settings : Settings}
    (hload : inst.load.2 = .ok settings) :
    ∃ vars, variables? (inst.environ.after inst.files) = some vars ∧
      Settings.load inst.files "." vars = .ok settings := by
  unfold load at hload
  split at hload
  · cases hload
  · cases hload
  · rename_i later loading _ _ hfile
    have hlater := eq_of_loadEnvironFile hfile
    subst hlater
    dsimp only at hload
    split at hload
    · cases hload
    · rename_i vars hvars
      exact ⟨vars, hvars, ok_of_mapError.mp hload⟩

/-- Loaded settings have the values of the variables that were set before. -/
theorem read_of_load {inst : Instance} (hdistinct : inst.environ.IsDistinct) {settings : Settings}
    (hload : inst.load.2 = .ok settings) {setting : Setting} {text : String}
    (htext : inst.environ.get? setting.variableName = some text) :
    setting.read (ofVariable text) = .ok (setting.of settings) := by
  obtain ⟨vars, hvars, hsettings⟩ := settings_of_load hload
  obtain ⟨all, hall, rfl⟩ := Option.map_eq_some_iff.mp hvars
  change Settings.load inst.files "." (all.filter Settings.counts) = .ok settings at hsettings
  have hlater : (inst.environ.after inst.files).get? setting.variableName = some text :=
    Environ.extends_load inst.environ _ _ _ htext
  have hcounts : Settings.counts (setting.variableName, text) = true := by
    simpa [Settings.counts] using Settings.variableName_mem setting
  have hmem := List.mem_filter.mpr ⟨Environ.mem_texts hall hlater, hcounts⟩
  have hnodup : ((all.filter Settings.counts).map (·.1)).Nodup :=
    (Environ.nodup_texts hall (hdistinct.load _)).sublist (List.filter_sublist.map _)
  obtain ⟨deployment, common, own, hvalues⟩ := Settings.ofShelf_ok hsettings
  have hvalue := hvalues setting
  rw [Settings.childOf_mergedLayers_variable deployment _ (Settings.mentioned?_of_mem hnodup hmem)]
    at hvalue
  exact hvalue

/-! ## Failed attempts -/

/-- Failed attempts leave no settings behind, but the variables of their environment files. -/
theorem attempts_of_failed {inst : Instance} (hempty : inst.cell = none) {trees : List Files.Node}
    (hfailed : ∀ result ∈ (inst.attempts trees).2, ∃ fault, result = .error fault) :
    (inst.attempts trees).1.cell = none ∧
    (inst.attempts trees).1.environ = trees.foldl Environ.after inst.environ := by
  induction trees generalizing inst with
  | nil => exact ⟨hempty, rfl⟩
  | cons files rest ih =>
    -- The first attempt failed, so its cell is empty again, and only its environment goes on.
    simp only [attempts, attempt_of_empty hempty] at hfailed ⊢
    obtain ⟨fault, hfault⟩ := hfailed _ List.mem_cons_self
    rw [hfault] at hfailed ⊢
    exact ih rfl fun result hresult => hfailed result (List.mem_cons_of_mem _ hresult)

theorem extends_foldl_after (environ : Environ) (trees : List Files.Node) :
    environ.Extends (trees.foldl Environ.after environ) := by
  induction trees generalizing environ with
  | nil => exact .refl environ
  | cons files rest ih => exact (Environ.extends_load environ _).trans (ih _)

theorem isDistinct_foldl_after {environ : Environ} (h : environ.IsDistinct)
    (trees : List Files.Node) :
    (trees.foldl Environ.after environ).IsDistinct := by
  induction trees generalizing environ with
  | nil => exact h
  | cons files rest ih => exact ih (h.load _)

/-- After failed attempts, the next one is the first one in an environment that has grown by what
their environment files have set: what was set is never set again, and settings that are loaded
have these values. Where the failed attempts have set nothing, they leave no trace. -/
theorem failed_attempts_leave_variables (inst : Instance) (trees : List Files.Node)
    (files : Files.Node) (hempty : inst.cell = none) (hdistinct : inst.environ.IsDistinct)
    (hfailed : ∀ result ∈ (inst.attempts trees).2, ∃ fault, result = .error fault) :
    let grown := trees.foldl Environ.after inst.environ
    let next := ((inst.attempts trees).1.attempt files).2
    next = (Instance.settings ⟨grown, files, none⟩).2 ∧ inst.environ.Extends grown ∧
      (∀ settings, next = .ok settings → ∀ (setting : Setting) text,
        grown.get? setting.variableName = some text →
          setting.read (ofVariable text) = .ok (setting.of settings)) ∧
      ((∀ tree ∈ trees, inst.environ.after tree = inst.environ) →
        next = (Instance.settings ⟨inst.environ, files, none⟩).2) := by
  intro grown next
  obtain ⟨hcell, henviron⟩ := attempts_of_failed hempty hfailed
  have hfresh (environ : Environ) :
      (Instance.settings ⟨environ, files, none⟩).2 = (load ⟨environ, files, none⟩).2 := by
    change (attempt ⟨environ, files, none⟩ files).2 = _
    rw [attempt_of_empty rfl]
  have hnext : next = (load ⟨grown, files, none⟩).2 := by
    unfold next
    rw [attempt_of_empty hcell, henviron]
  refine ⟨hnext.trans (hfresh grown).symm, extends_foldl_after inst.environ trees, ?_,
    fun hkept => ?_⟩
  · intro settings hsettings setting text htext
    rw [hnext] at hsettings
    exact read_of_load (isDistinct_foldl_after hdistinct trees) hsettings htext
  · have hgrown : grown = inst.environ := by
      unfold grown
      clear * - hkept
      induction trees with
      | nil => rfl
      | cons tree rest ih =>
        rw [List.foldl_cons, hkept tree List.mem_cons_self]
        exact ih fun other hother => hkept other (List.mem_cons_of_mem _ hother)
    rw [hnext, hgrown, hfresh]

/-! ## An environment file alone -/

/-- A directory with nothing but an environment file. -/
def withEnvironFile (contents : String) : Files.Node :=
  .directory Files.newDirectoryMode
    [(.text environFileName, .file Files.newFileMode (.ofText contents))]

theorem contentsOf_withEnvironFile (contents : String) :
    Environ.contentsOf (withEnvironFile contents) environFileName = .ok (Text.utf8 contents) := by
  have hparts : Files.partsOf? environFileName = some ([] ++ [.name (.text environFileName)]) := by
    decide
  have harrived : Files.Leads (withEnvironFile contents) [] Files.linkLimit [] [] := .arrived
  have hget :
      Files.Entries.get? [(.text environFileName, .file Files.newFileMode (.ofText contents))]
      (.text environFileName) = some (.file Files.newFileMode (.ofText contents)) := by
    simp [Files.Entries.get?]
  have hlook : Files.look (withEnvironFile contents) environFileName =
      .ok (.file Files.newFileMode (.ofText contents)) := by
    unfold Files.look Files.spotOf
    rw [hparts]
    unfold Files.spotAt
    dsimp only
    rw [harrived.walk_name rfl (by simp [hget]), hget]
    rfl
  unfold Environ.contentsOf Files.read
  rw [hlook]
  rfl

/-- The names of all documents that settings are read from. -/
def documentNames : List String :=
  (Settings.commonName :: [.dev, .test, .prod].map Settings.ownName).flatMap fun name =>
    name :: Document.Format.extensions.map fun (ending, _) => s!"{name}.{ending}"

theorem shelfOf_withEnvironFile (contents : String) {name : String} (hname : name ∈ documentNames) :
    Settings.shelfOf (withEnvironFile contents) "." name = none := by
  have hopens : Files.Opens (withEnvironFile contents) "." [] Files.newDirectoryMode
      [(.text environFileName, .file Files.newFileMode (.ofText contents))] :=
    ⟨by decide, ⟨[], by decide, rfl, .arrived⟩, rfl⟩
  have hisName : Files.IsName name := by
    obtain ⟨base, hbase, hcandidate⟩ := List.mem_flatMap.mp hname
    have hplain : Settings.IsPlainName base := by
      rcases List.mem_cons.mp hbase with rfl | hown
      · exact Settings.isPlainName_common
      · obtain ⟨deployment, -, rfl⟩ := List.mem_map.mp hown
        exact Settings.isPlainName_own deployment
    exact (hplain.candidates name hcandidate).isName
  have hother : name ≠ environFileName := by
    have hall : ∀ name ∈ documentNames, name ≠ environFileName := by decide
    exact hall name hname
  have hget :
      Files.Entries.get? [(.text environFileName, .file Files.newFileMode (.ofText contents))]
        (.text name) =
      none := by
    simp [Files.Entries.get?, Ne.symm hother]
  have hfile : Files.isFile (withEnvironFile contents) (Files.Path.join "." name) = false := by
    unfold Files.isFile
    rw [hopens.look_join hisName (by simp [hget]), hget]
    cases Files.barrier? "." Files.newDirectoryMode name <;> rfl
  simp [Settings.shelfOf, hfile]

theorem readDocument_withEnvironFile (contents : String) {name : String}
    (hname : name ∈ Settings.commonName :: [.dev, .test, .prod].map Settings.ownName) :
    Settings.readDocument (Settings.placeOf ".") (Settings.shelfOf (withEnvironFile contents) ".")
      name = .ok [] := by
  have hnone : Settings.find? (Settings.shelfOf (withEnvironFile contents) ".") name = none := by
    unfold Settings.find?
    split
    · rfl
    · rw [List.findSome?_eq_none_iff]
      rintro ⟨ending, format⟩ hmem
      have hin : s!"{name}.{ending}" ∈ documentNames :=
        List.mem_flatMap.mpr ⟨name, hname, List.mem_cons_of_mem _ (List.mem_map_of_mem hmem)⟩
      dsimp only
      rw [shelfOf_withEnvironFile contents hin]
      rfl
  unfold Settings.readDocument
  rw [hnone]

/-- There are no documents beside the environment file, which is all that counts. -/
theorem load_withEnvironFile {environ later : Environ} {vars : Settings.Variables}
    {contents : String} {result : Except Settings.Fault Settings}
    (hload : Environ.load environ (.ok (Text.utf8 contents)) = (later, .read))
    (hvars : variables? later = some vars)
    (hresult : (Settings.deploymentOf vars >>= fun deployment =>
      Settings.ofLayers deployment [] [] vars) = result) (cell : Settings.Call.Cell Settings) :
    (load ⟨environ, withEnvironFile contents, cell⟩).2 = result.mapError .settings := by
  have hsettings : Settings.load (withEnvironFile contents) "." vars = result := by
    rw [← hresult]
    unfold Settings.load Settings.loadIn Settings.ofShelfIn
    refine bind_congr fun deployment => ?_
    rw [readDocument_withEnvironFile contents (by simp),
      readDocument_withEnvironFile contents (by cases deployment <;> simp)]
    rfl
  unfold load loadEnvironFile
  dsimp only
  rw [contentsOf_withEnvironFile, hload]
  dsimp only
  rw [hvars]
  dsimp only
  rw [hsettings]

/-- What is loaded is kept, and the variables of the file are set. -/
theorem attempt_withEnvironFile {environ later : Environ} {vars : Settings.Variables}
    {contents : String} {result : Except Settings.Fault Settings} (files : Files.Node)
    (hload : Environ.load environ (.ok (Text.utf8 contents)) = (later, .read))
    (hvars : variables? later = some vars)
    (hresult : (Settings.deploymentOf vars >>=
      fun deployment => Settings.ofLayers deployment [] [] vars) = result) :
    attempt ⟨environ, files, none⟩ (withEnvironFile contents) =
      (⟨later, withEnvironFile contents, result.toOption⟩, result.mapError .settings) := by
  have hafter : environ.after (withEnvironFile contents) = later := by
    unfold Environ.after
    rw [contentsOf_withEnvironFile, hload]
  rw [attempt_of_empty rfl]
  dsimp only
  rw [hafter, load_withEnvironFile hload hvars hresult]
  rcases result with fault | settings <;> rfl

/-- An instance that was just started, with nothing in its environment. -/
def started : Instance := ⟨[], .directory Files.newDirectoryMode [], none⟩

/-- An environment with nothing but a port. -/
def portAlone (text : String) : Environ := [(.text "SERVER_PORT", .text text)]

/-- An environment file whose port is no number, and one whose port is. -/
def wrongPort : Files.Node := withEnvironFile "SERVER_PORT=abc\n"

def rightPort : Files.Node := withEnvironFile "SERVER_PORT=9000\n"

def portFault : Settings.Fault :=
  .mistyped "server_port" ⟨.text "abc", .integer, some Settings.variableOrigin⟩

theorem load_wrongPort : Environ.load [] (.ok (Text.utf8 "SERVER_PORT=abc\n")) =
    (portAlone "abc", .read) := by
  decide +kernel

theorem ofLayers_wrongPort : (Settings.deploymentOf [("SERVER_PORT", "abc")] >>= fun deployment =>
    Settings.ofLayers deployment [] [] [("SERVER_PORT", "abc")]) = .error portFault := by
  decide +kernel

theorem attempt_wrongPort :
    started.attempt wrongPort =
    (⟨portAlone "abc", wrongPort, none⟩, .error (.settings portFault)) :=
  attempt_withEnvironFile started.files load_wrongPort rfl ofLayers_wrongPort

/-- The attempt with the right port is the first one where the wrong one is set already. -/
theorem a_wrong_port_is_left_behind :
    started.cell = none ∧ started.environ.IsDistinct ∧
      (∀ result ∈ (started.attempts [wrongPort]).2, ∃ fault, result = .error fault) ∧
      ((started.attempts [wrongPort]).1.attempt rightPort).2 =
        (Instance.settings ⟨portAlone "abc", rightPort, none⟩).2 := by
  have hfailed : ∀ result ∈ (started.attempts [wrongPort]).2, ∃ fault, result = .error fault := by
    simp only [attempts, attempt_wrongPort, List.mem_singleton, forall_eq]
    exact ⟨_, rfl⟩
  have hdistinct : started.environ.IsDistinct := List.nodup_nil
  obtain ⟨hnext, -⟩ :=
    failed_attempts_leave_variables started [wrongPort] rightPort rfl hdistinct hfailed
  have hafter : Environ.after [] wrongPort = portAlone "abc" := by
    unfold Environ.after wrongPort
    rw [contentsOf_withEnvironFile, load_wrongPort]
  refine ⟨rfl, hdistinct, hfailed, hnext.trans ?_⟩
  exact congrArg (fun environ => (Instance.settings ⟨environ, rightPort, none⟩).2) hafter

/-- A port that is no number stays when the environment file is corrected. -/
theorem a_corrected_environ_file_is_not_seen :
    (started.attempts [wrongPort, rightPort]).2 = List.replicate 2 (.error (.settings portFault)) ∧
      ((Instance.settings ⟨started.environ, rightPort, none⟩).2.map (·.serverPort)) = .ok 9000 := by
  have hkept : Environ.load (portAlone "abc") (.ok (Text.utf8 "SERVER_PORT=9000\n")) =
      (portAlone "abc", .read) := by
    decide +kernel
  have hagain : attempt ⟨portAlone "abc", wrongPort, none⟩ rightPort =
      (⟨portAlone "abc", rightPort, none⟩, .error (.settings portFault)) :=
    attempt_withEnvironFile wrongPort hkept rfl ofLayers_wrongPort
  have hright : Environ.load [] (.ok (Text.utf8 "SERVER_PORT=9000\n")) =
      (portAlone "9000", .read) := by
    decide +kernel
  have hfresh : Instance.settings ⟨started.environ, rightPort, none⟩ = _ :=
    attempt_withEnvironFile started.files hright rfl rfl
  refine ⟨by simp only [attempts, attempt_wrongPort, hagain, List.replicate], ?_⟩
  rw [hfresh]
  decide +kernel

end Instance

end Chassis
