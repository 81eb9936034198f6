-- Loading with an environment file: what counts is what each name means, its value in the
-- environment or else its first assignment in the file; the documents come below both.
import Chassis.Proofs.Environ.Assigned
import Chassis.Proofs.Settings.Attempts

namespace Chassis

open Environ (Assignments)
open Settings (Deployment Setting Variables ofShelf ofVariable)

namespace Settings

/-! ## Variables by their names -/

/-- The variables that count, each with a value if there is one for its name. -/
def Variables.ofValues (value? : String → Option String) : Variables :=
  variableNames.filterMap fun name => (value? name).map fun value => (name, value)

theorem find?_named (value? : String → Option String) (names : List String) (name : String) :
    ((names.filterMap fun name => (value? name).map fun value => (name, value)).find?
      (·.1 == name)).map (·.2) =
      if name ∈ names then value? name else none := by
  induction names with
  | nil => rfl
  | cons first rest ih =>
    by_cases hfirst : first = name
    · subst hfirst
      cases hvalue : value? first with
      | none =>
        rw [List.filterMap_cons_none (by simp [hvalue]), ih, hvalue]
        simp
      | some value => simp [hvalue]
    · have hmem : name ∈ first :: rest ↔ name ∈ rest := by simp [Ne.symm hfirst]
      simp only [hmem]
      rw [← ih]
      cases hvalue : value? first with
      | none => rw [List.filterMap_cons_none (by simp [hvalue])]
      | some value => simp [hvalue, hfirst]

theorem Variables.get?_ofValues (value? : String → Option String) {name : String}
    (hname : name ∈ variableNames) :
    (ofValues value?).get? name = value? name := by
  unfold get? ofValues
  rw [find?_named, if_pos hname]

theorem Variables.nodup_ofValues (value? : String → Option String) :
    ((ofValues value?).map (·.1)).Nodup := by
  have hnames : (ofValues value?).map (·.1) = variableNames.filter fun name =>
      (value? name).isSome := by
    unfold ofValues
    induction variableNames with
    | nil => rfl
    | cons name rest ih =>
      cases hvalue : value? name with
      | none =>
        rw [List.filterMap_cons_none (by simp [hvalue]), ih,
          List.filter_cons_of_neg (by simp [hvalue])]
      | some value =>
        rw [List.filterMap_cons_some (by rw [hvalue]; rfl), List.map_cons, ih,
          List.filter_cons_of_pos (by simp [hvalue])]
  rw [hnames]
  exact List.Nodup.filter _ (by decide)

/-- Variables count by the values of their names, in whatever order they are. -/
theorem ofShelf_congr (place : Place) (shelf : Shelf) {vars vars' : Variables}
    (hnodup : (vars.map (·.1)).Nodup) (hnodup' : (vars'.map (·.1)).Nodup)
    (h : ∀ name ∈ variableNames, vars.get? name = vars'.get? name) :
    ofShelf place shelf vars = ofShelf place shelf vars' := by
  have hdeployment : deploymentOf vars = deploymentOf vars' := by
    unfold deploymentOf
    rw [h "APP_ENV" (by decide)]
  have hsetting (setting : Setting) :
      mentioned? vars setting.variableName = mentioned? vars' setting.variableName :=
    (mentioned?_eq_find? hnodup _).trans
      ((h _ (variableName_mem setting)).trans (mentioned?_eq_find? hnodup' _).symm)
  unfold ofShelf ofShelfIn ofLayersIn
  rw [hdeployment]
  refine bind_congr fun deployment => bind_congr fun common => bind_congr fun own => ?_
  refine ofTable_congr ?_ fun setting => childOf_mergedLayers_congr (hsetting setting)
  rw [childOf_mergedLayers_deployment, childOf_mergedLayers_deployment]

end Settings

/-- An environment that a process of texts can have: each name is there once, and no value has a
zero in it. -/
structure Environ.IsOrdinary (environ : Environ) : Prop where
  distinct : environ.IsDistinct
  texts : environ.IsText
  noZero : ∀ name value, environ.get? name = some value → Environ.NoZero value

namespace Instance

/-- What the environment file of an instance assigns: nothing if it is absent, and all that it says
if it has no bad line and no zero in it. -/
inductive Assigns (inst : Instance) : Assignments → Prop where
  | absent : Environ.contentsOf inst.files environFileName = .error .notFound → Assigns inst []
  | read {bytes : Text.Bytes} {assignments : Assignments} :
      Environ.contentsOf inst.files environFileName = .ok bytes → 0 ∉ bytes →
      inst.environ.assignedBy bytes = (assignments, none) → Assigns inst assignments

/-- The variables that count, with what their names mean: the value in the environment, else the
first assignment. -/
def effective (environ : Environ) (assignments : Assignments) : Variables :=
  .ofValues (environ.meaning? assignments)

theorem get?_effective (environ : Environ) (assignments : Assignments) {name : String}
    (hname : name ∈ Settings.variableNames) :
    (effective environ assignments).get? name = environ.meaning? assignments name :=
  Variables.get?_ofValues _ hname

section

variable {inst : Instance} {assignments : Assignments} (hordinary : inst.environ.IsOrdinary)
  (hfile : inst.Assigns assignments)
include hordinary hfile

/-- After the file, the environment has what each name means. -/
theorem get?_after (name : String) :
    (inst.environ.after inst.files).get? name = inst.environ.meaning? assignments name := by
  unfold Environ.after
  cases hfile with
  | absent hcontents =>
    rw [hcontents]
    simp [Environ.load, Environ.meaning?]
  | read hcontents hzero hassigned =>
    rw [hcontents, (Environ.load_assigned hordinary.noZero hzero).2, hassigned]

/-- The file does not stop the load. -/
theorem load_of_assigns {vars : Variables}
    (hvars : variables? (inst.environ.after inst.files) = some vars) :
    inst.load.2 = (Settings.load inst.files "." vars).mapError .settings := by
  have hloading : (inst.loadEnvironFile environFileName).2 = .read ∨
      (inst.loadEnvironFile environFileName).2 = .absent := by
    unfold loadEnvironFile
    cases hfile with
    | absent hcontents =>
      rw [hcontents]
      exact Or.inr rfl
    | read hcontents hzero hassigned =>
      rw [hcontents]
      refine Or.inl ?_
      dsimp only
      rw [(Environ.load_assigned hordinary.noZero hzero).1, hassigned]
      rfl
  unfold load
  rcases hresult : inst.loadEnvironFile environFileName with ⟨later, loading⟩
  have hlater := eq_of_loadEnvironFile hresult
  rw [hresult] at hloading
  dsimp only at hloading
  rcases hloading with rfl | rfl
  · subst hlater
    dsimp only
    rw [hvars]
  · subst hlater
    dsimp only
    rw [hvars]

/-- Loading is loading with what the names of the variables mean. -/
theorem load_eq_effective :
    inst.load.2 = (Settings.load inst.files "." (effective inst.environ assignments)).mapError
      .settings := by
  obtain ⟨all, hall⟩ :=
    (hordinary.texts.load (Environ.contentsOf inst.files environFileName)).texts?
  have hvars : variables? (inst.environ.after inst.files) = some (all.filter Settings.counts) :=
    congrArg (Option.map _) hall
  rw [load_of_assigns hordinary hfile hvars]
  congr 1
  refine Settings.ofShelf_congr _ _ ?_ (Variables.nodup_ofValues _) fun name hname => ?_
  · exact (Environ.nodup_texts hall (hordinary.distinct.load _)).sublist (List.filter_sublist.map _)
  · rw [Settings.get?_filter_counts all hname, get?_effective _ _ hname,
      ← get?_after hordinary hfile]
    exact (Environ.get?_of_texts? hall name).symm

end

/-- Settings that are loaded have what the names of their variables mean. -/
theorem read_of_effective {inst : Instance} {assignments : Assignments} {settings : Settings}
    (hload : Settings.load inst.files "." (effective inst.environ assignments) = .ok settings)
    {setting : Setting} {text : String}
    (htext : inst.environ.meaning? assignments setting.variableName = some text) :
    setting.read (ofVariable text) = .ok (setting.of settings) := by
  obtain ⟨deployment, common, own, hread⟩ := Settings.ofShelf_ok hload
  have hvalue := hread setting
  have hmentioned : Settings.mentioned? (effective inst.environ assignments) setting.variableName =
      some text := by
    rw [← htext, ← get?_effective inst.environ assignments (Settings.variableName_mem setting)]
    exact Settings.mentioned?_eq_find? (Variables.nodup_ofValues _) _
  rw [Settings.childOf_mergedLayers_variable deployment _ hmentioned] at hvalue
  exact hvalue

theorem deploymentOf_effective {environ : Environ} {assignments : Assignments} {name : String}
    (hunset : environ.get? "APP_ENV" = none) (hname : assignments.lookup "APP_ENV" = some name) :
    Settings.deploymentOf (effective environ assignments) =
    (Deployment.parse name).mapError .unknownDeployment := by
  unfold Settings.deploymentOf
  rw [get?_effective environ assignments (by decide), Environ.meaning?, hunset, hname]
  rfl

/-- Loading comes to loading with the variables that count, each with its value in the environment,
an empty one too, or else with its first assignment in the environment file. So loaded settings have
these values whatever the documents say, and a deployment that is named by the file alone is the
one whose document is read and the one that the settings have. -/
theorem an_environment_file_fills_in {inst : Instance} {assignments : Assignments}
    (hordinary : inst.environ.IsOrdinary) (hfile : inst.Assigns assignments) :
    inst.load.2 =
        (Settings.load inst.files "." (effective inst.environ assignments)).mapError .settings ∧
      (∀ settings, inst.load.2 = .ok settings → ∀ (setting : Setting) text,
        inst.environ.meaning? assignments setting.variableName = some text →
          setting.read (ofVariable text) = .ok (setting.of settings)) ∧
      ∀ name, inst.environ.get? "APP_ENV" = none → assignments.lookup "APP_ENV" = some name →
        inst.load.2 = Except.mapError .settings (do
            let deployment ← (Deployment.parse name).mapError .unknownDeployment
            let common ← Settings.readDocument (Settings.placeOf ".")
              (Settings.shelfOf inst.files ".") Settings.commonName
            let own ← Settings.readDocument (Settings.placeOf ".")
              (Settings.shelfOf inst.files ".") (Settings.ownName deployment)
            Settings.ofLayers deployment common own (effective inst.environ assignments)) ∧
          ∀ settings, inst.load.2 = .ok settings →
            Deployment.parse name = .ok settings.deployment := by
  have hload := load_eq_effective hordinary hfile
  have hok {settings : Settings} (hsettings : inst.load.2 = .ok settings) :
      Settings.load inst.files "." (effective inst.environ assignments) = .ok settings := by
    rw [hload] at hsettings
    exact ok_of_mapError.mp hsettings
  refine ⟨hload, fun settings hsettings setting text htext =>
    read_of_effective (hok hsettings) htext, ?_⟩
  intro name hunset hname
  have hdeployment := deploymentOf_effective hunset hname
  refine ⟨?_, fun settings hsettings => ?_⟩
  · rw [hload, Settings.load, Settings.loadIn, Settings.ofShelfIn, hdeployment]
  · have hchosen := Settings.deploymentOf_of_ofShelf (hok hsettings)
    rw [hdeployment] at hchosen
    exact ok_of_mapError.mp hchosen

/-- A name that is set and empty keeps its value, one that is assigned twice has the first, and the
deployment comes from the file. -/
theorem an_environment_file_chooses_production :
    let contents := "APP_NAME=x\nAPP_ENV=prod\nSERVER_PORT=9000\nSERVER_PORT=abc\n"
    let inst : Instance := ⟨[(.text "APP_NAME", .text "")], withEnvironFile contents, none⟩
    inst.load.2 = (Settings.load inst.files "."
      [("APP_NAME", ""), ("APP_ENV", "prod"), ("SERVER_PORT", "9000")]).mapError .settings ∧
      ∀ settings, inst.load.2 = .ok settings → settings.deployment = .prod := by
  intro contents inst
  have hordinary : inst.environ.IsOrdinary := by
    refine ⟨List.nodup_singleton _, ?_, ?_⟩
    · intro entry hentry
      exact ⟨"APP_NAME", "", List.mem_singleton.mp hentry⟩
    · intro name value hvalue
      have hmem := Environ.mem_of_get? hvalue
      cases List.mem_singleton.mp hmem
      simp [Environ.NoZero]
  have hfile : inst.Assigns
      [("APP_NAME", "x"), ("APP_ENV", "prod"), ("SERVER_PORT", "9000"), ("SERVER_PORT", "abc")] :=
    .read (contentsOf_withEnvironFile contents) (by decide +kernel) (by decide +kernel)
  obtain ⟨hload, -, hdeployment⟩ := an_environment_file_fills_in hordinary hfile
  refine ⟨?_, fun settings hsettings => ?_⟩
  · have heffective : effective inst.environ
        [("APP_NAME", "x"), ("APP_ENV", "prod"), ("SERVER_PORT", "9000"), ("SERVER_PORT", "abc")] =
        [("APP_NAME", ""), ("APP_ENV", "prod"), ("SERVER_PORT", "9000")] := by
      decide +kernel
    rw [hload, heffective]
  · have hprod : Deployment.parse "prod" = .ok .prod := by decide
    have hchosen := (hdeployment "prod" (by decide) (by decide)).2 settings hsettings
    exact (Except.ok.inj (hprod.symm.trans hchosen)).symm

end Instance

end Chassis
