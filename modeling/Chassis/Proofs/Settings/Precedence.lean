-- Which layer decides a setting: the highest one that mentions it, and no other has a say, not
-- even in whether the settings can be loaded at all.
import Mathlib.Data.List.Nodup
import Chassis.Proofs.Settings.Fields
import Chassis.Proofs.Settings.Layers
import Chassis.Settings.Load

namespace Chassis.Settings

open Document

/-! ## Variables -/

/-- The variable of a setting. -/
def Setting.variableName : Setting → String
  | appName => "APP_NAME"
  | appVersion => "APP_VERSION"
  | debug => "DEBUG"
  | serverHost => "SERVER_HOST"
  | serverPort => "SERVER_PORT"
  | databaseUrl => "DATABASE_URL"
  | databaseMaxConnections => "DATABASE_MAX_CONNECTIONS"
  | databaseAcquireTimeoutSecs => "DATABASE_ACQUIRE_TIMEOUT_SECS"
  | secretKey => "SECRET_KEY"
  | algorithm => "ALGORITHM"
  | accessTokenExpireMinutes => "ACCESS_TOKEN_EXPIRE_MINUTES"
  | corsOrigins => "CORS_ORIGINS"
  | qdrantUrl => "QDRANT_URL"
  | openaiApiKey => "OPENAI_API_KEY"
  | claudeApiKey => "CLAUDE_API_KEY"
  | ollamaUrl => "OLLAMA_URL"
  | logDir => "LOG_DIR"
  | logFormat => "LOG_FORMAT"
  | logRetentionDays => "LOG_RETENTION_DAYS"

/-- The key of the deployment is that of no other setting. -/
theorem ne_key (setting : Setting) : "app_env" ≠ setting.key := by cases setting <;> decide

/-- A text from a variable as a value. -/
def ofVariable (text : String) : Value := .scalar (some variableOrigin) (.text text)

theorem variableName_mem (setting : Setting) : setting.variableName ∈ variableNames := by
  cases setting <;> decide

theorem lower_variableNames : variableNames.map Text.lower = [
    "app_name", "app_version", "debug", "database_url", "secret_key", "algorithm",
    "access_token_expire_minutes", "cors_origins", "qdrant_url", "openai_api_key",
    "claude_api_key", "ollama_url", "app_env", "server_host", "server_port",
    "database_max_connections", "database_acquire_timeout_secs", "log_dir", "log_format",
    "log_retention_days"] := by
  decide +kernel

theorem lower_variableName (setting : Setting) : Text.lower setting.variableName = setting.key := by
  have hall := lower_variableNames
  simp only [variableNames, List.map_cons, List.map_nil, List.cons.injEq] at hall
  cases setting <;> simp only [Setting.variableName, Setting.key, hall]

/-- No other variable that counts is called like a setting. -/
theorem lower_eq_key {name : String} (hname : name ∈ variableNames) (setting : Setting) :
    Text.lower name = setting.key ↔ name = setting.variableName := by
  have hnodup : (variableNames.map Text.lower).Nodup := by
    rw [lower_variableNames]
    decide
  rw [← lower_variableName]
  constructor
  · exact List.inj_on_of_nodup_map hnodup hname (variableName_mem setting)
  · exact congrArg Text.lower

theorem isPlainKey_lower {name : String} (hname : name ∈ variableNames) :
    IsPlainKey (Text.lower name) := by
  have hall : ∀ key ∈ variableNames.map Text.lower, IsPlainKey key := by
    rw [lower_variableNames]
    decide
  exact hall _ (List.mem_map_of_mem hname)

theorem isPlain_variableLayer (vars : Variables) : IsPlain (variableLayer vars) := by
  intro entry hentry
  obtain ⟨⟨name, value⟩, hmem, rfl⟩ := List.mem_map.mp hentry
  have hname : name ∈ variableNames := by simpa using (List.mem_filter.mp hmem).2
  exact ⟨isPlainKey_lower hname, rfl⟩

theorem mentioned?_variableLayer (vars : Variables) (setting : Setting) :
    mentioned? (variableLayer vars) setting.key = (mentioned? vars setting.variableName).map
      ofVariable := by
  unfold variableLayer
  induction vars with
  | nil => rfl
  | cons first rest ih =>
    obtain ⟨name, value⟩ := first
    rw [List.filter_cons, mentioned?]
    by_cases hname : name ∈ variableNames
    · have hkey := lower_eq_key hname setting
      rw [if_pos (by simpa using hname), List.map_cons, mentioned?, ih]
      by_cases heq : name = setting.variableName
      · rw [if_pos (hkey.mpr heq), if_pos heq]
        cases mentioned? rest setting.variableName <;> rfl
      · rw [if_neg fun h => heq (hkey.mp h), if_neg heq]
        cases mentioned? rest setting.variableName <;> rfl
    · have hne : name ≠ setting.variableName := fun heq => hname (heq ▸ variableName_mem setting)
      rw [if_neg (by simpa using hname), ih, if_neg hne, Option.or_none]

/-! ## The layer that decides -/

/-- The value of a setting in the highest layer that mentions it: the variables, the document of
the deployment, the common document, the defaults. -/
def winning (common own : Table) (vars : Variables) (setting : Setting) : Value :=
  match mentioned? vars setting.variableName with
  | some text => ofVariable text
  | none =>
    match mentioned? own setting.key with
    | some value => value
    | none =>
      match mentioned? common setting.key with
      | some value => value
      | none => childOf defaults setting.key

theorem winning_eq (common own : Table) (vars : Variables) (setting : Setting) :
    winning common own vars setting =
    ((mentioned? [common, own, variableLayer vars].flatten setting.key).or
      (defaults.get? setting.key)).getD (.plain .nil) := by
  have hflat : [common, own, variableLayer vars].flatten = common ++ (own ++ variableLayer vars) :=
    by simp
  rw [hflat, mentioned?_append, mentioned?_append, mentioned?_variableLayer]
  unfold winning childOf
  cases mentioned? vars setting.variableName with
  | some text => rfl
  | none =>
    cases mentioned? own setting.key with
    | some value => rfl
    | none => cases mentioned? common setting.key <;> rfl

section

variable {common own : Table} (hcommon : IsPlain common) (hown : IsPlain own)
  (deployment : Deployment)
  (vars : Variables)
include hcommon hown

omit hcommon hown in
theorem mergedLayers_eq : mergedLayers deployment common own vars =
    (overDefaults defaults [common, own, variableLayer vars]).put "app_env"
      (.ofText deployment.name) := by
  have hkey : IsPlainKey "app_env" := by decide
  exact congrArg entriesOf (layEntry_plain _ hkey rfl)

theorem childOf_mergedLayers (setting : Setting) :
    childOf (mergedLayers deployment common own vars) setting.key =
    winning common own vars setting := by
  have hplain : ∀ document ∈ [common, own, variableLayer vars], IsPlain document := by
    intro document hmem
    simp only [List.mem_cons, List.not_mem_nil, or_false] at hmem
    rcases hmem with rfl | rfl | rfl
    · exact hcommon
    · exact hown
    · exact isPlain_variableLayer vars
  unfold childOf
  rw [mergedLayers_eq, get?_put, if_neg (ne_key setting),
    overDefaults_plain defaults hplain, winning_eq]

omit hcommon hown in
/-- A variable that is set decides, even over documents of any kind. -/
theorem childOf_mergedLayers_variable {setting : Setting} {text : String}
    (htext : mentioned? vars setting.variableName = some text) :
    childOf (mergedLayers deployment common own vars) setting.key = ofVariable text := by
  have hlayer : mentioned? (variableLayer vars) setting.key = some (ofVariable text) := by
    rw [mentioned?_variableLayer, htext]
    rfl
  have htop := overDefaults_top defaults [common, own] (isPlain_variableLayer vars) hlayer rfl
  rw [List.cons_append, List.cons_append, List.nil_append] at htop
  unfold childOf
  rw [mergedLayers_eq, get?_put, if_neg (ne_key setting), htop]
  rfl

omit hcommon hown in
theorem childOf_mergedLayers_deployment :
    childOf (mergedLayers deployment common own vars) "app_env" = .ofText deployment.name := by
  unfold childOf
  rw [mergedLayers_eq, get?_put, if_pos rfl]
  rfl

omit hcommon hown in
/-- The deployment that has been chosen is laid over everything. -/
theorem deploymentField_mergedLayers :
    deploymentField (mergedLayers deployment common own vars) "app_env" = .ok deployment := by
  unfold deploymentField
  rw [childOf_mergedLayers_deployment]
  cases deployment <;> decide

/-- Two documents and the variables make the settings whose values the highest layers have. -/
theorem ofLayers_eq_ok {order : List String} {settings : Settings} :
    ofLayersIn order deployment common own vars = .ok settings ↔ deployment = settings.deployment ∧
      ∀ setting : Setting, setting.read (winning common own vars setting) =
        .ok (setting.of settings) := by
  unfold ofLayersIn
  simp only [ofTable_eq_ok, childOf_mergedLayers hcommon hown, deploymentField_mergedLayers,
    Except.ok.injEq]

theorem ofLayers_eq_error {order : List String} :
    (∃ fault, ofLayersIn order deployment common own vars = .error fault) ↔
    ∃ (setting : Setting) (fault : Fault), setting.read (winning common own vars setting) =
      .error fault := by
  unfold ofLayersIn
  simp [ofTable_eq_error, childOf_mergedLayers hcommon hown, deploymentField_mergedLayers]

/-- The layers have no say but for the values that they have for the keys of settings. -/
theorem ofLayers_congr {common' own' : Table} (hcommon' : IsPlain common') (hown' : IsPlain own')
    (hsame : ∀ setting : Setting, mentioned? common' setting.key = mentioned? common setting.key)
    (hsame' : ∀ setting : Setting, mentioned? own' setting.key = mentioned? own setting.key)
    {order : List String} :
    ofLayersIn order deployment common' own' vars =
    ofLayersIn order deployment common own vars := by
  unfold ofLayersIn
  refine ofTable_congr ?_ fun setting => ?_
  · rw [childOf_mergedLayers_deployment, childOf_mergedLayers_deployment]
  · rw [childOf_mergedLayers hcommon' hown', childOf_mergedLayers hcommon hown]
    unfold winning
    rw [hsame, hsame']

end

/-- The variables have no say in a setting but for the value of its own variable. -/
theorem childOf_mergedLayers_congr {deployment : Deployment} {common own : Table}
    {vars vars' : Variables} {setting : Setting}
    (h : mentioned? vars setting.variableName = mentioned? vars' setting.variableName) :
    childOf (mergedLayers deployment common own vars) setting.key =
      childOf (mergedLayers deployment common own vars') setting.key := by
  obtain ⟨below, hget⟩ := overDefaults_concat defaults [common, own]
  have hlayer : mentioned? (variableLayer vars) setting.key =
      mentioned? (variableLayer vars') setting.key := by
    rw [mentioned?_variableLayer, mentioned?_variableLayer, h]
  unfold childOf
  rw [mergedLayers_eq, mergedLayers_eq, get?_put, get?_put]
  simp only [List.cons_append, List.nil_append] at hget
  rw [hget _ (isPlain_variableLayer vars), hget _ (isPlain_variableLayer vars'), hlayer]

/-! ## Loading -/

/-- A document that parses has plain keys and no tables. -/
def IsPlainRead : Except Fault Table → Prop
  | .ok document => IsPlain document
  | .error fault => fault ≠ .crashed

instance : DecidablePred IsPlainRead
  | .ok document => inferInstanceAs (Decidable (IsPlain document))
  | .error fault => inferInstanceAs (Decidable (fault ≠ .crashed))

/-- The documents that are looked at have plain keys and no tables. -/
structure PlainShelf (place : Place) (shelf : Shelf) (vars : Variables) : Prop where
  common : IsPlainRead (readDocument place shelf commonName)
  own : ∀ deployment, deploymentOf vars = .ok deployment →
    IsPlainRead (readDocument place shelf (ownName deployment))

theorem PlainShelf.isPlain_common {place : Place} {shelf : Shelf} {vars : Variables}
    (h : PlainShelf place shelf vars) {document : Table}
    (hread : readDocument place shelf commonName = .ok document) : IsPlain document := by
  have hplain := h.common
  rw [hread] at hplain
  exact hplain

theorem PlainShelf.isPlain_own {place : Place} {shelf : Shelf} {vars : Variables}
    (h : PlainShelf place shelf vars) {deployment : Deployment}
    (hdeployment : deploymentOf vars = .ok deployment) {document : Table}
    (hread : readDocument place shelf (ownName deployment) = .ok document) : IsPlain document := by
  have hplain := h.own deployment hdeployment
  rw [hread] at hplain
  exact hplain

/-- There is a document of a name, and it does not parse. -/
def Unparsed (shelf : Shelf) (name : String) : Prop :=
  ∃ file format bytes, find? shelf name = some (file, format, bytes) ∧
    format.read? (documentText bytes) = none

/-- Two documents that agree on every key of a setting, or fail alike. -/
def SameKnown : Except Fault Table → Except Fault Table → Prop
  | .ok document, .ok other =>
    ∀ setting : Setting, mentioned? document setting.key = mentioned? other setting.key
  | .error fault, .error other => fault = other
  | _, _ => False

theorem unparsed_iff {place : Place} {shelf : Shelf} {name : String} :
    Unparsed shelf name ↔ ∃ fault, readDocument place shelf name = .error fault ∧
    fault ≠ .crashed := by
  unfold readDocument Unparsed
  rcases find? shelf name with - | ⟨file, format, bytes⟩
  · simp
  · simp only
    cases hread : format.read? (documentText bytes) with
    | none => simp [hread]
    | some entries =>
      dsimp only
      split <;> simp [hread]

theorem readDocument_eq_error {place : Place} {shelf : Shelf} {name : String}
    (hplain : IsPlainRead (readDocument place shelf name)) :
    (∃ fault, readDocument place shelf name = .error fault) ↔ Unparsed shelf name := by
  rw [unparsed_iff]
  refine exists_congr fun fault => (and_iff_left_of_imp ?_).symm
  rintro hfault
  rw [hfault] at hplain
  exact hplain

theorem deploymentOf_eq_error {vars : Variables} : (∃ fault, deploymentOf vars = .error fault) ↔
    ∃ name, vars.get? "APP_ENV" = some name ∧ ∀ deployment,
      Deployment.parse name ≠ .ok deployment := by
  unfold deploymentOf
  cases vars.get? "APP_ENV" with
  | none => simp
  | some name =>
    have hmapped :
        (∃ fault, (Deployment.parse name).mapError Fault.unknownDeployment = .error fault) ↔
        ∀ deployment, Deployment.parse name ≠ .ok deployment := by
      cases Deployment.parse name with
      | error message => exact ⟨fun _ => nofun, fun _ => ⟨_, rfl⟩⟩
      | ok deployment => exact ⟨nofun, fun h => absurd rfl (h deployment)⟩
    simpa using hmapped

/-- A variable that counts. -/
def counts (entry : String × String) : Bool := variableNames.contains entry.1

theorem get?_filter_counts (vars : Variables) {name : String} (hname : name ∈ variableNames) :
    Variables.get? (vars.filter counts) name = vars.get? name := by
  unfold Variables.get?
  rw [List.find?_filter]
  congr 2
  funext entry
  by_cases h : entry.1 = name
  · simp [counts, h, hname]
  · simp [h]

/-- Loaded settings were read from the merged layers, whatever the documents are. -/
theorem ofShelf_ok {place : Place} {shelf : Shelf} {vars : Variables} {settings : Settings}
    (hload : ofShelf place shelf vars = .ok settings) :
    ∃ deployment common own, ∀ setting : Setting,
      setting.read (childOf (mergedLayers deployment common own vars) setting.key) =
      .ok (setting.of settings) := by
  unfold ofShelf ofShelfIn at hload
  obtain ⟨deployment, -, hload⟩ := ok_of_bind.mp hload
  obtain ⟨common, -, hload⟩ := ok_of_bind.mp hload
  obtain ⟨own, -, hload⟩ := ok_of_bind.mp hload
  exact ⟨deployment, common, own, (ofTable_eq_ok.mp hload).2⟩

/-- Loaded settings have the deployment that the variables choose, whatever the documents are. -/
theorem deploymentOf_of_ofShelf {order : List String} {place : Place} {shelf : Shelf}
    {vars : Variables} {settings : Settings}
    (hload : ofShelfIn order place shelf vars = .ok settings) :
    deploymentOf vars = .ok settings.deployment := by
  unfold ofShelfIn at hload
  obtain ⟨deployment, hdeployment, hload⟩ := ok_of_bind.mp hload
  obtain ⟨common, -, hload⟩ := ok_of_bind.mp hload
  obtain ⟨own, -, hload⟩ := ok_of_bind.mp hload
  have hfield := (ofTable_eq_ok.mp hload).1
  rw [deploymentField_mergedLayers] at hfield
  rw [hdeployment, hfield]

theorem ofShelf_eq_ok {place : Place} {shelf : Shelf} {vars : Variables}
    (hplain : PlainShelf place shelf vars) {settings : Settings} :
    ofShelf place shelf vars = .ok settings ↔
      deploymentOf vars = .ok settings.deployment ∧
        ∃ common own, readDocument place shelf commonName = .ok common ∧
          readDocument place shelf (ownName settings.deployment) = .ok own ∧
          ∀ setting : Setting, setting.read (winning common own vars setting) =
            .ok (setting.of settings) := by
  unfold ofShelf ofShelfIn
  simp only [ok_of_bind]
  constructor
  · rintro ⟨deployment, hdeployment, common, hcommon, own, hown, hok⟩
    rw [ofLayers_eq_ok (hplain.isPlain_common hcommon) (hplain.isPlain_own hdeployment hown)] at hok
    obtain ⟨rfl, hread⟩ := hok
    exact ⟨hdeployment, common, own, hcommon, hown, hread⟩
  · rintro ⟨hdeployment, common, own, hcommon, hown, hread⟩
    refine ⟨settings.deployment, hdeployment, common, hcommon, own, hown, ?_⟩
    rw [ofLayers_eq_ok (hplain.isPlain_common hcommon) (hplain.isPlain_own hdeployment hown)]
    exact ⟨rfl, hread⟩

theorem ofShelf_eq_error {place : Place} {shelf : Shelf} {vars : Variables}
    (hplain : PlainShelf place shelf vars) :
    (∃ fault, ofShelf place shelf vars = .error fault) ↔
      (∃ name, vars.get? "APP_ENV" = some name ∧ ∀ deployment,
        Deployment.parse name ≠ .ok deployment) ∨
        ∃ deployment, deploymentOf vars = .ok deployment ∧
          (Unparsed shelf commonName ∨ Unparsed shelf (ownName deployment) ∨
            ∃ common own, readDocument place shelf commonName = .ok common ∧
              readDocument place shelf (ownName deployment) = .ok own ∧
              ∃ (setting : Setting) (fault : Fault),
                setting.read (winning common own vars setting) = .error fault) := by
  unfold ofShelf ofShelfIn
  rw [error_of_bind, deploymentOf_eq_error]
  refine or_congr Iff.rfl (exists_congr fun deployment => and_congr_right fun hdeployment => ?_)
  have hown := hplain.own deployment hdeployment
  rw [error_of_bind, readDocument_eq_error hplain.common]
  constructor
  · rintro (hcommon | ⟨common, hcommon, hrest⟩)
    · exact Or.inl hcommon
    · rw [error_of_bind, readDocument_eq_error hown] at hrest
      rcases hrest with hunparsed | ⟨own, hown, hlayers⟩
      · exact Or.inr (Or.inl hunparsed)
      · rw [ofLayers_eq_error (hplain.isPlain_common hcommon) (hplain.isPlain_own hdeployment hown)]
          at hlayers
        exact Or.inr (Or.inr ⟨common, own, hcommon, hown, hlayers⟩)
  · rintro (hcommon | hunparsed | ⟨common, own, hcommon, hown, hread⟩)
    · exact Or.inl hcommon
    · rcases hcommon : readDocument place shelf commonName with fault | common
      · exact Or.inl ((readDocument_eq_error hplain.common).mp ⟨fault, hcommon⟩)
      · refine Or.inr ⟨common, rfl, ?_⟩
        rw [error_of_bind, readDocument_eq_error hown]
        exact Or.inl hunparsed
    · refine Or.inr ⟨common, hcommon, ?_⟩
      rw [error_of_bind]
      refine Or.inr ⟨own, hown, ?_⟩
      rw [ofLayers_eq_error (hplain.isPlain_common hcommon) (hplain.isPlain_own hdeployment hown)]
      exact hread

/-- Variables that do not count have no say. -/
theorem ofShelf_variables (place : Place) (shelf : Shelf) {vars vars' : Variables}
    (h : vars'.filter counts = vars.filter counts) :
    ofShelf place shelf vars' = ofShelf place shelf vars := by
  have hdeployment : deploymentOf vars' = deploymentOf vars := by
    have hname : "APP_ENV" ∈ variableNames := by decide
    unfold deploymentOf
    rw [← get?_filter_counts vars' hname, h, get?_filter_counts vars hname]
  have hlayer : variableLayer vars' = variableLayer vars := congrArg (List.map _) h
  unfold ofShelf ofShelfIn ofLayersIn mergedLayers
  rw [hdeployment, hlayer]

theorem SameKnown.bind {x y : Except Fault Table} (h : SameKnown x y) {α : Type}
    {f g : Table → Except Fault α}
    (hfg : ∀ document other, x = .ok document → y = .ok other →
      (∀ setting : Setting, mentioned? document setting.key = mentioned? other setting.key) →
      f document = g other) :
    (x >>= f) = (y >>= g) := by
  rcases x with fault | document
  · rcases y with other | other
    · rw [show fault = other from h]
      rfl
    · exact h.elim
  · rcases y with other | other
    · exact h.elim
    · exact hfg document other rfl rfl h

/-- Keys of no setting have no say. -/
theorem ofShelf_documents {place : Place} {shelf shelf' : Shelf} {vars : Variables}
    (hplain : PlainShelf place shelf vars) (hplain' : PlainShelf place shelf' vars)
    (hcommon : SameKnown (readDocument place shelf' commonName)
      (readDocument place shelf commonName))
    (hown : ∀ deployment, deploymentOf vars = .ok deployment →
      SameKnown (readDocument place shelf' (ownName deployment))
        (readDocument place shelf (ownName deployment))) :
    ofShelf place shelf' vars = ofShelf place shelf vars := by
  unfold ofShelf ofShelfIn
  rcases hdeployment : deploymentOf vars with fault | deployment
  · rfl
  · refine hcommon.bind fun common' common hcommon' hcommon hsame => ?_
    refine (hown deployment hdeployment).bind fun own' own hown' hown hsame' => ?_
    exact ofLayers_congr (hplain.isPlain_common hcommon) (hplain.isPlain_own hdeployment hown)
      deployment vars
      (hplain'.isPlain_common hcommon') (hplain'.isPlain_own hdeployment hown') hsame hsame'

/-- Each setting is what the highest layer says that mentions it, and nothing else counts: the load
fails when the deployment is unknown, when a document that is looked at does not parse, or when
the value that wins does not fit its setting; other variables and other keys change nothing. -/
theorem the_highest_layer_decides (place : Place) (shelf : Shelf) (vars : Variables)
    (hplain : PlainShelf place shelf vars) :
    (∀ settings, ofShelf place shelf vars = .ok settings ↔
      deploymentOf vars = .ok settings.deployment ∧
        ∃ common own, readDocument place shelf commonName = .ok common ∧
          readDocument place shelf (ownName settings.deployment) = .ok own ∧
          ∀ setting : Setting, setting.read (winning common own vars setting) =
            .ok (setting.of settings)) ∧
      ((∃ fault, ofShelf place shelf vars = .error fault) ↔
        (∃ name, vars.get? "APP_ENV" = some name ∧ ∀ deployment,
          Deployment.parse name ≠ .ok deployment) ∨
          ∃ deployment, deploymentOf vars = .ok deployment ∧
            (Unparsed shelf commonName ∨ Unparsed shelf (ownName deployment) ∨
              ∃ common own, readDocument place shelf commonName = .ok common ∧
                readDocument place shelf (ownName deployment) = .ok own ∧
                ∃ (setting : Setting) (fault : Fault),
                  setting.read (winning common own vars setting) = .error fault)) ∧
      (∀ vars' : Variables, vars'.filter counts = vars.filter counts →
        ofShelf place shelf vars' = ofShelf place shelf vars) ∧
      ∀ shelf' : Shelf, PlainShelf place shelf' vars →
        SameKnown (readDocument place shelf' commonName) (readDocument place shelf commonName) →
        (∀ deployment, deploymentOf vars = .ok deployment →
          SameKnown (readDocument place shelf' (ownName deployment))
            (readDocument place shelf (ownName deployment))) →
        ofShelf place shelf' vars = ofShelf place shelf vars :=
  ⟨fun _ => ofShelf_eq_ok hplain, ofShelf_eq_error hplain, fun _ => ofShelf_variables place shelf,
    fun _ hplain' => ofShelf_documents hplain hplain'⟩

/-- A shelf with one document, whose port is no number. -/
def badPort : Shelf := fun name =>
  if name = "appsettings.json" then some (Text.utf8 "\x7b\"server_port\": \"x\"\x7d") else none

/-- A variable in small letters changes nothing. -/
theorem a_variable_in_small_letters_has_no_say :
    ofShelf ⟨id, id⟩ badPort [("server_port", "80"), ("SERVER_PORT", "9000")] =
      ofShelf ⟨id, id⟩ badPort [("SERVER_PORT", "9000")] := by
  have hplain : PlainShelf ⟨id, id⟩ badPort [("SERVER_PORT", "9000")] := by
    constructor
    · decide +kernel
    · intro deployment _
      cases deployment <;> decide +kernel
  exact (the_highest_layer_decides ⟨id, id⟩ badPort [("SERVER_PORT", "9000")] hplain).2.2.1
    [("server_port", "80"), ("SERVER_PORT", "9000")] (by decide)

end Chassis.Settings
