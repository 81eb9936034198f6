-- The settings one by one. All of them can be read from a table when each of them can, and each is
-- then what was read. The order of reading has no say but in the fault that is told of several.
import Chassis.Proofs.Bind
import Chassis.Settings.Load

namespace Chassis.Settings

open Document

namespace Setting

/-- The setting among all settings. -/
def of (settings : Settings) : (setting : Setting) → setting.form.Carrier
  | appName => settings.appName
  | appVersion => settings.appVersion
  | debug => settings.debug
  | serverHost => settings.serverHost
  | serverPort => settings.serverPort
  | databaseUrl => settings.databaseUrl
  | databaseMaxConnections => settings.databaseMaxConnections
  | databaseAcquireTimeoutSecs => settings.databaseAcquireTimeoutSecs
  | secretKey => settings.secretKey
  | algorithm => settings.algorithm
  | accessTokenExpireMinutes => settings.accessTokenExpireMinutes
  | corsOrigins => settings.corsOrigins
  | qdrantUrl => settings.qdrantUrl
  | openaiApiKey => settings.openaiApiKey
  | claudeApiKey => settings.claudeApiKey
  | ollamaUrl => settings.ollamaUrl
  | logDir => settings.logDir
  | logFormat => settings.logFormat
  | logRetentionDays => settings.logRetentionDays

/-- All settings from the deployment and the others one by one. -/
def all (deployment : Deployment) (values : (setting : Setting) → setting.form.Carrier) :
    Settings where
  appName := values appName
  appVersion := values appVersion
  debug := values debug
  deployment := deployment
  serverHost := values serverHost
  serverPort := values serverPort
  databaseUrl := values databaseUrl
  databaseMaxConnections := values databaseMaxConnections
  databaseAcquireTimeoutSecs := values databaseAcquireTimeoutSecs
  secretKey := values secretKey
  algorithm := values algorithm
  accessTokenExpireMinutes := values accessTokenExpireMinutes
  corsOrigins := values corsOrigins
  qdrantUrl := values qdrantUrl
  openaiApiKey := values openaiApiKey
  claudeApiKey := values claudeApiKey
  ollamaUrl := values ollamaUrl
  logDir := values logDir
  logFormat := values logFormat
  logRetentionDays := values logRetentionDays

@[simp]
theorem of_all (deployment : Deployment) (values : (setting : Setting) → setting.form.Carrier)
    (setting : Setting) :
    of (all deployment values) setting = values setting := by
  cases setting <;> rfl

theorem all_of (settings : Settings) :
    all settings.deployment (fun setting => of settings setting) = settings := rfl

/-- Settings are what they are one by one. -/
theorem eq_of_of {settings others : Settings}
    (hdeployment : settings.deployment = others.deployment)
    (h : ∀ setting : Setting, setting.of settings = setting.of others) : settings = others := by
  rw [← all_of settings, ← all_of others, hdeployment, funext h]

end Setting

/-! ## Reading all of them -/

theorem Setting.mem_every (setting : Setting) : setting ∈ every := by cases setting <;> decide

theorem Setting.ofKey?_key (setting : Setting) : ofKey? setting.key = some setting := by
  cases setting <;> decide

theorem Setting.key_of_ofKey? {key : String} {setting : Setting} (h : ofKey? key = some setting) :
    setting.key = key := by
  unfold ofKey? at h
  simpa using List.find?_some h

/-- The settings are read after the keys of the order have been checked. -/
theorem ofTable_eq_bind (merged : Table) (order : List String) :
    ofTableIn order merged = (order.forM (checkKey merged) >>= fun _ => ofTable merged) := rfl

section

variable {merged : Table} {settings : Settings} {fault : Fault}

theorem ofTable_eq_ok_listed : ofTable merged = .ok settings ↔
    deploymentField merged "app_env" = .ok settings.deployment ∧
      ∀ setting : Setting, setting.read (childOf merged setting.key) =
        .ok (setting.of settings) := by
  unfold ofTable ofTableIn
  simp only [ok_of_bind, pure, Except.pure, Except.ok.injEq]
  constructor
  · rintro ⟨_, -, _, hname, _, hversion, _, hdebug, _, hdeployment, _, hhost, _, hport, _, hurl, _,
      hconnections, _, htimeout, _, hsecret, _, halgorithm, _, hminutes, _, horigins, _, hqdrant, _,
      hopenai, _, hclaude, _, hollama, _, hdir, _, hformat, _, hdays, rfl⟩
    refine ⟨hdeployment, fun setting => ?_⟩
    cases setting <;> assumption
  · rintro ⟨hdeployment, hread⟩
    exact ⟨(), rfl, _, hread .appName, _, hread .appVersion, _, hread .debug, _, hdeployment, _,
      hread .serverHost, _, hread .serverPort, _, hread .databaseUrl, _,
      hread .databaseMaxConnections,
      _, hread .databaseAcquireTimeoutSecs, _, hread .secretKey, _, hread .algorithm, _,
      hread .accessTokenExpireMinutes, _, hread .corsOrigins, _, hread .qdrantUrl, _,
      hread .openaiApiKey, _, hread .claudeApiKey, _, hread .ollamaUrl, _, hread .logDir, _,
      hread .logFormat, _, hread .logRetentionDays, rfl⟩

/-- The fault of a key is that of the deployment, or of the setting that is called so. -/
theorem fault_of_checkKey {key : String} (h : checkKey merged key = .error fault) :
    deploymentField merged "app_env" = .error fault ∨
      ∃ setting : Setting, setting.read (childOf merged setting.key) = .error fault := by
  unfold checkKey at h
  split at h
  · rename_i hkey
    exact Or.inl (hkey ▸ error_of_map.mp h)
  · split at h
    · rename_i setting hsetting
      rw [← Setting.key_of_ofKey? hsetting] at h
      exact Or.inr ⟨setting, error_of_map.mp h⟩
    · cases h

/-- In whatever order, settings are read when each of them is read, and each is what was read. -/
theorem ofTable_eq_ok {order : List String} : ofTableIn order merged = .ok settings ↔
    deploymentField merged "app_env" = .ok settings.deployment ∧
      ∀ setting : Setting, setting.read (childOf merged setting.key) =
        .ok (setting.of settings) := by
  rw [ofTable_eq_bind, ok_of_bind, ← ofTable_eq_ok_listed]
  constructor
  · rintro ⟨_, -, hlisted⟩
    exact hlisted
  · intro hlisted
    refine ⟨(), ?_, hlisted⟩
    rcases hchecks : order.forM (checkKey merged) with fault | ⟨⟩
    · -- A key that cannot be read is one of those that the settings are read from.
      obtain ⟨key, -, hkey⟩ := fault_of_forM hchecks
      obtain ⟨hdeployment, hread⟩ := ofTable_eq_ok_listed.mp hlisted
      rcases fault_of_checkKey hkey with hfault | ⟨setting, hfault⟩
      · rw [hdeployment] at hfault
        cases hfault
      · rw [hread] at hfault
        cases hfault
    · rfl

/-- Every default passes its own check: with no document and no variable there are settings. -/
theorem isOk_defaults (place : Place) : (ofShelf place (fun _ => none) []).isOk = true := rfl

theorem fault_of_ofTable_listed (h : ofTable merged = .error fault) :
    deploymentField merged "app_env" = .error fault ∨
      ∃ setting : Setting, setting.read (childOf merged setting.key) = .error fault := by
  unfold ofTable ofTableIn at h
  rcases fault_of_bind h with h | ⟨_, -, h⟩
  · cases h
  rcases fault_of_bind h with h | ⟨_, -, h⟩
  · exact Or.inr ⟨.appName, h⟩
  rcases fault_of_bind h with h | ⟨_, -, h⟩
  · exact Or.inr ⟨.appVersion, h⟩
  rcases fault_of_bind h with h | ⟨_, -, h⟩
  · exact Or.inr ⟨.debug, h⟩
  rcases fault_of_bind h with h | ⟨_, -, h⟩
  · exact Or.inl h
  rcases fault_of_bind h with h | ⟨_, -, h⟩
  · exact Or.inr ⟨.serverHost, h⟩
  rcases fault_of_bind h with h | ⟨_, -, h⟩
  · exact Or.inr ⟨.serverPort, h⟩
  rcases fault_of_bind h with h | ⟨_, -, h⟩
  · exact Or.inr ⟨.databaseUrl, h⟩
  rcases fault_of_bind h with h | ⟨_, -, h⟩
  · exact Or.inr ⟨.databaseMaxConnections, h⟩
  rcases fault_of_bind h with h | ⟨_, -, h⟩
  · exact Or.inr ⟨.databaseAcquireTimeoutSecs, h⟩
  rcases fault_of_bind h with h | ⟨_, -, h⟩
  · exact Or.inr ⟨.secretKey, h⟩
  rcases fault_of_bind h with h | ⟨_, -, h⟩
  · exact Or.inr ⟨.algorithm, h⟩
  rcases fault_of_bind h with h | ⟨_, -, h⟩
  · exact Or.inr ⟨.accessTokenExpireMinutes, h⟩
  rcases fault_of_bind h with h | ⟨_, -, h⟩
  · exact Or.inr ⟨.corsOrigins, h⟩
  rcases fault_of_bind h with h | ⟨_, -, h⟩
  · exact Or.inr ⟨.qdrantUrl, h⟩
  rcases fault_of_bind h with h | ⟨_, -, h⟩
  · exact Or.inr ⟨.openaiApiKey, h⟩
  rcases fault_of_bind h with h | ⟨_, -, h⟩
  · exact Or.inr ⟨.claudeApiKey, h⟩
  rcases fault_of_bind h with h | ⟨_, -, h⟩
  · exact Or.inr ⟨.ollamaUrl, h⟩
  rcases fault_of_bind h with h | ⟨_, -, h⟩
  · exact Or.inr ⟨.logDir, h⟩
  rcases fault_of_bind h with h | ⟨_, -, h⟩
  · exact Or.inr ⟨.logFormat, h⟩
  rcases fault_of_bind h with h | ⟨_, -, h⟩
  · exact Or.inr ⟨.logRetentionDays, h⟩
  cases h

/-- A fault comes from the deployment, or from a setting that cannot be read. -/
theorem fault_of_ofTable {order : List String} (h : ofTableIn order merged = .error fault) :
    deploymentField merged "app_env" = .error fault ∨
      ∃ setting : Setting, setting.read (childOf merged setting.key) = .error fault := by
  rw [ofTable_eq_bind] at h
  rcases fault_of_bind h with hchecks | ⟨_, -, hlisted⟩
  · obtain ⟨key, -, hkey⟩ := fault_of_forM hchecks
    exact fault_of_checkKey hkey
  · exact fault_of_ofTable_listed hlisted

/-- Settings cannot be read when one of them cannot. -/
theorem ofTable_eq_error {order : List String} : (∃ fault, ofTableIn order merged = .error fault) ↔
    (∃ fault, deploymentField merged "app_env" = .error fault) ∨
      ∃ (setting : Setting) (fault : Fault), setting.read (childOf merged setting.key) =
        .error fault := by
  constructor
  · rintro ⟨fault, hfault⟩
    rcases fault_of_ofTable hfault with hdeployment | ⟨setting, hsetting⟩
    · exact Or.inl ⟨fault, hdeployment⟩
    · exact Or.inr ⟨setting, fault, hsetting⟩
  · intro hfault
    rcases hok : ofTableIn order merged with fault | settings
    · exact ⟨fault, rfl⟩
    · obtain ⟨hdeployment, hread⟩ := ofTable_eq_ok.mp hok
      rcases hfault with ⟨fault, hfault⟩ | ⟨setting, fault, hfault⟩
      · rw [hdeployment] at hfault
        cases hfault
      · rw [hread] at hfault
        cases hfault

/-- The fault of any setting is the one that is told, if that setting is read first. -/
theorem ofTable_first {setting : Setting}
    (h : setting.read (childOf merged setting.key) = .error fault) (order : List String) :
    ofTableIn (setting.key :: order) merged = .error fault := by
  have hkey : setting.key ≠ "app_env" := by cases setting <;> decide
  have hcheck : checkKey merged setting.key = .error fault := by
    unfold checkKey
    rw [if_neg hkey, setting.ofKey?_key]
    exact error_of_map.mpr h
  change (checkKey merged setting.key >>= fun _ => order.forM (checkKey merged)) >>=
    _ = .error fault
  rw [hcheck]
  rfl

/-- Of one fault at most, the order has no say. -/
theorem ofTable_eq_of_single {order order' : List String}
    (hdeployment : ∃ deployment, deploymentField merged "app_env" = .ok deployment)
    (hsingle : ∀ (setting other : Setting) fault fault',
      setting.read (childOf merged setting.key) = .error fault →
      other.read (childOf merged other.key) = .error fault' → setting = other) :
    ofTableIn order merged = ofTableIn order' merged := by
  obtain ⟨deployment, hdeployment⟩ := hdeployment
  have hculprit {order : List String} {fault : Fault}
      (hload : ofTableIn order merged = .error fault) :
      ∃ setting : Setting, setting.read (childOf merged setting.key) = .error fault := by
    rcases fault_of_ofTable hload with hfault | hsetting
    · rw [hdeployment] at hfault
      cases hfault
    · exact hsetting
  rcases hload : ofTableIn order merged with fault | settings
  · obtain ⟨setting, hsetting⟩ := hculprit hload
    obtain ⟨fault', hload'⟩ := ofTable_eq_error.mpr (Or.inr ⟨setting, fault, hsetting⟩)
    obtain ⟨other, hother⟩ := hculprit hload'
    obtain rfl := hsingle setting other fault fault' hsetting hother
    rw [hload', Except.error.inj (hsetting.symm.trans hother)]
  · exact (ofTable_eq_ok.mpr (ofTable_eq_ok.mp hload)).symm

end

/-! ## Faults -/

/-- The key that a fault names. -/
def Fault.key? : Fault → Option String
  | unknownDeployment _ => none
  | unparsed _ => none
  | mistyped key _ => some key
  | misread key _ => some key
  | crashed => none

/-- A fault that names a key is one of the configuration, and says so. -/
theorem Fault.message_of_key? {fault : Fault} {key : String} (h : fault.key? = some key) :
    ∃ detail, fault.detail? = some detail ∧ fault.message = "invalid configuration: " ++
      detail := by
  cases fault with
  | unknownDeployment name => cases h
  | unparsed file => cases h
  | mistyped key mismatch => exact ⟨_, rfl, rfl⟩
  | misread key misreading => exact ⟨_, rfl, rfl⟩
  | crashed => cases h

/-- A value that cannot be read makes a fault with the key that it stands under. -/
theorem Form.key?_of_read {form : Form} {key : String} {value : Value} {fault : Fault}
    (h : form.read key value = .error fault) : fault.key? = some key := by
  cases form <;>
  · obtain ⟨_, -, rfl⟩ := error_of_mapError.mp h
    rfl

/-! ## Reading from two tables -/

/-- Two results that are alike: the same fault, or values in a relation. -/
def Both {ε α β : Type} (R : α → β → Prop) : Except ε α → Except ε β → Prop
  | .ok a, .ok b => R a b
  | .error fault, .error other => fault = other
  | _, _ => False

theorem both_eq {ε α : Type} {x y : Except ε α} : Both Eq x y ↔ x = y := by
  rcases x with fault | a <;> rcases y with other | b <;> simp [Both]

/-- Two results that go together: faults in one relation, or values in another. -/
def Paired {ε α β : Type} (Q : ε → ε → Prop) (R : α → β → Prop) : Except ε α → Except ε β → Prop
  | .ok a, .ok b => R a b
  | .error fault, .error other => Q fault other
  | _, _ => False

/-- Results that are alike have the same fault. -/
theorem both_iff_paired {ε α β : Type} {R : α → β → Prop} {x : Except ε α} {y : Except ε β} :
    Both R x y ↔ Paired Eq R x y := by
  rcases x with fault | a <;> rcases y with other | b <;> rfl

theorem paired_of_eq {ε α : Type} {Q : ε → ε → Prop} (hQ : ∀ fault, Q fault fault)
    {x y : Except ε α} (h : x = y) :
    Paired Q Eq x y := by
  subst h
  rcases x with fault | a
  · exact hQ fault
  · exact rfl

theorem Paired.mono {ε α β : Type} {Q : ε → ε → Prop} {R S : α → β → Prop} {x : Except ε α}
    {y : Except ε β} (h : Paired Q R x y) (hRS : ∀ a b, R a b → S a b) : Paired Q S x y := by
  rcases x with fault | a
  · rcases y with other | b
    · exact h
    · exact h.elim
  · rcases y with other | b
    · exact h.elim
    · exact hRS a b h

theorem Paired.eq_ok_iff {ε α : Type} {Q : ε → ε → Prop} {x y : Except ε α}
    (h : Paired Q Eq x y) {a : α} :
    x = .ok a ↔ y = .ok a := by
  rcases x with fault | b
  · rcases y with other | c
    · exact ⟨nofun, nofun⟩
    · exact h.elim
  · rcases y with other | c
    · exact h.elim
    · rw [show b = c from h]

theorem Paired.bind {ε α β α' β' : Type} {Q : ε → ε → Prop} {R : α → β → Prop} {S : α' → β' → Prop}
    {x : Except ε α} {y : Except ε β} {f : α → Except ε α'} {g : β → Except ε β'}
    (h : Paired Q R x y) (hfg : ∀ a b, R a b → Paired Q S (f a) (g b)) :
    Paired Q S (x >>= f) (y >>= g) := by
  rcases x with fault | a
  · rcases y with other | b
    · exact h
    · exact h.elim
  · rcases y with other | b
    · exact h.elim
    · exact hfg a b h

theorem Both.mono {ε α β : Type} {R S : α → β → Prop} {x : Except ε α} {y : Except ε β}
    (h : Both R x y) (hRS : ∀ a b, R a b → S a b) : Both S x y :=
  both_iff_paired.mpr ((both_iff_paired.mp h).mono hRS)

theorem Both.bind {ε α β α' β' : Type} {R : α → β → Prop} {S : α' → β' → Prop} {x : Except ε α}
    {y : Except ε β} {f : α → Except ε α'} {g : β → Except ε β'} (h : Both R x y)
    (hfg : ∀ a b, R a b → Both S (f a) (g b)) :
    Both S (x >>= f) (y >>= g) :=
  both_iff_paired.mpr ((both_iff_paired.mp h).bind fun a b hab => both_iff_paired.mp (hfg a b hab))

section

variable {merged other : Table}

theorem Paired.map {ε α β α' β' : Type} {Q : ε → ε → Prop} {R : α → β → Prop} {S : α' → β' → Prop}
    {x : Except ε α} {y : Except ε β} {f : α → α'} {g : β → β'} (h : Paired Q R x y)
    (hfg : ∀ a b, R a b → S (f a) (g b)) : Paired Q S (x.map f) (y.map g) :=
  h.bind (f := fun a => .ok (f a)) (g := fun b => .ok (g b)) hfg

/-- If each setting goes together in two tables, so do all of them, read in one order. -/
theorem ofTable_paired {Q : Fault → Fault → Prop}
    {R : (setting : Setting) → setting.form.Carrier → setting.form.Carrier → Prop}
    (hQ : ∀ fault, Q fault fault)
    (hdeployment : childOf merged "app_env" = childOf other "app_env")
    (h : ∀ setting : Setting,
      Paired Q (R setting) (setting.read (childOf merged setting.key))
        (setting.read (childOf other setting.key)))
    (order : List String) :
    Paired Q (fun settings others => settings.deployment = others.deployment ∧
      ∀ setting : Setting, R setting (setting.of settings) (setting.of others))
        (ofTableIn order merged)
      (ofTableIn order other) := by
  have hself :
      Paired Q Eq (deploymentField merged "app_env") (deploymentField other "app_env") := by
    refine paired_of_eq hQ ?_
    unfold deploymentField
    rw [hdeployment]
  have hcheck (key : String) : Paired Q Eq (checkKey merged key) (checkKey other key) := by
    unfold checkKey
    split
    · rename_i hkey
      subst hkey
      exact hself.map fun _ _ _ => rfl
    · split
      · rename_i setting hsetting
        rw [← Setting.key_of_ofKey? hsetting]
        exact (h setting).map fun _ _ _ => rfl
      · exact rfl
  have hchecks : Paired Q Eq (order.forM (checkKey merged)) (order.forM (checkKey other)) := by
    induction order with
    | nil => exact rfl
    | cons key rest ih => exact (hcheck key).bind fun _ _ _ => ih
  unfold ofTableIn
  refine hchecks.bind fun _ _ _ => (h .appName).bind fun _ _ hname =>
      (h .appVersion).bind fun _ _ hversion =>
    (h .debug).bind fun _ _ hdebug => hself.bind fun _ _ hdeployment =>
        (h .serverHost).bind fun _ _ hhost =>
    (h .serverPort).bind fun _ _ hport => (h .databaseUrl).bind fun _ _ hurl =>
    (h .databaseMaxConnections).bind fun _ _ hconnections =>
    (h .databaseAcquireTimeoutSecs).bind fun _ _ htimeout => (h .secretKey).bind fun _ _ hsecret =>
    (h .algorithm).bind fun _ _ halgorithm => (h .accessTokenExpireMinutes).bind fun _ _ hminutes =>
    (h .corsOrigins).bind fun _ _ horigins => (h .qdrantUrl).bind fun _ _ hqdrant =>
    (h .openaiApiKey).bind fun _ _ hopenai => (h .claudeApiKey).bind fun _ _ hclaude =>
    (h .ollamaUrl).bind fun _ _ hollama => (h .logDir).bind fun _ _ hdir =>
        (h .logFormat).bind fun _ _ hformat =>
    (h .logRetentionDays).bind fun _ _ hdays => ⟨hdeployment, fun setting => ?_⟩
  cases setting <;> assumption

/-- If each setting is alike in two tables, so are all of them. -/
theorem ofTable_both {R : (setting : Setting) → setting.form.Carrier → setting.form.Carrier → Prop}
    (hdeployment : childOf merged "app_env" = childOf other "app_env")
    (h : ∀ setting : Setting,
      Both (R setting) (setting.read (childOf merged setting.key))
        (setting.read (childOf other setting.key)))
    (order : List String) :
    Both (fun settings others => settings.deployment = others.deployment ∧
      ∀ setting : Setting, R setting (setting.of settings) (setting.of others))
        (ofTableIn order merged)
      (ofTableIn order other) :=
  both_iff_paired.mpr
    (ofTable_paired (fun _ => rfl) hdeployment (fun setting => both_iff_paired.mp (h setting))
      order)

/-- Nothing else of a table matters than what is read under the keys of settings. -/
theorem ofTable_congr_read (hdeployment : childOf merged "app_env" = childOf other "app_env")
    (h : ∀ setting : Setting,
      setting.read (childOf merged setting.key) = setting.read (childOf other setting.key))
    {order : List String} : ofTableIn order merged = ofTableIn order other := by
  have hboth : Both (fun settings others => settings.deployment = others.deployment ∧
      ∀ setting : Setting, setting.of settings = setting.of others) (ofTableIn order merged)
          (ofTableIn order other) :=
    ofTable_both hdeployment (fun setting => both_eq.mpr (h setting)) order
  exact both_eq.mp (hboth.mono fun _ _ hsame => Setting.eq_of_of hsame.1 hsame.2)

theorem ofTable_congr (hdeployment : childOf merged "app_env" = childOf other "app_env")
    (h : ∀ setting : Setting, childOf merged setting.key = childOf other setting.key)
    {order : List String} : ofTableIn order merged = ofTableIn order other :=
  ofTable_congr_read hdeployment fun setting => congrArg setting.read (h setting)

end

end Chassis.Settings
