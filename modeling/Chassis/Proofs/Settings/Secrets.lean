-- What is secret does not come out: two sets of variables that differ in secrets alone are not told
-- apart by a fault, by the settings as they are shown, or by the set-up of logging.
import Chassis.Logging.Config
import Chassis.Proofs.Settings.Precedence
import Chassis.Settings.Shown

namespace Chassis.Settings

open Document

/-! ## Variables that differ in secrets -/

/-- The variables that are shown as empty or not, and no more. -/
def keyNames : List String := ["SECRET_KEY", "OPENAI_API_KEY", "CLAUDE_API_KEY"]

/-- The variable that is not shown at all. -/
def addressName : String := "DATABASE_URL"

/-- The same variables are set, and they differ in secrets alone: in the address of the database,
and in keys that are empty in both or in neither. -/
structure SameButSecrets (vars vars' : Variables) : Prop where
  distinct : (vars.map (·.1)).Nodup
  distinct' : (vars'.map (·.1)).Nodup
  address : (vars.get? addressName).isSome = (vars'.get? addressName).isSome
  keys : ∀ name ∈ keyNames, (vars.get? name).map String.isEmpty =
    (vars'.get? name).map String.isEmpty
  others : ∀ name, name ≠ addressName → name ∉ keyNames → vars.get? name = vars'.get? name

/-- Two values of a setting that are not told apart when they are shown. -/
def Setting.Alike : (setting : Setting) → setting.form.Carrier → setting.form.Carrier → Prop
  | .databaseUrl, _, _ => True
  | .secretKey, key, other => redacted key = redacted other
  | .openaiApiKey, key, other => redacted key = redacted other
  | .claudeApiKey, key, other => redacted key = redacted other
  | _, value, other => value = other

theorem Setting.alike_of_eq (setting : Setting) {value other : setting.form.Carrier}
    (h : value = other) :
    setting.Alike value other := by
  subst h
  cases setting <;> trivial

/-! ## Settings that are shown alike -/

/-- What is shown of settings is the same when each of them is alike. -/
theorem shapes_alike {settings others : Settings}
    (hdeployment : settings.deployment = others.deployment)
    (h : ∀ setting : Setting, setting.Alike (setting.of settings) (setting.of others)) :
    settings.shapes = others.shapes := by
  have hname : settings.appName = others.appName := h .appName
  have hversion : settings.appVersion = others.appVersion := h .appVersion
  have hdebug : settings.debug = others.debug := h .debug
  have hhost : settings.serverHost = others.serverHost := h .serverHost
  have hport : settings.serverPort = others.serverPort := h .serverPort
  have hconnections : settings.databaseMaxConnections = others.databaseMaxConnections :=
    h .databaseMaxConnections
  have htimeout : settings.databaseAcquireTimeoutSecs = others.databaseAcquireTimeoutSecs :=
    h .databaseAcquireTimeoutSecs
  have hsecret : redacted settings.secretKey = redacted others.secretKey := h .secretKey
  have halgorithm : settings.algorithm = others.algorithm := h .algorithm
  have hminutes : settings.accessTokenExpireMinutes = others.accessTokenExpireMinutes :=
    h .accessTokenExpireMinutes
  have horigins : settings.corsOrigins = others.corsOrigins := h .corsOrigins
  have hqdrant : settings.qdrantUrl = others.qdrantUrl := h .qdrantUrl
  have hopenai : redacted settings.openaiApiKey = redacted others.openaiApiKey := h .openaiApiKey
  have hclaude : redacted settings.claudeApiKey = redacted others.claudeApiKey := h .claudeApiKey
  have hollama : settings.ollamaUrl = others.ollamaUrl := h .ollamaUrl
  have hdir : settings.logDir = others.logDir := h .logDir
  have hformat : settings.logFormat = others.logFormat := h .logFormat
  have hdays : settings.logRetentionDays = others.logRetentionDays := h .logRetentionDays
  unfold shapes
  rw [hname, hversion, hdebug, hdeployment, hhost, hport, hconnections, htimeout, hsecret,
    halgorithm, hminutes, horigins, hqdrant, hopenai, hclaude, hollama, hdir, hformat, hdays]

/-- The set-up of logging has no secrets in it. -/
theorem logging_alike {settings others : Settings}
    (hdeployment : settings.deployment = others.deployment)
    (h : ∀ setting : Setting, setting.Alike (setting.of settings) (setting.of others)) :
    settings.logging = others.logging := by
  have hdebug : settings.debug = others.debug := h .debug
  have hdir : settings.logDir = others.logDir := h .logDir
  have hformat : settings.logFormat = others.logFormat := h .logFormat
  have hdays : settings.logRetentionDays = others.logRetentionDays := h .logRetentionDays
  unfold logging
  rw [hdeployment, hdebug, hdir, hformat, hdays]

/-! ## Loading -/

section

variable {deployment : Deployment} {common own : Table} {vars vars' : Variables}

theorem redacted_congr {key other : String} (h : key.isEmpty = other.isEmpty) :
    redacted key = redacted other := by
  have hempty : key = "" ↔ other = "" := by
    rw [← String.isEmpty_iff, h, String.isEmpty_iff]
  unfold redacted
  by_cases hkey : key = ""
  · rw [if_pos hkey, if_pos (hempty.mp hkey), hkey, hempty.mp hkey]
  · rw [if_neg hkey, if_neg fun hother => hkey (hempty.mpr hother)]

theorem SameButSecrets.isSome_eq (h : SameButSecrets vars vars') (name : String) :
    (vars.get? name).isSome = (vars'.get? name).isSome := by
  by_cases haddress : name = addressName
  · rw [haddress, h.address]
  · by_cases hkey : name ∈ keyNames
    · have hmap := congrArg Option.isSome (h.keys name hkey)
      rwa [Option.isSome_map, Option.isSome_map] at hmap
    · rw [h.others name haddress hkey]

/-- A setting that comes from a variable: any text is an address or a key. -/
theorem SameButSecrets.read_variable (h : SameButSecrets vars vars') {setting : Setting}
    {text other : String} (htext : vars.get? setting.variableName = some text)
    (hother : vars'.get? setting.variableName = some other) :
    Both setting.Alike (setting.read (ofVariable text)) (setting.read (ofVariable other)) := by
  have hkey (hmem : setting.variableName ∈ keyNames) : redacted text = redacted other := by
    have hempty := h.keys setting.variableName hmem
    rw [htext, hother] at hempty
    exact redacted_congr (Option.some.inj hempty)
  have hrest (haddress : setting.variableName ≠ addressName)
      (hmem : setting.variableName ∉ keyNames) :
      Both setting.Alike (setting.read (ofVariable text)) (setting.read (ofVariable other)) := by
    have hsame := h.others setting.variableName haddress hmem
    rw [htext, hother] at hsame
    cases hsame
    exact (both_eq.mpr rfl).mono fun _ _ => setting.alike_of_eq
  cases setting with
  | databaseUrl => exact trivial
  | secretKey => exact hkey (by decide)
  | openaiApiKey => exact hkey (by decide)
  | claudeApiKey => exact hkey (by decide)
  | _ => exact hrest (by decide) (by decide)

theorem SameButSecrets.read_alike (h : SameButSecrets vars vars') (setting : Setting) :
    Both setting.Alike
      (setting.read (childOf (mergedLayers deployment common own vars) setting.key))
      (setting.read (childOf (mergedLayers deployment common own vars') setting.key)) := by
  have hvar : mentioned? vars setting.variableName = vars.get? setting.variableName :=
    mentioned?_eq_find? h.distinct _
  have hvar' : mentioned? vars' setting.variableName = vars'.get? setting.variableName :=
    mentioned?_eq_find? h.distinct' _
  have hset := h.isSome_eq setting.variableName
  -- The variable is unset in both, and the layers below decide, or it is set in both and hides
  -- them.
  cases htext : vars.get? setting.variableName with
  | none =>
    rw [htext, Option.isSome_none, eq_comm, Option.isSome_eq_false_iff, Option.isNone_iff_eq_none]
      at hset
    rw [childOf_mergedLayers_congr (hvar.trans (htext.trans (hset.symm.trans hvar'.symm)))]
    exact (both_eq.mpr rfl).mono fun _ _ => setting.alike_of_eq
  | some text =>
    rw [htext, Option.isSome_some, eq_comm, Option.isSome_iff_exists] at hset
    obtain ⟨other, hother⟩ := hset
    rw [childOf_mergedLayers_variable deployment vars (hvar.trans htext),
      childOf_mergedLayers_variable deployment vars' (hvar'.trans hother)]
    exact h.read_variable htext hother

end

/-- Variables that differ in secrets alone make the same fault, or settings that are shown alike and
set up logging alike. -/
theorem secrets_do_not_come_out (place : Place) (shelf : Shelf) {vars vars' : Variables}
    (h : SameButSecrets vars vars') (order : List String) :
    Both (fun settings others => settings.shown = others.shown ∧
      settings.shownInBlock = others.shownInBlock ∧
      settings.logging = others.logging) (ofShelfIn order place shelf vars)
        (ofShelfIn order place shelf vars') := by
  have hdeployment : deploymentOf vars = deploymentOf vars' := by
    unfold deploymentOf
    rw [h.others "APP_ENV" (by decide) (by decide)]
  unfold ofShelfIn
  refine (both_eq.mpr hdeployment).bind fun deployment _ hsame => ?_
  subst hsame
  refine (both_eq.mpr rfl).bind fun common _ hsame => ?_
  subst hsame
  refine (both_eq.mpr rfl).bind fun own _ hsame => ?_
  subst hsame
  have henv : childOf (mergedLayers deployment common own vars) "app_env" =
      childOf (mergedLayers deployment common own vars') "app_env" := by
    rw [childOf_mergedLayers_deployment, childOf_mergedLayers_deployment]
  refine (ofTable_both henv h.read_alike order).mono fun settings others ⟨hsame, halike⟩ => ?_
  have hshapes := shapes_alike hsame halike
  refine ⟨?_, ?_, logging_alike hsame halike⟩
  · unfold shown
    rw [hshapes]
  · unfold shownInBlock
    rw [hshapes]

/-- Another password and another key leave what is shown as it is. -/
theorem a_password_does_not_come_out :
    let vars : Variables := [("DATABASE_URL", "postgres://u:one@db/x"), ("SECRET_KEY", "first")]
    let vars' : Variables := [("SECRET_KEY", "second"), ("DATABASE_URL", "postgres://u:two@db/x")]
    let shelf : Shelf := fun _ => none
    SameButSecrets vars vars' ∧ (ofShelf ⟨id, id⟩ shelf vars).isOk = true ∧
      Both (fun settings others => settings.shown = others.shown ∧
        settings.shownInBlock = others.shownInBlock ∧
        settings.logging = others.logging) (ofShelf ⟨id, id⟩ shelf vars)
            (ofShelf ⟨id, id⟩ shelf vars') := by
  intro vars vars' shelf
  have hsame : SameButSecrets vars vars' := by
    refine ⟨by decide, by decide, by decide, by decide, fun name haddress hkey => ?_⟩
    have hsecret : name ≠ "SECRET_KEY" := fun heq => hkey (heq ▸ by decide)
    have hurl : name ≠ "DATABASE_URL" := haddress
    simp [vars, vars', Variables.get?, hsecret.symm, hurl.symm]
  exact ⟨hsame, by decide +kernel, secrets_do_not_come_out ⟨id, id⟩ shelf hsame []⟩

end Chassis.Settings
