-- The names of the deployments. Each is known in any letter case and with any white space around
-- it, and no other text is a name, however it comes to small letters. A value, and a setting, are
-- read just as the name is.
import Chassis.Proofs.Settings.Precedence
import Chassis.Proofs.Text.Blank
import Chassis.Proofs.Text.Lowercase

namespace Chassis.Settings

open Document
open Text (AreAscii AreBlanks IsCaseOf)

/-! ## The names -/

/-- The names that a deployment goes by. -/
def Deployment.names : Deployment → List String
  | dev => ["local"]
  | test => ["test"]
  | prod => ["prod", "production"]

/-- A word in small letters of ASCII, to which no other letter comes. -/
def IsWord (word : String) : Prop :=
  AreAscii word.toList ∧ 'k' ∉ word.toList ∧ word.toList.map Char.toLower = word.toList ∧
    word.toList.all (!Text.isBlank ·) = true

instance : DecidablePred IsWord := fun _ => instDecidableAnd

theorem isWord_name : ∀ (deployment : Deployment), ∀ word ∈ deployment.names, IsWord word := by
  intro deployment
  cases deployment <;> decide +kernel

theorem ofLowercase?_eq_some {name : String} {deployment : Deployment} :
    Deployment.ofLowercase? name = some deployment ↔ name ∈ deployment.names := by
  unfold Deployment.ofLowercase?
  constructor
  · intro h
    split at h
    · cases h
      simp [Deployment.names, *]
    · split at h
      · cases h
        simp [Deployment.names, *]
      · split at h
        · rename_i hprod
          cases h
          simpa [Deployment.names] using hprod
        · cases h
  · intro h
    cases deployment <;> simp only [Deployment.names, List.mem_cons, List.not_mem_nil, or_false]
      at h
    · subst h
      rfl
    · subst h
      rfl
    · rcases h with rfl | rfl <;> rfl

theorem parse_eq_ok {name : String} {deployment : Deployment} :
    Deployment.parse name = .ok deployment ↔
    Deployment.ofLowercase? (Deployment.canonical name) = some deployment := by
  unfold Deployment.parse
  cases Deployment.ofLowercase? (Deployment.canonical name) with
  | none => simp
  | some other => simp

/-- A text that is no name is given back as it was compared. -/
theorem eq_canonical_of_parse {name canonical : String}
    (h : Deployment.parse name = .error canonical) :
    canonical = Text.lower (Text.trimmed name) := by
  unfold Deployment.parse at h
  split at h
  · cases h
  · exact (Except.error.inj h).symm

/-- A text is a name of a deployment just when it is one of its words, trimmed and the case
aside. -/
theorem parse_eq_ok_iff {name : String} {deployment : Deployment} :
    Deployment.parse name = .ok deployment ↔
    ∃ word ∈ deployment.names, IsCaseOf (Text.trimmed name) word := by
  rw [parse_eq_ok, ofLowercase?_eq_some, Deployment.canonical]
  constructor
  · intro hmem
    obtain ⟨hascii, hk, hsmall, -⟩ := isWord_name deployment _ hmem
    exact ⟨_, hmem, (Text.lower_eq_iff hascii hk hsmall).mp rfl⟩
  · rintro ⟨word, hword, hcase⟩
    obtain ⟨hascii, hk, hsmall, -⟩ := isWord_name deployment word hword
    rw [(Text.lower_eq_iff hascii hk hsmall).mpr hcase]
    exact hword

/-- What is a name is ASCII. -/
theorem areAscii_of_parse {name : String} {deployment : Deployment}
    (h : Deployment.parse name = .ok deployment) :
    AreAscii (Text.trimmed name).toList := by
  obtain ⟨word, hword, hcase⟩ := parse_eq_ok_iff.mp h
  obtain ⟨hascii, -, hsmall, -⟩ := isWord_name deployment word hword
  refine Text.areAscii_map_toLower.mp ?_
  rw [hcase, hsmall]
  exact hascii

/-! ## White space around a name -/

/-- A word has no blanks, in whatever case it is. -/
theorem not_isBlank_of_isCaseOf {s word : String} (hword : IsWord word) (h : IsCaseOf s word) :
    ∀ c ∈ s.toList, Text.isBlank c = false := by
  intro c hc
  obtain ⟨-, -, hsmall, hblank⟩ := hword
  have hlower : c.toLower ∈ word.toList := by
    rw [← hsmall, ← h]
    exact List.mem_map_of_mem hc
  rw [List.all_eq_true] at hblank
  rw [← Text.isBlank_toLower]
  simpa using hblank c.toLower hlower

/-- A word is known with white space around it. -/
theorem parse_padded {u s v word : String} {deployment : Deployment} (hu : AreBlanks u.toList)
    (hv : AreBlanks v.toList) (hword : word ∈ deployment.names) (hcase : IsCaseOf s word) :
    Deployment.parse (u ++ s ++ v) = .ok deployment := by
  have hnone := not_isBlank_of_isCaseOf (isWord_name deployment word hword) hcase
  have htrim : Text.trimmed (u ++ s ++ v) = s := by
    unfold Text.trimmed
    rw [String.toList_append, String.toList_append, Text.trim_back _ hv, Text.trim_front hu,
      Text.trim_of_no_blanks hnone, String.ofList_toList]
  refine parse_eq_ok_iff.mpr ⟨word, hword, ?_⟩
  rw [htrim]
  exact hcase

/-- What is shown of a deployment is one of its names, the case aside. -/
theorem exists_name_of_shown (deployment : Deployment) :
    ∀ shown ∈ [deployment.name, deployment.fileTag],
    ∃ word ∈ deployment.names, IsCaseOf shown word := by
  cases deployment <;> decide

/-! ## Values and settings -/

/-- A value that is a string is read as the name that it is. -/
theorem ofValue_text (origin : Option String) (name : String) :
    Deployment.ofValue (.scalar origin (.text name)) =
    (Deployment.parse name).mapError .unknownName := by
  unfold Deployment.ofValue
  simp only [Json.stringOf, Except.mapError, bind, Except.bind]

/-! ## All that is a name -/

/-- A text is a name of a deployment just when it is one of its words but for the case of ASCII
letters and for white space around it, so there is nothing but ASCII in what is trimmed; any other
text is refused, and given back trimmed and in small letters. A string in a document is read alike,
with the same words for a fault. The name that is shown and the one within names of files are names,
in any case and with any white space around them, so that the deployment that is laid over the
settings is read as itself. -/
theorem deployments_go_by_their_names :
    (∀ name deployment, Deployment.parse name = .ok deployment ↔
      ∃ word ∈ deployment.names, IsCaseOf (Text.trimmed name) word) ∧
      (∀ name deployment, Deployment.parse name = .ok deployment →
        AreAscii (Text.trimmed name).toList) ∧
      (∀ name, (∀ deployment, Deployment.parse name ≠ .ok deployment) →
        Deployment.parse name = .error (Text.lower (Text.trimmed name))) ∧
      (∀ origin name, (Deployment.ofValue (.scalar origin (.text name))).mapError
        DeploymentFault.message =
        (Deployment.parse name).mapError Deployment.unknownMessage) ∧
      (∀ (deployment : Deployment), ∀ shown ∈ [deployment.name, deployment.fileTag], ∀ s,
        IsCaseOf s shown →
        ∀ u v, AreBlanks u.toList → AreBlanks v.toList →
          Deployment.parse (u ++ s ++ v) = .ok deployment) ∧
      ∀ deployment common own vars,
        deploymentField (mergedLayers deployment common own vars) "app_env" = .ok deployment := by
  refine ⟨fun _ _ => parse_eq_ok_iff, fun _ _ => areAscii_of_parse, fun name hnone => ?_,
    fun origin name => ?_, fun deployment shown hshown s hs u v hu hv => ?_,
    fun deployment _ _ vars => deploymentField_mergedLayers _ vars⟩
  · rcases hparse : Deployment.parse name with canonical | deployment
    · rw [eq_canonical_of_parse hparse]
    · exact absurd hparse (hnone deployment)
  · rw [ofValue_text]
    cases Deployment.parse name with
    | error canonical => rfl
    | ok deployment => rfl
  · obtain ⟨word, hword, hcase⟩ := exists_name_of_shown deployment shown hshown
    exact parse_padded hu hv hword (hs.trans hcase)

/-- White space and case do not matter to a name, but a capital i with a dot is no i. -/
theorem a_dotted_letter_makes_no_name :
    IsCaseOf "pROD" "Prod" ∧ AreBlanks "\u2003".toList ∧ AreBlanks "\n".toList ∧
      Deployment.parse ("\u2003" ++ "pROD" ++ "\n") = .ok .prod ∧
      Deployment.parse "PRODUCT\u0130ON" = .error "producti\u0307on" := by
  obtain ⟨-, hascii, hrefused, -, hshown, -⟩ := deployments_go_by_their_names
  have hcase : IsCaseOf "pROD" "Prod" := by decide
  have hu : AreBlanks "\u2003".toList := by decide
  have hv : AreBlanks "\n".toList := by decide
  refine ⟨hcase, hu, hv, hshown .prod "Prod" (by decide) "pROD" hcase _ _ hu hv, ?_⟩
  have htrimmed : Text.lower (Text.trimmed "PRODUCT\u0130ON") = "producti\u0307on" := by
    decide +kernel
  rw [hrefused _ fun deployment hparse => absurd (hascii _ _ hparse) (by decide), htrimmed]

end Chassis.Settings
