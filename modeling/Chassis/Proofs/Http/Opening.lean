-- The site opens whatever origins the settings list: those that cannot be let in are left out, each
-- with a warning, and no policy is made that could not be used.
import Mathlib.Data.List.Forall2
import Chassis.Proofs.Http.Origins
import Chassis.Proofs.Text.Utf8

namespace Chassis.Http

open Logging (Event)

/-! ## Values of headers -/

/-- A byte that may stand in a header: a tab, or none of the controls. -/
def IsLegalByte (b : UInt8) : Prop := b.toNat = 9 ∨ 32 ≤ b.toNat ∧ b.toNat ≠ 127

instance (b : UInt8) : Decidable (IsLegalByte b) :=
  inferInstanceAs (Decidable (b.toNat = 9 ∨ 32 ≤ b.toNat ∧ b.toNat ≠ 127))

/-- A text whose bytes may all stand in a header. -/
def IsLegal (s : String) : Prop := ∀ b ∈ Text.utf8 s, IsLegalByte b

instance (s : String) : Decidable (IsLegal s) := List.decidableBAll IsLegalByte (Text.utf8 s)

theorem legal_encoded_iff (c : Char) :
    (∀ b ∈ String.utf8EncodeChar c, IsLegalByte b) ↔ c.toNat = 9 ∨ 32 ≤ c.toNat ∧
    c.toNat ≠ 127 := by
  by_cases hascii : c.toNat < 0x80
  · have hbyte : (UInt8.ofNat c.toNat).toNat = c.toNat :=
      UInt8.toNat_ofNat_of_lt' (Nat.lt_trans hascii (by decide))
    rw [Text.encoded_of_ascii hascii, List.forall_mem_singleton, IsLegalByte, hbyte]
  · have hbeyond : 0x80 ≤ c.toNat := Nat.not_lt.mp hascii
    constructor
    · intro _
      exact Or.inr ⟨by omega, by omega⟩
    · intro _ b hb
      have := Text.le_of_mem_encoded hbeyond hb
      exact Or.inr ⟨by omega, by omega⟩

/-- A text is a value of a header just when its bytes are legal. -/
theorem isHeaderValue_iff (s : String) : isHeaderValue s = true ↔ IsLegal s := by
  have hchar (c : Char) : (c == '\t' || (0x20 ≤ c.toNat && c.toNat ≠ 0x7f)) = true ↔
      ∀ b ∈ String.utf8EncodeChar c, IsLegalByte b := by
    have htab : c = '\t' ↔ c.toNat = 9 := by rw [← Char.toNat_inj]; rfl
    rw [legal_encoded_iff, ← htab]
    simp
  unfold isHeaderValue IsLegal Text.utf8
  rw [List.all_eq_true, List.forall_mem_flatMap]
  simp only [hchar]

/-! ## The allow-list and the warnings -/

/-- An origin that can be let in. -/
def MayEnter (origin : String) : Prop := origin ≠ "*" ∧ IsLegal origin

instance (origin : String) : Decidable (MayEnter origin) :=
  inferInstanceAs (Decidable (origin ≠ "*" ∧ IsLegal origin))

theorem skip?_eq_none_iff {origin : String} : skip? origin = none ↔ MayEnter origin := by
  rw [← Option.isNone_iff_eq_none, skip?_isNone, IsIdle, not_or, Bool.not_eq_false,
    isHeaderValue_iff]
  rfl

/-- The allow-list is what the list has of origins that can be let in, in order. -/
theorem allowed_eq_filter (origins : List String) :
    allowed origins = origins.filter (MayEnter ·) := by
  unfold allowed
  refine List.filter_congr fun origin _ => ?_
  rw [Bool.eq_iff_iff, decide_eq_true_eq, Option.isNone_iff_eq_none, skip?_eq_none_iff]

/-- A warning about an origin: that it is an asterisk, or which one it is. -/
structure Warns (origin : String) (event : Event) : Prop where
  level : event.level = .warn
  target : event.target = "yavin::presentation::router"
  asterisk : origin = "*" →
    event.message = "Skipping wildcard CORS origin, credentials are enabled" ∧ event.fields = []
  illegal : origin ≠ "*" → event.message = "Skipping invalid CORS origin" ∧
    ("origin", .display origin) ∈ event.fields

theorem warns_of_skip {origin : String} {skip : Skip} (h : skip? origin = some skip) :
    Warns origin (skip.event origin) := by
  unfold skip? at h
  split at h
  · rename_i hstar
    cases h
    exact ⟨rfl, rfl, fun _ => ⟨rfl, rfl⟩, fun hne => absurd hstar hne⟩
  · rename_i hne
    split at h
    · cases h
    · cases h
      exact ⟨rfl, rfl, fun hstar => absurd hstar hne, fun _ => ⟨rfl, List.mem_cons_self⟩⟩

/-- There is one warning for each origin that is left out, in order, and no other. -/
theorem warns_skipEvents (origins : List String) :
    List.Forall₂ Warns (origins.filter (¬MayEnter ·)) (skipEvents origins) := by
  unfold skipEvents
  induction origins with
  | nil => exact .nil
  | cons origin rest ih =>
    cases hskip : skip? origin with
    | none =>
      have hmay := skip?_eq_none_iff.mp hskip
      rw [List.filter_cons_of_neg (by simpa using hmay),
        List.filterMap_cons_none (by rw [hskip]; rfl)]
      exact ih
    | some skip =>
      have hnot : ¬MayEnter origin := by
        intro hmay
        rw [skip?_eq_none_iff.mpr hmay] at hskip
        cases hskip
      rw [List.filter_cons_of_pos (by simpa using hnot),
        List.filterMap_cons_some (by rw [hskip]; rfl)]
      exact .cons (warns_of_skip hskip) ih

/-! ## The policy -/

theorem star_not_mem_allowed (origins : List String) : "*" ∉ allowed origins := by
  intro hstar
  exact (mem_allowed.mp hstar).2 (Or.inl rfl)

/-- A list without an asterisk can be made into what a policy lets in. -/
theorem allowance_of_no_star {origins : List String} (h : "*" ∉ origins) :
    Allowance.ofOrigins? origins = some (.listed origins) :=
  if_neg (by simpa using h)

/-- A policy can be made of every list. -/
theorem policy_ofOrigins? (origins : List String) :
    Policy.ofOrigins? origins =
    some ⟨.listed (allowed origins), .asked, .asked, .listed [], true⟩ := by
  unfold Policy.ofOrigins?
  rw [allowance_of_no_star (star_not_mem_allowed origins), Option.map_some]

/-- What lists its origins, and grants of methods and headers what is asked, can be used with
credentials. -/
theorem isUsable_of_listed (origins exposed : List String) (credentials : Bool) :
    Policy.isUsable ⟨.listed origins, .asked, .asked, .listed exposed, credentials⟩ = true := by
  unfold Policy.isUsable
  simp

theorem openSite_eq (settings : Settings) :
    settings.openSite = (.opened settings.site, settings.siteEvents) := by
  unfold Settings.openSite
  rw [policy_ofOrigins?]
  dsimp only
  rw [if_pos (isUsable_of_listed _ _ _)]
  rfl

/-- Whatever origins the settings list, a policy is made that can be used, and the site opens with
it. It lets in those of the list that are no asterisk and may stand in a header, in order; each of
the others is warned of once, in order, and nothing else is. -/
theorem every_list_of_origins_opens_the_site (settings : Settings) :
    ∃ policy warnings, Policy.ofOrigins? settings.corsOrigins = some policy ∧
      policy.isUsable = true ∧
      policy.origins = .listed (settings.corsOrigins.filter (MayEnter ·)) ∧
      policy.credentials = true ∧
      settings.openSite =
        (.opened ⟨settings.appName, settings.appVersion, settings.corsOrigins.filter (MayEnter ·)⟩,
          warnings) ∧
      List.Forall₂ Warns (settings.corsOrigins.filter (¬MayEnter ·)) warnings := by
  rw [← allowed_eq_filter]
  exact ⟨_, _, policy_ofOrigins? _, isUsable_of_listed _ _ _, rfl, rfl, openSite_eq settings,
    warns_skipEvents _⟩

/-- Of an asterisk, a line break, an accent that comes twice and an empty origin, two are left
out. -/
example : allowed ["*", "a\n", "\u00e9", "\u00e9", ""] = ["\u00e9", "\u00e9", ""] ∧
    (skipEvents ["*", "a\n", "\u00e9", "\u00e9", ""]).map (·.message) =
      ["Skipping wildcard CORS origin, credentials are enabled", "Skipping invalid CORS origin"] :=
  by decide

end Chassis.Http
