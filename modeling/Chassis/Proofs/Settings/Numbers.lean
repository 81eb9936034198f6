-- Settings that are numbers, and the one that is a truth value: what is loaded is what the text or
-- the document says, as it stands. What is out of the range of a setting is refused, never cut to
-- fit.
import Chassis.Proofs.Document.Integers
import Chassis.Proofs.Settings.Single

namespace Chassis.Settings

open Document
open Document.Json (IsLong scalarOf)
open Text (IsNumeral)

/-! ## Texts -/

/-- The numbers that a text stands for: that of a numeral, and those of the words of yes and no. -/
inductive Denotes (text : String) : Nat → Prop
  | numeral {n : Nat} : IsNumeral text.toList n → Denotes text n
  | yes : Text.lower text ∈ ["true", "on", "yes"] → Denotes text 1
  | no : Text.lower text ∈ ["false", "off", "no"] → Denotes text 0

/-- The truth values that a text stands for. -/
inductive Affirms (text : String) : Bool → Prop
  | yes : Text.lower text ∈ ["1", "true", "on", "yes"] → Affirms text true
  | no : Text.lower text ∈ ["0", "false", "off", "no"] → Affirms text false

/-- A numeral is no word, in small letters neither. -/
theorem lower_of_numeral {s : String} {n : Nat} (h : IsNumeral s.toList n) :
    Text.lower s ∉ yesWords ++ noWords := by
  have hwords : ∀ word ∈ yesWords ++ noWords,
      (word.toList.head?.any fun c => c == '+' || c.isDigit) = false := by
    decide
  obtain ⟨c, rest, hlower, hc⟩ := h.head_lower
  intro hmem
  have hhead := hwords _ hmem
  rw [hlower, List.head?_cons, Option.any_some, Bool.or_eq_false_iff, beq_eq_false_iff_ne] at hhead
  rcases hc with hplus | hdigit
  · exact hhead.1 hplus
  · rw [hhead.2] at hdigit
    cases hdigit

/-- The number of a text is one that it stands for, within 64 bits. -/
theorem unsignedOfText?_eq_some {s : String} {n : Nat} :
    unsignedOfText? s = some n ↔ Denotes s n ∧ n ≤ maxUnsigned := by
  have hnumeral {m : Nat} (h : IsNumeral s.toList m) := List.mem_append.not.mp (lower_of_numeral h)
  have hapart : ∀ word ∈ yesWords, word ∉ noWords := by decide
  unfold unsignedOfText?
  by_cases hyes : Text.lower s ∈ yesWords
  · rw [if_pos (List.contains_iff_mem.mpr hyes), Option.some.injEq]
    constructor
    · rintro rfl
      exact ⟨.yes hyes, by decide⟩
    · rintro ⟨hn, -⟩
      cases hn with
      | numeral h => exact absurd (Or.inl hyes) (hnumeral h)
      | yes => rfl
      | no hno => exact absurd hno (hapart _ hyes)
  · rw [if_neg (fun h => hyes (List.contains_iff_mem.mp h))]
    by_cases hno : Text.lower s ∈ noWords
    · rw [if_pos (List.contains_iff_mem.mpr hno), Option.some.injEq]
      constructor
      · rintro rfl
        exact ⟨.no hno, Nat.zero_le _⟩
      · rintro ⟨hn, -⟩
        cases hn with
        | numeral h => exact absurd (Or.inr hno) (hnumeral h)
        | yes h => exact absurd h hyes
        | no => rfl
    · rw [if_neg (fun h => hno (List.contains_iff_mem.mp h)), toOption_eq_some,
        Text.readUnsigned_eq_ok]
      refine and_congr_left fun _ => ⟨.numeral, fun hn => ?_⟩
      cases hn with
      | numeral h => exact h
      | yes h => exact absurd h hyes
      | no h => exact absurd h hno

theorem truth?_eq_some {s : String} {b : Bool} : truth? (Text.lower s) = some b ↔ Affirms s b := by
  have htrue : (Text.lower s = "1" || yesWords.contains (Text.lower s)) = true ↔
      Text.lower s ∈ ["1", "true", "on", "yes"] := by simp [yesWords]
  have hfalse : (Text.lower s = "0" || noWords.contains (Text.lower s)) = true ↔
      Text.lower s ∈ ["0", "false", "off", "no"] := by simp [noWords]
  have hapart : ∀ word ∈ ["1", "true", "on", "yes"], word ∉ ["0", "false", "off", "no"] := by decide
  unfold truth?
  by_cases hyes : Text.lower s ∈ ["1", "true", "on", "yes"]
  · rw [if_pos (htrue.mpr hyes), Option.some.injEq]
    constructor
    · rintro rfl
      exact .yes hyes
    · intro h
      cases h with
      | yes => rfl
      | no hno => exact absurd hno (hapart _ hyes)
  · rw [if_neg (fun h => hyes (htrue.mp h))]
    by_cases hno : Text.lower s ∈ ["0", "false", "off", "no"]
    · rw [if_pos (hfalse.mpr hno), Option.some.injEq]
      constructor
      · rintro rfl
        exact .no hno
      · intro h
        cases h with
        | yes h => exact absurd h hyes
        | no => rfl
    · rw [if_neg (fun h => hno (hfalse.mp h))]
      constructor
      · nofun
      · intro h
        cases h with
        | yes h => exact absurd h hyes
        | no h => exact absurd h hno

/-! ## Values -/

/-- The scalars that are integers of 64 bits, with a sign or without. -/
inductive IsInteger : Scalar → Int → Prop
  | signed {i : Int} : IsInteger (.integer i) i
  | unsigned {n : Nat} : IsInteger (.unsigned n) n

theorem isInteger_scalarOf (i : Int) : IsInteger (scalarOf i) i := by
  unfold scalarOf
  split
  · exact .signed
  · rename_i hlarge
    have hself : (i.toNat : Int) = i := by
      unfold Text.signedLimit at hlarge
      omega
    have hunsigned := @IsInteger.unsigned i.toNat
    rwa [hself] at hunsigned

theorem asUnsigned_ofVariable {text : String} {n : Nat} :
    asUnsigned (ofVariable text) = .ok n ↔ Denotes text n ∧ n ≤ maxUnsigned := by
  rw [← unsignedOfText?_eq_some]
  unfold asUnsigned ofVariable
  dsimp only
  cases unsignedOfText? text with
  | none => exact ⟨nofun, nofun⟩
  | some m => simp

theorem asUnsigned_integer {content : Scalar} {i : Int} (h : IsInteger content i)
    {origin : Option String} {n : Nat} :
    asUnsigned (.scalar origin content) = .ok n ↔ (n : Int) = i := by
  cases h with
  | signed =>
    unfold asUnsigned
    dsimp only
    split
    · rw [Except.ok.injEq]
      omega
    · constructor
      · nofun
      · omega
  | unsigned =>
    unfold asUnsigned
    rw [Except.ok.injEq]
    omega

theorem asBoolean_ofVariable {text : String} {b : Bool} : asBoolean (ofVariable text) = .ok b ↔
    Affirms text b := by
  rw [← truth?_eq_some]
  unfold asBoolean ofVariable
  dsimp only
  cases truth? (Text.lower text) with
  | none => exact ⟨nofun, nofun⟩
  | some c => simp

/-- A number of a width is the number that there is, if that is within the width. -/
theorem asWidth_eq_ok {width : Width} {value : Value} {n : Fin width.size} :
    asWidth width value = .ok n ↔ asUnsigned value = .ok n.val := by
  unfold asWidth
  rw [ok_of_bind]
  constructor
  · rintro ⟨m, hm, hfit⟩
    split at hfit
    · cases hfit
      exact hm
    · cases hfit
  · intro h
    refine ⟨n.val, h, ?_⟩
    rw [dif_pos n.isLt]
    rfl

/-! ## Settings that are numbers -/

/-- The settings that are numbers. -/
inductive Number where
  | serverPort
  | databaseMaxConnections
  | databaseAcquireTimeoutSecs
  | accessTokenExpireMinutes
  | logRetentionDays
  deriving DecidableEq, Repr

namespace Number

/-- The number among the settings that layers decide. -/
def setting : Number → Setting
  | serverPort => .serverPort
  | databaseMaxConnections => .databaseMaxConnections
  | databaseAcquireTimeoutSecs => .databaseAcquireTimeoutSecs
  | accessTokenExpireMinutes => .accessTokenExpireMinutes
  | logRetentionDays => .logRetentionDays

/-- How wide the number is. -/
def width : Number → Width
  | serverPort => .w16
  | databaseAcquireTimeoutSecs => .w64
  | _ => .w32

/-- What the setting holds, as a number. -/
def toNat : (number : Number) → number.setting.form.Carrier → Nat
  | serverPort => UInt16.toNat
  | databaseMaxConnections => UInt32.toNat
  | databaseAcquireTimeoutSecs => UInt64.toNat
  | accessTokenExpireMinutes => UInt32.toNat
  | logRetentionDays => UInt32.toNat

/-- The number of some settings. -/
def of (number : Number) (settings : Settings) : Nat := number.toNat (number.setting.of settings)

end Number

/-- A number that is kept in a type of its width is the one that is read. -/
theorem reads_width_iff (width : Width) {α : Type} (f : Fin width.size → α) (toNat : α → Nat)
    (hf : ∀ n, toNat (f n) = n.val) {key : String} {value : Value} {n : Nat} :
    (∃ a, ((asWidth width value).map f).mapError (Fault.mistyped key) = .ok a ∧ toNat a = n) ↔
      asUnsigned value = .ok n ∧ n < width.size := by
  constructor
  · rintro ⟨a, ha, rfl⟩
    rcases hread : asWidth width value with mismatch | m
    · rw [hread] at ha
      cases ha
    · rw [hread] at ha
      cases ha
      rw [hf]
      exact ⟨asWidth_eq_ok.mp hread, m.isLt⟩
  · rintro ⟨hvalue, hfit⟩
    have hread := (asWidth_eq_ok (n := ⟨n, hfit⟩)).mpr hvalue
    rw [hread]
    exact ⟨_, rfl, hf _⟩

/-- A number is read from a value just when the value comes to it, and it is within its width. -/
theorem Number.reads_iff {number : Number} {value : Value} {n : Nat} :
    (∃ a, number.setting.read value = .ok a ∧ number.toNat a = n) ↔
      asUnsigned value = .ok n ∧ n < number.width.size := by
  cases number with
  | serverPort => exact reads_width_iff .w16 UInt16.ofFin UInt16.toNat fun _ => rfl
  | databaseMaxConnections => exact reads_width_iff .w32 UInt32.ofFin UInt32.toNat fun _ => rfl
  | databaseAcquireTimeoutSecs => exact reads_width_iff .w64 UInt64.ofFin UInt64.toNat fun _ => rfl
  | accessTokenExpireMinutes => exact reads_width_iff .w32 UInt32.ofFin UInt32.toNat fun _ => rfl
  | logRetentionDays => exact reads_width_iff .w32 UInt32.ofFin UInt32.toNat fun _ => rfl

/-! ## Loading -/

/-- What loads give for a setting: the values that are wanted, and no other, if the rest is there.
When none is wanted, and the deployment is known, the configuration is called invalid, on account of
this setting if the rest is there. -/
structure Loads {α : Type} (load : Except Fault Settings) (rest known : Prop) (key : String)
    (value : Settings → α) (Wanted : α → Prop) : Prop where
  gives : ∀ a, (∃ settings, load = .ok settings ∧ value settings = a) ↔ rest ∧ Wanted a
  fails : known → (¬∃ a, Wanted a) → ∃ fault, load = .error fault ∧ fault.IsInvalid ∧
    (rest → fault.key? = some key)

theorem Loads.of_rest {α : Type} {load : Except Fault Settings} {rest known : Prop} {key : String}
    {value : Settings → α} {Wanted : α → Prop} (h : Loads load rest known key value Wanted)
    (hrest : rest) :
    Loads load True known key value Wanted := by
  rwa [eq_true hrest] at h

section

variable {load : Except Fault Settings} {rest known : Prop} {setting : Setting} {value : Value}
  (hloads : ∀ a, (∃ settings, load = .ok settings ∧ setting.of settings = a) ↔
    rest ∧ setting.read value = .ok a)
  (hfails : known → ∀ fault, setting.read value = .error fault →
    ∃ other, load = .error other ∧ other.IsInvalid ∧ (rest → other = fault))
include hloads hfails

/-- What is read from a value is what a load gives. -/
theorem loads_of_read {α : Type} {f : setting.form.Carrier → α} {Wanted : α → Prop}
    (hwanted : ∀ a, (∃ b, setting.read value = .ok b ∧ f b = a) ↔ Wanted a) :
    Loads load rest known setting.key (fun settings => f (setting.of settings)) Wanted where
  gives a := by
    rw [← hwanted]
    constructor
    · rintro ⟨settings, hload, rfl⟩
      obtain ⟨hrest, hread⟩ := (hloads _).mp ⟨settings, hload, rfl⟩
      exact ⟨hrest, _, hread, rfl⟩
    · rintro ⟨hrest, b, hread, rfl⟩
      obtain ⟨settings, hload, rfl⟩ := (hloads b).mpr ⟨hrest, hread⟩
      exact ⟨settings, hload, rfl⟩
  fails hknown hnone := by
    rcases hread : setting.read value with fault | b
    · obtain ⟨other, hload, hinvalid, hself⟩ := hfails hknown fault hread
      refine ⟨other, hload, hinvalid, fun hrest => ?_⟩
      rw [hself hrest]
      exact Form.key?_of_read hread
    · exact absurd ⟨f b, (hwanted _).mp ⟨b, hread, rfl⟩⟩ hnone

end

/-- A number that a text or a document stands for, within the width of its setting. -/
def Number.Fits (number : Number) (Wanted : Nat → Prop) (n : Nat) : Prop :=
  Wanted n ∧ n < number.width.size

theorem Number.reads_text_iff {number : Number} {text : String} {n : Nat} :
    (∃ a, number.setting.read (ofVariable text) = .ok a ∧ number.toNat a = n) ↔
    number.Fits (Denotes text) n := by
  have hwidth : number.width.size ≤ maxUnsigned + 1 := by cases number <;> decide
  rw [number.reads_iff, asUnsigned_ofVariable, Number.Fits]
  constructor
  · rintro ⟨⟨htext, -⟩, hfit⟩
    exact ⟨htext, hfit⟩
  · rintro ⟨htext, hfit⟩
    exact ⟨⟨htext, by omega⟩, hfit⟩

theorem Number.reads_integer_iff {number : Number} {content : Scalar} {i : Int}
    (h : IsInteger content i) {origin : Option String} {n : Nat} :
    (∃ a, number.setting.read (.scalar origin content) = .ok a ∧ number.toNat a = n) ↔
      number.Fits (fun n => (n : Int) = i) n := by
  rw [number.reads_iff, asUnsigned_integer h, Number.Fits]

theorem debug_reads_iff {text : String} {b : Bool} :
    (∃ a, Setting.debug.read (ofVariable text) = .ok a ∧ a = b) ↔ Affirms text b := by
  have hread : Setting.debug.read (ofVariable text) = .ok b ↔ Affirms text b :=
    ok_of_mapError.trans asBoolean_ofVariable
  constructor
  · rintro ⟨a, ha, rfl⟩
    exact hread.mp ha
  · exact fun h => ⟨b, hread.mpr h, rfl⟩

section

variable (place : Place) (shelf : Shelf) (vars : Variables)

theorem loads_variable (number : Number) (text : String) :
    Loads (ofShelf place shelf (vars.set number.setting.variableName text))
      (RestLoads place shelf vars number.setting)
      ((∃ deployment, deploymentOf vars = .ok deployment) ∧
        ofShelf place shelf vars ≠ .error .crashed)
      number.setting.key number.of (number.Fits (Denotes text)) := by
  apply loads_of_read
  · intro a
    exact loads_set_iff
  · rintro ⟨⟨deployment, hchosen⟩, hcrash⟩ fault
    exact fails_set hchosen hcrash
  · intro n
    exact number.reads_text_iff

/-- Every number within the width of its setting is loaded from its variable. -/
theorem loads_numeral (number : Number) (hrest : RestLoads place shelf vars number.setting)
    {n : Nat} (hfit : n < number.width.size) :
    ∃ settings, ofShelf place shelf (vars.set number.setting.variableName (toString n)) =
      .ok settings ∧
      number.of settings = n :=
  ((loads_variable place shelf vars number (toString n)).gives n).mpr
    ⟨hrest, .numeral (Text.isNumeral_toString n), hfit⟩

theorem loads_debug (text : String) :
    Loads (ofShelf place shelf (vars.set Setting.debug.variableName text))
      (RestLoads place shelf vars .debug)
      ((∃ deployment, deploymentOf vars = .ok deployment) ∧
        ofShelf place shelf vars ≠ .error .crashed)
      Setting.debug.key (fun settings => Setting.debug.of settings) (Affirms text) := by
  refine loads_of_read (fun _ => loads_set_iff) ?_ fun _ => debug_reads_iff
  rintro ⟨⟨deployment, hchosen⟩, hcrash⟩ fault
  exact fails_set hchosen hcrash

theorem loads_given (number : Number) {place : Place} {shelf : Shelf} {vars : Variables}
    {deployment : Deployment} {common own : Table} {origin : Option String} {content : Scalar}
    {i : Int} (hopened : Opened place shelf vars deployment common own)
    (hinteger : IsInteger content i)
    (hgives : Gives common own vars number.setting (.scalar origin content)) :
    Loads (ofShelf place shelf vars)
      (RestReads (mergedLayers deployment common own vars) number.setting) True
      number.setting.key number.of (number.Fits fun n => (n : Int) = i) := by
  apply loads_of_read
  · intro a
    exact hopened.loads_iff hgives rfl
  · intro _ fault
    exact hopened.fails hgives rfl
  · intro n
    exact number.reads_integer_iff hinteger

theorem loads_document (number : Number) {i : Int} (hlong : IsLong i) :
    Loads (ofShelf place (commonAlone (Json.writeObject [(number.setting.key, toString i)])) [])
      True True
      number.setting.key number.of (number.Fits fun n => (n : Int) = i) := by
  have hread : Json.read (Json.writeObject [(number.setting.key, toString i)]) =
      .ok (.table [(number.setting.key, .plain (scalarOf i))]) :=
    Json.read_writeObject (.cons ⟨rfl, Json.reads_integer hlong 126⟩ .nil) (by simp)
  have hloads := loads_given number (opened_alone place hread) (isInteger_scalarOf i)
    (gives_alone number.setting _)
  exact hloads.of_rest (restReads_alone number.setting rfl)

end

end Chassis.Settings
