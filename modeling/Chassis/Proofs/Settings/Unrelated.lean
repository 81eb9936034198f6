-- Variables that settings have nothing to do with: they are neither among those that count, nor do
-- their names stand in the environment file. What they hold does not matter to a load as long as
-- they are texts. One that is none is a crash, since all of them are read as texts before those
-- that count are picked.
import Chassis.Proofs.Environ.Named
import Chassis.Proofs.Environ.Supplied
import Chassis.Proofs.Settings.EnvironFile
import Chassis.Proofs.Settings.Held

namespace Chassis

open Text (Native)

namespace Environ

/-! ## Variables that are no texts -/

/-- A variable whose name or value is no text. -/
def IsStray (entry : Native × Native) : Prop := ∀ name value, entry ≠ (.text name, .text value)

theorem texts?_eq_none_iff {environ : Environ} : texts? environ = none ↔
    ∃ entry ∈ environ, IsStray entry := by
  constructor
  · intro hnone
    by_contra hno
    have htext : environ.IsText := by
      intro entry hentry
      by_contra hstray
      refine hno ⟨entry, hentry, fun name value heq => hstray ⟨name, value, heq⟩⟩
    obtain ⟨vars, hvars⟩ := htext.texts?
    rw [hnone] at hvars
    cases hvars
  · rintro ⟨entry, hentry, hstray⟩
    cases hvars : texts? environ with
    | none => rfl
    | some vars =>
      rw [eq_of_texts? hvars] at hentry
      obtain ⟨⟨name, value⟩, -, rfl⟩ := List.mem_map.mp hentry
      exact absurd rfl (hstray name value)

theorem value?_eq_some_iff {environ : Environ} (h : environ.IsDistinct) {name : String}
    {value : Native} :
    value? environ name = some value ↔ (.text name, value) ∈ environ := by
  unfold value?
  rw [Option.map_eq_some_iff]
  constructor
  · rintro ⟨entry, hfind, rfl⟩
    have hname : entry.1 = .text name := by simpa using List.find?_some hfind
    rw [← hname]
    exact List.mem_of_find?_eq_some hfind
  · intro hmem
    have hsome : (environ.find? (·.1 == .text name)).isSome = true := by
      rw [List.find?_isSome]
      exact ⟨_, hmem, by simp⟩
    obtain ⟨entry, hfind⟩ := Option.isSome_iff_exists.mp hsome
    have hname : entry.1 = .text name := by simpa using List.find?_some hfind
    have hsame := List.inj_on_of_nodup_map h (List.mem_of_find?_eq_some hfind) hmem hname
    exact ⟨entry, hfind, congrArg Prod.snd hsame⟩

section

variable {related : String → Prop} {environ environ' : Environ}

/-- A variable that is no text is called otherwise, or has a name of the kind and a value that is no
text. -/
theorem IsDistinct.exists_stray_iff (h : environ.IsDistinct) : (∃ entry ∈ environ, IsStray entry) ↔
    (∃ entry ∈ environ, IsForeign related entry ∧ IsStray entry) ∨
      ∃ name bytes, related name ∧ value? environ name = some (.raw bytes) := by
  constructor
  · rintro ⟨entry, hentry, hstray⟩
    by_cases hforeign : IsForeign related entry
    · exact Or.inl ⟨entry, hentry, hforeign, hstray⟩
    · unfold IsForeign at hforeign
      push Not at hforeign
      obtain ⟨name, hname, heq⟩ := hforeign
      obtain ⟨native, value⟩ := entry
      dsimp only at heq
      subst heq
      cases value with
      | text value => exact absurd rfl (hstray name value)
      | raw bytes => exact Or.inr ⟨name, bytes, hname, (value?_eq_some_iff h).mpr hentry⟩
  · rintro (⟨entry, hentry, -, hstray⟩ | ⟨name, bytes, -, hvalue⟩)
    · exact ⟨entry, hentry, hstray⟩
    · refine ⟨_, (value?_eq_some_iff h).mp hvalue, ?_⟩
      rintro _ _ ⟨⟩

/-- Environments that agree on the names of a kind have a variable that is no text just the same, if
they have one that is called otherwise just the same. -/
theorem Agree.exists_stray_iff (hagree : Agree related environ environ') (h : environ.IsDistinct)
    (h' : environ'.IsDistinct)
    (hforeign : (∃ entry ∈ environ, IsForeign related entry ∧ IsStray entry) ↔
      ∃ entry ∈ environ', IsForeign related entry ∧ IsStray entry) :
    (∃ entry ∈ environ, IsStray entry) ↔ ∃ entry ∈ environ', IsStray entry := by
  have hrelated : (∃ name bytes, related name ∧ value? environ name = some (.raw bytes)) ↔
      ∃ name bytes, related name ∧ value? environ' name = some (.raw bytes) := by
    refine exists_congr fun name => exists_congr fun bytes => and_congr_right fun hname => ?_
    rw [hagree name hname]
  rw [h.exists_stray_iff, h'.exists_stray_iff, hforeign, hrelated]

end

end Environ

namespace Instance

open Environ (IsForeign IsStray StandsInFile)

/-! ## One load -/

/-- The names that a load has to do with: those of the variables that count, and those in the
environment file. -/
def Concerns (inst : Instance) (name : String) : Prop :=
  name ∈ Settings.variableNames ∨ StandsInFile (Environ.contentsOf inst.files environFileName) name

/-- There is a variable that the load has nothing to do with and that is no text. -/
def HasForeignStray (inst : Instance) : Prop :=
  ∃ entry ∈ inst.environ, IsForeign inst.Concerns entry ∧ IsStray entry

/-- The load has its variables, and a document that it lays wants a list that cannot be held. -/
def Overreaches (inst : Instance) : Prop :=
  ∃ vars, variables? (inst.environ.after inst.files) = some vars ∧
    ∃ deployment, Settings.deploymentOf vars = .ok deployment ∧
      (Settings.Unheld (Settings.shelfOf inst.files ".") Settings.commonName ∨
        (∃ common, Settings.readDocument (Settings.placeOf ".") (Settings.shelfOf inst.files ".")
          Settings.commonName = .ok common) ∧
          Settings.Unheld (Settings.shelfOf inst.files ".") (Settings.ownName deployment))

theorem variables?_eq_none_iff {environ : Environ} : variables? environ = none ↔
    ∃ entry ∈ environ, IsStray entry := by
  unfold variables?
  rw [Option.map_eq_none_iff, Environ.texts?_eq_none_iff]

/-- The file does not stop the load: it is read, or there is none. -/
def GoesOn (inst : Instance) : Prop :=
  (inst.loadEnvironFile environFileName).2 = .read ∨
    (inst.loadEnvironFile environFileName).2 = .absent

section

variable {inst : Instance}

/-- A load that goes on does so with the environment that the file has left. -/
theorem load_of_goesOn (h : inst.GoesOn) : inst.load.2 =
    (variables? (inst.environ.after inst.files)).elim (.error .crashed) fun vars =>
      (Settings.load inst.files "." vars).mapError .settings := by
  unfold GoesOn at h
  unfold load
  rcases hfile : inst.loadEnvironFile environFileName with ⟨later, loading⟩
  obtain rfl := eq_of_loadEnvironFile hfile
  rw [hfile] at h
  dsimp only at h
  rcases h with rfl | rfl
  · dsimp only
    cases variables? (inst.environ.after inst.files) <;> rfl
  · dsimp only
    cases variables? (inst.environ.after inst.files) <;> rfl

theorem load_of_failed {fault : Environ.Fault}
    (h : (inst.loadEnvironFile environFileName).2 = .failed fault) :
    inst.load.2 = .error (.environFile fault) := by
  unfold load
  rcases hfile : inst.loadEnvironFile environFileName with ⟨later, loading⟩
  rw [hfile] at h
  dsimp only at h
  rw [h]

theorem load_of_crashed (h : (inst.loadEnvironFile environFileName).2 = .crashed) :
    inst.load.2 = .error .crashed := by
  unfold load
  rcases hfile : inst.loadEnvironFile environFileName with ⟨later, loading⟩
  rw [hfile] at h
  dsimp only at h
  rw [h]

theorem settings_eq_crashed {fault : Settings.Fault} : Fault.settings fault = .crashed ↔
    fault = .crashed := by
  cases fault <;> simp [Fault.settings]

theorem overreaches_iff : inst.Overreaches ↔
    ∃ vars, variables? (inst.environ.after inst.files) = some vars ∧
    Settings.load inst.files "." vars = .error .crashed := by
  unfold Overreaches Settings.load Settings.loadIn
  simp only [Settings.ofShelf_eq_crashed]

theorem load_crashed_iff : inst.load.2 = .error .crashed ↔
    (inst.loadEnvironFile environFileName).2 = .crashed ∨
      inst.GoesOn ∧
      ((∃ entry ∈ inst.environ.after inst.files, IsStray entry) ∨ inst.Overreaches) := by
  have hgoesOn (h : inst.GoesOn) : inst.load.2 = .error .crashed ↔
      (∃ entry ∈ inst.environ.after inst.files, IsStray entry) ∨ inst.Overreaches := by
    rw [load_of_goesOn h, ← variables?_eq_none_iff, overreaches_iff]
    cases variables? (inst.environ.after inst.files) with
    | none => simp
    | some vars =>
      dsimp only [Option.elim]
      simp [error_of_mapError, settings_eq_crashed]
  cases hending : (inst.loadEnvironFile environFileName).2 with
  | failed fault => simp [load_of_failed hending, GoesOn, hending]
  | crashed => simp [load_of_crashed hending]
  | read =>
    have h : inst.GoesOn := Or.inl hending
    simp [hgoesOn h, h]
  | absent =>
    have h : inst.GoesOn := Or.inr hending
    simp [hgoesOn h, h]

/-- The file leaves alone what the load has nothing to do with. -/
theorem exists_foreign_stray_after :
    (∃ entry ∈ inst.environ.after inst.files, IsForeign inst.Concerns entry ∧ IsStray entry) ↔
      inst.HasForeignStray := by
  have hmem {entry : Native × Native} (hforeign : IsForeign inst.Concerns entry) :
      entry ∈ inst.environ.after inst.files ↔ entry ∈ inst.environ :=
    Environ.mem_load_of_foreign (fun _ => Or.inr) hforeign
  constructor
  · rintro ⟨entry, hentry, hforeign, hstray⟩
    exact ⟨entry, (hmem hforeign).mp hentry, hforeign, hstray⟩
  · rintro ⟨entry, hentry, hforeign, hstray⟩
    exact ⟨entry, (hmem hforeign).mpr hentry, hforeign, hstray⟩

/-- Without zeros in the variables and in the file, the file is no crash. -/
theorem loadEnvironFile_ne_crashed
    (hzero : ∀ name value, inst.environ.get? name = some value → Environ.NoZero value)
    (hfile : ∀ bytes, Environ.contentsOf inst.files environFileName = .ok bytes → 0 ∉ bytes) :
    (inst.loadEnvironFile environFileName).2 ≠ .crashed := by
  unfold loadEnvironFile
  dsimp only
  cases hcontents : Environ.contentsOf inst.files environFileName with
  | error fault => cases fault <;> exact nofun
  | ok bytes => exact Environ.load_ne_crashed hzero (hfile bytes hcontents)

end

/-! ## Two loads -/

section

variable {inst inst' : Instance} (hfiles : inst'.files = inst.files)
include hfiles

theorem concerns_of_files : inst'.Concerns = inst.Concerns := by
  unfold Concerns
  rw [hfiles]

variable (hagree : Environ.Agree inst.Concerns inst.environ inst'.environ)
include hagree

/-- The file ends in the same way, and leaves environments that still agree. -/
theorem loadEnvironFile_agree :
    (inst'.loadEnvironFile environFileName).2 = (inst.loadEnvironFile environFileName).2 ∧
      Environ.Agree inst.Concerns (inst.environ.after inst.files)
        (inst'.environ.after inst'.files) := by
  have hnames : ∀ name, StandsInFile (Environ.contentsOf inst.files environFileName) name →
      inst.Concerns name :=
    fun _ => Or.inr
  obtain ⟨hending, hlater⟩ := Environ.load_agree hnames hagree
  unfold loadEnvironFile Environ.after
  rw [hfiles]
  exact ⟨hending.symm, hlater⟩

/-- With the same variables as texts, as far as they count, the settings are the same. -/
theorem settings_agree (hdistinct : inst.environ.IsDistinct) (hdistinct' : inst'.environ.IsDistinct)
    {vars vars' : Settings.Variables}
    (hvars : variables? (inst.environ.after inst.files) = some vars)
    (hvars' : variables? (inst'.environ.after inst'.files) = some vars') :
    Settings.load inst'.files "." vars' = Settings.load inst.files "." vars := by
  obtain ⟨all, hall, rfl⟩ := Option.map_eq_some_iff.mp hvars
  obtain ⟨all', hall', rfl⟩ := Option.map_eq_some_iff.mp hvars'
  have hlater := (loadEnvironFile_agree hfiles hagree).2
  rw [hfiles]
  apply Settings.ofShelf_congr
  · exact (Environ.nodup_texts hall' (hdistinct'.load _)).sublist (List.filter_sublist.map _)
  · exact (Environ.nodup_texts hall (hdistinct.load _)).sublist (List.filter_sublist.map _)
  · intro name hname
    have htext := Environ.get?_of_texts? hall name
    have htext' := Environ.get?_of_texts? hall' name
    have hvalue := hlater.get? (Or.inl hname)
    rw [htext, htext'] at hvalue
    have hcounts := Settings.get?_filter_counts all hname
    have hcounts' := Settings.get?_filter_counts all' hname
    exact hcounts'.trans (hvalue.symm.trans hcounts.symm)

variable (hdistinct : inst.environ.IsDistinct) (hdistinct' : inst'.environ.IsDistinct)
include hdistinct hdistinct'

/-- There is a variable that is no text after the file in both environments or in none. -/
theorem exists_stray_after_iff (hforeign : inst.HasForeignStray ↔ inst'.HasForeignStray) :
    (∃ entry ∈ inst.environ.after inst.files, IsStray entry) ↔
      ∃ entry ∈ inst'.environ.after inst'.files, IsStray entry := by
  have hlater := (loadEnvironFile_agree hfiles hagree).2
  apply hlater.exists_stray_iff (hdistinct.load _) (hdistinct'.load _)
  rw [exists_foreign_stray_after, ← concerns_of_files hfiles, exists_foreign_stray_after]
  exact hforeign

/-- With the same variables as texts, as far as they count, the same is loaded. -/
theorem load_agree (hforeign : inst.GoesOn → (inst.HasForeignStray ↔ inst'.HasForeignStray)) :
    inst'.load.2 = inst.load.2 := by
  obtain ⟨hending, hlater⟩ := loadEnvironFile_agree hfiles hagree
  by_cases hgoesOn : inst.GoesOn
  · have hgoesOn' : inst'.GoesOn := by rwa [GoesOn, hending]
    have hstray := exists_stray_after_iff hfiles hagree hdistinct hdistinct' (hforeign hgoesOn)
    rw [← variables?_eq_none_iff, ← variables?_eq_none_iff] at hstray
    rw [load_of_goesOn hgoesOn, load_of_goesOn hgoesOn']
    cases hvars : variables? (inst.environ.after inst.files) with
    | none => rw [hstray.mp hvars]; rfl
    | some vars =>
      cases hvars' : variables? (inst'.environ.after inst'.files) with
      | none =>
        rw [hstray.mpr hvars'] at hvars
        cases hvars
      | some vars' =>
        dsimp only [Option.elim]
        rw [settings_agree hfiles hagree hdistinct hdistinct' hvars hvars']
  · unfold GoesOn at hgoesOn
    cases hloading : (inst.loadEnvironFile environFileName).2 with
    | failed fault => rw [load_of_failed hloading, load_of_failed (hending.trans hloading)]
    | crashed => rw [load_of_crashed hloading, load_of_crashed (hending.trans hloading)]
    | read => exact absurd (Or.inl hloading) hgoesOn
    | absent => exact absurd (Or.inr hloading) hgoesOn

end

/-- Two processes with the same files, whose environments give the same values to the variables that
count and to the names in the environment file. The file ends in the same way for both, and the same
settings or the same fault come of their loads, if both or none of them have a variable besides that
is no text. A load is a crash just when the file is one, which takes a zero, or when the load goes
on and there is such a variable, or one among those that it is concerned with that is still no text
after the file, or a document wants a list that cannot be held. -/
theorem unrelated_variables_matter_only_if_they_are_no_texts {inst inst' : Instance}
    (hfiles : inst'.files = inst.files) (hdistinct : inst.environ.IsDistinct)
    (hdistinct' : inst'.environ.IsDistinct)
    (hagree : Environ.Agree inst.Concerns inst.environ inst'.environ) :
    (inst'.loadEnvironFile environFileName).2 = (inst.loadEnvironFile environFileName).2 ∧
      ((inst.GoesOn → (inst.HasForeignStray ↔ inst'.HasForeignStray)) →
        inst'.load.2 = inst.load.2) ∧
      (inst.load.2 = .error .crashed ↔ (inst.loadEnvironFile environFileName).2 = .crashed ∨
        inst.GoesOn ∧ (inst.HasForeignStray ∨ (∃ name bytes, inst.Concerns name ∧
          (inst.environ.after inst.files).value? name = some (.raw bytes)) ∨ inst.Overreaches)) ∧
      ((∀ name value, inst.environ.get? name = some value → Environ.NoZero value) →
        (∀ bytes, Environ.contentsOf inst.files environFileName = .ok bytes → 0 ∉ bytes) →
          (inst.loadEnvironFile environFileName).2 ≠ .crashed) := by
  refine ⟨(loadEnvironFile_agree hfiles hagree).1, ?_, ?_, ?_⟩
  · exact load_agree hfiles hagree hdistinct hdistinct'
  · have hlater : (inst.environ.after inst.files).IsDistinct := hdistinct.load _
    rw [load_crashed_iff, hlater.exists_stray_iff, exists_foreign_stray_after, or_assoc]
  · exact loadEnvironFile_ne_crashed

/-- A process with an environment file that asks for a variable. -/
def asking (environ : Environ) : Instance := ⟨environ, withEnvironFile "APP_NAME=$P\n", none⟩

theorem logicalLines_asking :
    Environ.logicalLines (Text.utf8 "APP_NAME=$P\n") = [.ok "APP_NAME=$P"] := by
  have hlines : Environ.logicalLines (Text.utf8 "APP_NAME=$P\n") =
      Environ.gather .plain [] (["APP_NAME=$P\n"].map Text.utf8) := rfl
  rw [hlines, List.map_singleton, Environ.gather_line rfl rfl]
  rfl

/-- No other letters stand in that file. -/
theorem not_concerns_asking {environ : Environ} {name : String}
    (hcounts : name ∉ Settings.variableNames) (hname : ¬name.toList ⊆ "APP_NAME=$P".toList) :
    ¬(asking environ).Concerns name := by
  rintro (hcounted | ⟨bytes, line, hbytes, hline, hstands⟩)
  · exact hcounts hcounted
  · unfold asking at hbytes
    rw [contentsOf_withEnvironFile] at hbytes
    cases hbytes
    rw [logicalLines_asking, List.mem_singleton] at hline
    cases hline
    cases hstands with
    | assigned hassigned =>
      rename_i lookup value
      have hself : (Environ.readLine (fun _ => "") "APP_NAME=$P").map (Option.map Prod.fst) =
          .ok (some "APP_NAME") :=
        rfl
      rw [Environ.readLine_alike _ lookup, hassigned] at hself
      cases hself
      exact hname (by decide)
    | referred hrefers => exact hname hrefers.subset

/-- What the file does not ask for can change, and the same is loaded. -/
theorem a_load_asks_for_what_its_file_names :
    let inst := asking [(.text "P", .text "x"), (.text "X", .text "1")]
    let inst' := asking [(.text "Y", .text "2"), (.text "P", .text "x")]
    Environ.Agree inst.Concerns inst.environ inst'.environ ∧ inst'.load.2 = inst.load.2 := by
  intro inst inst'
  have hagree : Environ.Agree inst.Concerns inst.environ inst'.environ := by
    intro name hname
    have hx : "X" ≠ name := by
      rintro rfl
      exact not_concerns_asking (by decide) (by decide) hname
    have hy : "Y" ≠ name := by
      rintro rfl
      exact not_concerns_asking (by decide) (by decide) hname
    by_cases hp : "P" = name
    · subst hp
      rfl
    · simp [inst, inst', asking, Environ.value?, hp, hx, hy]
  have htexts : ¬inst.HasForeignStray ∧ ¬inst'.HasForeignStray := by
    constructor
    · rintro ⟨entry, hentry, -, hstray⟩
      rcases List.mem_pair.mp hentry with rfl | rfl <;> exact hstray _ _ rfl
    · rintro ⟨entry, hentry, -, hstray⟩
      rcases List.mem_pair.mp hentry with rfl | rfl <;> exact hstray _ _ rfl
  have hfiles : inst'.files = inst.files := rfl
  have hdistinct : inst.environ.IsDistinct := by
    unfold Environ.IsDistinct
    decide
  have hdistinct' : inst'.environ.IsDistinct := by
    unfold Environ.IsDistinct
    decide
  obtain ⟨-, hsame, -⟩ :=
    unrelated_variables_matter_only_if_they_are_no_texts hfiles hdistinct hdistinct' hagree
  exact ⟨hagree, hsame fun _ => iff_of_false htexts.1 htexts.2⟩

/-- The same process but for a variable that has nothing to do with the settings: it loads the
default settings without that variable, and crashes with it. -/
theorem an_unrelated_variable_can_crash_a_load :
    let inst : Instance := ⟨[], withEnvironFile "", none⟩
    let inst' : Instance := ⟨[(.text "UNRELATED", .raw [0x66, 0xff])], withEnvironFile "", none⟩
    Environ.Agree inst.Concerns inst.environ inst'.environ ∧
      (∃ settings, inst.load.2 = .ok settings) ∧
      inst'.load.2 = .error .crashed := by
  intro inst inst'
  have hunrelated : ¬inst.Concerns "UNRELATED" := by
    rintro (hcounts | ⟨bytes, line, hbytes, hline, -⟩)
    · exact absurd hcounts (by decide)
    · rw [contentsOf_withEnvironFile] at hbytes
      cases hbytes
      cases hline
  refine ⟨?_, ?_, ?_⟩
  · intro name hname
    have hne : "UNRELATED" ≠ name := by
      rintro rfl
      exact hunrelated hname
    simp [inst, inst', Environ.value?, hne]
  · have hfile : Environ.load [] (.ok (Text.utf8 "")) = ([], .read) := rfl
    have hvars : variables? [] = some [] := rfl
    have hload : inst.load.2 = (Settings.ofLayers .dev [] [] []).mapError .settings :=
      load_withEnvironFile hfile hvars rfl none
    rw [hload]
    exact ⟨_, rfl⟩
  · have hfile : inst'.loadEnvironFile environFileName = (inst', .read) := by
      unfold loadEnvironFile
      rw [contentsOf_withEnvironFile]
      rfl
    have hafter : inst'.environ.after inst'.files = inst'.environ := by
      unfold Environ.after
      rw [contentsOf_withEnvironFile]
      rfl
    rw [load_crashed_iff, GoesOn, hfile, hafter]
    refine Or.inr ⟨Or.inl rfl, Or.inl ⟨_, List.mem_cons_self, ?_⟩⟩
    rintro _ _ ⟨⟩

end Instance

end Chassis
