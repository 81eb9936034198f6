-- Loading an environment file into an instance: whatever becomes of it, what is set stays and what
-- is added stands in the file; what stands above a bad line has been added by then, and is not
-- taken back.
import Chassis.Proofs.Environ.Supplied
import Chassis.Proofs.Settings.Attempts

namespace Chassis.Instance

open Environ (Assignments)

/-- The lines of the file under a path; a file that cannot be read is one bad line. -/
def linesAt (inst : Instance) (path : String) : List (Except Environ.Fault String) :=
  match Environ.contentsOf inst.files path with
  | .error fault => [.error (.file fault)]
  | .ok bytes => Environ.logicalLines bytes

/-- What the file under a path assigns, up to its first bad line if it has one. -/
def assignedAt (inst : Instance) (path : String) : Assignments × Option Environ.Fault :=
  inst.environ.assigned [] (inst.linesAt path)

theorem loadEnvironFile_of_error {inst : Instance} {path : String} {fault : Files.Fault}
    (h : Environ.contentsOf inst.files path = .error fault) :
    inst.loadEnvironFile path =
    (inst, if fault = .notFound then .absent else .failed (.file fault)) := by
  unfold loadEnvironFile
  rw [h]
  cases fault <;> rfl

theorem assignedAt_of_error {inst : Instance} {path : String} {fault : Files.Fault}
    (h : Environ.contentsOf inst.files path = .error fault) :
    inst.assignedAt path = ([], some (.file fault)) := by
  unfold assignedAt linesAt
  rw [h]
  rfl

theorem loadEnvironFile_of_ok {inst : Instance} {path : String} {bytes : Text.Bytes}
    (h : Environ.contentsOf inst.files path = .ok bytes)
    (hend : (inst.loadEnvironFile path).2 ≠ .crashed) :
    inst.loadEnvironFile path =
      ({ inst with environ := inst.environ.supplyAll (inst.assignedAt path).1 },
        (inst.assignedAt path).2.elim .read .failed) := by
  have hassigned : inst.assignedAt path = inst.environ.assignedBy bytes := by
    unfold assignedAt linesAt
    rw [h]
    rfl
  unfold loadEnvironFile at hend ⊢
  rw [h] at hend ⊢
  dsimp only at hend ⊢
  rw [Environ.load_eq_supplyAll hend, hassigned]

/-- There is nothing to read just where nothing is found. -/
theorem contentsOf_notFound {tree : Files.Node} {path : String} :
    Environ.contentsOf tree path = .error .notFound ↔ Files.look tree path = .error .notFound := by
  unfold Environ.contentsOf Files.read
  rcases Files.look tree path with fault | node
  · exact ⟨fun h => by cases h; rfl, fun h => by cases h; rfl⟩
  · refine ⟨fun h => ?_, nofun⟩
    cases node with
    | file mode body =>
      change (if Files.mayRead mode then Except.ok body else .error Files.Fault.denied).map
        Files.Body.toBytes = _ at h
      split at h <;> cases h
    | directory mode entries =>
      change (Except.error (if Files.mayRead mode then Files.Fault.isDirectory else .denied)).map
        Files.Body.toBytes = _ at h
      split at h <;> cases h
    | link target => cases h

/-! ## All files -/

/-- Whatever becomes of loading a file, what is set stays as it is, an empty value too, and what is
added comes behind it: the first assignment of each name that was not set, up to the first bad line,
which a file that is read to its end has not. A file is absent where nothing is found. Loading the
file again comes to the same and changes nothing. -/
theorem an_environment_file_only_adds {inst : Instance} {path : String}
    (htext : inst.environ.IsText)
    (hzero : ∀ name value, inst.environ.get? name = some value → Environ.NoZero value)
    (hfile : ∀ bytes, Environ.contentsOf inst.files path = .ok bytes → 0 ∉ bytes) :
    ∃ (added : Assignments) (loading : Environ.Loading),
      inst.loadEnvironFile path =
      ({ inst with environ := inst.environ ++ Environ.ofTexts added }, loading) ∧
      (added.map (·.1)).Nodup ∧
      (∀ name value, (name, value) ∈ added ↔
        inst.environ.get? name = none ∧ (inst.assignedAt path).1.lookup name = some value) ∧
      (∀ name, (inst.environ ++ Environ.ofTexts added).get? name =
        inst.environ.meaning? (inst.assignedAt path).1 name) ∧
      (loading = .read ↔ (inst.assignedAt path).2 = none) ∧
      (loading = .absent ↔ Files.look inst.files path = .error .notFound) ∧
      (loading = .absent → added = []) ∧ loading ≠ .crashed ∧
      (inst.loadEnvironFile path).1.loadEnvironFile path = inst.loadEnvironFile path := by
  rcases hcontents : Environ.contentsOf inst.files path with fault | bytes
  · have hload := loadEnvironFile_of_error hcontents
    have habsent : Files.look inst.files path = .error .notFound ↔ fault = .notFound := by
      rw [← contentsOf_notFound, hcontents, Except.error.injEq]
    refine ⟨[], if fault = .notFound then .absent else .failed (.file fault), ?_, List.nodup_nil,
      ?_, ?_, ?_, ?_, fun _ => rfl, ?_, ?_⟩
    · rw [hload]
      simp [Environ.ofTexts]
    · simp [assignedAt_of_error hcontents]
    · simp [assignedAt_of_error hcontents, Environ.ofTexts, Environ.meaning?]
    · rw [assignedAt_of_error hcontents]
      split <;> simp
    · rw [habsent]
      split <;> simp_all
    · split <;> simp
    · rw [hload]
      exact hload
  · have hend : (Environ.load inst.environ (Environ.contentsOf inst.files path)).2 ≠ .crashed := by
      rw [hcontents]
      exact Environ.load_ne_crashed hzero (hfile bytes hcontents)
    have hload := loadEnvironFile_of_ok hcontents hend
    obtain ⟨added, hadded, hnodup, hmem⟩ :=
      Environ.supplyAll_eq_append htext (inst.assignedAt path).1
    have hloading : (inst.assignedAt path).2.elim .read .failed ≠ Environ.Loading.absent := by
      cases (inst.assignedAt path).2 <;> simp
    refine ⟨added, (inst.assignedAt path).2.elim .read .failed, by rw [hload, hadded], hnodup,
      hmem, ?_, ?_, ?_, fun h => absurd h hloading, ?_, ?_⟩
    · intro name
      rw [← hadded, Environ.get?_supplyAll]
    · cases (inst.assignedAt path).2 <;> simp
    · rw [← contentsOf_notFound, hcontents]
      simp [hloading]
    · cases (inst.assignedAt path).2 <;> simp
    · have hagain := Environ.load_load hend
      unfold loadEnvironFile
      dsimp only
      rw [hagain]

/-- An instance whose file assigns a name that is set and empty, and another one twice. -/
def fullFile : Instance :=
  ⟨[(.text "A", .text "")], withEnvironFile "A=1\nB=x\nB=y\nC=$A$B\n", none⟩

theorem assignedAt_fullFile :
    fullFile.assignedAt environFileName =
    ([("A", "1"), ("B", "x"), ("B", "y"), ("C", "x")], none) := by
  have hlines : Environ.logicalLines (Text.utf8 "A=1\nB=x\nB=y\nC=$A$B\n") =
      Environ.gather .plain [] (["A=1\n", "B=x\n", "B=y\n", "C=$A$B\n"].map Text.utf8) := rfl
  have hassigned : Environ.assigned [(.text "A", .text "")] []
      (Environ.logicalLines (Text.utf8 "A=1\nB=x\nB=y\nC=$A$B\n")) =
        ([("A", "1"), ("B", "x"), ("B", "y"), ("C", "x")], none) := by
    simp only [hlines, List.map_cons, List.map_nil]
    rw [Environ.gather_line rfl rfl, Environ.gather_line rfl rfl, Environ.gather_line rfl rfl,
      Environ.gather_line rfl rfl]
    rfl
  unfold assignedAt linesAt fullFile
  dsimp only
  rw [contentsOf_withEnvironFile]
  exact hassigned

/-- The empty value stays, the first of two values counts, and all is as it is from then on. -/
theorem a_full_file_is_loaded_once :
    fullFile.environ.IsText ∧ ∃ later, fullFile.loadEnvironFile environFileName = (later, .read) ∧
      later.environ.get? "A" = some "" ∧ later.environ.get? "B" = some "x" ∧
      later.environ.get? "C" = some "x" ∧
      later.loadEnvironFile environFileName = (later, .read) := by
  have htext : fullFile.environ.IsText := by
    intro entry hentry
    exact ⟨"A", "", List.mem_singleton.mp hentry⟩
  have hzero : ∀ name value, fullFile.environ.get? name = some value → Environ.NoZero value := by
    intro name value hvalue
    cases List.mem_singleton.mp (Environ.mem_of_get? hvalue)
    simp [Environ.NoZero]
  have hfile : ∀ bytes, Environ.contentsOf fullFile.files environFileName = .ok bytes →
      0 ∉ bytes := by
    intro bytes hbytes
    rw [show fullFile.files = withEnvironFile "A=1\nB=x\nB=y\nC=$A$B\n" from rfl,
      contentsOf_withEnvironFile] at hbytes
    cases hbytes
    decide
  obtain ⟨added, loading, hload, -, -, hvalues, hread, -, -, -, hagain⟩ :=
    an_environment_file_only_adds htext hzero hfile
  rw [assignedAt_fullFile] at hvalues hread
  obtain rfl := hread.mpr rfl
  rw [hload] at hagain
  exact ⟨htext, _, hload, (hvalues "A").trans rfl, (hvalues "B").trans rfl,
    (hvalues "C").trans rfl, hagain⟩

/-! ## Files that fail -/

/-- A file that fails has one bad line, wherever it stands, or cannot be read at all. What is
assigned above it has been supplied, what stands below has not been looked at, and nothing else has
changed. So the instance is what it was exactly when all that is assigned above was set already. -/
theorem what_stands_above_a_bad_line_stays {inst later : Instance} {path : String}
    {fault : Environ.Fault} (hfailed : inst.loadEnvironFile path = (later, .failed fault)) :
    ∃ above line below assignments,
      inst.linesAt path = above ++ line :: below ∧
      inst.environ.assigned [] above = (assignments, none) ∧
      inst.environ.assigned assignments [line] = (assignments, some fault) ∧
      later = { inst with environ := inst.environ.supplyAll assignments } ∧
      (∀ name, later.environ.get? name = inst.environ.meaning? assignments name) ∧
      (∀ name, name ∉ assignments.map (·.1) →
        later.environ.value? name = inst.environ.value? name) ∧
      (later = inst ↔ ∀ assignment ∈ assignments,
        (inst.environ.get? assignment.1).isSome = true) := by
  obtain ⟨assignments, hassigned, rfl⟩ : ∃ assignments,
      inst.assignedAt path = (assignments, some fault) ∧
      later = { inst with environ := inst.environ.supplyAll assignments } := by
    rcases hcontents : Environ.contentsOf inst.files path with reason | bytes
    · rw [loadEnvironFile_of_error hcontents] at hfailed
      split at hfailed
      · cases hfailed
      · cases hfailed
        exact ⟨[], assignedAt_of_error hcontents, rfl⟩
    · rw [loadEnvironFile_of_ok hcontents (by simp [hfailed])] at hfailed
      rcases hat : inst.assignedAt path with ⟨assignments, _ | other⟩
      · rw [hat] at hfailed
        cases hfailed
      · rw [hat] at hfailed
        cases hfailed
        exact ⟨assignments, rfl, rfl⟩
  obtain ⟨above, line, below, hlines, habove, hline⟩ := Environ.exists_bad_line hassigned
  refine ⟨above, line, below, assignments, hlines, habove, hline, rfl, Environ.get?_supplyAll _ _,
    fun name => Environ.value?_supplyAll, ?_⟩
  constructor
  · intro hsame assignment hmem
    have henviron : inst.environ.supplyAll assignments = inst.environ :=
      congrArg Instance.environ hsame
    rw [← henviron]
    exact Environ.isSome_get?_supplyAll hmem
  · intro hset
    rw [Environ.supplyAll_of_set hset]

/-- An instance with a file whose third line is bad, and whose first variable is set. -/
def halfFile : Instance := ⟨[(.text "A", .text "0")], withEnvironFile "A=1\nB=$A\n=\nC=3\n", none⟩

/-- The instance after its file was loaded up to the bad line. -/
def halfLoaded : Instance :=
  { halfFile with environ := [(.text "A", .text "0"), (.text "B", .text "0")] }

theorem loadEnvironFile_halfFile :
    halfFile.loadEnvironFile environFileName = (halfLoaded, .failed (.badLine "=" 0)) := by
  have hlines : Environ.logicalLines (Text.utf8 "A=1\nB=$A\n=\nC=3\n") =
      Environ.gather .plain [] (["A=1\n", "B=$A\n", "=\n", "C=3\n"].map Text.utf8) := rfl
  have hload : Environ.load [(.text "A", .text "0")] (.ok (Text.utf8 "A=1\nB=$A\n=\nC=3\n")) =
      ([(.text "A", .text "0"), (.text "B", .text "0")], .failed (.badLine "=" 0)) := by
    unfold Environ.load Environ.apply
    simp only [hlines, List.map_cons, List.map_nil]
    rw [Environ.gather_line rfl rfl, Environ.gather_line rfl rfl, Environ.gather_line rfl rfl,
      Environ.gather_line rfl rfl]
    rfl
  unfold loadEnvironFile halfFile
  dsimp only
  rw [contentsOf_withEnvironFile, hload]
  rfl

/-- Something stands above the bad line that was not set before. -/
theorem a_half_file_is_not_taken_back :
    halfFile.loadEnvironFile environFileName = (halfLoaded, .failed (.badLine "=" 0)) ∧
      ∃ assignments, halfLoaded.environ = halfFile.environ.supplyAll assignments ∧
        ∃ assignment ∈ assignments, halfFile.environ.get? assignment.1 = none := by
  obtain ⟨_, _, _, assignments, -, -, -, hlater, -, -, hsame⟩ :=
    what_stands_above_a_bad_line_stays loadEnvironFile_halfFile
  refine ⟨loadEnvironFile_halfFile, assignments, congrArg Instance.environ hlater, ?_⟩
  have hchanged : ¬halfLoaded = halfFile :=
    fun heq => absurd (congrArg Instance.environ heq) (by decide)
  simpa [hsame] using hchanged

/-- The load fails, and a variable is set that was not set before. -/
theorem a_failed_file_can_set_a_variable :
    ∃ later, halfFile.loadEnvironFile environFileName = (later, .failed (.badLine "=" 0)) ∧
      halfFile.environ.value? "B" = none ∧ later.environ.value? "B" = some (.text "0") :=
  ⟨halfLoaded, loadEnvironFile_halfFile, by decide, by decide⟩

end Chassis.Instance
