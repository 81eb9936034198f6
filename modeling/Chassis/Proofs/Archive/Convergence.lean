-- Passes that were cut off, in trouble, repeated or missed leave no trace: once a pass on a
-- later day is complete, the log directory is what that pass alone would have made of it.
import Chassis.Proofs.Archive.Passes

namespace Chassis.Logging.Archive

open Calendar (Date)
open Files (Node mayRead)

/-! ## Attempts -/

/-- A pass that was begun: on which day, after how many acts it was cut off, if it was, and what
went wrong in it. -/
structure Attempt where
  day : Date
  cut? : Option Nat
  plan : Plan

/-- What an attempt leaves of a tree. -/
def Archiver.attempt (a : Archiver) (tree : Node) (attempt : Attempt) : Node :=
  match attempt.cut? with
  | some count => (a.cutOff attempt.day (troubled a.directory) (tree, attempt.plan) count).1
  | none => (a.runOn attempt.day (troubled a.directory) (tree, attempt.plan)).1.1

/-- What stands under each name of a folder, without the modes of files. -/
def contentsOf (folder : Folder) : Folder := fun name => DayFiles.withoutMode (folder name)

/-! ## Passes without trouble -/

/-- With nothing planned to go wrong, a script is carried out as it is on files. -/
theorem run_troubled_nil {α : Type} (directory : String) (script : Script α) (tree : Node) :
    script.run (troubled directory) (tree, []) =
      (((script.run (onFiles directory) tree).1, []), (script.run (onFiles directory) tree).2) := by
  induction script generalizing tree with
  | done value => rfl
  | note event rest ih => simp only [Script.run, ih tree]
  | list next ih => exact ih _ tree
  | act what next ih => exact ih _ _

theorem runOn_troubled_nil (a : Archiver) (today : Date) (tree : Node) :
    a.runOn today (troubled a.directory) (tree, []) =
      (((a.runOnFiles today tree).1, []), (a.runOnFiles today tree).2) := by
  unfold Archiver.runOnFiles Archiver.runOn
  cases a.oldestKept? today with
  | none => rfl
  | some kept =>
    dsimp only
    rw [run_troubled_nil]
    rcases (a.pass today kept).run.run (onFiles a.directory) tree
      with ⟨left, events, fault | report⟩ <;> rfl

theorem runOnFiles_eq (a : Archiver) (today : Date) (tree : Node) :
    (a.runOnFiles today tree).1 = (a.runOn today (troubled a.directory) (tree, [])).1.1 := by
  rw [runOn_troubled_nil]

/-! ## Attempts before a pass -/

/-- What may have become of a folder on a day may have become of it later. -/
theorem Evolved.later {stem directory : String} {mode : Nat}
    {rotated expired rotated' expired' : Date → Bool} {folder folder' : Folder}
    (h : Evolved stem directory mode rotated expired folder folder')
    (hrotated : ∀ date, rotated date = true → rotated' date = true)
    (hexpired : ∀ date, expired date = true → expired' date = true) :
    Evolved stem directory mode rotated' expired' folder folder' := by
  refine ⟨fun log date hdate => ?_, h.strays⟩
  exact DayFiles.moves_later (h.days log date hdate) (hrotated date) (hexpired date)

section

variable {a : Archiver} {place : List Files.Name} {mode : Nat} {folder : Folder} {tree : Node}
    {today : Date}

theorem past_later {earlier : Date} (h : earlier.dayNumber ≤ today.dayNumber) (date : Date)
    (hpast : past earlier date = true) : past today date = true := by
  simp only [past, decide_eq_true_eq] at *
  omega

theorem before_later {kept kept' : Int} (h : kept ≤ kept') (date : Date)
    (hbefore : before kept date = true) :
    before kept' date = true := by
  simp only [before, decide_eq_true_eq] at *
  omega

/-- An attempt on an earlier day does nothing that a pass may not do. -/
theorem evolved_attempt (hshows : Shows a.directory place mode tree folder)
    (hplain : Ordinary folder) (attempt : Attempt)
    (hday : attempt.day.dayNumber ≤ today.dayNumber) :
    ∃ folder', Shows a.directory place mode (a.attempt tree attempt) folder' ∧ Ordinary folder' ∧
      Evolved a.fileStem a.directory mode (past today) (before (a.keptFrom today)) folder
        folder' := by
  have hat : At a.directory place mode (attempt.plan = []) folder (tree, attempt.plan) :=
    ⟨hshows, hplain, fun h => h⟩
  have hreached : ∃ state, state.1 = a.attempt tree attempt ∧
      Reached a place mode (attempt.plan = [])
      (past attempt.day) (before (a.keptFrom attempt.day)) folder state := by
    unfold Archiver.attempt
    split
    · exact ⟨_, rfl, reached_cutOff hat attempt.day _⟩
    · exact ⟨_, rfl, reached_runOn hat attempt.day⟩
  obtain ⟨state, hstate, folder', hat', hevolved⟩ := hreached
  have hkept : a.keptFrom attempt.day ≤ a.keptFrom today := by
    unfold Archiver.keptFrom
    omega
  exact ⟨folder', hstate ▸ hat'.shows, hat'.ordinary,
    hevolved.later (past_later hday) (before_later hkept)⟩

theorem evolved_attempts (hshows : Shows a.directory place mode tree folder)
    (hplain : Ordinary folder) {attempts : List Attempt}
    (hdays : ∀ attempt ∈ attempts, attempt.day.dayNumber ≤ today.dayNumber) :
    ∃ folder', Shows a.directory place mode (attempts.foldl a.attempt tree) folder' ∧
      Ordinary folder' ∧
      Evolved a.fileStem a.directory mode (past today) (before (a.keptFrom today)) folder
        folder' := by
  induction attempts generalizing tree folder with
  | nil => exact ⟨folder, hshows, hplain, .refl⟩
  | cons attempt rest ih =>
    obtain ⟨folder₁, hshows₁, hplain₁, hevolved₁⟩ :=
      evolved_attempt hshows hplain attempt (hdays attempt (by simp))
    obtain ⟨folder₂, hshows₂, hplain₂, hevolved₂⟩ :=
      ih hshows₁ hplain₁ fun other hother => hdays other (by simp [hother])
    exact ⟨folder₂, hshows₂, hplain₂, hevolved₁.trans hevolved₂⟩

/-- Attempts that leave the tree alone. -/
theorem foldl_attempt_eq {attempts : List Attempt}
    (h : ∀ attempt ∈ attempts, a.attempt tree attempt = tree) :
    attempts.foldl a.attempt tree = tree := by
  induction attempts with
  | nil => rfl
  | cons attempt rest ih =>
    rw [List.foldl_cons, h attempt (by simp)]
    exact ih fun other hother => h other (by simp [hother])

theorem attempt_unlisted {fault : Files.Fault} (h : listOn a.directory tree = .error fault)
    (attempt : Attempt) :
    a.attempt tree attempt = tree := by
  unfold Archiver.attempt
  split
  · rw [unlisted_cutOff h]
  · rw [unlisted_runOn h]

/-- When the calendar does not reach back far enough, it did not do so before either. -/
theorem attempt_crashed (hkept : a.oldestKept? today = none) (attempt : Attempt)
    (hday : attempt.day.dayNumber ≤ today.dayNumber) : a.attempt tree attempt = tree := by
  have hnone : a.oldestKept? attempt.day = none := by
    unfold Archiver.oldestKept? at *
    simp only [ite_eq_right_iff, reduceCtorEq, imp_false, Int.not_le] at *
    omega
  unfold Archiver.attempt Archiver.cutOff
  split
  · rw [hnone]
  · rw [runOn_fst, hnone]

/-! ## The pass in the end -/

/-- Two folders of which one has evolved into the other hold the same once their days are
settled. -/
theorem contentsOf_settled {stem directory : String} {rotated expired : Date → Bool}
    {folder folder₁ settled settled₁ : Folder}
    (hevolved : Evolved stem directory mode rotated expired folder folder₁)
    (hstrays : Evolved stem directory mode rotated expired folder settled)
    (hstrays₁ : Evolved stem directory mode rotated expired folder₁ settled₁)
    (hdays : ∀ log date, dateIn? stem fileTag log = some date → dayOf settled log =
      (dayOf folder log).settled (powers directory mode log) (rotated date) (expired date))
    (hdays₁ : ∀ log date, dateIn? stem fileTag log = some date → dayOf settled₁ log =
      (dayOf folder₁ log).settled (powers directory mode log) (rotated date) (expired date)) :
    contentsOf settled₁ = contentsOf settled := by
  funext name
  by_cases hname : ∃ log, IsLog stem log ∧ name ∈ dayNames log
  · obtain ⟨log, ⟨date, hdate⟩, hmem⟩ := hname
    have hcontents := DayFiles.settled_moves (hevolved.days log date hdate)
    rw [← hdays log date hdate, ← hdays₁ log date hdate] at hcontents
    simp only [DayFiles.contents, dayOf, DayFiles.mk.injEq] at hcontents
    obtain ⟨hlog, harchive, hdraft⟩ := hcontents
    simp only [dayNames, List.mem_cons, List.not_mem_nil, or_false] at hmem
    unfold contentsOf
    rcases hmem with rfl | rfl | rfl
    · exact hlog
    · exact harchive
    · exact hdraft
  · have hstray (log : String) (hlog : IsLog stem log) : name ∉ dayNames log :=
      fun hmem => hname ⟨log, hlog, hmem⟩
    unfold contentsOf
    rw [hstrays₁.strays name hstray, hevolved.strays name hstray, hstrays.strays name hstray]

/-- What a complete pass without trouble leaves of a directory that stands open. -/
theorem settled_runOnFiles (hshows : Shows a.directory place mode tree folder)
    (hplain : Ordinary folder) (hread : mayRead mode = true) {kept : Int}
    (hkept : a.oldestKept? today = some kept) :
    Evolved a.fileStem a.directory mode (past today) (before (a.keptFrom today)) folder
        (folderAt (a.runOnFiles today tree).1 a.directory) ∧
      ∀ log date, dateIn? a.fileStem fileTag log = some date →
        dayOf (folderAt (a.runOnFiles today tree).1 a.directory) log =
          (dayOf folder log).settled (powers a.directory mode log) (past today date)
            (before (a.keptFrom today) date) := by
  have hat : At a.directory place mode True folder (tree, []) := ⟨hshows, hplain, fun _ => rfl⟩
  obtain ⟨folder', hat', hevolved, hdays⟩ := left_runOn hat today hread hkept
  rw [runOnFiles_eq, folderAt_eq hat']
  exact ⟨hevolved, hdays trivial⟩

end

/-- Whatever passes were begun before, on the same day or on earlier ones, whether they were cut
off, complete or in trouble: a complete pass leaves what it would have left without them. In
particular a pass that is repeated leaves the directory as it is. -/
theorem earlier_passes_leave_no_trace (a : Archiver) (today : Date) (tree : Node)
    (hplain : Ordinary (folderAt tree a.directory)) :
    (∀ attempts : List Attempt, (∀ attempt ∈ attempts, attempt.day.dayNumber ≤ today.dayNumber) →
      contentsOf (folderAt (a.runOnFiles today (attempts.foldl a.attempt tree)).1 a.directory) =
        contentsOf (folderAt (a.runOnFiles today tree).1 a.directory)) ∧
      contentsOf (folderAt (a.runOnFiles today (a.runOnFiles today tree).1).1 a.directory) =
        contentsOf (folderAt (a.runOnFiles today tree).1 a.directory) := by
  have hattempts (attempts : List Attempt)
      (hdays : ∀ attempt ∈ attempts, attempt.day.dayNumber ≤ today.dayNumber) :
      contentsOf (folderAt (a.runOnFiles today (attempts.foldl a.attempt tree)).1 a.directory) =
        contentsOf (folderAt (a.runOnFiles today tree).1 a.directory) := by
    rcases shows_or_unlisted tree a.directory with ⟨place, mode, hshows⟩ | ⟨⟨fault, hlist⟩, -⟩
    · cases hread : mayRead mode with
      | false =>
        rw [foldl_attempt_eq fun attempt _ => attempt_unlisted (list_denied hshows hread) attempt]
      | true =>
        cases hkept : a.oldestKept? today with
        | none =>
          rw [foldl_attempt_eq fun attempt hmem =>
            attempt_crashed hkept attempt (hdays attempt hmem)]
        | some kept =>
          obtain ⟨folder₁, hshows₁, hplain₁, hevolved⟩ := evolved_attempts hshows hplain hdays
          obtain ⟨hstrays, hsettled⟩ := settled_runOnFiles hshows hplain hread hkept
          obtain ⟨hstrays₁, hsettled₁⟩ := settled_runOnFiles hshows₁ hplain₁ hread hkept
          exact contentsOf_settled hevolved hstrays hstrays₁ hsettled hsettled₁
    · rw [foldl_attempt_eq fun attempt _ => attempt_unlisted hlist attempt]
  refine ⟨hattempts, ?_⟩
  have hagain := hattempts [⟨today, none, []⟩] (by simp)
  simp only [List.foldl_cons, List.foldl_nil, Archiver.attempt, ← runOnFiles_eq] at hagain
  exact hagain

/-- A pass is cut off when the archive is in its place and the log is still there; the next pass
makes up for it. -/
theorem a_pass_makes_up_for_one_cut_off :
    contentsOf (folderAt (Archiver.runOnFiles ⟨"logs", "app", 7⟩
        ⟨2024, 5, 3, by decide, by decide, by decide⟩
        (Archiver.attempt ⟨"logs", "app", 7⟩ loneLog
          ⟨⟨2024, 5, 2, by decide, by decide, by decide⟩, some 4, []⟩)).1 "logs") =
      contentsOf (folderAt (Archiver.runOnFiles ⟨"logs", "app", 7⟩
        ⟨2024, 5, 3, by decide, by decide, by decide⟩ loneLog).1 "logs") :=
  (earlier_passes_leave_no_trace ⟨"logs", "app", 7⟩ ⟨2024, 5, 3, by decide, by decide, by decide⟩
    loneLog ordinary_loneLog).1 [⟨⟨2024, 5, 2, by decide, by decide, by decide⟩, some 4, []⟩] (by
      intro attempt hmem
      rw [List.mem_singleton.mp hmem]
      decide)

end Chassis.Logging.Archive
