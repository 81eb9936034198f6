-- No log is lost. Whatever goes wrong in a pass, and wherever the pass is cut off, what the log
-- of a day held is still there, until the archives of that day are no longer kept.
import Chassis.Proofs.Archive.Passes

namespace Chassis.Logging.Archive

open Calendar (Date)
open Files (Body Node)

/-! ## What a log held -/

/-- What a log held is still there: in the log, or complete in its archive. -/
def Holds (folder : Folder) (log : String) (content : Text.Bytes) : Prop :=
  (∃ mode body, folder (.text log) = some (.file mode body) ∧ body.toBytes = content) ∨
    ∃ mode body, folder (.text (log ++ ".gz")) = some (.file mode body) ∧
      body.unpack? = some content

namespace DayFiles

/-- The log stands as it did, or it is gone and its archive is there. -/
def Keeps (mode : Nat) (body : Body) (day : DayFiles) : Prop :=
  day.log = some (.file mode body) ∨ day.log = none ∧ ∃ m, day.archive = some (.file m body.pack)

variable {p : Powers} {rotated : Bool} {f g : DayFiles} {mode : Nat} {body : Body}

/-- The log is the only thing that goes, and it goes when the archive holds it. An archive that is
kept stays. -/
theorem keeps_move (hmove : Move p rotated false f g) (h : f.Keeps mode body) :
    g.Keeps mode body := by
  cases hmove with
  | clear _ _ _ => exact h
  | write _ _ _ => exact h
  | finish _ hlog _ _ _ _ _ =>
    rcases h with hself | ⟨hnone, -⟩
    · exact Or.inl hself
    · rw [hnone] at hlog
      cases hlog
  | drop _ hlog harchive _ _ _ _ =>
    rcases h with hself | ⟨hnone, -⟩
    · simp only [Powers.readable?, hself, Option.ite_none_right_eq_some, Option.some.injEq] at hlog
      obtain ⟨-, rfl⟩ := hlog
      exact Or.inr ⟨rfl, _, harchive⟩
    · rw [hnone] at hlog
      cases hlog
  | prune hexpired _ _ _ => cases hexpired

theorem keeps_moves (hmoves : Moves p rotated false f g) (h : f.Keeps mode body) :
    g.Keeps mode body := by
  induction hmoves with
  | refl => exact h
  | tail _ hmove ih => exact keeps_move hmove ih

end DayFiles

theorem holds_of_keeps {stem log : String} (hlog : IsLog stem log) {folder : Folder} {mode : Nat}
    {body : Body} (h : (dayOf folder log).Keeps mode body) : Holds folder log body.toBytes := by
  rcases h with hself | ⟨-, m, harchive⟩
  · exact Or.inl ⟨mode, body, hself, rfl⟩
  · rw [dayOf, archiveName_eq hlog] at harchive
    exact Or.inr ⟨m, body.pack, harchive, rfl⟩

/-! ## In a pass -/

section

variable {a : Archiver} {place : List Files.Name} {mode : Nat} {calm : Prop} {folder : Folder}
  {state : Node × Plan}
  {rotated : Date → Bool} {kept : Int} {log : String} {date : Date} {m : Nat} {body : Body}

/-- Wherever a pass has come to, the log stands as it did or its archive holds it. -/
theorem Reached.keeps (h : Reached a place mode calm rotated (before kept) folder state)
    (hdate : dateIn? a.fileStem fileTag log = some date) (hkept : kept ≤ date.dayNumber)
    (hlog : folder (.text log) = some (.file m body)) :
    (dayOf (folderAt state.1 a.directory) log).Keeps m body := by
  obtain ⟨folder', hat, hevolved⟩ := h
  have hmoves := hevolved.days log date hdate
  have hnot : before kept date = false := by simp [before, hkept]
  rw [hnot] at hmoves
  rw [folderAt_eq hat]
  exact DayFiles.keeps_moves hmoves (Or.inl hlog)

end

/-- Wherever a pass is cut off, and also in the end, what a log held is there, in the log or in a
complete archive; and a log that could not be packed is what it was. -/
theorem a_kept_log_is_never_lost (a : Archiver) (today : Date) (tree : Node) (plan : Plan)
    (hplain : Ordinary (folderAt tree a.directory)) {log : String} {date : Date}
    (hdate : dateIn? a.fileStem fileTag log = some date)
    (hkept : today.dayNumber - a.retentionDays ≤ date.dayNumber) {mode : Nat} {body : Body}
    (hlog : folderAt tree a.directory (.text log) = some (.file mode body)) :
    (∀ count,
      Holds (folderAt (a.cutOff today (troubled a.directory) (tree, plan) count).1 a.directory) log
        body.toBytes) ∧
      Holds (folderAt (a.runOn today (troubled a.directory) (tree, plan)).1.1 a.directory) log
        body.toBytes ∧
      ∀ count, let cut := a.cutOff today (troubled a.directory) (tree, plan) count
        let (left, _, report) := (a.compress log).run (troubled a.directory) cut
        isFile (folderAt cut.1 a.directory (.text log)) → report ≠ .oneCompressed →
          folderAt left.1 a.directory (.text log) = some (.file mode body) := by
  have hislog : IsLog a.fileStem log := ⟨date, hdate⟩
  rcases shows_or_unlisted tree a.directory with ⟨place, m, hshows⟩ | ⟨-, hnone⟩
  · have hat : At a.directory place m (plan = []) (folderAt tree a.directory) (tree, plan) :=
      ⟨hshows, hplain, fun h => h⟩
    have hcut (count : Nat) := reached_cutOff hat today count
    have hkeeps (count : Nat) := (hcut count).keeps hdate hkept hlog
    refine ⟨fun count => holds_of_keeps hislog (hkeeps count), ?_, ?_⟩
    · exact holds_of_keeps hislog ((reached_runOn hat today).keeps hdate hkept hlog)
    · intro count
      dsimp only
      intro hfile hreport
      obtain ⟨folder, hat', -⟩ := hcut count
      have hslash : '/' ∉ log.toList := hplain.no_slash log (by rw [hlog]; simp)
      rw [failed_compress hislog hslash hat' hreport, ← folderAt_eq hat']
      rcases hkeeps count with hself | ⟨hgone, -⟩
      · exact hself
      · simp only [dayOf] at hgone
        rw [hgone] at hfile
        cases hfile
  · rw [hnone] at hlog
    cases hlog

/-- The disk is full when the archive is filled, and the pass is cut off right after that. -/
theorem a_log_outlives_a_full_disk :
    Holds (folderAt (Archiver.cutOff ⟨"logs", "app", 7⟩
        ⟨2024, 5, 3, by decide, by decide, by decide⟩ (troubled "logs")
        (loneLog, [none, none, some ⟨.ioError, some (.plain [31])⟩]) 3).1 "logs")
      "app.2024-05-01.log" [104, 105] := by
  have hdate : dateIn? "app" fileTag "app.2024-05-01.log" =
      some ⟨2024, 5, 1, by decide, by decide, by decide⟩ := by decide
  have hlog : folderAt loneLog "logs" (.text "app.2024-05-01.log") =
      some (.file 0o644 (.plain [104, 105])) := by
    rw [folderAt_loneLog, if_pos rfl]
  exact (a_kept_log_is_never_lost ⟨"logs", "app", 7⟩ ⟨2024, 5, 3, by decide, by decide, by decide⟩
    loneLog _ ordinary_loneLog hdate (by decide) hlog).1 3

end Chassis.Logging.Archive
