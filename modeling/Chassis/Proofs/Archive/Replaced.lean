-- What becomes of an archive that is kept. Nothing removes it, whatever goes wrong; but a log of
-- its day that is packed takes its place, and what it held is then held only if the log held it as
-- well.
import Chassis.Proofs.Archive.Packable

namespace Chassis.Logging.Archive

open Calendar (Date)
open Files (Body Entries Node newFileMode)

namespace DayFiles

/-- An archive is there, or a log of a day that is over was packed in its place. The log is there,
or it is gone. -/
structure Yields (p : Powers) (rotated : Bool) (f g : DayFiles) : Prop where
  log : g.log = f.log ∨ g.log = none
  archive : g.archive = f.archive ∨
    rotated = true ∧ ∃ body mode, p.readable? f.log = some body ∧
      g.archive = some (.file mode body.pack)

variable {p : Powers} {rotated : Bool} {f g h : DayFiles}

theorem Yields.readable {body : Body} (hyields : Yields p rotated f g)
    (hread : p.readable? g.log = some body) :
    p.readable? f.log = some body := by
  rcases hyields.log with hsame | hgone
  · rwa [hsame] at hread
  · rw [hgone] at hread
    cases hread

theorem Yields.move (hyields : Yields p rotated f g) (hmove : Move p rotated false g h) :
    Yields p rotated f h := by
  cases hmove with
  | clear _ _ _ => exact ⟨hyields.log, hyields.archive⟩
  | write _ _ _ => exact ⟨hyields.log, hyields.archive⟩
  | finish hrotated hread hdraft _ _ _ _ =>
    exact ⟨hyields.log, Or.inr ⟨hrotated, _, _, hyields.readable hread, hdraft⟩⟩
  | drop _ _ _ _ _ _ _ => exact ⟨Or.inr rfl, hyields.archive⟩
  | prune hexpired _ _ _ => cases hexpired

theorem yields_of_moves (hmoves : Moves p rotated false f g) : Yields p rotated f g := by
  induction hmoves with
  | refl => exact ⟨Or.inl rfl, Or.inl rfl⟩
  | tail _ hmove ih => exact ih.move hmove

end DayFiles

/-! ## In a pass -/

/-- After a pass the archive of a log is what it was, or it holds the log. -/
def GivesWay (a : Archiver) (today date : Date) (log : String) (before after : Node) : Prop :=
  folderAt after a.directory (.text (archiveName log)) =
    folderAt before a.directory (.text (archiveName log)) ∨
    date.dayNumber < today.dayNumber ∧ ∃ packed mode, Files.read before (a.pathOf log) =
      .ok packed ∧
      folderAt after a.directory (.text (archiveName log)) = some (.file mode packed.pack)

/-- A file holds at least some content, when it is unpacked. -/
def HoldsAtLeast (node? : Option Node) (content : Text.Bytes) : Prop :=
  ∃ mode body whole, node? = some (.file mode body) ∧ body.unpack? = some whole ∧ content <:+: whole

section

variable {a : Archiver} {today : Date} {tree : Node} {log : String} {date : Date} {mode : Nat}
  {body : Body}
  (hplain : Ordinary (folderAt tree a.directory))
  (hdate : dateIn? a.fileStem fileTag log = some date)
  (hkept : a.keptFrom today ≤ date.dayNumber)
  (harchive : folderAt tree a.directory (.text (archiveName log)) = some (.file mode body))
include hplain hdate harchive

theorem no_slash_of_archive : '/' ∉ log.toList := by
  have hslash := hplain.no_slash (archiveName log) (by rw [harchive]; exact Option.some_ne_none _)
  rw [archiveName_eq ⟨date, hdate⟩] at hslash
  simpa using hslash

include hkept

omit harchive in
theorem Reached.givesWay {place : List Files.Name} {m : Nat} {calm : Prop} {state : Node × Plan}
    (hshows : Shows a.directory place m tree (folderAt tree a.directory))
    (hslash : '/' ∉ log.toList)
    (h : Reached a place m calm (past today) (before (a.keptFrom today))
      (folderAt tree a.directory) state) :
    GivesWay a today date log tree state.1 := by
  obtain ⟨folder', hat, hevolved⟩ := h
  have hmoves := hevolved.days log date hdate
  have hnot : before (a.keptFrom today) date = false := by simpa [before] using hkept
  rw [hnot] at hmoves
  unfold GivesWay
  rw [folderAt_eq hat]
  rcases (DayFiles.yields_of_moves hmoves).archive with hsame | ⟨hrotated, packed, m', hread, hheld⟩
  · exact Or.inl hsame
  · have hislog := isName_log ⟨date, hdate⟩ hslash
    exact Or.inr ⟨by simpa [past] using hrotated, packed, m',
      (read_pathOf hshows hplain hislog).mpr hread, hheld⟩

/-- A pass that comes to its end without trouble packs the log of a kept archive in its place, if it
can be packed, and leaves the archive alone, if it cannot. -/
theorem archive_of_finished {report : Report}
    (hfinished : (a.runOnFiles today tree).2.2 = .finished report) :
    (∀ packed, date.dayNumber < today.dayNumber → CanPack a tree log packed →
        folderAt (a.runOnFiles today tree).1 a.directory (.text (archiveName log)) =
          some (.file newFileMode packed.pack)) ∧
      ((∀ packed, date.dayNumber < today.dayNumber → ¬CanPack a tree log packed) →
        folderAt (a.runOnFiles today tree).1 a.directory (.text (archiveName log)) =
        some (.file mode body)) := by
  obtain ⟨place, m, first, hshows, hread, hfirst⟩ := of_finished hfinished
  have hdays := (settled_runOnFiles hshows hplain hread hfirst).2
  have hslash := no_slash_of_archive hplain hdate harchive
  have hcan (packed : Body) : CanPack a tree log packed ↔
    _ := canPack_iff hshows hplain ⟨date, hdate⟩ hslash
  have hnot : before (a.keptFrom today) date = false := by simpa [before] using hkept
  have hafter := congrArg DayFiles.archive (hdays log date hdate)
  rw [hnot] at hafter
  constructor
  · intro packed hover hpack
    have hpast : past today date = true := by simpa [past] using hover
    rw [hpast, DayFiles.settled_of_packs ((hcan packed).mp hpack) (hplain.no_link _) false]
      at hafter
    exact hafter
  · intro hnever
    rw [(DayFiles.settled_of_not (fun hpast packed hpacks => ?_) false).2.1] at hafter
    · exact hafter.trans harchive
    · exact hnever packed (by simpa [past] using hpast) ((hcan packed).mpr hpacks)

end

/-- Nothing takes an archive that is kept away, whatever goes wrong in a pass and wherever the pass
is cut off: only a log of its day, when the day is over, is put in its place. After a pass without
trouble the archive holds what it held exactly when no log was packed in its place that does not
hold it. -/
theorem an_archive_gives_way_only_to_its_log (a : Archiver) (today : Date) (tree : Node)
    (hplain : Ordinary (folderAt tree a.directory)) {log : String} {date : Date}
    (hdate : dateIn? a.fileStem fileTag log = some date) (hkept : a.keptFrom today ≤ date.dayNumber)
    {mode : Nat} {body : Body}
    (harchive : folderAt tree a.directory (.text (archiveName log)) = some (.file mode body)) :
    (∀ plan count,
      GivesWay a today date log tree (a.cutOff today (troubled a.directory) (tree, plan) count).1) ∧
      (∀ plan,
        GivesWay a today date log tree (a.runOn today (troubled a.directory) (tree, plan)).1.1) ∧
      ∀ report, (a.runOnFiles today tree).2.2 = .finished report →
        let after := folderAt (a.runOnFiles today tree).1 a.directory (.text (archiveName log))
        (∀ packed, date.dayNumber < today.dayNumber → CanPack a tree log packed →
            after = some (.file newFileMode packed.pack)) ∧
          ((∀ packed, date.dayNumber < today.dayNumber → ¬CanPack a tree log packed) →
            after = some (.file mode body)) ∧
          ∀ content, body.unpack? = some content →
            (HoldsAtLeast after content ↔ ∀ packed, date.dayNumber < today.dayNumber →
              CanPack a tree log packed →
              content <:+: packed.toBytes) := by
  have hslash := no_slash_of_archive hplain hdate harchive
  rcases shows_or_unlisted tree a.directory with ⟨place, m, hshows⟩ | ⟨-, hnone⟩
  · have hat (plan : Plan) :
        At a.directory place m (plan = []) (folderAt tree a.directory) (tree, plan) :=
      ⟨hshows, hplain, fun h => h⟩
    refine ⟨fun plan count => ?_, fun plan => ?_, fun report hfinished => ?_⟩
    · exact (reached_cutOff (hat plan) today count).givesWay hplain hdate hkept hshows hslash
    · exact (reached_runOn (hat plan) today).givesWay hplain hdate hkept hshows hslash
    · obtain ⟨hreplaced, hleft⟩ := archive_of_finished hplain hdate hkept harchive hfinished
      refine ⟨hreplaced, hleft, fun content hcontent => ⟨?_, fun hheld => ?_⟩⟩
      · rintro ⟨m', other, whole, hother, hwhole, hinfix⟩ packed hover hpack
        rw [hreplaced packed hover hpack] at hother
        cases hother
        cases hwhole
        exact hinfix
      · by_cases hpacked : ∃ packed, date.dayNumber < today.dayNumber ∧ CanPack a tree log packed
        · obtain ⟨packed, hover, hpack⟩ := hpacked
          exact ⟨_, _, _, hreplaced packed hover hpack, rfl, hheld packed hover hpack⟩
        · have hsame := hleft fun packed hover hpack => hpacked ⟨packed, hover, hpack⟩
          exact ⟨_, _, content, hsame, hcontent, List.infix_rfl⟩
  · rw [hnone] at harchive
    cases harchive

/-- A log of a day of which there is an archive already. -/
def writtenAgain : Entries :=
  [(.text "app.2024-05-01.log", .file 0o644 (.plain [110])),
    (.text "app.2024-05-01.log.gz", .file 0o644 (.packed [111]))]

theorem ordinary_writtenAgain : Ordinary (folderAt (withLogs 0o755 writtenAgain) "logs") := by
  rw [folderAt_withLogs]
  exact ordinary_of_entries (by decide)

theorem archive_writtenAgain :
    folderAt (withLogs 0o755 writtenAgain) "logs" (.text (archiveName "app.2024-05-01.log")) =
      some (.file 0o644 (.packed [111])) := by
  rw [folderAt_withLogs]
  rfl

theorem canPack_writtenAgain :
    CanPack weekly (withLogs 0o755 writtenAgain) "app.2024-05-01.log" (.plain [110]) := by
  have hordinary := ordinary_writtenAgain
  rw [folderAt_withLogs] at hordinary
  refine (canPack_iff (shows_withLogs 0o755 writtenAgain) hordinary ⟨_, date_firstOfMay⟩
    (by decide)).mpr ?_
  exact ⟨rfl, by decide, by decide, by decide, by decide, by decide⟩

theorem finished_writtenAgain :
    ∃ report, (weekly.runOnFiles thirdOfMay (withLogs 0o755 writtenAgain)).2.2 =
      .finished report := by
  have hordinary := ordinary_writtenAgain
  rw [folderAt_withLogs] at hordinary
  exact finished_of_shows (shows_withLogs 0o755 writtenAgain) hordinary (by decide) rfl

/-- The log is packed in place of the archive. -/
theorem a_new_log_takes_the_place_of_an_archive :
    folderAt (weekly.runOnFiles thirdOfMay (withLogs 0o755 writtenAgain)).1 "logs"
      (.text "app.2024-05-01.log.gz") =
      some (.file newFileMode (.packed [110])) := by
  obtain ⟨report, hfinished⟩ := finished_writtenAgain
  exact ((an_archive_gives_way_only_to_its_log weekly thirdOfMay _ ordinary_writtenAgain
    date_firstOfMay (by decide)
    archive_writtenAgain).2.2 report hfinished).1 (.plain [110]) (by decide) canPack_writtenAgain

/-- What was archived of a day that is kept is not held any more. -/
theorem an_archive_that_is_kept_can_be_lost :
    Ordinary (folderAt (withLogs 0o755 writtenAgain) "logs") ∧
      dateIn? weekly.fileStem archiveTag "app.2024-05-01.log.gz" = some firstOfMay ∧
      weekly.keptFrom thirdOfMay ≤ firstOfMay.dayNumber ∧
      HoldsAtLeast (folderAt (withLogs 0o755 writtenAgain) "logs" (.text "app.2024-05-01.log.gz"))
        [111] ∧
      (∃ report, (weekly.runOnFiles thirdOfMay (withLogs 0o755 writtenAgain)).2.2 =
        .finished report) ∧
      ¬HoldsAtLeast (folderAt (weekly.runOnFiles thirdOfMay (withLogs 0o755 writtenAgain)).1 "logs"
        (.text "app.2024-05-01.log.gz")) [111] := by
  obtain ⟨report, hfinished⟩ := finished_writtenAgain
  have hafter :=
    (archive_of_finished ordinary_writtenAgain date_firstOfMay (by decide) archive_writtenAgain
    hfinished).1 (.plain [110]) (by decide) canPack_writtenAgain
  refine ⟨ordinary_writtenAgain, by decide, by decide,
    ⟨_, _, _, archive_writtenAgain, rfl, List.infix_rfl⟩,
    ⟨report, hfinished⟩, ?_⟩
  rintro ⟨mode, body, whole, hbody, hwhole, hinfix⟩
  cases hafter.symm.trans hbody
  cases hwhole
  revert hinfix
  decide

end Chassis.Logging.Archive
