-- The log directory after a pass. What does not belong to a day that is over stays; logs of days
-- that are over are packed, archives that are too old go, and nothing but archives is made, unless
-- packing fails.
import Chassis.Proofs.Archive.Warned

namespace Chassis.Logging.Archive

open Calendar (Date)
open Files (Body Entries IsName MayTake Node barrier? newFileMode)

/-! ## What a pass is to leave -/

/-- A name as the archiver knows it: of a log, of an archive or of an incomplete archive. -/
def IsDated (a : Archiver) (name : Files.Name) : Prop :=
  ∃ text tag, name = .text text ∧ tag ∈ [fileTag, archiveTag, partialTag] ∧
    (dateIn? a.fileStem tag text).isSome = true

/-- What a pass on a day has made of the log directory, and what it has said. -/
structure Tidied (a : Archiver) (today : Date) (tree after : Node) (said : List Event) : Prop where
  /-- Other names, directories, and the logs of days that are not over are what they were. -/
  others : ∀ name, ¬IsDated a name →
    folderAt after a.directory name = folderAt tree a.directory name
  directories : ∀ name, isDirectory (folderAt tree a.directory name) = true →
    folderAt after a.directory name = folderAt tree a.directory name
  logs_to_come : ∀ log date, dateIn? a.fileStem fileTag log = some date →
    today.dayNumber ≤ date.dayNumber →
    folderAt after a.directory (.text log) = folderAt tree a.directory (.text log)
  /-- An archive that can be removed stays as long as it is kept, and not any longer. It is what it
  was if no log of its day was there to be packed. -/
  archives : ∀ log date, dateIn? a.fileStem fileTag log = some date →
    isFile (folderAt tree a.directory (.text (archiveName log))) = true →
    (MayTake tree (a.pathOf (archiveName log)) →
      (isFile (folderAt after a.directory (.text (archiveName log))) = true ↔
        a.keptFrom today ≤ date.dayNumber)) ∧
    (a.keptFrom today ≤ date.dayNumber →
      (date.dayNumber < today.dayNumber → isFile (folderAt tree a.directory (.text log)) = false) →
      folderAt after a.directory (.text (archiveName log)) =
        folderAt tree a.directory (.text (archiveName log)))
  /-- A log of a day that is over is gone, if it can be packed, and its archive is there as long as
  it is kept. -/
  logs : ∀ log date packed, dateIn? a.fileStem fileTag log = some date →
    date.dayNumber < today.dayNumber →
    isFile (folderAt tree a.directory (.text log)) = true → CanPack a tree log packed →
    folderAt after a.directory (.text log) = none ∧
      folderAt after a.directory (.text (archiveName log)) =
        if a.keptFrom today ≤ date.dayNumber then some (.file newFileMode packed.pack) else none
  /-- An incomplete archive that is left could not be removed, or comes of a log that could not be
  packed. -/
  drafts : ∀ log date, dateIn? a.fileStem fileTag log = some date →
    isFile (folderAt after a.directory (.text (partialName log))) = true →
    ¬MayTake tree (a.pathOf (partialName log)) ∨
      date.dayNumber < today.dayNumber ∧
        folderAt after a.directory (.text log) = folderAt tree a.directory (.text log) ∧
          SaysFailed a log said
  /-- Nothing else is made. -/
  made : ∀ name, folderAt tree a.directory name = none → folderAt after a.directory name ≠ none →
    ∃ log date, dateIn? a.fileStem fileTag log = some date ∧ date.dayNumber < today.dayNumber ∧
      (name = .text (archiveName log) ∧ a.keptFrom today ≤ date.dayNumber ∧
        (∃ packed, CanPack a tree log packed) ∨
        name = .text (partialName log) ∧ SaysFailed a log said)

theorem isDated_iff {a : Archiver} {name : Files.Name} :
    IsDated a name ↔ ∃ log, IsLog a.fileStem log ∧ name ∈ dayNames log := by
  constructor
  · rintro ⟨text, tag, rfl, htag, hdate⟩
    obtain ⟨date, hdate⟩ := Option.isSome_iff_exists.mp hdate
    simp only [List.mem_cons, List.not_mem_nil, or_false] at htag
    rcases htag with rfl | rfl | rfl
    · exact ⟨text, ⟨date, hdate⟩, by simp [dayNames]⟩
    · obtain ⟨log, rfl, hlog⟩ := dateIn?_archiveTag.mp hdate
      exact ⟨log, ⟨date, hlog⟩, by simp [dayNames]⟩
    · obtain ⟨log, rfl, hlog⟩ := dateIn?_partialTag.mp hdate
      exact ⟨log, ⟨date, hlog⟩, by simp [dayNames]⟩
  · rintro ⟨log, ⟨date, hdate⟩, hmem⟩
    simp only [dayNames, List.mem_cons, List.not_mem_nil, or_false] at hmem
    rcases hmem with rfl | rfl | rfl
    · exact ⟨log, fileTag, rfl, by simp, by simp [hdate]⟩
    · exact ⟨_, archiveTag, rfl, by simp, by simp [dateIn?_archiveTag.mpr ⟨log, rfl, hdate⟩]⟩
    · exact ⟨_, partialTag, rfl, by simp, by simp [dateIn?_partialTag.mpr ⟨log, rfl, hdate⟩]⟩

theorem isFile_of_directory {node? : Option Node} (h : isDirectory node? = true) :
    isFile node? = false := by
  match node? with
  | some (.directory _ _) => rfl
  | some (.file _ _) => cases h
  | some (.link _) => cases h
  | none => cases h

theorem Ordinary.no_slash_of_log {folder : Folder} (hplain : Ordinary folder) {stem log : String}
    (hlog : IsLog stem log) (h : ∃ name ∈ dayNames log, folder name ≠ none) : '/' ∉ log.toList := by
  obtain ⟨name, hname, hthere⟩ := h
  simp only [dayNames, List.mem_cons, List.not_mem_nil, or_false] at hname
  rcases hname with rfl | rfl | rfl
  · exact hplain.no_slash _ hthere
  · simpa [archiveName_eq hlog] using hplain.no_slash _ hthere
  · simpa [partialName_eq hlog] using hplain.no_slash _ hthere

theorem past_iff {today date : Date} : past today date = true ↔ date.dayNumber < today.dayNumber :=
  decide_eq_true_iff

theorem before_iff {kept : Int} {date : Date} : before kept date = true ↔ date.dayNumber < kept :=
  decide_eq_true_iff

theorem not_before_iff {kept : Int} {date : Date} : before kept date = false ↔
    kept ≤ date.dayNumber := by
  rw [← Bool.not_eq_true, before_iff, Int.not_lt]

/-- An incomplete archive that clearing leaves was there, and could not be removed. -/
theorem DayFiles.draft_of_cleared {p : Powers} {f : DayFiles}
    (h : isFile (f.cleared p).draft = true) :
    f.draft ≠ none ∧ ¬(p.change = true ∧ p.draft = true) := by
  by_cases hall : (p.change && p.draft && isFile f.draft) = true
  · rw [cleared, if_pos hall] at h
    cases h
  · rw [cleared, if_neg hall] at h
    refine ⟨fun hnone => ?_, fun hboth => hall (by simp [hboth.1, hboth.2, h])⟩
    rw [hnone] at h
    cases h

/-! ## Day by day -/

section

variable {a : Archiver} {today : Date} {tree after : Node} {place : List Files.Name} {mode : Nat}
  {log : String}
  {date : Date} {said : List Event}

/-- What is known of a pass that has come to its end. -/
structure Finished (a : Archiver) (today : Date) (tree after : Node) (said : List Event)
    (place : List Files.Name) (mode : Nat) : Prop where
  shows : Shows a.directory place mode tree (folderAt tree a.directory)
  ordinary : Ordinary (folderAt tree a.directory)
  strays : ∀ name, ¬IsDated a name →
    folderAt after a.directory name = folderAt tree a.directory name
  days : ∀ log date, dateIn? a.fileStem fileTag log = some date →
    DayFiles.Ends (powers a.directory mode log) (past today date) (before (a.keptFrom today) date)
      (dayOf (folderAt tree a.directory) log) (dayOf (folderAt after a.directory) log)
  warns : ∀ log date, dateIn? a.fileStem fileTag log = some date → past today date = true →
    barrier? a.directory mode log = none → isFile (folderAt after a.directory (.text log)) = true →
      SaysFailed a log said

theorem finished_runOnFiles (hplain : Ordinary (folderAt tree a.directory)) {report : Report}
    (h : (a.runOnFiles today tree).2.2 = .finished report) :
    ∃ place mode, Finished a today tree (a.runOnFiles today tree).1 (a.runOnFiles today tree).2.1
      place mode := by
  obtain ⟨place, mode, kept, hshows, hread, hkept⟩ := of_finished h
  obtain ⟨hevolved, hsettled⟩ := settled_runOnFiles hshows hplain hread hkept
  refine ⟨place, mode, hshows, hplain,
    fun name hname => hevolved.strays name fun log hlog hmem => ?_, ?_, ?_⟩
  · exact hname (isDated_iff.mpr ⟨log, hlog, hmem⟩)
  · intro log date hdate
    rw [hsettled log date hdate]
    exact DayFiles.ends_settled (hplain.no_link _) _ _
  · intro log date hdate hover hreach hfile
    exact runOnFiles_warns hshows hplain hread hkept hdate hover hreach hfile

namespace Finished

variable (h : Finished a today tree after said place mode)
    (hdate : dateIn? a.fileStem fileTag log = some date)
include h hdate

theorem canPack {body : Body}
    (hpacks : (powers a.directory mode log).Packs (dayOf (folderAt tree a.directory) log) body) :
    CanPack a tree log body := by
  obtain ⟨-, hfile⟩ := DayFiles.reachable_of_readable hpacks.readable
  have hslash := h.ordinary.no_slash log fun hnone => by
    rw [dayOf, hnone] at hfile
    cases hfile
  exact (canPack_iff h.shows h.ordinary ⟨date, hdate⟩ hslash).mpr hpacks

theorem logs_to_come (hover : today.dayNumber ≤ date.dayNumber) :
    folderAt after a.directory (.text log) = folderAt tree a.directory (.text log) := by
  cases h.days log date hdate with
  | packed body hpast _ _ => exact absurd (past_iff.mp hpast) (Int.not_lt.mpr hover)
  | left _ hlog _ _ => exact hlog

theorem directories {name : Files.Name} (hname : name ∈ dayNames log)
    (hdirectory : isDirectory (folderAt tree a.directory name) = true) :
    folderAt after a.directory name = folderAt tree a.directory name := by
  have hnot := isFile_of_directory hdirectory
  simp only [dayNames, List.mem_cons, List.not_mem_nil, or_false] at hname
  cases h.days log date hdate with
  | packed body _ hpacks _ =>
    rcases hname with rfl | rfl | rfl
    · cases (DayFiles.reachable_of_readable hpacks.readable).2.symm.trans hnot
    · cases hdirectory.symm.trans hpacks.no_archive_directory
    · cases hdirectory.symm.trans hpacks.no_directory
  | left _ hlog harchive hdraft =>
    rcases hname with rfl | rfl | rfl
    · exact hlog
    · have hfile : isFile (dayOf (folderAt tree a.directory) log).archive = false := hnot
      rw [hfile, Bool.and_false, Bool.and_false, if_neg Bool.false_ne_true] at harchive
      exact harchive
    · rcases hdraft with hcleared | ⟨-, -, hfree⟩
      · rw [DayFiles.cleared_of_not fun hfile => by simp [dayOf, hnot] at hfile] at hcleared
        exact hcleared
      · cases hdirectory.symm.trans hfree

theorem archives (hfile : isFile (folderAt tree a.directory (.text (archiveName log))) = true) :
    (MayTake tree (a.pathOf (archiveName log)) →
      (isFile (folderAt after a.directory (.text (archiveName log))) = true ↔
        a.keptFrom today ≤ date.dayNumber)) ∧
    (a.keptFrom today ≤ date.dayNumber →
      (date.dayNumber < today.dayNumber → isFile (folderAt tree a.directory (.text log)) = false) →
      folderAt after a.directory (.text (archiveName log)) =
      folderAt tree a.directory (.text (archiveName log))) := by
  have hthere : folderAt tree a.directory (.text (archiveName log)) ≠ none := fun hnone => by
    rw [hnone] at hfile
    cases hfile
  have hslash := h.ordinary.no_slash_of_log ⟨date, hdate⟩ ⟨_, by simp [dayNames], hthere⟩
  have htake := mayTake_pathOf h.shows h.ordinary (isName_archive ⟨date, hdate⟩ hslash)
  cases h.days log date hdate with
  | packed body hpast hpacks hmade =>
    have harchive : folderAt after a.directory (.text (archiveName log)) =
      if before (a.keptFrom today) date then none else some (.file newFileMode body.pack) :=
        congrArg DayFiles.archive hmade
    rw [harchive]
    refine ⟨fun _ => ?_, fun _ hnone => ?_⟩
    · cases hbefore : before (a.keptFrom today) date with
      | true => simpa [isFile] using before_iff.mp hbefore
      | false => simpa [isFile, Node.isFile] using not_before_iff.mp hbefore
    · have hread := (DayFiles.reachable_of_readable hpacks.readable).2
      cases hread.symm.trans (hnone (past_iff.mp hpast))
  | left _ _ harchive _ =>
    have hafter : folderAt after a.directory (.text (archiveName log)) = _ := harchive
    rw [hafter]
    refine ⟨fun hremovable => ?_, fun hkept _ => ?_⟩
    · obtain ⟨hreach, hchange, -⟩ := htake.mp hremovable
      have hall : ((powers a.directory mode log).change && (powers a.directory mode log).archive &&
          isFile (dayOf (folderAt tree a.directory) log).archive) = true := by
        simp [powers, hchange, hreach, dayOf, hfile]
      rw [hall, Bool.and_true]
      cases hbefore : before (a.keptFrom today) date with
      | true => simpa [isFile] using before_iff.mp hbefore
      | false => simpa [dayOf, hfile] using not_before_iff.mp hbefore
    · rw [not_before_iff.mpr hkept]
      rfl

theorem logs {packed : Body} (hover : date.dayNumber < today.dayNumber)
    (hfile : isFile (folderAt tree a.directory (.text log)) = true)
    (hpack : CanPack a tree log packed) :
    folderAt after a.directory (.text log) = none ∧
      folderAt after a.directory (.text (archiveName log)) =
        if a.keptFrom today ≤ date.dayNumber then some (.file newFileMode packed.pack)
          else none := by
  have hslash := h.ordinary.no_slash log fun hnone => by
    rw [hnone] at hfile
    cases hfile
  have hpacks := (canPack_iff h.shows h.ordinary ⟨date, hdate⟩ hslash).mp hpack
  cases h.days log date hdate with
  | packed body _ hpacks' hmade =>
    obtain rfl : body = packed := Option.some.inj (hpacks'.readable.symm.trans hpacks.readable)
    refine ⟨congrArg DayFiles.log hmade, (congrArg DayFiles.archive hmade).trans ?_⟩
    cases hbefore : before (a.keptFrom today) date with
    | true => exact (if_neg (Int.not_le.mpr (before_iff.mp hbefore))).symm
    | false => exact (if_pos (not_before_iff.mp hbefore)).symm
  | left hnever _ _ _ => exact absurd hpacks (hnever (past_iff.mpr hover) packed)

/-- When a log could not be packed, it is still there, and the pass has said so. -/
theorem says_failed (hpast : past today date = true) {body : Body}
    (hread : (powers a.directory mode log).readable? (folderAt tree a.directory (.text log)) =
      some body)
    (hsame : folderAt after a.directory (.text log) = folderAt tree a.directory (.text log)) :
    SaysFailed a log said := by
  obtain ⟨hreach, hfile⟩ := DayFiles.reachable_of_readable hread
  refine h.warns log date hdate hpast (by simpa [powers] using hreach) ?_
  rw [hsame]
  exact hfile

theorem drafts (hfile : isFile (folderAt after a.directory (.text (partialName log))) = true) :
    ¬MayTake tree (a.pathOf (partialName log)) ∨
      date.dayNumber < today.dayNumber ∧
        folderAt after a.directory (.text log) = folderAt tree a.directory (.text log) ∧
        SaysFailed a log said := by
  cases h.days log date hdate with
  | packed body _ _ hmade =>
    have hnone : folderAt after a.directory (.text (partialName log)) = none :=
      congrArg DayFiles.draft hmade
    rw [hnone] at hfile
    cases hfile
  | left _ hlog _ hdraft =>
    rcases hdraft with hcleared | ⟨hpast, ⟨body, hread⟩, -⟩
    · refine Or.inl fun hremovable => ?_
      have hleft : isFile ((dayOf (folderAt tree a.directory) log).cleared
          (powers a.directory mode log)).draft = true :=
        hcleared ▸ hfile
      obtain ⟨hthere, hcannot⟩ := DayFiles.draft_of_cleared hleft
      have hslash := h.ordinary.no_slash_of_log ⟨date, hdate⟩ ⟨_, by simp [dayNames], hthere⟩
      obtain ⟨hreach, hchange, -⟩ :=
        (mayTake_pathOf h.shows h.ordinary (isName_partial ⟨date, hdate⟩ hslash)).mp hremovable
      exact hcannot ⟨hchange, by simp [powers, hreach]⟩
    · exact Or.inr ⟨past_iff.mp hpast, hlog, h.says_failed hdate hpast hread hlog⟩

theorem made {name : Files.Name} (hname : name ∈ dayNames log)
    (hnone : folderAt tree a.directory name = none)
    (hmade : folderAt after a.directory name ≠ none) :
    date.dayNumber < today.dayNumber ∧
      (name = .text (archiveName log) ∧ a.keptFrom today ≤ date.dayNumber ∧
        (∃ packed, CanPack a tree log packed) ∨
        name = .text (partialName log) ∧ SaysFailed a log said) := by
  simp only [dayNames, List.mem_cons, List.not_mem_nil, or_false] at hname
  cases h.days log date hdate with
  | packed body hpast hpacks hday =>
    refine ⟨past_iff.mp hpast, ?_⟩
    rcases hname with rfl | rfl | rfl
    · exact absurd (congrArg DayFiles.log hday) hmade
    · have harchive : folderAt after a.directory (.text (archiveName log)) = _ :=
        congrArg DayFiles.archive hday
      refine Or.inl ⟨rfl, not_before_iff.mp ?_, body, h.canPack hdate hpacks⟩
      by_contra hexpired
      rw [Bool.not_eq_false] at hexpired
      rw [harchive, hexpired] at hmade
      exact hmade rfl
    · exact absurd (congrArg DayFiles.draft hday) hmade
  | left _ hlog harchive hdraft =>
    rcases hname with rfl | rfl | rfl
    · exact absurd (hlog.trans hnone) hmade
    · have hafter : folderAt after a.directory (.text (archiveName log)) = _ := harchive
      have hsame : (dayOf (folderAt tree a.directory) log).archive = none := hnone
      rw [hafter, hsame] at hmade
      simp at hmade
    · rcases hdraft with hcleared | ⟨hpast, ⟨body, hread⟩, -⟩
      · have hsame : (dayOf (folderAt tree a.directory) log).draft = none := hnone
        rw [DayFiles.cleared_of_none hsame] at hcleared
        exact absurd (hcleared.trans hnone) hmade
      · exact ⟨past_iff.mp hpast, Or.inr ⟨rfl, h.says_failed hdate hpast hread hlog⟩⟩

end Finished

end

/-- The log directory after a pass that has come to its end. -/
theorem a_pass_tidies_up (a : Archiver) (today : Date) (tree : Node)
    (hplain : Ordinary (folderAt tree a.directory)) {report : Report}
    (hfinished : (a.runOnFiles today tree).2.2 = .finished report) :
    Tidied a today tree (a.runOnFiles today tree).1 (a.runOnFiles today tree).2.1 := by
  obtain ⟨place, mode, h⟩ := finished_runOnFiles hplain hfinished
  refine ⟨h.strays, fun name hdirectory => ?_, fun log date => h.logs_to_come,
    fun log date => h.archives,
    fun log date packed hdate => h.logs hdate, fun log date => h.drafts, fun name hnone hmade => ?_⟩
  · by_cases hdated : IsDated a name
    · obtain ⟨log, ⟨date, hdate⟩, hname⟩ := isDated_iff.mp hdated
      exact h.directories hdate hname hdirectory
    · exact h.strays name hdated
  · by_cases hdated : IsDated a name
    · obtain ⟨log, ⟨date, hdate⟩, hname⟩ := isDated_iff.mp hdated
      exact ⟨log, date, hdate, h.made hdate hname hnone hmade⟩
    · exact absurd ((h.strays name hdated).trans hnone) hmade

/-- A log to pack, an archive that is too old, and a file that is neither. -/
def mayLogs : Entries := [
  (.text "app.2024-05-01.log", .file 0o644 (.plain [104])),
  (.text "app.2024-04-20.log.gz", .file 0o644 (.packed [105])),
  (.text "notes", .file 0o644 (.plain []))]

theorem ordinary_mayLogs : Ordinary (Entries.get? mayLogs) := ordinary_of_entries (by decide)

/-- The log is packed, the archive goes, and the other file stays. -/
theorem logs_of_may_are_tidied_up :
    let after := folderAt (weekly.runOnFiles thirdOfMay (withLogs 0o755 mayLogs)).1 "logs"
    after (.text "app.2024-05-01.log") = none ∧
      after (.text "app.2024-05-01.log.gz") = some (.file newFileMode (.packed [104])) ∧
      isFile (after (.text "app.2024-04-20.log.gz")) = false ∧
      after (.text "notes") = some (.file 0o644 (.plain [])) := by
  have hshows := shows_withLogs 0o755 mayLogs
  have hfolder := folderAt_withLogs 0o755 mayLogs
  obtain ⟨report, hfinished⟩ :
      ∃ report, (weekly.runOnFiles thirdOfMay (withLogs 0o755 mayLogs)).2.2 = .finished report :=
    finished_of_shows hshows ordinary_mayLogs (by decide) rfl
  have htidied := a_pass_tidies_up weekly thirdOfMay (withLogs 0o755 mayLogs)
    (show Ordinary (folderAt _ "logs") from hfolder ▸ ordinary_mayLogs) hfinished
  have hpack : CanPack weekly (withLogs 0o755 mayLogs) "app.2024-05-01.log" (.plain [104]) :=
    (canPack_iff hshows ordinary_mayLogs ⟨_, date_firstOfMay⟩ (by decide)).mpr
      ⟨rfl, by decide, by decide, by decide, by decide, by decide⟩
  have htake : MayTake (withLogs 0o755 mayLogs) (weekly.pathOf "app.2024-04-20.log.gz") :=
    (mayTake_pathOf hshows ordinary_mayLogs ⟨by decide, by decide⟩).mpr
      ⟨by decide, by decide, by decide⟩
  have hold : dateIn? weekly.fileStem fileTag "app.2024-04-20.log" =
      some ⟨2024, 4, 20, by decide, by decide, by decide⟩ := by decide
  have hother : ¬IsDated weekly (.text "notes") := by
    rintro ⟨text, tag, htext, htag, hdate⟩
    cases htext
    revert tag
    decide
  have hlog := htidied.logs _ _ _ date_firstOfMay (by decide) (hfolder ▸ rfl) hpack
  have harchive := (htidied.archives _ _ hold (hfolder ▸ rfl)).1 htake
  refine ⟨hlog.1, hlog.2, ?_, (htidied.others _ hother).trans (hfolder ▸ rfl)⟩
  rw [← Bool.not_eq_true]
  exact fun hfile => absurd (harchive.mp hfile) (by decide)

/-- A log to pack and an incomplete archive. -/
def readOnlyLogs : Entries := [
  (.text "app.2024-05-01.log", .file 0o644 (.plain [120])),
  (.text "app.2024-04-30.log.gz.partial", .file 0o644 (.plain [112]))]

/-- In a directory that may not be changed a pass comes to its end and leaves the log, and it leaves
an incomplete archive of a day that has no log. -/
theorem a_log_can_be_left_behind :
    let tree := withLogs 0o555 readOnlyLogs
    let after := folderAt (weekly.runOnFiles thirdOfMay tree).1 "logs"
    Ordinary (folderAt tree "logs") ∧
      (∃ report, (weekly.runOnFiles thirdOfMay tree).2.2 = .finished report) ∧
      (dateIn? weekly.fileStem fileTag "app.2024-05-01.log" = some firstOfMay ∧
        firstOfMay.dayNumber < thirdOfMay.dayNumber ∧
        isDirectory (folderAt tree "logs" (.text "app.2024-05-01.log.gz.partial")) = false ∧
        isDirectory (folderAt tree "logs" (.text "app.2024-05-01.log.gz")) = false ∧
        isFile (after (.text "app.2024-05-01.log")) = true) ∧
      (dateIn? weekly.fileStem partialTag "app.2024-04-30.log.gz.partial").isSome = true ∧
        folderAt tree "logs" (.text "app.2024-04-30.log") = none ∧
        isFile (after (.text "app.2024-04-30.log.gz.partial")) = true := by
  intro tree after
  have hshows := shows_withLogs 0o555 readOnlyLogs
  have hfolder : folderAt tree "logs" = _ := folderAt_withLogs 0o555 readOnlyLogs
  have hordinary : Ordinary (Entries.get? readOnlyLogs) := ordinary_of_entries (by decide)
  have hfinished : ∃ report, (weekly.runOnFiles thirdOfMay tree).2.2 = .finished report :=
    finished_of_shows hshows hordinary (by decide) rfl
  have hkept : weekly.oldestKept? thirdOfMay = some (weekly.keptFrom thirdOfMay) := rfl
  obtain ⟨-, hdays⟩ := settled_runOnFiles hshows hordinary (by decide) hkept
  have hlog : isFile (after (.text "app.2024-05-01.log")) = true :=
    congrArg (isFile ·.log) (hdays _ _ date_firstOfMay)
  have hlast : dateIn? weekly.fileStem fileTag "app.2024-04-30.log" =
      some ⟨2024, 4, 30, by decide, by decide, by decide⟩ := by decide
  have hdraft : isFile (after (.text "app.2024-04-30.log.gz.partial")) = true :=
    congrArg (isFile ·.draft) (hdays _ _ hlast)
  rw [hfolder]
  exact ⟨hordinary, hfinished, ⟨date_firstOfMay, by decide, by decide, by decide, hlog⟩, by decide,
    rfl, hdraft⟩

end Chassis.Logging.Archive
