-- The names that logging gives its files are the names that the archiver looks for. The log of a
-- day is found as the log of that day and as nothing else. What a log is packed into has its name
-- and an ending, and is found with its date; in whatever way dates are written, two logs are never
-- packed into one file.
import Chassis.Proofs.Archive.Folder
import Chassis.Proofs.Archive.Ledger
import Chassis.Proofs.Bind
import Chassis.Proofs.Logging.Setup

namespace Chassis.Logging.Archive

open Calendar (Date)
open Calendar.Date (lastDigits)
open Files (IsName Node)

/-! ## What the archiver finds -/

/-- A file of the log directory is found under a tag with a date: it is listed as a file just when
it is one, and in a listing it has this tag of all that there are, with this date. -/
structure Archiver.FindsAs (a : Archiver) (tag name : String) (date : Date) : Prop where
  listed : ∀ tree entries, listOn a.directory tree = .ok entries →
    (⟨.text name, true⟩ ∈ entries ↔ Files.isFile tree (a.pathOf name) = true)
  dated : ∀ entries other found, (name, found) ∈ a.dated other entries ↔
    ⟨.text name, true⟩ ∈ entries ∧ other = tag ∧ found = date

/-- A name that leads to a file from a directory stands in the directory. -/
theorem mem_listOn {directory : String} {tree : Node} {entries : List Entry}
    (hlisting : listOn directory tree = .ok entries) {name : String} (hname : IsName name) :
    ⟨.text name, true⟩ ∈ entries ↔ Files.isFile tree (Files.Path.join directory name) = true := by
  obtain ⟨names, hlist, hentries⟩ := ok_of_bind.mp hlisting
  cases hentries
  obtain ⟨node, hlook, hnames⟩ := ok_of_bind.mp hlist
  cases node with
  | file mode body => cases hnames
  | link target => cases hnames
  | directory mode below =>
    obtain ⟨place, hopens⟩ := Files.opens_of_look hlook
    dsimp only at hnames
    split at hnames
    · cases hnames
      constructor
      · intro hmem
        obtain ⟨found, -, hentry⟩ := List.mem_map.mp hmem
        obtain ⟨rfl, hfile⟩ := Entry.mk.inj hentry
        exact hfile
      · intro hfile
        refine List.mem_map.mpr ⟨.text name, ?_, congrArg (Entry.mk _) hfile⟩
        -- Without an entry there is nothing to follow, not even a link.
        cases hget : Files.Entries.get? below (.text name) with
        | some node => exact Files.mem_of_get? hget
        | none =>
          have hnothing : ∃ fault, Files.look tree (Files.Path.join directory name) =
              .error fault := by
            rw [hopens.look_join hname (by simp [hget]), hget]
            cases Files.barrier? directory mode name with
            | some fault => exact ⟨fault, rfl⟩
            | none => exact ⟨.notFound, rfl⟩
          obtain ⟨fault, hfault⟩ := hnothing
          rw [Files.isFile, hfault] at hfile
          cases hfile
    · cases hnames

section

variable {stem tag name : String} {date : Date}

/-- A date has no slash in it, so a name has one only with its stem or its tag. -/
theorem no_slash_of_dateIn? (hdate : dateIn? stem tag name = some date) (hstem : '/' ∉ stem.toList)
    (htag : '/' ∉ tag.toList) : '/' ∉ name.toList := by
  obtain ⟨middle, hname, hread⟩ := dateIn?_eq_some.mp hdate
  have hmiddle : '/' ∉ middle := by
    intro hmem
    exact absurd (Date.isDateChar_of_read? hread '/' hmem) (by decide)
  rw [hname]
  simp [hstem, hmiddle, htag]

theorem findsAs {a : Archiver} (hslash : '/' ∉ a.fileStem.toList)
    (htag : tag = fileTag ∨ tag = archiveTag ∨ tag = partialTag)
    (hdate : dateIn? a.fileStem tag name = some date) :
    a.FindsAs tag name date := by
  have htagSlash : '/' ∉ tag.toList := by
    rcases htag with rfl | rfl | rfl <;> decide
  have hname : IsName name :=
    isName_of_dateIn? hdate htag (no_slash_of_dateIn? hdate hslash htagSlash)
  refine ⟨fun tree entries hlisting => mem_listOn hlisting hname, fun entries other found => ?_⟩
  rw [mem_dated]
  constructor
  · rintro ⟨hmem, hfound⟩
    exact ⟨hmem, dateIn?_unique hdate hfound⟩
  · rintro ⟨hmem, rfl, rfl⟩
    exact ⟨hmem, hdate⟩

end

/-! ## What logging writes -/

/-- The name of the log of a day: it has the stem, the date in ten characters and the tag, it stands
in the log directory, and it leads to a file once logging has been set up on that day. -/
structure IsLogOf (config : Config) (date : Date) (name : String) : Prop where
  spelled : name.toList = config.fileStem.toList ++ '.' :: (lastDigits 4 date.year.toNat ++
    '-' :: (lastDigits 2 date.month ++ '-' :: (lastDigits 2 date.day ++ ".log".toList)))
  path : config.fileOn date = (Archiver.ofConfig config).pathOf name
  written : ∀ logger wanted stamp later, Logger.setUp logger wanted config date stamp =
    (later, .ok ()) →
    Files.isFile later.files (config.fileOn date) = true

section

variable {stem : String} (hstem : stem ≠ "")
include hstem

theorem toList_fileName (date : Date) :
    (fileName stem date).toList = (stem ++ ".").toList ++
    (date.text.toList ++ ("." ++ fileTag).toList) := by
  have hnonempty : ¬stem.isEmpty = true := by simpa using hstem
  have hparts : fileName stem date = stem ++ "." ++ date.text ++ "." ++ fileTag := by
    unfold fileName
    rw [if_neg hnonempty]
    rfl
  rw [hparts]
  simp

theorem dateIn?_fileName {date : Date} (hfirst : 0 ≤ date.year) (hlast : date.year ≤ 9999) :
    dateIn? stem fileTag (fileName stem date) = some date :=
  dateIn?_eq_some.mpr ⟨_, toList_fileName hstem date, Date.read?_text hfirst hlast⟩

end

theorem isLogOf {config : Config} (hstem : config.fileStem ≠ "") {date : Date}
    (hfirst : 0 ≤ date.year) (hlast : date.year ≤ 9999) :
    IsLogOf config date (fileName config.fileStem date) := by
  refine ⟨?_, rfl, fun logger wanted stamp later hsetUp => isFile_of_setUp hsetUp⟩
  rw [toList_fileName hstem, Date.toList_text hfirst hlast]
  simp [fileTag]

/-! ## What a log is packed into -/

/-- The names that a log is packed under: its own with an ending, also as paths. Packing goes from
one to the next, no further than the first step that fails, and they are found under their tags with
the log's date. -/
structure Archiver.PacksBeside (a : Archiver) (log : String) (date : Date) : Prop where
  archive : archiveName log = log ++ ".gz"
  draft : partialName log = log ++ ".gz.partial"
  archive_path : Files.Path.withExtension (a.pathOf log) archiveTag = a.pathOf (archiveName log)
  draft_path : Files.Path.withExtension (a.pathOf log) partialTag = a.pathOf (partialName log)
  acts : ∀ (σ : Type) (handler : Handler σ) (state : σ),
    let steps := [.openLog log, .create (log ++ ".gz.partial"), .fill log (log ++ ".gz.partial"),
      .rename (log ++ ".gz.partial") (log ++ ".gz"), .remove log]
    ((a.compress log).history handler state).map (·.1) <+: steps ∧
      (((a.compress log).run handler state).2.2 = .oneCompressed →
        ((a.compress log).history handler state).map (·.1) = steps)
  finds_archive : a.FindsAs archiveTag (archiveName log) date
  finds_draft : a.FindsAs partialTag (partialName log) date

theorem ne_empty_of_log {stem log : String} (hlog : IsLog stem log) : log ≠ "" := by
  obtain ⟨front, -, hname⟩ := exists_front_of_log hlog
  intro hempty
  rw [hempty] at hname
  simp at hname

/-- The path of what a log is packed into is that of the log with an ending. -/
theorem withExtension_pathOf {a : Archiver} {log : String} (hlog : IsLog a.fileStem log)
    (ending : String) :
    Files.Path.withExtension (a.pathOf log) (fileTag ++ ending) = a.pathOf (log ++ ending) := by
  obtain ⟨front, hfront, hname⟩ := exists_front_of_log hlog
  obtain ⟨before, hpath⟩ := Files.join_back a.directory log
  have htagged : (a.pathOf log).toList = (before ++ front) ++ '.' :: fileTag.toList := by
    rw [Archiver.pathOf, ← hpath, hname, List.append_assoc]
  rw [withExtension_tagged (by simp [hfront]) htagged]
  exact (Files.join_append a.directory (ne_empty_of_log hlog) ending).symm

/-- Packing goes on as far as its steps succeed, and to its end if the log is reported as packed. -/
theorem acts_of_packing (a : Archiver) (log : String) {σ : Type} (handler : Handler σ) (state : σ) :
    ((a.compress log).history handler state).map (·.1) <+: Archiver.packing log ∧
      (((a.compress log).run handler state).2.2 = .oneCompressed →
        ((a.compress log).history handler state).map (·.1) = Archiver.packing log) := by
  obtain ⟨-, hall⟩ | ⟨first, what, rest, fault, hacts, hwent, hsome⟩ :=
    run_compress handler a state log
  · have hmap : ((a.compress log).history handler state).map (·.1) = Archiver.packing log := by
      rw [hall]
      simp [Function.comp_def]
    exact ⟨hmap ▸ List.prefix_rfl, fun _ => hmap⟩
  · refine ⟨⟨rest, ?_⟩, fun hpacked => ?_⟩
    · rw [hsome, hacts]
      simp [Function.comp_def]
    · rw [hwent] at hpacked
      cases hpacked

theorem packsBeside {a : Archiver} (hslash : '/' ∉ a.fileStem.toList) {log : String} {date : Date}
    (hdate : dateIn? a.fileStem fileTag log = some date) : a.PacksBeside log date := by
  have hlog : IsLog a.fileStem log := ⟨date, hdate⟩
  have harchive := archiveName_eq hlog
  have hdraft := partialName_eq hlog
  have htag : partialTag = fileTag ++ ".gz.partial" := by decide
  refine ⟨harchive, hdraft, ?_, ?_, fun σ handler state => ?_, ?_, ?_⟩
  · rw [harchive, archiveTag, withExtension_pathOf hlog]
  · rw [hdraft, htag, withExtension_pathOf hlog]
  · have hsteps : Archiver.packing log = [.openLog log, .create (log ++ ".gz.partial"),
        .fill log (log ++ ".gz.partial"), .rename (log ++ ".gz.partial") (log ++ ".gz"),
            .remove log] := by
      rw [Archiver.packing, harchive, hdraft]
    dsimp only
    rw [← hsteps]
    exact acts_of_packing a log handler state
  · exact findsAs hslash (.inr (.inl rfl)) (dateIn?_archiveTag.mpr ⟨log, rfl, hdate⟩)
  · exact findsAs hslash (.inr (.inr rfl)) (dateIn?_partialTag.mpr ⟨log, rfl, hdate⟩)

/-! ## The same names on both sides -/

/-- With any stem that has no slash, and with points in it or not, logging and the archiver go by
the same names. The log of a day is found as the log of that day and as nothing else. Whatever is
found as a log, in whatever way its date is written, is packed under its own name with an ending,
which is found with its date and as nothing else; and no two logs are packed under one name. -/
theorem logging_and_the_archiver_go_by_the_same_names (config : Config)
    (hstem : config.fileStem ≠ "") (hslash : '/' ∉ config.fileStem.toList) :
    (∀ date : Date, 0 ≤ date.year → date.year ≤ 9999 →
      IsLogOf config date (fileName config.fileStem date) ∧
        (Archiver.ofConfig config).FindsAs fileTag (fileName config.fileStem date) date) ∧
    ∀ entries log date, (log, date) ∈ (Archiver.ofConfig config).dated fileTag entries →
      (Archiver.ofConfig config).PacksBeside log date ∧
        ∀ others other day, (other, day) ∈ (Archiver.ofConfig config).dated fileTag others →
          other ≠ log →
          archiveName other ≠ archiveName log ∧ partialName other ≠ partialName log ∧
            archiveName other ≠ partialName log := by
  refine ⟨fun date hfirst hlast => ?_, fun entries log date hfound => ?_⟩
  · exact ⟨isLogOf hstem hfirst hlast,
      findsAs hslash (.inl rfl) (dateIn?_fileName hstem hfirst hlast)⟩
  · have hdate := (mem_dated.mp hfound).2
    refine ⟨packsBeside hslash hdate, fun others other day hother hne => ?_⟩
    have hlog : IsLog config.fileStem log := ⟨date, hdate⟩
    have hislog : IsLog config.fileStem other := ⟨day, (mem_dated.mp hother).2⟩
    refine ⟨fun heq => ?_, fun heq => ?_, archive_ne_partial hislog hlog⟩
    · exact hne ((archiveName_inj hislog hlog).mp heq)
    · exact hne ((partialName_inj hislog hlog).mp heq)

/-- A set-up with points in its stem and in its directory. -/
def dotted : Config := { Config.standard with directory := "logs.d", fileStem := "my.app" }

/-- The last day of a February that has one more. -/
def leapDay : Date := (Date.ofParts? 2024 2 29).get rfl

/-- Two logs of that day; the date of the second one is written in another way. -/
def leapDayLogs : List Entry :=
  [⟨.text "my.app.2024-02-29.log", true⟩, ⟨.text "my.app.+2024- 2-29.log", true⟩]

/-- The log of a leap day is found, and so is another one with that date; they are packed apart. -/
theorem a_leap_day_may_have_two_logs :
    dotted.fileStem ≠ "" ∧ '/' ∉ dotted.fileStem.toList ∧ 0 ≤ leapDay.year ∧ leapDay.year ≤ 9999 ∧
      IsLogOf dotted leapDay "my.app.2024-02-29.log" ∧
      (Archiver.ofConfig dotted).FindsAs fileTag "my.app.2024-02-29.log" leapDay ∧
      ("my.app.2024-02-29.log", leapDay) ∈ (Archiver.ofConfig dotted).dated fileTag leapDayLogs ∧
      ("my.app.+2024- 2-29.log", leapDay) ∈ (Archiver.ofConfig dotted).dated fileTag leapDayLogs ∧
      (Archiver.ofConfig dotted).PacksBeside "my.app.+2024- 2-29.log" leapDay ∧
      archiveName "my.app.2024-02-29.log" ≠ archiveName "my.app.+2024- 2-29.log" := by
  have hstem : dotted.fileStem ≠ "" := by decide
  have hslash : '/' ∉ dotted.fileStem.toList := by decide
  have hfirst : 0 ≤ leapDay.year := by decide
  have hlast : leapDay.year ≤ 9999 := by decide
  have hname : fileName dotted.fileStem leapDay = "my.app.2024-02-29.log" := by decide
  have hother : ("my.app.+2024- 2-29.log", leapDay) ∈ (Archiver.ofConfig dotted).dated fileTag
      leapDayLogs :=
    mem_dated.mpr ⟨by decide, by decide⟩
  obtain ⟨hlogs, hpacked⟩ := logging_and_the_archiver_go_by_the_same_names dotted hstem hslash
  obtain ⟨hislog, hfinds⟩ := hlogs leapDay hfirst hlast
  rw [hname] at hislog hfinds
  have hlog := (hfinds.dated leapDayLogs fileTag leapDay).mpr ⟨by decide, rfl, rfl⟩
  obtain ⟨hbeside, happart⟩ := hpacked leapDayLogs _ leapDay hother
  exact ⟨hstem, hslash, hfirst, hlast, hislog, hfinds, hlog, hother, hbeside,
    (happart leapDayLogs _ leapDay hlog (by decide)).1⟩

end Chassis.Logging.Archive
