-- Which logs a pass packs, told by what could be done with their files before it. A log that can be
-- read is packed when its archive and its incomplete archive can take a file; else it stays as it
-- is, and so does its archive.
import Chassis.Proofs.Archive.Convergence

namespace Chassis.Files

/-- A path can take a file: it leads to a name in a directory that may be changed, and no directory
has that name. -/
def MayTake (tree : Node) (path : String) : Prop :=
  ∃ spot, spotOf tree false path = .ok spot ∧ mayChange tree spot.above = true ∧
    (spot.node.map Node.isDirectory).getD false = false

end Chassis.Files

namespace Chassis.Logging.Archive

open Calendar (Date)
open Files (Body Entries IsName MayTake Node Opens barrier? mayRead newFileMode)

/-- A log can be packed: what it holds can be read, and both archives can take a file. -/
structure CanPack (a : Archiver) (tree : Node) (log : String) (body : Body) : Prop where
  read : Files.read tree (a.pathOf log) = .ok body
  draft : MayTake tree (a.pathOf (partialName log))
  archive : MayTake tree (a.pathOf (archiveName log))

/-! ## Days whose log is packed -/

/-- With the files of a day the log can be packed. -/
structure Powers.Packs (p : Powers) (f : DayFiles) (body : Body) : Prop where
  readable : p.readable? f.log = some body
  change : p.change = true
  draft : p.draft = true
  no_directory : isDirectory f.draft = false
  archive : p.archive = true
  no_archive_directory : isDirectory f.archive = false

namespace DayFiles

variable {p : Powers} {f : DayFiles} {body : Body}

theorem packed_cleared (h : p.Packs f body) (hlink : ∀ target, f.draft ≠ some (.link target)) :
    (f.cleared p).packed p = ⟨none, some (.file newFileMode body.pack), none⟩ := by
  have hfree : f.cleared p = { f with draft := none } := by
    obtain ⟨log, archive, draft⟩ := f
    match draft with
    | none => exact cleared_of_none rfl
    | some (.file mode old) => exact cleared_of_file h.change h.draft rfl
    | some (.directory mode below) =>
      exact absurd h.no_directory (by simp [isDirectory, Node.isDirectory])
    | some (.link target) => exact absurd rfl (hlink target)
  rw [hfree, packed_of (f := { f with draft := none }) h.readable
    (draftMode?_none h.change h.draft)]
  simp [h.change, h.archive, h.no_archive_directory]

theorem archive_cleared (p : Powers) (f : DayFiles) : (f.cleared p).archive = f.archive ∧
    (f.cleared p).log = f.log := by
  unfold cleared
  split <;> exact ⟨rfl, rfl⟩

/-- What clearing leaves of an incomplete archive that can be written was no directory. -/
theorem no_directory_of_draftMode {mode : Nat} (h : p.draftMode? (f.cleared p).draft = some mode) :
    isDirectory f.draft = false := by
  obtain ⟨log, archive, draft⟩ := f
  match draft with
  | none => rfl
  | some (.file _ _) => rfl
  | some (.link _) => rfl
  | some (.directory mode below) => simp [cleared, isFile, Node.isFile, Powers.draftMode?] at h

/-- A log that cannot be packed stays, and so does its archive. What is left of its incomplete
archive could not be removed before, or came of trying to pack the log. -/
theorem packed_cleared_of_not (h : ∀ body, ¬p.Packs f body) :
    ((f.cleared p).packed p).log = f.log ∧ ((f.cleared p).packed p).archive = f.archive ∧
      (((f.cleared p).packed p).draft = (f.cleared p).draft ∨
        (∃ body, p.readable? f.log = some body) ∧ isDirectory f.draft = false) := by
  obtain ⟨harchive, hlog⟩ := archive_cleared p f
  cases hread : p.readable? (f.cleared p).log with
  | none =>
    have hsame : (f.cleared p).packed p = f.cleared p := by simp [packed, hread]
    rw [hsame]
    exact ⟨hlog, harchive, Or.inl rfl⟩
  | some body =>
    cases hmode : p.draftMode? (f.cleared p).draft with
    | none =>
      have hsame : (f.cleared p).packed p = f.cleared p := by simp [packed, hmode]
      rw [hsame]
      exact ⟨hlog, harchive, Or.inl rfl⟩
    | some mode =>
      have hfree := no_directory_of_draftMode hmode
      rw [packed_of hread hmode]
      rw [hlog] at hread
      split
      · rename_i hall
        simp only [Bool.and_eq_true, Bool.not_eq_true'] at hall
        obtain ⟨⟨hchange, hreach⟩, hdirectory⟩ := hall
        rw [harchive] at hdirectory
        exact absurd ⟨hread, hchange, reach_of_draftMode hmode, hfree, hreach, hdirectory⟩ (h body)
      · exact ⟨hlog, harchive, Or.inr ⟨⟨body, hread⟩, hfree⟩⟩

/-- A day that is over and whose log can be packed. -/
theorem settled_of_packs (h : p.Packs f body) (hlink : ∀ target, f.draft ≠ some (.link target))
    (expired : Bool) :
    f.settled p true expired =
    ⟨none, if expired then none else some (.file newFileMode body.pack), none⟩ := by
  have hpacked := packed_cleared h hlink
  cases expired with
  | false => exact hpacked
  | true =>
    change ((f.cleared p).packed p).pruned p = _
    rw [hpacked, pruned_eq h.change h.archive (Or.inl rfl)]
    rfl

/-- A day whose log is not packed. -/
theorem settled_of_not {rotated : Bool} (h : rotated = true → ∀ body, ¬p.Packs f body)
    (expired : Bool) :
    (f.settled p rotated expired).log = f.log ∧
      (f.settled p rotated expired).archive =
        (if expired && (p.change && p.archive && isFile f.archive) then none else f.archive) ∧
      ((f.settled p rotated expired).draft = (f.cleared p).draft ∨
        rotated = true ∧ (∃ body, p.readable? f.log = some body) ∧
        isDirectory f.draft = false) := by
  have hkept : (f.settled p rotated false).log = f.log ∧
      (f.settled p rotated false).archive = f.archive ∧
      ((f.settled p rotated false).draft = (f.cleared p).draft ∨
        rotated = true ∧ (∃ body, p.readable? f.log = some body) ∧
            isDirectory f.draft = false) := by
    cases rotated with
    | false =>
      obtain ⟨harchive, hlog⟩ := archive_cleared p f
      exact ⟨hlog, harchive, Or.inl rfl⟩
    | true =>
      obtain ⟨hlog, harchive, hdraft⟩ := packed_cleared_of_not (h rfl)
      exact ⟨hlog, harchive, hdraft.imp_right fun hread => ⟨rfl, hread⟩⟩
  cases expired with
  | false => exact hkept
  | true =>
    have hpruned : f.settled p rotated true = (f.settled p rotated false).pruned p := rfl
    rw [hpruned, ← hkept.2.1, ← hkept.1]
    unfold pruned
    split
    · rename_i hgone
      exact ⟨rfl, by rw [Bool.true_and, if_pos hgone], hkept.1 ▸ hkept.2.2⟩
    · rename_i hstays
      exact ⟨rfl, by rw [Bool.true_and, if_neg hstays], hkept.1 ▸ hkept.2.2⟩

/-- How a day ends in a pass: its log is packed, or stays. -/
inductive Ends (p : Powers) (rotated expired : Bool) (f g : DayFiles) : Prop
  | packed (body : Body) : rotated = true → p.Packs f body →
      g = ⟨none, if expired then none else some (.file newFileMode body.pack), none⟩ →
        Ends p rotated expired f g
  | left : (rotated = true → ∀ body, ¬p.Packs f body) → g.log = f.log →
      g.archive = (if expired && (p.change && p.archive && isFile f.archive) then none
        else f.archive) →
      (g.draft = (f.cleared p).draft ∨
        rotated = true ∧ (∃ body, p.readable? f.log = some body) ∧ isDirectory f.draft = false) →
      Ends p rotated expired f g

theorem ends_settled (hlink : ∀ target, f.draft ≠ some (.link target)) (rotated expired : Bool) :
    Ends p rotated expired f (f.settled p rotated expired) := by
  by_cases hpacks : rotated = true ∧ ∃ body, p.Packs f body
  · obtain ⟨rfl, body, hpacks⟩ := hpacks
    exact .packed body rfl hpacks (settled_of_packs hpacks hlink expired)
  · have hnever : rotated = true → ∀ body, ¬p.Packs f body :=
      fun hrotated body h => hpacks ⟨hrotated, body, h⟩
    obtain ⟨hlog, harchive, hdraft⟩ := settled_of_not hnever expired
    exact .left hnever hlog harchive hdraft

end DayFiles

/-! ## What can be done with files of the log directory -/

section

variable {a : Archiver} {tree : Node} {place : List Files.Name} {mode : Nat} {folder : Folder}
  {log : String}
  (hshows : Shows a.directory place mode tree folder) (hplain : Ordinary folder)
include hshows hplain

theorem mayTake_pathOf {name : String} (hname : IsName name) : MayTake tree (a.pathOf name) ↔
    barrier? a.directory mode name = none ∧ mayChange mode = true ∧
    isDirectory (folder (.text name)) = false := by
  obtain ⟨entries, hopens, rfl⟩ := hshows
  unfold MayTake Archiver.pathOf
  rw [spotOf_join hopens hplain hname]
  cases barrier? a.directory mode name with
  | some fault => simp
  | none => simp [mayChange_place hopens, isDirectory]

theorem read_pathOf {body : Body} (hlog : IsName log) : Files.read tree (a.pathOf log) = .ok body ↔
    (powers a.directory mode log).readable? (folder (.text log)) = some body := by
  obtain ⟨entries, hopens, rfl⟩ := hshows
  unfold Archiver.pathOf
  rw [read_join hopens hplain hlog, readIn_eq_ok]

theorem canPack_iff (hlog : IsLog a.fileStem log) (hslash : '/' ∉ log.toList) {body : Body} :
    CanPack a tree log body ↔ (powers a.directory mode log).Packs (dayOf folder log) body := by
  have hread : Files.read tree (a.pathOf log) = .ok body ↔
    _ := read_pathOf hshows hplain (isName_log hlog hslash)
  have hdraft := mayTake_pathOf hshows hplain (isName_partial hlog hslash)
  have harchive := mayTake_pathOf hshows hplain (isName_archive hlog hslash)
  constructor
  · intro h
    obtain ⟨hreach, hchange, hfree⟩ := hdraft.mp h.draft
    obtain ⟨hreach', -, hfree'⟩ := harchive.mp h.archive
    exact ⟨hread.mp h.read, hchange, by simp [powers, hreach], hfree,
      by simp [powers, hreach'], hfree'⟩
  · intro h
    have hreach := h.draft
    have hreach' := h.archive
    simp only [powers, Option.isNone_iff_eq_none] at hreach hreach'
    exact ⟨hread.mpr h.readable, hdraft.mpr ⟨hreach, h.change, h.no_directory⟩,
      harchive.mpr ⟨hreach', h.change, h.no_archive_directory⟩⟩

end

/-! ## Passes that come to their end -/

section

variable {a : Archiver} {today : Date} {tree : Node}

/-- A pass comes to its end only where the directory can be listed and the calendar reaches back far
enough. -/
theorem of_finished {report : Report} (h : (a.runOnFiles today tree).2.2 = .finished report) :
    ∃ place mode kept, Shows a.directory place mode tree (folderAt tree a.directory) ∧
      mayRead mode = true ∧
      a.oldestKept? today = some kept := by
  have hlisted (fault : Files.Fault) : (onFiles a.directory).list tree ≠ .error fault := by
    intro hunlisted
    unfold Archiver.runOnFiles Archiver.runOn at h
    split at h
    · cases h
    · have herror := (always_pass_unlisted hunlisted a today ‹_›).goal_run.2.2
      split at h
      · rename_i hrun
        rw [hrun] at herror
        cases herror
      · cases h
  cases hkept : a.oldestKept? today with
  | none =>
    unfold Archiver.runOnFiles Archiver.runOn at h
    rw [hkept] at h
    cases h
  | some kept =>
    rcases shows_or_unlisted tree a.directory with ⟨place, mode, hshows⟩ | ⟨⟨fault, hunlisted⟩, -⟩
    · cases hread : mayRead mode with
      | false => exact absurd (list_denied hshows hread) (hlisted _)
      | true => exact ⟨place, mode, kept, hshows, hread, rfl⟩
    · exact absurd hunlisted (hlisted fault)

/-- And there it does. -/
theorem finished_of_shows {place : List Files.Name} {mode : Nat} {folder : Folder}
    (hshows : Shows a.directory place mode tree folder) (hplain : Ordinary folder)
    (hread : mayRead mode = true) {kept : Int} (hkept : a.oldestKept? today = some kept) :
    ∃ report, (a.runOnFiles today tree).2.2 = .finished report := by
  have hat : At a.directory place mode True folder (tree, []) := ⟨hshows, hplain, fun _ => rfl⟩
  have halways : (a.pass today kept).run.Always (troubled a.directory) _ _ (tree, []) :=
    always_pass hat hread
  obtain ⟨report, hreport⟩ := halways.goal_run.2.1
  have hend : (a.runOn today (troubled a.directory) (tree, [])).2.2 = .finished report := by
    unfold Archiver.runOn
    rw [hkept]
    dsimp only
    split
    · rename_i hrun
      rw [hrun] at hreport
      cases hreport
      rfl
    · rename_i hrun
      rw [hrun] at hreport
      cases hreport
  rw [runOn_troubled_nil] at hend
  exact ⟨report, hend⟩

end

/-! ## Log directories with given entries -/

/-- A tree with some entries in its log directory. -/
def withLogs (mode : Nat) (entries : Entries) : Node :=
  .directory 0o755 [(.text "logs", .directory mode entries)]

theorem opens_withLogs (mode : Nat) (entries : Entries) :
    Opens (withLogs mode entries) "logs" [.text "logs"] mode entries :=
  ⟨by decide,
    ⟨[.name (.text "logs")], by decide, by decide, .down rfl (by decide) (by decide) rfl .arrived⟩,
    rfl⟩

theorem shows_withLogs (mode : Nat) (entries : Entries) :
    Shows "logs" [.text "logs"] mode (withLogs mode entries) (Entries.get? entries) :=
  ⟨entries, opens_withLogs mode entries, rfl⟩

theorem folderAt_withLogs (mode : Nat) (entries : Entries) :
    folderAt (withLogs mode entries) "logs" = Entries.get? entries := by
  rw [folderAt, (opens_withLogs mode entries).entriesAt_eq]

/-- An archiver that keeps archives for a week. -/
def weekly : Archiver := ⟨"logs", "app", 7⟩

/-- The day of a log. -/
def firstOfMay : Date := ⟨2024, 5, 1, by decide, by decide, by decide⟩

/-- The day of a pass, when that day is over and its archive is kept. -/
def thirdOfMay : Date := ⟨2024, 5, 3, by decide, by decide, by decide⟩

theorem date_firstOfMay : dateIn? weekly.fileStem fileTag "app.2024-05-01.log" = some firstOfMay :=
  by decide

/-- An entry as a directory without links can have it. -/
def isOrdinaryEntry (entry : Files.Name × Node) : Bool :=
  (entry.2.isFile || entry.2.isDirectory) &&
    (entry.1.text?.all fun name => !name.toList.contains '/')

theorem ordinary_of_entries {entries : Entries} (h : entries.all isOrdinaryEntry = true) :
    Ordinary (Entries.get? entries) := by
  have hentry {name : Files.Name} {node : Node} (hget : Entries.get? entries name = some node) :
      isOrdinaryEntry (name, node) = true := by
    obtain ⟨⟨found, other⟩, hfind, rfl⟩ := Option.map_eq_some_iff.mp hget
    have hname : found = name := by simpa using List.find?_some hfind
    subst hname
    exact List.all_eq_true.mp h _ (List.mem_of_find?_eq_some hfind)
  refine ⟨fun name target hlink => ?_, fun name hname => ?_⟩
  · have hordinary := hentry hlink
    simp [isOrdinaryEntry, Node.isFile, Node.isDirectory] at hordinary
  · obtain ⟨node, hnode⟩ := Option.ne_none_iff_exists'.mp hname
    have hordinary := hentry hnode
    simp only [isOrdinaryEntry, Text.Native.text?, Option.all_some, Bool.and_eq_true,
      Bool.not_eq_true'] at hordinary
    simpa using hordinary.2

end Chassis.Logging.Archive
