-- The account that a pass gives. Whatever goes wrong with single files, every file that the pass
-- finds is dealt with once; and the report counts the logs that are packed, the archives that are
-- removed, and the files that are left.
import Mathlib.Data.List.Count
import Chassis.Proofs.Archive.Disposal
import Chassis.Proofs.Archive.Retention

namespace Chassis.Logging.Archive

open Calendar (Date)
open Files (HasDistinctNames Node barrier? mayRead)

/-! ## Files that a pass is about -/

namespace Archiver

variable (a : Archiver) (today : Date) (tree : Node)

/-- The archives in a log directory that were left incomplete. -/
def drafts : List String := a.found partialTag (fun _ => true) tree

/-- The logs of days that are over. -/
def rotatedLogs : List String := a.found fileTag (past today) tree

/-- The archives that are no longer kept. -/
def expiredArchives : List String := a.found archiveTag (before (a.keptFrom today)) tree

end Archiver

/-- An archive that was left incomplete could not be removed. -/
def isStuck (stem : String) : Act × Except Files.Fault Unit → Bool
  | (.remove name, .error _) => (dateIn? stem partialTag name).isSome
  | _ => false

/-- The removal of an archive. -/
def isPruning (stem : String) : Act → Bool
  | .remove name => (dateIn? stem archiveTag name).isSome
  | _ => false

/-- The account of a pass: from the files before and after it, from its acts, and from what it has
said. -/
structure Accounted (a : Archiver) (today : Date) (tree after : Node) (history : History)
    (said : List Event) (report : Report) : Prop where
  /-- The report and what is said are what the acts give; in the end the report is said, if there is
  any. -/
  tallied : ∃ body, said = body ++ report.summary ∧ Tallied a.fileStem history body report
  /-- A log of a day that is over is packed, or it is left. -/
  logs : report.compressed + (a.rotatedLogs today after).length = (a.rotatedLogs today tree).length
  /-- An archive that is to be removed is removed, or it is left. -/
  archives : report.pruned + (a.expiredArchives today after).length =
    (history.map (·.1)).countP (isPruning a.fileStem)
  /-- What is left is counted, and what could not be cleared away at first. -/
  failed : report.failed =
    history.countP (isStuck a.fileStem) + (a.rotatedLogs today after).length +
      (a.expiredArchives today after).length
  /-- The logs that are left are what they were. -/
  kept : ∀ log ∈ a.rotatedLogs today after, log ∈ a.rotatedLogs today tree ∧
    folderAt after a.directory (.text log) = folderAt tree a.directory (.text log)
  /-- No file is passed over, and none is dealt with twice. -/
  drafts_once : ∀ log, IsLog a.fileStem log →
    attempts (.remove (partialName log)) history = if partialName log ∈ a.drafts tree then 1 else 0
  logs_once : ∀ log, IsLog a.fileStem log →
    attempts (.openLog log) history = if log ∈ a.rotatedLogs today tree then 1 else 0
  archives_once : ∀ log date, dateIn? a.fileStem fileTag log = some date →
    attempts (.remove (archiveName log)) history =
      if before (a.keptFrom today) date = true ∧
        (archiveName log ∈ a.expiredArchives today tree ∨ (puttingInPlace log, .ok ()) ∈ history)
          then 1 else 0

/-! ## What the sweeps leave -/

section

variable {a : Archiver} {place : List Files.Name} {mode : Nat} {folder : Folder}
  {state later : Node × Plan}
  {wanted : Date → Bool} {said : List Event} {report : Report}
  (h : Hosts a.directory place mode folder state.1) (hread : mayRead mode = true)
include h hread

theorem leaves_partials
    (hrun : (a.sweep partialTag wanted a.removePartial).run.run (troubled a.directory) state =
      (later, said, .ok report)) :
    ∃ folder', Leaves a place mode .none itself (a.found partialTag wanted state.1) folder folder'
      later report := by
  refine sweep_disposes (Or.inr (Or.inr rfl)) (fun name date hdate hslash => ?_) (by simp [itself])
    h hread hrun
  obtain ⟨log, rfl, hlog⟩ := dateIn?_partialTag.mp hdate
  exact disposes_removePartial
    (Files.isName_of_last hslash (last_of_partial ⟨date, hlog⟩) (by decide))

theorem leaves_logs
    (hrun : (a.sweep fileTag wanted a.compress).run.run (troubled a.directory) state =
      (later, said, .ok report)) :
    ∃ folder', Leaves a place mode .oneCompressed dayNames (a.found fileTag wanted state.1) folder
      folder' later
      report := by
  refine sweep_disposes (Or.inl rfl)
    (fun name date hdate hslash => disposes_compress ⟨date, hdate⟩ hslash) ?_ h hread hrun
  intro name date other date' hdate hdate' hne
  exact dayNames_disjoint ⟨date, hdate⟩ ⟨date', hdate'⟩ hne _ (by simp [dayNames])

theorem leaves_archives
    (hrun : (a.sweep archiveTag wanted a.prune).run.run (troubled a.directory) state =
      (later, said, .ok report)) :
    ∃ folder', Leaves a place mode .onePruned itself (a.found archiveTag wanted state.1) folder
      folder' later report := by
  refine sweep_disposes (Or.inr (Or.inl rfl)) (fun name date hdate hslash => ?_) (by simp [itself])
    h hread hrun
  obtain ⟨log, rfl, hlog⟩ := dateIn?_archiveTag.mp hdate
  exact disposes_prune (Files.isName_of_last hslash (last_of_archive ⟨date, hlog⟩) (by decide))

/-- What a sweep would find after it are the files that it has left. -/
theorem found_left {tag : String} (htag : tag = fileTag ∨ tag = archiveTag ∨ tag = partialTag)
    {good : Report}
    {scope : String → List Files.Name} {folder' : Folder}
    (hleaves : Leaves a place mode good scope (a.found tag wanted state.1) folder folder'
      later report)
    (hscope : ∀ name date other date', dateIn? a.fileStem tag name = some date →
      dateIn? a.fileStem tag other = some date' → other ≠ name → .text other ∉ scope name) :
    (a.found tag wanted later.1).Perm ((a.found tag wanted state.1).filter (stands folder')) := by
  refine (List.perm_ext_iff_of_nodup (hleaves.hosts.nodup_found hread)
    ((h.nodup_found hread).filter _)).mpr fun name => ?_
  rw [List.mem_filter, hleaves.hosts.mem_found htag hread]
  constructor
  · rintro ⟨date, hdate, hwanted, hreach, hfile⟩
    refine ⟨(h.mem_found htag hread).mpr ⟨date, hdate, hwanted, hreach, ?_⟩, stands_of_isFile hfile⟩
    by_cases hmem : name ∈ a.found tag wanted state.1
    · obtain ⟨-, -, -, -, hbefore⟩ := (h.mem_found htag hread).mp hmem
      exact hbefore
    · rw [← hleaves.frame (.text name) fun other hother => ?_]
      · exact hfile
      · obtain ⟨date', hdate', -⟩ := (h.mem_found htag hread).mp hother
        exact hscope other date' name date hdate' hdate fun heq => hmem (heq ▸ hother)
  · rintro ⟨hmem, hstands⟩
    obtain ⟨date, hdate, hwanted, hreach, hfile⟩ := (h.mem_found htag hread).mp hmem
    refine ⟨date, hdate, hwanted, hreach, ?_⟩
    rcases hleaves.kept name hmem with hgone | hsame
    · simp [stands, hgone] at hstands
    · rw [hsame]
      exact hfile

end

/-- The report counts the files that a sweep has left, and the others. -/
theorem Leaves.counts {a : Archiver} {place : List Files.Name} {mode : Nat} {good : Report}
    {scope : String → List Files.Name} {names left : List String} {folder folder' : Folder}
    {later : Node × Plan} {report : Report}
    (h : Leaves a place mode good scope names folder folder' later report)
    (hleft : left.Perm (names.filter (stands folder'))) :
    ∃ gone, gone + left.length = names.length ∧
      report = .times gone good + .times left.length .oneFailed := by
  have hlength : left.length = names.countP (stands folder') := by
    rw [hleft.length_eq, List.countP_eq_length_filter]
  refine ⟨names.countP fun name => !stands folder' name, ?_, hlength ▸ h.report⟩
  simpa [hlength, Nat.add_comm]
    using (List.length_eq_countP_add_countP (stands folder') (l := names)).symm

/-! ## The course of a pass -/

/-- What the three sweeps of a pass leave, one after another, and what is done in each of them. -/
structure Course (a : Archiver) (today : Date) (place : List Files.Name) (mode : Nat)
    (folder folder₁ folder₂ folder₃ : Folder) (state first second later : Node × Plan)
    (partials logs archives : Report) (clearing packing pruning : History) : Prop where
  hosts : Hosts a.directory place mode folder state.1
  read : mayRead mode = true
  partials : Leaves a place mode .none itself (a.drafts state.1) folder folder₁ first partials
  logs : Leaves a place mode .oneCompressed dayNames (a.rotatedLogs today first.1) folder₁
    folder₂ second logs
  archives : Leaves a place mode .onePruned itself (a.expiredArchives today second.1) folder₂
    folder₃ later archives
  clears : clearing.map (·.1) = (a.drafts state.1).map .remove
  packs : ∀ what ∈ packing.map (·.1), ∃ log, IsLog a.fileStem log ∧ what ∈ Archiver.packing log
  opens : ∀ log, attempts (.openLog log) packing = (a.rotatedLogs today first.1).count log
  places : ∀ log, IsLog a.fileStem log → Archived a.directory mode log folder₁ folder₂ packing
  prunes : pruning.map (·.1) = (a.expiredArchives today second.1).map .remove

namespace Course

variable {a : Archiver} {today : Date} {place : List Files.Name} {mode : Nat}
  {folder folder₁ folder₂ folder₃ : Folder}
  {state first second later : Node × Plan} {partials logs archives : Report}
  {clearing packing pruning : History}
  (c : Course a today place mode folder folder₁ folder₂ folder₃ state first second later partials
    logs archives clearing
    packing pruning)
include c

/-- Only incomplete archives go at first. -/
theorem first_eq {name : String} (hname : dateIn? a.fileStem partialTag name = none) :
    folder₁ (.text name) = folder (.text name) := by
  refine c.partials.frame _ fun draft hdraft hmem => ?_
  obtain ⟨date, hdate, -⟩ := (c.hosts.mem_found (Or.inr (Or.inr rfl)) c.read).mp hdraft
  obtain rfl : name = draft := by simpa [itself] using hmem
  rw [hname] at hdate
  cases hdate

/-- Only archives go in the end. -/
theorem later_eq {log : String} (hlog : IsLog a.fileStem log) :
    folder₃ (.text log) = folder₂ (.text log) := by
  refine c.archives.frame _ fun archive harchive hmem => ?_
  obtain ⟨date, hdate, -⟩ := (c.logs.hosts.mem_found (Or.inr (Or.inl rfl)) c.read).mp harchive
  obtain rfl : log = archive := by simpa [itself] using hmem
  rw [dateIn?_archiveTag_log hlog] at hdate
  cases hdate

theorem rotated_first : (a.rotatedLogs today first.1).Perm (a.rotatedLogs today state.1) :=
  c.hosts.found_perm (Or.inl rfl) c.read c.partials.hosts fun _ date hdate =>
    c.first_eq (dateIn?_partialTag_log ⟨date, hdate⟩)

theorem rotated_later :
    (a.rotatedLogs today later.1).Perm ((a.rotatedLogs today first.1).filter (stands folder₂)) := by
  refine (c.logs.hosts.found_perm (Or.inl rfl) c.read c.archives.hosts fun _ date hdate =>
    c.later_eq ⟨date, hdate⟩).trans ?_
  refine found_left c.partials.hosts c.read (Or.inl rfl) c.logs
    fun name date other date' hdate hdate' hne => ?_
  exact dayNames_disjoint ⟨date, hdate⟩ ⟨date', hdate'⟩ hne _ (by simp [dayNames])

theorem expired_later :
    (a.expiredArchives today later.1).Perm
      ((a.expiredArchives today second.1).filter (stands folder₃)) :=
  found_left c.logs.hosts c.read (Or.inr (Or.inl rfl)) c.archives (by simp [itself])

/-- An archive that is not kept is there after the logs are packed if it was there before, or was
put in its place. -/
theorem mem_expired_second {log : String} {date : Date}
    (hdate : dateIn? a.fileStem fileTag log = some date) :
    archiveName log ∈ a.expiredArchives today second.1 ↔ before (a.keptFrom today) date = true ∧
      (archiveName log ∈ a.expiredArchives today state.1 ∨
        (puttingInPlace log, .ok ()) ∈ packing) := by
  have hislog : IsLog a.fileStem log := ⟨date, hdate⟩
  have hmem {tree : Node} {found : Folder} (h : Hosts a.directory place mode found tree) :
      archiveName log ∈ a.expiredArchives today tree ↔
        before (a.keptFrom today) date = true ∧
            InReach a.directory mode found (archiveName log) := by
    unfold Archiver.expiredArchives InReach
    rw [h.mem_found (Or.inr (Or.inl rfl)) c.read]
    simp [dateIn?_archiveTag.mpr ⟨log, rfl, hdate⟩]
  have hplaces := c.places log hislog
  unfold Archived at hplaces
  rw [hmem c.logs.hosts, hmem c.hosts, hplaces, InReach,
    c.first_eq (dateIn?_partialTag_archive hislog), ← InReach]
  tauto

/-! ### Counts -/

theorem logs_counted : logs.compressed + (a.rotatedLogs today later.1).length =
    (a.rotatedLogs today state.1).length ∧
    logs.pruned = 0 ∧ logs.failed = (a.rotatedLogs today later.1).length := by
  obtain ⟨gone, hgone, hreport⟩ := c.logs.counts c.rotated_later
  rw [hreport, ← c.rotated_first.length_eq]
  simp [Report.times, Report.oneCompressed, Report.oneFailed, hgone]

theorem archives_counted :
    archives.pruned + (a.expiredArchives today later.1).length =
    (a.expiredArchives today second.1).length ∧
      archives.compressed = 0 ∧ archives.failed = (a.expiredArchives today later.1).length := by
  obtain ⟨gone, hgone, hreport⟩ := c.archives.counts c.expired_later
  rw [hreport]
  simp [Report.times, Report.onePruned, Report.oneFailed, hgone]

theorem partials_counted : partials.compressed = 0 ∧ partials.pruned = 0 := by
  rw [c.partials.report]
  simp [Report.times, Report.none, Report.oneFailed]

/-- The logs that are left are what they were. -/
theorem log_kept {log : String} (h : log ∈ a.rotatedLogs today later.1) :
    log ∈ a.rotatedLogs today state.1 ∧ folder₃ (.text log) = folder (.text log) := by
  obtain ⟨hmem, hstands⟩ := List.mem_filter.mp (c.rotated_later.mem_iff.mp h)
  obtain ⟨date, hdate, -⟩ := (c.partials.hosts.mem_found (Or.inl rfl) c.read).mp hmem
  refine ⟨c.rotated_first.mem_iff.mp hmem, ?_⟩
  rw [c.later_eq ⟨date, hdate⟩, ← c.first_eq (dateIn?_partialTag_log ⟨date, hdate⟩)]
  rcases c.logs.kept log hmem with hgone | hsame
  · simp [stands, hgone] at hstands
  · exact hsame

/-! ### Acts -/

theorem removes_partials {what : Act} (h : what ∈ clearing.map (·.1)) :
    ∃ log, IsLog a.fileStem log ∧ what = .remove (partialName log) := by
  rw [c.clears] at h
  obtain ⟨draft, hdraft, rfl⟩ := List.mem_map.mp h
  obtain ⟨date, hdate, -⟩ := (c.hosts.mem_found (Or.inr (Or.inr rfl)) c.read).mp hdraft
  obtain ⟨log, rfl, hlog⟩ := dateIn?_partialTag.mp hdate
  exact ⟨log, ⟨date, hlog⟩, rfl⟩

theorem removes_archives {what : Act} (h : what ∈ pruning.map (·.1)) :
    ∃ log, IsLog a.fileStem log ∧ what = .remove (archiveName log) := by
  rw [c.prunes] at h
  obtain ⟨archive, harchive, rfl⟩ := List.mem_map.mp h
  obtain ⟨date, hdate, -⟩ := (c.logs.hosts.mem_found (Or.inr (Or.inl rfl)) c.read).mp harchive
  obtain ⟨log, rfl, hlog⟩ := dateIn?_archiveTag.mp hdate
  exact ⟨log, ⟨date, hlog⟩, rfl⟩

theorem removes_logs {name : String} (h : .remove name ∈ packing.map (·.1)) :
    IsLog a.fileStem name := by
  obtain ⟨log, hlog, hwhat⟩ := c.packs _ h
  obtain rfl : name = log := by simpa [Archiver.packing] using hwhat
  exact hlog

theorem attempts_draft {log : String} (hlog : IsLog a.fileStem log) :
    attempts (.remove (partialName log)) (clearing ++ (packing ++ pruning)) =
      if partialName log ∈ a.drafts state.1 then 1 else 0 := by
  have hpacking : attempts (.remove (partialName log)) packing = 0 :=
    List.count_eq_zero.mpr fun h => log_ne_partial (c.removes_logs h) hlog rfl
  have hpruning : attempts (.remove (partialName log)) pruning = 0 := by
    refine List.count_eq_zero.mpr fun h => ?_
    obtain ⟨other, hother, heq⟩ := c.removes_archives h
    exact archive_ne_partial hother hlog (Act.remove.inj heq).symm
  rw [attempts_append, attempts_append, hpacking, hpruning, Nat.add_zero, attempts, c.clears,
    List.count_map_of_injective _ _ fun _ _ => Act.remove.inj]
  exact (c.hosts.nodup_found c.read).count

theorem attempts_log (log : String) : attempts (.openLog log) (clearing ++ (packing ++ pruning)) =
    if log ∈ a.rotatedLogs today state.1 then 1 else 0 := by
  have hclearing : attempts (.openLog log) clearing = 0 := by
    refine List.count_eq_zero.mpr fun h => ?_
    obtain ⟨other, -, heq⟩ := c.removes_partials h
    cases heq
  have hpruning : attempts (.openLog log) pruning = 0 := by
    refine List.count_eq_zero.mpr fun h => ?_
    obtain ⟨other, -, heq⟩ := c.removes_archives h
    cases heq
  rw [attempts_append, attempts_append, hclearing, hpruning, c.opens, c.rotated_first.count_eq,
    Nat.zero_add]
  exact (c.hosts.nodup_found c.read).count

/-- Only logs that are packed have their archives put in place. -/
theorem placed_iff {log : String} :
    (puttingInPlace log, .ok ()) ∈ clearing ++ (packing ++ pruning) ↔
    (puttingInPlace log, .ok ()) ∈ packing := by
  have hclearing : (puttingInPlace log, .ok ()) ∉ clearing := by
    intro h
    obtain ⟨other, -, heq⟩ := c.removes_partials (List.mem_map_of_mem h)
    cases heq
  have hpruning : (puttingInPlace log, .ok ()) ∉ pruning := by
    intro h
    obtain ⟨other, -, heq⟩ := c.removes_archives (List.mem_map_of_mem h)
    cases heq
  simp [hclearing, hpruning]

theorem attempts_archive {log : String} {date : Date}
    (hdate : dateIn? a.fileStem fileTag log = some date) :
    attempts (.remove (archiveName log)) (clearing ++ (packing ++ pruning)) =
      if before (a.keptFrom today) date = true ∧
        (archiveName log ∈ a.expiredArchives today state.1 ∨
        (puttingInPlace log, .ok ()) ∈ clearing ++ (packing ++ pruning)) then 1 else 0 := by
  have hlog : IsLog a.fileStem log := ⟨date, hdate⟩
  have hclearing : attempts (.remove (archiveName log)) clearing = 0 := by
    refine List.count_eq_zero.mpr fun h => ?_
    obtain ⟨other, hother, heq⟩ := c.removes_partials h
    exact archive_ne_partial hlog hother (Act.remove.inj heq)
  have hpacking : attempts (.remove (archiveName log)) packing = 0 :=
    List.count_eq_zero.mpr fun h => log_ne_archive (c.removes_logs h) hlog rfl
  have hnodup : (a.expiredArchives today second.1).Nodup := c.logs.hosts.nodup_found c.read
  rw [attempts_append, attempts_append, hclearing, hpacking, attempts, c.prunes,
    List.count_map_of_injective _ _ fun _ _ => Act.remove.inj, Nat.zero_add, Nat.zero_add,
    hnodup.count]
  have hsame :=
    (c.mem_expired_second hdate).trans (and_congr_right fun _ => or_congr_right c.placed_iff.symm)
  exact if_congr hsame rfl rfl

/-- Every archive that is to be removed is one that a removal is about. -/
theorem pruning_counted :
    ((clearing ++ (packing ++ pruning)).map (·.1)).countP (isPruning a.fileStem) =
    (a.expiredArchives today second.1).length := by
  have hclearing : (clearing.map (·.1)).countP (isPruning a.fileStem) = 0 := by
    refine List.countP_eq_zero.mpr fun what h => ?_
    obtain ⟨log, hlog, rfl⟩ := c.removes_partials h
    simp [isPruning, dateIn?_archiveTag_partial hlog]
  have hpacking : (packing.map (·.1)).countP (isPruning a.fileStem) = 0 := by
    refine List.countP_eq_zero.mpr fun what h => ?_
    cases what with
    | remove name => simp [isPruning, dateIn?_archiveTag_log (c.removes_logs h)]
    | _ => simp [isPruning]
  have hpruning : (pruning.map (·.1)).countP (isPruning a.fileStem) =
      (pruning.map (·.1)).length := by
    refine List.countP_eq_length.mpr fun what h => ?_
    obtain ⟨log, ⟨date, hdate⟩, rfl⟩ := c.removes_archives h
    simp [isPruning, dateIn?_archiveTag.mpr ⟨log, rfl, hdate⟩]
  rw [List.map_append, List.map_append, List.countP_append, List.countP_append, hclearing, hpacking,
    hpruning, c.prunes]
  simp

/-- At first, every act that fails is about an incomplete archive that is stuck. -/
theorem stuck_counted : (clearing ++ (packing ++ pruning)).countP (isStuck a.fileStem) =
    clearing.countP isFailed := by
  have hclearing : clearing.countP (isStuck a.fileStem) = clearing.countP isFailed := by
    refine List.countP_congr fun entry h => ?_
    obtain ⟨what, result⟩ := entry
    obtain ⟨log, ⟨date, hdate⟩, rfl⟩ := c.removes_partials (List.mem_map_of_mem h)
    cases result <;> simp [isStuck, isFailed, dateIn?_partialTag.mpr ⟨log, rfl, hdate⟩]
  have hpacking : packing.countP (isStuck a.fileStem) = 0 := by
    refine List.countP_eq_zero.mpr fun entry h => ?_
    obtain ⟨what, result⟩ := entry
    cases what with
    | remove name =>
      cases result <;>
        simp [isStuck, dateIn?_partialTag_log (c.removes_logs (List.mem_map_of_mem h))]
    | _ => simp [isStuck]
  have hpruning : pruning.countP (isStuck a.fileStem) = 0 := by
    refine List.countP_eq_zero.mpr fun entry h => ?_
    obtain ⟨what, result⟩ := entry
    obtain ⟨log, hlog, rfl⟩ := c.removes_archives (List.mem_map_of_mem h)
    cases result <;> simp [isStuck, dateIn?_partialTag_archive hlog]
  rw [List.countP_append, List.countP_append, hclearing, hpacking, hpruning, Nat.add_zero]

end Course

/-! ## Passes -/

section

variable {a : Archiver} {today : Date} {place : List Files.Name} {mode : Nat} {folder : Folder}
  {state later : Node × Plan}
  {said : List Event} {report : Report}

/-- A pass that comes to its end has a course. -/
theorem course_of_pass (h : Hosts a.directory place mode folder state.1)
    (hread : mayRead mode = true)
    (hrun : (a.pass today (a.keptFrom today)).run.run (troubled a.directory) state =
      (later, said, .ok report)) :
    ∃ folder₁ folder₂ folder₃ first second partials logs archives clearing packing pruning,
      Course a today place mode folder folder₁ folder₂ folder₃ state first second later partials
        logs archives clearing
        packing pruning ∧
      report = partials + logs + archives ∧ partials.failed = clearing.countP isFailed ∧
      (a.pass today (a.keptFrom today)).run.history (troubled a.directory) state =
        clearing ++ (packing ++ pruning) := by
  obtain ⟨first, second, said₁, said₂, said₃, partials, logs, archives, hpartials, hlogs, harchives,
      hreport, -⟩ :=
    pass_inv hrun
  obtain ⟨folder₁, hleaves₁⟩ := leaves_partials h hread hpartials
  obtain ⟨folder₂, hleaves₂⟩ := leaves_logs hleaves₁.hosts hread hlogs
  obtain ⟨folder₃, hleaves₃⟩ := leaves_archives hleaves₂.hosts hread harchives
  refine ⟨folder₁, folder₂, folder₃, first, second, partials, logs, archives, _, _, _, ?_,
    hreport, ?_, history_pass hpartials hlogs harchives⟩
  · refine ⟨h, hread, hleaves₁, hleaves₂, hleaves₃, ?_, fun what hwhat => ?_, fun log => ?_,
      fun log hlog => ?_, ?_⟩
    · rw [h.history_sweep hread, acts_each_removed fun name s => by rw [history_removePartial]; rfl]
      rfl
    · rw [hleaves₁.hosts.history_sweep hread] at hwhat
      obtain ⟨log, hlog, s, hs⟩ := mem_acts_each hwhat
      obtain ⟨date, hdate, -⟩ := (hleaves₁.hosts.mem_found (Or.inl rfl) hread).mp hlog
      exact ⟨log, ⟨date, hdate⟩, mem_acts_compress _ a s hs⟩
    · rw [hleaves₁.hosts.history_sweep hread]
      exact attempts_each (fun other _ s => attempts_compress _ a s log other) first
    · exact archived_sweep hlog hleaves₁.hosts hread hlogs hleaves₂.hosts
    · rw [hleaves₂.hosts.history_sweep hread, acts_each_removed fun name s =>
        by rw [history_prune]; rfl]
      rfl
  · refine (tallied_sweep (fun name date hdate s => ?_) hpartials).failed
    obtain ⟨log, rfl, hlog⟩ := dateIn?_partialTag.mp hdate
    exact tallied_removePartial _ a s ⟨date, hlog⟩

theorem accounted_pass (h : Hosts a.directory place mode folder state.1)
    (hread : mayRead mode = true)
    (hrun : (a.pass today (a.keptFrom today)).run.run (troubled a.directory) state =
      (later, said, .ok report)) :
    Accounted a today state.1 later.1
      ((a.pass today (a.keptFrom today)).run.history (troubled a.directory) state) said
      report := by
  obtain ⟨folder₁, folder₂, folder₃, first, second, partials, logs, archives, clearing, packing,
    pruning, c, rfl, hstuck, hhistory⟩ := course_of_pass h hread hrun
  obtain ⟨hlogs, hlogs', hlogs''⟩ := c.logs_counted
  obtain ⟨harchives, harchives', harchives''⟩ := c.archives_counted
  obtain ⟨hpartials, hpartials'⟩ := c.partials_counted
  have htallied := tallied_pass hrun
  rw [hhistory] at htallied ⊢
  refine ⟨htallied, ?_, ?_, ?_, ?_, ?_, ?_, ?_⟩
  · rw [← hlogs]
    simp [hpartials, harchives']
  · rw [c.pruning_counted, ← harchives]
    simp [hpartials', hlogs']
  · rw [c.stuck_counted, ← hstuck, ← hlogs'', ← harchives'']
    rfl
  · intro log hlog
    obtain ⟨hmem, hsame⟩ := c.log_kept hlog
    rw [c.archives.hosts.folderAt_eq, h.folderAt_eq]
    exact ⟨hmem, hsame⟩
  · exact fun log hlog => c.attempts_draft hlog
  · exact fun log _ => c.attempts_log log
  · exact fun log date hdate => c.attempts_archive hdate

end

section

variable {σ : Type} {a : Archiver} {today : Date} {handler : Handler σ} {state : σ}

/-- A pass that cannot list the directory at first is over. -/
theorem runOn_unlisted {fault : Files.Fault} (hlist : handler.list state = .error fault)
    (hreached : Date.firstDay ≤ a.keptFrom today) :
    a.runOn today handler state = (state, [], .failed fault) := by
  have hpass : (a.pass today (a.keptFrom today)).run.run handler state =
      (state, [], .error fault) := by
    rw [pass_eq]
    refine run_bind_error ?_ _
    simp only [Archiver.sweep, ExceptT.run_mk, Script.run, hlist]
  rw [runOn_of_reached a today handler state hreached, hpass]
  rfl

/-- A pass on a day comes to a report if its sweeps come to it. -/
theorem runOn_finished {report : Report} : (a.runOn today handler state).2.2 = .finished report ↔
    Date.firstDay ≤ a.keptFrom today ∧
      ((a.pass today (a.keptFrom today)).run.run handler state).2.2 = .ok report := by
  by_cases hreached : Date.firstDay ≤ a.keptFrom today
  · rw [runOn_of_reached a today handler state hreached]
    dsimp only
    cases ((a.pass today (a.keptFrom today)).run.run handler state).2.2 <;>
      simp [PassEnd.ofResult, hreached]
  · rw [runOn_of_unreached a today handler state (by omega)]
    simp [hreached]

end

/-- A directory that can be listed stands open. -/
theorem hosts_of_listed {a : Archiver} {tree : Node} (hplain : Ordinary (folderAt tree a.directory))
    (hdistinct : HasDistinctNames tree) {listing : List Entry}
    (hlist : listOn a.directory tree = .ok listing) :
    ∃ place mode, Hosts a.directory place mode (folderAt tree a.directory) tree ∧
      mayRead mode = true := by
  rcases shows_or_unlisted tree a.directory with ⟨place, mode, hshows⟩ | ⟨⟨fault, hunlisted⟩, -⟩
  · cases hread : mayRead mode with
    | true => exact ⟨place, mode, ⟨hshows, hplain, hdistinct⟩, hread⟩
    | false =>
      rw [list_denied hshows hread] at hlist
      cases hlist
  · rw [hunlisted] at hlist
    cases hlist

/-- On any day, over any log directory without links in which names are distinct, whatever goes
wrong with single files. A pass comes to a report exactly when the directory can be listed and the
calendar reaches back far enough; and then the report accounts for every file that the pass finds. A
pass that cannot list the directory at first, wherever it is carried out, fails with that fault;
nothing is touched and nothing is said. -/
theorem a_pass_accounts_for_every_file {a : Archiver} {tree : Node}
    (hplain : Ordinary (folderAt tree a.directory)) (hdistinct : HasDistinctNames tree)
    (today : Date) (plan : Plan) :
    let outcome := a.runOn today (troubled a.directory) (tree, plan)
    ((∃ report, outcome.2.2 = .finished report) ↔
        (∃ listing, listOn a.directory tree = .ok listing) ∧ Date.firstDay ≤ a.keptFrom today) ∧
      (∀ report, outcome.2.2 = .finished report → Accounted a today tree outcome.1.1
        (a.historyOn today (troubled a.directory) (tree, plan)) outcome.2.1 report) ∧
      ∀ (σ : Type) (handler : Handler σ) (state : σ) (fault : Files.Fault),
        handler.list state = .error fault →
        Date.firstDay ≤ a.keptFrom today →
            a.runOn today handler state = (state, [], .failed fault) := by
  intro outcome
  have hlisted (report : Report) (hfinished : outcome.2.2 = .finished report) :
      ∃ listing, listOn a.directory tree = .ok listing := by
    obtain ⟨hreached, -⟩ := runOn_finished.mp hfinished
    cases hlist : (troubled a.directory).list (tree, plan) with
    | ok listing => exact ⟨listing, hlist⟩
    | error fault =>
      rw [show outcome = _ from runOn_unlisted hlist hreached] at hfinished
      cases hfinished
  refine ⟨⟨?_, ?_⟩, ?_, fun σ handler state fault hlist hreached => runOn_unlisted hlist hreached⟩
  · rintro ⟨report, hfinished⟩
    exact ⟨hlisted report hfinished, (runOn_finished.mp hfinished).1⟩
  · rintro ⟨⟨listing, hlist⟩, hreached⟩
    obtain ⟨place, mode, h, hread⟩ := hosts_of_listed hplain hdistinct hlist
    have hat : At a.directory place mode False (folderAt tree a.directory) (tree, plan) := h.at
    have halways : (a.pass today (a.keptFrom today)).run.Always (troubled a.directory) _ _
        (tree, plan) :=
      always_pass hat hread
    obtain ⟨report, hreport⟩ := halways.goal_run.2.1
    exact ⟨report, runOn_finished.mpr ⟨hreached, hreport⟩⟩
  · intro report hfinished
    obtain ⟨listing, hlist⟩ := hlisted report hfinished
    obtain ⟨place, mode, h, hread⟩ := hosts_of_listed hplain hdistinct hlist
    obtain ⟨hreached, hresult⟩ := runOn_finished.mp hfinished
    have h' : Hosts a.directory place mode (folderAt tree a.directory) (tree, plan).1 := h
    have haccounted := accounted_pass h' hread (Prod.ext rfl (Prod.ext rfl hresult))
    unfold Archiver.historyOn
    rw [oldestKept?_of_le hreached, show outcome = _ from runOn_of_reached a today _ _ hreached]
    exact haccounted

/-- Files of which the first cannot be dealt with. -/
def firstStuck : Files.Entries := [
  (.text "app.2024-05-02.log.gz.partial", .file 0o644 (.plain [31])),
  (.text "app.2024-05-01.log", .file 0o644 (.plain [104])),
  (.text "app.2024-04-20.log.gz", .file 0o644 (.packed [105]))]

/-- The first of them is counted, and the pass goes on with the others. -/
theorem a_stuck_archive_is_accounted_for :
    let tree := withLogs 0o755 firstStuck
    let state := (tree, [some ⟨.ioError, none⟩])
    let outcome := weekly.runOn thirdOfMay (troubled "logs") state
    Ordinary (folderAt tree "logs") ∧ HasDistinctNames tree ∧ ∃ report,
      outcome.2.2 = .finished report ∧
      Accounted weekly thirdOfMay tree outcome.1.1
        (weekly.historyOn thirdOfMay (troubled "logs") state) outcome.2.1
        report := by
  intro tree state outcome
  have hordinary : Ordinary (folderAt tree weekly.directory) := by
    change Ordinary (folderAt tree "logs")
    rw [folderAt_withLogs]
    exact ordinary_of_entries (by decide)
  have hdistinct : HasDistinctNames tree :=
    distinct_withLogs (by decide) (by simp [firstStuck, Files.distinct_file])
  obtain ⟨hfinishes, haccounts, -⟩ :=
    a_pass_accounts_for_every_file hordinary hdistinct thirdOfMay [some ⟨.ioError, none⟩]
  obtain ⟨report, hfinished⟩ :=
    hfinishes.mpr ⟨⟨_, listOn_eq (opens_withLogs 0o755 firstStuck)⟩, by decide⟩
  exact ⟨hordinary, hdistinct, report, hfinished, haccounts report hfinished⟩

/-! ## Files out of reach -/

/-- Nothing is found in a directory that may not be entered. -/
theorem found_unentered {a : Archiver} {place : List Files.Name} {mode : Nat} {folder : Folder}
    {tree : Node} (h : Hosts a.directory place mode folder tree) (hread : mayRead mode = true)
    (henter : Files.mayEnter mode = false) {tag : String}
    (htag : tag = fileTag ∨ tag = archiveTag ∨ tag = partialTag) (wanted : Date → Bool) :
    a.found tag wanted tree = [] := by
  refine List.eq_nil_iff_forall_not_mem.mpr fun name hname => ?_
  obtain ⟨-, -, -, hreach, -⟩ := (h.mem_found htag hread).mp hname
  unfold barrier? at hreach
  rw [henter] at hreach
  split at hreach
  · cases hreach
  · split at hreach <;> cases hreach

/-- A pass over a directory that may be read, but not entered, has nothing to do and nothing to
report. -/
theorem runOn_unentered {a : Archiver} {place : List Files.Name} {mode : Nat} {folder : Folder}
    {state : Node × Plan} (h : Hosts a.directory place mode folder state.1)
    (hread : mayRead mode = true) (henter : Files.mayEnter mode = false) {today : Date}
    (hreached : Date.firstDay ≤ a.keptFrom today) :
    a.runOn today (troubled a.directory) state = (state, [], .finished .none) := by
  have hsweep {tag : String} (htag : tag = fileTag ∨ tag = archiveTag ∨ tag = partialTag)
      (wanted : Date → Bool)
      (handle : String → Script Report) :
      (a.sweep tag wanted handle).run.run (troubled a.directory) state =
          (state, [], .ok .none) := by
    rw [h.run_sweep hread, found_unentered h hread henter htag]
    rfl
  rw [runOn_of_reached a today _ state hreached, pass_run (hsweep (Or.inr (Or.inr rfl)) _ _)
    (hsweep (Or.inl rfl) _ _) (hsweep (Or.inr (Or.inl rfl)) _ _)]
  rfl

/-- A log of a day that is over. -/
def lonelyLog : Files.Entries := [(.text "app.2024-05-01.log", .file 0o644 (.plain [110]))]

/-- A log directory that may be read, but not entered. -/
def barredLogs : Node :=
  .directory 0o755 [(.text "var", .directory 0o311 [(.text "logs", .directory 0o444 lonelyLog)])]

theorem opens_barredLogs :
    Files.Opens barredLogs "var/logs" [.text "var", .text "logs"] 0o444 lonelyLog where
  short := by decide
  leads := ⟨[.name (.text "var"), .name (.text "logs")], by decide, by decide,
    .down rfl (by decide) (by decide) rfl (.down rfl (by decide) (by decide) rfl .arrived)⟩
  stands := rfl

/-- The log is still there after the pass, and is not counted. -/
theorem a_log_out_of_reach_is_not_counted :
    let a : Archiver := ⟨"var/logs", "app", 7⟩
    Ordinary (folderAt barredLogs a.directory) ∧ HasDistinctNames barredLogs ∧
      a.runOn thirdOfMay (troubled a.directory) (barredLogs, []) =
        ((barredLogs, []), [], .finished .none) ∧
      dateIn? a.fileStem fileTag "app.2024-05-01.log" = some firstOfMay ∧
        past thirdOfMay firstOfMay = true ∧
      folderAt barredLogs a.directory (.text "app.2024-05-01.log") =
          some (.file 0o644 (.plain [110])) := by
  intro a
  have hfolder : folderAt barredLogs a.directory = Files.Entries.get? lonelyLog := by
    rw [folderAt, opens_barredLogs.entriesAt_eq]
  have hordinary : Ordinary (folderAt barredLogs a.directory) := by
    rw [hfolder]
    exact ordinary_of_entries (by decide)
  have hdistinct : HasDistinctNames barredLogs :=
    Files.distinct_singleton
      (Files.distinct_singleton (Files.distinct_singleton (Files.distinct_file _ _)))
  have hhosts :
      Hosts a.directory [.text "var", .text "logs"] 0o444 (folderAt barredLogs a.directory)
      ((barredLogs, []) : Node × Plan).1 :=
    ⟨⟨lonelyLog, opens_barredLogs, hfolder.symm⟩, hordinary, hdistinct⟩
  have hreached : Date.firstDay ≤ a.keptFrom thirdOfMay := by decide
  refine ⟨hordinary, hdistinct, runOn_unentered hhosts (by decide) (by decide) hreached,
    date_firstOfMay, by decide, ?_⟩
  rw [hfolder]
  rfl

end Chassis.Logging.Archive
