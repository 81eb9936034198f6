-- How a sweep disposes of its files in trouble. Each of them is gone in the end, or it is what it
-- was and is reported; so a sweep reports as many files as are left. An archive that a sweep over
-- logs leaves was there before, or it was put in its place.
import Chassis.Proofs.Archive.Apart
import Chassis.Proofs.Archive.Found
import Chassis.Proofs.Archive.Ledger
import Chassis.Proofs.Archive.Passes

namespace Chassis.Logging.Archive

open Calendar (Date)
open Files (Body HasDistinctNames IsName Node barrier? mayRead)
open Function (update)

/-! ## Log directories in trouble -/

section

variable {directory : String} {place : List Files.Name} {mode : Nat} {folder folder' : Folder}
    {state : Node × Plan}

/-- Anything may go wrong in an open log directory. -/
theorem Hosts.at (h : Hosts directory place mode folder state.1) :
    At directory place mode False folder state :=
  ⟨h.shows, h.ordinary, False.elim⟩

/-- Names stay distinct whatever goes wrong. -/
theorem Hosts.run {α : Type} (h : Hosts directory place mode folder state.1) (script : Script α)
    (hat : At directory place mode False folder' (script.run (troubled directory) state).1) :
    Hosts directory place mode folder' (script.run (troubled directory) state).1.1 where
  shows := hat.shows
  ordinary := hat.ordinary
  distinct := Script.run_keeps (fun later : Node × Plan => HasDistinctNames later.1)
    (fun _ what hstate => distinct_troubled hstate what) script h.distinct

section

variable {a : Archiver} {tag : String} {wanted : Date → Bool}
  (h : Hosts a.directory place mode folder state.1) (hread : mayRead mode = true)
  (handle : String → Script Report)
include h hread

/-- A sweep over an open log directory deals with what it finds. -/
theorem Hosts.run_sweep : (a.sweep tag wanted handle).run.run (troubled a.directory) state =
    let all := (Archiver.each handle (a.found tag wanted state.1)).run (troubled a.directory) state
    (all.1, all.2.1, .ok all.2.2) := by
  obtain ⟨listing, hlisting, -⟩ := h.list_eq hread
  have hlist : (troubled a.directory).list state = .ok listing := hlisting
  rw [sweep_run hlist, found_eq hlisting]

theorem Hosts.history_sweep : (a.sweep tag wanted handle).run.history (troubled a.directory) state =
    (Archiver.each handle (a.found tag wanted state.1)).history (troubled a.directory) state := by
  obtain ⟨listing, hlisting, -⟩ := h.list_eq hread
  have hlist : (troubled a.directory).list state = .ok listing := hlisting
  rw [Archive.history_sweep hlist, found_eq hlisting]

end

/-- An act leaves the names alone that it does not name. -/
theorem Outcome.frame {what : Act} {result : Except Files.Fault Unit}
    (h : Outcome directory mode False folder what result folder') {name : String}
    (hname : name ∉ what.names) :
    folder' (.text name) = folder (.text name) := by
  cases h with
  | done hok =>
    refine actIn_frame (fun other hother => List.mem_map_of_mem hother) hok fun hmem => ?_
    obtain ⟨other, hother, heq⟩ := List.mem_map.mp hmem
    cases heq
    exact hname hother
  | failed _ => rfl
  | spoiled _ hwritten hok =>
    refine writeIn_frame hok fun heq => ?_
    cases heq
    exact hname (written?_mem_names hwritten)

end

/-! ## One file -/

/-- A count of reports of one kind. -/
def Report.times (count : Nat) (report : Report) : Report :=
  ⟨count * report.compressed, count * report.pruned, count * report.failed⟩

/-- Dealing with a file does away with it and reports that, or it leaves it and reports a failure.
It keeps to some names. -/
def Disposes (a : Archiver) (place : List Files.Name) (mode : Nat) (handle : String → Script Report)
    (good : Report) (scope : String → List Files.Name) (name : String) : Prop :=
  ∀ folder state, Hosts a.directory place mode folder state.1 →
    let went := (handle name).run (troubled a.directory) state
    ∃ folder', Hosts a.directory place mode folder' went.1.1 ∧
      (∀ other, other ∉ scope name → folder' other = folder other) ∧
      (went.2.2 = good ∧ folder' (.text name) = none ∨
        went.2.2 = .oneFailed ∧ folder' (.text name) = folder (.text name))

/-- Removing a file has to do with its own name only. -/
def itself (name : String) : List Files.Name := [.text name]

section

variable {a : Archiver} {place : List Files.Name} {mode : Nat}

/-- A script that is one removal. -/
theorem disposes_removal {handle : String → Script Report}
    {next : String → Except Files.Fault Unit → Script Report}
    {good : Report} (hhandle : ∀ name, handle name = .act (.remove name) (next name))
    (hok : ∀ name state, ((next name (.ok ())).run (troubled a.directory) state).1 = state ∧
      ((next name (.ok ())).run (troubled a.directory) state).2.2 = good)
    (herror : ∀ name fault state,
      ((next name (.error fault)).run (troubled a.directory) state).1 = state ∧
      ((next name (.error fault)).run (troubled a.directory) state).2.2 = .oneFailed)
    {name : String} (hname : IsName name) :
    Disposes a place mode handle good itself name := by
  intro folder state h went
  have hwent : went = (Script.act (.remove name) (next name)).run (troubled a.directory) state :=
    congrArg (Script.run (troubled a.directory) state) (hhandle name)
  have hnames : ∀ other ∈ Act.names (.remove name), IsName other := by simpa [Act.names] using hname
  obtain ⟨folder', hshows, houtcome, -⟩ :=
    outcome_of_troubled h.at hnames (fun _ _ heq => by cases heq)
  have hframe : ∀ other, other ∉ itself name → folder' other = folder other := by
    intro other hother
    rcases houtcome.remove h.ordinary with ⟨-, -, -, -, rfl⟩ | ⟨-, rfl, -⟩
    · exact Function.update_of_ne (by simpa [itself] using hother) _ _
    · rfl
  have hlater :
      Hosts a.directory place mode folder' ((troubled a.directory).act state (.remove name)).1.1 :=
    ⟨hshows, houtcome.ordinary h.ordinary hnames, distinct_troubled h.distinct _⟩
  rw [hwent]
  simp only [Script.run]
  rcases houtcome.remove h.ordinary with ⟨hresult, -, -, -, hgone⟩ | ⟨⟨fault, hresult⟩, hsame, -⟩
  · obtain ⟨hstate, hreport⟩ := hok name ((troubled a.directory).act state (.remove name)).1
    rw [hresult, hstate, hreport]
    exact ⟨folder', hlater, hframe, Or.inl ⟨rfl, by rw [hgone, Function.update_self]⟩⟩
  · obtain ⟨hstate, hreport⟩ :=
      herror name fault ((troubled a.directory).act state (.remove name)).1
    rw [hresult, hstate, hreport]
    exact ⟨folder', hlater, hframe, Or.inr ⟨rfl, by rw [hsame]⟩⟩

theorem disposes_removePartial {name : String} (hname : IsName name) :
    Disposes a place mode a.removePartial .none itself name :=
  disposes_removal (fun _ => rfl) (fun _ _ => ⟨rfl, rfl⟩) (fun _ _ _ => ⟨rfl, rfl⟩) hname

theorem disposes_prune {name : String} (hname : IsName name) :
    Disposes a place mode a.prune .onePruned itself name :=
  disposes_removal (fun _ => rfl) (fun _ _ => ⟨rfl, rfl⟩) (fun _ _ _ => ⟨rfl, rfl⟩) hname

theorem disposes_compress {log : String} (hlog : IsLog a.fileStem log) (hslash : '/' ∉ log.toList) :
    Disposes a place mode a.compress .oneCompressed dayNames log := by
  intro folder state h went
  have halways : Script.Always _ (Touched a log place mode False folder true false) _ state
      (a.compress log) :=
    always_compress hlog hslash rfl h.at
  obtain ⟨⟨folder', hat, hwithin⟩, -, hkept, hgone⟩ := halways.goal_run
  rw [folderAt_eq hat] at hkept hgone
  refine ⟨folder', h.run _ hat, hwithin.frame, ?_⟩
  obtain ⟨hwent, -⟩ | ⟨-, -, -, fault, -, hwent, -⟩ :=
    run_compress (troubled a.directory) a state log
  · have hreport : went.2.2 = .oneCompressed := congrArg Prod.snd hwent
    exact Or.inl ⟨hreport, hgone hreport⟩
  · have hreport : went.2.2 = .oneFailed := congrArg Prod.snd hwent
    exact Or.inr ⟨hreport, hkept (by rw [hreport]; decide)⟩

end

/-! ## One file after another -/

/-- A file stands in a folder. -/
def stands (folder : Folder) (name : String) : Bool := (folder (.text name)).isSome

theorem stands_of_isFile {folder : Folder} {name : String}
    (h : isFile (folder (.text name)) = true) :
    stands folder name = true := by
  unfold isFile at h
  unfold stands
  cases hnode : folder (.text name) with
  | none => simp [hnode] at h
  | some node => rfl

theorem times_succ (count : Nat) (report : Report) :
    Report.times (count + 1) report = report + .times count report := by
  change Report.mk _ _ _ = Report.mk _ _ _
  simp [Report.times, Nat.succ_mul, Nat.add_comm]

/-- What dealing with some files leaves of a folder. The report counts the files that are gone and
those that are left. Those that are left are what they were, and so is every name that none of the
files has to do with. -/
structure Leaves (a : Archiver) (place : List Files.Name) (mode : Nat) (good : Report)
    (scope : String → List Files.Name) (names : List String) (folder folder' : Folder)
    (later : Node × Plan) (report : Report) : Prop where
  hosts : Hosts a.directory place mode folder' later.1
  frame : ∀ other, (∀ name ∈ names, other ∉ scope name) → folder' other = folder other
  kept : ∀ name ∈ names, folder' (.text name) = none ∨ folder' (.text name) = folder (.text name)
  report : report = .times (names.countP fun name => !stands folder' name) good +
    .times (names.countP (stands folder')) .oneFailed

section

variable {a : Archiver} {place : List Files.Name} {mode : Nat} {handle : String → Script Report}
  {good : Report}
  {scope : String → List Files.Name}

/-- Each file is dealt with apart from the others, and is left or gone from then on. -/
theorem each_disposes {names : List String} (hnodup : names.Nodup)
    (hdisposes : ∀ name ∈ names, Disposes a place mode handle good scope name)
    (hapart : ∀ name ∈ names, ∀ other ∈ names, other ≠ name → .text other ∉ scope name)
    {folder : Folder} {state : Node × Plan} (h : Hosts a.directory place mode folder state.1)
    (hstand : ∀ name ∈ names, stands folder name = true) :
    let went := (Archiver.each handle names).run (troubled a.directory) state
    ∃ folder', Leaves a place mode good scope names folder folder' went.1 went.2.2 := by
  induction names generalizing folder state with
  | nil => exact ⟨folder, h, fun _ _ => rfl, by simp, by simp [Report.times]; rfl⟩
  | cons name rest ih =>
    obtain ⟨hfresh, hrest⟩ := List.nodup_cons.mp hnodup
    have hother : ∀ other ∈ rest, other ∈ name :: rest ∧ other ≠ name := by
      intro other hmem
      exact ⟨List.mem_cons_of_mem _ hmem, fun heq => hfresh (heq ▸ hmem)⟩
    obtain ⟨folder₁, hhosts₁, hframe₁, hdone⟩ := hdisposes name List.mem_cons_self folder state h
    have hsame : ∀ other ∈ rest, folder₁ (.text other) = folder (.text other) := by
      intro other hmem
      exact hframe₁ _
        (hapart name List.mem_cons_self other (hother other hmem).1 (hother other hmem).2)
    obtain ⟨folder₂, hhosts₂, hframe₂, hkept, hcounts⟩ := ih hrest
      (fun other hmem => hdisposes other (hother other hmem).1)
      (fun first hfirst second hsecond => hapart first (hother first hfirst).1 second
        (hother second hsecond).1) hhosts₁
      (fun other hmem => by
        rw [stands, hsame other hmem]
        exact hstand other (hother other hmem).1)
    have hself : folder₂ (.text name) = folder₁ (.text name) := by
      refine hframe₂ _ fun other hmem =>
        hapart other (hother other hmem).1 name List.mem_cons_self ?_
      exact (hother other hmem).2.symm
    rw [each_cons]
    refine ⟨folder₂, hhosts₂, fun other hout => ?_, fun other hmem => ?_, ?_⟩
    · rw [hframe₂ other fun name' hmem => hout name' (hother name' hmem).1,
        hframe₁ other (hout name List.mem_cons_self)]
    · rcases List.mem_cons.mp hmem with rfl | hmem
      · rw [hself]
        exact hdone.imp And.right And.right
      · rw [← hsame other hmem]
        exact hkept other hmem
    · dsimp only at hcounts ⊢
      rw [hcounts, List.countP_cons, List.countP_cons]
      rcases hdone with ⟨hgood, hgone⟩ | ⟨hfailed, hleft⟩
      · have hnot : stands folder₂ name = false := by rw [stands, hself, hgone]; rfl
        rw [hgood, hnot]
        simp [times_succ, Report.add_assoc]
      · have hyes : stands folder₂ name = true := by
          rw [stands, hself, hleft]
          exact hstand name List.mem_cons_self
        rw [hfailed, hyes]
        simp [times_succ, Report.add_left_comm]

theorem sweep_disposes {tag : String} {wanted : Date → Bool}
    (htag : tag = fileTag ∨ tag = archiveTag ∨ tag = partialTag)
    (hdisposes : ∀ name date, dateIn? a.fileStem tag name = some date → '/' ∉ name.toList →
      Disposes a place mode handle good scope name)
    (hapart : ∀ name date other date', dateIn? a.fileStem tag name = some date →
      dateIn? a.fileStem tag other = some date' → other ≠ name → .text other ∉ scope name)
    {folder : Folder} {state later : Node × Plan} {said : List Event} {report : Report}
    (h : Hosts a.directory place mode folder state.1) (hread : mayRead mode = true)
    (hrun : (a.sweep tag wanted handle).run.run (troubled a.directory) state =
      (later, said, .ok report)) :
    ∃ folder', Leaves a place mode good scope (a.found tag wanted state.1) folder folder' later
      report := by
  rw [h.run_sweep hread] at hrun
  obtain ⟨rfl, hended⟩ := Prod.mk.inj hrun
  obtain ⟨-, hreport⟩ := Prod.mk.inj hended
  cases hreport
  have hfound : ∀ name ∈ a.found tag wanted state.1, ∃ date,
      dateIn? a.fileStem tag name = some date ∧
      stands folder name = true := by
    intro name hname
    obtain ⟨date, hdate, -, -, hfile⟩ := (h.mem_found htag hread).mp hname
    exact ⟨date, hdate, stands_of_isFile hfile⟩
  refine each_disposes (h.nodup_found hread) (fun name hname => ?_)
    (fun name hname other hother hne => ?_) h
    (fun name hname => ?_)
  · obtain ⟨date, hdate, hthere⟩ := hfound name hname
    refine hdisposes name date hdate (h.ordinary.no_slash name fun hnone => ?_)
    simp [stands, hnone] at hthere
  · obtain ⟨date, hdate, -⟩ := hfound name hname
    obtain ⟨date', hdate', -⟩ := hfound other hother
    exact hapart name date other date' hdate hdate' hne
  · obtain ⟨-, -, hthere⟩ := hfound name hname
    exact hthere

end

/-! ## Archives that are put in place -/

/-- The act that puts the archive of a log in its place. -/
def puttingInPlace (log : String) : Act := .rename (partialName log) (archiveName log)

/-- A file within reach stands in a folder of a directory. -/
def InReach (directory : String) (mode : Nat) (folder : Folder) (name : String) : Prop :=
  barrier? directory mode name = none ∧ isFile (folder (.text name)) = true

/-- The archive of a log is there just if it was there before, or if it was put in its place. -/
def Archived (directory : String) (mode : Nat) (log : String) (folder folder' : Folder)
    (history : History) : Prop :=
  InReach directory mode folder' (archiveName log) ↔
    InReach directory mode folder (archiveName log) ∨ (puttingInPlace log, .ok ()) ∈ history

namespace Archived

variable {directory : String} {mode : Nat} {log : String} {folder folder₁ folder₂ : Folder}
    {history more : History}

theorem of_same (h : folder₁ (.text (archiveName log)) = folder (.text (archiveName log)))
    (hnot : (puttingInPlace log, .ok ()) ∉ history) :
    Archived directory mode log folder folder₁ history := by
  unfold Archived InReach
  simp [h, hnot]

theorem append (h : Archived directory mode log folder folder₁ history)
    (h' : Archived directory mode log folder₁ folder₂ more) :
    Archived directory mode log folder folder₂ (history ++ more) := by
  unfold Archived at *
  rw [h', h, List.mem_append]
  tauto

end Archived

section

variable {a : Archiver} {place : List Files.Name} {mode : Nat} {log : String} {folder : Folder}
    {state : Node × Plan}

/-- Acts one after another leave what they leave if the first of them fails, or what the others
leave. -/
theorem archived_cons {what : Act} {rest : List Act}
    (hat : At a.directory place mode False folder state)
    (hnames : ∀ name ∈ what.names, IsName name)
    (hrename : ∀ source target, what = .rename source target →
      isDirectory (folder (.text source)) = false)
    (hfirst : ∀ result folder₁, Outcome a.directory mode False folder what result folder₁ →
      Archived a.directory mode log folder folder₁ [(what, result)])
    (hrest : ∀ folder₁ state₁, Outcome a.directory mode False folder what (.ok ()) folder₁ →
      At a.directory place mode False folder₁ state₁ → ∃ folder₂,
        At a.directory place mode False folder₂
          ((Script.acts rest).run (troubled a.directory) state₁).1 ∧
          Archived a.directory mode log folder₁ folder₂
            ((Script.acts rest).history (troubled a.directory) state₁)) :
    ∃ folder₂, At a.directory place mode False folder₂
      ((Script.acts (what :: rest)).run (troubled a.directory) state).1 ∧
      Archived a.directory mode log folder folder₂
        ((Script.acts (what :: rest)).history (troubled a.directory) state) := by
  obtain ⟨folder₁, hshows, houtcome, -⟩ := outcome_of_troubled hat hnames hrename
  have hat₁ := At.mk hshows (houtcome.ordinary hat.ordinary hnames) False.elim
  simp only [Script.acts, Script.run, Script.history]
  cases hresult : ((troubled a.directory).act state what).2 with
  | error fault =>
    rw [hresult] at houtcome
    exact ⟨folder₁, hat₁, hfirst _ folder₁ houtcome⟩
  | ok done =>
    rw [hresult] at houtcome
    obtain ⟨folder₂, hat₂, harchived⟩ := hrest folder₁ _ houtcome hat₁
    exact ⟨folder₂, hat₂, (hfirst _ folder₁ houtcome).append harchived⟩

/-- An act that is not about the archive neither makes it nor takes it away. -/
theorem archived_of_frame {what : Act} (hframe : archiveName log ∉ what.names)
    {result : Except Files.Fault Unit} {folder₁ : Folder}
    (h : Outcome a.directory mode False folder what result folder₁) :
    Archived a.directory mode log folder folder₁ [(what, result)] := by
  refine .of_same (h.frame hframe) fun hmem => hframe ?_
  obtain ⟨rfl, -⟩ := Prod.mk.inj (List.mem_singleton.mp hmem)
  simp [puttingInPlace, Act.names]

variable (hlog : IsLog a.fileStem log) (hslash : '/' ∉ log.toList)
include hlog hslash

/-- What is put in place has been filled before, so it is a file. -/
theorem archived_packing (hat : At a.directory place mode False folder state) :
    ∃ folder', At a.directory place mode False folder'
        ((Script.acts (Archiver.packing log)).run (troubled a.directory) state).1 ∧
      Archived a.directory mode log folder folder'
        ((Script.acts (Archiver.packing log)).history (troubled a.directory) state) := by
  have hself := isName_log hlog hslash
  have hdraft := isName_partial hlog hslash
  have harchive := isName_archive hlog hslash
  have hne := (log_ne_archive hlog hlog).symm
  have hne' := archive_ne_partial hlog hlog
  refine archived_cons hat (by simpa [Act.names] using hself) (fun _ _ h => by cases h)
    (fun _ _ => archived_of_frame (by simpa [Act.names] using hne)) fun opened state₁ _ hopened =>
      ?_
  refine archived_cons hopened (by simpa [Act.names] using hdraft) (fun _ _ h => by cases h)
    (fun _ _ => archived_of_frame (by simpa [Act.names] using hne'))
      fun created state₂ _ hcreated => ?_
  refine archived_cons hcreated (by simpa [Act.names] using ⟨hself, hdraft⟩)
    (fun _ _ h => by cases h)
    (fun _ _ => archived_of_frame (by simpa [Act.names] using ⟨hne, hne'⟩))
      fun filled state₃ houtcome hfilled => ?_
  obtain ⟨m, written, hwritten⟩ : ∃ m written, filled (.text (partialName log)) =
      some (.file m written) := by
    cases houtcome with
    | done hok =>
      obtain ⟨body, -, hwrite⟩ := ok_of_bind.mp hok
      obtain ⟨m, -, rfl⟩ := writeIn_eq_ok.mp hwrite
      exact ⟨m, body.pack, Function.update_self ..⟩
  refine archived_cons hfilled (by simpa [Act.names] using ⟨hdraft, harchive⟩) ?_ ?_
    fun renamed state₄ _ hrenamed => ?_
  · rintro source target ⟨⟩
    rw [hwritten]
    rfl
  · intro result renamed hrename
    rcases hrename.rename hwritten with ⟨rfl, -, -, hreach, -, rfl⟩ | ⟨⟨fault, rfl⟩, rfl, -⟩
    · unfold Archived InReach
      rw [Function.update_self]
      simp [puttingInPlace, hreach, isFile, Node.isFile]
    · exact .of_same rfl (by simp)
  · refine archived_cons hrenamed (by simpa [Act.names] using hself) (fun _ _ h => by cases h)
      (fun _ _ => archived_of_frame (by simpa [Act.names] using hne))
        fun removed state₅ _ hremoved => ?_
    exact ⟨removed, hremoved, .of_same rfl List.not_mem_nil⟩

end

theorem acts_compress {σ : Type} (handler : Handler σ) (a : Archiver) (log : String) (state : σ) :
    ((a.compress log).run handler state).1 =
    ((Script.acts (Archiver.packing log)).run handler state).1 ∧
      (a.compress log).history handler state = (Script.acts (Archiver.packing log)).history
        handler state := by
  unfold Archiver.compress
  rw [Script.run_bind, history_bind]
  dsimp only
  cases ((Script.acts (Archiver.packing log)).run handler state).2.2 <;>
    exact ⟨rfl, List.append_nil _⟩

section

variable {a : Archiver} {place : List Files.Name} {mode : Nat} {log : String} {folder : Folder}
  {state : Node × Plan}
  (hlog : IsLog a.fileStem log)
include hlog

/-- Packing a log makes its archive, and has nothing to do with the archives of other logs. -/
theorem archived_compress {other : String} (hother : IsLog a.fileStem other)
    (hslash : '/' ∉ other.toList) (h : Hosts a.directory place mode folder state.1) :
    ∃ folder', Hosts a.directory place mode folder'
      ((a.compress other).run (troubled a.directory) state).1.1 ∧
      Archived a.directory mode log folder folder'
        ((a.compress other).history (troubled a.directory) state) := by
  by_cases hne : other = log
  · subst hne
    obtain ⟨hstate, hhistory⟩ := acts_compress (troubled a.directory) a other state
    obtain ⟨folder', hat, harchived⟩ := archived_packing hother hslash h.at
    rw [← hstate] at hat
    rw [← hhistory] at harchived
    exact ⟨folder', h.run _ hat, harchived⟩
  · obtain ⟨folder', hhosts, hframe, -⟩ := disposes_compress hother hslash folder state h
    refine ⟨folder', hhosts, .of_same ?_ fun hmem => ?_⟩
    · exact hframe _ (dayNames_disjoint hother hlog (Ne.symm hne) _ (by simp [dayNames]))
    · have hdone : puttingInPlace log ∈ Archiver.packing other :=
        mem_acts_compress (troubled a.directory) a state (List.mem_map_of_mem hmem)
      simp only [puttingInPlace, Archiver.packing, List.mem_cons, reduceCtorEq, Act.rename.injEq,
        partialName_inj hlog hother, List.not_mem_nil, or_false, false_or] at hdone
      exact hne hdone.1.symm

theorem archived_each {names : List String}
    (hnames : ∀ name ∈ names, IsLog a.fileStem name ∧ '/' ∉ name.toList)
    (h : Hosts a.directory place mode folder state.1) :
    ∃ folder', Hosts a.directory place mode folder'
      ((Archiver.each a.compress names).run (troubled a.directory) state).1.1 ∧
      Archived a.directory mode log folder folder'
        ((Archiver.each a.compress names).history (troubled a.directory) state) := by
  induction names generalizing folder state with
  | nil => exact ⟨folder, h, .of_same rfl List.not_mem_nil⟩
  | cons name rest ih =>
    obtain ⟨hislog, hslash⟩ := hnames name List.mem_cons_self
    obtain ⟨folder₁, hhosts₁, harchived₁⟩ := archived_compress hlog hislog hslash h
    obtain ⟨folder₂, hhosts₂, harchived₂⟩ :=
      ih (fun other hmem => hnames other (List.mem_cons_of_mem _ hmem)) hhosts₁
    rw [each_cons, history_each_cons]
    exact ⟨folder₂, hhosts₂, harchived₁.append harchived₂⟩

theorem archived_sweep {wanted : Date → Bool} {later : Node × Plan} {said : List Event}
    {report : Report} {folder' : Folder} (h : Hosts a.directory place mode folder state.1)
    (hread : mayRead mode = true)
    (hrun : (a.sweep fileTag wanted a.compress).run.run (troubled a.directory) state =
      (later, said, .ok report)) (h' : Hosts a.directory place mode folder' later.1) :
    Archived a.directory mode log folder folder'
      ((a.sweep fileTag wanted a.compress).run.history (troubled a.directory) state) := by
  rw [h.run_sweep hread] at hrun
  obtain ⟨rfl, -⟩ := Prod.mk.inj hrun
  rw [h.history_sweep hread]
  have hnames : ∀ name ∈ a.found fileTag wanted state.1, IsLog a.fileStem name ∧
      '/' ∉ name.toList := by
    intro name hname
    obtain ⟨date, hdate, -, -, hfile⟩ := (h.mem_found (Or.inl rfl) hread).mp hname
    refine ⟨⟨date, hdate⟩, h.ordinary.no_slash name fun hnone => ?_⟩
    rw [hnone] at hfile
    cases hfile
  obtain ⟨folder₁, hhosts₁, harchived⟩ := archived_each hlog hnames h
  rw [← h'.folderAt_eq, hhosts₁.folderAt_eq]
  exact harchived

end

end Chassis.Logging.Archive
