-- What a pass has done, act by act. Its report and what it says are sums over its acts, whoever
-- carries them out: files that were removed, and acts that failed. A log goes only right after its
-- archive is put in place.
import Chassis.Proofs.Archive.Names
import Chassis.Proofs.Archive.Runs

namespace Chassis.Logging.Archive

open Calendar (Date)

/-! ## Acts that were done -/

/-- Acts in their order, each with how it ended. -/
abbrev History := List (Act × Except Files.Fault Unit)

/-- The acts of a script when it is carried out. -/
def Script.history {σ α : Type} (handler : Handler σ) (state : σ) : Script α → History
  | done _ => []
  | note _ rest => history handler state rest
  | list next => history handler state (next (handler.list state))
  | act what next =>
    let (later, result) := handler.act state what
    (what, result) :: history handler later (next result)

/-- The acts of a pass on a day. -/
def Archiver.historyOn {σ : Type} (a : Archiver) (today : Date) (handler : Handler σ)
    (state : σ) : History :=
  match a.oldestKept? today with
  | none => []
  | some oldestKept => (a.pass today oldestKept).run.history handler state

section

variable {σ α β : Type} {handler : Handler σ}

theorem history_bind (script : Script α) (f : α → Script β) (state : σ) :
    (script >>= f).history handler state =
      let first := script.run handler state
      script.history handler state ++ (f first.2.2).history handler first.1 := by
  change (script.bind f).history handler state = _
  induction script generalizing state with
  | done value => rfl
  | note event rest ih => exact ih state
  | list next ih => exact ih _ state
  | act what next ih =>
    simp only [Script.bind, Script.history, Script.run, ih, List.cons_append]

theorem history_bind_ok {state left : σ} {events : List Event} {value : α}
    {script : ExceptT Files.Fault Script α}
    (h : script.run.run handler state = (left, events, .ok value))
    (f : α → ExceptT Files.Fault Script β) :
    (script >>= f).run.history handler state =
      script.run.history handler state ++ (f value).run.history handler left := by
  rw [ExceptT.run_bind, history_bind, h]

theorem history_each_cons (handle : String → Script Report) (name : String) (rest : List String)
    (state : σ) :
    (Archiver.each handle (name :: rest)).history handler state =
      (handle name).history handler state ++
        (Archiver.each handle rest).history handler ((handle name).run handler state).1 := by
  simp only [Archiver.each, history_bind]
  rw [show Script.history handler _ (pure _) = [] from rfl, List.append_nil]

theorem history_sweep {state : σ} {listing : List Entry} (hlist : handler.list state = .ok listing)
    (a : Archiver) (tag : String) (wanted : Date → Bool) (handle : String → Script Report) :
    (a.sweep tag wanted handle).run.history handler state =
      (Archiver.each handle (a.swept tag wanted listing)).history handler state := by
  simp only [Archiver.sweep, ExceptT.run_mk, Script.history, hlist, history_bind]
  rw [show Script.history handler _ (pure _) = [] from rfl, List.append_nil]
  rfl

/-- Acts one after another all succeed, or all up to one that fails. -/
theorem run_acts (handler : Handler σ) (acts : List Act) (state : σ) :
    let went := (Script.acts acts).run handler state
    let history := (Script.acts acts).history handler state
    went.2.1 = [] ∧ (went.2.2 = .ok () ∧ history = acts.map (·, .ok ()) ∨
      ∃ first what rest fault, acts = first ++ what :: rest ∧ went.2.2 = .error fault ∧
        history = first.map (·, .ok ()) ++ [(what, .error fault)]) := by
  induction acts generalizing state with
  | nil => exact ⟨rfl, Or.inl ⟨rfl, rfl⟩⟩
  | cons what rest ih =>
    rcases hact : handler.act state what with ⟨later, result⟩
    simp only [Script.acts, Script.run, Script.history, hact]
    cases result with
    | error fault => exact ⟨rfl, Or.inr ⟨[], what, rest, fault, rfl, rfl, rfl⟩⟩
    | ok done =>
      obtain ⟨hsaid, ⟨hok, hall⟩ | ⟨first, failed, after, fault, rfl, herror, hsome⟩⟩ := ih later
      · exact ⟨hsaid, Or.inl ⟨hok, congrArg _ hall⟩⟩
      · exact ⟨hsaid, Or.inr ⟨what :: first, failed, after, fault, rfl, herror, congrArg _ hsome⟩⟩

end

/-! ## Attempts -/

/-- How often an act was attempted. -/
def attempts (what : Act) (history : History) : Nat := (history.map (·.1)).count what

@[simp]
theorem attempts_append (what : Act) (history more : History) :
    attempts what (history ++ more) = attempts what history + attempts what more := by
  simp [attempts]

section

variable {σ : Type} {handler : Handler σ} {handle : String → Script Report} {what : Act}
    {names : List String}

/-- An act that belongs to one file is attempted as often as that file is dealt with. -/
theorem attempts_each {name : String}
    (h : ∀ other ∈ names, ∀ state, attempts what ((handle other).history handler state) = if other =
      name then 1 else 0)
    (state : σ) : attempts what ((Archiver.each handle names).history handler state) =
    names.count name := by
  induction names generalizing state with
  | nil => rfl
  | cons first rest ih =>
    rw [history_each_cons, attempts_append, h first List.mem_cons_self,
      ih (fun other hother => h other (List.mem_cons_of_mem _ hother)), List.count_cons,
      Nat.add_comm]
    simp

/-- Of files that are removed, each is removed in turn. -/
theorem acts_each_removed
    (h : ∀ name state, ((handle name).history handler state).map (·.1) = [.remove name])
    (state : σ) :
    ((Archiver.each handle names).history handler state).map (·.1) = names.map .remove := by
  induction names generalizing state with
  | nil => rfl
  | cons first rest ih =>
    rw [history_each_cons, List.map_append, h, ih]
    rfl

theorem mem_acts_each {state : σ}
    (h : what ∈ ((Archiver.each handle names).history handler state).map (·.1)) :
    ∃ name ∈ names, ∃ s, what ∈ ((handle name).history handler s).map (·.1) := by
  induction names generalizing state with
  | nil => cases h
  | cons first rest ih =>
    rw [history_each_cons, List.map_append] at h
    rcases List.mem_append.mp h with hfirst | hlater
    · exact ⟨first, List.mem_cons_self, state, hfirst⟩
    · obtain ⟨name, hname, s, hs⟩ := ih hlater
      exact ⟨name, List.mem_cons_of_mem _ hname, s, hs⟩

end

/-! ## Reports and their acts -/

/-- A file of a tag was removed. -/
def isRemoved (stem tag : String) : Act × Except Files.Fault Unit → Bool
  | (.remove name, .ok ()) => (dateIn? stem tag name).isSome
  | _ => false

/-- An act failed. -/
def isFailed : Act × Except Files.Fault Unit → Bool
  | (_, .ok ()) => false
  | (_, .error _) => true

/-- A report, and what is said, are what the acts give: logs that are removed after their archives
are put in place, archives that are removed, and acts that fail. -/
structure Tallied (stem : String) (history : History) (said : List Event)
    (report : Report) : Prop where
  compressed : report.compressed = history.countP (isRemoved stem fileTag)
  pruned : report.pruned = history.countP (isRemoved stem archiveTag)
  failed : report.failed = history.countP isFailed
  archived : ∀ log, IsLog stem log → (.remove log, .ok ()) ∈ history →
    [(.rename (partialName log) (archiveName log), .ok ()), (.remove log, .ok ())] <:+: history
  said_compressed : said.countP (·.message = "Compressed rotated log file") = report.compressed
  said_pruned : said.countP (·.message = "Pruned expired log archive") = report.pruned
  said_failed : said.countP (·.level = .warn) = report.failed
  said_no_end : ∀ event ∈ said, event.message ≠ "Log archival pass finished"

namespace Tallied

variable {stem : String}

theorem nil : Tallied stem [] [] .none :=
  ⟨rfl, rfl, rfl, fun _ _ h => (by cases h), rfl, rfl, rfl, fun _ h => (by cases h)⟩

theorem add {history history' : History} {said said' : List Event} {report report' : Report}
    (h : Tallied stem history said report) (h' : Tallied stem history' said' report') :
    Tallied stem (history ++ history') (said ++ said') (report + report') where
  compressed := by rw [List.countP_append, ← h.compressed, ← h'.compressed]; rfl
  pruned := by rw [List.countP_append, ← h.pruned, ← h'.pruned]; rfl
  failed := by rw [List.countP_append, ← h.failed, ← h'.failed]; rfl
  archived log hlog hmem := by
    rcases List.mem_append.mp hmem with hfirst | hsecond
    · exact (h.archived log hlog hfirst).trans (List.prefix_append _ _).isInfix
    · exact (h'.archived log hlog hsecond).trans (List.suffix_append _ _).isInfix
  said_compressed := by rw [List.countP_append, h.said_compressed, h'.said_compressed]; rfl
  said_pruned := by rw [List.countP_append, h.said_pruned, h'.said_pruned]; rfl
  said_failed := by rw [List.countP_append, h.said_failed, h'.said_failed]; rfl
  said_no_end event hevent :=
    (List.mem_append.mp hevent).elim (h.said_no_end event) (h'.said_no_end event)

/-- Acts of which the last one fails, and of which nothing but that is said. -/
theorem failed_last (first : List Act) (hfirst : ∀ name, .remove name ∉ first) (what : Act)
    (a : Archiver)
    {message : String}
    (hmessage : message ∉ ["Compressed rotated log file", "Pruned expired log archive",
      "Log archival pass finished"]) (name : String) (fault : Files.Fault) :
    Tallied stem (first.map (·, .ok ()) ++ [(what, .error fault)])
      [a.failedEvent message name fault] .oneFailed := by
  have hremoved (tag : String) :
      (first.map fun what => (what, Except.ok ())).countP (isRemoved stem tag) = 0 := by
    refine List.countP_eq_zero.mpr fun done hdone => ?_
    obtain ⟨other, hother, rfl⟩ := List.mem_map.mp hdone
    cases other with
    | remove other => exact absurd hother (hfirst other)
    | _ => simp [isRemoved]
  have hfailed : (first.map fun what => (what, Except.ok ())).countP isFailed = 0 := by
    simp [List.countP_eq_zero, isFailed]
  simp only [List.mem_cons, List.not_mem_nil, or_false, not_or] at hmessage
  refine ⟨?_, ?_, ?_, fun log _ hmem => ?_, ?_, ?_, ?_, ?_⟩
  · simp [hremoved, isRemoved, Report.oneFailed]
  · simp [hremoved, isRemoved, Report.oneFailed]
  · simp [hfailed, isFailed, Report.oneFailed]
  · simp [hfirst] at hmem
  · simp [Archiver.failedEvent, hmessage, Report.oneFailed]
  · simp [Archiver.failedEvent, hmessage, Report.oneFailed]
  · rfl
  · simp [Archiver.failedEvent, hmessage]

theorem each {σ : Type} {handler : Handler σ} {handle : String → Script Report}
    {names : List String}
    (h : ∀ name ∈ names, ∀ state, Tallied stem ((handle name).history handler state)
      ((handle name).run handler state).2.1 ((handle name).run handler state).2.2) (state : σ) :
    Tallied stem ((Archiver.each handle names).history handler state)
      ((Archiver.each handle names).run handler state).2.1
      ((Archiver.each handle names).run handler state).2.2 := by
  induction names generalizing state with
  | nil => exact .nil
  | cons name rest ih =>
    rw [history_each_cons, each_cons]
    exact (h name List.mem_cons_self state).add
      (ih (fun other hother => h other (List.mem_cons_of_mem _ hother)) _)

end Tallied

/-! ## Files one by one -/

section

variable {σ : Type} (handler : Handler σ) (a : Archiver) {log : String} (state : σ)

/-- A log is packed, or packing it stops at the first act that fails. -/
theorem run_compress (log : String) :
    let went := (a.compress log).run handler state
    let history := (a.compress log).history handler state
    (went.2 = ([a.dealtEvent "Compressed rotated log file" (archiveName log)], .oneCompressed) ∧
        history = (Archiver.packing log).map (·, .ok ())) ∨
      ∃ first what rest fault, Archiver.packing log = first ++ what :: rest ∧
        went.2 = ([a.failedEvent "Failed to compress rotated log file" log fault], .oneFailed) ∧
        history = first.map (·, .ok ()) ++ [(what, .error fault)] := by
  unfold Archiver.compress
  simp only [Script.run_bind, history_bind]
  obtain ⟨hsaid, ⟨hok, hall⟩ | ⟨first, what, rest, fault, hacts, herror, hsome⟩⟩ :=
    run_acts handler (Archiver.packing log) state
  · refine Or.inl ⟨?_, ?_⟩
    · rw [hsaid, hok]
      rfl
    · rw [hall, hok]
      exact List.append_nil _
  · refine Or.inr ⟨first, what, rest, fault, hacts, ?_, ?_⟩
    · rw [hsaid, herror]
      rfl
    · rw [hsome, herror]
      exact List.append_nil _

theorem history_removePartial (name : String) :
    (a.removePartial name).history handler state =
    [(.remove name, (handler.act state (.remove name)).2)] := by
  unfold Archiver.removePartial
  simp only [Script.history]
  split <;> rfl

theorem history_prune (name : String) :
    (a.prune name).history handler state =
    [(.remove name, (handler.act state (.remove name)).2)] := by
  unfold Archiver.prune
  simp only [Script.history]
  split <;> rfl

/-- Packing begins with looking at the log, and goes on in order. -/
theorem acts_of_compress (log : String) : ∃ rest, rest <+: (Archiver.packing log).tail ∧
    ((a.compress log).history handler state).map (·.1) = .openLog log :: rest := by
  obtain ⟨-, hall⟩ | ⟨first, what, rest, fault, hacts, -, hsome⟩ := run_compress handler a state log
  · exact ⟨_, List.prefix_rfl, by rw [hall]; rfl⟩
  · rw [hsome]
    cases first with
    | nil =>
      obtain ⟨rfl, -⟩ := List.cons.inj hacts
      exact ⟨[], List.nil_prefix, rfl⟩
    | cons head first =>
      obtain ⟨rfl, htail⟩ := List.cons.inj hacts
      refine ⟨first ++ [what], ⟨rest, ?_⟩, by simp [Function.comp_def]⟩
      rw [List.append_assoc]
      exact htail.symm

theorem attempts_compress (name log : String) :
    attempts (.openLog name) ((a.compress log).history handler state) = if log = name then 1
    else 0 := by
  obtain ⟨rest, hrest, hacts⟩ := acts_of_compress handler a state log
  have hnone : rest.count (.openLog name) = 0 := by
    refine List.count_eq_zero.mpr fun hmem => ?_
    simpa [Archiver.packing] using hrest.subset hmem
  rw [attempts, hacts, List.count_cons, hnone]
  simp

theorem mem_acts_compress {log : String} {what : Act}
    (h : what ∈ ((a.compress log).history handler state).map (·.1)) :
    what ∈ Archiver.packing log := by
  obtain ⟨rest, hrest, hacts⟩ := acts_of_compress handler a state log
  rw [hacts] at h
  rcases List.mem_cons.mp h with rfl | hlater
  · exact List.mem_cons_self
  · exact List.mem_of_mem_tail (hrest.subset hlater)

variable (hlog : IsLog a.fileStem log)
include hlog

theorem tallied_removePartial :
    Tallied a.fileStem ((a.removePartial (partialName log)).history handler state)
      ((a.removePartial (partialName log)).run handler state).2.1
      ((a.removePartial (partialName log)).run handler state).2.2 := by
  rw [history_removePartial]
  unfold Archiver.removePartial
  rcases hact : handler.act state (.remove (partialName log)) with ⟨later, fault | ⟨⟨⟩⟩⟩ <;>
    simp only [Script.run, hact]
  · exact .failed_last [] (by simp) (.remove (partialName log)) a (by decide) _ fault
  · refine ⟨?_, ?_, rfl, fun other hother hmem => ?_, rfl, rfl, rfl, by simp⟩
    · simp [isRemoved, dateIn?_fileTag_partial hlog, Report.none]
    · simp [isRemoved, dateIn?_archiveTag_partial hlog, Report.none]
    · simp only [List.mem_singleton, Prod.mk.injEq, Act.remove.injEq, and_true] at hmem
      exact absurd hmem (log_ne_partial hother hlog)

theorem tallied_prune :
    Tallied a.fileStem ((a.prune (archiveName log)).history handler state)
      ((a.prune (archiveName log)).run handler state).2.1
      ((a.prune (archiveName log)).run handler state).2.2 := by
  have harchive : (dateIn? a.fileStem archiveTag (archiveName log)).isSome = true := by
    obtain ⟨date, hdate⟩ := hlog
    rw [dateIn?_archiveTag.mpr ⟨log, rfl, hdate⟩]
    rfl
  rw [history_prune]
  unfold Archiver.prune
  rcases hact : handler.act state (.remove (archiveName log)) with ⟨later, fault | ⟨⟨⟩⟩⟩ <;>
    simp only [Script.run, hact]
  · exact .failed_last [] (by simp) (.remove (archiveName log)) a (by decide) _ fault
  · refine ⟨?_, ?_, rfl, fun other hother hmem => ?_, ?_, ?_, rfl, ?_⟩
    · simp [isRemoved, dateIn?_fileTag_archive hlog, Report.onePruned]
    · simp [isRemoved, harchive, Report.onePruned]
    · simp only [List.mem_singleton, Prod.mk.injEq, Act.remove.injEq, and_true] at hmem
      exact absurd hmem (log_ne_archive hother hlog)
    · simp [Archiver.dealtEvent, Report.onePruned]
    · simp [Archiver.dealtEvent, Report.onePruned]
    · simp [Archiver.dealtEvent]

/-- The log is what is removed last, so it is not removed when anything fails. -/
theorem tallied_compress :
    Tallied a.fileStem ((a.compress log).history handler state)
      ((a.compress log).run handler state).2.1
      ((a.compress log).run handler state).2.2 := by
  obtain ⟨hwent, hall⟩ | ⟨first, what, rest, fault, hacts, hwent, hsome⟩ :=
    run_compress handler a state log
  · have hself : (dateIn? a.fileStem fileTag log).isSome = true := by
      obtain ⟨date, hdate⟩ := hlog
      rw [hdate]
      rfl
    rw [hwent, hall]
    refine ⟨?_, ?_, ?_, fun other hother hmem => ?_, ?_, ?_, rfl, ?_⟩
    · simp [Archiver.packing, isRemoved, hself, Report.oneCompressed]
    · simp [Archiver.packing, isRemoved, dateIn?_archiveTag_log hlog, Report.oneCompressed]
    · simp [Archiver.packing, isFailed, Report.oneCompressed]
    · obtain rfl : other = log := by simpa [Archiver.packing] using hmem
      exact ((List.drop_suffix 3 (Archiver.packing other)).map fun what =>
        (what, Except.ok ())).isInfix
    · simp [Archiver.dealtEvent, Report.oneCompressed]
    · simp [Archiver.dealtEvent, Report.oneCompressed]
    · simp [Archiver.dealtEvent]
  · rw [hwent, hsome]
    refine .failed_last first (fun name hmem => ?_) what a (by decide) log fault
    have hlast : first ⊆ (Archiver.packing log).dropLast := by
      rw [hacts, List.dropLast_append_of_ne_nil (by simp)]
      exact List.subset_append_left _ _
    simpa [Archiver.packing] using hlast hmem

end

/-! ## Sweeps and passes -/

section

variable {σ : Type} {handler : Handler σ} {a : Archiver} {tag : String} {wanted : Date → Bool}
  {handle : String → Script Report}

theorem date_of_swept {listing : List Entry} {name : String}
    (h : name ∈ a.swept tag wanted listing) :
    ∃ date, dateIn? a.fileStem tag name = some date ∧ wanted date = true := by
  obtain ⟨⟨found, date⟩, hfound, rfl⟩ := List.mem_map.mp h
  obtain ⟨hdated, hwanted⟩ := List.mem_filter.mp hfound
  obtain ⟨entry, -, hentry⟩ := List.mem_filterMap.mp hdated
  simp only [Option.ite_none_right_eq_some, Option.bind_eq_some_iff, Option.map_eq_some_iff,
    Prod.mk.injEq] at hentry
  obtain ⟨-, text, -, date', hdate, rfl, rfl⟩ := hentry
  exact ⟨date', hdate, hwanted⟩

theorem tallied_sweep
    (h : ∀ name date, dateIn? a.fileStem tag name = some date → ∀ state, Tallied a.fileStem
      ((handle name).history handler state) ((handle name).run handler state).2.1
      ((handle name).run handler state).2.2)
    {state later : σ} {said : List Event} {report : Report}
    (hrun : (a.sweep tag wanted handle).run.run handler state = (later, said, .ok report)) :
    Tallied a.fileStem ((a.sweep tag wanted handle).run.history handler state) said report := by
  cases hlist : handler.list state with
  | error fault =>
    simp only [Archiver.sweep, ExceptT.run_mk, Script.run, hlist, Prod.mk.injEq] at hrun
    cases hrun.2.2
  | ok listing =>
    rw [sweep_run hlist] at hrun
    obtain ⟨-, hsaid⟩ := Prod.mk.inj hrun
    obtain ⟨rfl, hreport⟩ := Prod.mk.inj hsaid
    cases hreport
    rw [history_sweep hlist]
    refine .each (fun name hname => ?_) state
    obtain ⟨date, hdate, -⟩ := date_of_swept hname
    exact h name date hdate

variable {today : Date} {kept : Int} {state later : σ} {said : List Event} {report : Report}

theorem pass_inv (h : (a.pass today kept).run.run handler state = (later, said, .ok report)) :
    ∃ first second said₁ said₂ said₃ partials logs archives,
      (a.sweep partialTag (fun _ => true) a.removePartial).run.run handler state =
      (first, said₁, .ok partials) ∧
      (a.sweep fileTag (past today) a.compress).run.run handler first = (second, said₂, .ok logs) ∧
      (a.sweep archiveTag (before kept) a.prune).run.run handler second =
      (later, said₃, .ok archives) ∧
      report = partials + logs + archives ∧
      said = said₁ ++ (said₂ ++ (said₃ ++ report.summary)) := by
  rcases hpartials : (a.sweep partialTag (fun _ => true) a.removePartial).run.run handler state with
    ⟨first, said₁, fault | partials⟩
  · rw [pass_eq, run_bind_error hpartials] at h
    cases h
  rcases hlogs : (a.sweep fileTag (past today) a.compress).run.run handler first
    with ⟨second, said₂, fault | logs⟩
  · rw [pass_eq, run_bind_ok hpartials, run_bind_error hlogs] at h
    cases h
  rcases harchives : (a.sweep archiveTag (before kept) a.prune).run.run handler second with
    ⟨third, said₃, fault | archives⟩
  · rw [pass_eq, run_bind_ok hpartials] at h
    dsimp only at h
    rw [run_bind_ok hlogs] at h
    dsimp only at h
    rw [run_bind_error harchives] at h
    cases h
  · rw [pass_run hpartials hlogs harchives] at h
    cases h
    exact ⟨first, second, said₁, said₂, said₃, partials, logs, archives, rfl, hlogs,
      harchives, rfl, rfl⟩

theorem history_pass {first second third : σ} {said₁ said₂ said₃ : List Event}
    {partials logs archives : Report}
    (hpartials : (a.sweep partialTag (fun _ => true) a.removePartial).run.run handler state =
      (first, said₁, .ok partials))
    (hlogs : (a.sweep fileTag (past today) a.compress).run.run handler first =
      (second, said₂, .ok logs))
    (harchives : (a.sweep archiveTag (before kept) a.prune).run.run handler second =
      (third, said₃, .ok archives)) :
    (a.pass today kept).run.history handler state =
      (a.sweep partialTag (fun _ => true) a.removePartial).run.history handler state ++
        ((a.sweep fileTag (past today) a.compress).run.history handler first ++
          (a.sweep archiveTag (before kept) a.prune).run.history handler second) := by
  rw [pass_eq, history_bind_ok hpartials, history_bind_ok hlogs, history_bind_ok harchives]
  dsimp only
  split <;> exact congrArg _ (congrArg _ (List.append_nil _))

/-- The report of a pass that comes to its end is what its acts give, and so is what it says before
the end. In the end it says its report, if there is anything to report. -/
theorem tallied_pass (h : (a.pass today kept).run.run handler state = (later, said, .ok report)) :
    ∃ body, said = body ++ report.summary ∧
      Tallied a.fileStem ((a.pass today kept).run.history handler state) body report := by
  obtain ⟨first, second, said₁, said₂, said₃, partials, logs, archives, hpartials, hlogs, harchives,
      rfl, rfl⟩ :=
    pass_inv h
  refine ⟨said₁ ++ (said₂ ++ said₃), by simp, ?_⟩
  rw [history_pass hpartials hlogs harchives, Report.add_assoc]
  refine (tallied_sweep (fun name date hdate state => ?_) hpartials).add
    ((tallied_sweep (fun name date hdate state => ?_) hlogs).add
      (tallied_sweep (fun name date hdate state => ?_) harchives))
  · obtain ⟨log, rfl, hlog⟩ := dateIn?_partialTag.mp hdate
    exact tallied_removePartial handler a state ⟨date, hlog⟩
  · exact tallied_compress handler a state ⟨date, hdate⟩
  · obtain ⟨log, rfl, hlog⟩ := dateIn?_archiveTag.mp hdate
    exact tallied_prune handler a state ⟨date, hlog⟩

end

end Chassis.Logging.Archive
