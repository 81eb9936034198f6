-- Runs of scripts, taken apart: a script after another one, files dealt with one after another, and
-- a sweep over what has been listed.
import Chassis.Logging.Archive.Pass

namespace Chassis.Logging.Archive

open Calendar (Date)

/-! ## Scripts in sequence -/

section

variable {σ α β : Type} {handler : Handler σ}

theorem Script.run_bind (script : Script α) (f : α → Script β) (state : σ) :
    (script >>= f).run handler state =
      let first := script.run handler state
      let rest := (f first.2.2).run handler first.1
      (rest.1, first.2.1 ++ rest.2.1, rest.2.2) := by
  change (script.bind f).run handler state = _
  induction script generalizing state with
  | done value => rfl
  | note event rest ih => simp only [Script.bind, Script.run, ih, List.cons_append]
  | list next ih => exact ih _ state
  | act what next ih => exact ih _ _

theorem run_bind_ok {state left : σ} {events : List Event} {value : α}
    {script : ExceptT Files.Fault Script α}
    (h : script.run.run handler state = (left, events, .ok value))
    (f : α → ExceptT Files.Fault Script β) :
    (script >>= f).run.run handler state =
      let rest := (f value).run.run handler left
      (rest.1, events ++ rest.2.1, rest.2.2) := by
  rw [ExceptT.run_bind, Script.run_bind, h]

theorem run_bind_error {state left : σ} {events : List Event} {fault : Files.Fault}
    {script : ExceptT Files.Fault Script α}
    (h : script.run.run handler state = (left, events, .error fault))
    (f : α → ExceptT Files.Fault Script β) :
    (script >>= f).run.run handler state = (left, events, .error fault) := by
  rw [ExceptT.run_bind, Script.run_bind, h]
  exact Prod.ext rfl (Prod.ext (List.append_nil events) rfl)

/-- What every act keeps is kept when a script is carried out. -/
theorem Script.run_keeps (kept : σ → Prop)
    (hact : ∀ state what, kept state → kept (handler.act state what).1) (script : Script α)
    {state : σ} (h : kept state) : kept (script.run handler state).1 := by
  induction script generalizing state with
  | done value => exact h
  | note event rest ih => exact ih h
  | list next ih => exact ih _ h
  | act what next ih => exact ih _ (hact state what h)

end

/-! ## Reports are added up in any order -/

namespace Report

@[simp]
theorem compressed_add (a b : Report) : (a + b).compressed = a.compressed + b.compressed := rfl

@[simp]
theorem pruned_add (a b : Report) : (a + b).pruned = a.pruned + b.pruned := rfl

@[simp]
theorem failed_add (a b : Report) : (a + b).failed = a.failed + b.failed := rfl

theorem add_assoc (a b c : Report) : a + b + c = a + (b + c) := by
  change Report.mk _ _ _ = Report.mk _ _ _
  rw [Report.mk.injEq]
  exact ⟨Nat.add_assoc _ _ _, Nat.add_assoc _ _ _, Nat.add_assoc _ _ _⟩

theorem add_left_comm (a b c : Report) : a + (b + c) = b + (a + c) := by
  change Report.mk _ _ _ = Report.mk _ _ _
  rw [Report.mk.injEq]
  exact ⟨Nat.add_left_comm _ _ _, Nat.add_left_comm _ _ _, Nat.add_left_comm _ _ _⟩

end Report

/-! ## Files one after another -/

theorem each_cons {σ : Type} (handler : Handler σ) (handle : String → Script Report) (name : String)
    (rest : List String) (state : σ) :
    (Archiver.each handle (name :: rest)).run handler state =
      let first := (handle name).run handler state
      let others := (Archiver.each handle rest).run handler first.1
      (others.1, first.2.1 ++ others.2.1, first.2.2 + others.2.2) := by
  simp only [Archiver.each, Script.run_bind]
  rw [show Script.run handler _ (pure _) = (_, [], _) from rfl, List.append_nil]

/-- The files of a listing that a sweep deals with. -/
def Archiver.swept (a : Archiver) (tag : String) (wanted : Date → Bool) (listing : List Entry) :
    List String :=
  ((a.dated tag listing).filter (wanted ·.2)).map (·.1)

theorem sweep_run {σ : Type} {handler : Handler σ} {state : σ} {listing : List Entry}
    (hlist : handler.list state = .ok listing) (a : Archiver) (tag : String) (wanted : Date → Bool)
    (handle : String → Script Report) :
    (a.sweep tag wanted handle).run.run handler state =
      let all := (Archiver.each handle (a.swept tag wanted listing)).run handler state
      (all.1, all.2.1, .ok all.2.2) := by
  simp only [Archiver.sweep, ExceptT.run_mk, Script.run, hlist, Script.run_bind]
  rw [show Script.run handler _ (pure _) = (_, [], _) from rfl, List.append_nil]
  rfl

/-! ## Passes -/

/-- The days that are over on a day. -/
def past (today date : Date) : Bool := date.dayNumber < today.dayNumber

/-- The days whose archives are not kept. -/
def before (kept : Int) (date : Date) : Bool := date.dayNumber < kept

/-- The event of a pass that did something. -/
def Report.summary (report : Report) : List Event := if report = .none then []
    else [Archiver.finishedEvent report]

theorem pass_eq (a : Archiver) (today : Date) (kept : Int) : a.pass today kept = (do
    let partials ← a.sweep partialTag (fun _ => true) a.removePartial
    let logs ← a.sweep fileTag (past today) a.compress
    let archives ← a.sweep archiveTag (before kept) a.prune
    let report := partials + logs + archives
    if report ≠ .none then ExceptT.lift (Script.say (Archiver.finishedEvent report))
    return report) := rfl

/-- A pass whose sweeps all come to their ends. -/
theorem pass_run {σ : Type} {handler : Handler σ} {state first second third : σ} {a : Archiver}
    {today : Date} {kept : Int}
    {said₁ said₂ said₃ : List Event} {partials logs archives : Report}
    (hpartials : (a.sweep partialTag (fun _ => true) a.removePartial).run.run handler state =
      (first, said₁, .ok partials))
    (hlogs : (a.sweep fileTag (past today) a.compress).run.run handler first =
      (second, said₂, .ok logs))
    (harchives : (a.sweep archiveTag (before kept) a.prune).run.run handler second =
      (third, said₃, .ok archives)) :
    let report := partials + logs + archives
    (a.pass today kept).run.run handler state =
        (third, said₁ ++ (said₂ ++ (said₃ ++ report.summary)), .ok report) := by
  unfold Report.summary
  rw [pass_eq, run_bind_ok hpartials]
  dsimp only
  rw [run_bind_ok hlogs]
  dsimp only
  rw [run_bind_ok harchives]
  dsimp only
  by_cases hreport : partials + logs + archives = .none
  · rw [if_neg (not_not_intro hreport), if_pos hreport]
    rfl
  · rw [if_pos hreport, if_neg hreport]
    rfl

end Chassis.Logging.Archive
