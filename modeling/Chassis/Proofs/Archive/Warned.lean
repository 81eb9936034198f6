-- Warnings of a pass. When a pass has come to its end, a log of a day that is over is gone, or the
-- pass has said that it could not pack the log. That holds whatever goes wrong.
import Chassis.Proofs.Archive.Packable
import Chassis.Proofs.Archive.Runs

namespace Chassis.Logging.Archive

open Calendar (Date)
open Files (Body Node barrier? mayRead)

/-! ## What scripts say -/

/-- Dealing with files one after another comes to each of them in turn, and says what that says. -/
theorem each_meets {σ : Type} {handler : Handler σ} {handle : String → Script Report}
    {names : List String}
    {inv : σ → Prop} {rel : σ → σ → Prop} (hrefl : ∀ s, rel s s)
    (htrans : ∀ {s t u}, rel s t → rel t u → rel s u)
    (hstep : ∀ name ∈ names, ∀ s, inv s →
      inv ((handle name).run handler s).1 ∧ rel s ((handle name).run handler s).1) {state : σ}
    (h : inv state) :
    rel state ((Archiver.each handle names).run handler state).1 ∧ ∀ name ∈ names, ∃ s, inv s ∧
      rel ((handle name).run handler s).1 ((Archiver.each handle names).run handler state).1 ∧
      ((handle name).run handler s).2.1 ⊆ ((Archiver.each handle names).run handler state).2.1 := by
  induction names generalizing state with
  | nil => exact ⟨hrefl state, nofun⟩
  | cons first rest ih =>
    obtain ⟨hinv, hrel⟩ := hstep first List.mem_cons_self state h
    obtain ⟨hothers, hmeets⟩ :=
      ih (fun name hname => hstep name (List.mem_cons_of_mem _ hname)) hinv
    rw [each_cons]
    refine ⟨htrans hrel hothers, fun name hname => ?_⟩
    rcases List.mem_cons.mp hname with rfl | hrest
    · exact ⟨state, h, hothers, List.subset_append_left _ _⟩
    · obtain ⟨s, hs, hlater, hsaid⟩ := hmeets name hrest
      exact ⟨s, hs, hlater, List.subset_append_of_subset_right _ hsaid⟩

/-- A log that could not be packed is warned of. -/
theorem compress_says {σ : Type} (handler : Handler σ) (a : Archiver) (log : String) (state : σ) :
    ((a.compress log).run handler state).2.2 = .oneCompressed ∨
      ∃ fault, a.failedEvent "Failed to compress rotated log file" log fault ∈
        ((a.compress log).run handler state).2.1 := by
  unfold Archiver.compress
  rw [Script.run_bind]
  rcases (Script.acts (Archiver.packing log)).run handler state with ⟨left, events, fault | done⟩
  · exact Or.inr ⟨fault, List.mem_append_right _ List.mem_cons_self⟩
  · exact Or.inl rfl

/-! ## Logs that are left behind -/

/-- A log stays as it was, or goes. -/
theorem DayFiles.log_of_moves {p : Powers} {rotated expired : Bool} {f g : DayFiles}
    (hmoves : Moves p rotated expired f g) : g.log = f.log ∨ g.log = none := by
  induction hmoves with
  | refl => exact Or.inl rfl
  | tail _ hmove ih =>
    cases hmove with
    | drop _ _ _ _ _ _ _ => exact Or.inr rfl
    | _ => exact ih

section

variable {a : Archiver} {place : List Files.Name} {mode : Nat} {calm : Prop} {folder : Folder}
  {state : Node × Plan}
  {today : Date} {log : String} {date : Date}

theorem Evolved.log_eq {stem directory : String} {rotated expired : Date → Bool} {folder' : Folder}
    (h : Evolved stem directory mode rotated expired folder folder')
    (hdate : dateIn? stem fileTag log = some date) (hlog : folder' (.text log) ≠ none) :
    folder (.text log) = folder' (.text log) := by
  rcases DayFiles.log_of_moves (h.days log date hdate) with hsame | hgone
  · exact hsame.symm
  · exact absurd hgone hlog

/-- What the log directory of a state may have become in a pass. -/
def Later (a : Archiver) (mode : Nat) (rotated expired : Date → Bool) (state later : Node × Plan) :
    Prop :=
  Evolved a.fileStem a.directory mode rotated expired (folderAt state.1 a.directory)
    (folderAt later.1 a.directory)

theorem Reached.later {rotated expired : Date → Bool}
    (hat : At a.directory place mode calm folder state) {later : Node × Plan}
    (h : Reached a place mode calm rotated expired folder later) :
    Later a mode rotated expired state later := by
  obtain ⟨folder', hat', hevolved⟩ := h
  unfold Later
  rw [folderAt_eq hat, folderAt_eq hat']
  exact hevolved

/-- A sweep over the logs of days that are over packs a log, or warns of it. -/
theorem sweep_logs_says (hat : At a.directory place mode calm folder state)
    (hread : mayRead mode = true) (hdate : dateIn? a.fileStem fileTag log = some date)
    (hover : past today date = true) (hreach : barrier? a.directory mode log = none)
    (hfile : isFile (folder (.text log)) = true) :
    folderAt ((a.sweep fileTag (past today) a.compress).run.run (troubled a.directory) state).1.1
        a.directory (.text log) = none ∨
      ∃ fault, a.failedEvent "Failed to compress rotated log file" log fault ∈
        ((a.sweep fileTag (past today) a.compress).run.run (troubled a.directory) state).2.1 := by
  obtain ⟨listing, hlisting⟩ := list_of_at hat hread
  have hlist : (troubled a.directory).list state = .ok listing := hlisting
  rw [sweep_run hlist]
  obtain ⟨entries, hopens, hget⟩ := hat.shows
  have hmem := mem_swept (a := a) hopens (hget ▸ hat.ordinary) (Or.inl rfl) hlisting (past today)
  rw [hget] at hmem
  -- On the way through the sweep the directory stands open, and logs only go.
  have hstep : ∀ name ∈ ((a.dated fileTag listing).filter (past today ·.2)).map (·.1), ∀ s,
      (∃ folder', At a.directory place mode calm folder' s) →
      (∃ folder',
        At a.directory place mode calm folder' ((a.compress name).run (troubled a.directory) s).1) ∧
        Later a mode (past today) (fun _ => false) s
            ((a.compress name).run (troubled a.directory) s).1 := by
    rintro name hname s ⟨folder', hat'⟩
    obtain ⟨date', hdate', hover', -, hfile'⟩ := (hmem name).mp hname
    have hslash := hat.ordinary.no_slash name fun hnone => by
      rw [hnone] at hfile'
      cases hfile'
    obtain ⟨folder₁, hat₁, hwithin⟩ :=
      (always_compress ⟨date', hdate'⟩ hslash hover' hat').goal_run.1
    exact ⟨⟨folder₁, hat₁⟩, Reached.later hat' ⟨folder₁, hat₁, hwithin.evolved hdate'⟩⟩
  have hslash := hat.ordinary.no_slash log fun hnone => by
    rw [hnone] at hfile
    cases hfile
  obtain ⟨s, ⟨folder', hat'⟩, hlater, hsaid⟩ :=
    (each_meets (fun _ => .refl) (fun h h' => h.trans h') hstep
    ⟨folder, hat⟩).2 log ((hmem log).mpr ⟨date, hdate, hover, hreach, hfile⟩)
  rcases compress_says (troubled a.directory) a log s with hpacked | ⟨fault, hevent⟩
  · refine Or.inl ?_
    have halways : Script.Always _ (Touched a log place mode calm folder' (past today date) false) _
        s (a.compress log) :=
      always_compress ⟨date, hdate⟩ hslash hover hat'
    have hgone := halways.goal_run.2.2.2 hpacked
    by_contra hthere
    exact hthere ((Evolved.log_eq hlater hdate hthere).symm.trans hgone)
  · exact Or.inr ⟨fault, hsaid hevent⟩

theorem runOn_of_kept {σ : Type} {kept : Int} (hkept : a.oldestKept? today = some kept)
    (handler : Handler σ) (state : σ) :
    (a.runOn today handler state).1 = ((a.pass today kept).run.run handler state).1 ∧
      (a.runOn today handler state).2.1 = ((a.pass today kept).run.run handler state).2.1 := by
  unfold Archiver.runOn
  rw [hkept]
  dsimp only
  rcases (a.pass today kept).run.run handler state with ⟨left, events, fault | report⟩ <;>
    exact ⟨rfl, rfl⟩

/-- A log of a day that is over and that is still there when a pass has come to its end is warned
of. -/
theorem runOn_warns (hat : At a.directory place mode calm folder state)
    (hread : mayRead mode = true) {kept : Int} (hkept : a.oldestKept? today = some kept)
    (hdate : dateIn? a.fileStem fileTag log = some date) (hover : past today date = true)
    (hreach : barrier? a.directory mode log = none)
    (hfile : isFile
      (folderAt (a.runOn today (troubled a.directory) state).1.1 a.directory (.text log)) = true) :
    ∃ fault, a.failedEvent "Failed to compress rotated log file" log fault ∈
      (a.runOn today (troubled a.directory) state).2.1 := by
  have hpartials : Reached a place mode calm (past today) (before kept) folder _ ∧ _ :=
    (always_sweep sweeps_partials hat hread).goal_run
  obtain ⟨⟨folder₁, hat₁, -⟩, ⟨partials, hpartials⟩, -⟩ := hpartials
  have hlogs : Reached a place mode calm (past today) (before kept) folder₁ _ ∧ _ :=
    (always_sweep sweeps_logs hat₁ hread).goal_run
  obtain ⟨⟨folder₂, hat₂, hevolved₂⟩, ⟨logs, hlogs⟩, -⟩ := hlogs
  have harchives : Reached a place mode calm (past today) (before kept) folder₂ _ ∧ _ :=
    (always_sweep sweeps_archives hat₂ hread).goal_run
  obtain ⟨⟨folder₃, hat₃, hevolved₃⟩, ⟨archives, harchives⟩, -⟩ := harchives
  have hpass : (a.pass today kept).run.run (troubled a.directory) state = _ := pass_run
    (Prod.ext rfl (Prod.ext rfl hpartials)) (Prod.ext rfl (Prod.ext rfl hlogs))
      (Prod.ext rfl (Prod.ext rfl harchives))
  obtain ⟨hleft, hsaid⟩ := runOn_of_kept hkept (troubled a.directory) state
  rw [hleft, hpass, folderAt_eq hat₃] at hfile
  rw [hsaid, hpass]
  -- What is there in the end was there when the logs were listed.
  have hthere : folder₃ (.text log) ≠ none := fun hnone => by
    rw [hnone] at hfile
    cases hfile
  rw [← (hevolved₂.trans hevolved₃).log_eq hdate hthere] at hfile
  have hsays : folderAt _ a.directory (.text log) = none ∨ _ :=
    sweep_logs_says hat₁ hread hdate hover hreach hfile
  rcases hsays with hgone | ⟨fault, hevent⟩
  · rw [folderAt_eq hat₂, hevolved₃.log_eq hdate hthere] at hgone
    exact absurd hgone hthere
  · exact ⟨fault, List.mem_append_right _ (List.mem_append_left _ hevent)⟩

end

/-- A pass says that a log could not be packed. -/
def SaysFailed (a : Archiver) (log : String) (said : List Event) : Prop :=
  ∃ fault, a.failedEvent "Failed to compress rotated log file" log fault ∈ said

/-- What a pass without trouble leaves behind of the logs of days that are over, it warns of. -/
theorem runOnFiles_warns {a : Archiver} {today date : Date} {tree : Node} {place : List Files.Name}
    {mode : Nat} {folder : Folder} (hshows : Shows a.directory place mode tree folder)
    (hplain : Ordinary folder) (hread : mayRead mode = true) {kept : Int}
    (hkept : a.oldestKept? today = some kept) {log : String}
    (hdate : dateIn? a.fileStem fileTag log = some date) (hover : past today date = true)
    (hreach : barrier? a.directory mode log = none)
    (hfile : isFile (folderAt (a.runOnFiles today tree).1 a.directory (.text log)) = true) :
    SaysFailed a log (a.runOnFiles today tree).2.1 := by
  have hat : At a.directory place mode True folder (tree, []) := ⟨hshows, hplain, fun _ => rfl⟩
  have hwarns := runOn_warns hat hread hkept hdate hover hreach
  rw [runOn_troubled_nil] at hwarns
  exact hwarns hfile

end Chassis.Logging.Archive
