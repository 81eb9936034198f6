-- The order of listings does not matter. In a tree, a script on the files of a day does what it
-- does in the folder; days may be dealt with in any order there, and a sweep finds the same files
-- however they are listed. So sweeps, and passes, are the same for every order, but for the order
-- of what is said.
import Chassis.Proofs.Archive.Apart
import Chassis.Proofs.Archive.Found
import Chassis.Proofs.Archive.Retention

namespace Chassis.Logging.Archive

open Calendar (Date)
open Files (Body HasDistinctNames IsName Node barrier? distinct_empty distinct_file mayRead)

/-! ## Listings in any order -/

/-- How a script can be carried out when every listing comes in an order of its own. -/
inductive Script.Carried {σ α : Type} (handler : Handler σ) : σ → Script α → σ →
    List Event → α → Prop
  | done {state : σ} {value : α} : Carried handler state (.done value) state [] value
  | note {state later : σ} {event : Event} {rest : Script α} {said : List Event} {value : α} :
      Carried handler state rest later said value →
        Carried handler state (.note event rest) later (event :: said) value
  | listed {state later : σ} {next : Except Files.Fault (List Entry) → Script α}
      {listing order : List Entry}
      {said : List Event} {value : α} :
      handler.list state = .ok listing → order.Perm listing →
        Carried handler state (next (.ok order)) later said value →
      Carried handler state (.list next) later said value
  | unlisted {state later : σ} {next : Except Files.Fault (List Entry) → Script α}
      {fault : Files.Fault}
      {said : List Event} {value : α} :
      handler.list state = .error fault →
        Carried handler state (next (.error fault)) later said value →
      Carried handler state (.list next) later said value
  | act {state later : σ} {what : Act} {next : Except Files.Fault Unit → Script α}
      {said : List Event} {value : α} :
      Carried handler (handler.act state what).1 (next (handler.act state what).2) later
        said value →
      Carried handler state (.act what next) later said value

/-- How a pass on a day can go when every listing comes in an order of its own. -/
inductive Archiver.MayRun {σ : Type} (a : Archiver) (today : Date) (handler : Handler σ)
    (state : σ) :
    σ → List Event → PassEnd → Prop
  | crashed : a.oldestKept? today = none → MayRun a today handler state state [] .crashed
  | ended {oldestKept : Int} {later : σ} {said : List Event} {result : Except Files.Fault Report} :
      a.oldestKept? today = some oldestKept →
      (a.pass today oldestKept).run.Carried handler state later said result →
      MayRun a today handler state later said (.ofResult result)

/-- A handler that lists what another one lists, in an order of its own. -/
structure Handler.Reorders {σ : Type} (other handler : Handler σ) : Prop where
  act : other.act = handler.act
  listed : ∀ {state order}, other.list state = .ok order →
    ∃ listing, handler.list state = .ok listing ∧ order.Perm listing
  unlisted : ∀ {state fault}, other.list state = .error fault → handler.list state = .error fault

theorem Handler.Reorders.refl {σ : Type} (handler : Handler σ) : handler.Reorders handler :=
  ⟨rfl, fun hlist => ⟨_, hlist, .refl _⟩, id⟩

namespace Script

variable {σ α β : Type} {handler : Handler σ}

/-- A handler with an order of its own carries scripts out in one of those ways. -/
theorem carried_run {other : Handler σ} (h : other.Reorders handler) (script : Script α)
    (state : σ) :
    script.Carried handler state (script.run other state).1 (script.run other state).2.1
      (script.run other state).2.2 := by
  induction script generalizing state with
  | done value => exact .done
  | note event rest ih => exact .note (ih state)
  | list next ih =>
    cases hlist : other.list state with
    | ok order =>
      obtain ⟨listing, hlisting, hperm⟩ := h.listed hlist
      simp only [run, hlist]
      exact .listed hlisting hperm (ih _ state)
    | error fault =>
      simp only [run, hlist]
      exact .unlisted (h.unlisted hlist) (ih _ state)
  | act what next ih =>
    simp only [run, h.act]
    exact .act (ih _ _)

theorem Carried.bind_inv {script : Script α} {f : α → Script β} {state later : σ}
    {said : List Event} {value : β} (h : (script >>= f).Carried handler state later said value) :
    ∃ middle first between second, script.Carried handler state middle first between ∧
      (f between).Carried handler middle later second value ∧ said = first ++ second := by
  change (script.bind f).Carried handler state later said value at h
  induction script generalizing state said with
  | done between => exact ⟨state, [], between, said, .done, h, rfl⟩
  | note event rest ih =>
    cases h with
    | note hrest =>
      obtain ⟨middle, first, between, second, hfirst, hsecond, rfl⟩ := ih hrest
      exact ⟨middle, event :: first, between, second, .note hfirst, hsecond, rfl⟩
  | list next ih =>
    cases h with
    | listed hlist hperm hrest =>
      obtain ⟨middle, first, between, second, hfirst, hsecond, rfl⟩ := ih _ hrest
      exact ⟨middle, first, between, second, .listed hlist hperm hfirst, hsecond, rfl⟩
    | unlisted hlist hrest =>
      obtain ⟨middle, first, between, second, hfirst, hsecond, rfl⟩ := ih _ hrest
      exact ⟨middle, first, between, second, .unlisted hlist hfirst, hsecond, rfl⟩
  | act what next ih =>
    cases h with
    | act hrest =>
      obtain ⟨middle, first, between, second, hfirst, hsecond, rfl⟩ := ih _ hrest
      exact ⟨middle, first, between, second, .act hfirst, hsecond, rfl⟩

/-- Without a listing there is nothing to be carried out in another way. -/
theorem Carried.eq_run {names : List Files.Name} {script : Script α} (hscript : script.ActsOn names)
    {state later : σ} {said : List Event} {value : α}
    (h : script.Carried handler state later said value) :
    script.run handler state = (later, said, value) := by
  induction h with
  | done => rfl
  | note _ ih => simp only [run, ih hscript]
  | listed => exact hscript.elim
  | unlisted => exact hscript.elim
  | act _ ih => exact ih (hscript.2 _)

end Script

/-! ## A tree does what its folder does -/

namespace Script

variable {α β : Type} (directory : String) (mode : Nat)

/-- A script that keeps to names in the directory, and renames nothing but files. -/
def Fits : Folder → Script α → Prop
  | _, done _ => True
  | folder, note _ rest => Fits folder rest
  | _, list _ => False
  | folder, act what next => (∀ name ∈ what.names, IsName name) ∧
      (∀ source target, what = .rename source target →
        isDirectory (folder (.text source)) = false) ∧
      Fits ((inFolder directory mode).act folder what).1
        (next ((inFolder directory mode).act folder what).2)

variable {directory mode} {place : List Files.Name} {folder : Folder} {tree : Node}

theorem fits_bind {script : Script α} {f : α → Script β} (h : Fits directory mode folder script)
    (hf : Fits directory mode (script.run (inFolder directory mode) folder).1
      (f (script.run (inFolder directory mode) folder).2.2)) :
    Fits directory mode folder (script >>= f) := by
  change Fits directory mode folder (script.bind f)
  induction script generalizing folder with
  | done value => exact hf
  | note event rest ih => exact ih h hf
  | list next ih => exact h.elim
  | act what next ih => exact ⟨h.1, h.2.1, ih _ h.2.2 hf⟩

/-- Acts one after another fit if each of them fits where those before it have succeeded. -/
theorem fits_acts_cons {what : Act} {rest : List Act} (hnames : ∀ name ∈ what.names, IsName name)
    (hrename : ∀ source target, what = .rename source target →
      isDirectory (folder (.text source)) = false)
    (hrest : ∀ later, actIn directory mode folder what = .ok later →
      Fits directory mode later (Script.acts rest)) :
    Fits directory mode folder (Script.acts (what :: rest)) := by
  refine ⟨hnames, hrename, ?_⟩
  unfold inFolder
  dsimp only
  cases hact : actIn directory mode folder what with
  | error fault => exact trivial
  | ok later => exact hrest later hact

theorem act_hosts (h : Hosts directory place mode folder tree) {what : Act}
    (hnames : ∀ name ∈ what.names, IsName name)
    (hrename : ∀ source target, what = .rename source target →
      isDirectory (folder (.text source)) = false) :
    Hosts directory place mode ((inFolder directory mode).act folder what).1
      ((onFiles directory).act tree what).1 ∧
      ((onFiles directory).act tree what).2 = ((inFolder directory mode).act folder what).2 := by
  obtain ⟨⟨entries, hopens, rfl⟩, hordinary, hdistinct⟩ := h
  have hagrees := actOn_agrees hopens hordinary what hnames hrename
  have hlater : HasDistinctNames ((onFiles directory).act tree what).1 :=
    distinct_onFiles hdistinct what
  unfold onFiles inFolder at *
  dsimp only at *
  cases hin : actIn directory mode (Files.Entries.get? entries) what with
  | error fault =>
    cases hon : actOn directory tree what with
    | error fault' =>
      rw [hin, hon] at hagrees
      exact ⟨⟨⟨entries, hopens, rfl⟩, hordinary, hdistinct⟩, congrArg _ hagrees⟩
    | ok tree' => rw [hin, hon] at hagrees; exact hagrees.elim
  | ok folder' =>
    cases hon : actOn directory tree what with
    | error fault' => rw [hin, hon] at hagrees; exact hagrees.elim
    | ok tree' =>
      rw [hin, hon] at hagrees
      rw [hon] at hlater
      exact ⟨⟨hagrees, hordinary.actIn hnames hin, hlater⟩, rfl⟩

/-- A script that fits does in a tree what it does in the folder. -/
theorem run_hosts {script : Script α} (hscript : Fits directory mode folder script)
    (h : Hosts directory place mode folder tree) :
    Hosts directory place mode (script.run (inFolder directory mode) folder).1
        (script.run (onFiles directory) tree).1 ∧
      (script.run (onFiles directory) tree).2 =
      (script.run (inFolder directory mode) folder).2 := by
  induction script generalizing folder tree with
  | done value => exact ⟨h, rfl⟩
  | note event rest ih =>
    obtain ⟨hhosts, hsaid⟩ := ih hscript h
    exact ⟨hhosts, congrArg (fun said => (event :: said.1, said.2)) hsaid⟩
  | list next ih => exact hscript.elim
  | act what next ih =>
    obtain ⟨hhosts, hresult⟩ := act_hosts h hscript.1 hscript.2.1
    simp only [run]
    rw [hresult]
    exact ih _ hscript.2.2 hhosts

end Script

section

variable {a : Archiver} {directory : String} {mode : Nat} {log : String}
  (hlog : IsLog a.fileStem log)
  (hslash : '/' ∉ log.toList)
include hlog hslash

theorem fits_removePartial (folder : Folder) :
    Script.Fits directory mode folder (a.removePartial (partialName log)) := by
  refine ⟨by simpa [Act.names] using isName_partial hlog hslash, fun _ _ h => (by cases h), ?_⟩
  cases ((inFolder directory mode).act folder (.remove (partialName log))).2 <;> exact trivial

theorem fits_prune (folder : Folder) :
    Script.Fits directory mode folder (a.prune (archiveName log)) := by
  refine ⟨by simpa [Act.names] using isName_archive hlog hslash, fun _ _ h => (by cases h), ?_⟩
  cases ((inFolder directory mode).act folder (.remove (archiveName log))).2 <;> exact trivial

/-- What is renamed has just been written, so it is a file. -/
theorem fits_compress (folder : Folder) : Script.Fits directory mode folder (a.compress log) := by
  have hself := isName_log hlog hslash
  have hdraft := isName_partial hlog hslash
  have harchive := isName_archive hlog hslash
  refine Script.fits_bind ?_ ?_
  · refine Script.fits_acts_cons (by simpa [Act.names] using hself) (fun _ _ h => by cases h)
      fun opened _ => ?_
    refine Script.fits_acts_cons (by simpa [Act.names] using hdraft) (fun _ _ h => by cases h)
      fun created _ => ?_
    refine Script.fits_acts_cons (by simpa [Act.names] using ⟨hself, hdraft⟩)
      (fun _ _ h => by cases h)
      fun filled hfill => ?_
    refine Script.fits_acts_cons (by simpa [Act.names] using ⟨hdraft, harchive⟩) ?_ fun renamed _ =>
      ?_
    · rintro source target ⟨⟩
      obtain ⟨body, -, hwrite⟩ := ok_of_bind.mp hfill
      obtain ⟨m, -, rfl⟩ := writeIn_eq_ok.mp hwrite
      rw [Function.update_self]
      rfl
    · exact Script.fits_acts_cons (by simpa [Act.names] using hself) (fun _ _ h => by cases h)
        fun _ _ => trivial
  · cases ((Script.acts (Archiver.packing log)).run (inFolder directory mode) folder).2.2 <;>
      exact trivial

end

/-! ## Scripts for which the order does not matter -/

/-- In trees with the same folder the script ends in trees with the same folder, with the same
value, and it says the same, whatever the orders are in which it is given its listings. -/
def OrderFree {α : Type} (directory : String) (place : List Files.Name) (mode : Nat)
    (script : Script α) : Prop :=
  ∀ ⦃folder : Folder⦄ ⦃tree other : Node⦄, Hosts directory place mode folder tree →
    Hosts directory place mode folder other →
    ∀ ⦃later later' : Node⦄ ⦃said said' : List Event⦄ ⦃value value' : α⦄,
      script.Carried (onFiles directory) tree later said value →
      script.Carried (onFiles directory) other later' said' value' →
      value = value' ∧ said.Perm said' ∧
        ∃ folder', Hosts directory place mode folder' later ∧
          Hosts directory place mode folder' later'

namespace OrderFree

variable {directory : String} {place : List Files.Name} {mode : Nat} {α β : Type}

theorem done (value : α) : OrderFree directory place mode (.done value) := by
  intro folder tree other h h' later later' said said' found found' hcarried hcarried'
  cases hcarried
  cases hcarried'
  exact ⟨rfl, .refl _, folder, h, h'⟩

theorem note {script : Script α} (h : OrderFree directory place mode script) (event : Event) :
    OrderFree directory place mode (.note event script) := by
  intro folder tree other htree hother later later' said said' value value' hcarried hcarried'
  cases hcarried with | note hrest =>
  cases hcarried' with | note hrest' =>
  obtain ⟨hvalue, hsaid, hlater⟩ := h htree hother hrest hrest'
  exact ⟨hvalue, hsaid.cons event, hlater⟩

theorem bind {script : Script α} {f : α → Script β} (h : OrderFree directory place mode script)
    (hf : ∀ value, OrderFree directory place mode (f value)) :
    OrderFree directory place mode (script >>= f) := by
  intro folder tree other htree hother later later' said said' value value' hcarried hcarried'
  obtain ⟨middle, first, between, second, hfirst, hsecond, rfl⟩ := hcarried.bind_inv
  obtain ⟨middle', first', between', second', hfirst', hsecond', rfl⟩ := hcarried'.bind_inv
  obtain ⟨rfl, hsaid, folder₁, hmiddle, hmiddle'⟩ := h htree hother hfirst hfirst'
  obtain ⟨hvalue, hmore, hlater⟩ := hf between hmiddle hmiddle' hsecond hsecond'
  exact ⟨hvalue, hsaid.append hmore, hlater⟩

end OrderFree

/-! ## Sweeps -/

section

variable {σ : Type} {handler : Handler σ} {state later : σ} {said : List Event}
    {handle : String → Script Report}

theorem each_carried {names : List String}
    (hacts : ∀ name ∈ names, ∃ scope, (handle name).ActsOn scope) {report : Report}
    (h : (Archiver.each handle names).Carried handler state later said report) :
    (Archiver.each handle names).run handler state = (later, said, report) := by
  induction names generalizing state said report with
  | nil =>
    cases h
    rfl
  | cons name rest ih =>
    obtain ⟨middle, first, report₁, second, hfirst, hrest, rfl⟩ := h.bind_inv
    obtain ⟨last, others, report₂, third, hothers, hdone, rfl⟩ := hrest.bind_inv
    obtain ⟨scope, hscope⟩ := hacts name List.mem_cons_self
    have hone := hfirst.eq_run hscope
    cases hdone
    have hmore := ih (fun other hother => hacts other (List.mem_cons_of_mem _ hother)) hothers
    rw [each_cons, hone]
    dsimp only
    rw [hmore, List.append_nil]

variable {a : Archiver} {tag : String} {wanted : Date → Bool} {result : Except Files.Fault Report}
  (h : (a.sweep tag wanted handle).run.Carried handler state later said result)
include h

theorem sweep_listed {listing : List Entry} (hlist : handler.list state = .ok listing) :
    ∃ order report, order.Perm listing ∧ result = .ok report ∧
      (Archiver.each handle (a.swept tag wanted order)).Carried handler state later said
        report := by
  cases h with
  | listed hlist' hperm hrest =>
    rw [hlist] at hlist'
    cases hlist'
    obtain ⟨middle, first, report, second, heach, hdone, rfl⟩ := hrest.bind_inv
    cases hdone
    rw [List.append_nil]
    exact ⟨_, report, hperm, rfl, heach⟩
  | unlisted hlist' _ =>
    rw [hlist] at hlist'
    cases hlist'

theorem sweep_unlisted {fault : Files.Fault} (hlist : handler.list state = .error fault) :
    later = state ∧ said = [] ∧ result = .error fault := by
  cases h with
  | listed hlist' _ _ =>
    rw [hlist] at hlist'
    cases hlist'
  | unlisted hlist' hrest =>
    rw [hlist] at hlist'
    cases hlist'
    cases hrest
    exact ⟨rfl, rfl, rfl⟩

end

section

variable {a : Archiver} {place : List Files.Name} {mode : Nat} {handle : String → Script Report}

theorem fits_each {directory : String} {names : List String}
    (h : ∀ name ∈ names, ∀ folder, Script.Fits directory mode folder (handle name))
    (folder : Folder) :
    Script.Fits directory mode folder (Archiver.each handle names) := by
  induction names generalizing folder with
  | nil => exact trivial
  | cons name rest ih =>
    refine Script.fits_bind (h name List.mem_cons_self folder) (Script.fits_bind ?_ trivial)
    exact ih (fun other hother => h other (List.mem_cons_of_mem _ hother)) _

/-- A sweep that deals with a file of a day at a time, and keeps to the names of that day. -/
structure KeepsToDays (a : Archiver) (tag : String) (handle : String → Script Report)
    (key : String → String) :
    Prop where
  known : tag = fileTag ∨ tag = archiveTag ∨ tag = partialTag
  finds : ∀ name date, dateIn? a.fileStem tag name = some date →
    ∃ log, name = key log ∧ IsLog a.fileStem log ∧ ('/' ∉ name.toList → '/' ∉ log.toList)
  acts : ∀ log, (handle (key log)).ActsOn (dayNames log)
  fits : ∀ log, IsLog a.fileStem log → '/' ∉ log.toList → ∀ directory mode folder,
    Script.Fits directory mode folder (handle (key log))

section

variable {tag : String} {key : String → String} (hsweep : KeepsToDays a tag handle key)
    {wanted : Date → Bool}
include hsweep

theorem day_of_swept {folder : Folder} {tree : Node} (h : Hosts a.directory place mode folder tree)
    {listing order : List Entry} (hlisting : listOn a.directory tree = .ok listing)
    (horder : order.Perm listing) :
    ∀ name ∈ a.swept tag wanted order, ∃ log, name = key log ∧ IsLog a.fileStem log ∧
      '/' ∉ log.toList := by
  intro name hname
  obtain ⟨date, hdate, -, -, hfile⟩ :=
    (h.mem_swept_iff hsweep.known hlisting).mp ((swept_perm horder).mem_iff.mp hname)
  obtain ⟨log, rfl, hlog, hslash⟩ := hsweep.finds name date hdate
  refine ⟨log, rfl, hlog, hslash (h.ordinary.no_slash (key log) fun hnone => ?_)⟩
  rw [hnone] at hfile
  cases hfile

/-- Dealing with such files does in a tree what it does in the folder. -/
theorem each_hosts {folder : Folder} {tree later : Node}
    (h : Hosts a.directory place mode folder tree) {names : List String}
    (hdays : ∀ name ∈ names, ∃ log, name = key log ∧ IsLog a.fileStem log ∧ '/' ∉ log.toList)
    {said : List Event} {report : Report}
    (hcarried : (Archiver.each handle names).Carried (onFiles a.directory) tree later said report) :
    let here := (Archiver.each handle names).run (inFolder a.directory mode) folder
    Hosts a.directory place mode here.1 later ∧ said = here.2.1 ∧ report = here.2.2 := by
  have hacts : ∀ name ∈ names, ∃ scope, (handle name).ActsOn scope := by
    intro name hname
    obtain ⟨log, rfl, -, -⟩ := hdays name hname
    exact ⟨dayNames log, hsweep.acts log⟩
  have hfits : ∀ name ∈ names, ∀ folder, Script.Fits a.directory mode folder (handle name) := by
    intro name hname folder
    obtain ⟨log, rfl, hlog, hslash⟩ := hdays name hname
    exact hsweep.fits log hlog hslash a.directory mode folder
  obtain ⟨hhosts, hsame⟩ := Script.run_hosts (fits_each hfits folder) h
  rw [each_carried hacts hcarried] at hhosts hsame
  obtain ⟨hsaid, hreport⟩ := Prod.mk.inj hsame
  exact ⟨hhosts, hsaid, hreport⟩

/-- Each file that is found is dealt with apart from all others, so a sweep may come to them in any
order. -/
theorem orderFree_sweep : OrderFree a.directory place mode (a.sweep tag wanted handle).run := by
  intro folder tree other h h' later later' said said' result result' hcarried hcarried'
  cases hread : mayRead mode with
  | false =>
    obtain ⟨rfl, rfl, rfl⟩ := sweep_unlisted hcarried (list_denied h.shows hread)
    obtain ⟨rfl, rfl, rfl⟩ := sweep_unlisted hcarried' (list_denied h'.shows hread)
    exact ⟨rfl, .refl _, folder, h, h'⟩
  | true =>
    obtain ⟨listing, hlist, -⟩ := h.list_eq hread
    obtain ⟨listing', hlist', -⟩ := h'.list_eq hread
    obtain ⟨order, report, horder, rfl, heach⟩ := sweep_listed hcarried hlist
    obtain ⟨order', report', horder', rfl, heach'⟩ := sweep_listed hcarried' hlist'
    have hdays : ∀ name ∈ a.swept tag wanted order, _ := day_of_swept hsweep h hlist horder
    have hdays' : ∀ name ∈ a.swept tag wanted order', _ := day_of_swept hsweep h' hlist' horder'
    have hfound : (a.swept tag wanted listing).Perm (a.swept tag wanted listing') := by
      have hsame : (a.found tag wanted tree).Perm (a.found tag wanted other) :=
        h'.found_perm hsweep.known hread h fun _ _ _ => rfl
      rwa [found_eq hlist, found_eq hlist'] at hsame
    have hperm := (swept_perm horder).trans (hfound.trans (swept_perm horder').symm)
    obtain ⟨hlater, rfl, rfl⟩ := each_hosts hsweep h hdays heach
    obtain ⟨hlater', rfl, rfl⟩ := each_hosts hsweep h' hdays' heach'
    obtain ⟨hfolder, hsaid, hreport⟩ :=
      each_perm a.directory mode hperm (fun name hname other hother hne => by
      obtain ⟨log, rfl, hlog, -⟩ := hdays name hname
      obtain ⟨log', rfl, hlog', -⟩ := hdays other hother
      exact apart_of_logs hlog hlog' (fun heq => hne (congrArg key heq)) (hsweep.acts log)
        (hsweep.acts log')) folder
    rw [← hfolder] at hlater'
    exact ⟨congrArg _ hreport, hsaid, _, hlater, hlater'⟩

end

variable (a)

theorem keepsToDays_partials : KeepsToDays a partialTag a.removePartial partialName where
  known := Or.inr (Or.inr rfl)
  finds name date hdate := by
    obtain ⟨log, rfl, hlog⟩ := dateIn?_partialTag.mp hdate
    exact ⟨log, rfl, ⟨date, hlog⟩, by simp [partialName_eq ⟨date, hlog⟩]⟩
  acts := actsOn_removePartial a
  fits _ hlog hslash _ _ folder := fits_removePartial hlog hslash folder

theorem keepsToDays_logs : KeepsToDays a fileTag a.compress (fun log => log) where
  known := Or.inl rfl
  finds name date hdate := ⟨name, rfl, ⟨date, hdate⟩, id⟩
  acts := actsOn_compress a
  fits _ hlog hslash _ _ folder := fits_compress hlog hslash folder

theorem keepsToDays_archives : KeepsToDays a archiveTag a.prune archiveName where
  known := Or.inr (Or.inl rfl)
  finds name date hdate := by
    obtain ⟨log, rfl, hlog⟩ := dateIn?_archiveTag.mp hdate
    exact ⟨log, rfl, ⟨date, hlog⟩, by simp [archiveName_eq ⟨date, hlog⟩]⟩
  acts := actsOn_prune a
  fits _ hlog hslash _ _ folder := fits_prune hlog hslash folder

end

/-! ## Passes -/

theorem orderFree_pass (a : Archiver) (today : Date) (kept : Int) (place : List Files.Name)
    (mode : Nat) :
    OrderFree a.directory place mode (a.pass today kept).run := by
  unfold Archiver.pass
  simp only [ExceptT.run_bind]
  refine (orderFree_sweep (keepsToDays_partials a)).bind fun partials => ?_
  cases partials with
  | error fault => exact .done _
  | ok partials =>
    refine (orderFree_sweep (keepsToDays_logs a)).bind fun logs => ?_
    cases logs with
    | error fault => exact .done _
    | ok logs =>
      refine (orderFree_sweep (keepsToDays_archives a)).bind fun archives => ?_
      cases archives with
      | error fault => exact .done _
      | ok archives =>
        dsimp only
        split
        · exact (OrderFree.done _).note _
        · exact .done _

/-- A directory that cannot be listed is left alone, and nothing is said. -/
theorem pass_unlisted {σ : Type} {handler : Handler σ} {state later : σ} {said : List Event}
    {result : Except Files.Fault Report} {fault : Files.Fault}
    (hlist : handler.list state = .error fault) {a : Archiver} {today : Date} {kept : Int}
    (h : (a.pass today kept).run.Carried handler state later said result) :
    later = state ∧ said = [] ∧ result = .error fault := by
  unfold Archiver.pass at h
  rw [ExceptT.run_bind] at h
  obtain ⟨middle, first, between, second, hfirst, hsecond, rfl⟩ := h.bind_inv
  obtain ⟨rfl, rfl, rfl⟩ := sweep_unlisted hfirst hlist
  cases hsecond
  exact ⟨rfl, rfl, rfl⟩

theorem mayRun_runOn {σ : Type} {handler other : Handler σ} (h : other.Reorders handler)
    (a : Archiver) (today : Date) (state : σ) :
    a.MayRun today handler state (a.runOn today other state).1 (a.runOn today other state).2.1
      (a.runOn today other state).2.2 := by
  by_cases hreached : Date.firstDay ≤ a.keptFrom today
  · rw [runOn_of_reached a today other state hreached]
    exact .ended (oldestKept?_of_le hreached) (Script.carried_run h _ state)
  · rw [runOn_of_unreached a today other state (by omega)]
    exact .crashed (oldestKept?_eq_none.mpr (by omega))

/-- On any day, over any log directory without links in which names are distinct. A pass goes as it
may go when each of its three listings comes in an order of its own; and however it goes then, it
leaves the same log directory and ends in the same way, with the same report. What it says is the
same, but for the order. -/
theorem the_order_of_listings_does_not_matter {a : Archiver} {tree : Node}
    (hplain : Ordinary (folderAt tree a.directory)) (hdistinct : HasDistinctNames tree)
    (today : Date) :
    let outcome := a.runOnFiles today tree
    a.MayRun today (onFiles a.directory) tree outcome.1 outcome.2.1 outcome.2.2 ∧
      ∀ later said ending, a.MayRun today (onFiles a.directory) tree later said ending →
        folderAt later a.directory = folderAt outcome.1 a.directory ∧ ending = outcome.2.2 ∧
          said.Perm outcome.2.1 := by
  intro outcome
  have hmay : a.MayRun today (onFiles a.directory) tree outcome.1 outcome.2.1 outcome.2.2 :=
    mayRun_runOn (.refl _) a today tree
  refine ⟨hmay, fun later said ending hother => ?_⟩
  generalize outcome.1 = after, outcome.2.1 = events, outcome.2.2 = finish at hmay ⊢
  cases hother with
  | crashed hnone =>
    cases hmay with
    | crashed _ => exact ⟨rfl, rfl, .refl _⟩
    | ended hsome _ =>
      rw [hnone] at hsome
      cases hsome
  | ended hsome hcarried =>
    cases hmay with
    | crashed hnone =>
      rw [hnone] at hsome
      cases hsome
    | ended hsome' hcarried' =>
      rw [hsome] at hsome'
      cases hsome'
      rcases shows_or_unlisted tree a.directory with ⟨place, mode, hshows⟩ | ⟨⟨fault, hunlisted⟩, -⟩
      · have hhosts : Hosts a.directory place mode _ tree := ⟨hshows, hplain, hdistinct⟩
        obtain ⟨rfl, hsaid, folder, hlater, hafter⟩ :=
          orderFree_pass a today _ place mode hhosts hhosts hcarried hcarried'
        rw [hlater.folderAt_eq, hafter.folderAt_eq]
        exact ⟨rfl, rfl, hsaid⟩
      · obtain ⟨rfl, rfl, rfl⟩ := pass_unlisted hunlisted hcarried
        obtain ⟨rfl, rfl, rfl⟩ := pass_unlisted hunlisted hcarried'
        exact ⟨rfl, rfl, .refl _⟩

/-- A directory that is listed backwards. -/
def backwards (directory : String) : Handler Node where
  list tree := (listOn directory tree).map List.reverse
  act := (onFiles directory).act

theorem reorders_backwards (directory : String) :
    (backwards directory).Reorders (onFiles directory) where
  act := rfl
  listed {tree order} hlist := by
    change (listOn directory tree).map List.reverse = .ok order at hlist
    cases hlisting : listOn directory tree with
    | error fault =>
      rw [hlisting] at hlist
      cases hlist
    | ok listing =>
      rw [hlisting] at hlist
      cases hlist
      exact ⟨listing, hlisting, List.reverse_perm listing⟩
  unlisted {tree fault} hlist := by
    change (listOn directory tree).map List.reverse = .error fault at hlist
    cases hlisting : listOn directory tree with
    | error other =>
      rw [hlisting] at hlist
      cases hlist
      exact hlisting
    | ok listing =>
      rw [hlisting] at hlist
      cases hlist

/-- The logs of two days that are over; the archive of one of them cannot be put in its place. -/
def twoLogs : Files.Entries := [
  (.text "app.2024-05-01.log", .file 0o644 (.plain [104])),
  (.text "app.2024-05-02.log", .file 0o644 (.plain [105])),
  (.text "app.2024-05-02.log.gz", .directory 0o755 [])]

/-- Listed backwards, the log that cannot be packed comes first. -/
theorem two_logs_may_come_backwards :
    let tree := withLogs 0o755 twoLogs
    let forth := weekly.runOnFiles thirdOfMay tree
    let back := weekly.runOn thirdOfMay (backwards "logs") tree
    Ordinary (folderAt tree "logs") ∧ HasDistinctNames tree ∧
      (backwards "logs").list tree ≠ (onFiles "logs").list tree ∧
        (∃ report, forth.2.2 = .finished report) ∧
      folderAt back.1 "logs" = folderAt forth.1 "logs" ∧ back.2.2 = forth.2.2 ∧
          back.2.1.Perm forth.2.1 := by
  intro tree forth back
  have hfolder : folderAt tree "logs" = Files.Entries.get? twoLogs :=
    folderAt_withLogs 0o755 twoLogs
  have hordinary : Ordinary (Files.Entries.get? twoLogs) := ordinary_of_entries (by decide)
  have hdistinct : HasDistinctNames tree :=
    distinct_withLogs (by decide) (by simp [twoLogs, distinct_file, distinct_empty])
  have hlists : (backwards "logs").list tree ≠ (onFiles "logs").list tree := by
    change (listOn "logs" tree).map List.reverse ≠ listOn "logs" tree
    rw [listOn_eq (opens_withLogs 0o755 twoLogs)]
    decide
  have hfinished : ∃ report, forth.2.2 = .finished report :=
    finished_of_shows (shows_withLogs 0o755 twoLogs) hordinary (by decide) rfl
  rw [← hfolder] at hordinary
  have hsame := (the_order_of_listings_does_not_matter hordinary hdistinct thirdOfMay).2 back.1
    back.2.1 back.2.2
    (mayRun_runOn (reorders_backwards "logs") weekly thirdOfMay tree)
  exact ⟨hordinary, hdistinct, hlists, hfinished, hsame⟩

end Chassis.Logging.Archive
