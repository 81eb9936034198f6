-- Passes in trouble. Any act may go wrong, an act that writes may leave anything in its
-- target, and the pass may be cut off before any act. What holds all the way through a
-- script is shown by one rule for each kind of step.
import Chassis.Proofs.Archive.Folder

namespace Chassis.Logging.Archive

open Files (Body Entries Fault IsName Node barrier? mayWrite newFileMode)
open Function (update)

/-! ## What goes wrong -/

/-- An act that goes wrong: the fault that it ends with, and what it leaves in the file that it
was to write, if it came to that. -/
structure Mishap where
  fault : Fault
  left : Option Body

/-- For each act in turn, whether it goes wrong; the acts after the last one are left alone. -/
abbrev Plan := List (Option Mishap)

/-- The file that an act writes. -/
def Act.written? : Act → Option String
  | .create target => some target
  | .fill _ target => some target
  | _ => none

/-- What an act that goes wrong leaves of a tree. -/
def spoil (directory : String) (tree : Node) (what : Act) (left : Option Body) : Node :=
  match what.written?, left with
  | some target, some body =>
    match Files.write tree (Files.Path.join directory target) fun _ => body with
    | .ok tree => tree
    | .error _ => tree
  | _, _ => tree

/-- A directory of a tree of files where acts go wrong by a plan. -/
def troubled (directory : String) : Handler (Node × Plan) where
  list state := listOn directory state.1
  act state what :=
    match state.2 with
    | some mishap :: plan => ((spoil directory state.1 what mishap.left, plan), .error mishap.fault)
    | plan =>
      let (tree, result) := (onFiles directory).act state.1 what
      ((tree, plan.tail), result)

namespace Script

variable {σ α β : Type}

/-! ## All the way through a script -/

/-- Wherever the script is cut off something is safe, and in the end the goal is reached. -/
def Always (handler : Handler σ) (safe : σ → Prop) (goal : σ → α → Prop) : σ → Script α → Prop
  | state, done value => safe state ∧ goal state value
  | state, note _ rest => Always handler safe goal state rest
  | state, list next => Always handler safe goal state (next (handler.list state))
  | state, act what next =>
    safe state ∧ Always handler safe goal (handler.act state what).1
      (next (handler.act state what).2)

variable {handler : Handler σ} {safe : σ → Prop} {state : σ}

theorem Always.safe_cutAfter {goal : σ → α → Prop} {script : Script α}
    (h : Always handler safe goal state script) (count : Nat) :
    safe (cutAfter handler state count script) := by
  induction script generalizing state count with
  | done value =>
    rw [cutAfter]
    exact h.1
  | note event rest ih =>
    rw [cutAfter]
    exact ih h count
  | list next ih =>
    rw [cutAfter]
    exact ih _ h count
  | act what next ih =>
    cases count with
    | zero => exact h.1
    | succ count => exact ih _ h.2 count

theorem Always.goal_run {goal : σ → α → Prop} {script : Script α}
    (h : Always handler safe goal state script) :
    safe (run handler state script).1 ∧
    goal (run handler state script).1 (run handler state script).2.2 := by
  induction script generalizing state with
  | done value => exact h
  | note event rest ih => exact ih h
  | list next ih => exact ih _ h
  | act what next ih => exact ih _ h.2

theorem Always.mono {goal goal' : σ → α → Prop} {safe' : σ → Prop} {script : Script α}
    (h : Always handler safe goal state script) (hsafe : ∀ s, safe s → safe' s)
    (hgoal : ∀ s value, safe s → goal s value → goal' s value) :
    Always handler safe' goal' state script := by
  induction script generalizing state with
  | done value => exact ⟨hsafe _ h.1, hgoal _ _ h.1 h.2⟩
  | note event rest ih => exact ih h
  | list next ih => exact ih _ h
  | act what next ih => exact ⟨hsafe _ h.1, ih _ h.2⟩

theorem always_bind {goal : σ → β → Prop} {script : Script α} {f : α → Script β}
    (h : Always handler safe (fun s value => Always handler safe goal s (f value)) state script) :
    Always handler safe goal state (script >>= f) := by
  change Always handler safe goal state (script.bind f)
  induction script generalizing state with
  | done value => exact h.2
  | note event rest ih => exact ih h
  | list next ih => exact ih _ h
  | act what next ih => exact ⟨h.1, ih _ h.2⟩

end Script

/-! ## Outcomes of acts -/

/-- How an act can end in a folder. In calm nothing goes wrong of itself. -/
inductive Outcome (directory : String) (mode : Nat) (calm : Prop) (folder : Folder) (what : Act) :
    Except Fault Unit → Folder → Prop
  | done {folder' : Folder} : actIn directory mode folder what = .ok folder' →
      Outcome directory mode calm folder what (.ok ()) folder'
  | failed {fault : Fault} : (calm → actIn directory mode folder what = .error fault) →
      Outcome directory mode calm folder what (.error fault) folder
  | spoiled {fault : Fault} {target : String} {body : Body} {folder' : Folder} : ¬calm →
      what.written? = some target → writeIn directory mode folder target body = .ok folder' →
      Outcome directory mode calm folder what (.error fault) folder'

/-- The log directory is open, with a folder in it; in calm nothing is planned to go wrong. -/
structure At (directory : String) (place : List Files.Name) (mode : Nat) (calm : Prop)
    (folder : Folder) (state : Node × Plan) : Prop where
  shows : Shows directory place mode state.1 folder
  ordinary : Ordinary folder
  plan : calm → state.2 = []

section

variable {directory : String} {place : List Files.Name} {mode : Nat} {calm : Prop} {folder : Folder}
  {state : Node × Plan} {what : Act}

theorem written?_mem_names {target : String} (h : what.written? = some target) :
    target ∈ what.names := by
  cases what <;> simp_all [Act.written?, Act.names]

/-- An act on files that does not go wrong of itself has an outcome of the folder. -/
theorem outcome_of_onFiles (calm : Prop) {tree : Node} {entries : Entries}
    (hopens : Files.Opens tree directory place mode entries)
    (hagrees : Agrees directory place mode (actIn directory mode (Entries.get? entries) what)
      (actOn directory tree what)) :
    ∃ folder', Shows directory place mode ((onFiles directory).act tree what).1 folder' ∧
      Outcome directory mode calm (Entries.get? entries) what ((onFiles directory).act tree what).2
        folder' := by
  unfold onFiles
  simp only
  cases hon : actOn directory tree what with
  | ok tree' =>
    cases hin : actIn directory mode (Entries.get? entries) what with
    | ok folder' =>
      rw [hon, hin] at hagrees
      exact ⟨folder', hagrees, .done hin⟩
    | error fault => rw [hon, hin] at hagrees; exact hagrees.elim
  | error fault =>
    cases hin : actIn directory mode (Entries.get? entries) what with
    | ok folder' => rw [hon, hin] at hagrees; exact hagrees.elim
    | error fault' =>
      rw [hon, hin] at hagrees
      exact ⟨_, ⟨entries, hopens, rfl⟩,
        .failed fun _ => by rw [hin, show fault = fault' from hagrees]⟩

/-- An act that goes wrong leaves the folder, or leaves what it had written by then. -/
theorem outcome_of_mishap (hnot : ¬calm) {tree : Node} {entries : Entries}
    (hopens : Files.Opens tree directory place mode entries)
    (hordinary : Ordinary (Entries.get? entries)) (hnames : ∀ name ∈ what.names, IsName name)
    (left : Option Body) (fault : Fault) :
    ∃ folder', Shows directory place mode (spoil directory tree what left) folder' ∧
      Outcome directory mode calm (Entries.get? entries) what (.error fault) folder' := by
  have hunchanged : Shows directory place mode tree (Entries.get? entries) := ⟨entries, hopens, rfl⟩
  unfold spoil
  split
  · rename_i target body hwritten
    have hwrite := write_join hopens hordinary (hnames target (written?_mem_names hwritten)) body
    cases hresult : Files.write tree (Files.Path.join directory target) (fun _ => body) with
    | error other => exact ⟨_, hunchanged, .failed fun h => absurd h hnot⟩
    | ok tree' =>
      rw [hresult] at hwrite
      cases hin : writeIn directory mode (Entries.get? entries) target body with
      | error fault => rw [hin] at hwrite; exact hwrite.elim
      | ok folder' =>
        rw [hin] at hwrite
        exact ⟨folder', hwrite, .spoiled hnot hwritten hin⟩
  · exact ⟨_, hunchanged, .failed fun h => absurd h hnot⟩

/-- An act in trouble has one of the outcomes. -/
theorem outcome_of_troubled (hat : At directory place mode calm folder state)
    (hnames : ∀ name ∈ what.names, IsName name)
    (hrename : ∀ source target, what = .rename source target →
      isDirectory (folder (.text source)) = false) :
    ∃ folder', Shows directory place mode ((troubled directory).act state what).1.1 folder' ∧
      Outcome directory mode calm folder what ((troubled directory).act state what).2 folder' ∧
      (calm → ((troubled directory).act state what).1.2 = []) := by
  obtain ⟨tree, plan⟩ := state
  obtain ⟨⟨entries, hopens, hget⟩, hordinary, hcalm⟩ := hat
  subst hget
  have hagrees := actOn_agrees hopens hordinary what hnames hrename
  match plan with
  | some mishap :: plan =>
    have hnot : ¬calm := fun h => by simpa using hcalm h
    obtain ⟨folder', hshows, houtcome⟩ :=
      outcome_of_mishap hnot hopens hordinary hnames mishap.left mishap.fault
    exact ⟨folder', hshows, houtcome, fun h => absurd h hnot⟩
  | none :: plan =>
    obtain ⟨folder', hshows, houtcome⟩ := outcome_of_onFiles calm hopens hagrees
    exact ⟨folder', hshows, houtcome, fun h => by simpa using hcalm h⟩
  | [] =>
    obtain ⟨folder', hshows, houtcome⟩ := outcome_of_onFiles calm hopens hagrees
    exact ⟨folder', hshows, houtcome, fun _ => rfl⟩

/-! ## Folders stay ordinary -/

theorem Ordinary.update_entry (h : Ordinary folder) {name : String} (hname : IsName name)
    (node? : Option Node) (hnode : ∀ target, node? ≠ some (.link target)) :
    Ordinary (update folder (.text name) node?) := by
  refine ⟨fun other target => ?_, fun other hother => ?_⟩
  · rw [Function.update_apply]
    split
    · exact hnode target
    · exact h.no_link other target
  · rw [Function.update_apply] at hother
    split at hother
    · rename_i heq
      cases heq
      exact hname.no_slash
    · exact h.no_slash other hother

theorem Ordinary.writeIn (h : Ordinary folder) {name : String} (hname : IsName name) {body : Body}
    {folder' : Folder} (hok : writeIn directory mode folder name body = .ok folder') :
    Ordinary folder' := by
  unfold Archive.writeIn at hok
  split at hok
  · cases hok
  · split at hok <;> cases hok
    exact h.update_entry hname _ (by simp)
  · split at hok <;> cases hok
    exact h.update_entry hname _ (by simp)
  · cases hok

theorem Ordinary.renameIn (h : Ordinary folder) {source target : String} (hsource : IsName source)
    (htarget : IsName target) {folder' : Folder}
    (hok : renameIn directory mode folder source target = .ok folder') :
    Ordinary folder' := by
  unfold Archive.renameIn at hok
  split at hok
  · cases hok
  · cases hok
  · cases hok
  · rename_i node _ _ hnode
    split at hok
    · cases hok
    · split at hok <;> cases hok
      have hwithout := h.update_entry hsource none (by simp)
      refine hwithout.update_entry htarget _ fun link hlink => ?_
      exact h.no_link _ link (hnode.trans hlink)

theorem Ordinary.removeIn (h : Ordinary folder) {name : String} (hname : IsName name)
    {folder' : Folder} (hok : removeIn directory mode folder name = .ok folder') :
    Ordinary folder' := by
  unfold Archive.removeIn at hok
  split at hok
  · cases hok
  · cases hok
  · split at hok
    · cases hok
    · split at hok <;> cases hok
      exact h.update_entry hname none (by simp)

theorem Ordinary.actIn (h : Ordinary folder) (hnames : ∀ name ∈ what.names, IsName name)
    {folder' : Folder} (hok : actIn directory mode folder what = .ok folder') :
    Ordinary folder' := by
  cases what with
  | openLog name =>
    simp only [Archive.actIn] at hok
    cases hread : readIn directory mode folder name with
    | error fault => rw [hread] at hok; cases hok
    | ok body => rw [hread] at hok; cases hok; exact h
  | create name => exact h.writeIn (hnames name (by simp [Act.names])) hok
  | fill source target =>
    simp only [Archive.actIn] at hok
    cases hread : readIn directory mode folder source with
    | error fault => rw [hread] at hok; cases hok
    | ok body => rw [hread] at hok; exact h.writeIn (hnames target (by simp [Act.names])) hok
  | rename source target =>
    exact h.renameIn (hnames source (by simp [Act.names])) (hnames target (by simp [Act.names])) hok
  | remove name => exact h.removeIn (hnames name (by simp [Act.names])) hok

theorem Outcome.ordinary {result : Except Fault Unit} {folder' : Folder} (h : Ordinary folder)
    (hnames : ∀ name ∈ what.names, IsName name)
    (houtcome : Outcome directory mode calm folder what result folder') :
    Ordinary folder' := by
  cases houtcome with
  | done hok => exact h.actIn hnames hok
  | failed _ => exact h
  | spoiled _ hwritten hok => exact h.writeIn (hnames _ (written?_mem_names hwritten)) hok

/-- To show something of a script that acts, it is shown for each outcome of the act. -/
theorem always_act {α : Type} {safe : Node × Plan → Prop} {goal : Node × Plan → α → Prop}
    {next : Except Fault Unit → Script α} (hat : At directory place mode calm folder state)
    (hnames : ∀ name ∈ what.names, IsName name)
    (hrename : ∀ source target, what = .rename source target →
      isDirectory (folder (.text source)) = false)
    (hsafe : safe state)
    (hnext : ∀ state' result folder', At directory place mode calm folder' state' →
      Outcome directory mode calm folder what result folder' →
      (next result).Always (troubled directory) safe goal state') :
    (Script.act what next).Always (troubled directory) safe goal state := by
  obtain ⟨folder', hshows, houtcome, hplan⟩ := outcome_of_troubled hat hnames hrename
  exact ⟨hsafe, hnext _ _ folder' ⟨hshows, houtcome.ordinary hat.ordinary hnames, hplan⟩ houtcome⟩

end

end Chassis.Logging.Archive
