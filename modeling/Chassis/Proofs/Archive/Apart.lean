-- Work on different days does not meet. What is done with the files of one day depends on these
-- files only and touches no others, so days may be dealt with in any order: the folder, the report
-- and what is said are the same in the end, but for the order of what is said.
import Mathlib.Data.List.Perm.Basic
import Chassis.Proofs.Archive.Handling
import Chassis.Proofs.Archive.Runs

namespace Chassis.Logging.Archive

open Files (Body IsName Node barrier?)
open Function (update)

/-! ## Acts that see only some names -/

/-- Two folders have the same under some names. -/
def AgreeOn (names : List Files.Name) (folder other : Folder) : Prop :=
  ∀ name ∈ names, folder name = other name

/-- A folder by itself, for scripts that list nothing. An act that fails changes nothing. -/
def inFolder (directory : String) (mode : Nat) : Handler Folder where
  list _ := .ok []
  act folder what :=
    match actIn directory mode folder what with
    | .ok folder => (folder, .ok ())
    | .error fault => (folder, .error fault)

section

variable {directory : String} {mode : Nat} {names : List Files.Name} {folder other : Folder}

theorem AgreeOn.update (h : AgreeOn names folder other) (name : Files.Name) (node? : Option Node) :
    AgreeOn names (update folder name node?) (update other name node?) := by
  intro found hfound
  rw [Function.update_apply, Function.update_apply, h found hfound]

/-- Two outcomes in folders are alike: the same fault, or folders that agree. -/
def AlikeOn (names : List Files.Name) : Except Files.Fault Folder → Except Files.Fault Folder → Prop
  | .ok folder, .ok other => AgreeOn names folder other
  | .error fault, .error fault' => fault = fault'
  | _, _ => False

theorem writeIn_alike (h : AgreeOn names folder other) {name : String} (hname : .text name ∈ names)
    (body : Body) :
    AlikeOn names (writeIn directory mode folder name body)
      (writeIn directory mode other name body) := by
  unfold writeIn
  rw [h _ hname]
  split
  · rfl
  · split
    · exact h.update _ _
    · rfl
  · split
    · exact h.update _ _
    · rfl
  · rfl

theorem removeIn_alike (h : AgreeOn names folder other) {name : String}
    (hname : .text name ∈ names) :
    AlikeOn names (removeIn directory mode folder name) (removeIn directory mode other name) := by
  unfold removeIn
  rw [h _ hname]
  split
  · rfl
  · rfl
  · split
    · rfl
    · split
      · rfl
      · exact h.update _ _

theorem renameIn_alike (h : AgreeOn names folder other) {source target : String}
    (hsource : .text source ∈ names) (htarget : .text target ∈ names) :
    AlikeOn names (renameIn directory mode folder source target)
      (renameIn directory mode other source target) := by
  unfold renameIn
  rw [h _ hsource, h _ htarget]
  split
  · rfl
  · rfl
  · rfl
  · split
    · rfl
    · split
      · rfl
      · exact (h.update _ _).update _ _

theorem readIn_congr {name : String} (h : folder (.text name) = other (.text name)) :
    readIn directory mode folder name = readIn directory mode other name := by
  unfold readIn
  rw [h]

/-- An act sees only the names that it names. -/
theorem actIn_alike (h : AgreeOn names folder other) {what : Act}
    (hwhat : ∀ name ∈ what.names, .text name ∈ names) :
    AlikeOn names (actIn directory mode folder what) (actIn directory mode other what) := by
  cases what with
  | openLog name =>
    simp only [actIn]
    rw [readIn_congr (h _ (hwhat name (by simp [Act.names])))]
    cases readIn directory mode other name with
    | error fault => rfl
    | ok body => exact h
  | create name => exact writeIn_alike h (hwhat name (by simp [Act.names])) _
  | fill source target =>
    simp only [actIn]
    rw [readIn_congr (h _ (hwhat source (by simp [Act.names])))]
    cases readIn directory mode other source with
    | error fault => rfl
    | ok body => exact writeIn_alike h (hwhat target (by simp [Act.names])) body.pack
  | rename source target =>
    exact renameIn_alike h (hwhat source (by simp [Act.names])) (hwhat target (by simp [Act.names]))
  | remove name => exact removeIn_alike h (hwhat name (by simp [Act.names]))

theorem writeIn_frame {target : String} {body : Body} {later : Folder}
    (hwrite : writeIn directory mode folder target body = .ok later) {name : Files.Name}
    (hname : name ≠ .text target) :
    later name = folder name := by
  unfold writeIn at hwrite
  split at hwrite
  · cases hwrite
  · split at hwrite <;> cases hwrite
    exact Function.update_of_ne hname _ _
  · split at hwrite <;> cases hwrite
    exact Function.update_of_ne hname _ _
  · cases hwrite

/-- And it changes no other. -/
theorem actIn_frame {what : Act} (hwhat : ∀ name ∈ what.names, .text name ∈ names) {later : Folder}
    (hact : actIn directory mode folder what = .ok later) {name : Files.Name}
    (hname : name ∉ names) :
    later name = folder name := by
  have hne {text : String} (htext : text ∈ what.names) : name ≠ .text text := by
    rintro rfl
    exact hname (hwhat text htext)
  cases what with
  | openLog text =>
    simp only [actIn] at hact
    cases hread : readIn directory mode folder text with
    | error fault => rw [hread] at hact; cases hact
    | ok body => rw [hread] at hact; cases hact; rfl
  | create text => exact writeIn_frame hact (hne (by simp [Act.names]))
  | fill source target =>
    simp only [actIn] at hact
    cases hread : readIn directory mode folder source with
    | error fault => rw [hread] at hact; cases hact
    | ok body => rw [hread] at hact; exact writeIn_frame hact (hne (by simp [Act.names]))
  | rename source target =>
    simp only [actIn, renameIn] at hact
    split at hact
    · cases hact
    · cases hact
    · cases hact
    · split at hact
      · cases hact
      · split at hact <;> cases hact
        rw [Function.update_of_ne (hne (by simp [Act.names])),
          Function.update_of_ne (hne (by simp [Act.names]))]
  | remove text =>
    simp only [actIn, removeIn] at hact
    split at hact
    · cases hact
    · cases hact
    · split at hact
      · cases hact
      · split at hact <;> cases hact
        exact Function.update_of_ne (hne (by simp [Act.names])) _ _

variable (directory mode)

theorem act_agree (h : AgreeOn names folder other) {what : Act}
    (hwhat : ∀ name ∈ what.names, .text name ∈ names) :
    ((inFolder directory mode).act folder what).2 = ((inFolder directory mode).act other what).2 ∧
      AgreeOn names ((inFolder directory mode).act folder what).1
        ((inFolder directory mode).act other what).1 := by
  have halike :
      AlikeOn names (actIn directory mode folder what) (actIn directory mode other what) :=
    actIn_alike h hwhat
  unfold inFolder
  dsimp only
  cases hfolder : actIn directory mode folder what with
  | error fault =>
    cases hother : actIn directory mode other what with
    | error fault' =>
      rw [hfolder, hother] at halike
      cases halike
      exact ⟨rfl, h⟩
    | ok later' => rw [hfolder, hother] at halike; exact halike.elim
  | ok later =>
    cases hother : actIn directory mode other what with
    | error fault' => rw [hfolder, hother] at halike; exact halike.elim
    | ok later' =>
      rw [hfolder, hother] at halike
      exact ⟨rfl, halike⟩

theorem act_frame {what : Act} (hwhat : ∀ name ∈ what.names, .text name ∈ names) {name : Files.Name}
    (hname : name ∉ names) : ((inFolder directory mode).act folder what).1 name = folder name := by
  unfold inFolder
  dsimp only
  split
  · rename_i later hact
    exact actIn_frame hwhat hact hname
  · rfl

end

/-! ## Scripts that see only some names -/

namespace Script

variable {α β : Type}

/-- A script that acts on some names only, and lists nothing. -/
def ActsOn (names : List Files.Name) : Script α → Prop
  | done _ => True
  | note _ rest => rest.ActsOn names
  | list _ => False
  | act what next =>
    (∀ name ∈ what.names, .text name ∈ names) ∧ ∀ result, (next result).ActsOn names

variable {names apart : List Files.Name}

theorem actsOn_bind {script : Script α} {f : α → Script β} (h : script.ActsOn names)
    (hf : ∀ value, (f value).ActsOn names) : (script >>= f).ActsOn names := by
  change (script.bind f).ActsOn names
  induction script with
  | done value => exact hf value
  | note event rest ih => exact ih h
  | list next ih => exact h.elim
  | act what next ih => exact ⟨h.1, fun result => ih result (h.2 result)⟩

theorem actsOn_acts {acts : List Act} (h : ∀ what ∈ acts, ∀ name ∈ what.names, .text name ∈ names) :
    (Script.acts acts).ActsOn names := by
  induction acts with
  | nil => exact trivial
  | cons what rest ih =>
    refine ⟨h what List.mem_cons_self, fun result => ?_⟩
    cases result with
    | error fault => exact trivial
    | ok done => exact ih fun other hother => h other (List.mem_cons_of_mem _ hother)

variable (directory : String) (mode : Nat) {folder other : Folder}

/-- What such a script does, it does in every folder with the same under these names. -/
theorem run_agree {script : Script α} (hscript : script.ActsOn names)
    (h : AgreeOn names folder other) :
    (script.run (inFolder directory mode) folder).2 =
    (script.run (inFolder directory mode) other).2 ∧
      AgreeOn names (script.run (inFolder directory mode) folder).1
        (script.run (inFolder directory mode) other).1 := by
  induction script generalizing folder other with
  | done value => exact ⟨rfl, h⟩
  | note event rest ih =>
    obtain ⟨hsaid, hagree⟩ := ih hscript h
    exact ⟨congrArg (fun said => (event :: said.1, said.2)) hsaid, hagree⟩
  | list next ih => exact hscript.elim
  | act what next ih =>
    obtain ⟨hresult, hagree⟩ := act_agree directory mode h hscript.1
    simp only [run]
    rw [hresult]
    exact ih _ (hscript.2 _) hagree

theorem run_frame {script : Script α} (hscript : script.ActsOn names) {name : Files.Name}
    (hname : name ∉ names) :
    (script.run (inFolder directory mode) folder).1 name = folder name := by
  induction script generalizing folder with
  | done value => rfl
  | note event rest ih => exact ih hscript
  | list next ih => exact hscript.elim
  | act what next ih =>
    simp only [run]
    rw [ih _ (hscript.2 _), act_frame directory mode hscript.1 hname]

/-- A script does the same after another one that acts on other names. -/
theorem run_after {script : Script α} {first : Script β} (hscript : script.ActsOn names)
    (hfirst : first.ActsOn apart) (hapart : ∀ name ∈ names, name ∉ apart) (folder : Folder) :
    let after := (first.run (inFolder directory mode) folder).1
    (script.run (inFolder directory mode) after).2 =
      (script.run (inFolder directory mode) folder).2 ∧
      AgreeOn names (script.run (inFolder directory mode) after).1
          (script.run (inFolder directory mode) folder).1 :=
  run_agree directory mode hscript fun _ hname => run_frame directory mode hfirst (hapart _ hname)

/-- Two scripts that act on different names leave the same folder in either order. -/
theorem run_swap {script : Script α} {first : Script β} (hscript : script.ActsOn names)
    (hfirst : first.ActsOn apart) (hapart : ∀ name ∈ names, name ∉ apart) (folder : Folder) :
    (script.run (inFolder directory mode) (first.run (inFolder directory mode) folder).1).1 =
      (first.run (inFolder directory mode) (script.run (inFolder directory mode) folder).1).1 := by
  funext name
  by_cases hname : name ∈ names
  · rw [(run_after directory mode hscript hfirst hapart folder).2 name hname,
      run_frame directory mode hfirst (hapart name hname)]
  · rw [run_frame directory mode hscript hname]
    by_cases hother : name ∈ apart
    · have hfound :=
        (run_after directory mode hfirst hscript (fun _ hfound hmem => hapart _ hmem hfound)
          folder).2
      exact (hfound name hother).symm
    · rw [run_frame directory mode hfirst hother, run_frame directory mode hfirst hother,
        run_frame directory mode hscript hname]

end Script

/-- Two scripts that act on different names, and list nothing. -/
def Script.Apart {α β : Type} (script : Script α) (other : Script β) : Prop :=
  ∃ names others, script.ActsOn names ∧ other.ActsOn others ∧ ∀ name ∈ names, name ∉ others

/-! ## Files of different days -/

/-- Files that are dealt with one after another may come in any order, if what is done with any two
of them is apart. -/
theorem each_perm (directory : String) (mode : Nat) {handle : String → Script Report}
    {names others : List String} (hperm : names.Perm others)
    (hapart : ∀ name ∈ names, ∀ other ∈ names, name ≠ other → (handle name).Apart (handle other))
    (folder : Folder) :
    let one := (Archiver.each handle names).run (inFolder directory mode) folder
    let other := (Archiver.each handle others).run (inFolder directory mode) folder
    one.1 = other.1 ∧ one.2.1.Perm other.2.1 ∧ one.2.2 = other.2.2 := by
  induction hperm generalizing folder with
  | nil => exact ⟨rfl, .refl _, rfl⟩
  | cons name hperm ih =>
    obtain ⟨hfolder, hsaid, hreport⟩ := ih (fun first hfirst second hsecond =>
      hapart first (List.mem_cons_of_mem _ hfirst) second (List.mem_cons_of_mem _ hsecond))
      ((handle name).run (inFolder directory mode) folder).1
    simp only [each_cons]
    rw [hreport]
    exact ⟨hfolder, hsaid.append_left _, rfl⟩
  | swap second first rest =>
    -- Either order deals with the same two files first, and a file that is listed twice is no other
    -- file.
    by_cases hne : first = second
    · subst hne
      exact ⟨rfl, .refl _, rfl⟩
    obtain ⟨names, others, hfirst, hsecond, hdisjoint⟩ :=
      hapart first (by simp) second (by simp) hne
    have hdisjoint' : ∀ name ∈ others, name ∉ names :=
      fun name hname hmem => hdisjoint name hmem hname
    have hswap := Script.run_swap directory mode hfirst hsecond hdisjoint folder
    have hsaid := (Script.run_after directory mode hfirst hsecond hdisjoint folder).1
    have hsaid' := (Script.run_after directory mode hsecond hfirst hdisjoint' folder).1
    simp only [each_cons]
    rw [hswap, hsaid, hsaid', Report.add_left_comm]
    refine ⟨rfl, ?_, rfl⟩
    rw [← List.append_assoc, ← List.append_assoc]
    exact List.perm_append_comm.append_right _
  | trans hperm hperm' ih ih' =>
    obtain ⟨hfolder, hsaid, hreport⟩ := ih hapart folder
    obtain ⟨hfolder', hsaid', hreport'⟩ := ih' (fun name hname other hother =>
      hapart name (hperm.mem_iff.mpr hname) other (hperm.mem_iff.mpr hother)) folder
    exact ⟨hfolder.trans hfolder', hsaid.trans hsaid', hreport.trans hreport'⟩

section

variable (a : Archiver)

theorem actsOn_removePartial (log : String) :
    (a.removePartial (partialName log)).ActsOn (dayNames log) := by
  refine ⟨by simp [Act.names, dayNames], fun result => ?_⟩
  cases result <;> exact trivial

theorem actsOn_prune (log : String) : (a.prune (archiveName log)).ActsOn (dayNames log) := by
  refine ⟨by simp [Act.names, dayNames], fun result => ?_⟩
  cases result <;> exact trivial

theorem actsOn_compress (log : String) : (a.compress log).ActsOn (dayNames log) := by
  refine Script.actsOn_bind (Script.actsOn_acts ?_) fun result => ?_
  · simp [Archiver.packing, Act.names, dayNames]
  · cases result <;> exact trivial

/-- What is done with the files of two days is apart. -/
theorem apart_of_logs {stem log other : String} (hlog : IsLog stem log) (hother : IsLog stem other)
    (hne : log ≠ other) {script script' : Script Report} (h : script.ActsOn (dayNames log))
    (h' : script'.ActsOn (dayNames other)) :
    script.Apart script' :=
  ⟨dayNames log, dayNames other, h, h', dayNames_disjoint hother hlog hne⟩

end

end Chassis.Logging.Archive
