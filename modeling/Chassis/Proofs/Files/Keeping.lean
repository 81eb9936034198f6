-- Changes that keep what is there. Files, directories and links stay what they are, with their
-- modes and targets, and only more of them may come. What a path led to it then leads to still, so
-- that a directory or a file that has been made once can be made again.
import Chassis.Proofs.Files.Directory

namespace Chassis.Files

/-! ## What is kept -/

/-- What a node is, whatever a file holds and whatever entries a directory has. -/
inductive Kind where
  | file (mode : Nat)
  | directory (mode : Nat)
  | link (target : String)
  deriving DecidableEq

/-- The kind of a node. -/
def Node.kind : Node → Kind
  | .file mode _ => .file mode
  | .directory mode _ => .directory mode
  | .link target => .link target

theorem Node.eq_file {node : Node} {mode : Nat} (h : node.kind = .file mode) :
    ∃ body, node = .file mode body := by
  cases node with
  | file m body => cases h; exact ⟨body, rfl⟩
  | directory m entries => cases h
  | link target => cases h

theorem Node.eq_directory {node : Node} {mode : Nat} (h : node.kind = .directory mode) :
    ∃ entries, node = .directory mode entries := by
  cases node with
  | file m body => cases h
  | directory m entries => cases h; exact ⟨entries, rfl⟩
  | link target => cases h

theorem Node.eq_link {node : Node} {target : String} (h : node.kind = .link target) :
    node = .link target := by
  cases node with
  | file m body => cases h
  | directory m entries => cases h
  | link other => cases h; rfl

/-- What stands anywhere in a tree stands there in a later one. -/
def Keeps (tree later : Node) : Prop :=
  ∀ place node, tree.at? place = some node → ∃ node', later.at? place = some node' ∧
    node'.kind = node.kind

namespace Keeps

variable {tree later latest : Node}

theorem refl : Keeps tree tree := fun _ node h => ⟨node, h, rfl⟩

theorem trans (h : Keeps tree later) (h' : Keeps later latest) : Keeps tree latest := by
  intro place node hnode
  obtain ⟨node₁, hnode₁, hkind₁⟩ := h place node hnode
  obtain ⟨node₂, hnode₂, hkind₂⟩ := h' place node₁ hnode₁
  exact ⟨node₂, hnode₂, hkind₂.trans hkind₁⟩

variable (h : Keeps tree later)
include h

/-- A directory stays, with what stands under its names. -/
theorem directory {place : List Name} {mode : Nat} {entries : Entries}
    (hat : tree.at? place = some (.directory mode entries)) :
    ∃ entries', later.at? place = some (.directory mode entries') ∧
      ∀ name node, Entries.get? entries name = some node →
        ∃ node', Entries.get? entries' name = some node' ∧ node'.kind = node.kind := by
  obtain ⟨_, hat', hkind⟩ := h place _ hat
  obtain ⟨entries', rfl⟩ := Node.eq_directory hkind
  refine ⟨entries', hat', fun name node hget => ?_⟩
  obtain ⟨node', hnode', hkind'⟩ := h (place ++ [name]) node ((at?_directory hat name).trans hget)
  exact ⟨node', (at?_directory hat' name).symm.trans hnode', hkind'⟩

theorem file {place : List Name} {mode : Nat} {body : Body}
    (hat : tree.at? place = some (.file mode body)) :
    ∃ body', later.at? place = some (.file mode body') := by
  obtain ⟨_, hat', hkind⟩ := h place _ hat
  obtain ⟨body', rfl⟩ := Node.eq_file hkind
  exact ⟨body', hat'⟩

end Keeps

/-! ## Changes at a place -/

/-- A change at a place that keeps what is there keeps the tree. -/
theorem keeps_update {tree node : Node} {place : List Name} (change : Node → Node)
    (hat : tree.at? place = some node) (hkeeps : Keeps node (change node)) :
    Keeps tree (tree.update change place) ∧ (tree.update change place).at? place =
    some (change node) := by
  induction place generalizing tree with
  | nil =>
    cases hat
    exact ⟨hkeeps, rfl⟩
  | cons first rest ih =>
    cases tree with
    | file m body => simp [Node.at?] at hat
    | link target => simp [Node.at?] at hat
    | directory m above =>
      simp only [Node.at?] at hat
      obtain ⟨inner, hinner, hbelow⟩ := Option.bind_eq_some_iff.mp hat
      obtain ⟨hkept, hthere⟩ := ih hbelow
      simp only [Node.update, hinner]
      refine ⟨fun place other hother => ?_, by simp [Node.at?, get?_put, hthere]⟩
      cases place with
      | nil =>
        cases hother
        exact ⟨_, rfl, rfl⟩
      | cons name below =>
        simp only [Node.at?, get?_put] at hother ⊢
        by_cases hname : name = first
        · subst hname
          rw [hinner] at hother
          simpa using hkept below other hother
        · rw [if_neg hname]
          exact ⟨other, hother, rfl⟩

/-- An entry that is new, or a file in the place of a file with the same mode, keeps a directory. -/
theorem keeps_withEntry {mode : Nat} {entries : Entries} {name : Name} {node : Node}
    (hold : ∀ old, Entries.get? entries name = some old → ∃ m body body', old = .file m body ∧
      node = .file m body') :
    Keeps (.directory mode entries) ((Node.directory mode entries).withEntry name node) := by
  intro place other hother
  cases place with
  | nil =>
    cases hother
    exact ⟨_, rfl, rfl⟩
  | cons first rest =>
    simp only [Node.withEntry, Node.at?, get?_put] at hother ⊢
    by_cases hname : first = name
    · subst hname
      obtain ⟨old, hget, hbelow⟩ := Option.bind_eq_some_iff.mp hother
      obtain ⟨m, body, body', rfl, rfl⟩ := hold old hget
      rw [if_pos rfl]
      cases rest with
      | nil =>
        cases hbelow
        exact ⟨.file m body', rfl, rfl⟩
      | cons second more => simp [Node.at?] at hbelow
    · rw [if_neg hname]
      exact ⟨other, hother, rfl⟩

/-! ## What is found again -/

/-- The same place is found later, with what stands there then. -/
theorem Finds.kept {tree later : Node} {follow : Bool} {links : Nat} {here : List Name}
    {path : Path} {spot : Spot} (h : Finds tree follow links here path spot)
    (hkeeps : Keeps tree later) (hspot : spot.node = none ∨ follow = true) {node : Node}
    (hlater : later.at? spot.place = some node) (hlink : ∀ target, node ≠ .link target) :
    Finds later true links here path ⟨spot.above, spot.name, some node⟩ := by
  induction h with
  | @here links here =>
    rw [place_of_here] at hlater
    have hhere : Finds later true links here [] ⟨here.dropLast, here.getLast?, later.at? here⟩ :=
      .here
    rwa [hlater] at hhere
  | up hne _ ih => exact .up hne (ih hspot hlater)
  | @missing links here name mode entries hat henter hlong hget =>
    obtain ⟨entries', hat', -⟩ := hkeeps.directory hat
    replace hlater : later.at? (here ++ [name]) = some node := hlater
    have hget' := (at?_directory hat' name).symm.trans hlater
    cases node with
    | file m body => exact .file hat' henter hlong hget'
    | link target => exact absurd rfl (hlink target)
    | directory m below =>
      have hhere : Finds later true links (here ++ [name]) []
          ⟨(here ++ [name]).dropLast, (here ++ [name]).getLast?, later.at? (here ++ [name])⟩ :=
            .here
      rw [hlater, List.dropLast_concat, List.getLast?_concat] at hhere
      exact .down hat' henter hlong hget' hhere
  | @file links here name mode m entries body hat henter hlong hget =>
    obtain ⟨entries', hat', hnames⟩ := hkeeps.directory hat
    have hget' := (at?_directory hat' name).symm.trans hlater
    obtain ⟨node', hnode', hkind⟩ := hnames name _ hget
    obtain rfl := Option.some.inj (hget'.symm.trans hnode')
    obtain ⟨body', rfl⟩ := Node.eq_file hkind
    exact .file hat' henter hlong hget'
  | @down links here name rest mode m entries below spot hat henter hlong hget _ ih =>
    obtain ⟨entries', hat', hnames⟩ := hkeeps.directory hat
    obtain ⟨_, hget', hkind⟩ := hnames name _ hget
    obtain ⟨below', rfl⟩ := Node.eq_directory hkind
    exact .down hat' henter hlong hget' (ih hspot hlater)
  | link hfollow _ _ _ _ => simp [hfollow] at hspot
  | @follow links here name rest parts mode entries target spot hend hat henter hlong hget
      hparts _ ih =>
    obtain ⟨entries', hat', hnames⟩ := hkeeps.directory hat
    obtain ⟨_, hget', hkind⟩ := hnames name _ hget
    obtain rfl := Node.eq_link hkind
    exact .follow (fun _ => rfl) hat' henter hlong hget' hparts (ih hspot hlater)

/-! ## Changes that keep the tree -/

section

variable {tree later : Node} {path : Path}

theorem directory_of_below {place : List Name} {name : Name} {node : Node}
    (h : tree.at? (place ++ [name]) = some node) :
    ∃ mode entries, tree.at? place = some (.directory mode entries) := by
  rw [at?_append] at h
  match hat : tree.at? place, h with
  | some (.directory mode entries), _ => exact ⟨mode, entries, rfl⟩

theorem mayChange_eq_true {place : List Name} (h : mayChange tree place = true) :
    ∃ mode entries, tree.at? place = some (.directory mode entries) := by
  unfold mayChange at h
  split at h
  · rename_i mode entries hat
    exact ⟨mode, entries, hat⟩
  · cases h

/-- An entry that is put into a directory keeps the tree if it is new or a file for a file, and
stands at its place. -/
theorem keeps_put {place : List Name} {mode : Nat} {entries : Entries} {name : Name} (node : Node)
    (hat : tree.at? place = some (.directory mode entries))
    (hold : ∀ old, tree.at? (place ++ [name]) = some old → ∃ m body body', old = .file m body ∧
      node = .file m body') :
    Keeps tree (tree.update (·.withEntry name node) place) ∧
      (tree.update (·.withEntry name node) place).at? (place ++ [name]) = some node := by
  have hwith :
      Keeps (.directory mode entries) ((Node.directory mode entries).withEntry name node) :=
    keeps_withEntry fun old hget => hold old ((at?_directory hat name).trans hget)
  obtain ⟨hkeeps, hthere⟩ := keeps_update (·.withEntry name node) hat hwith
  refine ⟨hkeeps, (at?_directory hthere name).trans ?_⟩
  rw [get?_put, if_pos rfl]

/-- A new directory keeps the tree, and its path leads to it. -/
theorem makeDirectory_eq_ok (h : makeDirectory tree path = .ok later) :
    Keeps tree later ∧ leadsToDirectory later path = true := by
  unfold makeDirectory at h
  cases hspot : spotAt tree false path with
  | error fault => simp [hspot, bind, Except.bind] at h
  | ok spot =>
    obtain ⟨above, name?, node?⟩ := spot
    obtain ⟨hbroken, hfinds⟩ := spotAt_eq_ok.mp hspot
    match name?, node? with
    | none, _ => simp [hspot, bind, Except.bind, throw, throwThe, MonadExceptOf.throw] at h
    | some _, some _ => simp [hspot, bind, Except.bind, throw, throwThe, MonadExceptOf.throw] at h
    | some name, none =>
      simp only [hspot, bind, Except.bind] at h
      split at h
      · rename_i hchange
        cases h
        obtain ⟨mode, entries, hat⟩ := mayChange_eq_true hchange
        have hfree : tree.at? (above ++ [name]) = none := hfinds.at?_place
        obtain ⟨hkeeps, hthere⟩ := keeps_put (.directory newDirectoryMode []) hat
          fun old hold => by rw [hfree] at hold; cases hold
        have hfinds' :=
          hfinds.kept hkeeps (.inl rfl) hthere (fun target htarget => by cases htarget)
        refine ⟨hkeeps, ?_⟩
        rw [leadsToDirectory, spotAt_eq_ok.mpr ⟨hbroken, hfinds'⟩]
        rfl
      · cases h

/-- A path that leads to a directory is taken. -/
theorem makeDirectory_of_leads (h : leadsToDirectory tree path = true) :
    makeDirectory tree path = .error .taken := by
  unfold leadsToDirectory at h
  cases hspot : spotAt tree true path with
  | error fault => simp [hspot] at h
  | ok spot =>
    obtain ⟨hbroken, hfinds⟩ := spotAt_eq_ok.mp hspot
    simp only [hspot] at h
    obtain ⟨node, hnode⟩ : ∃ node, spot.node = some node := by
      cases hnode : spot.node with
      | none => simp [hnode] at h
      | some node => exact ⟨node, rfl⟩
    obtain ⟨spot', node', hfinds', hnode'⟩ := hfinds.unfollowed hnode
    simp only [makeDirectory, spotAt_eq_ok.mpr ⟨hbroken, hfinds'⟩, bind, Except.bind, hnode']
    cases spot'.name <;> rfl

/-- A path that leads to a directory still does when the tree has been kept. -/
theorem leadsToDirectory_kept (hkeeps : Keeps tree later) (h : leadsToDirectory tree path = true) :
    leadsToDirectory later path = true := by
  unfold leadsToDirectory at h
  cases hspot : spotAt tree true path with
  | error fault => simp [hspot] at h
  | ok spot =>
    obtain ⟨hbroken, hfinds⟩ := spotAt_eq_ok.mp hspot
    simp only [hspot] at h
    match hnode : spot.node, h with
    | some (.directory mode entries), _ =>
      obtain ⟨entries', hthere, -⟩ := hkeeps.directory (hfinds.at?_place.trans hnode)
      have hfinds' := hfinds.kept hkeeps (.inr rfl) hthere (fun target htarget => by cases htarget)
      rw [leadsToDirectory, spotAt_eq_ok.mpr ⟨hbroken, hfinds'⟩]
      rfl

/-- The parts of a path, from the last to the first, are those of the top or lead to a directory. -/
def Stands (tree : Node) (parts : List Part) : Prop :=
  parts = [] ∨ leadsToDirectory tree parts.reverse = true

/-- Making directories keeps the tree, and if it succeeds they stand. -/
theorem makeDirectoriesUp_eq {parts : List Part} {answer : Except Fault Unit}
    (h : makeDirectoriesUp tree parts = (later, answer)) :
    Keeps tree later ∧ (answer = .ok () → Stands later parts) := by
  induction parts generalizing tree later answer with
  | nil =>
    cases h
    exact ⟨.refl, fun _ => .inl rfl⟩
  | cons part above ih =>
    simp only [makeDirectoriesUp] at h
    split at h
    · rename_i made hmade
      cases h
      obtain ⟨hkeeps, hleads⟩ := makeDirectory_eq_ok hmade
      exact ⟨hkeeps, fun _ => .inr hleads⟩
    · split at h
      · split at h
        · rename_i upper fault hupper
          cases h
          exact ⟨(ih hupper).1, nofun⟩
        · rename_i upper hupper
          obtain ⟨hkept, -⟩ := ih hupper
          split at h
          · rename_i made hmade
            cases h
            obtain ⟨hkeeps, hleads⟩ := makeDirectory_eq_ok hmade
            exact ⟨hkept.trans hkeeps, fun _ => .inr hleads⟩
          · cases h
            exact ⟨hkept, fun hok => .inr (by simpa using hok)⟩
      · cases h
        exact ⟨.refl, fun hok => .inr (by simpa using hok)⟩

/-- Directories that stand are left as they are. -/
theorem makeDirectoriesUp_of_stands {parts : List Part} (h : Stands tree parts) :
    makeDirectoriesUp tree parts = (tree, .ok ()) := by
  cases parts with
  | nil => rfl
  | cons part above =>
    obtain h | hleads := h
    · cases h
    · simp only [makeDirectoriesUp, makeDirectory_of_leads hleads, hleads, if_true]
      rfl

theorem Stands.kept {parts : List Part} (h : Stands tree parts) (hkeeps : Keeps tree later) :
    Stands later parts :=
  h.imp_right (leadsToDirectory_kept hkeeps)

end

/-! ## Directories and files that are used again -/

section

variable {tree later : Node} {path : String}

/-- Making a directory keeps the tree, and if it succeeds it can be done again and changes nothing
then. -/
theorem makeDirectories_eq {answer : Except Fault Unit}
    (h : makeDirectories tree path = (later, answer)) :
    Keeps tree later ∧
      (answer = .ok () → ∀ latest, Keeps later latest →
        makeDirectories latest path = (latest, .ok ())) := by
  unfold makeDirectories at h ⊢
  split at h
  · cases h
    exact ⟨.refl, nofun⟩
  · rename_i hshort
    simp only [if_neg hshort]
    split at h
    · cases h
      exact ⟨.refl, fun _ latest _ => rfl⟩
    · cases h
      exact ⟨.refl, nofun⟩
    · obtain ⟨hkeeps, hstands⟩ := makeDirectoriesUp_eq h
      exact ⟨hkeeps, fun hok latest hlatest =>
        makeDirectoriesUp_of_stands ((hstands hok).kept hlatest)⟩

/-- What writing has done: the path has led to a free name or a file in a directory, and there is a
file there now that may be written. -/
theorem write_inv {contents : Body → Body} (h : write tree path contents = .ok later) :
    path.toList.head? ≠ some '/' ∧ ∃ above name node? mode body,
      spotOf tree true path = .ok ⟨above, some name, node?⟩ ∧
      (∃ m entries, tree.at? above = some (.directory m entries)) ∧
      (∀ old, node? = some old → ∃ body', old = .file mode body') ∧ mayWrite mode = true ∧
      later = tree.update (·.withEntry name (.file mode body)) above := by
  unfold write at h
  split at h
  · cases h
  rename_i hrelative
  refine ⟨hrelative, ?_⟩
  cases hspot : spotOf tree true path with
  | error fault => simp [hspot, bind, Except.bind] at h
  | ok spot =>
    obtain ⟨above, name?, node?⟩ := spot
    simp only [hspot, bind, Except.bind, pure, Except.pure] at h
    split at h
    · rename_i name
      split at h
      · rename_i hchange
        cases h
        exact ⟨above, name, none, newFileMode, _, rfl, mayChange_eq_true hchange,
          fun old hold => (by cases hold), by decide, rfl⟩
      · cases h
    · rename_i name mode body
      split at h
      · rename_i hmode
        cases h
        obtain ⟨-, parts, -, hat⟩ := spotOf_eq_ok.mp hspot
        have hplace : tree.at? (above ++ [name]) = some (.file mode body) :=
          (spotAt_eq_ok.mp hat).2.at?_place
        refine ⟨above, name, _, mode, _, rfl, directory_of_below hplace,
          fun old hold => ?_, hmode, rfl⟩
        cases hold
        exact ⟨body, rfl⟩
      · cases h
    · cases h

/-- What has been written is a file that may be written, at its path in every tree that keeps it. -/
theorem spotOf_of_write {contents : Body → Body} (h : write tree path contents = .ok later) :
    Keeps tree later ∧ ∃ above name mode, mayWrite mode = true ∧
      ∀ latest, Keeps later latest →
        ∃ body, spotOf latest true path = .ok ⟨above, some name, some (.file mode body)⟩ := by
  obtain ⟨-, above, name, node?, mode, body, hspot, ⟨m, entries, hdir⟩, hold, hmode, rfl⟩ :=
    write_inv h
  obtain ⟨hshort, parts, hparts, hat⟩ := spotOf_eq_ok.mp hspot
  obtain ⟨hbroken, hfinds⟩ := spotAt_eq_ok.mp hat
  obtain ⟨hkeeps, hthere⟩ := keeps_put (.file mode body) hdir fun old hget => by
    obtain ⟨body', rfl⟩ := hold old (hfinds.at?_place.symm.trans hget)
    exact ⟨mode, body', body, rfl, rfl⟩
  refine ⟨hkeeps, above, name, mode, hmode, fun latest hlatest => ?_⟩
  obtain ⟨body', hthere'⟩ := hlatest.file hthere
  have hfinds' :=
    hfinds.kept (hkeeps.trans hlatest) (.inr rfl) hthere' (fun target htarget => by cases htarget)
  exact ⟨body', spotOf_eq_ok.mpr ⟨hshort, parts, hparts, spotAt_eq_ok.mpr ⟨hbroken, hfinds'⟩⟩⟩

/-- A file that has been written can be written again, whatever it gets to hold. -/
theorem write_eq_ok {contents : Body → Body} (h : write tree path contents = .ok later) :
    Keeps tree later ∧
      ∀ latest, Keeps later latest → ∀ contents', ∃ written, write latest path contents' =
        .ok written := by
  obtain ⟨hrelative, -⟩ := write_inv h
  obtain ⟨hkeeps, above, name, mode, hmode, hspot⟩ := spotOf_of_write h
  refine ⟨hkeeps, fun latest hlatest contents' => ?_⟩
  obtain ⟨body, hspot'⟩ := hspot latest hlatest
  refine ⟨latest.update (·.withEntry name (.file mode (contents' body))) above, ?_⟩
  simp [write, hrelative, hspot', hmode, bind, Except.bind, pure, Except.pure]

theorem isFile_of_write {contents : Body → Body} (h : write tree path contents = .ok later)
    {latest : Node} (hlatest : Keeps later latest) : isFile latest path = true := by
  obtain ⟨-, above, name, mode, -, hspot⟩ := spotOf_of_write h
  obtain ⟨body, hspot'⟩ := hspot latest hlatest
  simp [isFile, look, hspot', bind, Except.bind, pure, Except.pure, Node.isFile]

end

end Chassis.Files
