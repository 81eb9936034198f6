-- Trees in which no directory has two entries of one name. They stay so, whatever files are
-- written, removed and renamed, so a directory lists each of its entries once.
import Mathlib.Data.List.Nodup
import Chassis.Proofs.Bind
import Chassis.Proofs.Files.Keeping

namespace Chassis.Files

/-! ## Distinct names -/

/-- No directory of the tree has two entries of one name. -/
def HasDistinctNames (tree : Node) : Prop :=
  ∀ place mode entries, tree.at? place = some (.directory mode entries) → (entries.map (·.1)).Nodup

theorem distinct_file (mode : Nat) (body : Body) : HasDistinctNames (.file mode body) := by
  intro place m entries hat
  cases place <;> cases hat

/-- The names of a directory are distinct, and so are those of each directory in it. -/
theorem distinct_directory {mode : Nat} {entries : Entries} :
    HasDistinctNames (.directory mode entries) ↔
    (entries.map (·.1)).Nodup ∧ ∀ name node, Entries.get? entries name = some node →
    HasDistinctNames node := by
  constructor
  · intro h
    refine ⟨h [] mode entries rfl, fun name node hget place m below hat =>
      h (name :: place) m below ?_⟩
    simp only [Node.at?, hget, Option.bind_some]
    exact hat
  · rintro ⟨hnames, hbelow⟩ place m below hat
    cases place with
    | nil =>
      cases hat
      exact hnames
    | cons name rest =>
      simp only [Node.at?] at hat
      obtain ⟨node, hget, hrest⟩ := Option.bind_eq_some_iff.mp hat
      exact hbelow name node hget rest m below hrest

/-- A directory with one entry. -/
theorem distinct_singleton {mode : Nat} {entry : Name × Node} (h : HasDistinctNames entry.2) :
    HasDistinctNames (.directory mode [entry]) := by
  refine distinct_directory.mpr ⟨List.nodup_singleton _, fun name node hget => ?_⟩
  obtain ⟨found, hfind, rfl⟩ := Option.map_eq_some_iff.mp hget
  obtain rfl := List.mem_singleton.mp (List.mem_of_find?_eq_some hfind)
  exact h

theorem distinct_empty (mode : Nat) : HasDistinctNames (.directory mode []) :=
  distinct_directory.mpr ⟨List.nodup_nil, fun _ _ hget => by cases hget⟩

theorem HasDistinctNames.at? {tree node : Node} (h : HasDistinctNames tree) {place : List Name}
    (hat : tree.at? place = some node) : HasDistinctNames node := by
  induction place generalizing tree with
  | nil =>
    cases hat
    exact h
  | cons name rest ih =>
    cases tree with
    | directory mode entries =>
      simp only [Node.at?] at hat
      obtain ⟨inner, hget, hrest⟩ := Option.bind_eq_some_iff.mp hat
      exact ih ((distinct_directory.mp h).2 name inner hget) hrest
    | file mode body => cases hat
    | link target => cases hat

/-! ## Entries that come and go -/

theorem mem_names_put {name other : Name} {node : Node} {entries : Entries} :
    other ∈ (Entries.put name node entries).map (·.1) ↔
    other = name ∨ other ∈ entries.map (·.1) := by
  induction entries with
  | nil => simp [Entries.put]
  | cons entry rest ih =>
    obtain ⟨n, old⟩ := entry
    unfold Entries.put
    by_cases hn : n = name
    · subst hn
      simp
    · simp only [if_neg hn, List.map_cons, List.mem_cons, ih]
      tauto

theorem nodup_put {entries : Entries} (h : (entries.map (·.1)).Nodup) (name : Name) (node : Node) :
    ((Entries.put name node entries).map (·.1)).Nodup := by
  induction entries with
  | nil => simp [Entries.put]
  | cons entry rest ih =>
    obtain ⟨n, old⟩ := entry
    simp only [List.map_cons, List.nodup_cons] at h
    unfold Entries.put
    by_cases hn : n = name
    · subst hn
      simpa using h
    · simp only [if_neg hn, List.map_cons, List.nodup_cons, mem_names_put]
      exact ⟨fun hmem => hmem.elim hn h.1, ih h.2⟩

theorem HasDistinctNames.withEntry {node entry : Node} (h : HasDistinctNames node)
    (hentry : HasDistinctNames entry) (name : Name) :
    HasDistinctNames (node.withEntry name entry) := by
  cases node with
  | file mode body => exact h
  | link target => exact h
  | directory mode entries =>
    obtain ⟨hnames, hbelow⟩ := distinct_directory.mp h
    refine distinct_directory.mpr ⟨nodup_put hnames name entry, fun other inner hget => ?_⟩
    rw [get?_put] at hget
    split at hget
    · cases hget
      exact hentry
    · exact hbelow other inner hget

theorem HasDistinctNames.withoutEntry {node : Node} (h : HasDistinctNames node) (name : Name) :
    HasDistinctNames (node.withoutEntry name) := by
  cases node with
  | file mode body => exact h
  | link target => exact h
  | directory mode entries =>
    obtain ⟨hnames, hbelow⟩ := distinct_directory.mp h
    refine distinct_directory.mpr
      ⟨hnames.sublist (List.filter_sublist.map _), fun other inner hget => ?_⟩
    rw [get?_drop] at hget
    split at hget
    · cases hget
    · exact hbelow other inner hget

/-- A change at a place keeps the names distinct if it keeps those of what stands there. -/
theorem HasDistinctNames.update {tree : Node} (h : HasDistinctNames tree) {change : Node → Node}
    {place : List Name}
    (hchange : ∀ node, tree.at? place = some node → HasDistinctNames (change node)) :
    HasDistinctNames (tree.update change place) := by
  induction place generalizing tree with
  | nil => exact hchange tree rfl
  | cons name rest ih =>
    cases tree with
    | file mode body => exact h
    | link target => exact h
    | directory mode entries =>
      obtain ⟨hnames, hbelow⟩ := distinct_directory.mp h
      unfold Node.update
      cases hget : Entries.get? entries name with
      | none => exact h
      | some node =>
        have hinner : HasDistinctNames (node.update change rest) := by
          refine ih (hbelow name node hget) fun inner hat => hchange inner ?_
          simp only [Node.at?, hget, Option.bind_some]
          exact hat
        refine distinct_directory.mpr ⟨nodup_put hnames name _, fun other inner hother => ?_⟩
        rw [get?_put] at hother
        split at hother
        · cases hother
          exact hinner
        · exact hbelow other inner hother

/-! ## Files that are written, removed and renamed -/

section

variable {tree later : Node} (h : HasDistinctNames tree)
include h

theorem HasDistinctNames.write {path : String} {contents : Body → Body}
    (hwrite : Files.write tree path contents = .ok later) : HasDistinctNames later := by
  obtain ⟨-, above, name, -, mode, body, -, -, -, -, rfl⟩ := write_inv hwrite
  exact h.update fun node hat => (h.at? hat).withEntry (distinct_file mode body) name

theorem HasDistinctNames.remove {path : String} (hremove : Files.remove tree path = .ok later) :
    HasDistinctNames later := by
  unfold Files.remove at hremove
  obtain ⟨spot, -, hspot⟩ := ok_of_bind.mp hremove
  split at hspot
  · cases hspot
  · rename_i name node _ _
    split at hspot
    · cases hspot
    · split at hspot
      · cases hspot
      · cases hspot
        exact h.update fun above hat => (h.at? hat).withoutEntry name
  · cases hspot

/-- What is renamed has stood in the tree. -/
theorem HasDistinctNames.rename {source target : String}
    (hrename : Files.rename tree source target = .ok later) :
    HasDistinctNames later := by
  unfold Files.rename at hrename
  obtain ⟨origin, horigin, hrename⟩ := ok_of_bind.mp hrename
  obtain ⟨goal, -, hrename⟩ := ok_of_bind.mp hrename
  obtain ⟨-, parts, -, hspot⟩ := spotOf_eq_ok.mp horigin
  have hplace := (spotAt_eq_ok.mp hspot).2.at?_place
  split at hrename
  · rename_i name node goalName _ hnode _
    rw [hnode] at hplace
    have hwithout : HasDistinctNames (tree.update (·.withoutEntry name) origin.above) :=
      h.update fun above hat => (h.at? hat).withoutEntry name
    split at hrename
    · cases hrename
    · split at hrename
      · cases hrename
      · cases hrename
        exact hwithout.update fun above hat => (hwithout.at? hat).withEntry (h.at? hplace) goalName
  · cases hrename
  · cases hrename

end

end Chassis.Files
