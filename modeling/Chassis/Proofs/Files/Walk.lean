-- Walks along a path. What a walk finds is written as a relation, so that laws of it go by
-- induction on the way; it stands at the place where it is found.
import Mathlib.Data.List.Induction
import Chassis.Files.Tree

namespace Chassis.Files

/-! ## Places -/

theorem at?_append (tree : Node) (place : List Name) (name : Name) :
    tree.at? (place ++ [name]) = (tree.at? place).bind fun node => node.at? [name] := by
  induction place generalizing tree with
  | nil => simp [Node.at?]
  | cons first rest ih =>
    cases tree with
    | directory mode entries =>
      simp only [List.cons_append, Node.at?]
      cases Entries.get? entries first with
      | none => rfl
      | some node => simpa using ih node
    | file mode body => simp [Node.at?]
    | link target => simp [Node.at?]

theorem at?_directory {tree : Node} {place : List Name} {mode : Nat} {entries : Entries}
    (h : tree.at? place = some (.directory mode entries)) (name : Name) :
    tree.at? (place ++ [name]) = Entries.get? entries name := by
  rw [at?_append, h]
  simp only [Option.bind_some, Node.at?]
  cases Entries.get? entries name <;> rfl

/-! ## What walks find -/

/-- What a walk finds, with at most so many links on the way. -/
inductive Finds (tree : Node) (follow : Bool) : Nat → List Name → Path → Spot → Prop
  | here {links : Nat} {here : List Name} :
      Finds tree follow links here [] ⟨here.dropLast, here.getLast?, tree.at? here⟩
  | up {links : Nat} {here : List Name} {rest : Path} {spot : Spot} :
      here ≠ [] → Finds tree follow links here.dropLast rest spot →
        Finds tree follow links here (.up :: rest) spot
  | missing {links : Nat} {here : List Name} {name : Name} {mode : Nat} {entries : Entries} :
      tree.at? here = some (.directory mode entries) → mayEnter mode = true →
        name.bytes.length ≤ nameLimit →
      Entries.get? entries name = none →
        Finds tree follow links here [.name name] ⟨here, some name, none⟩
  | file {links : Nat} {here : List Name} {name : Name} {mode m : Nat} {entries : Entries}
      {body : Body} :
      tree.at? here = some (.directory mode entries) → mayEnter mode = true →
        name.bytes.length ≤ nameLimit →
      Entries.get? entries name = some (.file m body) →
      Finds tree follow links here [.name name] ⟨here, some name, some (.file m body)⟩
  | down {links : Nat} {here : List Name} {name : Name} {rest : Path} {mode m : Nat}
      {entries below : Entries}
      {spot : Spot} :
      tree.at? here = some (.directory mode entries) → mayEnter mode = true →
        name.bytes.length ≤ nameLimit →
      Entries.get? entries name = some (.directory m below) →
        Finds tree follow links (here ++ [name]) rest spot →
      Finds tree follow links here (.name name :: rest) spot
  | link {links : Nat} {here : List Name} {name : Name} {mode : Nat} {entries : Entries}
      {target : String} :
      follow = false → tree.at? here = some (.directory mode entries) → mayEnter mode = true →
      name.bytes.length ≤ nameLimit → Entries.get? entries name = some (.link target) →
      Finds tree follow links here [.name name] ⟨here, some name, some (.link target)⟩
  | follow {links : Nat} {here : List Name} {name : Name} {rest parts : Path} {mode : Nat}
      {entries : Entries}
      {target : String} {spot : Spot} :
      (rest = [] → follow = true) → tree.at? here = some (.directory mode entries) →
        mayEnter mode = true →
      name.bytes.length ≤ nameLimit → Entries.get? entries name = some (.link target) →
      partsOf? target = some parts → Finds tree follow links here (parts ++ rest) spot →
      Finds tree follow (links + 1) here (.name name :: rest) spot

theorem finds_of_walk {tree : Node} {follow : Bool} {links : Nat} {here : List Name} {path : Path}
    {spot : Spot} (hwalk : walk tree follow links here path = .ok spot) :
    Finds tree follow links here path spot := by
  induction links, here, path using walk.induct tree follow with
  | case1 links here =>
    rw [walk] at hwalk
    cases hwalk
    exact .here
  | case2 links here rest hempty => simp [walk, hempty] at hwalk
  | case3 links here rest hempty ih =>
    rw [walk, if_neg hempty] at hwalk
    exact .up (by simpa using hempty) (ih hwalk)
  | case4 links here name rest m es hat henter => simp [walk, hat, henter] at hwalk
  | case5 links here name rest m es hat henter hlong => simp [walk, hat, henter, hlong] at hwalk
  | case6 links here name rest m es hat henter hlong hget hend =>
    simp only [walk, hat, henter, hlong, hget, hend, if_true, if_false] at hwalk
    cases hwalk
    obtain rfl := List.isEmpty_iff.mp hend
    exact .missing hat (by simpa using henter) (by omega) hget
  | case7 links here name rest m es hat henter hlong hget hend =>
    simp [walk, hat, henter, hlong, hget, hend] at hwalk
  | case8 links here name rest m es hat henter hlong m' es' hget ih =>
    simp only [walk, hat, henter, hlong, hget, if_false] at hwalk
    exact .down hat (by simpa using henter) (by omega) hget (ih hwalk)
  | case9 links here name rest m es hat henter hlong m' body hget hend =>
    simp only [walk, hat, henter, hlong, hget, hend, if_true, if_false] at hwalk
    cases hwalk
    obtain rfl := List.isEmpty_iff.mp hend
    exact .file hat (by simpa using henter) (by omega) hget
  | case10 links here name rest m es hat henter hlong m' body hget hend =>
    simp [walk, hat, henter, hlong, hget, hend] at hwalk
  | case11 links here name rest m es hat henter hlong target hget hend =>
    simp only [walk, hat, henter, hlong, hget, hend, if_true, if_false] at hwalk
    cases hwalk
    simp only [Bool.and_eq_true, List.isEmpty_iff, Bool.not_eq_true'] at hend
    obtain ⟨rfl, hfollow⟩ := hend
    exact .link hfollow hat (by simpa using henter) (by omega) hget
  | case12 here name rest m es hat henter hlong target hget hend =>
    simp [walk, hat, henter, hlong, hget, hend] at hwalk
  | case13 here name rest m es hat henter hlong target hget hend links hparts =>
    simp [walk, hat, henter, hlong, hget, hend, hparts] at hwalk
  | case14 here name rest m es hat henter hlong target hget hend links parts hparts ih =>
    simp only [walk, hat, henter, hlong, hget, hend, hparts, if_false] at hwalk
    refine .follow (fun hrest => ?_) hat (by simpa using henter) (by omega) hget hparts (ih hwalk)
    simpa [hrest] using hend
  | case15 links here name rest hat =>
    rw [walk] at hwalk
    split at hwalk
    · rename_i m es hdir
      exact absurd hdir (hat m es)
    · cases hwalk

theorem place_of_here (here : List Name) (node? : Option Node) :
    (⟨here.dropLast, here.getLast?, node?⟩ : Spot).place = here := by
  induction here using List.reverseRecOn with
  | nil => rfl
  | append_singleton front last _ => simp [Spot.place]

namespace Finds

variable {tree : Node} {follow : Bool} {links : Nat} {here : List Name} {path : Path} {spot : Spot}

theorem walk_eq (h : Finds tree follow links here path spot) :
    walk tree follow links here path = .ok spot := by
  induction h with
  | here => rw [walk]
  | up hne _ ih => rw [walk, if_neg (by simpa using hne), ih]
  | missing hat henter hlong hget => simp [walk, hat, henter, Nat.not_lt.mpr hlong, hget]
  | file hat henter hlong hget => simp [walk, hat, henter, Nat.not_lt.mpr hlong, hget]
  | down hat henter hlong hget _ ih => simp [walk, hat, henter, Nat.not_lt.mpr hlong, hget, ih]
  | link hfollow hat henter hlong hget =>
    simp [walk, hat, henter, Nat.not_lt.mpr hlong, hget, hfollow]
  | @follow links here name rest parts mode entries target spot hend hat henter hlong hget
      hparts _ ih =>
    have hnot : (rest.isEmpty && !follow) = false := by
      cases rest with
      | nil => simp [hend rfl]
      | cons part more => rfl
    simp [walk, hat, henter, Nat.not_lt.mpr hlong, hget, hnot, hparts, ih]

/-- What is found stands at the place where it is found. -/
theorem at?_place (h : Finds tree follow links here path spot) :
    tree.at? spot.place = spot.node := by
  induction h with
  | here => rw [place_of_here]
  | up _ _ ih => exact ih
  | missing hat _ _ hget => exact (at?_directory hat _).trans hget
  | file hat _ _ hget => exact (at?_directory hat _).trans hget
  | down _ _ _ _ _ ih => exact ih
  | link _ hat _ _ hget => exact (at?_directory hat _).trans hget
  | follow _ _ _ _ _ _ _ ih => exact ih

/-- What is found without following the last link is also found as it stands, or is a link. -/
theorem unfollowed (h : Finds tree follow links here path spot) {node : Node}
    (hnode : spot.node = some node) :
    ∃ spot' node', Finds tree false links here path spot' ∧ spot'.node = some node' := by
  induction h with
  | here => exact ⟨_, node, .here, hnode⟩
  | up hne _ ih =>
    obtain ⟨spot', node', hfinds, hnode'⟩ := ih hnode
    exact ⟨spot', node', .up hne hfinds, hnode'⟩
  | missing => cases hnode
  | file hat henter hlong hget => exact ⟨_, _, .file hat henter hlong hget, rfl⟩
  | down hat henter hlong hget _ ih =>
    obtain ⟨spot', node', hfinds, hnode'⟩ := ih hnode
    exact ⟨spot', node', .down hat henter hlong hget hfinds, hnode'⟩
  | link hfollow hat henter hlong hget => exact ⟨_, _, .link rfl hat henter hlong hget, rfl⟩
  | @follow links here name rest parts mode entries target spot _ hat henter hlong hget
      hparts _ ih =>
    cases rest with
    | nil => exact ⟨_, _, .link rfl hat henter hlong hget, rfl⟩
    | cons part more =>
      obtain ⟨spot', node', hfinds, hnode'⟩ := ih hnode
      exact ⟨spot', node', .follow (fun hrest => by cases hrest) hat henter hlong hget hparts
        hfinds, hnode'⟩

end Finds

/-! ## Walks from the top -/

section

variable {tree : Node} {path : Path} {follow : Bool} {spot : Spot}

/-- The spot that the parts of a path lead to is found on a walk from the top. -/
theorem spotAt_eq_ok :
    spotAt tree follow path = .ok spot ↔
      path.any Path.partBroken = false ∧ Finds tree follow linkLimit [] path spot := by
  unfold spotAt
  cases path.any Path.partBroken with
  | true => simp
  | false => simpa using ⟨finds_of_walk, Finds.walk_eq⟩

/-- The spot that a path leads to is the one that its parts lead to. -/
theorem spotOf_eq_ok {path : String} :
    spotOf tree follow path = .ok spot ↔
      path.utf8ByteSize ≤ pathLimit ∧ ∃ parts, partsOf? path = some parts ∧
      spotAt tree follow parts = .ok spot := by
  unfold spotOf
  split
  · rename_i hlong
    simp [Nat.not_le.mpr hlong]
  · rename_i hshort
    cases partsOf? path with
    | none => simp
    | some parts => simp [Nat.not_lt.mp hshort]

end

end Chassis.Files
