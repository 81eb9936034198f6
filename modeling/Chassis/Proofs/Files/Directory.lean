-- Directories of a tree of files. Where a path leads is written as a relation, so that laws
-- of it go by induction on the way. A name in a directory that a path opens leads to the
-- entry of that name, and the way stays open when files come to the directory and go.
import Chassis.Proofs.Files.Path
import Chassis.Proofs.Files.Walk

namespace Chassis.Files

/-! ## Entries -/

theorem get?_put (entries : Entries) (name other : Name) (node : Node) :
    Entries.get? (Entries.put name node entries) other = if other = name then some node
    else Entries.get? entries other := by
  induction entries with
  | nil =>
    by_cases h : other = name
    · simp [Entries.get?, Entries.put, h]
    · simp [Entries.get?, Entries.put, h, Ne.symm h]
  | cons entry rest ih =>
    obtain ⟨n, old⟩ := entry
    unfold Entries.get? at ih ⊢
    unfold Entries.put
    by_cases hn : n = name
    · subst hn
      by_cases h : other = n
      · simp [h]
      · simp [h, Ne.symm h]
    · by_cases h : n = other
      · subst h
        simp [hn]
      · simpa [hn, h] using ih

theorem get?_drop (entries : Entries) (name other : Name) :
    Entries.get? (Entries.drop entries name) other = if other = name then none
    else Entries.get? entries other := by
  unfold Entries.get? Entries.drop
  induction entries with
  | nil => simp
  | cons entry rest ih =>
    obtain ⟨n, old⟩ := entry
    by_cases hn : n = name
    · subst hn
      by_cases h : other = n
      · subst h; simp
      · simpa [h, Ne.symm h] using ih
    · by_cases h : n = other
      · subst h
        simp [hn]
      · simpa [hn, h] using ih

theorem mem_of_get? {entries : Entries} {name : Name} {node : Node}
    (h : Entries.get? entries name = some node) :
    name ∈ entries.map (·.1) := by
  unfold Entries.get? at h
  obtain ⟨entry, hfind, -⟩ := Option.map_eq_some_iff.mp h
  have hname := List.find?_some hfind
  exact List.mem_map.mpr ⟨entry, List.mem_of_find?_eq_some hfind, by simpa using hname⟩

theorem get?_of_mem {entries : Entries} {name : Name} (h : name ∈ entries.map (·.1)) :
    ∃ node, Entries.get? entries name = some node := by
  obtain ⟨entry, hmem, rfl⟩ := List.mem_map.mp h
  unfold Entries.get?
  rw [← Option.isSome_iff_exists, Option.isSome_map, List.find?_isSome]
  exact ⟨entry, hmem, by simp⟩

/-! ## The way to a directory -/

/-- From `here`, and with at most so many links on the way, a path leads to a place. -/
inductive Leads (tree : Node) (place : List Name) : Nat → List Name → Path → Prop
  | arrived {links : Nat} : Leads tree place links place []
  | up {links : Nat} {here : List Name} {rest : Path} :
      here ≠ [] → Leads tree place links here.dropLast rest →
        Leads tree place links here (.up :: rest)
  | down {links : Nat} {here : List Name} {name : Name} {rest : Path} {mode inner : Nat}
      {entries below : Entries} :
      tree.at? here = some (.directory mode entries) → mayEnter mode = true →
      name.bytes.length ≤ nameLimit → Entries.get? entries name = some (.directory inner below) →
      Leads tree place links (here ++ [name]) rest →
        Leads tree place links here (.name name :: rest)
  | follow {links : Nat} {here : List Name} {name : Name} {rest parts : Path} {mode : Nat}
      {entries : Entries}
      {target : String} :
      tree.at? here = some (.directory mode entries) → mayEnter mode = true →
      name.bytes.length ≤ nameLimit → Entries.get? entries name = some (.link target) →
      partsOf? target = some parts → Leads tree place links here (parts ++ rest) →
      Leads tree place (links + 1) here (.name name :: rest)

/-- A walk that ends at a directory has gone the way to it. -/
theorem Finds.leads {tree : Node} {links : Nat} {here : List Name} {path : Path} {spot : Spot}
    {mode : Nat} {entries : Entries} (h : Finds tree true links here path spot)
    (hnode : spot.node = some (.directory mode entries)) :
    ∃ place, Leads tree place links here path ∧
      tree.at? place = some (.directory mode entries) := by
  induction h with
  | @here links here => exact ⟨here, .arrived, hnode⟩
  | up hne _ ih =>
    obtain ⟨place, hlead, hplace⟩ := ih hnode
    exact ⟨place, .up hne hlead, hplace⟩
  | missing | file => cases hnode
  | down hat henter hlong hget _ ih =>
    obtain ⟨place, hlead, hplace⟩ := ih hnode
    exact ⟨place, .down hat henter hlong hget hlead, hplace⟩
  | link hfollow => cases hfollow
  | follow _ hat henter hlong hget hparts _ ih =>
    obtain ⟨place, hlead, hplace⟩ := ih hnode
    exact ⟨place, .follow hat henter hlong hget hparts hlead, hplace⟩

/-- The way to a directory is walked to its end. -/
theorem Leads.walk_eq {tree : Node} {place : List Name} {links : Nat} {here : List Name}
    {path : Path} (h : Leads tree place links here path) :
    walk tree true links here path = .ok ⟨place.dropLast, place.getLast?, tree.at? place⟩ := by
  refine Finds.walk_eq ?_
  induction h with
  | arrived => exact .here
  | up hne _ ih => exact .up hne ih
  | down hat henter hlong hget _ ih => exact .down hat henter hlong hget ih
  | follow hat henter hlong hget hparts _ ih =>
    exact .follow (fun _ => rfl) hat henter hlong hget hparts ih

/-- A name after the way to a directory leads to the entry of that name. -/
theorem Leads.walk_name {tree : Node} {place : List Name} {links : Nat} {here : List Name}
    {path : Path} {mode : Nat} {entries : Entries} {name : Name}
    (h : Leads tree place links here path)
    (hplace : tree.at? place = some (.directory mode entries))
    (hlink : ∀ target, Entries.get? entries name ≠ some (.link target)) (follow : Bool) :
    walk tree follow links here (path ++ [.name name]) =
      if !mayEnter mode then .error .denied
      else if nameLimit < name.bytes.length then .error .nameTooLong
      else .ok ⟨place, some name, Entries.get? entries name⟩ := by
  induction h with
  | arrived =>
    simp only [List.nil_append, walk, hplace]
    cases hget : Entries.get? entries name with
    | none => simp
    | some node =>
      cases node with
      | file m body => simp
      | link target => exact absurd hget (hlink target)
      | directory m below =>
        have hbelow := at?_directory hplace name
        simp [hbelow, hget]
  | up hne _ ih => rw [List.cons_append, walk, if_neg (by simpa using hne), ih]
  | down hat henter hlong hget _ ih =>
    simp [walk, hat, henter, Nat.not_lt.mpr hlong, hget, ih]
  | follow hat henter hlong hget hparts _ ih =>
    rw [List.append_assoc] at ih
    simp [walk, hat, henter, Nat.not_lt.mpr hlong, hget, hparts, ih]

/-! ## Trees with the same ways -/

/-- What of a place decides where ways lead: the mode of a directory, the target of a link. -/
def wayMark : Option Node → Option (Nat ⊕ String)
  | some (.directory mode _) => some (.inl mode)
  | some (.link target) => some (.inr target)
  | _ => none

theorem wayMark_directory {node? : Option Node} {mode : Nat}
    (h : wayMark node? = some (.inl mode)) :
    ∃ entries, node? = some (.directory mode entries) := by
  unfold wayMark at h
  split at h <;> simp_all

theorem wayMark_link {node? : Option Node} {target : String}
    (h : wayMark node? = some (.inr target)) :
    node? = some (.link target) := by
  unfold wayMark at h
  split at h <;> simp_all

/-- Two trees that have the same directories and links at every place. -/
def SameWays (tree other : Node) : Prop :=
  ∀ place, wayMark (other.at? place) = wayMark (tree.at? place)

theorem Leads.of_sameWays {tree other : Node} (hsame : SameWays tree other) {place : List Name}
    {links : Nat} {here : List Name} {path : Path} (h : Leads tree place links here path) :
    Leads other place links here path := by
  -- The entries of a directory are the places below it, so the same mark is found for a name.
  have hentry {here : List Name} {mode : Nat} {entries : Entries}
      (hat : tree.at? here = some (.directory mode entries)) (name : Name) :
      ∃ entries', other.at? here = some (.directory mode entries') ∧
        wayMark (Entries.get? entries' name) = wayMark (Entries.get? entries name) := by
    have hhere : wayMark (other.at? here) = some (.inl mode) := by rw [hsame, hat]; rfl
    obtain ⟨entries', hother⟩ := wayMark_directory hhere
    refine ⟨entries', hother, ?_⟩
    rw [← at?_directory hother, ← at?_directory hat]
    exact hsame _
  induction h with
  | arrived => exact .arrived
  | up hne _ ih => exact .up hne ih
  | @down _ _ name _ _ _ _ _ hat henter hlong hget _ ih =>
    obtain ⟨entries', hother, hmark⟩ := hentry hat name
    rw [hget] at hmark
    obtain ⟨below', hget'⟩ := wayMark_directory hmark
    exact .down hother henter hlong hget' ih
  | @follow _ _ name _ _ _ _ _ hat henter hlong hget hparts _ ih =>
    obtain ⟨entries', hother, hmark⟩ := hentry hat name
    rw [hget] at hmark
    exact .follow hother henter hlong (wayMark_link hmark) hparts ih

/-- What stands under a name and is no file. -/
def standing : Option Node → Option Node
  | some (.file _ _) => none
  | node? => node?

theorem wayMark_below (node? : Option Node) (rest : List Name) :
    wayMark (node?.bind (Node.at? rest)) = wayMark ((standing node?).bind (Node.at? rest)) := by
  match node? with
  | none => rfl
  | some (.directory _ _) => rfl
  | some (.link _) => rfl
  | some (.file _ _) => cases rest <;> rfl

/-- Files that come to a directory and go from it change no way. -/
theorem sameWays_update {tree : Node} {place : List Name} {mode : Nat} {entries entries' : Entries}
    {change : Node → Node} (hplace : tree.at? place = some (.directory mode entries))
    (hchange : change (.directory mode entries) = .directory mode entries')
    (hsame : ∀ name, standing (Entries.get? entries' name) = standing (Entries.get? entries name)) :
    SameWays tree (tree.update change place) ∧
      (tree.update change place).at? place = some (.directory mode entries') := by
  induction place generalizing tree with
  | nil =>
    simp only [Node.at?, Option.some.injEq] at hplace
    subst hplace
    refine ⟨fun other => ?_, by simp [Node.update, Node.at?, hchange]⟩
    rw [Node.update, hchange]
    cases other with
    | nil => simp [Node.at?, wayMark]
    | cons name rest => simp only [Node.at?]; rw [wayMark_below, hsame, ← wayMark_below]
  | cons first rest ih =>
    cases tree with
    | file m body => simp [Node.at?] at hplace
    | link target => simp [Node.at?] at hplace
    | directory m above =>
      simp only [Node.at?] at hplace
      obtain ⟨node, hnode, hbelow⟩ := Option.bind_eq_some_iff.mp hplace
      obtain ⟨hways, hthere⟩ := ih hbelow
      simp only [Node.update, hnode]
      refine ⟨fun other => ?_, by simp [Node.at?, get?_put, hthere]⟩
      cases other with
      | nil => simp [Node.at?, wayMark]
      | cons name below =>
        simp only [Node.at?, get?_put]
        by_cases hname : name = first
        · subst hname
          simpa [hnode] using hways below
        · simp [hname]

/-! ## Opened directories -/

/-- A path opens a directory: where it stands, its mode and its entries. -/
structure Opens (tree : Node) (directory : String) (place : List Name) (mode : Nat)
    (entries : Entries) : Prop where
  short : directory.utf8ByteSize ≤ pathLimit
  leads : ∃ parts, partsOf? directory = some parts ∧ parts.any Path.partBroken = false ∧
    Leads tree place linkLimit [] parts
  stands : tree.at? place = some (.directory mode entries)

theorem opens_of_look {tree : Node} {directory : String} {mode : Nat} {entries : Entries}
    (h : look tree directory = .ok (.directory mode entries)) :
    ∃ place, Opens tree directory place mode entries := by
  unfold look at h
  cases hspot : spotOf tree true directory with
  | error fault => simp [hspot, bind, Except.bind] at h
  | ok spot =>
    simp only [hspot, bind, Except.bind] at h
    split at h
    · rename_i node hnode
      cases h
      obtain ⟨hshort, parts, hparts, hat⟩ := spotOf_eq_ok.mp hspot
      obtain ⟨hbroken, hfinds⟩ := spotAt_eq_ok.mp hat
      obtain ⟨place, hleads, hplace⟩ := hfinds.leads hnode
      exact ⟨place, hshort, ⟨parts, hparts, hbroken, hleads⟩, hplace⟩
    · cases h

section

variable {tree : Node} {directory : String} {place : List Name} {mode : Nat} {entries : Entries}
  (h : Opens tree directory place mode entries)
include h

theorem Opens.look_eq : look tree directory = .ok (.directory mode entries) := by
  obtain ⟨parts, hparts, hbroken, hleads⟩ := h.leads
  have hspot : spotOf tree true directory =
      .ok ⟨place.dropLast, place.getLast?, some (.directory mode entries)⟩ := by
    simp only [spotOf, if_neg (Nat.not_lt.mpr h.short), hparts, spotAt, hbroken,
      Bool.false_eq_true, if_false]
    rw [hleads.walk_eq, h.stands]
  simp [look, hspot, bind, Except.bind, pure, Except.pure]

/-- The path stays open when files come and go. -/
theorem Opens.update {entries' : Entries} {change : Node → Node}
    (hchange : change (.directory mode entries) = .directory mode entries')
    (hsame : ∀ name, standing (Entries.get? entries' name) = standing (Entries.get? entries name)) :
    Opens (tree.update change place) directory place mode entries' := by
  obtain ⟨hways, hthere⟩ := sameWays_update h.stands hchange hsame
  obtain ⟨parts, hparts, hbroken, hleads⟩ := h.leads
  exact ⟨h.short, ⟨parts, hparts, hbroken, hleads.of_sameWays hways⟩, hthere⟩

end

/-- What keeps a name in a directory out of reach: the length of the path or of the name, a zero
in it, or the mode of the directory. -/
def barrier? (directory : String) (mode : Nat) (name : String) : Option Fault :=
  if pathLimit < (Path.join directory name).utf8ByteSize then some .nameTooLong
  else if Path.partBroken (.name (.text name)) then some .zeroInName
  else if !mayEnter mode then some .denied
  else if nameLimit < (Text.Native.text name).bytes.length then some .nameTooLong
  else none

/-- A name that is joined to the path of a directory leads to its entry, or is out of reach. -/
theorem Opens.spotOf_join {tree : Node} {directory : String} {place : List Name} {mode : Nat}
    {entries : Entries} (h : Opens tree directory place mode entries) {name : String}
    (hname : IsName name)
    (hlink : ∀ target, Entries.get? entries (.text name) ≠ some (.link target)) (follow : Bool) :
    spotOf tree follow (Path.join directory name) =
      match barrier? directory mode name with
      | some fault => .error fault
      | none => .ok ⟨place, some (.text name), Entries.get? entries (.text name)⟩ := by
  obtain ⟨parts, hparts, hbroken, hleads⟩ := h.leads
  unfold spotOf barrier?
  split
  · rfl
  · rw [partsOf?_join hparts hname]
    simp only [spotAt, List.any_append, hbroken, List.any_cons, List.any_nil, Bool.false_or,
      Bool.or_false]
    split
    · rfl
    · rw [hleads.walk_name h.stands hlink]
      split
      · rfl
      · split <;> rfl

theorem Opens.look_join {tree : Node} {directory : String} {place : List Name} {mode : Nat}
    {entries : Entries} (h : Opens tree directory place mode entries) {name : String}
    (hname : IsName name)
    (hlink : ∀ target, Entries.get? entries (.text name) ≠ some (.link target)) :
    look tree (Path.join directory name) =
      match barrier? directory mode name, Entries.get? entries (.text name) with
      | some fault, _ => .error fault
      | none, none => .error .notFound
      | none, some node => .ok node := by
  unfold look
  rw [h.spotOf_join hname hlink]
  cases barrier? directory mode name with
  | some fault => rfl
  | none => cases Entries.get? entries (.text name) <;> rfl

/-- The entries of the directory that a path leads to. -/
def entriesAt (tree : Node) (path : String) : Entries :=
  match look tree path with
  | .ok (.directory _ entries) => entries
  | _ => []

theorem Opens.entriesAt_eq {tree : Node} {directory : String} {place : List Name} {mode : Nat}
    {entries : Entries} (h : Opens tree directory place mode entries) :
    entriesAt tree directory = entries := by
  rw [entriesAt, h.look_eq]

end Chassis.Files
