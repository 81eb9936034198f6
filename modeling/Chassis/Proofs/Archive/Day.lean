-- The files of one day: its log, its archive and its incomplete archive. Whatever a pass does
-- to them, and wherever it breaks off, is a row of the moves below; and a complete pass on
-- its own leaves what `settled` says.
import Mathlib.Logic.Relation
import Chassis.Proofs.Archive.Folder

namespace Chassis.Logging.Archive

open Files (Body Node mayRead mayWrite newFileMode)

/-! ## Files of a day -/

/-- What stands under the three names of a day. -/
structure DayFiles where
  log : Option Node
  archive : Option Node
  draft : Option Node

/-- What is allowed with the files of a day: whether entries may come and go, and which of the
three names can be reached. -/
structure Powers where
  change : Bool
  log : Bool
  archive : Bool
  draft : Bool

/-- What a log holds, if it can be read. -/
def Powers.readable? (p : Powers) : Option Node → Option Body
  | some (.file mode body) => if p.log && mayRead mode then some body else none
  | _ => none

/-- The mode that an incomplete archive has once it is written, if it can be written. -/
def Powers.draftMode? (p : Powers) : Option Node → Option Nat
  | none => if p.draft && p.change then some newFileMode else none
  | some (.file mode _) => if p.draft && mayWrite mode then some mode else none
  | _ => none

namespace DayFiles

/-! ## What a pass makes of them -/

/-- After incomplete archives are removed. -/
def cleared (p : Powers) (f : DayFiles) : DayFiles :=
  if p.change && p.draft && isFile f.draft then { f with draft := none } else f

/-- After the log is packed. When the archive cannot be put in its place it stays incomplete. -/
def packed (p : Powers) (f : DayFiles) : DayFiles :=
  match p.readable? f.log, p.draftMode? f.draft with
  | some body, some mode =>
    if p.change && p.archive && !isDirectory f.archive then
      ⟨none, some (.file mode body.pack), none⟩
    else { f with draft := some (.file mode body.pack) }
  | _, _ => f

/-- After the archive is removed. -/
def pruned (p : Powers) (f : DayFiles) : DayFiles :=
  if p.change && p.archive && isFile f.archive then { f with archive := none } else f

/-- After a whole pass, for a day that is over or not, and too long ago or not. -/
def settled (p : Powers) (rotated expired : Bool) (f : DayFiles) : DayFiles :=
  let kept := if rotated then (f.cleared p).packed p else f.cleared p
  if expired then kept.pruned p else kept

/-! ## Moves -/

/-- One thing that may happen to the files of a day in a pass. What is written into an incomplete
archive may be anything, but only one that holds the whole log becomes the archive, and the log
goes only while its archive holds it. -/
inductive Move (p : Powers) (rotated expired : Bool) : DayFiles → DayFiles → Prop
  | clear {f : DayFiles} : p.change = true → p.draft = true → isFile f.draft = true →
      Move p rotated expired f { f with draft := none }
  | write {f : DayFiles} {body written : Body} {mode : Nat} : rotated = true →
      p.readable? f.log = some body →
      p.draftMode? f.draft = some mode →
        Move p rotated expired f { f with draft := some (.file mode written) }
  | finish {f : DayFiles} {body : Body} {mode : Nat} : rotated = true →
      p.readable? f.log = some body →
      f.draft = some (.file mode body.pack) → p.change = true → p.draft = true → p.archive = true →
      isDirectory f.archive = false →
        Move p rotated expired f { f with archive := f.draft, draft := none }
  | drop {f : DayFiles} {body : Body} {mode : Nat} : rotated = true →
      p.readable? f.log = some body →
      f.archive = some (.file mode body.pack) → f.draft = none → p.change = true → p.draft = true →
      p.archive = true → Move p rotated expired f { f with log := none }
  | prune {f : DayFiles} : expired = true → p.change = true → p.archive = true →
      isFile f.archive = true →
      Move p rotated expired f { f with archive := none }

/-- Any number of moves. -/
abbrev Moves (p : Powers) (rotated expired : Bool) : DayFiles → DayFiles → Prop :=
  Relation.ReflTransGen (Move p rotated expired)

/-! ## Contents -/

/-- What stands under a name, without the mode of a file. -/
def withoutMode : Option Node → Option Node
  | some (.file _ body) => some (.file 0 body)
  | node? => node?

/-- The files of a day without their modes. -/
def contents (f : DayFiles) : DayFiles :=
  ⟨withoutMode f.log, withoutMode f.archive, withoutMode f.draft⟩

theorem isDirectory_of_isFile {node? : Option Node} (h : isFile node? = true) :
    isDirectory node? = false := by
  match node? with
  | some (.file _ _) => rfl
  | some (.directory _ _) => cases h
  | some (.link _) => cases h
  | none => cases h

/-! ## A move changes nothing about what a later pass leaves -/

section

variable {p : Powers} {rotated expired : Bool} {f g : DayFiles}

theorem packed_of {body : Body} {mode : Nat} (hlog : p.readable? f.log = some body)
    (hdraft : p.draftMode? f.draft = some mode) :
    f.packed p = if p.change && p.archive && !isDirectory f.archive then
    ⟨none, some (.file mode body.pack), none⟩
      else { f with draft := some (.file mode body.pack) } := by
  simp [packed, hlog, hdraft]

theorem cleared_of_file (hchange : p.change = true) (hreach : p.draft = true)
    (hdraft : isFile f.draft = true) :
    f.cleared p = { f with draft := none } := by
  simp [cleared, hchange, hreach, hdraft]

theorem cleared_of_none (hdraft : f.draft = none) : f.cleared p = f := by
  simp [cleared, hdraft, isFile]

/-- An archive that is a file, or is not there, is not there after pruning. -/
theorem pruned_eq (hchange : p.change = true) (hreach : p.archive = true)
    (harchive : isFile f.archive = true ∨ f.archive = none) :
    f.pruned p = { f with archive := none } := by
  rcases harchive with hfile | hnone
  · simp [pruned, hchange, hreach, hfile]
  · obtain ⟨log, archive, draft⟩ := f
    simp only at hnone
    subst hnone
    simp [pruned, isFile]

theorem draftMode?_none (hchange : p.change = true) (hreach : p.draft = true) :
    p.draftMode? none = some newFileMode := by
  simp [Powers.draftMode?, hchange, hreach]

theorem reachable_of_readable {node? : Option Node} {body : Body}
    (h : p.readable? node? = some body) :
    p.log = true ∧ isFile node? = true := by
  unfold Powers.readable? at h
  split at h
  · simp only [Option.ite_none_right_eq_some, Bool.and_eq_true] at h
    exact ⟨h.1.1, rfl⟩
  · cases h

theorem reach_of_draftMode {node? : Option Node} {mode : Nat} (h : p.draftMode? node? = some mode) :
    p.draft = true := by
  unfold Powers.draftMode? at h
  split at h
  · simp only [Option.ite_none_right_eq_some, Bool.and_eq_true] at h
    exact h.1.1
  · simp only [Option.ite_none_right_eq_some, Bool.and_eq_true] at h
    exact h.1.1
  · cases h

/-- An incomplete archive that has been written can be written again. -/
theorem draftMode?_written {node? : Option Node} {mode : Nat} (h : p.draftMode? node? = some mode)
    (written : Body) :
    p.draftMode? (some (.file mode written)) = some mode := by
  unfold Powers.draftMode? at h
  split at h
  · simp only [Option.ite_none_right_eq_some, Bool.and_eq_true, Option.some.injEq] at h
    obtain ⟨⟨hreach, -⟩, rfl⟩ := h
    have hwrite : mayWrite newFileMode = true := by decide
    simp [Powers.draftMode?, hreach, hwrite]
  · rename_i old body
    simp only [Option.ite_none_right_eq_some, Bool.and_eq_true, Option.some.injEq] at h
    obtain ⟨hboth, rfl⟩ := h
    simp [Powers.draftMode?, hboth]
  · cases h

theorem cleared_of_not (h : ¬(p.draft = true ∧ isFile f.draft = true)) : f.cleared p = f := by
  refine if_neg fun hall => h ?_
  simp only [Bool.and_eq_true] at hall
  exact ⟨hall.1.2, hall.2⟩

theorem packed_of_not (h : ¬(p.log = true ∧ isFile f.log = true)) : f.packed p = f := by
  cases hlog : p.readable? f.log with
  | none => simp [packed, hlog]
  | some body => exact absurd (reachable_of_readable hlog) h

theorem pruned_of_not (h : ¬(p.archive = true ∧ isFile f.archive = true)) : f.pruned p = f := by
  refine if_neg fun hall => h ?_
  simp only [Bool.and_eq_true] at hall
  exact ⟨hall.1.2, hall.2⟩

theorem cleared_cleared : (f.cleared p).cleared p = f.cleared p := by
  by_cases h : (p.change && p.draft && isFile f.draft) = true
  · have hnone : f.cleared p = { f with draft := none } := if_pos h
    rw [hnone, cleared_of_none rfl]
  · have hsame : f.cleared p = f := if_neg h
    rw [hsame, hsame]

theorem packed_packed : (f.packed p).packed p = f.packed p := by
  cases hlog : p.readable? f.log with
  | none => simp [packed, hlog]
  | some body =>
    cases hdraft : p.draftMode? f.draft with
    | none => simp [packed, hlog, hdraft]
    | some mode =>
      rw [packed_of hlog hdraft]
      split
      · rfl
      · rename_i hnot
        have hagain := draftMode?_written hdraft body.pack
        rw [packed_of (f := { f with draft := some (.file mode body.pack) }) hlog hagain,
          if_neg hnot]

theorem pruned_pruned : (f.pruned p).pruned p = f.pruned p := by
  by_cases h : (p.change && p.archive && isFile f.archive) = true
  · have hnone : f.pruned p = { f with archive := none } := if_pos h
    rw [hnone]
    simp [pruned, isFile]
  · have hsame : f.pruned p = f := if_neg h
    rw [hsame, hsame]

/-- What stands in an incomplete archive does not matter to the pass that packs the log: either it
is removed first, or it is written over. -/
theorem packed_cleared_write {body written : Body} {mode : Nat}
    (hlog : p.readable? f.log = some body) (hdraft : p.draftMode? f.draft = some mode) :
    packed p (cleared p { f with draft := some (.file mode written) }) =
    packed p (cleared p f) := by
  obtain ⟨log, archive, draft⟩ := f
  match draft with
  | none =>
    simp only [Powers.draftMode?, Option.ite_none_right_eq_some, Bool.and_eq_true] at hdraft
    rw [cleared_of_file hdraft.1.2 hdraft.1.1 rfl, cleared_of_none rfl]
  | some (.file m old) =>
    simp only [Powers.draftMode?, Option.ite_none_right_eq_some, Bool.and_eq_true,
      Option.some.injEq] at hdraft
    obtain ⟨⟨hreach, hwrite⟩, rfl⟩ := hdraft
    cases hchange : p.change with
    | true => rw [cleared_of_file hchange hreach rfl, cleared_of_file hchange hreach rfl]
    | false => simp [cleared, packed, Powers.draftMode?, hchange, hreach, hwrite, hlog]
  | some (.directory m below) => simp [Powers.draftMode?] at hdraft
  | some (.link target) => simp [Powers.draftMode?] at hdraft

/-- Nor does it matter whether the complete archive is put in its place already. -/
theorem packed_cleared_finish {body : Body} {mode : Nat} (hlog : p.readable? f.log = some body)
    (hdraft : f.draft = some (.file mode body.pack)) (hchange : p.change = true)
    (hreach : p.draft = true) (harchive : p.archive = true) (hdir : isDirectory f.archive = false) :
    packed p (cleared p { f with archive := f.draft, draft := none }) = packed p (cleared p f) := by
  have hfile : isFile f.draft = true := by rw [hdraft]; rfl
  have hnone := draftMode?_none hchange hreach
  have hnodir : isDirectory f.draft = false := by rw [hdraft]; rfl
  rw [cleared_of_file hchange hreach hfile, cleared_of_none rfl,
    packed_of (f := { f with archive := f.draft, draft := none }) hlog hnone,
    packed_of (f := { f with draft := none }) hlog hnone]
  simp [hchange, harchive, hdir, hnodir]

/-- Nor, but for the mode of the archive, whether the log is gone already. -/
theorem packed_cleared_drop {body : Body} {mode : Nat} (hlog : p.readable? f.log = some body)
    (harchive : f.archive = some (.file mode body.pack)) (hdraft : f.draft = none)
    (hchange : p.change = true) (hreach : p.draft = true) (hreachable : p.archive = true) :
    packed p (cleared p { f with log := none }) = ⟨none, some (.file mode body.pack), none⟩ ∧
      packed p (cleared p f) = ⟨none, some (.file newFileMode body.pack), none⟩ := by
  have hnone : p.draftMode? f.draft = some newFileMode := by
    rw [hdraft]; exact draftMode?_none hchange hreach
  have hdir : isDirectory (some (.file mode body.pack)) = false := rfl
  rw [cleared_of_none hdraft, cleared_of_none (f := { f with log := none }) hdraft,
    packed_of hlog hnone]
  simp [packed, Powers.readable?, hchange, hreachable, hdir, harchive, hdraft]

theorem packed_without_archive (hdir : isDirectory f.archive = false) :
    ({ packed p f with archive := none } : DayFiles) =
      { packed p { f with archive := none } with archive := none } := by
  have hnone : isDirectory none = false := rfl
  unfold packed
  split
  · rename_i hlog hdraft
    simp only [hlog, hdraft, hdir, hnone]
    split <;> rfl
  · rfl

/-- Nor whether an old archive is gone already, once it is to be removed. -/
theorem settled_prune (hchange : p.change = true) (hreach : p.archive = true)
    (harchive : isFile f.archive = true) (rotated : Bool) :
    settled p rotated true { f with archive := none } = settled p rotated true f := by
  have hdir : isDirectory f.archive = false := isDirectory_of_isFile harchive
  have hcleared : cleared p { f with archive := none } = { cleared p f with archive := none } := by
    unfold cleared
    split <;> rfl
  have hclearedFile : isFile (cleared p f).archive = true := by
    unfold cleared
    split <;> exact harchive
  have hpacked {f : DayFiles} (hf : isFile f.archive = true ∨ f.archive = none) :
      isFile (packed p f).archive = true ∨ (packed p f).archive = none := by
    unfold packed
    split
    · split
      · exact Or.inl rfl
      · exact hf
    · exact hf
  simp only [settled, if_true]
  cases rotated with
  | false =>
    rw [if_neg Bool.false_ne_true, if_neg Bool.false_ne_true, hcleared,
      pruned_eq hchange hreach (Or.inr rfl), pruned_eq hchange hreach (Or.inl hclearedFile)]
  | true =>
    rw [if_pos rfl, if_pos rfl, hcleared, pruned_eq hchange hreach (hpacked (Or.inr rfl)),
      pruned_eq hchange hreach (hpacked (Or.inl hclearedFile)),
      packed_without_archive (isDirectory_of_isFile hclearedFile)]

theorem settled_move (hmove : Move p rotated expired f g) :
    (g.settled p rotated expired).contents = (f.settled p rotated expired).contents := by
  cases hmove with
  | clear hchange hreach hdraft =>
    have hsame : cleared p { f with draft := none } = cleared p f := by
      rw [cleared_of_file hchange hreach hdraft, cleared_of_none rfl]
    simp only [settled, hsame]
  | write hrotated hlog hdraft =>
    simp only [settled, hrotated, if_true, packed_cleared_write hlog hdraft]
  | finish hrotated hlog hdraft hchange hreach harchive hdir =>
    simp only [settled, hrotated, if_true,
      packed_cleared_finish hlog hdraft hchange hreach harchive hdir]
  | drop hrotated hlog harchive hdraft hchange hreach hreachable =>
    obtain ⟨hgoneLog, hlogThere⟩ :=
      packed_cleared_drop hlog harchive hdraft hchange hreach hreachable
    simp only [settled, hrotated, if_true, hgoneLog, hlogThere]
    cases expired with
    | false => rfl
    | true =>
      rw [if_pos rfl, if_pos rfl, pruned_eq hchange hreachable (Or.inl rfl),
        pruned_eq hchange hreachable (Or.inl rfl)]
  | prune hexpired hchange hreach harchive =>
    rw [hexpired, settled_prune hchange hreach harchive]

/-- Nor does any number of moves. -/
theorem settled_moves (hmoves : Moves p rotated expired f g) :
    (g.settled p rotated expired).contents = (f.settled p rotated expired).contents := by
  induction hmoves with
  | refl => rfl
  | tail _ hmove ih => rw [settled_move hmove, ih]

/-- What may happen on a day may happen later. -/
theorem Move.later (hmove : Move p rotated expired f g) {rotated' expired' : Bool}
    (hrotated : rotated = true → rotated' = true) (hexpired : expired = true → expired' = true) :
    Move p rotated' expired' f g := by
  cases hmove with
  | clear hchange hreach hdraft => exact .clear hchange hreach hdraft
  | write h hlog hdraft => exact .write (hrotated h) hlog hdraft
  | finish h hlog hdraft hchange hreach harchive hdir =>
    exact .finish (hrotated h) hlog hdraft hchange hreach harchive hdir
  | drop h hlog harchive hdraft hchange hreach hreachable =>
    exact .drop (hrotated h) hlog harchive hdraft hchange hreach hreachable
  | prune h hchange hreach harchive => exact .prune (hexpired h) hchange hreach harchive

theorem moves_later (hmoves : Moves p rotated expired f g) {rotated' expired' : Bool}
    (hrotated : rotated = true → rotated' = true) (hexpired : expired = true → expired' = true) :
    Moves p rotated' expired' f g := by
  have hsingle : Move p rotated expired ≤ Move p rotated' expired' :=
    fun _ _ hmove => hmove.later hrotated hexpired
  exact Relation.ReflTransGen.mono hsingle _ _ hmoves

end

end DayFiles

end Chassis.Logging.Archive
