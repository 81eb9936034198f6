-- The files that the sweeps of a pass find. No act of the archiver gives two entries of a directory
-- one name, so a sweep finds each file once; and what it finds is settled by what stands in the log
-- directory, but for the order.
import Mathlib.Data.List.Perm.Basic
import Chassis.Proofs.Archive.Packable
import Chassis.Proofs.Archive.Runs
import Chassis.Proofs.Files.Distinct

namespace Chassis.Logging.Archive

open Calendar (Date)
open Files (Body Entries HasDistinctNames Node barrier? distinct_directory mayRead)

/-! ## What acts keep -/

section

variable {directory : String} {tree : Node} (h : HasDistinctNames tree)
include h

theorem distinct_actOn {what : Act} {later : Node} (hact : actOn directory tree what = .ok later) :
    HasDistinctNames later := by
  cases what with
  | openLog name =>
    obtain ⟨body, -, hlater⟩ := ok_of_bind.mp hact
    cases hlater
    exact h
  | create name =>
    have hwrite : Files.write tree (Files.Path.join directory name) (fun _ => .plain []) =
      .ok later := hact
    exact h.write hwrite
  | fill source target =>
    obtain ⟨body, -, hwrite⟩ := ok_of_bind.mp hact
    exact h.write hwrite
  | rename source target => exact h.rename hact
  | remove name => exact h.remove hact

theorem distinct_onFiles (what : Act) : HasDistinctNames ((onFiles directory).act tree what).1 := by
  unfold onFiles
  dsimp only
  split
  · rename_i later hact
    exact distinct_actOn h hact
  · exact h

theorem distinct_spoil (what : Act) (left : Option Body) :
    HasDistinctNames (spoil directory tree what left) := by
  unfold spoil
  split
  · split
    · rename_i hwrite
      exact h.write hwrite
    · exact h
  · exact h

end

theorem distinct_troubled {directory : String} {state : Node × Plan} (h : HasDistinctNames state.1)
    (what : Act) :
    HasDistinctNames ((troubled directory).act state what).1.1 := by
  unfold troubled
  dsimp only
  split
  · exact distinct_spoil h what _
  · exact distinct_onFiles h what

/-- In `withLogs` there is one entry beside those of the log directory. -/
theorem distinct_withLogs {mode : Nat} {entries : Entries} (hnames : (entries.map (·.1)).Nodup)
    (hbelow : ∀ entry ∈ entries, HasDistinctNames entry.2) :
    HasDistinctNames (withLogs mode entries) := by
  have hlogs : HasDistinctNames (.directory mode entries) := by
    refine distinct_directory.mpr ⟨hnames, fun name node hget => ?_⟩
    obtain ⟨entry, hfind, rfl⟩ := Option.map_eq_some_iff.mp hget
    exact hbelow entry (List.mem_of_find?_eq_some hfind)
  exact Files.distinct_singleton hlogs

/-! ## What sweeps find -/

/-- The files that a sweep finds in the log directory of a tree, if that can be listed. -/
def Archiver.found (a : Archiver) (tag : String) (wanted : Date → Bool) (tree : Node) :
    List String :=
  match listOn a.directory tree with
  | .ok listing => a.swept tag wanted listing
  | .error _ => []

section

variable {a : Archiver} {tag : String} {wanted : Date → Bool} {listing other : List Entry}

theorem swept_perm (h : listing.Perm other) :
    (a.swept tag wanted listing).Perm (a.swept tag wanted other) :=
  ((h.filterMap _).filter _).map _

theorem nodup_swept (h : (listing.map (·.name)).Nodup) : (a.swept tag wanted listing).Nodup := by
  unfold Archiver.swept
  rw [List.Nodup, List.pairwise_map] at h ⊢
  refine List.Pairwise.filter _ (List.Pairwise.filterMap _ (fun entry entry' hne => ?_) h)
  rintro ⟨name, date⟩ hname ⟨name', date'⟩ hname' rfl
  simp only [Option.ite_none_right_eq_some, Option.bind_eq_some_iff, Option.map_eq_some_iff,
    Prod.mk.injEq]
    at hname hname'
  obtain ⟨-, text, htext, -, -, rfl, -⟩ := hname
  obtain ⟨-, text', htext', -, -, rfl, -⟩ := hname'
  apply hne
  cases hentry : entry.name with
  | raw bytes => simp [hentry, Text.Native.text?] at htext
  | text content =>
    cases hentry' : entry'.name with
    | raw bytes => simp [hentry', Text.Native.text?] at htext'
    | text content' => simp_all [Text.Native.text?]

end

theorem found_eq {a : Archiver} {tree : Node} {listing : List Entry}
    (h : listOn a.directory tree = .ok listing) (tag : String) (wanted : Date → Bool) :
    a.found tag wanted tree = a.swept tag wanted listing := by
  unfold Archiver.found
  rw [h]

/-- The log directory of a tree is open, with a folder in it, and the tree is one that there can
be. -/
structure Hosts (directory : String) (place : List Files.Name) (mode : Nat) (folder : Folder)
    (tree : Node) : Prop where
  shows : Shows directory place mode tree folder
  ordinary : Ordinary folder
  distinct : HasDistinctNames tree

namespace Hosts

variable {a : Archiver} {tag : String} {wanted : Date → Bool} {place : List Files.Name} {mode : Nat}
  {folder : Folder}
  {tree : Node} (h : Hosts a.directory place mode folder tree)
include h

theorem folderAt_eq : folderAt tree a.directory = folder := by
  obtain ⟨entries, hopens, hget⟩ := h.shows
  rw [folderAt, hopens.entriesAt_eq, hget]

theorem list_eq (hread : mayRead mode = true) :
    ∃ listing, listOn a.directory tree = .ok listing ∧ (listing.map (·.name)).Nodup := by
  obtain ⟨entries, hopens, -⟩ := h.shows
  rw [listOn_eq hopens, if_pos hread]
  refine ⟨_, rfl, ?_⟩
  have hnames := h.distinct _ _ _ hopens.stands
  simpa [Function.comp_def] using hnames

theorem mem_swept_iff (htag : tag = fileTag ∨ tag = archiveTag ∨ tag = partialTag)
    {listing : List Entry} (hlisting : listOn a.directory tree = .ok listing) {name : String} :
    name ∈ a.swept tag wanted listing ↔ ∃ date, dateIn? a.fileStem tag name = some date ∧
    wanted date = true ∧
      barrier? a.directory mode name = none ∧ isFile (folder (.text name)) = true := by
  obtain ⟨entries, hopens, rfl⟩ := h.shows
  exact mem_swept hopens h.ordinary htag hlisting wanted name

theorem mem_found (htag : tag = fileTag ∨ tag = archiveTag ∨ tag = partialTag)
    (hread : mayRead mode = true) {name : String} : name ∈ a.found tag wanted tree ↔
      ∃ date, dateIn? a.fileStem tag name = some date ∧ wanted date = true ∧
        barrier? a.directory mode name = none ∧ isFile (folder (.text name)) = true := by
  obtain ⟨listing, hlisting, -⟩ := h.list_eq hread
  rw [found_eq hlisting, h.mem_swept_iff htag hlisting]

theorem nodup_found (hread : mayRead mode = true) : (a.found tag wanted tree).Nodup := by
  obtain ⟨listing, hlisting, hnames⟩ := h.list_eq hread
  rw [found_eq hlisting]
  exact nodup_swept hnames

/-- A sweep finds the same files in two trees if the same stands there under the names that it looks
for. -/
theorem found_perm (htag : tag = fileTag ∨ tag = archiveTag ∨ tag = partialTag)
    (hread : mayRead mode = true) {folder' : Folder} {other : Node}
    (hother : Hosts a.directory place mode folder' other)
    (hsame : ∀ name date, dateIn? a.fileStem tag name = some date →
      folder' (.text name) = folder (.text name)) :
    (a.found tag wanted other).Perm (a.found tag wanted tree) := by
  refine (List.perm_ext_iff_of_nodup (hother.nodup_found hread) (h.nodup_found hread)).mpr
    fun name => ?_
  rw [h.mem_found htag hread, hother.mem_found htag hread]
  refine exists_congr fun date => and_congr_right fun hdate => ?_
  rw [hsame name date hdate]

end Hosts

end Chassis.Logging.Archive
