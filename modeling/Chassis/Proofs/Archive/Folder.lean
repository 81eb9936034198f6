-- The log directory as a folder: what stands under each name. An act of the archiver on a
-- tree of files is an act on the folder of its log directory, with the same outcome, so that
-- the laws of the archiver need no paths.
import Mathlib.Logic.Function.Basic
import Chassis.Logging.Archive.OnFiles
import Chassis.Proofs.Archive.Names
import Chassis.Proofs.Files.Directory

namespace Chassis.Logging.Archive

open Files
  (Body Entries Fault IsName Node Opens barrier? entriesAt mayEnter mayRead mayWrite newFileMode)
open Function (update)

/-! ## Folders -/

/-- What stands under each name of the log directory. -/
abbrev Folder := Files.Name → Option Node

/-- What stands under a name is a file. -/
def isFile (node? : Option Node) : Bool := (node?.map Node.isFile).getD false

/-- What stands under a name is a directory. -/
def isDirectory (node? : Option Node) : Bool := (node?.map Node.isDirectory).getD false

/-- A folder that a real directory can be, without links. -/
structure Ordinary (folder : Folder) : Prop where
  no_link : ∀ name target, folder name ≠ some (.link target)
  no_slash : ∀ name, folder (.text name) ≠ none → '/' ∉ name.toList

/-- The tree has the folder in its log directory. -/
def Shows (directory : String) (place : List Files.Name) (mode : Nat) (tree : Node)
    (folder : Folder) : Prop :=
  ∃ entries, Opens tree directory place mode entries ∧ Entries.get? entries = folder

/-- The folder of the log directory of a tree. -/
def folderAt (tree : Node) (directory : String) : Folder := Entries.get? (entriesAt tree directory)

/-! ## Acts on a folder -/

section

variable (directory : String) (mode : Nat)

/-- Entries may come to the log directory and go. -/
def mayChange : Bool := mayWrite mode && mayEnter mode

/-- Reads a file of the folder. -/
def readIn (folder : Folder) (name : String) : Except Fault Body :=
  match barrier? directory mode name, folder (.text name) with
  | some fault, _ => .error fault
  | none, none => .error .notFound
  | none, some (.file m body) => if mayRead m then .ok body else .error .denied
  | none, some (.directory m _) => .error (if mayRead m then .isDirectory else .denied)
  | none, some (.link _) => .error .tooManyLinks

/-- Writes a file of the folder. -/
def writeIn (folder : Folder) (name : String) (body : Body) : Except Fault Folder :=
  match barrier? directory mode name, folder (.text name) with
  | some fault, _ => .error fault
  | none, none =>
    if mayChange mode then .ok (update folder (.text name) (some (.file newFileMode body)))
      else .error .denied
  | none, some (.file m _) =>
    if mayWrite m then .ok (update folder (.text name) (some (.file m body))) else .error .denied
  | none, _ => .error .isDirectory

/-- Removes a file of the folder. -/
def removeIn (folder : Folder) (name : String) : Except Fault Folder :=
  match barrier? directory mode name, folder (.text name) with
  | some fault, _ => .error fault
  | none, none => .error .notFound
  | none, some node =>
    if !mayChange mode then .error .denied
    else if node.isDirectory then .error .isDirectory
    else .ok (update folder (.text name) none)

/-- Renames a file of the folder. -/
def renameIn (folder : Folder) (source target : String) : Except Fault Folder :=
  match barrier? directory mode source, barrier? directory mode target, folder (.text source) with
  | some fault, _, _ => .error fault
  | none, some fault, _ => .error fault
  | none, none, none => .error .notFound
  | none, none, some node =>
    if !mayChange mode then .error .denied
    else if isDirectory (folder (.text target)) then .error .isDirectory
    else .ok (update (update folder (.text source) none) (.text target) (some node))

/-- Carries out one act in a folder. -/
def actIn (folder : Folder) : Act → Except Fault Folder
  | .openLog name => (readIn directory mode folder name).map fun _ => folder
  | .create name => writeIn directory mode folder name (.plain [])
  | .fill source target =>
    do writeIn directory mode folder target (← readIn directory mode folder source).pack
  | .rename source target => renameIn directory mode folder source target
  | .remove name => removeIn directory mode folder name

end

/-! ## Acts on a tree -/

theorem ok_bind {α β : Type} (x : α) (f : α → Except Fault β) : (Except.ok x >>= f) = f x := rfl

/-- The outcome of an act on a tree is its outcome on the folder of the log directory. -/
def Agrees (directory : String) (place : List Files.Name) (mode : Nat) :
    Except Fault Folder → Except Fault Node → Prop
  | .ok folder, .ok tree => Shows directory place mode tree folder
  | .error fault, .error other => other = fault
  | _, _ => False

theorem standing_eq_none {node? : Option Node} (hdir : isDirectory node? = false)
    (hlink : ∀ target, node? ≠ some (.link target)) : Files.standing node? = none := by
  match node? with
  | none => rfl
  | some (.file _ _) => rfl
  | some (.directory _ _) => simp [isDirectory, Node.isDirectory] at hdir
  | some (.link target) => exact absurd rfl (hlink target)

/-- What ends in a tag, and has no slash, is a name. -/
theorem isName_of_dateIn? {stem tag name : String} {date : Calendar.Date}
    (hdate : dateIn? stem tag name = some date)
    (htag : tag = fileTag ∨ tag = archiveTag ∨ tag = partialTag) (hslash : '/' ∉ name.toList) :
    IsName name := by
  obtain ⟨middle, hname, -⟩ := dateIn?_eq_some.mp hdate
  have hlast : name.toList.getLast? = tag.toList.getLast? := by
    rw [hname, ← List.append_assoc, List.getLast?_append, String.toList_append,
      List.getLast?_append]
    rcases htag with rfl | rfl | rfl <;> rfl
  rcases htag with rfl | rfl | rfl <;> exact Files.isName_of_last hslash hlast (by decide)

theorem mem_dated {a : Archiver} {tag : String} {listing : List Entry} {name : String}
    {date : Calendar.Date} :
    (name, date) ∈ a.dated tag listing ↔
      ⟨.text name, true⟩ ∈ listing ∧ dateIn? a.fileStem tag name = some date := by
  unfold Archiver.dated
  simp only [List.mem_filterMap, Option.ite_none_right_eq_some, Option.bind_eq_some_iff,
    Option.map_eq_some_iff, Prod.mk.injEq]
  constructor
  · rintro ⟨⟨entryName, flag⟩, hmem, hfile, text, htext, found, hdate, rfl, rfl⟩
    cases entryName with
    | raw bytes => cases htext
    | text content =>
      cases htext
      cases hfile
      exact ⟨hmem, hdate⟩
  · rintro ⟨hmem, hdate⟩
    exact ⟨_, hmem, rfl, name, rfl, date, hdate, rfl, rfl⟩

section

variable {tree : Node} {directory : String} {place : List Files.Name} {mode : Nat}
  {entries : Entries}
  (hopens : Opens tree directory place mode entries) (hplain : Ordinary (Entries.get? entries))
include hopens hplain

theorem spotOf_join {name : String} (hname : IsName name) (follow : Bool) :
    Files.spotOf tree follow (Files.Path.join directory name) =
      match barrier? directory mode name with
      | some fault => .error fault
      | none => .ok ⟨place, some (.text name), Entries.get? entries (.text name)⟩ :=
  hopens.spotOf_join hname (hplain.no_link _) follow

theorem look_join {name : String} (hname : IsName name) :
    Files.look tree (Files.Path.join directory name) =
      match barrier? directory mode name, Entries.get? entries (.text name) with
      | some fault, _ => .error fault
      | none, none => .error .notFound
      | none, some node => .ok node :=
  hopens.look_join hname (hplain.no_link _)

theorem isFile_join {name : String} (hname : IsName name) :
    Files.isFile tree (Files.Path.join directory name) =
      ((barrier? directory mode name).isNone && isFile (Entries.get? entries (.text name))) := by
  unfold Files.isFile
  rw [look_join hopens hplain hname]
  cases barrier? directory mode name with
  | some fault => rfl
  | none => cases Entries.get? entries (.text name) <;> rfl

theorem read_join {name : String} (hname : IsName name) :
    Files.read tree (Files.Path.join directory name) =
    readIn directory mode (Entries.get? entries) name := by
  unfold Files.read readIn
  rw [look_join hopens hplain hname]
  cases barrier? directory mode name with
  | some fault => rfl
  | none =>
    cases Entries.get? entries (.text name) with
    | none => rfl
    | some node => cases node <;> rfl

omit hplain in
theorem mayChange_place : Files.mayChange tree place = mayChange mode := by
  simp [Files.mayChange, hopens.stands, mayChange]

omit hplain in
/-- A file that is put into the directory, where no directory stands, is put into the folder. -/
theorem shows_withEntry (name : Files.Name) (m : Nat) (body : Body)
    (hold : Files.standing (Entries.get? entries name) = none) :
    Shows directory place mode (tree.update (·.withEntry name (.file m body)) place)
      (update (Entries.get? entries) name (some (.file m body))) := by
  have hget (other : Files.Name) : Entries.get? (Entries.put name (.file m body) entries) other =
      update (Entries.get? entries) name (some (.file m body)) other := by
    rw [Files.get?_put, Function.update_apply]
  refine ⟨Entries.put name (.file m body) entries, hopens.update rfl fun other => ?_, funext hget⟩
  rw [hget, Function.update_apply]
  split
  · rename_i heq; rw [heq, hold]; rfl
  · rfl

omit hplain in
/-- What is no directory and is taken out of the directory is taken out of the folder. -/
theorem shows_withoutEntry (name : Files.Name)
    (hold : Files.standing (Entries.get? entries name) = none) :
    Shows directory place mode (tree.update (·.withoutEntry name) place)
      (update (Entries.get? entries) name none) := by
  have hget (other : Files.Name) : Entries.get? (Entries.drop entries name) other =
      update (Entries.get? entries) name none other := by
    rw [Files.get?_drop, Function.update_apply]
  refine ⟨Entries.drop entries name, hopens.update rfl fun other => ?_, funext hget⟩
  rw [hget, Function.update_apply]
  split
  · rename_i heq; rw [heq, hold]; rfl
  · rfl

theorem write_join {name : String} (hname : IsName name) (body : Body) :
    Agrees directory place mode (writeIn directory mode (Entries.get? entries) name body)
      (Files.write tree (Files.Path.join directory name) fun _ => body) := by
  have hhead : (Files.Path.join directory name).toList.head? ≠ some '/' := by
    obtain ⟨parts, hparts, -⟩ := hopens.leads
    exact (Files.partsOf?_eq_some.mp (Files.partsOf?_join hparts hname)).2.1
  unfold Files.write writeIn
  rw [if_neg hhead, spotOf_join hopens hplain hname]
  cases barrier? directory mode name with
  | some fault => rfl
  | none =>
    cases hnode : Entries.get? entries (.text name) with
    | none =>
      have hshows := shows_withEntry hopens (.text name) newFileMode body (by rw [hnode]; rfl)
      simp only [ok_bind, mayChange_place hopens]
      cases mayChange mode with
      | false => rfl
      | true => exact hshows
    | some node =>
      cases node with
      | directory m below => rfl
      | link target => rfl
      | file m old =>
        have hshows := shows_withEntry hopens (.text name) m body (by rw [hnode]; rfl)
        simp only [ok_bind]
        cases mayWrite m with
        | false => rfl
        | true => exact hshows

theorem remove_join {name : String} (hname : IsName name) :
    Agrees directory place mode (removeIn directory mode (Entries.get? entries) name)
      (Files.remove tree (Files.Path.join directory name)) := by
  unfold Files.remove removeIn
  rw [spotOf_join hopens hplain hname]
  cases barrier? directory mode name with
  | some fault => rfl
  | none =>
    cases hnode : Entries.get? entries (.text name) with
    | none => rfl
    | some node =>
      simp only [ok_bind, mayChange_place hopens]
      cases mayChange mode with
      | false => rfl
      | true =>
        cases node with
        | directory m below => rfl
        | link target => exact absurd hnode (hplain.no_link _ _)
        | file m old => exact shows_withoutEntry hopens (.text name) (by rw [hnode]; rfl)

/-- The archiver renames files only. -/
theorem rename_join {source target : String} (hsource : IsName source) (htarget : IsName target)
    (hfile : isDirectory (Entries.get? entries (.text source)) = false) :
    Agrees directory place mode (renameIn directory mode (Entries.get? entries) source target)
      (Files.rename tree (Files.Path.join directory source)
        (Files.Path.join directory target)) := by
  unfold Files.rename renameIn
  rw [spotOf_join hopens hplain hsource, spotOf_join hopens hplain htarget]
  cases barrier? directory mode source with
  | some fault => rfl
  | none =>
    cases barrier? directory mode target with
    | some fault => rfl
    | none =>
      cases hnode : Entries.get? entries (.text source) with
      | none => rfl
      | some node =>
        simp only [ok_bind, mayChange_place hopens, Bool.and_self]
        cases mayChange mode with
        | false => rfl
        | true =>
          cases node with
          | directory m below => rw [hnode] at hfile; cases hfile
          | link target => exact absurd hnode (hplain.no_link _ _)
          | file m body =>
            simp only [Bool.not_true, Bool.false_eq_true, if_false]
            change Agrees _ _ _ (if isDirectory (Entries.get? entries (.text target)) then _ else _)
              (if isDirectory (Entries.get? entries (.text target)) then _ else _)
            cases hgoal : isDirectory (Entries.get? entries (.text target)) with
            | true => rfl
            | false =>
              obtain ⟨without, hwithout, hget⟩ :=
                shows_withoutEntry hopens (.text source) (by rw [hnode]; rfl)
              have hold : Files.standing (Entries.get? without (.text target)) = none := by
                rw [hget, Function.update_apply]
                split
                · rfl
                · exact standing_eq_none hgoal (hplain.no_link _)
              have hshows := shows_withEntry hwithout (.text target) m body hold
              rw [hget] at hshows
              exact hshows

/-- The names that an act names. -/
def Act.names : Act → List String
  | .openLog name => [name]
  | .create name => [name]
  | .fill source target => [source, target]
  | .rename source target => [source, target]
  | .remove name => [name]

theorem actOn_agrees (what : Act) (hnames : ∀ name ∈ what.names, IsName name)
    (hrename : ∀ source target, what = .rename source target →
      isDirectory (Entries.get? entries (.text source)) = false) :
    Agrees directory place mode (actIn directory mode (Entries.get? entries) what)
      (actOn directory tree what) := by
  cases what with
  | openLog name =>
    simp only [actOn, actIn]
    rw [read_join hopens hplain (hnames name (by simp [Act.names]))]
    cases readIn directory mode (Entries.get? entries) name with
    | error fault => rfl
    | ok body => exact ⟨entries, hopens, rfl⟩
  | create name => exact write_join hopens hplain (hnames name (by simp [Act.names])) _
  | fill source target =>
    simp only [actOn, actIn]
    rw [read_join hopens hplain (hnames source (by simp [Act.names]))]
    cases readIn directory mode (Entries.get? entries) source with
    | error fault => rfl
    | ok body => exact write_join hopens hplain (hnames target (by simp [Act.names])) body.pack
  | rename source target =>
    exact rename_join hopens hplain (hnames source (by simp [Act.names]))
      (hnames target (by simp [Act.names]))
      (hrename source target rfl)
  | remove name => exact remove_join hopens hplain (hnames name (by simp [Act.names]))

/-! ## Listing -/

omit hplain in
theorem listOn_eq : listOn directory tree =
    if mayRead mode then .ok (entries.map fun entry => ⟨entry.1, (entry.1.text?.map fun text =>
      Files.isFile tree (Files.Path.join directory text)).getD false⟩)
    else .error .denied := by
  unfold listOn Files.list
  rw [hopens.look_eq]
  simp only [ok_bind]
  cases mayRead mode with
  | false => rfl
  | true => simp [pure, Except.pure, bind, Except.bind, Function.comp_def]

/-- What a sweep deals with: the files that are within reach, with a date that is wanted. -/
theorem mem_swept {a : Archiver} {tag : String}
    (htag : tag = fileTag ∨ tag = archiveTag ∨ tag = partialTag) {listing : List Entry}
    (hlisting : listOn directory tree = .ok listing) (wanted : Calendar.Date → Bool)
    (name : String) :
    name ∈ ((a.dated tag listing).filter (wanted ·.2)).map (·.1) ↔
      ∃ date, dateIn? a.fileStem tag name = some date ∧ wanted date = true ∧
        barrier? directory mode name = none ∧
        isFile (Entries.get? entries (.text name)) = true := by
  rw [listOn_eq hopens] at hlisting
  split at hlisting
  · cases hlisting
    simp only [List.mem_map, List.mem_filter, Prod.exists, exists_and_right, exists_eq_right,
      mem_dated, Entry.mk.injEq]
    constructor
    · rintro ⟨date, ⟨⟨found, ⟨node, hmem⟩, hname, hfile⟩, hdate⟩, hwanted⟩
      subst hname
      obtain ⟨node', hget⟩ := Files.get?_of_mem (List.mem_map.mpr ⟨_, hmem, rfl⟩)
      have hisname := isName_of_dateIn? hdate htag (hplain.no_slash name (by rw [hget]; simp))
      simp only [Text.Native.text?, Option.map_some, Option.getD_some] at hfile
      rw [isFile_join hopens hplain hisname] at hfile
      simp only [Bool.and_eq_true, Option.isNone_iff_eq_none] at hfile
      exact ⟨date, hdate, hwanted, hfile.1, hfile.2⟩
    · rintro ⟨date, hdate, hwanted, hbarrier, hfile⟩
      have hget : Entries.get? entries (.text name) ≠ none := fun hnone => by
        rw [hnone] at hfile
        cases hfile
      obtain ⟨node, hnode⟩ := Option.ne_none_iff_exists'.mp hget
      obtain ⟨⟨found, other⟩, hmem, hname⟩ := List.mem_map.mp (Files.mem_of_get? hnode)
      have hisname := isName_of_dateIn? hdate htag (hplain.no_slash name hget)
      refine ⟨date, ⟨⟨found, ⟨other, hmem⟩, hname, ?_⟩, hdate⟩, hwanted⟩
      rw [show found = Text.Native.text name from hname]
      simp only [Text.Native.text?, Option.map_some, Option.getD_some]
      rw [isFile_join hopens hplain hisname, hbarrier, hfile]
      rfl
  · cases hlisting

end

/-! ## A log directory with one log -/

/-- A tree with one log, in a directory of its own. -/
def loneLog : Node :=
  .directory 0o755
    [(.text "logs",
      .directory 0o755 [(.text "app.2024-05-01.log", .file 0o644 (.plain [104, 105]))])]

theorem folderAt_loneLog (name : Files.Name) : folderAt loneLog "logs" name =
    if .text "app.2024-05-01.log" = name then some (.file 0o644 (.plain [104, 105])) else none := by
  have hopens : Files.Opens loneLog "logs" [.text "logs"] 0o755
      [(.text "app.2024-05-01.log", .file 0o644 (.plain [104, 105]))] :=
    ⟨by decide,
      ⟨[.name (.text "logs")], by decide, by decide,
        .down rfl (by decide) (by decide) rfl .arrived⟩, rfl⟩
  rw [folderAt, hopens.entriesAt_eq]
  by_cases h : .text "app.2024-05-01.log" = name
  · simp [Files.Entries.get?, h]
  · simp [Files.Entries.get?, h]

theorem ordinary_loneLog : Ordinary (folderAt loneLog "logs") := by
  refine ⟨fun name target => ?_, fun name hname => ?_⟩
  · rw [folderAt_loneLog]
    split <;> simp
  · rw [folderAt_loneLog] at hname
    split at hname
    · rename_i heq
      cases heq
      decide
    · exact absurd rfl hname

end Chassis.Logging.Archive
