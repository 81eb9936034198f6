-- The acts of the archiver on the files of one day: when each of them succeeds, what it then
-- makes of the folder, and what it leaves when it fails.
import Chassis.Proofs.Archive.Day
import Chassis.Proofs.Archive.Trouble

namespace Chassis.Logging.Archive

open Files (Body Node barrier? mayRead mayWrite)
open Function (update)

/-! ## Days of a folder -/

/-- What stands under the names of a day. -/
def dayOf (folder : Folder) (log : String) : DayFiles :=
  ⟨folder (.text log), folder (.text (archiveName log)), folder (.text (partialName log))⟩

/-- The names of a day. -/
def dayNames (log : String) : List Files.Name :=
  [.text log, .text (archiveName log), .text (partialName log)]

/-- What is allowed with the files of a day in a directory. -/
def powers (directory : String) (mode : Nat) (log : String) : Powers where
  change := mayChange mode
  log := (barrier? directory mode log).isNone
  archive := (barrier? directory mode (archiveName log)).isNone
  draft := (barrier? directory mode (partialName log)).isNone

section

variable {stem log : String} (hlog : IsLog stem log) (folder : Folder) (node? : Option Node)
include hlog

theorem dayOf_update_log :
    dayOf (update folder (.text log) node?) log = { dayOf folder log with log := node? } := by
  have harchive := (log_ne_archive hlog hlog).symm
  have hdraft := (log_ne_partial hlog hlog).symm
  simp [dayOf, harchive, hdraft]

theorem dayOf_update_archive :
    dayOf (update folder (.text (archiveName log)) node?) log =
    { dayOf folder log with archive := node? } := by
  have hself := log_ne_archive hlog hlog
  have hdraft := (archive_ne_partial hlog hlog).symm
  simp [dayOf, hself, hdraft]

theorem dayOf_update_draft :
    dayOf (update folder (.text (partialName log)) node?) log =
    { dayOf folder log with draft := node? } := by
  have hself := log_ne_partial hlog hlog
  have harchive := archive_ne_partial hlog hlog
  simp [dayOf, hself, harchive]

end

/-- Days of different logs have no name in common. -/
theorem dayNames_disjoint {stem log other : String} (hlog : IsLog stem log)
    (hother : IsLog stem other) (hne : other ≠ log) :
    ∀ name ∈ dayNames other, name ∉ dayNames log := by
  have h₁ := log_ne_archive hother hlog
  have h₂ := log_ne_partial hother hlog
  have h₃ := (log_ne_archive hlog hother).symm
  have h₄ := archive_ne_partial hother hlog
  have h₅ := (log_ne_partial hlog hother).symm
  have h₆ := (archive_ne_partial hlog hother).symm
  simp [dayNames, archiveName_inj hother hlog, partialName_inj hother hlog, *]

/-! ## Acts that succeed -/

section

variable {directory : String} {mode : Nat} {folder folder' : Folder} {name log : String}
    {body : Body}

theorem readIn_eq_ok : readIn directory mode folder log = .ok body ↔
    (powers directory mode log).readable? (folder (.text log)) = some body := by
  unfold readIn Powers.readable? powers
  cases barrier? directory mode log with
  | some fault =>
    rcases folder (.text log) with - | node
    · simp
    · cases node <;> simp
  | none =>
    rcases folder (.text log) with - | node
    · simp
    · cases node with
      | file m old => cases hread : mayRead m <;> simp [hread]
      | directory m below => simp
      | link target => simp

theorem writeIn_eq_ok : writeIn directory mode folder (partialName log) body = .ok folder' ↔
    ∃ m, (powers directory mode log).draftMode? (folder (.text (partialName log))) = some m ∧
      folder' = update folder (.text (partialName log)) (some (.file m body)) := by
  unfold writeIn Powers.draftMode? powers
  cases barrier? directory mode (partialName log) with
  | some fault =>
    rcases folder (.text (partialName log)) with - | node
    · simp
    · cases node <;> simp
  | none =>
    rcases folder (.text (partialName log)) with - | node
    · cases mayChange mode
      · simp
      · simp [eq_comm (a := folder')]
    · cases node with
      | file m old => cases hwrite : mayWrite m <;> simp [hwrite, eq_comm (a := folder')]
      | directory m below => simp
      | link target => simp

theorem removeIn_eq_ok (hplain : Ordinary folder) :
    removeIn directory mode folder name = .ok folder' ↔
    mayChange mode = true ∧ barrier? directory mode name = none ∧
    isFile (folder (.text name)) = true ∧
      folder' = update folder (.text name) none := by
  unfold removeIn
  cases barrier? directory mode name with
  | some fault => simp
  | none =>
    rcases hnode : folder (.text name) with - | node
    · simp [isFile]
    · cases hchange : mayChange mode with
      | false => simp
      | true =>
        cases node with
        | file m old => simp [isFile, Node.isFile, Node.isDirectory, eq_comm (a := folder')]
        | directory m below => simp [isFile, Node.isFile, Node.isDirectory]
        | link target => exact absurd hnode (hplain.no_link _ _)

theorem renameIn_eq_ok {source target : String} {node : Node}
    (hnode : folder (.text source) = some node) :
    renameIn directory mode folder source target = .ok folder' ↔
      mayChange mode = true ∧ barrier? directory mode source = none ∧
      barrier? directory mode target = none ∧
        isDirectory (folder (.text target)) = false ∧
        folder' = update (update folder (.text source) none) (.text target) (some node) := by
  unfold renameIn
  rw [hnode]
  cases barrier? directory mode source with
  | some fault => simp
  | none =>
    cases barrier? directory mode target with
    | some fault => simp
    | none =>
      cases mayChange mode with
      | false => simp
      | true =>
        cases isDirectory (folder (.text target)) with
        | false => simp [eq_comm (a := folder')]
        | true => simp

end

/-! ## Outcomes of the acts of the archiver -/

namespace Outcome

variable {directory : String} {mode : Nat} {calm : Prop} {folder folder' : Folder}
  {log name : String}
  {result : Except Files.Fault Unit}

theorem remove (hplain : Ordinary folder)
    (h : Outcome directory mode calm folder (.remove name) result folder') :
    (result = .ok () ∧ mayChange mode = true ∧ barrier? directory mode name = none ∧
        isFile (folder (.text name)) = true ∧ folder' = update folder (.text name) none) ∨
      (∃ fault, result = .error fault) ∧ folder' = folder ∧
        (calm →
          ¬(mayChange mode = true ∧ barrier? directory mode name = none ∧
            isFile (folder (.text name)) = true)) := by
  cases h with
  | done hok => exact Or.inl ⟨rfl, (removeIn_eq_ok hplain).mp hok⟩
  | failed hcalm =>
    refine Or.inr ⟨⟨_, rfl⟩, rfl, fun h ⟨hchange, hbarrier, hfile⟩ => ?_⟩
    have hok : removeIn directory mode folder name = .ok _ :=
      (removeIn_eq_ok hplain).mpr ⟨hchange, hbarrier, hfile, rfl⟩
    have herror := hcalm h
    simp only [actIn, hok] at herror
    cases herror
  | spoiled _ hwritten _ => cases hwritten

theorem openLog (h : Outcome directory mode calm folder (.openLog log) result folder') :
    folder' = folder ∧
      ((result = .ok () ∧ ∃ body, (powers directory mode log).readable? (folder (.text log)) =
        some body) ∨
        (∃ fault, result = .error fault) ∧
          (calm → (powers directory mode log).readable? (folder (.text log)) = none)) := by
  cases h with
  | done hok =>
    simp only [actIn] at hok
    cases hread : readIn directory mode folder log with
    | error fault => rw [hread] at hok; cases hok
    | ok body =>
      rw [hread] at hok
      cases hok
      exact ⟨rfl, Or.inl ⟨rfl, body, readIn_eq_ok.mp hread⟩⟩
  | failed hcalm =>
    refine ⟨rfl, Or.inr ⟨⟨_, rfl⟩, fun h => ?_⟩⟩
    have herror := hcalm h
    cases hbody : (powers directory mode log).readable? (folder (.text log)) with
    | none => rfl
    | some body =>
      simp only [actIn, readIn_eq_ok.mpr hbody] at herror
      cases herror
  | spoiled _ hwritten _ => cases hwritten

/-- An act that writes an incomplete archive writes what it should, or fails and may leave
anything. -/
theorem write {what : Act} {body : Body} (hwhat : what.written? = some (partialName log))
    (hact : actIn directory mode folder what = writeIn directory mode folder (partialName log) body)
    (h : Outcome directory mode calm folder what result folder') :
    ((result = .ok () ∧
      ∃ m, (powers directory mode log).draftMode? (folder (.text (partialName log))) = some m ∧
        folder' = update folder (.text (partialName log)) (some (.file m body))) ∨
      (∃ fault, result = .error fault) ∧
        ((folder' = folder ∧
            (calm → (powers directory mode log).draftMode? (folder (.text (partialName log))) =
              none)) ∨
          (¬calm ∧ ∃ m written,
            (powers directory mode log).draftMode? (folder (.text (partialName log))) = some m ∧
            folder' = update folder (.text (partialName log)) (some (.file m written))))) := by
  cases h with
  | done hok => exact Or.inl ⟨rfl, writeIn_eq_ok.mp (hact ▸ hok)⟩
  | failed hcalm =>
    refine Or.inr ⟨⟨_, rfl⟩, Or.inl ⟨rfl, fun h => ?_⟩⟩
    have herror := hcalm h
    cases hmode : (powers directory mode log).draftMode? (folder (.text (partialName log))) with
    | none => rfl
    | some m =>
      rw [hact, writeIn_eq_ok.mpr ⟨m, hmode, rfl⟩] at herror
      cases herror
  | spoiled hcalm hwritten hok =>
    rw [hwhat] at hwritten
    cases hwritten
    obtain ⟨m, hmode, hfolder⟩ := writeIn_eq_ok.mp hok
    exact Or.inr ⟨⟨_, rfl⟩, Or.inr ⟨hcalm, m, _, hmode, hfolder⟩⟩

theorem rename {source target : String} {node : Node} (hnode : folder (.text source) = some node)
    (h : Outcome directory mode calm folder (.rename source target) result folder') :
    (result = .ok () ∧ mayChange mode = true ∧ barrier? directory mode source = none ∧
        barrier? directory mode target = none ∧ isDirectory (folder (.text target)) = false ∧
        folder' = update (update folder (.text source) none) (.text target) (some node)) ∨
      (∃ fault, result = .error fault) ∧ folder' = folder ∧
        (calm → ¬(mayChange mode = true ∧ barrier? directory mode source = none ∧
          barrier? directory mode target = none ∧ isDirectory (folder (.text target)) =
          false)) := by
  cases h with
  | done hok => exact Or.inl ⟨rfl, (renameIn_eq_ok hnode).mp hok⟩
  | failed hcalm =>
    refine Or.inr ⟨⟨_, rfl⟩, rfl, fun h ⟨hchange, hsource, htarget, hdir⟩ => ?_⟩
    have hok : renameIn directory mode folder source target = .ok _ :=
      (renameIn_eq_ok hnode).mpr ⟨hchange, hsource, htarget, hdir, rfl⟩
    have herror := hcalm h
    simp only [actIn, hok] at herror
    cases herror
  | spoiled _ hwritten _ => cases hwritten

end Outcome

end Chassis.Logging.Archive
