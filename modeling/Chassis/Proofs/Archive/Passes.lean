-- Passes over the log directory. Wherever a pass is cut off, and whatever went wrong before,
-- the files of every day have only moved; and a complete pass on which nothing goes wrong
-- leaves every day settled.
import Chassis.Proofs.Archive.Handling
import Chassis.Proofs.Archive.Runs

namespace Chassis.Logging.Archive

open Calendar (Date)
open Files (Body IsName Node barrier? mayRead)

/-! ## What a pass may make of a folder -/

/-- The files of each day have moved, and everything else is what it was. -/
structure Evolved (stem directory : String) (mode : Nat) (rotated expired : Date → Bool)
    (folder folder' : Folder) : Prop where
  days : ∀ log date, dateIn? stem fileTag log = some date →
    DayFiles.Moves (powers directory mode log) (rotated date) (expired date) (dayOf folder log)
      (dayOf folder' log)
  strays : ∀ name, (∀ log, IsLog stem log → name ∉ dayNames log) → folder' name = folder name

namespace Evolved

variable {stem directory : String} {mode : Nat} {rotated expired : Date → Bool}
    {folder folder' folder'' : Folder}

theorem refl : Evolved stem directory mode rotated expired folder folder :=
  ⟨fun _ _ _ => .refl, fun _ _ => rfl⟩

theorem trans (h : Evolved stem directory mode rotated expired folder folder')
    (h' : Evolved stem directory mode rotated expired folder' folder'') :
    Evolved stem directory mode rotated expired folder folder'' :=
  ⟨fun log date hdate => (h.days log date hdate).trans (h'.days log date hdate),
    fun name hname => (h'.strays name hname).trans (h.strays name hname)⟩

end Evolved

/-- The files of other days are what they were. -/
theorem Within.dayOf_other {stem log other : String} (hlog : IsLog stem log)
    (hother : IsLog stem other) (hne : other ≠ log) {p : Powers} {rotated expired : Bool}
    {folder folder' : Folder} (h : Within p log rotated expired folder folder') :
    dayOf folder' other = dayOf folder other := by
  have hframe (name : Files.Name) (hname : name ∈ dayNames other) : folder' name = folder name :=
    h.frame name (dayNames_disjoint hlog hother hne name hname)
  unfold dayOf
  rw [hframe _ (by simp [dayNames]), hframe _ (by simp [dayNames]), hframe _ (by simp [dayNames])]

theorem Within.evolved {stem directory log : String} {date : Date}
    (hdate : dateIn? stem fileTag log = some date) {mode : Nat} {rotated expired : Date → Bool}
    {folder folder' : Folder}
    (h : Within (powers directory mode log) log (rotated date) (expired date) folder folder') :
    Evolved stem directory mode rotated expired folder folder' := by
  refine ⟨fun other date' hdate' => ?_, fun name hname => h.frame name (hname log ⟨date, hdate⟩)⟩
  by_cases hne : other = log
  · subst hne
    rw [hdate] at hdate'
    cases hdate'
    exact h.moves
  · rw [h.dayOf_other ⟨date, hdate⟩ ⟨date', hdate'⟩ hne]

/-! ## Files one after another -/

theorem always_each {σ : Type} {handler : Handler σ} {safe : σ → Prop}
    {handle : String → Script Report}
    {names : List String} (reached : List String → σ → Prop)
    (hsafe : ∀ done state, reached done state → safe state)
    (hhandle : ∀ name ∈ names, ∀ done state, reached done state →
      (handle name).Always handler safe (fun state _ => reached (name :: done) state) state)
    (done : List String) {state : σ} (h : reached done state) :
    (Archiver.each handle names).Always handler safe
      (fun state _ => reached (names.reverse ++ done) state) state := by
  induction names generalizing done state with
  | nil => exact ⟨hsafe done state h, h⟩
  | cons name rest ih =>
    have hrest : ∀ other ∈ rest, _ :=
      fun other hother => hhandle other (List.mem_cons_of_mem _ hother)
    refine Script.always_bind
      ((hhandle name List.mem_cons_self done state h).mono (fun _ hs => hs) ?_)
    intro state₁ first _ h₁
    refine Script.always_bind ((ih hrest _ h₁).mono (fun _ hs => hs) ?_)
    intro state₂ others hsafe₂ h₂
    refine ⟨hsafe₂, ?_⟩
    rw [List.reverse_cons, List.append_assoc]
    exact h₂

/-! ## Sweeps -/

section

variable (a : Archiver) (place : List Files.Name) (mode : Nat) (calm : Prop)
    (rotated expired : Date → Bool)

/-- What is known of a sweep: which file of a day it finds, and what dealing with that file makes
of the day. -/
structure Sweeps (tag : String) (wanted : Date → Bool) (handle : String → Script Report)
    (key : String → String) (made : Powers → DayFiles → DayFiles) : Prop where
  known : tag = fileTag ∨ tag = archiveTag ∨ tag = partialTag
  finds : ∀ name date, dateIn? a.fileStem tag name = some date ↔
    ∃ log, name = key log ∧ dateIn? a.fileStem fileTag log = some date
  key_inj : ∀ log other, IsLog a.fileStem log → IsLog a.fileStem other →
    key log = key other → log = other
  key_slash : ∀ log, IsLog a.fileStem log → '/' ∈ log.toList → '/' ∈ (key log).toList
  again : ∀ p day, made p (made p day) = made p day
  skips : ∀ log folder, IsLog a.fileStem log →
    ¬(barrier? a.directory mode (key log) = none ∧ isFile (folder (.text (key log))) = true) →
    made (powers a.directory mode log) (dayOf folder log) = dayOf folder log
  deals : ∀ log date folder state, dateIn? a.fileStem fileTag log = some date → wanted date = true →
    '/' ∉ log.toList → At a.directory place mode calm folder state →
    (handle (key log)).Always (troubled a.directory)
      (Touched a log place mode calm folder (rotated date) (expired date))
      (fun state _ => Dealt a log place mode calm folder (rotated date) (expired date)
        (made (powers a.directory mode log)) state) state

/-- The state shows a folder into which another has evolved. -/
def Reached (folder : Folder) (state : Node × Plan) : Prop :=
  ∃ folder', At a.directory place mode calm folder' state ∧
    Evolved a.fileStem a.directory mode rotated expired folder folder'

/-- A folder has evolved into another; in calm each of its days is what `made` makes of it. -/
def Left (folder : Folder) (made : Date → Powers → DayFiles → DayFiles)
    (state : Node × Plan) : Prop :=
  ∃ folder', At a.directory place mode calm folder' state ∧
    Evolved a.fileStem a.directory mode rotated expired folder folder' ∧
    (calm → ∀ log date, dateIn? a.fileStem fileTag log = some date →
      dayOf folder' log = made date (powers a.directory mode log) (dayOf folder log))

end

section

variable {a : Archiver} {place : List Files.Name} {mode : Nat} {calm : Prop}
  {rotated expired : Date → Bool}
  {folder : Folder} {state : Node × Plan}

/-- A directory that may be read is listed. -/
theorem list_of_at (hat : At a.directory place mode calm folder state)
    (hread : mayRead mode = true) :
    ∃ listing, listOn a.directory state.1 = .ok listing := by
  obtain ⟨entries, hopens, -⟩ := hat.shows
  rw [listOn_eq hopens, if_pos hread]
  exact ⟨_, rfl⟩

section

variable {tag : String} {wanted : Date → Bool} {handle : String → Script Report}
  {key : String → String}
  {made : Powers → DayFiles → DayFiles}
  (hsweeps : Sweeps a place mode calm rotated expired tag wanted handle key made)

variable (a place mode calm rotated expired folder key made) in
/-- The state in the middle of a sweep, when some files have been dealt with. -/
def Midway (done : List String) (state : Node × Plan) : Prop :=
  ∃ folder', At a.directory place mode calm folder' state ∧
    Evolved a.fileStem a.directory mode rotated expired folder folder' ∧
    (calm → ∀ log date, dateIn? a.fileStem fileTag log = some date →
      dayOf folder' log = if key log ∈ done then
        made (powers a.directory mode log) (dayOf folder log) else dayOf folder log)

include hsweeps

/-- One more file is dealt with. A file may be listed twice, but then nothing is left to do. -/
theorem always_midway {log : String} {date : Date}
    (hdate : dateIn? a.fileStem fileTag log = some date) (hwanted : wanted date = true)
    (hslash : '/' ∉ log.toList) {done : List String}
    (h : Midway a place mode calm rotated expired folder key made done state) :
    (handle (key log)).Always (troubled a.directory)
      (Reached a place mode calm rotated expired folder)
      (fun state _ => Midway a place mode calm rotated expired folder key made (key log :: done)
        state) state := by
  obtain ⟨folder', hat, hevolved, hdays⟩ := h
  refine (hsweeps.deals log date folder' state hdate hwanted hslash hat).mono ?_ ?_
  · rintro state₁ ⟨folder₁, hat₁, hwithin⟩
    exact ⟨folder₁, hat₁, hevolved.trans (hwithin.evolved hdate)⟩
  · rintro state₁ report - ⟨folder₁, hat₁, hwithin, hmade⟩
    refine ⟨folder₁, hat₁, hevolved.trans (hwithin.evolved hdate),
      fun hcalm other date' hdate' => ?_⟩
    by_cases hne : other = log
    · subst hne
      rw [hmade hcalm, hdays hcalm other date' hdate', if_pos List.mem_cons_self]
      split
      · rw [hsweeps.again]
      · rfl
    · have hkey : key other ≠ key log :=
        fun heq => hne (hsweeps.key_inj _ _ ⟨date', hdate'⟩ ⟨date, hdate⟩ heq)
      rw [hwithin.dayOf_other ⟨date, hdate⟩ ⟨date', hdate'⟩ hne, hdays hcalm other date' hdate']
      simp [hkey]

theorem always_sweep (hat : At a.directory place mode calm folder state)
    (hread : mayRead mode = true) :
    (a.sweep tag wanted handle).run.Always (troubled a.directory)
      (Reached a place mode calm rotated expired folder)
      (fun state result => (∃ report, result = .ok report) ∧
        Left a place mode calm rotated expired folder
        (fun date p day => if wanted date then made p day else day) state) state := by
  obtain ⟨listing, hlisting⟩ := list_of_at hat hread
  obtain ⟨entries, hopens, hget⟩ := hat.shows
  have hmem := mem_swept (a := a) hopens (hget ▸ hat.ordinary) hsweeps.known hlisting wanted
  rw [hget] at hmem
  simp only [Archiver.sweep, ExceptT.run_mk, Script.Always, troubled, hlisting]
  refine Script.always_bind (Script.Always.mono
    (always_each (Midway a place mode calm rotated expired folder key made) ?_ ?_ [] ?_)
      (fun _ hs => hs) ?_)
  · rintro done state₁ ⟨folder₁, hat₁, hevolved, -⟩
    exact ⟨folder₁, hat₁, hevolved⟩
  · intro name hname done state₁ hmidway
    obtain ⟨date, hdate, hwanted, -, hfile⟩ := (hmem name).mp hname
    obtain ⟨log, rfl, hlog⟩ := (hsweeps.finds name date).mp hdate
    refine always_midway hsweeps hlog hwanted (fun hslash => ?_) hmidway
    refine hat.ordinary.no_slash (key log) (fun hnone => ?_)
      (hsweeps.key_slash log ⟨date, hlog⟩ hslash)
    rw [hnone] at hfile
    cases hfile
  · exact ⟨folder, hat, .refl, fun _ log date _ => by simp⟩
  · rintro state₁ report hreached ⟨folder₁, hat₁, hevolved, hdays⟩
    refine ⟨hreached, ⟨report, rfl⟩, folder₁, hat₁, hevolved, fun hcalm log date hdate => ?_⟩
    have hkey : dateIn? a.fileStem tag (key log) = some date :=
      (hsweeps.finds _ _).mpr ⟨log, rfl, hdate⟩
    rw [hdays hcalm log date hdate]
    simp only [List.append_nil, List.mem_reverse, hmem, hkey, Option.some.injEq, exists_eq_left']
    by_cases hwanted : wanted date = true
    · by_cases hfound : barrier? a.directory mode (key log) = none ∧
        isFile (folder (.text (key log))) = true
      · simp [hwanted, hfound]
      · simp [hwanted, hfound, hsweeps.skips log folder ⟨date, hdate⟩ hfound]
    · simp [hwanted]

/-- A sweep after what was done before. -/
theorem Left.always_sweep {before : Date → Powers → DayFiles → DayFiles}
    (h : Left a place mode calm rotated expired folder before state) (hread : mayRead mode = true) :
    (a.sweep tag wanted handle).run.Always (troubled a.directory)
      (Reached a place mode calm rotated expired folder)
      (fun state result => (∃ report, result = .ok report) ∧
        Left a place mode calm rotated expired folder
        (fun date p day => if wanted date then made p (before date p day) else before date p day)
        state) state := by
  obtain ⟨folder₁, hat₁, hevolved₁, hdays₁⟩ := h
  refine (Archive.always_sweep hsweeps hat₁ hread).mono ?_ ?_
  · rintro state₂ ⟨folder₂, hat₂, hevolved₂⟩
    exact ⟨folder₂, hat₂, hevolved₁.trans hevolved₂⟩
  · rintro state₂ result - ⟨hok, folder₂, hat₂, hevolved₂, hdays₂⟩
    refine ⟨hok, folder₂, hat₂, hevolved₁.trans hevolved₂, fun hcalm log date hdate => ?_⟩
    rw [hdays₂ hcalm log date hdate, hdays₁ hcalm log date hdate]

end

/-! ## The three sweeps of a pass -/

theorem sweeps_partials :
    Sweeps a place mode calm rotated expired partialTag (fun _ => true) a.removePartial
    partialName DayFiles.cleared where
  known := Or.inr (Or.inr rfl)
  finds _ _ := dateIn?_partialTag
  key_inj _ _ hlog hother heq := (partialName_inj hlog hother).mp heq
  key_slash log hlog hslash := by simp [partialName_eq hlog, hslash]
  again p day := DayFiles.cleared_cleared
  skips log folder hlog hnot := DayFiles.cleared_of_not (by simpa [powers, dayOf] using hnot)
  deals log date folder state hdate hwanted hslash hat :=
    always_removePartial ⟨date, hdate⟩ hslash hat

theorem sweeps_logs {today : Date} :
    Sweeps a place mode calm (past today) expired fileTag (past today) a.compress
    (fun log => log) DayFiles.packed where
  known := Or.inl rfl
  finds name date := by simp
  key_inj _ _ _ _ heq := heq
  key_slash log hlog hslash := hslash
  again p day := DayFiles.packed_packed
  skips log folder hlog hnot := DayFiles.packed_of_not (by simpa [powers, dayOf] using hnot)
  deals log date folder state hdate hwanted hslash hat :=
    (always_compress ⟨date, hdate⟩ hslash hwanted hat).mono (fun _ hs => hs) fun _ _ _ h => h.1

theorem sweeps_archives {kept : Int} :
    Sweeps a place mode calm rotated (before kept) archiveTag (before kept) a.prune
    archiveName DayFiles.pruned where
  known := Or.inr (Or.inl rfl)
  finds _ _ := dateIn?_archiveTag
  key_inj _ _ hlog hother heq := (archiveName_inj hlog hother).mp heq
  key_slash log hlog hslash := by simp [archiveName_eq hlog, hslash]
  again p day := DayFiles.pruned_pruned
  skips log folder hlog hnot := DayFiles.pruned_of_not (by simpa [powers, dayOf] using hnot)
  deals log date folder state hdate hwanted hslash hat :=
    always_prune ⟨date, hdate⟩ hslash hat hwanted

/-! ## Passes -/

theorem Left.reached {made : Date → Powers → DayFiles → DayFiles}
    (h : Left a place mode calm rotated expired folder made state) :
    Reached a place mode calm rotated expired folder state := by
  obtain ⟨folder', hat, hevolved, -⟩ := h
  exact ⟨folder', hat, hevolved⟩

/-- A pass over a directory that may be read comes to its end. -/
theorem always_pass {today : Date} {kept : Int} (hat : At a.directory place mode calm folder state)
    (hread : mayRead mode = true) :
    (a.pass today kept).run.Always (troubled a.directory)
      (Reached a place mode calm (past today) (before kept) folder)
      (fun state result => (∃ report, result = .ok report) ∧
        Left a place mode calm (past today) (before kept) folder
        (fun date p day => day.settled p (past today date) (before kept date)) state) state := by
  unfold Archiver.pass
  simp only [ExceptT.run_bind]
  have hstart : Left a place mode calm (past today) (before kept) folder
      (fun _ _ day => day) state :=
    ⟨folder, hat, .refl, fun _ _ _ _ => rfl⟩
  refine Script.always_bind ((hstart.always_sweep sweeps_partials hread).mono (fun _ hs => hs) ?_)
  rintro state₁ _ - ⟨⟨partials, rfl⟩, hleft₁⟩
  refine Script.always_bind ((hleft₁.always_sweep sweeps_logs hread).mono (fun _ hs => hs) ?_)
  rintro state₂ _ - ⟨⟨logs, rfl⟩, hleft₂⟩
  refine Script.always_bind ((hleft₂.always_sweep sweeps_archives hread).mono (fun _ hs => hs) ?_)
  rintro state₃ _ - ⟨⟨archives, rfl⟩, hleft₃⟩
  -- The three sweeps in their order settle a day, and what is said afterwards changes nothing.
  have hsettled : Left a place mode calm (past today) (before kept) folder
      (fun date p day => day.settled p (past today date) (before kept date)) state₃ := hleft₃
  dsimp only
  split <;> exact ⟨hsettled.reached, ⟨_, rfl⟩, hsettled⟩

end

/-- A directory that cannot be listed is left alone. -/
theorem always_pass_unlisted {σ : Type} {handler : Handler σ} {state : σ} {fault : Files.Fault}
    (h : handler.list state = .error fault) (a : Archiver) (today : Date) (kept : Int) :
    (a.pass today kept).run.Always handler (· = state)
      (fun state' result => state' = state ∧ result = .error fault) state := by
  unfold Archiver.pass
  rw [ExceptT.run_bind]
  refine Script.always_bind ?_
  simp only [Archiver.sweep, ExceptT.run_mk, Script.Always, h]
  exact ⟨trivial, rfl, rfl, rfl⟩

/-! ## Passes on a day -/

/-- What a pass on a day leaves when it is cut off before an act, after so many acts. -/
def Archiver.cutOff {σ : Type} (a : Archiver) (today : Date) (handler : Handler σ) (state : σ)
    (count : Nat) : σ :=
  match a.oldestKept? today with
  | none => state
  | some oldestKept => (a.pass today oldestKept).run.cutAfter handler state count

theorem runOn_fst {σ : Type} (a : Archiver) (today : Date) (handler : Handler σ) (state : σ) :
    (a.runOn today handler state).1 =
      match a.oldestKept? today with
      | none => state
      | some oldestKept => ((a.pass today oldestKept).run.run handler state).1 := by
  unfold Archiver.runOn
  cases a.oldestKept? today with
  | none => rfl
  | some oldestKept =>
    dsimp only
    rcases (a.pass today oldestKept).run.run handler state with ⟨left, events, fault | report⟩ <;>
      rfl

/-- The first day whose archives are kept on a day. -/
def Archiver.keptFrom (a : Archiver) (today : Date) : Int := today.dayNumber - a.retentionDays

theorem oldestKept?_eq_some {a : Archiver} {today : Date} {kept : Int}
    (h : a.oldestKept? today = some kept) :
    kept = a.keptFrom today := by
  unfold Archiver.oldestKept? at h
  simp only [Option.ite_none_right_eq_some, Option.some.injEq] at h
  exact h.2.symm

theorem unlisted_cutOff {a : Archiver} {state : Node × Plan} {fault : Files.Fault}
    (h : listOn a.directory state.1 = .error fault) (today : Date) (count : Nat) :
    a.cutOff today (troubled a.directory) state count = state := by
  unfold Archiver.cutOff
  split
  · rfl
  · exact (always_pass_unlisted h a today _).safe_cutAfter count

theorem unlisted_runOn {a : Archiver} {state : Node × Plan} {fault : Files.Fault}
    (h : listOn a.directory state.1 = .error fault) (today : Date) :
    (a.runOn today (troubled a.directory) state).1 = state := by
  rw [runOn_fst]
  split
  · rfl
  · exact (always_pass_unlisted h a today _).goal_run.2.1

theorem list_denied {directory : String} {place : List Files.Name} {mode : Nat} {tree : Node}
    {folder : Folder} (hshows : Shows directory place mode tree folder)
    (hread : mayRead mode = false) :
    listOn directory tree = .error .denied := by
  obtain ⟨entries, hopens, -⟩ := hshows
  rw [listOn_eq hopens, hread]
  rfl

section

variable {a : Archiver} {place : List Files.Name} {mode : Nat} {calm : Prop} {folder : Folder}
  {state : Node × Plan}
  (hat : At a.directory place mode calm folder state) (today : Date)
include hat

theorem reached_cutOff (count : Nat) :
    Reached a place mode calm (past today) (before (a.keptFrom today)) folder
      (a.cutOff today (troubled a.directory) state count) := by
  cases hread : mayRead mode with
  | false =>
    rw [unlisted_cutOff (list_denied hat.shows hread)]
    exact ⟨folder, hat, .refl⟩
  | true =>
    unfold Archiver.cutOff
    split
    · exact ⟨folder, hat, .refl⟩
    · rename_i kept hkept
      rw [← oldestKept?_eq_some hkept]
      exact (always_pass hat hread).safe_cutAfter count

theorem left_runOn (hread : mayRead mode = true) {kept : Int}
    (hkept : a.oldestKept? today = some kept) :
    Left a place mode calm (past today) (before (a.keptFrom today)) folder
      (fun date p day => day.settled p (past today date) (before (a.keptFrom today) date))
      (a.runOn today (troubled a.directory) state).1 := by
  rw [runOn_fst, hkept, ← oldestKept?_eq_some hkept]
  exact (always_pass hat hread).goal_run.2.2

theorem reached_runOn :
    Reached a place mode calm (past today) (before (a.keptFrom today)) folder
      (a.runOn today (troubled a.directory) state).1 := by
  cases hread : mayRead mode with
  | false =>
    rw [unlisted_runOn (list_denied hat.shows hread)]
    exact ⟨folder, hat, .refl⟩
  | true =>
    cases hkept : a.oldestKept? today with
    | none =>
      rw [runOn_fst, hkept]
      exact ⟨folder, hat, .refl⟩
    | some kept => exact (left_runOn hat today hread hkept).reached

end

/-- A directory stands open, or it cannot be listed and seems to have no entries. -/
theorem shows_or_unlisted (tree : Node) (directory : String) :
    (∃ place mode, Shows directory place mode tree (folderAt tree directory)) ∨
      (∃ fault, listOn directory tree = .error fault) ∧
      folderAt tree directory = fun _ => none := by
  unfold folderAt Files.entriesAt
  cases hlook : Files.look tree directory with
  | error fault =>
    exact Or.inr ⟨⟨fault, by simp [listOn, Files.list, hlook, bind, Except.bind]⟩, rfl⟩
  | ok node =>
    cases node with
    | file m body =>
      exact Or.inr ⟨⟨.notDirectory, by simp [listOn, Files.list, hlook, bind, Except.bind]; rfl⟩,
        rfl⟩
    | link target =>
      exact Or.inr ⟨⟨.notDirectory, by simp [listOn, Files.list, hlook, bind, Except.bind]; rfl⟩,
        rfl⟩
    | directory m entries =>
      obtain ⟨place, hopens⟩ := Files.opens_of_look hlook
      exact Or.inl ⟨place, m, entries, hopens, rfl⟩

end Chassis.Logging.Archive
