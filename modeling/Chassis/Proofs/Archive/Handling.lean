-- Dealing with the files of one day. The files of other days stay as they are; wherever it is
-- cut off the day has moved, and in calm the day is left as it should be.
import Chassis.Proofs.Archive.Acts

namespace Chassis.Logging.Archive

open Files (Body IsName Node barrier?)
open Function (update)

/-! ## Moves within a day -/

/-- Only the files of one day have moved. -/
structure Within (p : Powers) (log : String) (rotated expired : Bool)
    (folder folder' : Folder) : Prop where
  moves : DayFiles.Moves p rotated expired (dayOf folder log) (dayOf folder' log)
  frame : ∀ name, name ∉ dayNames log → folder' name = folder name

namespace Within

variable {stem log : String} {p : Powers} {rotated expired : Bool}
    {folder folder' folder'' : Folder}

theorem refl : Within p log rotated expired folder folder := ⟨.refl, fun _ _ => rfl⟩

theorem trans (h : Within p log rotated expired folder folder')
    (h' : Within p log rotated expired folder' folder'') :
    Within p log rotated expired folder folder'' :=
  ⟨h.moves.trans h'.moves, fun name hname => (h'.frame name hname).trans (h.frame name hname)⟩

/-- A move of the day, made by a change under one of its names. -/
theorem of_update {name : Files.Name} {node? : Option Node} (hname : name ∈ dayNames log)
    (hmove : DayFiles.Move p rotated expired (dayOf folder log)
      (dayOf (update folder name node?) log)) :
    Within p log rotated expired folder (update folder name node?) := by
  refine ⟨.single hmove, fun other hother => ?_⟩
  rw [Function.update_of_ne]
  intro heq
  exact hother (heq ▸ hname)

variable (hlog : IsLog stem log)
include hlog

theorem clear (hchange : p.change = true) (hreach : p.draft = true)
    (hfile : isFile (folder (.text (partialName log))) = true) :
    Within p log rotated expired folder (update folder (.text (partialName log)) none) := by
  refine of_update (by simp [dayNames]) ?_
  rw [dayOf_update_draft hlog]
  exact .clear hchange hreach hfile

theorem write {body : Body} {m : Nat} (hrotated : rotated = true)
    (hread : p.readable? (folder (.text log)) = some body)
    (hmode : p.draftMode? (folder (.text (partialName log))) = some m) (written : Body) :
    Within p log rotated expired folder
      (update folder (.text (partialName log)) (some (.file m written))) := by
  refine of_update (by simp [dayNames]) ?_
  rw [dayOf_update_draft hlog]
  exact .write hrotated hread hmode

theorem finish {body : Body} {m : Nat} (hrotated : rotated = true)
    (hread : p.readable? (folder (.text log)) = some body)
    (hdraft : folder (.text (partialName log)) = some (.file m body.pack))
    (hchange : p.change = true) (hreach : p.draft = true) (harchive : p.archive = true)
    (hdir : isDirectory (folder (.text (archiveName log))) = false) :
    Within p log rotated expired folder (update (update folder (.text (partialName log)) none)
      (.text (archiveName log)) (some (.file m body.pack))) := by
  have hday : dayOf (update (update folder (.text (partialName log)) none)
      (.text (archiveName log)) (some (.file m body.pack))) log =
      { dayOf folder log with archive := (dayOf folder log).draft, draft := none } := by
    rw [dayOf_update_archive hlog, dayOf_update_draft hlog]
    simp [dayOf, hdraft]
  refine ⟨.single ?_, fun other hother => ?_⟩
  · rw [hday]
    exact .finish hrotated hread hdraft hchange hreach harchive hdir
  · simp only [dayNames, List.mem_cons, List.not_mem_nil, or_false, not_or] at hother
    rw [Function.update_of_ne hother.2.1, Function.update_of_ne hother.2.2]

theorem drop {body : Body} {m : Nat} (hrotated : rotated = true)
    (hread : p.readable? (folder (.text log)) = some body)
    (harchive : folder (.text (archiveName log)) = some (.file m body.pack))
    (hdraft : folder (.text (partialName log)) = none) (hchange : p.change = true)
    (hreach : p.draft = true) (hreachable : p.archive = true) :
    Within p log rotated expired folder (update folder (.text log) none) := by
  refine of_update (by simp [dayNames]) ?_
  rw [dayOf_update_log hlog]
  exact .drop hrotated hread harchive hdraft hchange hreach hreachable

theorem prune (hexpired : expired = true) (hchange : p.change = true) (hreach : p.archive = true)
    (hfile : isFile (folder (.text (archiveName log))) = true) :
    Within p log rotated expired folder (update folder (.text (archiveName log)) none) := by
  refine of_update (by simp [dayNames]) ?_
  rw [dayOf_update_archive hlog]
  exact .prune hexpired hchange hreach hfile

end Within

/-! ## Dealing with the files of a day -/

section

variable {a : Archiver} {log : String} {place : List Files.Name} {mode : Nat} {calm : Prop}
  {folder : Folder}
  {state : Node × Plan} {rotated expired : Bool}

variable (a place mode calm log rotated expired folder) in
/-- The state shows a folder in which only the files of one day have moved. -/
def Touched (state : Node × Plan) : Prop :=
  ∃ folder', At a.directory place mode calm folder' state ∧
    Within (powers a.directory mode log) log rotated expired folder folder'

variable (a place mode calm log rotated expired folder) in
/-- The files of one day are dealt with; in calm they are what `made` makes of them. -/
def Dealt (made : DayFiles → DayFiles) (state : Node × Plan) : Prop :=
  ∃ folder', At a.directory place mode calm folder' state ∧
    Within (powers a.directory mode log) log rotated expired folder folder' ∧
    (calm → dayOf folder' log = made (dayOf folder log))

variable (hlog : IsLog a.fileStem log) (hslash : '/' ∉ log.toList)
include hlog hslash

theorem isName_log : IsName log := Files.isName_of_last hslash (last_of_log hlog) (by decide)

theorem isName_archive : IsName (archiveName log) :=
  Files.isName_of_last (by simpa [archiveName_eq hlog] using hslash)
    (last_of_archive hlog) (by decide)

theorem isName_partial : IsName (partialName log) :=
  Files.isName_of_last (by simpa [partialName_eq hlog] using hslash)
    (last_of_partial hlog) (by decide)

variable (hat : At a.directory place mode calm folder state)
include hat

omit hlog hslash in
/-- Removing a file of the day, when that is a move of it. -/
theorem always_remove {name : String} {made : DayFiles → DayFiles}
    {next : Except Files.Fault Unit → Script Report}
    (hname : IsName name)
    (hnext : ∀ result state, Touched a log place mode calm folder rotated expired state →
      Dealt a log place mode calm folder rotated expired made state →
      (next result).Always (troubled a.directory)
        (Touched a log place mode calm folder rotated expired)
        (fun state _ => Dealt a log place mode calm folder rotated expired made state) state)
    (hwithin : mayChange mode = true → barrier? a.directory mode name = none →
      isFile (folder (.text name)) = true →
      Within (powers a.directory mode log) log rotated expired folder
        (update folder (.text name) none))
    (hmade : made (dayOf folder log) = if mayChange mode &&
      (barrier? a.directory mode name).isNone &&
      isFile (folder (.text name)) then dayOf (update folder (.text name) none) log
      else dayOf folder log) :
    (Script.act (.remove name) next).Always (troubled a.directory)
      (Touched a log place mode calm folder rotated expired)
      (fun state _ => Dealt a log place mode calm folder rotated expired made state) state := by
  refine always_act hat (by simpa [Act.names] using hname) (fun _ _ h => by cases h)
    ⟨folder, hat, .refl⟩ ?_
  intro state' result folder' hat' houtcome
  rcases houtcome.remove hat.ordinary with ⟨-, hchange, hbarrier, hfile, rfl⟩ | ⟨-, rfl, hcalm⟩
  · have hmoved := hwithin hchange hbarrier hfile
    refine hnext _ _ ⟨_, hat', hmoved⟩ ⟨_, hat', hmoved, fun _ => ?_⟩
    simp [hmade, hchange, hbarrier, hfile]
  · refine hnext _ _ ⟨_, hat', .refl⟩ ⟨_, hat', .refl, fun h => ?_⟩
    rw [hmade, if_neg]
    simpa [and_assoc] using hcalm h

theorem always_removePartial :
    (a.removePartial (partialName log)).Always (troubled a.directory)
      (Touched a log place mode calm folder rotated expired)
      (fun state _ => Dealt a log place mode calm folder rotated expired
        (DayFiles.cleared (powers a.directory mode log)) state) state := by
  refine always_remove hat (isName_partial hlog hslash) ?_ ?_ ?_
  · rintro (fault | ⟨⟩) state htouched hdealt <;> exact ⟨htouched, hdealt⟩
  · intro hchange hbarrier hfile
    exact .clear hlog hchange (by simp [powers, hbarrier]) hfile
  · rw [dayOf_update_draft hlog]
    rfl

theorem always_prune (hexpired : expired = true) :
    (a.prune (archiveName log)).Always (troubled a.directory)
      (Touched a log place mode calm folder rotated expired)
      (fun state _ => Dealt a log place mode calm folder rotated expired
        (DayFiles.pruned (powers a.directory mode log)) state) state := by
  refine always_remove hat (isName_archive hlog hslash) ?_ ?_ ?_
  · rintro (fault | ⟨⟩) state htouched hdealt <;> exact ⟨htouched, hdealt⟩
  · intro hchange hbarrier hfile
    exact .prune hlog hexpired hchange (by simp [powers, hbarrier]) hfile
  · rw [dayOf_update_archive hlog]
    rfl

/-! ## Packing -/

omit hlog hslash in
theorem folderAt_eq : folderAt state.1 a.directory = folder := by
  obtain ⟨entries, hopens, hget⟩ := hat.shows
  rw [folderAt, hopens.entriesAt_eq, hget]

end

/-- A log that can be read is being packed: of its day, the incomplete archive only is another. -/
structure Drafted (p : Powers) (log : String) (rotated expired : Bool) (folder folder' : Folder)
    (body : Body) (mode : Nat) (written : Body) : Prop where
  within : Within p log rotated expired folder folder'
  readable : p.readable? (folder (.text log)) = some body
  writable : p.draftMode? (folder (.text (partialName log))) = some mode
  day : dayOf folder' log = { dayOf folder log with draft := some (.file mode written) }

namespace Drafted

variable {stem log : String} (hlog : IsLog stem log) {p : Powers} {rotated expired : Bool}
  {folder folder' : Folder}
  {body written : Body} {mode : Nat}
include hlog

theorem start (hrotated : rotated = true) (hread : p.readable? (folder (.text log)) = some body)
    (hmode : p.draftMode? (folder (.text (partialName log))) = some mode) (written : Body) :
    Drafted p log rotated expired folder
      (update folder (.text (partialName log)) (some (.file mode written))) body mode written :=
  ⟨.write hlog hrotated hread hmode written, hread, hmode, dayOf_update_draft hlog folder _⟩

omit hlog in
theorem names_eq (h : Drafted p log rotated expired folder folder' body mode written) :
    folder' (.text log) = folder (.text log) ∧
      folder' (.text (archiveName log)) = folder (.text (archiveName log)) ∧
      folder' (.text (partialName log)) = some (.file mode written) := by
  have hday := h.day
  simp only [dayOf, DayFiles.mk.injEq] at hday
  exact hday

theorem rewrite (h : Drafted p log rotated expired folder folder' body mode written)
    (hrotated : rotated = true) {mode' : Nat}
    (hmode : p.draftMode? (folder' (.text (partialName log))) = some mode') (written' : Body) :
    Drafted p log rotated expired folder
      (update folder' (.text (partialName log)) (some (.file mode' written'))) body mode
      written' := by
  obtain ⟨hself, -, hdraft⟩ := h.names_eq
  have hsame : mode' = mode := by
    rw [hdraft, DayFiles.draftMode?_written h.writable] at hmode
    exact (Option.some.inj hmode).symm
  subst hsame
  refine ⟨h.within.trans (.write hlog hrotated (hself ▸ h.readable) hmode written'), h.readable,
    h.writable, ?_⟩
  rw [dayOf_update_draft hlog, h.day]

end Drafted

section

variable {a : Archiver} {log : String} {place : List Files.Name} {mode : Nat} {calm : Prop}
  {folder folder' : Folder}
  {state : Node × Plan} {rotated expired : Bool} {body : Body} {m : Nat}

variable (a place mode calm log rotated expired folder) in
/-- A log has been packed and is gone, or it is still what it was. -/
def PackEnd (state : Node × Plan) (result : Except Files.Fault Unit) : Prop :=
  Dealt a log place mode calm folder rotated expired (DayFiles.packed (powers a.directory mode log))
    state ∧
    (result ≠ .ok () → folderAt state.1 a.directory (.text log) = folder (.text log)) ∧
    (result = .ok () → folderAt state.1 a.directory (.text log) = none)

/-- Packing ends with a fault while the log is what it was. -/
theorem always_giveUp (hat : At a.directory place mode calm folder' state)
    (hwithin : Within (powers a.directory mode log) log rotated expired folder folder')
    (hcalm : calm → dayOf folder' log = (dayOf folder log).packed (powers a.directory mode log))
    (hself : folder' (.text log) = folder (.text log)) (fault : Files.Fault) :
    (Script.done (.error fault)).Always (troubled a.directory)
      (Touched a log place mode calm folder rotated expired)
      (PackEnd a log place mode calm folder rotated expired) state := by
  refine ⟨⟨folder', hat, hwithin⟩, ⟨folder', hat, hwithin, hcalm⟩, fun _ => ?_, nofun⟩
  rw [folderAt_eq hat, hself]

variable (hlog : IsLog a.fileStem log) (hslash : '/' ∉ log.toList) (hrotated : rotated = true)
include hlog hslash hrotated

/-- Once the archive holds the log, the log goes. -/
theorem always_dropLog (hat : At a.directory place mode calm folder' state)
    (hwithin : Within (powers a.directory mode log) log rotated expired folder folder')
    (hread : (powers a.directory mode log).readable? (folder (.text log)) = some body)
    (hday : dayOf folder' log =
      { dayOf folder log with archive := some (.file m body.pack), draft := none })
    (hpacked : (dayOf folder log).packed (powers a.directory mode log) =
      ⟨none, some (.file m body.pack), none⟩)
    (hchange : (powers a.directory mode log).change = true)
    (hreach : (powers a.directory mode log).draft = true)
    (hreachable : (powers a.directory mode log).archive = true) :
    (Script.acts [.remove log]).Always (troubled a.directory)
      (Touched a log place mode calm folder rotated expired)
      (PackEnd a log place mode calm folder rotated expired) state := by
  have hself : folder' (.text log) = folder (.text log) := congrArg DayFiles.log hday
  have harchive : folder' (.text (archiveName log)) = some (.file m body.pack) :=
    congrArg DayFiles.archive hday
  have hdraft : folder' (.text (partialName log)) = none := congrArg DayFiles.draft hday
  rw [← hself] at hread
  refine always_act hat ?_ (fun _ _ h => by cases h) ⟨folder', hat, hwithin⟩
    fun state₁ result folder₁ hat₁ houtcome => ?_
  · simp [Act.names, isName_log hlog hslash]
  rcases houtcome.remove hat.ordinary with ⟨rfl, -, -, -, rfl⟩ | ⟨⟨fault, rfl⟩, rfl, hcalm⟩
  · have hdropped :=
      hwithin.trans (.drop hlog hrotated hread harchive hdraft hchange hreach hreachable)
    refine ⟨⟨_, hat₁, hdropped⟩, ⟨_, hat₁, hdropped, fun _ => ?_⟩, fun h => absurd rfl h,
      fun _ => ?_⟩
    · rw [hpacked, dayOf_update_log hlog, hday]
    · rw [folderAt_eq hat₁, Function.update_self]
  · refine always_giveUp hat₁ hwithin (fun h => absurd ?_ (hcalm h)) hself fault
    obtain ⟨hbarrier, hfile⟩ := DayFiles.reachable_of_readable hread
    exact ⟨hchange, by simpa [powers] using hbarrier, hfile⟩

/-- Once the incomplete archive holds the log, it becomes the archive. -/
theorem always_putInPlace (hat : At a.directory place mode calm folder' state)
    (hdrafted : Drafted (powers a.directory mode log) log rotated expired folder folder' body m
      body.pack) :
    (Script.acts [.rename (partialName log) (archiveName log), .remove log]).Always
      (troubled a.directory)
      (Touched a log place mode calm folder rotated expired)
      (PackEnd a log place mode calm folder rotated expired) state := by
  obtain ⟨hself, harchive, hdraft⟩ := hdrafted.names_eq
  have hpacked := DayFiles.packed_of (f := dayOf folder log) hdrafted.readable hdrafted.writable
  refine always_act hat ?_ ?_ ⟨folder', hat, hdrafted.within⟩
    fun state₁ result folder₁ hat₁ houtcome => ?_
  · simp [Act.names, isName_partial hlog hslash, isName_archive hlog hslash]
  · rintro source target ⟨⟩
    rw [hdraft]
    rfl
  rcases houtcome.rename hdraft with ⟨rfl, hchange, hreach, hreachable, hdir, hfolder₁⟩ |
    ⟨⟨fault, rfl⟩, rfl, hcalm⟩
  · have hread : (powers a.directory mode log).readable? (folder' (.text log)) = some body := by
      rw [hself]
      exact hdrafted.readable
    have hreach' : (powers a.directory mode log).draft = true := by simp [powers, hreach]
    have hreachable' : (powers a.directory mode log).archive = true := by simp [powers, hreachable]
    subst hfolder₁
    refine always_dropLog (m := m) hlog hslash hrotated hat₁
      (hdrafted.within.trans (.finish hlog hrotated hread hdraft hchange hreach' hreachable' hdir))
      hdrafted.readable ?_ ?_ hchange hreach' hreachable'
    · rw [dayOf_update_archive hlog, dayOf_update_draft hlog, hdrafted.day]
    · rw [hpacked, if_pos]
      have hchange' : (powers a.directory mode log).change = true := hchange
      rw [harchive] at hdir
      simp [hchange', hreachable', dayOf, hdir]
  · refine always_giveUp hat₁ hdrafted.within (fun h => ?_) hself fault
    rw [hpacked, if_neg, hdrafted.day]
    intro hall
    simp only [Bool.and_eq_true, Bool.not_eq_true'] at hall
    obtain ⟨⟨hchange, hreachable⟩, hdir⟩ := hall
    have hreach := DayFiles.reach_of_draftMode hdrafted.writable
    simp only [powers, Option.isNone_iff_eq_none] at hreach hreachable
    exact hcalm h ⟨hchange, hreach, hreachable, harchive.symm ▸ hdir⟩

/-- An incomplete archive is filled with the log. -/
theorem always_fill {written : Body} (hat : At a.directory place mode calm folder' state)
    (hdrafted : Drafted (powers a.directory mode log) log rotated expired folder folder' body
      m written) :
    (Script.acts [.fill log (partialName log), .rename (partialName log) (archiveName log),
      .remove log]).Always
      (troubled a.directory) (Touched a log place mode calm folder rotated expired)
      (PackEnd a log place mode calm folder rotated expired) state := by
  obtain ⟨hself, -, hdraft⟩ := hdrafted.names_eq
  have hread : readIn a.directory mode folder' log = .ok body := by
    rw [readIn_eq_ok, hself]
    exact hdrafted.readable
  have hact : actIn a.directory mode folder' (.fill log (partialName log)) =
      writeIn a.directory mode folder' (partialName log) body.pack := by
    simp only [actIn, hread]
    rfl
  refine always_act hat ?_ (fun _ _ h => by cases h) ⟨folder', hat, hdrafted.within⟩
    fun state₁ result folder₁ hat₁ houtcome => ?_
  · simp [Act.names, isName_log hlog hslash, isName_partial hlog hslash]
  rcases houtcome.write rfl hact with
    ⟨rfl, m', hmode, rfl⟩ | ⟨⟨fault, rfl⟩, ⟨rfl, hcalm⟩ | ⟨hcalm, m', left, hmode, rfl⟩⟩
  · exact always_putInPlace hlog hslash hrotated hat₁
      (hdrafted.rewrite hlog hrotated hmode body.pack)
  · refine always_giveUp hat₁ hdrafted.within (fun h => ?_) hself fault
    have hnone := hcalm h
    rw [hdraft, DayFiles.draftMode?_written hdrafted.writable] at hnone
    cases hnone
  · have hleft := hdrafted.rewrite hlog hrotated hmode left
    exact always_giveUp hat₁ hleft.within (fun h => absurd h hcalm) hleft.names_eq.1 fault

/-- The incomplete archive is made anew, whatever it held. -/
theorem always_draft (hat : At a.directory place mode calm folder state)
    (hread : (powers a.directory mode log).readable? (folder (.text log)) = some body) :
    (Script.acts [.create (partialName log), .fill log (partialName log),
      .rename (partialName log) (archiveName log), .remove log]).Always (troubled a.directory)
      (Touched a log place mode calm folder rotated expired)
      (PackEnd a log place mode calm folder rotated expired) state := by
  have hnames := isName_partial hlog hslash
  refine always_act hat (by simpa [Act.names] using hnames) (fun _ _ h => by cases h)
    ⟨folder, hat, .refl⟩
    fun state₁ result folder₁ hat₁ houtcome => ?_
  rcases houtcome.write rfl rfl with
    ⟨rfl, m, hmode, rfl⟩ | ⟨⟨fault, rfl⟩, ⟨rfl, hcalm⟩ | ⟨hcalm, m, left, hmode, rfl⟩⟩
  · exact always_fill hlog hslash hrotated hat₁ (.start hlog hrotated hread hmode (.plain []))
  · refine always_giveUp hat₁ .refl (fun h => ?_) rfl fault
    have hnone : (powers a.directory mode log).draftMode? (dayOf folder₁ log).draft = none :=
      hcalm h
    simp [DayFiles.packed, hnone]
  · have hleft : Drafted (powers a.directory mode log) log rotated expired folder _ body m left :=
      .start hlog hrotated hread hmode left
    exact always_giveUp hat₁ hleft.within (fun h => absurd h hcalm) hleft.names_eq.1 fault

theorem always_packing (hat : At a.directory place mode calm folder state) :
    (Script.acts (Archiver.packing log)).Always (troubled a.directory)
      (Touched a log place mode calm folder rotated expired)
      (PackEnd a log place mode calm folder rotated expired) state := by
  refine always_act hat ?_ (fun _ _ h => by cases h) ⟨folder, hat, .refl⟩
    fun state₁ result folder₁ hat₁ houtcome => ?_
  · simp [Act.names, isName_log hlog hslash]
  obtain ⟨rfl, ⟨rfl, body, hread⟩ | ⟨⟨fault, rfl⟩, hcalm⟩⟩ := houtcome.openLog
  · exact always_draft hlog hslash hrotated hat₁ hread
  · refine always_giveUp hat₁ .refl (fun h => ?_) rfl fault
    have hnone : (powers a.directory mode log).readable? (dayOf folder₁ log).log = none := hcalm h
    simp [DayFiles.packed, hnone]

/-- Packing a log, and what is reported: a log that could not be packed is what it was, and any
other is gone. -/
theorem always_compress (hat : At a.directory place mode calm folder state) :
    (a.compress log).Always (troubled a.directory)
      (Touched a log place mode calm folder rotated expired)
      (fun state report =>
        Dealt a log place mode calm folder rotated expired
          (DayFiles.packed (powers a.directory mode log)) state ∧
          (report ≠ .oneCompressed → folderAt state.1 a.directory (.text log) =
            folder (.text log)) ∧
          (report = .oneCompressed → folderAt state.1 a.directory (.text log) = none)) state := by
  refine Script.always_bind ((always_packing hlog hslash hrotated hat).mono (fun _ h => h) ?_)
  rintro state₁ (fault | ⟨⟩) htouched ⟨hdealt, hself, hgone⟩
  · exact ⟨htouched, hdealt, fun _ => hself (by simp), nofun⟩
  · exact ⟨htouched, hdealt, fun h => absurd rfl h, fun _ => hgone rfl⟩

omit hrotated in
theorem failed_compress (hat : At a.directory place mode calm folder state)
    (hreport : ((a.compress log).run (troubled a.directory) state).2.2 ≠ .oneCompressed) :
    folderAt ((a.compress log).run (troubled a.directory) state).1.1 a.directory (.text log) =
    folder (.text log) := by
  have halways : Script.Always _ (Touched a log place mode calm folder true false) _ state
      (a.compress log) :=
    always_compress hlog hslash rfl hat
  exact halways.goal_run.2.2.1 hreport

end

end Chassis.Logging.Archive
