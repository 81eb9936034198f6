-- Setting logging up, in any history of attempts, of events, and of changes that others make to the
-- files. It succeeds once at most. How an attempt ends is decided by the first of its steps that
-- fails, and what is left of one that fails are its directory and its file, with which a later
-- attempt can go on.
import Chassis.Logging.Setup
import Chassis.Proofs.Files.Keeping

namespace Chassis.Logging

open Files (Keeps Node)

/-! ## Histories -/

/-- An attempt to set logging up: the value of the filter variable, what is wanted, and when it is
made. -/
structure Attempt where
  wanted : Option String
  config : Config
  today : Calendar.Date
  stamp : Stamp

/-- How an attempt ends. It crashes on a fault that has no message, and nothing is returned then. -/
inductive Ending where
  | done
  | failed (kind : String)
  | crashed
  deriving DecidableEq

/-- The ending that belongs to an answer. -/
def Ending.of : Except SetupFault Unit → Ending
  | .ok () => .done
  | .error fault => if fault.message?.isNone then .crashed else .failed fault.kind

/-- What happens in a process. Others change the files as they like. -/
inductive Happening where
  | attempt (attempt : Attempt)
  | event (stamp : Stamp) (event : Event)
  | change (files : Node)

namespace Logger

/-- An attempt. -/
def attempt (logger : Logger) (a : Attempt) : Logger × Ending :=
  let (logger, answer) := logger.setUp a.wanted a.config a.today a.stamp
  (logger, .of answer)

/-- What has happened, and how the attempts have ended. -/
def after (logger : Logger) : List Happening → Logger × List Ending
  | [] => (logger, [])
  | .attempt a :: rest =>
    let (logger, ending) := logger.attempt a
    let (logger, endings) := logger.after rest
    (logger, ending :: endings)
  | .event stamp event :: rest => (logger.log stamp event).after rest
  | .change files :: rest => { logger with files }.after rest

theorem after_append (logger : Logger) (history rest : List Happening) :
    logger.after (history ++ rest) =
      (((logger.after history).1.after rest).1,
        (logger.after history).2 ++ ((logger.after history).1.after rest).2) := by
  induction history generalizing logger with
  | nil => rfl
  | cons first more ih => cases first <;> simp [after, ih]

end Logger

/-! ## Filters that are read -/

namespace Filter

/-- The text of a filter can be read. -/
def Reads (text : String) : Prop := ∃ filter, parse text = .ok filter

/-- Reading the text of a filter crashes. -/
def Tears (text : String) : Prop := parse text = .error .torn

end Filter

namespace Attempt

variable (a : Attempt)

/-- The filter variable is not set, or it cannot be read. -/
def FallsBack : Prop := ∀ text, a.wanted = some text → ¬ Filter.Reads text

/-- A filter that is needed cannot be read. -/
def Misreads : Prop := ¬ Filter.Reads a.config.fileFilter ∨ a.FallsBack ∧
    ¬ Filter.Reads a.config.consoleFilter

/-- Reading the filters crashes, one after another as far as they are read. -/
def Crashes : Prop :=
  (∃ text, a.wanted = some text ∧ Filter.Tears text) ∨
  (a.FallsBack ∧ Filter.Tears a.config.consoleFilter) ∨
  ((a.FallsBack → Filter.Reads a.config.consoleFilter) ∧ Filter.Tears a.config.fileFilter)

end Attempt

/-- Reading a text crashes, or it cannot be read, or it is read. -/
theorem Filter.parse_cases (text : String) :
    (Tears text ∧ ¬ Reads text ∧ parse text = .error .torn) ∨
    (¬ Tears text ∧ ¬ Reads text ∧ ∃ defect, defect ≠ .torn ∧ parse text = .error defect) ∨
    (¬ Tears text ∧ Reads text ∧ ∃ filter, parse text = .ok filter) := by
  unfold Tears Reads
  cases hparse : parse text with
  | ok filter => exact .inr (.inr ⟨nofun, ⟨filter, rfl⟩, filter, rfl⟩)
  | error defect =>
    by_cases htorn : defect = .torn
    · exact .inl ⟨by rw [htorn], nofun, by rw [htorn]⟩
    · exact .inr (.inl ⟨fun h => htorn (by cases h; rfl), nofun, defect, htorn, rfl⟩)

theorem Filter.not_tears_of_reads {text : String} (h : Reads text) : ¬ Tears text := by
  obtain ⟨filter, hok⟩ := h
  exact fun htears => by cases hok.symm.trans htears

/-- What decides about the console: the variable crashes, or it is read, or what is wanted is read
instead. -/
theorem consoleFilter_cases (a : Attempt) :
    ((∃ text, a.wanted = some text ∧ Filter.Tears text) ∧
      consoleFilter a.wanted a.config = .error .torn) ∨
    ((¬ ∃ text, a.wanted = some text ∧ Filter.Tears text) ∧
      (¬ a.FallsBack ∧ (∃ filter, consoleFilter a.wanted a.config = .ok filter) ∨
        a.FallsBack ∧ consoleFilter a.wanted a.config = Filter.parse a.config.consoleFilter)) := by
  unfold consoleFilter Attempt.FallsBack
  cases a.wanted with
  | none => exact .inr ⟨nofun, .inr ⟨nofun, rfl⟩⟩
  | some text =>
    obtain ⟨htears, -, hparse⟩ | ⟨htears, hreads, defect, htorn, hparse⟩ |
        ⟨htears, hreads, filter, hparse⟩ :=
      Filter.parse_cases text
    · exact .inl ⟨⟨text, rfl, htears⟩, by simp [hparse]⟩
    · refine .inr ⟨by simpa using htears, .inr ⟨by simpa using hreads, ?_⟩⟩
      cases defect with
      | torn => exact absurd rfl htorn
      | malformed => simp [hparse]
      | badLevel => simp [hparse]
    · exact .inr ⟨by simpa using htears, .inl ⟨by simpa using hreads, filter, by simp [hparse]⟩⟩

/-- What can come of reading both filters. -/
inductive Attempt.FiltersEnd (a : Attempt) : Except Directive.Defect (Filter × Filter) → Prop
  | crash : a.Crashes → a.FiltersEnd (.error .torn)
  | misread {defect : Directive.Defect} : ¬ a.Crashes → a.Misreads → defect ≠ .torn →
    a.FiltersEnd (.error defect)
  | read {console file : Filter} : ¬ a.Crashes → ¬ a.Misreads →
      Filter.parse a.config.fileFilter = .ok file →
      a.FiltersEnd (.ok (console, file))

/-- With a filter for the console, all depends on the one for the file. -/
theorem filters_end_of_console {a : Attempt} {console : Filter}
    (hconsole : consoleFilter a.wanted a.config = .ok console)
    (hcrash : a.Crashes ↔ Filter.Tears a.config.fileFilter)
    (hmis : a.Misreads ↔ ¬ Filter.Reads a.config.fileFilter) :
    a.FiltersEnd (filters a.wanted a.config) := by
  unfold filters
  rw [hconsole]
  obtain ⟨htears, -, hparse⟩ | ⟨htears, hreads, defect, htorn, hparse⟩ |
      ⟨htears, hreads, filter, hparse⟩ :=
    Filter.parse_cases a.config.fileFilter
  · rw [hparse]
    exact .crash (hcrash.mpr htears)
  · rw [hparse]
    exact .misread (mt hcrash.mp htears) (hmis.mpr hreads) htorn
  · rw [hparse]
    exact .read (mt hcrash.mp htears) (fun h => hmis.mp h hreads) hparse

theorem filters_end (a : Attempt) : a.FiltersEnd (filters a.wanted a.config) := by
  obtain ⟨hwanted, hconsole⟩ | ⟨hwanted, ⟨hback, filter, hconsole⟩ | ⟨hback, hconsole⟩⟩ :=
    consoleFilter_cases a
  · rw [filters, hconsole]
    exact .crash (.inl hwanted)
  · refine filters_end_of_console hconsole ?_ ?_
    · simp [Attempt.Crashes, hwanted, hback]
    · simp [Attempt.Misreads, hback]
  · obtain ⟨htears, -, hparse⟩ | ⟨htears, hreads, defect, htorn, hparse⟩ |
        ⟨htears, hreads, filter, hparse⟩ :=
      Filter.parse_cases a.config.consoleFilter
    · rw [filters, hconsole, hparse]
      exact .crash (.inr (.inl ⟨hback, htears⟩))
    · rw [filters, hconsole, hparse]
      refine .misread ?_ (.inr ⟨hback, hreads⟩) htorn
      simp [Attempt.Crashes, hwanted, hback, htears, hreads]
    · refine filters_end_of_console (hconsole.trans hparse) ?_ ?_
      · simp [Attempt.Crashes, hwanted, hback, htears, hreads]
      · simp [Attempt.Misreads, hback, hreads]

/-! ## The directory and the file -/

/-- Opening a log file keeps the files, and if it succeeds the file can be opened again. -/
theorem openFile_eq {tree later : Node} {path : String} {answer : Except SetupFault Unit}
    (h : openFile tree path = (later, answer)) :
    Keeps tree later ∧
    (answer = .ok () → ∀ latest, Keeps later latest → (openFile latest path).2 = .ok ()) ∧
      (answer ≠ .ok () → Ending.of answer = .failed "Appender") := by
  have hagain {tree later : Node} (hwrite : Files.write tree path id = .ok later) {latest : Node}
      (hlatest : Keeps later latest) : (openFile latest path).2 = .ok () := by
    obtain ⟨written, hwritten⟩ := (Files.write_eq_ok hwrite).2 latest hlatest id
    simp [openFile, hwritten]
  unfold openFile at h
  split at h
  · rename_i written hwrite
    cases h
    exact ⟨(Files.write_eq_ok hwrite).1, fun _ latest hlatest => hagain hwrite hlatest,
      fun hne => absurd rfl hne⟩
  · split at h
    · rename_i made fault hmade
      cases h
      exact ⟨(Files.makeDirectoriesUp_eq hmade).1, nofun, fun _ => rfl⟩
    · rename_i made hmade
      obtain ⟨hkeeps, -⟩ := Files.makeDirectoriesUp_eq hmade
      split at h
      · rename_i written hwrite
        cases h
        exact ⟨hkeeps.trans (Files.write_eq_ok hwrite).1,
          fun _ latest hlatest => hagain hwrite hlatest, fun hne => absurd rfl hne⟩
      · cases h
        exact ⟨hkeeps, nofun, fun _ => rfl⟩

/-- A log file that has been opened is a file, and stays one. -/
theorem isFile_of_openFile {tree later latest : Node} {path : String}
    (h : openFile tree path = (later, .ok ())) (hlatest : Keeps later latest) :
    Files.isFile latest path = true := by
  unfold openFile at h
  split at h
  · rename_i written hwrite
    cases h
    exact Files.isFile_of_write hwrite hlatest
  · split at h
    · cases h
    · split at h
      · rename_i written hwrite
        cases h
        exact Files.isFile_of_write hwrite hlatest
      · cases h

namespace Attempt

variable (a : Attempt) (files : Node)

/-- The log directory is there, or can be made. -/
def HasDirectory : Prop := (Files.makeDirectories files a.config.directory).2 = .ok ()

/-- The log directory and the log file are there, or can be made. -/
def HasFile : Prop :=
  a.HasDirectory files ∧
    (openFile (Files.makeDirectories files a.config.directory).1 (a.config.fileOn a.today)).2 =
      .ok ()

/-- The files with the log directory and the log file. -/
def prepared : Node :=
  (openFile (Files.makeDirectories files a.config.directory).1 (a.config.fileOn a.today)).1

/-- Another attempt has the same log directory and the same log file. -/
def SharesFile (other : Attempt) : Prop :=
  other.config.directory = a.config.directory ∧
    other.config.fileOn other.today = a.config.fileOn a.today

variable {a files}

theorem keeps_prepared : Keeps files (a.prepared files) :=
  (Files.makeDirectories_eq rfl).1.trans (openFile_eq rfl).1

/-- What one attempt has made, another one with the same file can use. -/
theorem HasFile.shared {other : Attempt} {later : Node} (h : a.HasFile files)
    (hshare : a.SharesFile other) (hkeeps : Keeps (a.prepared files) later) :
    other.HasFile later := by
  obtain ⟨hdirectory, hfile⟩ := h
  have hmade := (Files.makeDirectories_eq rfl).2 hdirectory later ((openFile_eq rfl).1.trans hkeeps)
  unfold HasFile HasDirectory
  rw [hshare.1, hshare.2, hmade]
  exact ⟨rfl, (openFile_eq rfl).2.1 hfile later hkeeps⟩

theorem HasFile.isFile {later : Node} (h : a.HasFile files)
    (hkeeps : Keeps (a.prepared files) later) :
    Files.isFile later (a.config.fileOn a.today) = true :=
  isFile_of_openFile (Prod.ext rfl h.2) hkeeps

end Attempt

/-! ## One step of a history -/

theorem outlets_log (logger : Logger) (stamp : Stamp) (event : Event) :
    (logger.log stamp event).outlets = logger.outlets := by
  unfold Logger.log
  split <;> simp_all

theorem keeps_log (logger : Logger) (stamp : Stamp) (event : Event) :
    Keeps logger.files (logger.log stamp event).files := by
  unfold Logger.log
  split
  · exact .refl
  · dsimp only
    split
    · split
      · rename_i files hwrite
        exact (Files.write_eq_ok hwrite).1
      · exact .refl
    · exact .refl

/-- What can come of an attempt, and what decides about it. -/
inductive Attempt.Ends (a : Attempt) (logger : Logger) : Logger × Ending → Prop
  | noDirectory {files : Node} : ¬ a.HasDirectory logger.files → Keeps logger.files files →
      a.Ends logger ({ logger with files }, .failed "LogDirectory")
  | noFile {files : Node} : a.HasDirectory logger.files → ¬ a.HasFile logger.files →
      Keeps logger.files files →
      a.Ends logger ({ logger with files }, .failed "Appender")
  | crash : a.HasFile logger.files → a.Crashes →
      a.Ends logger ({ logger with files := a.prepared logger.files }, .crashed)
  | misread : a.HasFile logger.files → ¬ a.Crashes → a.Misreads →
      a.Ends logger ({ logger with files := a.prepared logger.files }, .failed "Filter")
  | already {outlets : Outlets} : a.HasFile logger.files → ¬ a.Crashes → ¬ a.Misreads →
      logger.outlets = some outlets →
      a.Ends logger ({ logger with files := a.prepared logger.files }, .failed "AlreadyInitialized")
  | done {outlets : Outlets} : a.HasFile logger.files → ¬ a.Crashes → ¬ a.Misreads →
      logger.outlets = none →
      Filter.parse a.config.fileFilter = .ok outlets.fileFilter →
      a.Ends logger (Logger.log ⟨some outlets, logger.console, a.prepared logger.files⟩ a.stamp
        (Logger.readyEvent a.config), .done)

theorem attempt_ends (a : Attempt) (logger : Logger) : a.Ends logger (logger.attempt a) := by
  unfold Logger.attempt Logger.setUp
  cases hmade : Files.makeDirectories logger.files a.config.directory with
  | mk made answer =>
    obtain ⟨hkept, -⟩ := Files.makeDirectories_eq hmade
    cases answer with
    | error fault => exact .noDirectory (by simp [Attempt.HasDirectory, hmade]) hkept
    | ok _ =>
      have hdirectory : a.HasDirectory logger.files := by rw [Attempt.HasDirectory, hmade]
      cases hopened : openFile made (a.config.fileOn a.today) with
      | mk opened answer =>
        obtain ⟨hkeeps, -, hfailed⟩ := openFile_eq hopened
        cases answer with
        | error fault =>
          simp only [hopened, hfailed nofun]
          exact .noFile hdirectory (by simp [Attempt.HasFile, hmade, hopened]) (hkept.trans hkeeps)
        | ok _ =>
          have hfile : a.HasFile logger.files := ⟨hdirectory, by rw [hmade, hopened]⟩
          have hprepared : opened = a.prepared logger.files := by
            simp [Attempt.prepared, hmade, hopened]
          have hend := filters_end a
          generalize filters a.wanted a.config = both at hend
          simp only [hopened, hprepared]
          cases hend with
          | crash hcrash => exact .crash hfile hcrash
          | @misread defect hcrash hmis htorn =>
            cases defect with
            | torn => exact absurd rfl htorn
            | malformed => exact .misread hfile hcrash hmis
            | badLevel => exact .misread hfile hcrash hmis
          | read hcrash hmis hparse =>
            cases houtlets : logger.outlets with
            | none => exact .done hfile hcrash hmis houtlets hparse
            | some outlets =>
              have halready := Attempt.Ends.already hfile hcrash hmis houtlets
              rw [houtlets] at halready
              exact halready

section

variable {logger : Logger} {a : Attempt}

theorem outlets_of_done (h : (logger.attempt a).2 = .done) :
    logger.outlets = none ∧ ∃ outlets, (logger.attempt a).1.outlets = some outlets ∧
      Filter.parse a.config.fileFilter = .ok outlets.fileFilter := by
  have hend := attempt_ends a logger
  generalize logger.attempt a = result at hend h
  cases hend with
  | @done outlets _ _ _ hnone hparse => exact ⟨hnone, outlets, outlets_log _ _ _, hparse⟩
  | noDirectory | noFile | crash | misread | already => cases h

theorem unchanged_of_not_done (h : (logger.attempt a).2 ≠ .done) :
    (logger.attempt a).1.outlets = logger.outlets ∧
    (logger.attempt a).1.console = logger.console := by
  have hend := attempt_ends a logger
  generalize logger.attempt a = result at hend h
  cases hend with
  | done => exact absurd rfl h
  | noDirectory | noFile | crash | misread | already => exact ⟨rfl, rfl⟩

theorem keeps_attempt (logger : Logger) (a : Attempt) :
    Keeps logger.files (logger.attempt a).1.files := by
  have hend := attempt_ends a logger
  generalize logger.attempt a = result at hend
  cases hend with
  | noDirectory _ hkeeps => exact hkeeps
  | noFile _ _ hkeeps => exact hkeeps
  | crash | misread | already => exact Attempt.keeps_prepared
  | @done outlets =>
    exact Attempt.keeps_prepared.trans
      (keeps_log ⟨some outlets, logger.console, a.prepared logger.files⟩ _ _)

theorem keeps_attempt_of_hasFile (h : a.HasFile logger.files) :
    Keeps (a.prepared logger.files) (logger.attempt a).1.files := by
  have hend := attempt_ends a logger
  generalize logger.attempt a = result at hend
  cases hend with
  | noDirectory hnot => exact absurd h.1 hnot
  | noFile _ hnot => exact absurd h hnot
  | crash | misread | already => exact .refl
  | @done outlets => exact keeps_log ⟨some outlets, logger.console, a.prepared logger.files⟩ _ _

end

/-- When logging has been set up, the log file of the day is there. -/
theorem isFile_of_setUp {logger later : Logger} {wanted : Option String} {config : Config}
    {today : Calendar.Date} {stamp : Stamp}
    (h : logger.setUp wanted config today stamp = (later, .ok ())) :
    Files.isFile later.files (config.fileOn today) = true := by
  let a : Attempt := ⟨wanted, config, today, stamp⟩
  have hattempt : logger.attempt a = (later, .done) := by
    unfold Logger.attempt
    rw [h]
    rfl
  have hfile : a.HasFile logger.files := by
    have hend := attempt_ends a logger
    rw [hattempt] at hend
    cases hend with
    | done hfile => exact hfile
  have hkeeps := keeps_attempt_of_hasFile hfile
  rw [hattempt] at hkeeps
  exact hfile.isFile hkeeps

/-- How an attempt ends, and what it leaves. Each fault is returned if what goes before it is in
order; what is set up already counts last. -/
structure Attempt.IsDecided (a : Attempt) (logger : Logger) (isSetUp : Prop) : Prop where
  directory : (logger.attempt a).2 = .failed "LogDirectory" ↔ ¬ a.HasDirectory logger.files
  file : (logger.attempt a).2 = .failed "Appender" ↔ a.HasDirectory logger.files ∧
    ¬ a.HasFile logger.files
  crash : (logger.attempt a).2 = .crashed ↔ a.HasFile logger.files ∧ a.Crashes
  filter : (logger.attempt a).2 = .failed "Filter" ↔ a.HasFile logger.files ∧
    ¬ a.Crashes ∧ a.Misreads
  already : (logger.attempt a).2 = .failed "AlreadyInitialized" ↔
    a.HasFile logger.files ∧ ¬ a.Crashes ∧ ¬ a.Misreads ∧ isSetUp
  done : (logger.attempt a).2 = .done ↔ a.HasFile logger.files ∧ ¬ a.Crashes ∧
    ¬ a.Misreads ∧ ¬ isSetUp
  unchanged : (logger.attempt a).2 ≠ .done →
    (logger.attempt a).1.outlets = logger.outlets ∧ (logger.attempt a).1.console = logger.console
  fileFilter : (logger.attempt a).2 = .done →
    ∃ outlets, (logger.attempt a).1.outlets = some outlets ∧
    Filter.parse a.config.fileFilter = .ok outlets.fileFilter
  kept : Keeps logger.files (logger.attempt a).1.files

theorem attempt_isDecided (a : Attempt) {logger : Logger} {isSetUp : Prop}
    (h : isSetUp ↔ logger.outlets ≠ none) :
    a.IsDecided logger isSetUp := by
  have hfilter (hdone : (logger.attempt a).2 = .done) := (outlets_of_done hdone).2
  have hkept := keeps_attempt logger a
  have hend := attempt_ends a logger
  generalize hresult : logger.attempt a = result at hend
  cases hend with
  | noDirectory hnot =>
    have hnone : ¬ a.HasFile logger.files := fun hfile => hnot hfile.1
    refine ⟨?_, ?_, ?_, ?_, ?_, ?_, unchanged_of_not_done, hfilter, hkept⟩ <;>
      simp [hresult, hnot, hnone]
  | noFile hdirectory hnot =>
    refine ⟨?_, ?_, ?_, ?_, ?_, ?_, unchanged_of_not_done, hfilter, hkept⟩ <;>
      simp [hresult, hdirectory, hnot]
  | crash hfile hcrash =>
    refine ⟨?_, ?_, ?_, ?_, ?_, ?_, unchanged_of_not_done, hfilter, hkept⟩ <;>
      simp [hresult, hfile, hfile.1, hcrash]
  | misread hfile hcrash hmis =>
    refine ⟨?_, ?_, ?_, ?_, ?_, ?_, unchanged_of_not_done, hfilter, hkept⟩ <;>
      simp [hresult, hfile, hfile.1, hcrash, hmis]
  | already hfile hcrash hmis hsome =>
    have hsetUp : isSetUp := h.mpr (by simp [hsome])
    refine ⟨?_, ?_, ?_, ?_, ?_, ?_, unchanged_of_not_done, hfilter, hkept⟩ <;>
      simp [hresult, hfile, hfile.1, hcrash, hmis, hsetUp]
  | done hfile hcrash hmis hnone =>
    have hsetUp : ¬ isSetUp := fun hsetUp => h.mp hsetUp hnone
    refine ⟨?_, ?_, ?_, ?_, ?_, ?_, unchanged_of_not_done, hfilter, hkept⟩ <;>
      simp [hresult, hfile, hfile.1, hcrash, hmis, hsetUp]

/-! ## Whole histories -/

theorem outlets_after {logger : Logger} {outlets : Outlets} (h : logger.outlets = some outlets)
    (history : List Happening) : (logger.after history).1.outlets = some outlets := by
  induction history generalizing logger with
  | nil => exact h
  | cons first rest ih =>
    cases first with
    | event stamp event => exact ih ((outlets_log logger stamp event).trans h)
    | change files => exact ih h
    | attempt a =>
      have hdone : (logger.attempt a).2 ≠ .done := fun hdone => by
        rw [(outlets_of_done hdone).1] at h
        cases h
      exact ih ((unchanged_of_not_done hdone).1.trans h)

/-- Attempts that succeed and what is set up are counted together. -/
theorem count_done (logger : Logger) (history : List Happening) :
    (logger.after history).2.count .done + logger.outlets.isSome.toNat =
      (logger.after history).1.outlets.isSome.toNat := by
  induction history generalizing logger with
  | nil => simp [Logger.after]
  | cons first rest ih =>
    cases first with
    | event stamp event =>
      rw [← outlets_log logger stamp event]
      exact ih _
    | change files => exact ih { logger with files }
    | attempt a =>
      have hrest := ih (logger.attempt a).1
      simp only [Logger.after, List.count_cons]
      by_cases hdone : (logger.attempt a).2 = .done
      · obtain ⟨hnone, outlets, hsome, -⟩ := outlets_of_done hdone
        simp only [hsome, hnone, hdone, Option.isSome] at hrest ⊢
        simpa using hrest
      · rw [(unchanged_of_not_done hdone).1] at hrest
        simpa [hdone] using hrest

/-- What happens, apart from changes by others, keeps the files. -/
theorem keeps_after {logger : Logger} {history : List Happening}
    (h : ∀ files, .change files ∉ history) :
    Keeps logger.files (logger.after history).1.files := by
  induction history generalizing logger with
  | nil => exact .refl
  | cons first rest ih =>
    have hrest : ∀ files, .change files ∉ rest :=
      fun files hmem => h files (List.mem_cons_of_mem first hmem)
    cases first with
    | event stamp event => exact (keeps_log logger stamp event).trans (ih hrest)
    | change files => exact absurd List.mem_cons_self (h files)
    | attempt a => exact (keeps_attempt logger a).trans (ih hrest)

/-- A process that starts with some files, after all that has happened in it. -/
def processOf (files : Node) (history : List Happening) : Logger × List Ending :=
  (Logger.ofFiles files).after history

theorem count_done_processOf (files : Node) (history : List Happening) :
    (processOf files history).2.count .done = (processOf files history).1.outlets.isSome.toNat :=
  count_done (.ofFiles files) history

theorem done_mem_iff (files : Node) (history : List Happening) :
    .done ∈ (processOf files history).2 ↔ (processOf files history).1.outlets ≠ none := by
  rw [← List.count_pos_iff, count_done_processOf, ← Option.isSome_iff_ne_none]
  cases (processOf files history).1.outlets.isSome <;> simp

/-! ## Attempts in a directory without anything -/

/-- A directory without anything in it. -/
def bare : Node := .directory 0o755 []

/-- The same with a log directory. -/
def bareLogs : Node := .directory 0o755 [(.text "logs", .directory Files.newDirectoryMode [])]

theorem makeDirectories_bare : Files.makeDirectories bare "logs" = (bareLogs, .ok ()) := by
  have hspot : Files.spotAt bare false [.name (.text "logs")] =
      .ok ⟨[], some (.text "logs"), none⟩ :=
    Files.spotAt_eq_ok.mpr ⟨by decide, .missing rfl (by decide) (by decide) rfl⟩
  have hmake : Files.makeDirectory bare [.name (.text "logs")] = .ok bareLogs := by
    rw [Files.makeDirectory, hspot]
    rfl
  have hparts : (Files.Path.ofString "logs").reverse = [.name (.text "logs")] := by decide
  rw [Files.makeDirectories, if_neg (by decide), hparts]
  simp [Files.makeDirectoriesUp, hmake]

theorem openFile_bareLogs : (openFile bareLogs "logs/yavin1.2024-05-01.log").2 = .ok () := by
  have hspot : Files.spotOf bareLogs true "logs/yavin1.2024-05-01.log" =
      .ok ⟨[.text "logs"], some (.text "yavin1.2024-05-01.log"), none⟩ :=
    Files.spotOf_eq_ok.mpr
      ⟨by decide, [.name (.text "logs"), .name (.text "yavin1.2024-05-01.log")], by decide,
      Files.spotAt_eq_ok.mpr ⟨by decide,
        .down rfl (by decide) (by decide) rfl (.missing rfl (by decide) (by decide) rfl)⟩⟩
  obtain ⟨written, hwritten⟩ : ∃ written, Files.write bareLogs "logs/yavin1.2024-05-01.log" id =
      .ok written := by
    rw [Files.write, if_neg (by decide), hspot]
    exact ⟨_, rfl⟩
  rw [openFile, hwritten]

/-- The day of the attempts below. -/
def mayDay : Calendar.Date := (Calendar.Date.ofParts? 2024 5 1).get rfl

/-- An attempt at the standard set-up with some filters. -/
def onMayDay (wanted : Option String) (fileFilter : String) : Attempt :=
  ⟨wanted, { Config.standard with fileFilter }, mayDay, ⟨"2024-05-01 09:00:00", "main", 1⟩⟩

theorem hasFile_onMayDay (wanted : Option String) (fileFilter : String) :
    (onMayDay wanted fileFilter).HasFile bare := by
  have hname : Config.standard.fileOn mayDay = "logs/yavin1.2024-05-01.log" := by decide
  refine ⟨congrArg Prod.snd makeDirectories_bare, ?_⟩
  change (openFile (Files.makeDirectories bare "logs").1 (Config.standard.fileOn mayDay)).2 = .ok ()
  rw [makeDirectories_bare, hname]
  exact openFile_bareLogs

theorem decode_info : Text.decode? (Text.utf8 "info") = some "info" := by
  have hutf8 : Text.utf8 "info" = [105, 110, 102, 111] := by decide
  have hpieces : Text.pieces [105, 110, 102, 111] = ['i', 'n', 'f', 'o'].map Text.Piece.char := by
    simp [Text.pieces, Text.decodeNext, Text.lead?, Text.readTails]
  rw [Text.decode?, Text.decode, hutf8, hpieces]
  rfl

theorem reads_info : Filter.Reads "info" := by
  have hsteps : Directive.steps (Text.utf8 "info") .all .start 0 (Text.trim "info".toList) =
    .ok (.all, .word 0) := rfl
  have hword : Directive.parse "info" = .ok ⟨none, none, [], some .info⟩ := by
    change Directive.steps (Text.utf8 "info") .all .start 0 (Text.trim "info".toList) >>=
      (fun went => Directive.finish (Text.utf8 "info") went.1 went.2) = _
    rw [hsteps]
    simp only [bind, Except.bind, Directive.finish, Directive.cut, List.take_length, List.drop_zero,
      decode_info]
    rfl
  refine ⟨[⟨none, none, [], some .info⟩], ?_⟩
  change (Directive.parse "info" >>= fun d => pure [d]) = _
  rw [hword]
  rfl

theorem parse_bracket : Filter.parse "[" = .error .malformed := rfl

theorem not_reads_bracket : ¬ Filter.Reads "[" :=
  fun ⟨_, hok⟩ => by cases parse_bracket.symm.trans hok

theorem not_crashes_onMayDay {fileFilter : String} (h : ¬ Filter.Tears fileFilter) :
    ¬ (onMayDay none fileFilter).Crashes := by
  have hconsole : ¬ Filter.Tears "info" := Filter.not_tears_of_reads reads_info
  rintro (⟨text, hwanted, -⟩ | ⟨-, htears⟩ | ⟨-, htears⟩)
  · cases hwanted
  · exact hconsole htears
  · exact h htears

/-! ## Once at most -/

/-- Logging is set up once at most. After any history an attempt is decided by its own files and
filters and by whether one has succeeded; what is set up stays; and the files of an attempt that
found them, whether it succeeded or not, are there for a later one. -/
theorem logging_is_set_up_once (files : Node) (history : List Happening) :
    (processOf files history).2.count .done ≤ 1 ∧
    (∀ a : Attempt, a.IsDecided (processOf files history).1 (.done ∈ (processOf files history).2)) ∧
    (∀ rest, .done ∈ (processOf files history).2 →
      (processOf files (history ++ rest)).1.outlets = (processOf files history).1.outlets) ∧
    ∀ (first again : Attempt) (between : List Happening),
      first.HasFile (processOf files history).1.files →
      first.SharesFile again → (∀ changed, .change changed ∉ between) →
      again.HasFile (processOf files (history ++ .attempt first :: between)).1.files := by
  refine ⟨?_, fun a => attempt_isDecided a (done_mem_iff files history), fun rest hdone => ?_,
    fun first again between hfile hshare hchange => ?_⟩
  · rw [count_done_processOf]
    exact Bool.toNat_le _
  · obtain ⟨outlets, houtlets⟩ :=
      Option.ne_none_iff_exists'.mp ((done_mem_iff files history).mp hdone)
    unfold processOf at houtlets ⊢
    rw [Logger.after_append, houtlets]
    exact outlets_after houtlets rest
  · unfold processOf at hfile ⊢
    rw [Logger.after_append]
    exact hfile.shared hshare ((keeps_attempt_of_hasFile hfile).trans (keeps_after hchange))

/-- A filter that is bad ends an attempt, and the next one sets logging up with a better one. -/
theorem a_failed_attempt_leaves_the_way_free :
    (processOf bare [.attempt (onMayDay none "["), .attempt (onMayDay none "info")]).2 =
    [.failed "Filter", .done] := by
  obtain ⟨-, hdecided, -, hagain⟩ := logging_is_set_up_once bare []
  have hfirst : ((Logger.ofFiles bare).attempt (onMayDay none "[")).2 = .failed "Filter" :=
    (hdecided (onMayDay none "[")).filter.mpr
      ⟨hasFile_onMayDay _ _, not_crashes_onMayDay (fun h => by cases parse_bracket.symm.trans h),
        .inl not_reads_bracket⟩
  have hfile := hagain (onMayDay none "[") (onMayDay none "info") [] (hasFile_onMayDay _ _)
    ⟨rfl, rfl⟩ nofun
  have hreads : ¬ (onMayDay none "info").Misreads := fun h =>
    h.elim (fun hnot => hnot reads_info) (fun hnot => hnot.2 reads_info)
  have hnotYet : .done ∉ (processOf bare [.attempt (onMayDay none "[")]).2 := by
    change Ending.done ∉ [((Logger.ofFiles bare).attempt (onMayDay none "[")).2]
    rw [hfirst]
    decide
  have hsecond :=
    (((logging_is_set_up_once bare [.attempt (onMayDay none "[")]).2.1
      (onMayDay none "info")).done).mpr
    ⟨hfile, not_crashes_onMayDay (Filter.not_tears_of_reads reads_info), hreads, hnotYet⟩
  exact congr (congrArg List.cons hfirst) (congrArg (fun ending => [ending]) hsecond)

/-- The file filter is bad, but reading the variable before it crashes, and no fault is returned. -/
theorem a_bad_filter_can_go_unreported :
    (onMayDay (some " é=info") "[").HasFile bare ∧ (onMayDay (some " é=info") "[").Misreads ∧
      ((Logger.ofFiles bare).attempt (onMayDay (some " é=info") "[")).2 = .crashed := by
  have hcrash : (onMayDay (some " é=info") "[").Crashes := .inl ⟨" é=info", rfl, rfl⟩
  have hdecided : (onMayDay (some " é=info") "[").IsDecided (Logger.ofFiles bare) False :=
    attempt_isDecided _ (by simp [Logger.ofFiles])
  exact ⟨hasFile_onMayDay _ _, .inl not_reads_bracket,
    hdecided.crash.mpr ⟨hasFile_onMayDay _ _, hcrash⟩⟩

end Chassis.Logging
