-- How long archives may be kept. A pass on a day runs if the calendar reaches back to the first day
-- whose archives are kept; else it is a crash that touches nothing. The settings take more days
-- than the calendar has.
import Chassis.Proofs.Archive.Packable
import Chassis.Proofs.Calendar.Range
import Chassis.Settings.Load

namespace Chassis.Logging.Archive

open Calendar (Date)
open Files (Node)

/-! ## The first day that is kept -/

theorem oldestKept?_eq_none {a : Archiver} {today : Date} :
    a.oldestKept? today = none ↔ a.keptFrom today < Date.firstDay := by
  unfold Archiver.oldestKept? Archiver.keptFrom
  simp

theorem oldestKept?_of_le {a : Archiver} {today : Date} (h : Date.firstDay ≤ a.keptFrom today) :
    a.oldestKept? today = some (a.keptFrom today) := by
  unfold Archiver.oldestKept?
  exact if_pos h

/-- How a pass ends that has come to a report or a fault. -/
def PassEnd.ofResult : Except Files.Fault Report → PassEnd
  | .ok report => .finished report
  | .error fault => .failed fault

theorem PassEnd.ofResult_ne_crashed (result : Except Files.Fault Report) :
    ofResult result ≠ .crashed := by
  cases result <;> simp [ofResult]

section

variable {σ : Type} (a : Archiver) (today : Date) (handler : Handler σ) (state : σ)

theorem runOn_of_unreached (h : a.keptFrom today < Date.firstDay) :
    a.runOn today handler state = (state, [], .crashed) := by
  unfold Archiver.runOn
  rw [oldestKept?_eq_none.mpr h]

theorem runOn_of_reached (h : Date.firstDay ≤ a.keptFrom today) :
    let pass := (a.pass today (a.keptFrom today)).run.run handler state
    a.runOn today handler state = (pass.1, pass.2.1, .ofResult pass.2.2) := by
  unfold Archiver.runOn
  rw [oldestKept?_of_le h]
  dsimp only
  rcases (a.pass today (a.keptFrom today)).run.run handler state
    with ⟨left, events, fault | report⟩ <;> rfl

/-- A pass crashes exactly when the calendar does not reach back far enough. -/
theorem runOn_crashed : (a.runOn today handler state).2.2 = .crashed ↔
    a.keptFrom today < Date.firstDay := by
  constructor
  · intro hcrashed
    by_contra hreached
    rw [runOn_of_reached a today handler state (by omega)] at hcrashed
    exact PassEnd.ofResult_ne_crashed _ hcrashed
  · intro hunreached
    rw [runOn_of_unreached a today handler state hunreached]

end

/-! ## Retention by the settings -/

/-- Under any settings, on any day, wherever a pass is carried out. It crashes exactly when the
calendar does not reach back to the first day whose archives are kept, and then it has touched
nothing and said nothing. Else it does what a pass does, and ends with a report or because the
directory cannot be listed. A day that is as far from the first day of the calendar as archives are
kept is far enough; archives that are kept for longer than the calendar lasts are a crash on every
day. -/
theorem a_pass_needs_a_first_day_to_keep {σ : Type} (settings : Settings) (today : Date)
    (handler : Handler σ) (state : σ) :
    let a := Archiver.ofConfig settings.logging
    let days : Int := settings.logRetentionDays.toNat
    let outcome := a.runOn today handler state
    let pass := (a.pass today (today.dayNumber - days)).run.run handler state
    (outcome.2.2 = .crashed ↔ today.dayNumber - Date.firstDay < days) ∧
      (today.dayNumber - Date.firstDay < days → outcome = (state, [], .crashed)) ∧
      (days ≤ today.dayNumber - Date.firstDay → outcome = (pass.1, pass.2.1, .ofResult pass.2.2)) ∧
      (0 ≤ today.dayNumber - Date.firstDay ∧
          today.dayNumber - Date.firstDay ≤ Date.lastDay - Date.firstDay) := by
  intro a days outcome pass
  have hkept : a.keptFrom today = today.dayNumber - days := rfl
  refine ⟨?_, ?_, ?_, ?_, ?_⟩
  · rw [runOn_crashed, hkept]
    omega
  · intro hlong
    exact runOn_of_unreached a today handler state (by omega)
  · intro hshort
    exact runOn_of_reached a today handler state (by omega)
  · have hfirst := Date.firstDay_le today
    omega
  · have hlast := Date.le_lastDay today
    omega

/-- A log of the service, of the first of May. -/
def servicesLog : Node :=
  withLogs 0o755 [(.text "yavin1.2024-05-01.log", .file 0o644 (.plain [110]))]

/-- The greatest number of days that settings take stops a pass that has a log to pack. -/
theorem archives_cannot_be_kept_for_good : ∃ settings,
    Settings.ofShelf ⟨id, id⟩ (fun _ => none) [("LOG_RETENTION_DAYS", "4294967295")] =
    .ok settings ∧
      (Archiver.ofConfig settings.logging).runOnFiles thirdOfMay servicesLog =
      (servicesLog, [], .crashed) := by
  refine ⟨_, rfl, runOn_of_unreached _ thirdOfMay _ servicesLog ?_⟩
  change thirdOfMay.dayNumber - 4294967295 < Date.firstDay
  decide

end Chassis.Logging.Archive
