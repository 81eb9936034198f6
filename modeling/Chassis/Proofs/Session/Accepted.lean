-- Pools that are made from settings. The address is looked at first. Nobody looks whether there is
-- room for a connection, or whether the clock can tell when the time for a session is over: both
-- are a crash.
import Chassis.Proofs.Bind
import Chassis.Proofs.Session.Uses
import Chassis.Settings.Load

namespace Chassis.Session

namespace Factory

variable (username : String) (config : Config)

/-! ## Making a pool -/

theorem make_refused_iff : (∃ fault, (make username config).1 = .refused fault) ↔
    ∃ defect, (Options.usual username).parse config.url = .error defect := by
  unfold make
  cases (Options.usual username).parse config.url with
  | error defect => simp
  | ok options => by_cases hroom : config.maxConnections = 0 <;> simp [hroom]

theorem make_crashed_iff : (make username config).1 = .crashed ↔
    (∃ options, (Options.usual username).parse config.url = .ok options) ∧
    config.maxConnections = 0 := by
  unfold make
  cases (Options.usual username).parse config.url with
  | error defect => simp
  | ok options => by_cases hroom : config.maxConnections = 0 <;> simp [hroom]

theorem make_made_iff : (∃ factory, (make username config).1 = .made factory) ↔
    (∃ options, (Options.usual username).parse config.url = .ok options) ∧
    config.maxConnections ≠ 0 := by
  unfold make
  cases (Options.usual username).parse config.url with
  | error defect => simp
  | ok options => by_cases hroom : config.maxConnections = 0 <;> simp [hroom]

variable {username config}

/-- A pool is refused for its address only. -/
theorem invalidUrl_of_refused {fault : Fault} (h : (make username config).1 = .refused fault) :
    ∃ defect, (Options.usual username).parse config.url = .error defect ∧
      fault = .invalidUrl defect.message := by
  unfold make at h
  split at h
  · rename_i defect hparse
    cases h
    exact ⟨defect, hparse, rfl⟩
  · split at h <;> cases h

/-- A pool that is made is open. -/
theorem of_make {f : Factory} (h : (make username config).1 = .made f) :
    f.config = config ∧ f.isClosed = false := by
  unfold make at h
  split at h
  · cases h
  · split at h
    · cases h
    · cases h
      exact ⟨rfl, rfl⟩

/-! ## Asking it for a session -/

theorem acquire_crashed_iff (f : Factory) (now : Conditions) :
    (f.acquire now).2.1 = .crashed ↔ f.isClosed = false ∧ f.hasDeadline now = false := by
  unfold acquire lack
  cases f.isClosed with
  | true => simp
  | false =>
    cases f.hasDeadline now with
    | false => simp
    | true => cases f.connect now.login <;> simp

/-- An attempt that crashes has done nothing. -/
theorem acquire_of_crashed {f : Factory} {now : Conditions} (h : (f.acquire now).2.1 = .crashed) :
    f.acquire now = (f, .crashed, []) := by
  obtain ⟨hopen, hdeadline⟩ := (acquire_crashed_iff f now).mp h
  simp [acquire, hopen, hdeadline]

/-- An attempt that fails lacks a connection. -/
theorem acquire_cases (f : Factory) (now : Conditions) :
    (∃ id, (f.acquire now).2.1 = .session id) ∨
      (∃ detail, (f.acquire now).2.1 = .failed (.connectionFailed detail)) ∨
      (f.acquire now).2.1 = .crashed := by
  have htries := tries_acquire f now
  generalize f.acquire now = outcome at htries ⊢
  obtain ⟨after, attempt, events⟩ := outcome
  cases htries with
  | given => exact Or.inl ⟨_, rfl⟩
  | lacking shortage => exact Or.inr (Or.inl ⟨_, rfl⟩)
  | crashed => exact Or.inr (Or.inr rfl)

/-- Whole seconds pass on the clock in the time that settings give. -/
theorem hasDeadline_eq_false {f : Factory} {settings : Settings}
    (hconfig : f.config = settings.database) (now : Conditions) : f.hasDeadline now = false ↔
      lastSecond < now.clock / 1000 + settings.databaseAcquireTimeoutSecs.toNat := by
  unfold hasDeadline
  rw [hconfig]
  change decide ((now.clock + settings.databaseAcquireTimeoutSecs.toNat * 1000) / 1000 ≤
    lastSecond) = false ↔ _
  rw [Nat.add_mul_div_right _ _ (by decide), decide_eq_false_iff_not, Nat.not_le]

end Factory

/-! ## Pools of settings -/

/-- Under any settings, for any user. Making the pool fails exactly when the address does not parse,
and says that the address is invalid; it crashes exactly when the address parses and there is no
room for a connection; else there is a pool. Whatever it has been used for by then, whoever asks it
for a session is given one or fails for want of a connection, unless the pool is open and the clock
cannot tell when the time for the attempt is over. Then that is a crash, which changes nothing. -/
theorem settings_decide_when_a_pool_crashes (settings : Settings) (username : String) :
    let parsed := (Options.usual username).parse settings.databaseUrl
    let making := (Factory.make username settings.database).1
    ((∃ detail, making = .refused (.invalidUrl detail)) ↔ ∃ defect, parsed = .error defect) ∧
      (making = .crashed ↔ (∃ options, parsed = .ok options) ∧
        settings.databaseMaxConnections = 0) ∧
      ((∃ factory, making = .made factory) ↔
        (∃ options, parsed = .ok options) ∧ settings.databaseMaxConnections ≠ 0) ∧
      ∀ factory, making = .made factory → ∀ uses now,
        let after := (factory.uses uses).1
        let attempt := (after.acquire now).2.1
        let seconds := settings.databaseAcquireTimeoutSecs.toNat
        (attempt = .crashed ↔ after.isClosed = false ∧ lastSecond < now.clock / 1000 + seconds) ∧
          (attempt = .crashed → after.acquire now = (after, .crashed, [])) ∧
          (attempt ≠ .crashed →
            (∃ id, attempt = .session id) ∨ ∃ detail,
                attempt = .failed (.connectionFailed detail)) := by
  intro parsed making
  have hroom : settings.database.maxConnections = 0 ↔ settings.databaseMaxConnections = 0 := by
    rw [← UInt32.toNat_inj]
    rfl
  refine ⟨?_, ?_, ?_, ?_⟩
  · constructor
    · rintro ⟨detail, hrefused⟩
      exact (Factory.make_refused_iff username settings.database).mp ⟨_, hrefused⟩
    · intro hparsed
      obtain ⟨fault, hrefused⟩ := (Factory.make_refused_iff username settings.database).mpr hparsed
      obtain ⟨defect, -, rfl⟩ := Factory.invalidUrl_of_refused hrefused
      exact ⟨_, hrefused⟩
  · rw [← hroom]
    exact Factory.make_crashed_iff username settings.database
  · rw [Ne, ← hroom]
    exact Factory.make_made_iff username settings.database
  · intro factory hmade uses now after attempt seconds
    have hsound := (Factory.sound_make (Prod.ext hmade rfl)).uses uses
    refine ⟨?_, Factory.acquire_of_crashed, fun hended => ?_⟩
    · rw [← Factory.hasDeadline_eq_false hsound.asMade now]
      exact Factory.acquire_crashed_iff after now
    · rcases Factory.acquire_cases after now with hgiven | hfailed | hcrashed
      · exact Or.inl hgiven
      · exact Or.inr hfailed
      · exact absurd hcrashed hended

/-- Settings are accepted that leave no room for a connection, and others under which nobody can
ever be given a session. Both are ways to crash. -/
theorem accepted_settings_can_crash_a_pool :
    (∃ settings, Settings.ofShelf ⟨id, id⟩ (fun _ => none) [("DATABASE_MAX_CONNECTIONS", "0")] =
      .ok settings ∧
      (Factory.make "app" settings.database).1 = .crashed) ∧
    ∃ settings, Settings.ofShelf ⟨id, id⟩ (fun _ => none)
        [("DATABASE_ACQUIRE_TIMEOUT_SECS", "18446744073709551615")] = .ok settings ∧
      ∃ factory, (Factory.make "app" settings.database).1 = .made factory ∧
        ∀ now, (factory.acquire now).2.1 = .crashed := by
  have hparsed : ∃ options,
      (Options.usual "app").parse "postgresql://postgres:postgres@db:5432/yavin1_db" =
          .ok options :=
    exists_of_isOk (by decide +kernel)
  constructor
  · obtain ⟨settings, haccepted, hread⟩ : ∃ settings, Settings.ofShelf ⟨id, id⟩ (fun _ => none)
        [("DATABASE_MAX_CONNECTIONS", "0")] = .ok settings ∧
        (settings.databaseUrl, settings.databaseMaxConnections) =
          ("postgresql://postgres:postgres@db:5432/yavin1_db", 0) :=
      exists_of_toOption (by decide +kernel)
    obtain ⟨hurl, hroom⟩ := Prod.mk.inj hread
    refine ⟨settings, haccepted, (Factory.make_crashed_iff "app" settings.database).mpr ⟨?_, ?_⟩⟩
    · change ∃ options, (Options.usual "app").parse settings.databaseUrl = .ok options
      rw [hurl]
      exact hparsed
    · change settings.databaseMaxConnections.toNat = 0
      rw [hroom]
      rfl
  · obtain ⟨settings, haccepted, hread⟩ : ∃ settings, Settings.ofShelf ⟨id, id⟩ (fun _ => none)
        [("DATABASE_ACQUIRE_TIMEOUT_SECS", "18446744073709551615")] = .ok settings ∧
        (settings.databaseUrl, settings.databaseMaxConnections,
          settings.databaseAcquireTimeoutSecs.toNat) =
          ("postgresql://postgres:postgres@db:5432/yavin1_db", 10, 2 ^ 64 - 1) :=
      exists_of_toOption (by decide +kernel)
    obtain ⟨hurl, hroom, hseconds⟩ := by simpa only [Prod.mk.injEq] using hread
    obtain ⟨factory, hmade⟩ : ∃ factory, (Factory.make "app" settings.database).1 =
        .made factory := by
      refine (Factory.make_made_iff "app" settings.database).mpr ⟨?_, ?_⟩
      · change ∃ options, (Options.usual "app").parse settings.databaseUrl = .ok options
        rw [hurl]
        exact hparsed
      · change settings.databaseMaxConnections.toNat ≠ 0
        rw [hroom]
        decide
    refine ⟨settings, haccepted, factory, hmade, fun now => ?_⟩
    obtain ⟨hconfig, hopen⟩ := Factory.of_make hmade
    refine (Factory.acquire_crashed_iff factory now).mpr
      ⟨hopen, (Factory.hasDeadline_eq_false hconfig now).mpr ?_⟩
    rw [hseconds]
    have hlast : lastSecond = 2 ^ 63 - 1 := rfl
    omega

end Chassis.Session
