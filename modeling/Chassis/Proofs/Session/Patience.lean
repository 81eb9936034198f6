-- What is told of the patience of a pool that is made: the milliseconds, as far as 64 bits go.
-- Every number of seconds is accepted, and of most of them, what is told is not the time that the
-- pool has.
import Chassis.Proofs.Session.Accepted
import Chassis.Proofs.Settings.Numbers

namespace Chassis.Session

namespace Factory

/-! ## What is told -/

/-- What events tell of the time that new pools have for an attempt. -/
def toldPatience (events : List Logging.Event) : List (Option Logging.FieldValue) :=
  (events.filter (·.message = "PostgreSQL session factory created")).map
    (·.fields.lookup "acquire_timeout_ms")

variable {username : String} {config : Config}

theorem toldPatience_of_made {f : Factory} (h : (make username config).1 = .made f) :
    toldPatience (make username config).2 =
    [some (.number (shownMilliseconds config.acquireTimeoutMs))] := by
  unfold make at h ⊢
  split at h
  · cases h
  · split at h
    · cases h
    · rename_i hroom
      simp only [if_neg hroom]
      rfl

/-- Nothing is told of a pool that is not made. -/
theorem toldPatience_of_not_made (h : ¬∃ f, (make username config).1 = .made f) :
    toldPatience (make username config).2 = [] := by
  unfold make at h ⊢
  split at h
  · rfl
  · split at h
    · rename_i hnone
      rw [if_pos hnone]
      rfl
    · exact absurd ⟨_, rfl⟩ h

/-- Milliseconds are shown as they are while they fit. -/
theorem shownMilliseconds_eq_self_iff (ms : Nat) : shownMilliseconds ms = ms ↔ ms < 2 ^ 64 := by
  have hlimit : Text.unsignedLimit + 1 = 2 ^ 64 := rfl
  unfold shownMilliseconds
  rw [hlimit]
  exact ⟨fun h => h ▸ Nat.mod_lt ms (by decide), Nat.mod_eq_of_lt⟩

end Factory

/-- There is a pool for the address that the settings have by default. -/
theorem made_of_usual_address {settings : Settings}
    (hurl : settings.databaseUrl = "postgresql://postgres:postgres@db:5432/yavin1_db")
    (hroom : settings.databaseMaxConnections = 10) :
    ∃ factory, (Factory.make "app" settings.database).1 = .made factory := by
  have hparsed : ∃ options,
      (Options.usual "app").parse "postgresql://postgres:postgres@db:5432/yavin1_db" =
          .ok options :=
    exists_of_isOk (by decide +kernel)
  apply (Factory.make_made_iff "app" settings.database).mpr
  constructor
  · change ∃ options, (Options.usual "app").parse settings.databaseUrl = .ok options
    rwa [hurl]
  · change settings.databaseMaxConnections.toNat ≠ 0
    rw [hroom]
    decide

/-- Under any settings, for any user. A pool that is made tells the time that the settings give an
attempt in milliseconds, less the multiples of 2 ^ 64: that time itself just when it is
18446744073709551 seconds at most. Where no pool is made, nothing is told. The settings may have any
number of seconds below 2 ^ 64: it is loaded from its variable, wherever the other settings can be
loaded. -/
theorem a_pool_tells_its_patience_as_far_as_64_bits_go (settings : Settings) (username : String) :
    let making := (Factory.make username settings.database).1
    let told := Factory.toldPatience (Factory.make username settings.database).2
    let seconds := settings.databaseAcquireTimeoutSecs.toNat
    ((∃ factory, making = .made factory) ↔
      (∃ options, (Options.usual username).parse settings.databaseUrl = .ok options) ∧
        settings.databaseMaxConnections ≠ 0) ∧
      ((∃ factory, making = .made factory) → told = [some (.number (1000 * seconds % 2 ^ 64))] ∧
        (told = [some (.number (1000 * seconds))] ↔ seconds ≤ 18446744073709551)) ∧
      ((¬∃ factory, making = .made factory) → told = []) ∧
      ∀ place shelf vars, Settings.RestLoads place shelf vars .databaseAcquireTimeoutSecs →
        ∃ loaded,
          Settings.ofShelf place shelf
            (vars.set "DATABASE_ACQUIRE_TIMEOUT_SECS" (toString seconds)) = .ok loaded ∧
          loaded.databaseAcquireTimeoutSecs = settings.databaseAcquireTimeoutSecs := by
  intro making told seconds
  refine ⟨?_, ?_, ?_, ?_⟩
  · have hroom : settings.database.maxConnections = 0 ↔ settings.databaseMaxConnections = 0 := by
      rw [← UInt32.toNat_inj]
      rfl
    rw [Ne, ← hroom]
    exact Factory.make_made_iff username settings.database
  · rintro ⟨factory, hmade⟩
    have hms : settings.database.acquireTimeoutMs = 1000 * seconds := Nat.mul_comm _ 1000
    have htold :
        told = [some (.number (Factory.shownMilliseconds settings.database.acquireTimeoutMs))] :=
      Factory.toldPatience_of_made hmade
    rw [hms] at htold
    refine ⟨htold, ?_⟩
    rw [htold]
    simp only [List.cons.injEq, Option.some.injEq, Logging.FieldValue.number.injEq, and_true]
    rw [Factory.shownMilliseconds_eq_self_iff]
    omega
  · exact Factory.toldPatience_of_not_made
  · intro place shelf vars hrest
    obtain ⟨loaded, hload, hseconds⟩ :=
      Settings.loads_numeral place shelf vars .databaseAcquireTimeoutSecs hrest
      settings.databaseAcquireTimeoutSecs.toNat_lt
    exact ⟨loaded, hload, UInt64.toNat_inj.mp hseconds⟩

/-- The longest time that is told as it is. -/
theorem a_pool_tells_the_longest_patience_that_fits : ∃ settings,
    Settings.ofShelf ⟨id, id⟩ (fun _ => none)
      [("DATABASE_ACQUIRE_TIMEOUT_SECS", "18446744073709551")] =
      .ok settings ∧
    (∃ factory, (Factory.make "app" settings.database).1 = .made factory) ∧
    Factory.toldPatience (Factory.make "app" settings.database).2 =
    [some (.number 18446744073709551000)] ∧
    Settings.RestLoads ⟨id, id⟩ (fun _ => none) [] .databaseAcquireTimeoutSecs ∧
    ∃ loaded, Settings.ofShelf ⟨id, id⟩ (fun _ => none)
      (Settings.Variables.set [] "DATABASE_ACQUIRE_TIMEOUT_SECS"
      "18446744073709551") = .ok loaded ∧ loaded.databaseAcquireTimeoutSecs =
        18446744073709551 := by
  obtain ⟨settings, hload, hurl, hroom, hseconds⟩ :
      ∃ settings, Settings.ofShelf ⟨id, id⟩ (fun _ => none)
      [("DATABASE_ACQUIRE_TIMEOUT_SECS", "18446744073709551")] = .ok settings ∧
      settings.databaseUrl = "postgresql://postgres:postgres@db:5432/yavin1_db" ∧
      settings.databaseMaxConnections = 10 ∧
      settings.databaseAcquireTimeoutSecs = 18446744073709551 :=
    ⟨_, rfl, rfl, rfl, rfl⟩
  have hmade := made_of_usual_address hurl hroom
  have hrest : Settings.RestLoads ⟨id, id⟩ (fun _ => none) [] .databaseAcquireTimeoutSecs :=
    ⟨.dev, [], [], ⟨rfl, rfl, rfl⟩, Settings.restReads_defaults _⟩
  obtain ⟨-, htells, -, haccepts⟩ := a_pool_tells_its_patience_as_far_as_64_bits_go settings "app"
  have htold := (htells hmade).1
  have haccepted := haccepts _ _ _ hrest
  rw [hseconds] at htold haccepted
  exact ⟨settings, hload, hmade, htold, hrest, haccepted⟩

/-- With settings that are accepted, more than 500 million years are told as less than half a
second. -/
theorem a_long_patience_is_told_as_a_short_one : ∃ settings,
    Settings.ofShelf ⟨id, id⟩ (fun _ => none)
      [("DATABASE_ACQUIRE_TIMEOUT_SECS", "18446744073709552")] =
      .ok settings ∧
    (∃ options, (Options.usual "app").parse settings.databaseUrl = .ok options) ∧
    settings.databaseMaxConnections ≠ 0 ∧
    1000 * settings.databaseAcquireTimeoutSecs.toNat = 18446744073709552000 ∧
    Factory.toldPatience (Factory.make "app" settings.database).2 = [some (.number 384)] := by
  obtain ⟨settings, hload, hurl, hroom, hseconds⟩ :
      ∃ settings, Settings.ofShelf ⟨id, id⟩ (fun _ => none)
      [("DATABASE_ACQUIRE_TIMEOUT_SECS", "18446744073709552")] = .ok settings ∧
      settings.databaseUrl = "postgresql://postgres:postgres@db:5432/yavin1_db" ∧
      settings.databaseMaxConnections = 10 ∧
      settings.databaseAcquireTimeoutSecs = 18446744073709552 :=
    ⟨_, rfl, rfl, rfl, rfl⟩
  obtain ⟨factory, hmade⟩ := made_of_usual_address hurl hroom
  have htold := Factory.toldPatience_of_made hmade
  have hshown : Factory.shownMilliseconds settings.database.acquireTimeoutMs = 384 := by
    change Factory.shownMilliseconds (settings.databaseAcquireTimeoutSecs.toNat * 1000) = 384
    rw [hseconds]
    rfl
  rw [hshown] at htold
  refine ⟨settings, hload, ?_, ?_, ?_, htold⟩
  · exact ((Factory.make_made_iff "app" settings.database).mp ⟨factory, hmade⟩).1
  · rw [hroom]
    decide
  · rw [hseconds]
    rfl

end Chassis.Session
