-- Computations that can fail: two in sequence both succeed or one of them fails, and a fault in
-- other words is a fault.
namespace Chassis

theorem ok_of_bind {ε α β : Type} {x : Except ε α} {f : α → Except ε β} {b : β} :
    (x >>= f) = .ok b ↔ ∃ a, x = .ok a ∧ f a = .ok b := by
  rcases x with e | a
  · constructor
    · intro h
      cases h
    · rintro ⟨a, h, -⟩
      cases h
  · constructor
    · exact fun h => ⟨a, rfl, h⟩
    · rintro ⟨_, ⟨⟩, h⟩
      exact h

theorem error_of_bind {ε α β : Type} {x : Except ε α} {f : α → Except ε β} :
    (∃ e, (x >>= f) = .error e) ↔ (∃ e, x = .error e) ∨ ∃ a, x = .ok a ∧ ∃ e, f a = .error e := by
  cases x with
  | error e => simp [bind, Except.bind]
  | ok a => simp [bind, Except.bind]

/-- A fault of two in sequence is one of the first, or one of the second. -/
theorem fault_of_bind {ε α β : Type} {x : Except ε α} {f : α → Except ε β} {e : ε}
    (h : (x >>= f) = .error e) :
    x = .error e ∨ ∃ a, x = .ok a ∧ f a = .error e := by
  cases x with
  | error other => exact Or.inl (congrArg Except.error (Except.error.inj h))
  | ok a => exact Or.inr ⟨a, rfl, h⟩

theorem ok_of_mapError {ε ε' α : Type} {f : ε → ε'} {x : Except ε α} {a : α} :
    x.mapError f = .ok a ↔ x = .ok a := by
  cases x with
  | error e => exact ⟨nofun, nofun⟩
  | ok b =>
    have hmap : (Except.ok b).mapError f = .ok b := rfl
    rw [hmap, Except.ok.injEq, Except.ok.injEq]

theorem error_of_mapError {ε ε' α : Type} {f : ε → ε'} {x : Except ε α} {e : ε'} :
    x.mapError f = .error e ↔ ∃ fault, x = .error fault ∧ f fault = e := by
  cases x with
  | error fault =>
    have hmap : (Except.error fault : Except ε α).mapError f = .error (f fault) := rfl
    simp [hmap]
  | ok a => exact ⟨nofun, nofun⟩

/-- The fault of checks one after another is one of theirs. -/
theorem fault_of_forM {ε α : Type} {check : α → Except ε Unit} {items : List α} {e : ε}
    (h : items.forM check = .error e) : ∃ item ∈ items, check item = .error e := by
  induction items with
  | nil => cases h
  | cons item rest ih =>
    change (check item >>= fun _ => rest.forM check) = .error e at h
    rcases fault_of_bind h with hitem | ⟨_, -, hrest⟩
    · exact ⟨item, List.mem_cons_self, hitem⟩
    · obtain ⟨other, hother, hfault⟩ := ih hrest
      exact ⟨other, List.mem_cons_of_mem _ hother, hfault⟩

theorem error_of_map {ε α β : Type} {f : α → β} {x : Except ε α} {e : ε} :
    x.map f = .error e ↔ x = .error e := by
  cases x with
  | error fault =>
    have hmap : (Except.error fault : Except ε α).map f = .error fault := rfl
    rw [hmap, Except.error.injEq, Except.error.injEq]
  | ok a => exact ⟨nofun, nofun⟩

theorem exists_of_isOk {ε α : Type} {x : Except ε α} (h : x.isOk = true) : ∃ a, x = .ok a := by
  cases x with
  | error e => cases h
  | ok a => exact ⟨a, rfl⟩

theorem toOption_eq_some {ε α : Type} {x : Except ε α} {a : α} : x.toOption = some a ↔
    x = .ok a := by
  cases x with
  | error e => exact ⟨nofun, nofun⟩
  | ok b =>
    have hsome : (Except.ok b : Except ε α).toOption = some b := rfl
    rw [hsome, Option.some.injEq, Except.ok.injEq]

theorem exists_of_toOption {ε α β : Type} {x : Except ε α} {f : α → β} {b : β}
    (h : x.toOption.map f = some b) : ∃ a, x = .ok a ∧ f a = b := by
  cases x with
  | error e => cases h
  | ok a =>
    cases h
    exact ⟨a, rfl, rfl⟩

end Chassis
