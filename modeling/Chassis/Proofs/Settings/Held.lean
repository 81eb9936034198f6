-- Documents whose keys go too far into a list. A list grows to the position that a key asks for,
-- and a load is a crash exactly when a document that it lays asks for more than a list can hold.
import Chassis.Proofs.Settings.Precedence

namespace Chassis.Settings

open Document

/-! ## Lists that grow -/

theorem length_adjustItem (change : Value → Value) (position : Int) (items : List Value) :
    (adjustItem change position items).length = max items.length (Step.item position).reach := by
  have hreach : (Step.item position).reach = if 0 ≤ position then position.toNat + 1
      else position.natAbs :=
    rfl
  rw [hreach]
  unfold adjustItem
  split
  · rename_i hwithin
    simp only [Bool.or_eq_true, decide_eq_true_eq] at hwithin
    rw [List.length_modify, List.length_append, List.length_replicate]
    split <;> omega
  · rename_i hbefore
    simp only [Bool.or_eq_true, decide_eq_true_eq, not_or] at hbefore
    rw [List.length_modify, List.length_append, List.length_replicate, if_neg hbefore.1]
    omega

/-- A list that can be held still can be after a change just when its position is within reach. -/
theorem adjustItem_held {items : List Value} (h : items.length ≤ itemLimit) (change : Value → Value)
    (position : Int) :
    (adjustItem change position items).length ≤ itemLimit ↔
    (Step.item position).reach ≤ itemLimit := by
  rw [length_adjustItem]
  omega

/-! ## Documents that ask for too much -/

/-- There is a document of a name, which parses, and one of its keys goes too far into a list. -/
def Unheld (shelf : Shelf) (name : String) : Prop :=
  ∃ file format bytes entries, find? shelf name = some (file, format, bytes) ∧
    format.read? (documentText bytes) = some entries ∧
    ∃ entry ∈ entries, ∃ step ∈ KeyPath.ofKey entry.1, itemLimit < step.reach

theorem isHeld_eq_false {document : Table} :
    isHeld document = false ↔ ∃ entry ∈ document, ∃ step ∈ KeyPath.ofKey entry.1,
    itemLimit < step.reach := by
  unfold isHeld KeyPath.isHeld
  simp only [List.all_eq_false, Bool.not_eq_true, decide_eq_false_iff_not, not_le]

section

variable {place : Place} {shelf : Shelf} {vars : Variables}

theorem readDocument_eq_crashed {name : String} :
    readDocument place shelf name = .error .crashed ↔ Unheld shelf name := by
  unfold readDocument Unheld
  rcases find? shelf name with - | ⟨file, format, bytes⟩
  · simp
  · dsimp only
    cases hread : format.read? (documentText bytes) with
    | none => simp [hread]
    | some entries =>
      have hheld := @isHeld_eq_false entries
      dsimp only
      split
      · rename_i htrue
        rw [htrue] at hheld
        simpa [hread] using hheld
      · rename_i hfalse
        rw [Bool.not_eq_true] at hfalse
        exact iff_of_true rfl ⟨file, format, bytes, entries, rfl, hread, hheld.mp hfalse⟩

/-- What is read from a table is never a crash. -/
theorem ofTable_ne_crashed {merged : Table} {order : List String}
    (hdeployment : ∃ deployment, deploymentField merged "app_env" = .ok deployment) :
    ofTableIn order merged ≠ .error .crashed := by
  intro h
  obtain ⟨deployment, hdeployment⟩ := hdeployment
  rcases fault_of_ofTable h with hfault | ⟨setting, hfault⟩
  · rw [hdeployment] at hfault
    cases hfault
  · have hkey := Form.key?_of_read hfault
    cases hkey

/-- A load is a crash when the common document asks for too much, or when that one can be read and
the document of the deployment does. -/
theorem ofShelf_eq_crashed {order : List String} :
    ofShelfIn order place shelf vars = .error .crashed ↔
    ∃ deployment, deploymentOf vars = .ok deployment ∧ (Unheld shelf commonName ∨
      (∃ common, readDocument place shelf commonName = .ok common) ∧
      Unheld shelf (ownName deployment)) := by
  simp only [← @readDocument_eq_crashed place]
  unfold ofShelfIn
  constructor
  · intro h
    rcases fault_of_bind h with hunknown | ⟨deployment, hdeployment, h⟩
    · exfalso
      unfold deploymentOf at hunknown
      split at hunknown
      · cases hunknown
      · obtain ⟨_, -, hfault⟩ := error_of_mapError.mp hunknown
        cases hfault
    refine ⟨deployment, hdeployment, ?_⟩
    rcases fault_of_bind h with hcommon | ⟨common, hcommon, h⟩
    · exact Or.inl hcommon
    rcases fault_of_bind h with hown | ⟨own, -, h⟩
    · exact Or.inr ⟨⟨common, hcommon⟩, hown⟩
    · exact absurd h (ofTable_ne_crashed ⟨deployment, deploymentField_mergedLayers _ _⟩)
  · rintro ⟨deployment, hdeployment, hcommon | ⟨⟨common, hcommon⟩, hown⟩⟩
    · rw [hdeployment]
      change (readDocument place shelf commonName >>= _) = _
      rw [hcommon]
      rfl
    · rw [hdeployment]
      change (readDocument place shelf commonName >>= _) = _
      rw [hcommon]
      change (readDocument place shelf (ownName deployment) >>= _) = _
      rw [hown]
      rfl

end

end Chassis.Settings
