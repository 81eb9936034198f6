-- Zeros: a file without a zero gives no variable a value with one, unless the environment has one.
import Chassis.Environ.Apply
import Chassis.Proofs.Bind
import Chassis.Proofs.Text.Blank
import Chassis.Proofs.Text.Utf8

namespace Chassis.Environ

open Text (Bytes)

/-- A text that has no zero in it. -/
def NoZero (s : String) : Prop := '\x00' ∉ s.toList

/-! ## Lines -/

theorem mem_of_physicalLines {bytes line : Bytes} (hline : line ∈ physicalLines bytes) {b : UInt8}
    (hb : b ∈ line) :
    b ∈ bytes := by
  induction bytes generalizing line with
  | nil => cases hline
  | cons first rest ih =>
    rw [physicalLines] at hline
    split at hline
    · rcases List.mem_cons.mp hline with rfl | hlater
      · exact List.mem_singleton.mp hb ▸ List.mem_cons_self
      · exact List.mem_cons_of_mem _ (ih hlater hb)
    · split at hline
      · rw [List.mem_singleton.mp hline] at hb
        exact List.mem_singleton.mp hb ▸ List.mem_cons_self
      · rename_i front lines hlines
        rw [hlines] at ih
        rcases List.mem_cons.mp hline with rfl | hlater
        · rcases List.mem_cons.mp hb with rfl | hfront
          · exact List.mem_cons_self
          · exact List.mem_cons_of_mem _ (ih List.mem_cons_self hfront)
        · exact List.mem_cons_of_mem _ (ih (List.mem_cons_of_mem _ hlater) hb)

theorem scan_front {mode : Mode} {line kept : List Char} (h : scan mode line = .inl kept) :
    kept <+: line := by
  induction line generalizing mode kept with
  | nil => cases h
  | cons c rest ih =>
    rw [scan] at h
    split at h
    · cases h
      exact List.nil_prefix
    · split at h
      · rename_i hrest
        cases h
        exact (List.prefix_cons_inj c).mpr (ih hrest)
      · cases h

theorem mem_of_withoutEnd {line : List Char} {c : Char} (hc : c ∈ withoutEnd line) : c ∈ line := by
  unfold withoutEnd at hc
  rw [← List.mem_reverse]
  split at hc
  · rename_i hline
    rw [hline]
    simp_all
  · rename_i hline
    rw [hline]
    simp_all
  · exact List.mem_reverse.mpr hc

theorem noZero_of_gather {mode : Mode} {held : List Char} {physical : List Bytes}
    (hheld : '\x00' ∉ held) (hphysical : ∀ bytes ∈ physical, 0 ∉ bytes) {line : String}
    (hline : .ok line ∈ gather mode held physical) :
    NoZero line := by
  induction physical generalizing mode held with
  | nil =>
    rw [gather] at hline
    split at hline
    · cases hline
    · simp at hline
  | cons bytes rest ih =>
    have hrest : ∀ bytes ∈ rest, 0 ∉ bytes :=
      fun other hother => hphysical other (List.mem_cons_of_mem _ hother)
    rw [gather] at hline
    split at hline
    · simp at hline
    · rename_i text htext
      have hfirst : '\x00' ∉ text.toList :=
        Text.no_zero_of_decode? htext (hphysical bytes List.mem_cons_self)
      have hboth : '\x00' ∉ held ++ text.toList := by simp [hheld, hfirst]
      dsimp only at hline
      split at hline
      · rcases List.mem_cons.mp hline with hempty | hlater
        · cases hempty
          simp [NoZero]
        · exact ih (by simp) hrest hlater
      · split at hline
        · rename_i kept hkept
          rcases List.mem_cons.mp hline with hcut | hlater
          · cases hcut
            have hnot : '\x00' ∉ kept := fun hmem => hfirst ((scan_front hkept).mem hmem)
            simp [NoZero, hheld, hnot]
          · exact ih (by simp) hrest hlater
        · rcases List.mem_cons.mp hline with hwhole | hlater
          · cases hwhole
            unfold NoZero
            rw [String.toList_ofList]
            exact fun hmem => hboth (mem_of_withoutEnd hmem)
          · exact ih (by simp) hrest hlater
        · exact ih hboth hrest hline

/-- The lines of a file without a zero have none. -/
theorem noZero_of_logicalLines {bytes : Bytes} (hbytes : 0 ∉ bytes) {line : String}
    (hline : .ok line ∈ logicalLines bytes) : NoZero line := by
  refine noZero_of_gather (by simp) (fun physical hphysical hzero => hbytes ?_) hline
  have hmem : 0 ∈ withoutMark bytes := mem_of_physicalLines hphysical hzero
  unfold withoutMark at hmem
  split at hmem
  · exact List.mem_cons_of_mem _ (List.mem_cons_of_mem _ (List.mem_cons_of_mem _ hmem))
  · exact hmem

/-! ## Values -/

theorem readText_subset (weak : Bool) (c : Char) : (readText weak c).1 ⊆ [c] := by
  unfold readText
  repeat' split
  all_goals simp

section

variable {lookup : String → String} (hlookup : ∀ name, NoZero (lookup name))
include hlookup

theorem noZero_readChar {reading later : Reading} {c : Char} {cs : List Char} (hc : c ≠ '\x00')
    (h : readChar lookup reading c = some (cs, later)) : '\x00' ∉ cs := by
  have hsubstituted (name : List Char) : '\x00' ∉ substituted lookup name := hlookup _
  unfold readChar at h
  dsimp only at h
  split at h
  · split at h
    · cases h
      simp
    · cases h
  · obtain ⟨e, he, heq⟩ := Option.map_eq_some_iff.mp h
    cases heq
    have hne : e ≠ '\x00' := by
      unfold escapeOf? at he
      split at he
      · cases he
        decide
      · split at he
        · cases he
          exact hc
        · cases he
    simp [hne.symm]
  · split at h <;> cases h <;> simp [hc.symm]
  · split at h
    · cases h
      simp
    · split at h
      · cases h
        simp
      · split at h
        · cases h
          exact hsubstituted _
        · cases h
          simp [hsubstituted, hc.symm]
  · split at h
    · cases h
      exact hsubstituted _
    · cases h
      simp
  · have htext : (readText reading.weak c).1 = cs := congrArg Prod.fst (Option.some.inj h)
    intro hzero
    exact hc (List.mem_singleton.mp (readText_subset reading.weak c (htext ▸ hzero))).symm

theorem noZero_readValue {reading later : Reading} {index : Nat} {s cs : List Char}
    (hs : '\x00' ∉ s) (h : readValue lookup reading index s = .ok (cs, later)) : '\x00' ∉ cs := by
  induction s generalizing reading index cs with
  | nil =>
    cases h
    simp
  | cons c rest ih =>
    rw [List.mem_cons, not_or] at hs
    rw [readValue] at h
    split at h
    · cases h
      simp
    · split at h
      · cases h
      · rename_i first next hfirst
        split at h
        · cases h
        · rename_i more last hmore
          cases h
          rw [List.mem_append, not_or]
          exact ⟨noZero_readChar hlookup (Ne.symm hs.1) hfirst, ih hs.2 hmore⟩

theorem noZero_valueOf {s : List Char} {value : String} (hs : '\x00' ∉ s)
    (h : valueOf lookup s = .ok value) :
    NoZero value := by
  unfold valueOf at h
  dsimp only at h
  split at h
  · cases h
  · cases h
  · cases h
  · cases h
  · rename_i hread
    cases h
    have hname : ∀ name, '\x00' ∉ substituted lookup name := fun name => hlookup _
    simp [NoZero, noZero_readValue hlookup hs hread, hname]
  · rename_i hread
    cases h
    simp [NoZero, noZero_readValue hlookup hs hread]

end

/-! ## Assignments -/

theorem Spot.skip_back (spot : Spot) (p : Char → Bool) : (spot.skip p).rest <:+ spot.rest :=
  List.dropWhile_suffix p

theorem Spot.name_back {spot later : Spot} {name : String} (h : spot.name = .ok (name, later)) :
    later.rest <:+ spot.rest := by
  unfold Spot.name at h
  split at h
  · cases h
  · split at h
    · cases h
      exact spot.skip_back _
    · cases h

theorem Spot.equals_back {spot later : Spot} (h : spot.equals = .ok later) :
    later.rest <:+ spot.rest := by
  unfold Spot.equals at h
  split at h
  · rename_i hrest
    cases h
    rw [hrest]
    exact List.suffix_cons _ _
  · cases h

/-- What is assigned stands at the end of a line. -/
theorem Spot.assignment_back {spot later : Spot} {name : String}
    (h : spot.assignment = .ok (name, later)) :
    later.rest <:+ spot.rest := by
  unfold Spot.assignment at h
  obtain ⟨⟨first, afterName⟩, hfirst, h⟩ := ok_of_bind.mp h
  have hname : (afterName.skip Text.isBlank).rest <:+ spot.rest :=
    (afterName.skip_back _).trans (Spot.name_back hfirst)
  dsimp only at h
  split at h
  · rename_i afterSign hsign
    cases h
    exact ((afterSign.skip_back _).trans (Spot.equals_back hsign)).trans hname
  · split at h
    · obtain ⟨⟨second, afterSecond⟩, hsecond, h⟩ := ok_of_bind.mp h
      obtain ⟨afterSign, hsign, h⟩ := ok_of_bind.mp h
      cases h
      exact ((afterSign.skip_back _).trans (Spot.equals_back hsign)).trans
        ((afterSecond.skip_back _).trans ((Spot.name_back hsecond).trans hname))
    · cases h

theorem noZero_readLine {lookup : String → String} (hlookup : ∀ name, NoZero (lookup name))
    {line name : String} {value : Option String} (hline : NoZero line)
    (h : readLine lookup line = .ok (some (name, value))) :
    NoZero (value.getD "") := by
  have hstart : (Spot.skip ⟨0, Text.trimEnd line.toList⟩ Text.isBlank).rest ⊆ line.toList :=
    fun _ hc => (Text.trimEnd_front line.toList).subset ((Spot.skip_back _ _).subset hc)
  unfold readLine at h
  dsimp only at h
  split at h
  · cases h
  · cases h
  · split at h
    · cases h
    · rename_i spot hspot
      have hrest : '\x00' ∉ spot.rest :=
        fun hzero => hline (hstart ((Spot.assignment_back hspot).subset hzero))
      split at h
      · cases h
        simp [NoZero]
      · cases h
        simp [NoZero]
      · rcases hvalue : valueOf lookup spot.rest with fault | text
        · rw [hvalue] at h
          cases h
        · rw [hvalue] at h
          cases h
          exact noZero_valueOf hlookup hrest hvalue

end Chassis.Environ
