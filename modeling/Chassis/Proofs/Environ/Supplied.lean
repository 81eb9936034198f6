-- Supplying an environment: what is set stays, what is missing is added at the end, each name once.
-- What a file assigns has the same names and the same fault in every environment, so that applying
-- it again finds everything set.
import Chassis.Proofs.Environ.Assigned

namespace Chassis.Environ

open Text (Native)

/-! ## Supplying -/

/-- Variables of texts. -/
def ofTexts (texts : Assignments) : Environ :=
  texts.map fun (name, value) => (.text name, .text value)

theorem supplyAll_cons (environ : Environ) (name value : String) (rest : Assignments) :
    supplyAll environ ((name, value) :: rest) = supplyAll (supply environ name value) rest := rfl

/-- Where everything is set, nothing is supplied. -/
theorem supplyAll_of_set {environ : Environ} {assignments : Assignments}
    (h : ∀ assignment ∈ assignments, (get? environ assignment.1).isSome = true) :
    supplyAll environ assignments = environ := by
  induction assignments with
  | nil => rfl
  | cons first rest ih =>
    obtain ⟨name, value⟩ := first
    have hfirst : supply environ name value = environ := by
      unfold supply
      rw [if_pos (h (name, value) List.mem_cons_self)]
    rw [supplyAll_cons, hfirst]
    exact ih fun other hother => h other (List.mem_cons_of_mem _ hother)

/-- A variable that is not assigned stays as it is, whatever it holds. -/
theorem value?_supplyAll {environ : Environ} {assignments : Assignments} {name : String}
    (h : name ∉ assignments.map (·.1)) :
    value? (supplyAll environ assignments) name = value? environ name := by
  induction assignments generalizing environ with
  | nil => rfl
  | cons first rest ih =>
    obtain ⟨other, value⟩ := first
    simp only [List.map_cons, List.mem_cons, not_or] at h
    rw [supplyAll_cons, ih h.2]
    unfold supply
    split
    · rfl
    · rw [value?_put, if_neg (Ne.symm h.1)]

theorem isSome_get?_supplyAll {environ : Environ} {assignments : Assignments}
    {assignment : String × String} (h : assignment ∈ assignments) :
    (get? (supplyAll environ assignments) assignment.1).isSome = true := by
  rw [get?_supplyAll, meaning?, Option.isSome_or, Bool.or_eq_true]
  exact Or.inr (List.lookup_isSome_iff.mpr ⟨assignment, h, beq_self_eq_true _⟩)

/-- An environment of texts has no value for a name that is not set in it. -/
theorem IsText.put {environ : Environ} (h : IsText environ) {name : String}
    (hunset : get? environ name = none) (value : Native) :
    put environ (.text name) value = environ ++ [(.text name, value)] := by
  have hother : ∀ entry ∈ environ, entry.1 ≠ .text name := by
    intro entry hentry hname
    have hfound : (environ.find? (·.1 == .text name)).isSome = true := by
      rw [List.find?_isSome]
      exact ⟨entry, hentry, by simp [hname]⟩
    obtain ⟨found, hfind⟩ := Option.isSome_iff_exists.mp hfound
    obtain ⟨other, content, rfl⟩ := h found (List.mem_of_find?_eq_some hfind)
    rw [get?, value?, hfind] at hunset
    cases hunset
  unfold Environ.put
  rw [List.filter_eq_self.mpr fun entry hentry => by simpa using hother entry hentry]

theorem IsText.supplyAll {environ : Environ} (h : IsText environ) (assignments : Assignments) :
    IsText (supplyAll environ assignments) := by
  induction assignments generalizing environ with
  | nil => exact h
  | cons first rest ih => exact ih (h.supply first.1 first.2)

/-- An environment of texts gets the first assignment of each name that it has not, and nothing
else. -/
theorem supplyAll_eq_append {environ : Environ} (htext : IsText environ)
    (assignments : Assignments) :
    ∃ added : Assignments, supplyAll environ assignments = environ ++ ofTexts added ∧
      (added.map (·.1)).Nodup ∧
      ∀ name value, (name, value) ∈ added ↔ get? environ name = none ∧
        assignments.lookup name = some value := by
  -- Along the assignments from the first to the last; what a name means by those before decides the
  -- last one.
  induction assignments using List.reverseRecOn with
  | nil => exact ⟨[], (List.append_nil _).symm, List.nodup_nil, by simp⟩
  | append_singleton before last ih =>
    obtain ⟨name, value⟩ := last
    obtain ⟨added, hadded, hnodup, hmem⟩ := ih
    have hmeans := get?_supplyAll environ before name
    have hlookup (other : String) : (before ++ [(name, value)]).lookup other =
        (before.lookup other).or (if name = other then some value else none) := by
      rw [List.lookup_append]
      by_cases h : name = other
      · simp [h]
      · have hne : (other == name) = false := beq_false_of_ne (Ne.symm h)
        simp [List.lookup_cons, h, hne]
    rw [supplyAll_concat]
    cases hget : get? (supplyAll environ before) name with
    | some old =>
      refine ⟨added, ?_, hnodup, fun other text => ?_⟩
      · rw [← hadded, supply, hget]
        rfl
      · rw [hmem, hlookup]
        refine and_congr_right fun hunset => ?_
        by_cases h : name = other
        · subst h
          rw [meaning?, hunset, Option.none_or, hget] at hmeans
          rw [← hmeans, Option.some_or]
        · rw [if_neg h, Option.or_none]
    | none =>
      obtain ⟨hunset, hbefore⟩ : get? environ name = none ∧ before.lookup name = none := by
        rw [hget, meaning?] at hmeans
        exact Option.or_eq_none_iff.mp hmeans.symm
      have hnot : name ∉ added.map (·.1) := by
        intro hin
        obtain ⟨⟨other, text⟩, hentry, rfl⟩ := List.mem_map.mp hin
        rw [hmem, hbefore] at hentry
        cases hentry.2
      refine ⟨added ++ [(name, value)], ?_, ?_, fun other text => ?_⟩
      · have hsupply : supply (supplyAll environ before) name value =
            put (supplyAll environ before) (.text name) (.text value) := by
          rw [supply, hget]
          rfl
        rw [hsupply, (htext.supplyAll before).put hget, hadded, ofTexts, ofTexts, List.map_append,
          List.append_assoc]
        rfl
      · rw [List.map_append, List.nodup_append]
        refine ⟨hnodup, List.nodup_singleton _, fun other hother last hlast heq => hnot ?_⟩
        rw [List.map_singleton, List.mem_singleton] at hlast
        rwa [heq, hlast] at hother
      · rw [List.mem_append, hmem, hlookup, List.mem_singleton, Prod.mk.injEq]
        by_cases h : name = other
        · subst h
          simp [hunset, hbefore, eq_comm]
        · simp [h, Ne.symm h]

/-! ## Lines in any environment -/

section

variable (lookup lookup' : String → String)

theorem readChar_alike (reading : Reading) (c : Char) :
    (readChar lookup reading c).map Prod.snd = (readChar lookup' reading c).map Prod.snd := by
  unfold readChar
  dsimp only
  cases reading.inside with
  | bare name =>
    dsimp only
    repeat' split
    all_goals rfl
  | braced name =>
    dsimp only
    split <;> rfl
  | text => rfl
  | strong => rfl
  | escape => rfl
  | ended => rfl

/-- How a value ends, or where it does not fit, is the same whatever is substituted in it. -/
theorem readValue_alike (reading : Reading) (index : Nat) (s : List Char) :
    (readValue lookup reading index s).map Prod.snd =
    (readValue lookup' reading index s).map Prod.snd := by
  induction s generalizing reading index with
  | nil => rfl
  | cons c rest ih =>
    have hchar := readChar_alike lookup lookup' reading c
    rw [readValue, readValue]
    split
    · rfl
    · rcases hfirst : readChar lookup reading c with _ | ⟨cs, next⟩
      · rw [hfirst] at hchar
        rw [Option.map_eq_none_iff.mp hchar.symm]
      · rw [hfirst] at hchar
        obtain ⟨⟨cs', next'⟩, hother, rfl⟩ := Option.map_eq_some_iff.mp hchar.symm
        have hrest := ih next' (index + 1)
        rw [hother]
        dsimp only
        generalize readValue lookup next' (index + 1) rest = first at hrest ⊢
        generalize readValue lookup' next' (index + 1) rest = second at hrest ⊢
        rcases first with fault | ⟨more, last⟩ <;> rcases second with fault' | ⟨more', last'⟩ <;>
          cases hrest <;> rfl

theorem valueOf_alike (s : List Char) :
    (valueOf lookup s).map (fun _ => ()) = (valueOf lookup' s).map (fun _ => ()) := by
  have hvalue := readValue_alike lookup lookup' ⟨.text, false⟩ 0 s
  unfold valueOf
  dsimp only
  generalize readValue lookup ⟨.text, false⟩ 0 s = first at hvalue ⊢
  generalize readValue lookup' ⟨.text, false⟩ 0 s = second at hvalue ⊢
  rcases first with index | ⟨cs, ⟨inside, weak⟩⟩ <;> rcases second with index' | ⟨cs', reading'⟩ <;>
    cases hvalue
  · rfl
  · cases weak <;> cases inside <;> rfl

/-- A line assigns the same name in every environment, or is bad in the same way. -/
theorem readLine_alike (line : String) :
    (readLine lookup line).map (Option.map Prod.fst) =
    (readLine lookup' line).map (Option.map Prod.fst) := by
  unfold readLine
  dsimp only
  split
  · rfl
  · rfl
  · split
    · rfl
    · rename_i name spot _
      split
      · rfl
      · rfl
      · have hvalue := valueOf_alike lookup lookup' spot.rest
        generalize valueOf lookup spot.rest = first at hvalue ⊢
        generalize valueOf lookup' spot.rest = second at hvalue ⊢
        rcases first with fault | value <;> rcases second with fault' | value' <;>
          cases hvalue <;> rfl

end

/-! ## Applying a file again -/

theorem mem_assigned (environ : Environ) (before : Assignments)
    (lines : List (Except Fault String)) :
    before ⊆ (assigned environ before lines).1 := by
  induction lines generalizing before with
  | nil => exact fun _ h => h
  | cons line rest ih =>
    rcases line with fault | line
    · exact fun _ h => h
    · rw [assigned]
      split
      · exact fun _ h => h
      · exact ih before
      · exact fun _ h => ih _ (List.mem_append_left _ h)

/-- Where all is set that a file assigns, in whatever environment, applying it changes nothing, and
it ends in the same way. -/
theorem applyLines_of_set {environ other : Environ} {before : Assignments} {given : Given}
    {lines : List (Except Fault String)}
    (hset : ∀ assignment ∈ (assigned other before lines).1,
      (get? environ assignment.1).isSome = true) :
    applyLines environ given lines = (environ, endingOf (assigned other before lines).2) := by
  induction lines generalizing before given with
  | nil => rfl
  | cons line rest ih =>
    rcases line with fault | line
    · rfl
    · rw [assigned] at hset ⊢
      rw [applyLines]
      have halike := readLine_alike (fun name => (meaning? other before name).getD "")
        (substitution environ given) line
      rcases hother : readLine (fun name => (meaning? other before name).getD "") line with fault |
        _ | ⟨name, value⟩
      · rcases hread : readLine (substitution environ given) line with fault' | entry
        · rw [hother, hread] at halike
          cases halike
          rfl
        · rw [hother, hread] at halike
          cases halike
      · rcases hread : readLine (substitution environ given) line with fault' | _ | entry
        · rw [hother, hread] at halike
          cases halike
        · rw [hother] at hset
          exact ih hset
        · rw [hother, hread] at halike
          cases halike
      · rcases hread : readLine (substitution environ given) line with fault' | _ | ⟨name', value'⟩
        · rw [hother, hread] at halike
          cases halike
        · rw [hother, hread] at halike
          cases halike
        · rw [hother, hread] at halike
          cases halike
          rw [hother] at hset
          have hname : (get? environ name).isSome = true :=
            hset (name, value.getD "") (mem_assigned other _ rest (by simp))
          have hkept : supply environ name (value'.getD "") = environ := by
            unfold supply
            rw [if_pos hname]
          have hnone : (get? environ name).isNone = false := by
            rw [← Option.not_isSome, hname]
            rfl
          simp only [hnone, Bool.false_and, Bool.false_eq_true, if_false, hkept]
          exact ih hset

/-- A file that was applied, to its end or to its first bad line, changes nothing when it is applied
again. -/
theorem load_load {environ : Environ} {contents : Except Files.Fault Text.Bytes}
    (hend : (load environ contents).2 ≠ .crashed) :
    load (load environ contents).1 contents = load environ contents := by
  rcases contents with fault | bytes
  · cases fault <;> rfl
  · rw [load_eq_supplyAll hend]
    have hagain : apply (supplyAll environ (assignedBy environ bytes).1) bytes =
        (supplyAll environ (assignedBy environ bytes).1, endingOf (assignedBy environ bytes).2) :=
      applyLines_of_set fun _ => isSome_get?_supplyAll
    dsimp only
    rw [load]
    rw [hagain]
    cases (assignedBy environ bytes).2 <;> rfl

/-- The first bad line of a file: what stands above it is applied, what stands below is not read. -/
theorem exists_bad_line {environ : Environ} {before after : Assignments} {fault : Fault}
    {lines : List (Except Fault String)} (h : assigned environ before lines = (after, some fault)) :
    ∃ above line below, lines = above ++ line :: below ∧
      assigned environ before above = (after, none) ∧
      assigned environ after [line] = (after, some fault) := by
  induction lines generalizing before with
  | nil => cases h
  | cons line rest ih =>
    rcases line with other | line
    · cases h
      exact ⟨[], _, rest, rfl, rfl, rfl⟩
    · rcases hread : readLine (fun name => (meaning? environ before name).getD "") line with other |
        _ | ⟨name, value⟩
      · rw [assigned, hread] at h
        cases h
        exact ⟨[], _, rest, rfl, rfl, by rw [assigned, hread]⟩
      · rw [assigned, hread] at h
        obtain ⟨above, bad, below, rfl, habove, hbad⟩ := ih h
        exact ⟨.ok line :: above, bad, below, rfl, by rw [assigned, hread]; exact habove, hbad⟩
      · rw [assigned, hread] at h
        obtain ⟨above, bad, below, rfl, habove, hbad⟩ := ih h
        exact ⟨.ok line :: above, bad, below, rfl, by rw [assigned, hread]; exact habove, hbad⟩

/-- A line that leaves nothing open is a line of its own. -/
theorem gather_line {line : String} (hcomment : isComment line.toList = false)
    (hscan : scan .plain line.toList = .inr .plain) (rest : List Text.Bytes) :
    gather .plain [] (Text.utf8 line :: rest) =
      .ok (String.ofList (withoutEnd line.toList)) :: gather .plain [] rest := by
  rw [gather, Text.decode?_utf8]
  dsimp only
  rw [List.nil_append, hcomment, hscan]
  rfl

end Chassis.Environ
