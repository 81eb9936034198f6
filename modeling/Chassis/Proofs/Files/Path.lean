-- Names of entries, and the paths that they make with the path of their directory: such a
-- path has the parts of the directory's path and then the name.
import Chassis.Files.Tree

namespace Chassis.Files

/-! ## Names and paths as they are written -/

theorem segments_ne_nil (s : List Char) : Path.segments s ≠ [] := by
  cases s with
  | nil => simp [Path.segments]
  | cons c rest =>
    simp only [Path.segments]
    split <;> simp

theorem segments_slash (rest : List Char) :
    Path.segments ('/' :: rest) = [] :: Path.segments rest := by
  simp [Path.segments]

theorem segments_cons {c : Char} (hc : c ≠ '/') {rest part : List Char} {parts : List (List Char)}
    (hrest : Path.segments rest = part :: parts) :
    Path.segments (c :: rest) = (c :: part) :: parts := by
  simp only [Path.segments]
  split
  · rename_i hslash
    exact absurd rfl hc
  · rename_i hcons
    rw [hrest] at hcons
    cases hcons
    rfl
  · rename_i hnil
    exact absurd hnil (segments_ne_nil rest)

theorem segments_append (s t : List Char) :
    Path.segments (s ++ '/' :: t) = Path.segments s ++ Path.segments t := by
  induction s with
  | nil => simp [segments_slash, Path.segments]
  | cons c s ih =>
    by_cases hc : c = '/'
    · subst hc
      simp [segments_slash, ih]
    · obtain ⟨part, parts, hs⟩ := List.exists_cons_of_ne_nil (segments_ne_nil s)
      rw [List.cons_append, segments_cons hc (by rw [ih, hs]; rfl), segments_cons hc hs]
      rfl

theorem segments_of_no_slash {s : List Char} (hs : '/' ∉ s) : Path.segments s = [s] := by
  induction s with
  | nil => rfl
  | cons c s ih =>
    simp only [List.mem_cons, not_or] at hs
    exact segments_cons (Ne.symm hs.1) (ih hs.2)

/-- A text that is the name of an entry when it stands in a path. -/
structure IsName (name : String) : Prop where
  no_slash : '/' ∉ name.toList
  is_part : Path.part? name.toList = some (.name (.text name))

theorem IsName.head_ne_slash {name : String} (h : IsName name) : name.toList.head? ≠ some '/' :=
  fun hhead => h.no_slash (List.mem_of_head? hhead)

/-- What does not end in a point, and has no slash, is a name. -/
theorem isName_of_last {name : String} {c : Char} (hslash : '/' ∉ name.toList)
    (hlast : name.toList.getLast? = some c) (hc : c ≠ '.') : IsName name := by
  refine ⟨hslash, ?_⟩
  unfold Path.part?
  split
  · rename_i hnil; simp [hnil] at hlast
  · rename_i hpoint; rw [hpoint] at hlast; simp at hlast; exact absurd hlast.symm hc
  · rename_i hpoints; rw [hpoints] at hlast; simp at hlast; exact absurd hlast.symm hc
  · simp

theorem partsOf?_eq_some {path : String} {parts : Path} :
    partsOf? path = some parts ↔ path.toList ≠ [] ∧ path.toList.head? ≠ some '/' ∧
    Path.ofString path = parts := by
  unfold partsOf?
  split
  · rename_i hnil; simp [hnil]
  · rename_i hslash; simp [hslash]
  · rename_i hnil hslash
    constructor
    · intro h
      refine ⟨hnil, fun hhead => ?_, Option.some.inj h⟩
      obtain ⟨rest, hrest⟩ := List.head?_eq_some_iff.mp hhead
      exact hslash rest hrest
    · rintro ⟨-, -, h⟩
      rw [h]

theorem partsOf?_join {directory name : String} {parts : Path}
    (hdir : partsOf? directory = some parts) (hname : IsName name) :
    partsOf? (Path.join directory name) = some (parts ++ [.name (.text name)]) := by
  obtain ⟨hne, hhead, hparts⟩ := partsOf?_eq_some.mp hdir
  have hnonempty : directory.isEmpty = false := by
    rw [Bool.eq_false_iff]
    intro h
    exact hne (by simpa using h)
  have hlast : Path.segments name.toList = [name.toList] := segments_of_no_slash hname.no_slash
  have hhead' (t : List Char) : (directory.toList ++ t).head? = directory.toList.head? := by
    obtain ⟨c, cs, hcs⟩ := List.exists_cons_of_ne_nil hne
    simp [hcs]
  unfold Path.join
  rw [hnonempty]
  simp only [Bool.false_or, decide_eq_true_eq, if_neg hname.head_ne_slash]
  rw [partsOf?_eq_some]
  split
  · rename_i hslash
    obtain ⟨front, hfront⟩ := List.getLast?_eq_some_iff.mp hslash
    have hjoin : (directory ++ name).toList = front ++ '/' :: name.toList := by simp [hfront]
    refine ⟨by simp [hne], by rw [String.toList_append, hhead']; exact hhead, ?_⟩
    rw [← hparts]
    unfold Path.ofString
    rw [hjoin, hfront, segments_append, segments_append, hlast]
    have hempty : Path.part? [] = none := rfl
    simp [Path.segments, hname.is_part, hempty]
  · have hjoin : (directory ++ "/" ++ name).toList = directory.toList ++ '/' :: name.toList := by
      simp
    refine ⟨by rw [hjoin]; simp, by rw [hjoin, hhead']; exact hhead, ?_⟩
    rw [← hparts]
    unfold Path.ofString
    rw [hjoin, segments_append, hlast]
    simp [List.filterMap_append, hname.is_part]

/-! ## Endings of paths -/

/-- A path ends in the name that is joined last. -/
theorem join_back (directory name : String) :
    name.toList <:+ (Path.join directory name).toList := by
  unfold Path.join
  split
  · exact List.suffix_rfl
  · split
    · rw [String.toList_append]
      exact List.suffix_append _ _
    · rw [String.toList_append]
      exact List.suffix_append _ _

/-- What comes after the name comes after the path. -/
theorem join_append (directory : String) {name : String} (hname : name ≠ "") (ending : String) :
    Path.join directory (name ++ ending) = Path.join directory name ++ ending := by
  have hhead : (name ++ ending).toList.head? = name.toList.head? := by
    have hne : name.toList ≠ [] := by simpa using hname
    obtain ⟨c, cs, hcs⟩ := List.exists_cons_of_ne_nil hne
    simp [hcs]
  unfold Path.join
  rw [hhead]
  split
  · rfl
  · split <;> simp only [String.append_assoc]

end Chassis.Files
