-- The names of a day's files. A log, its archive and its incomplete archive share a date,
-- each of them is found under one tag only, and no two logs share any of these names.
import Chassis.Logging.FileName
import Chassis.Proofs.Calendar.Texts

namespace Chassis.Logging

open Calendar (Date)

/-! ## Texts at the front and at the end -/

theorem dropFront?_eq_some {front s rest : List Char} :
    dropFront? front s = some rest ↔ s = front ++ rest := by
  induction front generalizing s with
  | nil => simp [dropFront?]
  | cons c front ih =>
    cases s with
    | nil => simp [dropFront?]
    | cons d s =>
      simp only [dropFront?, List.cons_append, List.cons.injEq]
      split
      · rename_i hcd
        rw [ih]
        simp [hcd]
      · rename_i hcd
        simp [Ne.symm hcd]

theorem dropBack?_eq_some {back s rest : List Char} :
    dropBack? back s = some rest ↔ s = rest ++ back := by
  unfold dropBack?
  rw [Option.map_eq_some_iff]
  constructor
  · rintro ⟨front, hfront, rfl⟩
    rw [dropFront?_eq_some] at hfront
    rw [← List.reverse_reverse s, hfront]
    simp
  · rintro rfl
    exact ⟨rest.reverse, by simp [dropFront?_eq_some], by simp⟩

/-- A name with a date is the stem, a point, a text that reads as the date, a point and the tag. -/
theorem dateIn?_eq_some {stem tag name : String} {date : Date} :
    dateIn? stem tag name = some date ↔
      ∃ middle, name.toList = (stem ++ ".").toList ++ (middle ++ ("." ++ tag).toList) ∧
        Date.read? middle = some date := by
  unfold dateIn?
  simp only [Option.bind_eq_bind, Option.bind_eq_some_iff, dropFront?_eq_some, dropBack?_eq_some]
  constructor
  · rintro ⟨_, hname, middle, rfl, hdate⟩
    exact ⟨middle, hname, hdate⟩
  · rintro ⟨middle, hname, hdate⟩
    exact ⟨_, hname, middle, rfl, hdate⟩

/-- Two texts that end before a point are the same text if the points are the same. -/
theorem append_point_inj {front front' back back' : List Char} (hfront : '.' ∉ front)
    (hfront' : '.' ∉ front') (h : front ++ '.' :: back = front' ++ '.' :: back') :
    front = front' ∧ back = back' := by
  have htake {front : List Char} (hfront : '.' ∉ front) (back : List Char) :
      (front ++ '.' :: back).takeWhile (· ≠ '.') = front := by
    have hall : ∀ c ∈ front, decide (c ≠ '.') = true := by
      intro c hc
      rw [decide_eq_true_eq]
      rintro rfl
      exact hfront hc
    rw [List.takeWhile_append_of_pos hall]
    simp
  have hsame : front = front' := by
    rw [← htake hfront back, h, htake hfront' back']
  subst hsame
  exact ⟨rfl, List.cons_inj_right '.' |>.mp (List.append_cancel_left h)⟩

/-- There is no point in a date, so a name with a date has one tag, whatever tags there are. -/
theorem dateIn?_unique {stem tag other name : String} {date found : Date}
    (h : dateIn? stem tag name = some date) (hother : dateIn? stem other name = some found) :
    other = tag ∧ found = date := by
  have hpoint {middle : List Char} {date : Date} (hread : Date.read? middle = some date) :
      '.' ∉ middle := by
    intro hmem
    exact absurd (Date.isDateChar_of_read? hread '.' hmem) (by decide)
  obtain ⟨middle, hname, hread⟩ := dateIn?_eq_some.mp h
  obtain ⟨middle', hname', hread'⟩ := dateIn?_eq_some.mp hother
  have hrest : middle' ++ '.' :: other.toList = middle ++ '.' :: tag.toList := by
    have hboth := List.append_cancel_left (hname'.symm.trans hname)
    simpa using hboth
  obtain ⟨rfl, htag⟩ := append_point_inj (hpoint hread') (hpoint hread) hrest
  rw [hread'] at hread
  exact ⟨String.toList_inj.mp htag, Option.some.inj hread⟩

theorem dateIn?_other {stem tag other name : String} {date : Date}
    (h : dateIn? stem tag name = some date) (hne : other ≠ tag) : dateIn? stem other name = none :=
  Option.eq_none_iff_forall_ne_some.mpr fun _ hother => hne (dateIn?_unique h hother).1

/-! ## Logs, archives and incomplete archives -/

/-- A name of a log of a stem: the name of some day. -/
def IsLog (stem name : String) : Prop := ∃ date, dateIn? stem fileTag name = some date

theorem withoutExtension_append {name extension : List Char} (hname : name ≠ [])
    (hext : '.' ∉ extension) :
    Files.Path.withoutExtension (name ++ '.' :: extension) = name := by
  have hdrop : (name ++ '.' :: extension).reverse.dropWhile (· ≠ '.') = '.' :: name.reverse := by
    rw [List.reverse_append, List.reverse_cons, List.append_assoc, List.dropWhile_append_of_pos]
    · simp
    · intro c hc
      have : c ≠ '.' := fun h => hext (by simpa [h] using hc)
      simpa using this
  unfold Files.Path.withoutExtension
  rw [hdrop]
  simp [hname]

/-- What ends in the tag of logs keeps it, and another extension comes after it. -/
theorem withExtension_tagged {path : String} {front : List Char} (hfront : front ≠ [])
    (h : path.toList = front ++ '.' :: fileTag.toList) (ending : String) :
    Files.Path.withExtension path (fileTag ++ ending) = path ++ ending := by
  unfold Files.Path.withExtension
  apply String.toList_inj.mp
  rw [h, withoutExtension_append hfront (by decide)]
  simp [h]

theorem exists_front_of_log {stem log : String} (hlog : IsLog stem log) :
    ∃ front, front ≠ [] ∧ log.toList = front ++ '.' :: fileTag.toList := by
  obtain ⟨date, hdate⟩ := hlog
  obtain ⟨middle, hname, -⟩ := dateIn?_eq_some.mp hdate
  refine ⟨(stem ++ ".").toList ++ middle, by simp, ?_⟩
  rw [hname]
  simp

/-- A log keeps its name, and another extension comes after it. -/
theorem withExtension_log {stem log : String} (hlog : IsLog stem log) (ending : String) :
    Files.Path.withExtension log (fileTag ++ ending) = log ++ ending := by
  obtain ⟨front, hfront, hname⟩ := exists_front_of_log hlog
  exact withExtension_tagged hfront hname ending

theorem archiveName_eq {stem log : String} (hlog : IsLog stem log) :
    archiveName log = log ++ ".gz" :=
  withExtension_log hlog ".gz"

theorem partialName_eq {stem log : String} (hlog : IsLog stem log) :
    partialName log = log ++ ".gz.partial" := by
  have htag : partialTag = fileTag ++ ".gz.partial" := by decide
  unfold partialName
  rw [htag, withExtension_log hlog]

/-- What is found under a tag that goes on after the tag of logs is a log with an ending. -/
theorem dateIn?_ending {stem ending name : String} {date : Date} :
    dateIn? stem (fileTag ++ ending) name = some date ↔
      ∃ log, name = log ++ ending ∧ dateIn? stem fileTag log = some date := by
  simp only [dateIn?_eq_some]
  constructor
  · rintro ⟨middle, hname, hdate⟩
    refine ⟨String.ofList ((stem ++ ".").toList ++ (middle ++ ("." ++ fileTag).toList)), ?_,
      middle, ?_, hdate⟩
    · apply String.toList_inj.mp
      rw [hname]
      simp
    · simp
  · rintro ⟨log, rfl, middle, hname, hdate⟩
    refine ⟨middle, ?_, hdate⟩
    rw [String.toList_append, hname]
    simp

theorem dateIn?_archiveTag {stem name : String} {date : Date} :
    dateIn? stem archiveTag name = some date ↔
      ∃ log, name = archiveName log ∧ dateIn? stem fileTag log = some date := by
  unfold archiveTag
  rw [dateIn?_ending]
  constructor
  · rintro ⟨log, rfl, hlog⟩
    exact ⟨log, (archiveName_eq ⟨date, hlog⟩).symm, hlog⟩
  · rintro ⟨log, rfl, hlog⟩
    exact ⟨log, archiveName_eq ⟨date, hlog⟩, hlog⟩

theorem dateIn?_partialTag {stem name : String} {date : Date} :
    dateIn? stem partialTag name = some date ↔
      ∃ log, name = partialName log ∧ dateIn? stem fileTag log = some date := by
  have htag : partialTag = fileTag ++ ".gz.partial" := by decide
  rw [htag, dateIn?_ending]
  constructor
  · rintro ⟨log, rfl, hlog⟩
    exact ⟨log, (partialName_eq ⟨date, hlog⟩).symm, hlog⟩
  · rintro ⟨log, rfl, hlog⟩
    exact ⟨log, partialName_eq ⟨date, hlog⟩, hlog⟩

/-! ## No name stands for two files -/

theorem last_of_log {stem log : String} (hlog : IsLog stem log) :
    log.toList.getLast? = some 'g' := by
  obtain ⟨front, -, hname⟩ := exists_front_of_log hlog
  rw [hname, List.getLast?_append]
  simp [fileTag]

theorem last_of_archive {stem log : String} (hlog : IsLog stem log) :
    (archiveName log).toList.getLast? = some 'z' := by
  simp [archiveName_eq hlog]

theorem last_of_partial {stem log : String} (hlog : IsLog stem log) :
    (partialName log).toList.getLast? = some 'l' := by
  simp [partialName_eq hlog]

section

variable {stem log other : String} (hlog : IsLog stem log) (hother : IsLog stem other)
include hlog hother

theorem log_ne_archive : log ≠ archiveName other := fun h => by
  have := last_of_log hlog
  rw [h, last_of_archive hother] at this
  simp at this

theorem log_ne_partial : log ≠ partialName other := fun h => by
  have := last_of_log hlog
  rw [h, last_of_partial hother] at this
  simp at this

theorem archive_ne_partial : archiveName log ≠ partialName other := fun h => by
  have := last_of_archive hlog
  rw [h, last_of_partial hother] at this
  simp at this

theorem archiveName_inj : archiveName log = archiveName other ↔ log = other := by
  rw [archiveName_eq hlog, archiveName_eq hother, String.append_left_inj]

theorem partialName_inj : partialName log = partialName other ↔ log = other := by
  rw [partialName_eq hlog, partialName_eq hother, String.append_left_inj]

end

section

variable {stem log : String} (hlog : IsLog stem log)
include hlog

theorem dateIn?_fileTag_archive : dateIn? stem fileTag (archiveName log) = none := by
  obtain ⟨date, hdate⟩ := hlog
  exact dateIn?_other (dateIn?_archiveTag.mpr ⟨log, rfl, hdate⟩) (by decide)

theorem dateIn?_fileTag_partial : dateIn? stem fileTag (partialName log) = none := by
  obtain ⟨date, hdate⟩ := hlog
  exact dateIn?_other (dateIn?_partialTag.mpr ⟨log, rfl, hdate⟩) (by decide)

theorem dateIn?_archiveTag_log : dateIn? stem archiveTag log = none := by
  obtain ⟨date, hdate⟩ := hlog
  exact dateIn?_other hdate (by decide)

theorem dateIn?_partialTag_log : dateIn? stem partialTag log = none := by
  obtain ⟨date, hdate⟩ := hlog
  exact dateIn?_other hdate (by decide)

theorem dateIn?_partialTag_archive : dateIn? stem partialTag (archiveName log) = none := by
  obtain ⟨date, hdate⟩ := hlog
  exact dateIn?_other (dateIn?_archiveTag.mpr ⟨log, rfl, hdate⟩) (by decide)

theorem dateIn?_archiveTag_partial : dateIn? stem archiveTag (partialName log) = none := by
  obtain ⟨date, hdate⟩ := hlog
  exact dateIn?_other (dateIn?_partialTag.mpr ⟨log, rfl, hdate⟩) (by decide)

end

end Chassis.Logging
