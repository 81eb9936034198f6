-- The names of log files, of their archives, and of archives that are not complete yet.
-- All of them are made of a stem, a date and a tag.
import Chassis.Calendar.Date
import Chassis.Files.Path
import Chassis.Logging.Config

namespace Chassis.Logging

open Calendar (Date)

/-! ## Tags -/

def archiveTag : String := fileTag ++ ".gz"

/-- What the name of an archive ends in while it is being written. -/
def partialTag : String := archiveTag ++ ".partial"

/-! ## Names -/

def fileName (stem : String) (date : Date) : String :=
  if stem.isEmpty then s!"{date.text}.{fileTag}" else s!"{stem}.{date.text}.{fileTag}"

/-- The text after some text at the front. -/
def dropFront? : List Char → List Char → Option (List Char)
  | [], s => some s
  | c :: front, d :: s => if c = d then dropFront? front s else none
  | _ :: _, [] => none

/-- The text before some text at the end. -/
def dropBack? (back s : List Char) : Option (List Char) :=
  (dropFront? back.reverse s.reverse).map List.reverse

/-- The date in a name that has the given stem and tag. -/
def dateIn? (stem tag name : String) : Option Date := do
  let rest ← dropFront? (stem ++ ".").toList name.toList
  let middle ← dropBack? ("." ++ tag).toList rest
  Date.read? middle

def archiveName (log : String) : String := Files.Path.withExtension log archiveTag

/-- The name of the archive of a log file while it is being written. -/
def partialName (log : String) : String := Files.Path.withExtension log partialTag

end Chassis.Logging
