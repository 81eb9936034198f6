-- Names of files and the paths made of them.
import Chassis.Text.Native

namespace Chassis.Files

/-- A name within a directory. -/
abbrev Name := Text.Native

/-- A part of a path: the directory above, or a name in the directory reached. -/
inductive Part where
  | up
  | name (name : Name)
  deriving DecidableEq, Repr

/-- A path: its parts in their order. -/
abbrev Path := List Part

namespace Path

def segments : List Char → List (List Char)
  | [] => [[]]
  | c :: rest =>
    match c, segments rest with
    | '/', parts => [] :: parts
    | c, part :: parts => (c :: part) :: parts
    | c, [] => [[c]]

/-- The part of one segment; an empty one and a single point are none. -/
def part? (segment : List Char) : Option Part :=
  match segment with
  | [] => none
  | ['.'] => none
  | ['.', '.'] => some .up
  | cs => some (.name (.text (String.ofList cs)))

def ofString (s : String) : Path := (segments s.toList).filterMap part?

def partShown : Part → String
  | .up => ".."
  | .name name => name.shown

/-- The part is a name that no file can have: a zero is in it. -/
def partBroken : Part → Bool
  | .up => false
  | .name name => name.bytes.contains 0

/-- A path as it is written, without what does not matter. -/
def shown (path : Path) : String := "/".intercalate (path.map partShown)

/-- The path without the detours through a directory and back. -/
def normal (path : Path) : Path :=
  let step (done : Path) (part : Part) : Path :=
    match part, done with
    | .up, .name _ :: rest => rest
    | part, done => part :: done
  (path.foldl step []).reverse

/-- A path and a path below it, as they are joined when written. A path from the root
stands alone. -/
def join (directory name : String) : String :=
  if directory.isEmpty || name.toList.head? = some '/' then name
  else if directory.toList.getLast? = some '/' then directory ++ name
  else directory ++ "/" ++ name

/-- A name without its last extension. A point at the front begins none. -/
def withoutExtension (name : List Char) : List Char :=
  let stem := (name.reverse.dropWhile (· ≠ '.')).tail.reverse
  if stem.isEmpty then name else stem

/-- A name with another last extension. -/
def withExtension (name extension : String) : String :=
  String.ofList (withoutExtension name.toList) ++ "." ++ extension

end Path

end Chassis.Files
