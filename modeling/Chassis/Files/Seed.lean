-- Putting files into a tree and taking them out by force, whoever may do what; and
-- seeing what is in it.
import Chassis.Files.Tree

namespace Chassis.Files

/-! ## Putting in and taking out -/

/-- A path without its last name, and that name. -/
def splitLast (path : String) : String × String :=
  let segments := Path.segments path.toList
  (String.ofList (segments.dropLast.intersperse ['/']).flatten,
    String.ofList (segments.getLast?.getD []))

/-- The place that a path leads to; the top if there is none. -/
def placeOf (tree : Node) (path : String) : List Name :=
  match spotOf tree true path with
  | .ok spot => spot.place
  | .error _ => []

/-- Makes a directory, if that is possible. -/
def seedDirectory (tree : Node) (path : String) : Node := (makeDirectories tree path).1

/-- Puts a node under a name of a directory, which is made if needed. A file that is
there already, perhaps behind a link, gets new contents and keeps its mode. -/
def seedAs (tree : Node) (directory : String) (name : Name) (node : Node) : Node :=
  let tree := seedDirectory tree directory
  let plainly := tree.update (·.withEntry name node) (placeOf tree directory)
  match node, name with
  | .file _ body, .text text =>
    (write tree (Path.join directory text) fun _ => body).toOption.getD plainly
  | .directory .., .text text => seedDirectory tree (Path.join directory text)
  | _, _ => plainly

/-- Takes out what a path leads to, links unfollowed. -/
def uproot (tree : Node) (path : String) : Node :=
  match spotOf tree false path with
  | .ok ⟨above, some name, some _⟩ => tree.update (·.withoutEntry name) above
  | _ => tree

/-! ## Seeing -/

/-- Names in the order of their bytes. -/
def nameLe (a b : Name) : Bool := Text.bytesLe a.bytes b.bytes

mutual

/-- Everything below a directory that its owner may see, with its path from there: depth
first, each directory before what is in it. -/
def below : Node → List (String × Node)
  | .directory mode entries =>
    if mayRead mode && mayEnter mode then
      ((entriesBelow entries).mergeSort fun a b => nameLe a.1 b.1).flatMap (·.2)
    else []
  | _ => []

/-- The entries of a directory, each with everything below it. -/
def entriesBelow : List (Name × Node) → List (Name × List (String × Node))
  | [] => []
  | (name, node) :: rest =>
    (name, (name.shown, node) :: (below node).map fun (path, inner) =>
      (name.shown ++ "/" ++ path, inner)) ::
      entriesBelow rest

end

end Chassis.Files
