-- Loading settings: the documents of a directory are found, read and laid over one
-- another, and the variables over them.
import Chassis.Document.Format
import Chassis.Files.Tree
import Chassis.Settings.Fields

namespace Chassis.Settings

open Document

/-! ## Documents of a directory -/

/-- The files of a directory by their names: the bytes of the one that has a name. -/
abbrev Shelf := String → Option Text.Bytes

/-- The name that the common document has before its ending. -/
def commonName : String := "appsettings"

/-- The name that the document of a deployment has before its ending. -/
def ownName (deployment : Deployment) : String := s!"{commonName}.{deployment.fileTag}"

/-- The document of a name: the first file that has one of the known endings. A file
of the bare name hides them all, and is of no known format itself. -/
def find? (shelf : Shelf) (name : String) : Option (String × Format × Text.Bytes) :=
  if (shelf name).isSome then none
  else Format.extensions.findSome? fun (ending, format) =>
    (shelf s!"{name}.{ending}").map fun bytes => (s!"{name}.{ending}", format, bytes)

/-- The text of a document: without a byte order mark, what is broken replaced. -/
def documentText (bytes : Text.Bytes) : String := Text.withoutMark (Text.decodeLossy bytes)

/-- How a directory is called in front of a file's name: where values come from, and
which document does not parse. -/
structure Place where
  origin : String → String
  file : String → String

/-- Every key of a document is a path that can be gone. -/
def isHeld (document : Table) : Bool := document.all fun entry => (KeyPath.ofKey entry.1).isHeld

/-- The entries of the document of a name, marked with where they come from. A document is laid
over those below it as soon as it is read, so a list that it wants too long is a crash
here, before the next document is looked for. -/
def readDocument (place : Place) (shelf : Shelf) (name : String) : Except Fault Table :=
  match find? shelf name with
  | none => .ok []
  | some (file, format, bytes) =>
    match format.read? (documentText bytes) with
    | none => .error (.unparsed (place.file file))
    | some entries =>
      if isHeld entries then .ok (Value.stampEntries (place.origin file) entries)
        else .error .crashed

/-- The settings of the documents of a directory and the variables, read in some order. The
deployment is settled before any document is read. -/
def ofShelfIn (order : List String) (place : Place) (shelf : Shelf) (vars : Variables) :
    Except Fault Settings := do
  let deployment ← deploymentOf vars
  let common ← readDocument place shelf commonName
  let own ← readDocument place shelf (ownName deployment)
  ofLayersIn order deployment common own vars

/-- The settings of the documents of a directory and the variables, read in their own order. -/
abbrev ofShelf (place : Place) (shelf : Shelf) (vars : Variables) : Except Fault Settings :=
  ofShelfIn [] place shelf vars

/-! ## In a tree of files -/

/-- The file of a name in a directory of a tree, if it can be read. -/
def shelfOf (tree : Files.Node) (directory : String) : Shelf := fun name =>
  let path := Files.Path.join directory name
  if Files.isFile tree path then
    match Files.read tree path with
    | .ok body => some body.toBytes
    | .error _ => none
  else none

/-- How a directory is called. Values come from the path as it is written, without
what does not matter; a document that does not parse is called by its shortest path. -/
def placeOf (directory : String) : Place :=
  let parts (name : String) : Files.Path := Files.Path.ofString directory ++ [.name (.text name)]
  { origin := fun name => Files.Path.shown (parts name)
    file := fun name => Files.Path.shown (Files.Path.normal (parts name)) }

/-- The settings of a directory in a tree of files and the variables, read in some order. -/
def loadIn (order : List String) (tree : Files.Node) (directory : String) (vars : Variables) :
    Except Fault Settings :=
  ofShelfIn order (placeOf directory) (shelfOf tree directory) vars

/-- The settings of a directory in a tree of files and the variables, read in their own order. -/
abbrev load (tree : Files.Node) (directory : String) (vars : Variables) : Except Fault Settings :=
  loadIn [] tree directory vars

end Chassis.Settings
