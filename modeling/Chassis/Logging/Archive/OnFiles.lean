-- Passes of the archiver over a tree of files.
import Chassis.Files.Tree
import Chassis.Logging.Archive.Pass

namespace Chassis.Logging.Archive

open Files (Node)

def actOn (directory : String) (tree : Node) : Act → Except Files.Fault Node
  | .openLog name => do
    let _ ← Files.read tree (Files.Path.join directory name)
    return tree
  | .create name => Files.write tree (Files.Path.join directory name) fun _ => .plain []
  | .fill source target => do
    let body ← Files.read tree (Files.Path.join directory source)
    Files.write tree (Files.Path.join directory target) fun _ => body.pack
  | .rename source target =>
    Files.rename tree (Files.Path.join directory source) (Files.Path.join directory target)
  | .remove name => Files.remove tree (Files.Path.join directory name)

def listOn (directory : String) (tree : Node) : Except Files.Fault (List Entry) := do
  let names ← Files.list tree directory
  return names.map fun name =>
    ⟨name, (name.text?.map fun text => Files.isFile tree (Files.Path.join directory text)).getD
      false⟩

/-- A directory of a tree of files; an act that fails changes nothing. -/
def onFiles (directory : String) : Handler Node where
  list := listOn directory
  act tree what :=
    match actOn directory tree what with
    | .ok tree => (tree, .ok ())
    | .error fault => (tree, .error fault)

/-- A pass on a day over a tree of files. -/
def Archiver.runOnFiles (a : Archiver) (today : Calendar.Date) (tree : Node) :
    Node × List Event × PassEnd :=
  a.runOn today (onFiles a.directory) tree

end Chassis.Logging.Archive
