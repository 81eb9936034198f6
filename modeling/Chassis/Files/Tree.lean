-- A tree of files below the working directory: plain files, directories and
-- symbolic links, with the permissions of their owner.
import Chassis.Files.Body
import Chassis.Files.Fault
import Chassis.Files.Path

namespace Chassis.Files

/-- A file, a directory or a link. Modes are the usual nine permission bits. -/
inductive Node where
  | file (mode : Nat) (body : Body)
  | directory (mode : Nat) (entries : List (Name × Node))
  | link (target : String)
  deriving Repr

instance : Inhabited Node := ⟨.directory 0o755 []⟩

/-- The entries of a directory: distinct names. -/
abbrev Entries := List (Name × Node)

/-! ## Entries -/

namespace Entries

def get? (entries : Entries) (name : Name) : Option Node := (entries.find? (·.1 == name)).map (·.2)

def put (name : Name) (node : Node) : Entries → Entries
  | [] => [(name, node)]
  | (n, old) :: rest => if n = name then (name, node) :: rest else (n, old) :: put name node rest

def drop (entries : Entries) (name : Name) : Entries := entries.filter (·.1 ≠ name)

end Entries

/-! ## Permissions -/

/-- The owner may read. -/
def mayRead (mode : Nat) : Bool := mode.testBit 8

/-- The owner may write; in a directory, add and remove entries. -/
def mayWrite (mode : Nat) : Bool := mode.testBit 7

/-- The owner may reach the entries of a directory. -/
def mayEnter (mode : Nat) : Bool := mode.testBit 6

def newFileMode : Nat := 0o644

def newDirectoryMode : Nat := 0o755

/-! ## Places -/

namespace Node

/-- The node at a place, given by the names that lead to it. -/
def at? : List Name → Node → Option Node
  | [], node => some node
  | name :: rest, .directory _ entries => (Entries.get? entries name).bind (at? rest)
  | _ :: _, _ => none

def update (change : Node → Node) : List Name → Node → Node
  | [], node => change node
  | name :: rest, .directory mode entries =>
    match Entries.get? entries name with
    | some node => .directory mode (Entries.put name (update change rest node) entries)
    | none => .directory mode entries
  | _ :: _, node => node

def withEntry (node : Node) (name : Name) (entry : Node) : Node :=
  match node with
  | .directory mode entries => .directory mode (Entries.put name entry entries)
  | node => node

def withoutEntry (node : Node) (name : Name) : Node :=
  match node with
  | .directory mode entries => .directory mode (Entries.drop entries name)
  | node => node

/-- The node is a file, not a link to one. -/
def isFile : Node → Bool
  | .file .. => true
  | _ => false

/-- The node is a directory, not a link to one. -/
def isDirectory : Node → Bool
  | .directory .. => true
  | _ => false

end Node

/-- Where a path leads: a directory, a name in it, and what stands there. The top of
the tree has no name. -/
structure Spot where
  above : List Name
  name : Option Name
  node : Option Node

/-- The names that lead to the spot. -/
def Spot.place (spot : Spot) : List Name := spot.above ++ spot.name.toList

/-- The parts of a path as it is written, unless it is empty or starts at the root
of the machine, which lies outside the tree. -/
def partsOf? (path : String) : Option Path :=
  match path.toList with
  | [] => none
  | '/' :: _ => none
  | _ => some (Path.ofString path)

/-- How many bytes a name may have. -/
def nameLimit : Nat := 255

/-- How many bytes a path may have. -/
def pathLimit : Nat := 4095

/-- Follows a path from a directory. `links` bounds how many links are followed; the
last part is followed only if `follow` says so. -/
def walk (tree : Node) (follow : Bool) (links : Nat) (here : List Name) (path : Path) :
    Except Fault Spot :=
  match path with
  | [] => .ok ⟨here.dropLast, here.getLast?, tree.at? here⟩
  | .up :: rest =>
    if here.isEmpty then .error .notFound else walk tree follow links here.dropLast rest
  | .name name :: rest =>
    match tree.at? here with
    | some (.directory mode entries) =>
      if !mayEnter mode then .error .denied
      else if nameLimit < name.bytes.length then .error .nameTooLong
      else match Entries.get? entries name with
        | none => if rest.isEmpty then .ok ⟨here, some name, none⟩ else .error .notFound
        | some (.directory _ _) => walk tree follow links (here ++ [name]) rest
        | some (.file mode body) =>
          if rest.isEmpty then .ok ⟨here, some name, some (.file mode body)⟩
            else .error .notDirectory
        | some (.link target) =>
          if rest.isEmpty && !follow then .ok ⟨here, some name, some (.link target)⟩
          else match links, partsOf? target with
            | 0, _ => .error .tooManyLinks
            | _ + 1, none => .error .notFound
            | links + 1, some parts => walk tree follow links here (parts ++ rest)
    | _ => .error .notDirectory
termination_by (links, path.length)

/-- How many links are followed. -/
def linkLimit : Nat := 40

/-- The spot that the parts of a path lead to from the top. -/
def spotAt (tree : Node) (follow : Bool) (path : Path) : Except Fault Spot :=
  if path.any Path.partBroken then .error .zeroInName else walk tree follow linkLimit [] path

/-- The spot that a path leads to. -/
def spotOf (tree : Node) (follow : Bool) (path : String) : Except Fault Spot :=
  if pathLimit < path.utf8ByteSize then .error .nameTooLong
  else match partsOf? path with
    | none => .error .notFound
    | some parts => spotAt tree follow parts

/-! ## Looking -/

def look (tree : Node) (path : String) : Except Fault Node := do
  match (← spotOf tree true path).node with
  | some node => return node
  | none => throw .notFound

/-- The path leads to a file. -/
def isFile (tree : Node) (path : String) : Bool :=
  match look tree path with
  | .ok node => node.isFile
  | .error _ => false

def read (tree : Node) (path : String) : Except Fault Body := do
  match ← look tree path with
  | .file mode body => if mayRead mode then return body else throw .denied
  | .directory mode _ => throw (if mayRead mode then .isDirectory else .denied)
  | .link _ => throw .tooManyLinks

/-- The names in a directory. -/
def list (tree : Node) (path : String) : Except Fault (List Name) := do
  match ← look tree path with
  | .directory mode entries => if mayRead mode then return entries.map (·.1) else throw .denied
  | _ => throw .notDirectory

/-! ## Changing -/

/-- Whether entries may be added to and removed from the directory at a place. -/
def mayChange (tree : Node) (directory : List Name) : Bool :=
  match tree.at? directory with
  | some (.directory mode _) => mayWrite mode && mayEnter mode
  | _ => false

/-- Writes a file, made when it is missing; its new contents come from its old ones.
What lies outside the tree may not be written. -/
def write (tree : Node) (path : String) (contents : Body → Body) : Except Fault Node := do
  if path.toList.head? = some '/' then throw .denied
  let spot ← spotOf tree true path
  match spot.name, spot.node with
  | some name, none =>
    if mayChange tree spot.above then
      return tree.update (·.withEntry name (.file newFileMode (contents (.plain [])))) spot.above
    else throw .denied
  | some name, some (.file mode body) =>
    if mayWrite mode then
      return tree.update (·.withEntry name (.file mode (contents body))) spot.above
    else throw .denied
  | _, _ => throw .isDirectory

/-- Removes a file or a link. -/
def remove (tree : Node) (path : String) : Except Fault Node := do
  let spot ← spotOf tree false path
  match spot.name, spot.node with
  | some _, none => throw .notFound
  | some name, some node =>
    if !mayChange tree spot.above then throw .denied
    else if node.isDirectory then throw .isDirectory
    else return tree.update (·.withoutEntry name) spot.above
  | none, _ => throw .isDirectory

/-- Renames a file or a link; what had the new name before is replaced. -/
def rename (tree : Node) (source target : String) : Except Fault Node := do
  let origin ← spotOf tree false source
  let goal ← spotOf tree false target
  match origin.name, origin.node, goal.name with
  | some name, some node, some goalName =>
    if !(mayChange tree origin.above && mayChange tree goal.above) then throw .denied
    else if (goal.node.map Node.isDirectory).getD false then throw .isDirectory
    else
      return (tree.update (·.withoutEntry name) origin.above).update (·.withEntry goalName node)
        goal.above
  | _, none, _ => throw .notFound
  | _, _, _ => throw .isDirectory

/-- Makes a directory whose place is free. -/
def makeDirectory (tree : Node) (path : Path) : Except Fault Node := do
  let spot ← spotAt tree false path
  match spot.name, spot.node with
  | some name, none =>
    if mayChange tree spot.above then
      return tree.update (·.withEntry name (.directory newDirectoryMode [])) spot.above
    else throw .denied
  | _, _ => throw .taken

def leadsToDirectory (tree : Node) (path : Path) : Bool :=
  match spotAt tree true path with
  | .ok spot => (spot.node.map Node.isDirectory).getD false
  | .error _ => false

/-- Makes a directory and those above it, given by its parts from the last to the
first; what is there already is left. What has been made stays when the rest fails. -/
def makeDirectoriesUp (tree : Node) : List Part → Node × Except Fault Unit
  | [] => (tree, .ok ())
  | part :: above =>
    let path := (part :: above).reverse
    match makeDirectory tree path with
    | .ok tree => (tree, .ok ())
    | .error fault =>
      if fault = .notFound then
        match makeDirectoriesUp tree above with
        | (tree, .error fault) => (tree, .error fault)
        | (tree, .ok ()) =>
          match makeDirectory tree path with
          | .ok tree => (tree, .ok ())
          | .error fault => (tree, if leadsToDirectory tree path then .ok () else .error fault)
      else (tree, if leadsToDirectory tree path then .ok () else .error fault)

/-- Makes a directory and those above it; what is there already is left. -/
def makeDirectories (tree : Node) (path : String) : Node × Except Fault Unit :=
  if pathLimit < path.utf8ByteSize then (tree, .error .nameTooLong)
  else match path.toList with
    | [] => (tree, .ok ())
    | '/' :: _ => (tree, .error .denied)
    | _ => makeDirectoriesUp tree (Path.ofString path).reverse

/-- Gives the node at a path another mode. -/
def setMode (tree : Node) (path : String) (mode : Nat) : Node :=
  match spotOf tree true path with
  | .error _ => tree
  | .ok spot =>
    tree.update (fun node =>
      match node with
      | .file _ body => .file mode body
      | .directory _ entries => .directory mode entries
      | .link target => .link target) spot.place

end Chassis.Files
