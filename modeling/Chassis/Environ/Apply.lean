-- Applying an environment file to the environment of a process: what is set already
-- stays, and each line is applied before the next one is read.
import Chassis.Environ.Assignment
import Chassis.Environ.Basic
import Chassis.Files.Tree

namespace Chassis.Environ

open Text (Bytes)

/-- The values that the file itself has given so far, empty ones as none; the last one counts. -/
abbrev Given := List (String × Option String)

/-- The value of a substitution: that of the environment, else that of the file, else empty. -/
def substitution (environ : Environ) (given : Given) (name : String) : String :=
  match get? environ name with
  | some value => value
  | none => ((given.lookup name).join).getD ""

/-- How applying a file ends. A value with a NUL cannot be set at all. -/
inductive Ending where
  | complete
  | failed (fault : Fault)
  | crashed
  deriving DecidableEq, Repr

/-- Sets a variable unless it is a text already. -/
def supply (environ : Environ) (name value : String) : Environ :=
  if (get? environ name).isSome then environ else put environ (.text name) (.text value)

def applyLines (environ : Environ) (given : Given) : List (Except Fault String) → Environ × Ending
  | [] => (environ, .complete)
  | .error fault :: _ => (environ, .failed fault)
  | .ok line :: rest =>
    match readLine (substitution environ given) line with
    | .error fault => (environ, .failed fault)
    | .ok none => applyLines environ given rest
    | .ok (some (name, value)) =>
      let text := value.getD ""
      if (get? environ name).isNone && text.toList.contains '\x00' then (environ, .crashed)
      else applyLines (supply environ name text) ((name, value) :: given) rest

def apply (environ : Environ) (bytes : Bytes) : Environ × Ending :=
  applyLines environ [] (logicalLines bytes)

/-- What there is to read under the name of an environment file. -/
def contentsOf (tree : Files.Node) (path : String) : Except Files.Fault Bytes :=
  (Files.read tree path).map Files.Body.toBytes

/-- How loading an environment file ends: it may be absent. -/
inductive Loading where
  | read
  | absent
  | failed (fault : Fault)
  | crashed
  deriving DecidableEq, Repr

/-- Loads an environment file, which may be absent. -/
def load (environ : Environ) (contents : Except Files.Fault Bytes) : Environ × Loading :=
  match contents with
  | .error .notFound => (environ, .absent)
  | .error fault => (environ, .failed (.file fault))
  | .ok bytes =>
    match apply environ bytes with
    | (environ, .complete) => (environ, .read)
    | (environ, .failed fault) => (environ, .failed fault)
    | (environ, .crashed) => (environ, .crashed)

end Chassis.Environ
