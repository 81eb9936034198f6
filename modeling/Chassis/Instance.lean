-- A running instance: its environment, the files of its working directory, and the settings that
-- it keeps once they are loaded.
import Chassis.Environ.Apply
import Chassis.Settings.Load
import Chassis.Settings.Memo

namespace Chassis

/-- What an instance can see and change. -/
structure Instance where
  environ : Environ
  files : Files.Node
  cell : Settings.Call.Cell Settings

namespace Instance

/-- Why an instance has no settings. -/
inductive Fault where
  | environFile (fault : Environ.Fault)
  | configuration (fault : Settings.Fault)
  | crashed
  deriving DecidableEq, Repr

/-- The fault of settings that cannot be loaded. -/
def Fault.settings : Settings.Fault → Fault
  | .crashed => .crashed
  | fault => .configuration fault

/-- The fault and its causes in words, from the outermost; nothing if the instance crashed. -/
def Fault.causes : Fault → List String
  | .environFile fault => s!"failed to read env file: {fault.message}" :: fault.causes
  | .configuration fault => fault.causes
  | .crashed => []

/-- The fault in words, unless the instance crashed. -/
def Fault.message? (fault : Fault) : Option String := fault.causes.head?

/-- The environment file that an instance loads by itself. -/
def environFileName : String := ".env"

/-- Loads an environment file into the environment of the instance. -/
def loadEnvironFile (inst : Instance) (path : String) : Instance × Environ.Loading :=
  let (environ, loading) := Environ.load inst.environ (Environ.contentsOf inst.files path)
  ({ inst with environ }, loading)

/-- The variables that count among those of an environment. All of them are read as
texts first, and one that is no text is fatal. -/
def variables? (environ : Environ) : Option Settings.Variables :=
  (Environ.texts? environ).map fun vars =>
    vars.filter fun (name, _) => Settings.variableNames.contains name

/-- Loads the settings: the environment file, then the documents of the working
directory, then the environment. -/
def load (inst : Instance) : Instance × Except Fault Settings :=
  match inst.loadEnvironFile environFileName with
  | (inst, .failed fault) => (inst, .error (.environFile fault))
  | (inst, .crashed) => (inst, .error .crashed)
  | (inst, _) =>
    match variables? inst.environ with
    | none => (inst, .error .crashed)
    | some vars => (inst, (Settings.load inst.files "." vars).mapError .settings)

/-- The settings of the instance, loaded on the first call that succeeds. -/
def settings (inst : Instance) : Instance × Except Fault Settings :=
  match Settings.Call.run load inst inst.cell with
  | (inst, cell, .finished result) => ({ inst with cell }, result)
  | (inst, cell, _) => ({ inst with cell }, .error .crashed)

end Instance

end Chassis
