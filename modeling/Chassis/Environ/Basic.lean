-- The environment of a process: variables with names and values of the operating system.
import Chassis.Text.Native

namespace Chassis

open Text (Native)

/-- The variables of a process, each name once. -/
abbrev Environ := List (Native × Native)

namespace Environ

/-- The value of a variable, whatever its bytes. -/
def value? (environ : Environ) (name : String) : Option Native :=
  (environ.find? (·.1 == .text name)).map (·.2)

/-- The value of a variable that is a text. -/
def get? (environ : Environ) (name : String) : Option String :=
  (value? environ name).bind Native.text?

def put (environ : Environ) (name value : Native) : Environ :=
  environ.filter (·.1 ≠ name) ++ [(name, value)]

def drop (environ : Environ) (name : Native) : Environ := environ.filter (·.1 ≠ name)

/-- The variables as texts, unless one of them is none. -/
def texts? (environ : Environ) : Option (List (String × String)) :=
  environ.mapM fun (name, value) => do return (← name.text?, ← value.text?)

end Environ

end Chassis
