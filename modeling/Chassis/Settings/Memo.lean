-- Settings that are loaded once. A call looks into the cell, loads if the cell is
-- empty, and publishes what it has loaded; another call may have published meanwhile.
namespace Chassis.Settings

/-- A call for the settings: where it stands, and what it has in hand. -/
inductive Call (ε α : Type) where
  | started
  | loading
  | loaded (result : Except ε α)
  | finished (result : Except ε α)
  deriving Repr

namespace Call

variable {ε α σ : Type}

/-- What is kept for all calls: the value that was published first. -/
abbrev Cell (α : Type) := Option α

/-- The cell after an attempt to publish a value, and the value that it holds then. -/
def publish (cell : Cell α) (value : α) : Cell α × α :=
  match cell with
  | some old => (some old, old)
  | none => (some value, value)

/-- One step of a call: it looks, loads, or publishes. Loading reads and changes the
world around it. -/
def step (load : σ → σ × Except ε α) (world : σ) (cell : Cell α) (call : Call ε α) :
    σ × Cell α × Call ε α :=
  match call with
  | started =>
    match cell with
    | some value => (world, cell, finished (.ok value))
    | none => (world, cell, loading)
  | loading =>
    let (world, result) := load world
    (world, cell, loaded result)
  | loaded (.error fault) => (world, cell, finished (.error fault))
  | loaded (.ok value) =>
    let (cell, value) := publish cell value
    (world, cell, finished (.ok value))
  | finished result => (world, cell, finished result)

/-- A call from its start to its end, with no other call in between: three steps are enough. -/
def run (load : σ → σ × Except ε α) (world : σ) (cell : Cell α) : σ × Cell α × Call ε α :=
  let (world, cell, call) := step load world cell started
  let (world, cell, call) := step load world cell call
  step load world cell call

end Call

end Chassis.Settings
