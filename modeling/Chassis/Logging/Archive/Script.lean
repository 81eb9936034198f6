-- What a pass over the log directory does, step by step: it lists the directory, acts
-- on files, and says what happened. Who carries the steps out is left open, and so is
-- how often a step fails and whether all of them are reached.
import Chassis.Files.Fault
import Chassis.Files.Path
import Chassis.Logging.Event

namespace Chassis.Logging.Archive

/-! ## Scripts -/

/-- An act on files of the log directory. Filling a file packs into it what another holds. -/
inductive Act where
  | openLog (name : String)
  | create (name : String)
  | fill (source target : String)
  | rename (source target : String)
  | remove (name : String)
  deriving DecidableEq, Repr

/-- An entry of the log directory, and whether it leads to a file. -/
structure Entry where
  name : Files.Name
  isFile : Bool
  deriving DecidableEq, Repr

/-- Steps that depend on how the steps before them went. -/
inductive Script (α : Type) where
  | done (value : α)
  | note (event : Event) (rest : Script α)
  | list (next : Except Files.Fault (List Entry) → Script α)
  | act (what : Act) (next : Except Files.Fault Unit → Script α)

namespace Script

variable {α β : Type}

/-- One script, and another that depends on its value. -/
def bind : Script α → (α → Script β) → Script β
  | done value, f => f value
  | note event rest, f => note event (rest.bind f)
  | list next, f => list fun listing => (next listing).bind f
  | act what next, f => act what fun result => (next result).bind f

instance : Monad Script where
  pure := done
  bind := bind

def say (event : Event) : Script Unit := note event (done ())

/-- Acts until the first act that fails. -/
def acts : List Act → Script (Except Files.Fault Unit)
  | [] => done (.ok ())
  | what :: rest => act what fun result =>
    match result with
    | .ok () => acts rest
    | .error fault => done (.error fault)

end Script

/-! ## Carrying scripts out -/

/-- A place where scripts are carried out. -/
structure Handler (σ : Type) where
  list : σ → Except Files.Fault (List Entry)
  act : σ → Act → σ × Except Files.Fault Unit

namespace Script

variable {α σ : Type}

def run (handler : Handler σ) (state : σ) : Script α → σ × List Event × α
  | done value => (state, [], value)
  | note event rest =>
    let (state, events, value) := run handler state rest
    (state, event :: events, value)
  | list next => run handler state (next (handler.list state))
  | act what next =>
    let (state, result) := handler.act state what
    run handler state (next result)

/-- What is left when a script is cut off before an act, after so many acts. -/
def cutAfter (handler : Handler σ) (state : σ) : Nat → Script α → σ
  | _, done _ => state
  | count, note _ rest => cutAfter handler state count rest
  | count, list next => cutAfter handler state count (next (handler.list state))
  | 0, act _ _ => state
  | count + 1, act what next =>
    let (state, result) := handler.act state what
    cutAfter handler state count (next result)

end Script

end Chassis.Logging.Archive
