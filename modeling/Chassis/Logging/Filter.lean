-- Filters: directives between commas. Of the directives that speak of an event the one
-- that says most decides, and without any the event does not pass.
import Chassis.Logging.Directive

namespace Chassis.Logging

/-- The directives of a filter, in order. -/
abbrev Filter := List Directive

namespace Filter

/-- Reads a filter; the first directive that cannot be read decides. -/
def parse (s : String) : Except Directive.Defect Filter :=
  ((s.toList.splitOn ',').filter fun part => !part.isEmpty).mapM fun part =>
    Directive.parse (String.ofList part)

def deciding? (filter : Filter) (event : Event) : Option Directive :=
  (filter.filter fun d => d.isStatic && d.covers event).foldl
    (fun best d =>
      match best with
      | some old => some (if d.outranks old then d else old)
      | none => some d)
    none

def admits (filter : Filter) (event : Event) : Bool :=
  match filter.deciding? event with
  | some d => d.ceiling.admits event.level
  | none => false

end Filter

end Chassis.Logging
