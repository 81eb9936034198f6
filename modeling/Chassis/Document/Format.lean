-- The formats of documents, told by the ends of file names.
import Chassis.Document.Ini
import Chassis.Document.Json
import Chassis.Document.Json5
import Chassis.Document.Ron
import Chassis.Document.Toml.Basic
import Chassis.Document.Yaml.Basic

namespace Chassis.Document

inductive Format where
  | toml
  | json
  | yaml
  | ini
  | ron
  | json5
  deriving DecidableEq, Repr

namespace Format

/-- The formats and the ends of their files' names, in the order in which they are looked for. -/
def extensions : List (String × Format) := [
  ("toml", toml), ("json", json), ("yaml", yaml), ("yml", yaml), ("ini", ini), ("ron", ron),
  ("json5", json5)]

def read? (format : Format) (s : String) : Option Table :=
  match format with
  | toml => Toml.read? s
  | json =>
    match Json.read s with
    | .ok (.table entries) => some entries
    | _ => none
  | yaml => Yaml.read? s
  | ini => Ini.read? s
  | ron => Ron.read? s
  | json5 => Json5.read? s

end Format

end Chassis.Document
