-- The origins that may call the service. They come as a list, as a JSON list in
-- a text, or as a text with commas; every form yields the trimmed entries that are not empty.
import Chassis.Document.Json
import Chassis.Text.Basic

namespace Chassis.Settings

open Document

/-- Why a value is no list of origins. -/
inductive OriginsFault where
  | neitherListNorText
  | json (fault : Json.Fault)
  deriving DecidableEq, Repr

def OriginsFault.message : OriginsFault → String
  | .neitherListNorText => "data did not match any variant of untagged enum OriginList"
  | .json fault => fault.message

/-- The trimmed entries that are not empty. -/
def tidy (entries : List String) : List String := (entries.map Text.trimmed).filter (· ≠ "")

/-- The origins of a text: a JSON list if its first character that is not blank is
a bracket, else the parts between commas. -/
def originsOfText (s : String) : Except Json.Fault (List String) :=
  match Text.trimStart s.toList with
  | '[' :: _ => (Json.readStrings s).map tidy
  | _ => .ok (tidy ((s.toList.splitOn ',').map String.ofList))

/-- The texts of a list that holds nothing else. -/
def textsOf? (items : List Value) : Option (List String) :=
  items.mapM fun item =>
    match item with
    | .scalar _ (.text s) => some s
    | _ => none

def asOrigins (value : Value) : Except OriginsFault (List String) :=
  match value with
  | .scalar _ (.text s) =>
    match originsOfText s with
    | .ok origins => .ok origins
    | .error fault => .error (.json fault)
  | .list _ items =>
    match textsOf? items with
    | some entries => .ok (tidy entries)
    | none => .error .neitherListNorText
  | _ => .error .neitherListNorText

end Chassis.Settings
