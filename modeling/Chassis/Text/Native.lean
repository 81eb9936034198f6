-- Texts from outside: names of files, names and values of variables, and values of headers.
-- Most of them are texts, but any bytes may stand there.
import Chassis.Text.Utf8

namespace Chassis.Text

/-- A text from outside; `raw` holds bytes that are no text. -/
inductive Native where
  | text (content : String)
  | raw (bytes : Bytes)
  deriving DecidableEq, Repr

namespace Native

def bytes : Native → Bytes
  | text content => utf8 content
  | raw bytes => bytes

def ofBytes (bytes : Bytes) : Native :=
  match decode? bytes with
  | some content => text content
  | none => raw bytes

/-- The text, unless the bytes are none. -/
def text? : Native → Option String
  | text content => some content
  | raw _ => none

/-- The text as it is shown, with broken sequences replaced. -/
def shown : Native → String
  | text content => content
  | raw bytes => decodeLossy bytes

end Native

end Chassis.Text
