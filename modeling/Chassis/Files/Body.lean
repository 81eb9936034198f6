-- What a file holds: bytes as they are, or the gzip of some bytes.
import Chassis.Gzip

namespace Chassis.Files

open Text (Bytes)

/-- The contents of a file. A gzip member is kept as what it holds. -/
inductive Body where
  | plain (bytes : Bytes)
  | packed (content : Bytes)
  deriving DecidableEq, Repr

namespace Body

/-- The contents as bytes. -/
def toBytes : Body → Bytes
  | plain bytes => bytes
  | packed content => Gzip.encode content

/-- The gzip of the contents. -/
def pack (body : Body) : Body := packed body.toBytes

/-- What a complete gzip member holds. -/
def unpack? : Body → Option Bytes
  | plain _ => none
  | packed content => some content

def ofText (s : String) : Body := plain (Text.utf8 s)

end Body

end Chassis.Files
