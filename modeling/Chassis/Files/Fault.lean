-- Why an operation on files failed.
namespace Chassis.Files

inductive Fault where
  | notFound
  | ioError
  | denied
  | taken
  | notDirectory
  | isDirectory
  | nameTooLong
  | notEmpty
  | tooManyLinks
  | zeroInName
  deriving DecidableEq, Repr

namespace Fault

/-- The number of the fault; one that is found before any file is asked for has none. -/
def code? : Fault → Option Nat
  | notFound => some 2
  | ioError => some 5
  | denied => some 13
  | taken => some 17
  | notDirectory => some 20
  | isDirectory => some 21
  | nameTooLong => some 36
  | notEmpty => some 39
  | tooManyLinks => some 40
  | zeroInName => none

/-- The fault without its number. -/
def text : Fault → String
  | notFound => "No such file or directory"
  | ioError => "Input/output error"
  | denied => "Permission denied"
  | taken => "File exists"
  | notDirectory => "Not a directory"
  | isDirectory => "Is a directory"
  | nameTooLong => "File name too long"
  | notEmpty => "Directory not empty"
  | tooManyLinks => "Too many levels of symbolic links"
  | zeroInName => "file name contained an unexpected NUL byte"

def message (fault : Fault) : String :=
  match fault.code? with
  | some code => s!"{fault.text} (os error {code})"
  | none => fault.text

def kind : Fault → String
  | notFound => "NotFound"
  | ioError => "Uncategorized"
  | denied => "PermissionDenied"
  | taken => "AlreadyExists"
  | notDirectory => "NotADirectory"
  | isDirectory => "IsADirectory"
  | nameTooLong => "InvalidFilename"
  | notEmpty => "DirectoryNotEmpty"
  | tooManyLinks => "FilesystemLoop"
  | zeroInName => "InvalidInput"

end Fault

end Chassis.Files
