/-!
# File errors

Why an operation on files was refused: a numbered cause of the operating system, or a cause that is
stated in words.
-/

namespace BitcodeCache

/-- Why a file operation was refused. -/
inductive FileError where
  | system (code : Nat)
  | stated (text : String)
deriving DecidableEq, Repr, Inhabited

namespace FileError

/-- Nothing has the name. -/
def notFound : FileError := .system 2

/-- The resource is in use: the working directory or the root is to be replaced. -/
def busy : FileError := .system 16

/-- Something has the name already. -/
def alreadyExists : FileError := .system 17

/-- A directory is needed and something else has the name. -/
def notDirectory : FileError := .system 20

/-- A directory has the name and something else is needed. -/
def isDirectory : FileError := .system 21

/-- A directory is to be moved below itself. -/
def invalid : FileError := .system 22

/-- A name or a path has too many bytes. -/
def nameTooLong : FileError := .system 36

/-- A directory that is to be replaced has entries. -/
def notEmpty : FileError := .system 39

/-- The bytes of a file that is read as text are not valid UTF-8. -/
def notText : FileError := .stated "stream did not contain valid UTF-8"

/-- The operating system's words for its numbered causes. -/
def describe : Nat → String
  | 1 => "Operation not permitted"
  | 2 => "No such file or directory"
  | 5 => "Input/output error"
  | 12 => "Cannot allocate memory"
  | 13 => "Permission denied"
  | 16 => "Device or resource busy"
  | 17 => "File exists"
  | 18 => "Invalid cross-device link"
  | 20 => "Not a directory"
  | 21 => "Is a directory"
  | 22 => "Invalid argument"
  | 23 => "Too many open files in system"
  | 24 => "Too many open files"
  | 27 => "File too large"
  | 28 => "No space left on device"
  | 30 => "Read-only file system"
  | 36 => "File name too long"
  | 39 => "Directory not empty"
  | 40 => "Too many levels of symbolic links"
  | 122 => "Disk quota exceeded"
  | code => "Unknown error " ++ toString code

/-- The words for the cause, with its number if it has one. -/
def message : FileError → String
  | .system code => describe code ++ " (os error " ++ toString code ++ ")"
  | .stated text => text

end FileError

end BitcodeCache
