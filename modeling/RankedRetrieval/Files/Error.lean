/-!
# File errors

## Main Definitions

* `FileError` — why a file cannot be opened, read or written
* `FileError.message` — the wording
-/

namespace RankedRetrieval

/-- Why a file cannot be opened, read or written. -/
inductive FileError where
  /-- The file, or a directory on the way to it, does not exist. -/
  | missing
  /-- A file stands where a directory has to be. -/
  | notDirectory
  /-- A directory stands where a file has to be. -/
  | isDirectory
  /-- A name on the way to the file, or the path as a whole, is too long. -/
  | nameTooLong
  /-- The path holds the character that no name can hold. -/
  | unusablePath
  /-- What the file lies on takes no more bytes. -/
  | noSpace
  /-- The bytes of the file are no text. -/
  | undecodable
  deriving DecidableEq

/-- The wording of an error. -/
def FileError.message : FileError → String
  | missing => "No such file or directory (os error 2)"
  | notDirectory => "Not a directory (os error 20)"
  | isDirectory => "Is a directory (os error 21)"
  | nameTooLong => "File name too long (os error 36)"
  | unusablePath => "file name contained an unexpected NUL byte"
  | noSpace => "No space left on device (os error 28)"
  | undecodable => "stream did not contain valid UTF-8"

end RankedRetrieval
