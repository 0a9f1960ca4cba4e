/-!
# Disk faults

Why a path cannot be read, listed or looked at.
-/

namespace Narrative

/-- Why the disk refuses a path. -/
inductive DiskFault where
  /-- Nothing is there. -/
  | missing
  /-- Something on the way is a file. -/
  | notDirectory
  | isDirectory
  | nameTooLong
  /-- The path holds the character NUL. -/
  | nulInPath
  /-- The file is not UTF-8. -/
  | notText
  | other (message : String)
  deriving DecidableEq

/-- The fault in words. -/
def DiskFault.message : DiskFault → String
  | .missing => "No such file or directory (os error 2)"
  | .notDirectory => "Not a directory (os error 20)"
  | .isDirectory => "Is a directory (os error 21)"
  | .nameTooLong => "File name too long (os error 36)"
  | .nulInPath => "file name contained an unexpected NUL byte"
  | .notText => "stream did not contain valid UTF-8"
  | .other message => message

end Narrative
