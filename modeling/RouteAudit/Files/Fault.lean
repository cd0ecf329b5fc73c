/-!
# Faults of file access

Why a path cannot be followed or a file cannot be read.  Every entry may be accessed: a file can be
read, and a directory can be searched and listed.  So no fault is about a permission, and no walk
leaves out a directory that it could not list.
-/

namespace RouteAudit

/-- Why a file cannot be reached or read. -/
inductive FileFault where
  | missing
  | notDirectory
  | isDirectory
  /-- More links than are followed. -/
  | loop
  | nameTooLong
  /-- The path holds a character that no path can hold. -/
  | invalidPath
  deriving DecidableEq, Repr

namespace FileFault

/-- The message of a fault. -/
def message : FileFault → String
  | .missing => "no such file or directory"
  | .notDirectory => "not a directory"
  | .isDirectory => "is a directory"
  | .loop => "too many levels of symbolic links"
  | .nameTooLong => "file name too long"
  | .invalidPath => "invalid path"

/-- Whether a path with this fault simply names nothing. -/
def isAbsence : FileFault → Bool
  | .nameTooLong => false
  | _ => true

end FileFault

end RouteAudit
