/-!
The ways in which an operation on files fails.
-/

set_option autoImplicit false
set_option relaxedAutoImplicit false

namespace FlashImage

/-- Why an operation on a path fails. -/
inductive FileFault
  | notFound
  | isDirectory
  | notDirectory
  | alreadyExists
  | notPermitted
  | nameTooLong
  | notExecutable
  | busy
  | tooManyLinks
  | nulInPath
  | notText
  /-- A cause that is known by its wording alone. -/
  | described (message : String)
  deriving DecidableEq, Repr

def FileFault.system? : FileFault → Option (Nat × String)
  | .notFound => some (2, "No such file or directory")
  | .notExecutable => some (8, "Exec format error")
  | .notPermitted => some (13, "Permission denied")
  | .busy => some (16, "Device or resource busy")
  | .alreadyExists => some (17, "File exists")
  | .notDirectory => some (20, "Not a directory")
  | .isDirectory => some (21, "Is a directory")
  | .nameTooLong => some (36, "File name too long")
  | .tooManyLinks => some (40, "Too many levels of symbolic links")
  | .nulInPath => none
  | .notText => none
  | .described _ => none

def FileFault.message (fault : FileFault) : String :=
  match fault.system?, fault with
  | some (number, wording), _ => wording ++ " (os error " ++ toString number ++ ")"
  | none, .nulInPath => "file name contained an unexpected NUL byte"
  | none, .described m => m
  | none, _ => "stream did not contain valid UTF-8"

def FileFault.name : FileFault → String
  | .notFound => "NotFound"
  | .isDirectory => "IsADirectory"
  | .notDirectory => "NotADirectory"
  | .alreadyExists => "AlreadyExists"
  | .notPermitted => "PermissionDenied"
  | .nameTooLong => "InvalidFilename"
  | .notExecutable => "Uncategorized"
  | .busy => "ResourceBusy"
  | .tooManyLinks => "FilesystemLoop"
  | .nulInPath => "InvalidInput"
  | .notText => "InvalidData"
  | .described _ => "Other"

end FlashImage
