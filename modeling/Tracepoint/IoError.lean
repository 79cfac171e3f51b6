/-!
# Input and output errors

Why looking at the file system failed: the kind of failure, and the wording in which it is
reported.
-/

set_option autoImplicit false

namespace Tracepoint

/-- The kinds of failure that are told apart. -/
inductive IoErrorKind where
  | notFound
  | permissionDenied
  | alreadyExists
  | notADirectory
  | isADirectory
  | directoryNotEmpty
  | resourceBusy
  | filesystemLoop
  | invalidFilename
  | invalidInput
  | invalidData
  | other
  deriving DecidableEq, Repr

namespace IoErrorKind

/-- The name of a kind. -/
def name : IoErrorKind → String
  | .notFound => "NotFound"
  | .permissionDenied => "PermissionDenied"
  | .alreadyExists => "AlreadyExists"
  | .notADirectory => "NotADirectory"
  | .isADirectory => "IsADirectory"
  | .directoryNotEmpty => "DirectoryNotEmpty"
  | .resourceBusy => "ResourceBusy"
  | .filesystemLoop => "FilesystemLoop"
  | .invalidFilename => "InvalidFilename"
  | .invalidInput => "InvalidInput"
  | .invalidData => "InvalidData"
  | .other => "Other"

/-- What a kind means, for failures that no system call reported. -/
def description : IoErrorKind → String
  | .notFound => "entity not found"
  | .permissionDenied => "permission denied"
  | .alreadyExists => "entity already exists"
  | .notADirectory => "not a directory"
  | .isADirectory => "is a directory"
  | .directoryNotEmpty => "directory not empty"
  | .resourceBusy => "resource busy"
  | .filesystemLoop => "filesystem loop or indirection limit (e.g. symlink loop)"
  | .invalidFilename => "invalid filename"
  | .invalidInput => "invalid input parameter"
  | .invalidData => "invalid data"
  | .other => "other error"

end IoErrorKind

/-- A failure with its wording. -/
structure IoError where
  kind : IoErrorKind
  text : String
  deriving DecidableEq, Repr

/-- Failures that a system call reports by a number. -/
inductive Errno where
  | noEntry
  | permission
  | busy
  | exists
  | notDirectory
  | isDirectory
  | invalid
  | nameTooLong
  | notEmpty
  | loop
  deriving DecidableEq, Repr

namespace Errno

/-- The number that a system call reports. -/
def number : Errno → Nat
  | .noEntry => 2
  | .permission => 13
  | .busy => 16
  | .exists => 17
  | .notDirectory => 20
  | .isDirectory => 21
  | .invalid => 22
  | .nameTooLong => 36
  | .notEmpty => 39
  | .loop => 40

/-- What the number means. -/
def description : Errno → String
  | .noEntry => "No such file or directory"
  | .permission => "Permission denied"
  | .busy => "Device or resource busy"
  | .exists => "File exists"
  | .notDirectory => "Not a directory"
  | .isDirectory => "Is a directory"
  | .invalid => "Invalid argument"
  | .nameTooLong => "File name too long"
  | .notEmpty => "Directory not empty"
  | .loop => "Too many levels of symbolic links"

/-- The kind of failure that the number stands for. -/
def kind : Errno → IoErrorKind
  | .noEntry => .notFound
  | .permission => .permissionDenied
  | .busy => .resourceBusy
  | .exists => .alreadyExists
  | .notDirectory => .notADirectory
  | .isDirectory => .isADirectory
  | .invalid => .invalidInput
  | .nameTooLong => .invalidFilename
  | .notEmpty => .directoryNotEmpty
  | .loop => .filesystemLoop

end Errno

namespace IoError

/-- The failure that a system call reported. -/
def ofErrno (code : Errno) : IoError :=
  ⟨code.kind, s!"{code.description} (os error {code.number})"⟩

/-- A failure of a kind, that no system call reported. -/
def ofKind (kind : IoErrorKind) : IoError :=
  ⟨kind, kind.description⟩

/-- A file that is read as text and holds something else. -/
def notText : IoError :=
  ⟨.invalidData, "stream did not contain valid UTF-8"⟩

/-- A file name that no system call can be given. -/
def nulInName : IoError :=
  ⟨.invalidInput, "file name contained an unexpected NUL byte"⟩

end IoError

end Tracepoint
