/-
Failures of files and of sinks.

What a program shows of such a failure is a text that the surrounding system chooses.
Where the text is not known, the kind of the failure stands between angle brackets.
-/
namespace Folio

/-- Why an operation on files or on a sink failed. -/
inductive IoFault where
  | notFound
  | notADirectory
  | isADirectory
  | invalidData
  | invalidInput
  | invalidFilename
  | permissionDenied
  | filesystemLoop
  | brokenPipe
  | timedOut
  | writeZero
  | other
  deriving DecidableEq, Inhabited, Repr

def IoFault.name : IoFault → String
  | .notFound => "NotFound"
  | .notADirectory => "NotADirectory"
  | .isADirectory => "IsADirectory"
  | .invalidData => "InvalidData"
  | .invalidInput => "InvalidInput"
  | .invalidFilename => "InvalidFilename"
  | .permissionDenied => "PermissionDenied"
  | .filesystemLoop => "FilesystemLoop"
  | .brokenPipe => "BrokenPipe"
  | .timedOut => "TimedOut"
  | .writeZero => "WriteZero"
  | .other => "Other"

/-- A failure together with the text that describes it. -/
structure IoError where
  fault : IoFault
  text : String := "<" ++ fault.name ++ ">"
  deriving DecidableEq, Inhabited, Repr

end Folio
