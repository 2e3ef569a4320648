/-! Why a file operation fails. Most reasons have a number that the system gives them. -/
namespace ModelForge

inductive Fault where
  | notFound
  | permissionDenied
  | busy
  | alreadyExists
  | notADirectory
  | isADirectory
  | invalidArgument
  | noSpace
  | nameTooLong
  | notEmpty
  | tooManyLinks
  | badExecutable
  | tryAgain
  | nulInPath
  | nulInArgument
  | notUtf8
  | notRegularSource
deriving DecidableEq, Repr

namespace Fault

/-- What went wrong, in words. -/
def reason : Fault → String
  | notFound => "No such file or directory"
  | badExecutable => "Exec format error"
  | tryAgain => "Resource temporarily unavailable"
  | permissionDenied => "Permission denied"
  | busy => "Device or resource busy"
  | alreadyExists => "File exists"
  | notADirectory => "Not a directory"
  | isADirectory => "Is a directory"
  | invalidArgument => "Invalid argument"
  | noSpace => "No space left on device"
  | nameTooLong => "File name too long"
  | notEmpty => "Directory not empty"
  | tooManyLinks => "Too many levels of symbolic links"
  | nulInPath => "file name contained an unexpected NUL byte"
  | nulInArgument => "nul byte found in provided data"
  | notUtf8 => "stream did not contain valid UTF-8"
  | notRegularSource =>
    "the source path is neither a regular file nor a symlink to a regular file"

/-- The number of a reason that comes from the system. -/
def number? : Fault → Option Nat
  | notFound => some 2
  | badExecutable => some 8
  | tryAgain => some 11
  | permissionDenied => some 13
  | busy => some 16
  | alreadyExists => some 17
  | notADirectory => some 20
  | isADirectory => some 21
  | invalidArgument => some 22
  | noSpace => some 28
  | nameTooLong => some 36
  | notEmpty => some 39
  | tooManyLinks => some 40
  | nulInPath | nulInArgument | notUtf8 | notRegularSource => none

def message (fault : Fault) : String :=
  match fault.number? with
  | some number => s!"{fault.reason} (os error {number})"
  | none => fault.reason

end Fault

end ModelForge
