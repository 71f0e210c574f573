/-!
Errors of the operating system that files and sockets meet.
-/
namespace TokenGate.Os

inductive Error where
  | notFound
  | fileExists
  | notDirectory
  | isDirectory
  | invalidArgument
  | nameTooLong
  | addressInUse
  | addressNotAvailable
  | networkUnreachable
  | connectionRefused
  /-- A path has a byte that would end it early. -/
  | zeroByte
  /-- A file was to be read as text and is none. -/
  | invalidText
  deriving Repr, DecidableEq

namespace Error

/-- The number of an error; the last two are not the system's. -/
def number? : Error → Option Nat
  | notFound => some 2
  | fileExists => some 17
  | notDirectory => some 20
  | isDirectory => some 21
  | invalidArgument => some 22
  | nameTooLong => some 36
  | addressInUse => some 98
  | addressNotAvailable => some 99
  | networkUnreachable => some 101
  | connectionRefused => some 111
  | zeroByte | invalidText => none

def description : Error → String
  | notFound => "No such file or directory"
  | fileExists => "File exists"
  | notDirectory => "Not a directory"
  | isDirectory => "Is a directory"
  | invalidArgument => "Invalid argument"
  | nameTooLong => "File name too long"
  | addressInUse => "Address already in use"
  | addressNotAvailable => "Cannot assign requested address"
  | networkUnreachable => "Network is unreachable"
  | connectionRefused => "Connection refused"
  | zeroByte => "file name contained an unexpected NUL byte"
  | invalidText => "stream did not contain valid UTF-8"

def message (e : Error) : String :=
  match e.number? with
  | some n => s!"{e.description} (os error {n})"
  | none => e.description

end Error

end TokenGate.Os
