/-!
The errors of the operating system, with their number, symbol and text, and the faults that the
shell can meet when it asks the system for something.
-/
namespace PipeShell

/-- The reason the system gives when it refuses a request. -/
inductive OsError where
  | notPermitted
  | noSuchEntry
  | inputOutput
  | argumentsTooLong
  | execFormat
  | noChild
  | tryAgain
  | noMemory
  | accessDenied
  | busy
  | exists
  | notDirectory
  | isDirectory
  | invalidArgument
  | tooManyOpenInSystem
  | tooManyOpen
  | textBusy
  | noSpace
  | readOnly
  | brokenPipe
  | nameTooLong
  | directoryNotEmpty
  | tooManyLinks
  deriving DecidableEq, Repr

namespace OsError

def number : OsError → Nat
  | .notPermitted => 1
  | .noSuchEntry => 2
  | .inputOutput => 5
  | .argumentsTooLong => 7
  | .execFormat => 8
  | .noChild => 10
  | .tryAgain => 11
  | .noMemory => 12
  | .accessDenied => 13
  | .busy => 16
  | .exists => 17
  | .notDirectory => 20
  | .isDirectory => 21
  | .invalidArgument => 22
  | .tooManyOpenInSystem => 23
  | .tooManyOpen => 24
  | .textBusy => 26
  | .noSpace => 28
  | .readOnly => 30
  | .brokenPipe => 32
  | .nameTooLong => 36
  | .directoryNotEmpty => 39
  | .tooManyLinks => 40

def symbol : OsError → String
  | .notPermitted => "EPERM"
  | .noSuchEntry => "ENOENT"
  | .inputOutput => "EIO"
  | .argumentsTooLong => "E2BIG"
  | .execFormat => "ENOEXEC"
  | .noChild => "ECHILD"
  | .tryAgain => "EAGAIN"
  | .noMemory => "ENOMEM"
  | .accessDenied => "EACCES"
  | .busy => "EBUSY"
  | .exists => "EEXIST"
  | .notDirectory => "ENOTDIR"
  | .isDirectory => "EISDIR"
  | .invalidArgument => "EINVAL"
  | .tooManyOpenInSystem => "ENFILE"
  | .tooManyOpen => "EMFILE"
  | .textBusy => "ETXTBSY"
  | .noSpace => "ENOSPC"
  | .readOnly => "EROFS"
  | .brokenPipe => "EPIPE"
  | .nameTooLong => "ENAMETOOLONG"
  | .directoryNotEmpty => "ENOTEMPTY"
  | .tooManyLinks => "ELOOP"

def text : OsError → String
  | .notPermitted => "Operation not permitted"
  | .noSuchEntry => "No such file or directory"
  | .inputOutput => "Input/output error"
  | .argumentsTooLong => "Argument list too long"
  | .execFormat => "Exec format error"
  | .noChild => "No child processes"
  | .tryAgain => "Resource temporarily unavailable"
  | .noMemory => "Cannot allocate memory"
  | .accessDenied => "Permission denied"
  | .busy => "Device or resource busy"
  | .exists => "File exists"
  | .notDirectory => "Not a directory"
  | .isDirectory => "Is a directory"
  | .invalidArgument => "Invalid argument"
  | .tooManyOpenInSystem => "Too many open files in system"
  | .tooManyOpen => "Too many open files"
  | .textBusy => "Text file busy"
  | .noSpace => "No space left on device"
  | .readOnly => "Read-only file system"
  | .brokenPipe => "Broken pipe"
  | .nameTooLong => "File name too long"
  | .directoryNotEmpty => "Directory not empty"
  | .tooManyLinks => "Too many levels of symbolic links"

end OsError

inductive Fault where
  | os (cause : OsError)
  /-- A stream that takes no more bytes. -/
  | streamFull
  /-- Bytes that are no UTF-8 where text was expected. -/
  | notText
  | nulInPath
  /-- A NUL byte in the path, the name or an argument of a program to start. -/
  | nulInProgram
  | other (text : String)
  deriving DecidableEq, Repr

/-- The words of a fault; those of the system have the number of the error. -/
def Fault.message : Fault → String
  | .os cause => cause.text ++ " (os error " ++ toString cause.number ++ ")"
  | .streamFull => "output full"
  | .notText => "stream did not contain valid UTF-8"
  | .nulInPath => "file name contained an unexpected NUL byte"
  | .nulInProgram => "nul byte found in provided data"
  | .other text => text

end PipeShell
