-- The errors of the operating system that the library can meet.
namespace Worksheet

inductive Errno
  | notPermitted
  | noEntry
  | noProcess
  | interrupted
  | ioFailure
  | argumentsTooLong
  | notExecutable
  | badDescriptor
  | noChild
  | accessDenied
  | busy
  | alreadyExists
  | notDirectory
  | isDirectory
  | invalidArgument
  | fileTooLarge
  | nameTooLong
  | noSpace
  | brokenPipe
  | notEmpty
  | tooManyLinks
  deriving DecidableEq, Repr

namespace Errno

def code : Errno → Nat
  | notPermitted => 1
  | noEntry => 2
  | noProcess => 3
  | interrupted => 4
  | ioFailure => 5
  | argumentsTooLong => 7
  | notExecutable => 8
  | badDescriptor => 9
  | noChild => 10
  | accessDenied => 13
  | busy => 16
  | alreadyExists => 17
  | notDirectory => 20
  | isDirectory => 21
  | invalidArgument => 22
  | fileTooLarge => 27
  | noSpace => 28
  | brokenPipe => 32
  | nameTooLong => 36
  | notEmpty => 39
  | tooManyLinks => 40

def text : Errno → String
  | notPermitted => "Operation not permitted"
  | noEntry => "No such file or directory"
  | noProcess => "No such process"
  | interrupted => "Interrupted system call"
  | ioFailure => "Input/output error"
  | argumentsTooLong => "Argument list too long"
  | notExecutable => "Exec format error"
  | badDescriptor => "Bad file descriptor"
  | noChild => "No child processes"
  | accessDenied => "Permission denied"
  | busy => "Device or resource busy"
  | alreadyExists => "File exists"
  | notDirectory => "Not a directory"
  | isDirectory => "Is a directory"
  | invalidArgument => "Invalid argument"
  | fileTooLarge => "File too large"
  | nameTooLong => "File name too long"
  | noSpace => "No space left on device"
  | brokenPipe => "Broken pipe"
  | notEmpty => "Directory not empty"
  | tooManyLinks => "Too many levels of symbolic links"

/-- An error with its number. -/
def sentence (e : Errno) : String := "[Errno " ++ toString e.code ++ "] " ++ e.text

/-- The name of the class of failures that an error belongs to. -/
def className : Errno → String
  | noEntry => "FileNotFoundError"
  | alreadyExists => "FileExistsError"
  | isDirectory => "IsADirectoryError"
  | notDirectory => "NotADirectoryError"
  | accessDenied => "PermissionError"
  | notPermitted => "PermissionError"
  | noProcess => "ProcessLookupError"
  | interrupted => "InterruptedError"
  | noChild => "ChildProcessError"
  | brokenPipe => "BrokenPipeError"
  | _ => "OSError"

end Errno

end Worksheet
