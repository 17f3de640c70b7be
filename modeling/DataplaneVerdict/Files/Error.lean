import DataplaneVerdict.Text.Quoted

/-!
# `Files.Error` — why a file operation fails

## Contents
- **Problems.** `FileProblem`, with its code, its wording and the notice that a host's tools give of it.
- **Errors.** A `FileError` is a problem met by an operation, usually on a path.
-/

namespace DataplaneVerdict

/-- What can go wrong with a path or a file. -/
inductive FileProblem where
  | alreadyThere
  | missing
  | notDirectory
  | isDirectory
  | inputOutput
  | tooManyLinks
  | nameTooLong
  | notPermitted
  | denied
  | argumentsTooLong
  /-- a path with a zero byte, which no operation takes -/
  | zeroByte
  | notEmpty
  | invalid
  | badDescriptor
  | noDevice
  | noSpace
  | cannotSeek
  | brokenPipe
  | interrupted
  | noProcess
  | noChild
  /-- a file that no interpreter is known for -/
  | notProgram
  | busy
  | outOfRange
deriving DecidableEq, Inhabited

namespace FileProblem

def code : FileProblem → String
  | alreadyThere => "EEXIST"
  | missing => "ENOENT"
  | notDirectory => "ENOTDIR"
  | isDirectory => "EISDIR"
  | inputOutput => "EIO"
  | tooManyLinks => "ELOOP"
  | nameTooLong => "ENAMETOOLONG"
  | notPermitted => "EPERM"
  | denied => "EACCES"
  | argumentsTooLong => "E2BIG"
  | zeroByte => "ERR_INVALID_ARG_VALUE"
  | notEmpty => "ENOTEMPTY"
  | invalid => "EINVAL"
  | badDescriptor => "EBADF"
  | noDevice => "ENXIO"
  | noSpace => "ENOSPC"
  | cannotSeek => "ESPIPE"
  | brokenPipe => "EPIPE"
  | interrupted => "EINTR"
  | noProcess => "ESRCH"
  | noChild => "ECHILD"
  | notProgram => "ENOEXEC"
  | busy => "EBUSY"
  | outOfRange => "ERANGE"

def wording : FileProblem → String
  | alreadyThere => "file already exists"
  | missing => "no such file or directory"
  | notDirectory => "not a directory"
  | isDirectory => "illegal operation on a directory"
  | inputOutput => "i/o error"
  | tooManyLinks => "too many symbolic links encountered"
  | nameTooLong => "name too long"
  | notPermitted => "operation not permitted"
  | denied => "permission denied"
  | argumentsTooLong => "argument list too long"
  | zeroByte => "must be a string, Uint8Array, or URL without null bytes"
  | notEmpty => "directory not empty"
  | invalid => "invalid argument"
  | badDescriptor => "bad file descriptor"
  | noDevice => "no such device or address"
  | noSpace => "no space left on device"
  | cannotSeek => "invalid seek"
  | brokenPipe => "broken pipe"
  | interrupted => "interrupted system call"
  | noProcess => "no such process"
  | noChild => "no child processes"
  | notProgram => "exec format error"
  | busy => "resource busy or locked"
  | outOfRange => "result too large"

/-- The notice that the tools of a host give of a problem. -/
def notice : FileProblem → String
  | alreadyThere => "File exists"
  | missing => "No such file or directory"
  | notDirectory => "Not a directory"
  | isDirectory => "Is a directory"
  | inputOutput => "Input/output error"
  | tooManyLinks => "Too many levels of symbolic links"
  | nameTooLong => "File name too long"
  | notPermitted => "Operation not permitted"
  | denied => "Permission denied"
  | argumentsTooLong => "Argument list too long"
  | zeroByte => "Invalid argument"
  | notEmpty => "Directory not empty"
  | invalid => "Invalid argument"
  | badDescriptor => "Bad file descriptor"
  | noDevice => "No such device or address"
  | noSpace => "No space left on device"
  | cannotSeek => "Illegal seek"
  | brokenPipe => "Broken pipe"
  | interrupted => "Interrupted system call"
  | noProcess => "No such process"
  | noChild => "No child processes"
  | notProgram => "Exec format error"
  | busy => "Device or resource busy"
  | outOfRange => "Numerical result out of range"

end FileProblem

inductive FileCall where
  | mkdir | open | read | write | scandir | stat | rm
deriving DecidableEq, Inhabited

def FileCall.name : FileCall → String
  | mkdir => "mkdir"
  | .open => "open"
  | read => "read"
  | write => "write"
  | scandir => "scandir"
  | stat => "stat"
  | rm => "rm"

/-- A problem met by an operation; reading an opened file names no path. -/
structure FileError where
  problem : FileProblem
  call : FileCall
  path : Option String
deriving DecidableEq, Inhabited

def FileError.message (e : FileError) : String :=
  if e.problem = .zeroByte then
    "The argument 'path' " ++ e.problem.wording ++ ". Received " ++ Quoted.shown (e.path.getD "")
  else
    e.problem.code ++ ": " ++ e.problem.wording ++ ", " ++ e.call.name ++
      (match e.path with
        | some p => " '" ++ p ++ "'"
        | none => "")

end DataplaneVerdict
