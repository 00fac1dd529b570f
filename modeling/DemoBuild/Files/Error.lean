import DemoBuild.Number.Text

/-!
# Refusals of the operating system

The reasons why a file cannot be read or written or a program cannot be started, and their wording.
-/

namespace DemoBuild

/-- Why the operating system refused an operation. -/
inductive OsError where
  /-- Nothing exists at the path. -/
  | notFound
  /-- The arguments are too long. -/
  | argumentsTooLong
  /-- The operation is not permitted here. -/
  | permissionDenied
  /-- Something exists already. -/
  | fileExists
  /-- A component of the path that must be a directory is a file. -/
  | notADirectory
  /-- The path names a directory where a file is needed. -/
  | isADirectory
  /-- The path or one of its components is too long. -/
  | nameTooLong
  /-- Any other reason, by its number. -/
  | other (code : Int)
  deriving DecidableEq, Repr

namespace OsError

/-- The number the operating system gives the reason. -/
def code : OsError → Int
  | .notFound => 2
  | .argumentsTooLong => 7
  | .permissionDenied => 13
  | .fileExists => 17
  | .notADirectory => 20
  | .isADirectory => 21
  | .nameTooLong => 36
  | .other code => code

/-- The reason with a given number. -/
def ofCode (code : Int) : OsError :=
  match code with
  | 2 => .notFound
  | 7 => .argumentsTooLong
  | 13 => .permissionDenied
  | 17 => .fileExists
  | 20 => .notADirectory
  | 21 => .isADirectory
  | 36 => .nameTooLong
  | code => .other code

/-- The reasons in words: runs of consecutive numbers, each with its first number. -/
def descriptions : List (Int × List String) :=
  [
    (0, ["Success", "Operation not permitted", "No such file or directory", "No such process",
      "Interrupted system call", "Input/output error", "No such device or address",
      "Argument list too long", "Exec format error", "Bad file descriptor", "No child processes",
      "Resource temporarily unavailable", "Cannot allocate memory", "Permission denied",
      "Bad address", "Block device required", "Device or resource busy", "File exists",
      "Invalid cross-device link", "No such device", "Not a directory", "Is a directory",
      "Invalid argument", "Too many open files in system", "Too many open files",
      "Inappropriate ioctl for device", "Text file busy", "File too large",
      "No space left on device", "Illegal seek", "Read-only file system", "Too many links",
      "Broken pipe", "Numerical argument out of domain", "Numerical result out of range",
      "Resource deadlock avoided", "File name too long", "No locks available",
      "Function not implemented", "Directory not empty", "Too many levels of symbolic links"]),
    (42, ["No message of desired type", "Identifier removed", "Channel number out of range",
      "Level 2 not synchronized", "Level 3 halted", "Level 3 reset", "Link number out of range",
      "Protocol driver not attached", "No CSI structure available", "Level 2 halted",
      "Invalid exchange", "Invalid request descriptor", "Exchange full", "No anode",
      "Invalid request code", "Invalid slot"]),
    (59, ["Bad font file format", "Device not a stream", "No data available", "Timer expired",
      "Out of streams resources", "Machine is not on the network", "Package not installed",
      "Object is remote", "Link has been severed", "Advertise error", "Srmount error",
      "Communication error on send", "Protocol error", "Multihop attempted", "RFS specific error",
      "Bad message", "Value too large for defined data type", "Name not unique on network",
      "File descriptor in bad state", "Remote address changed",
      "Can not access a needed shared library", "Accessing a corrupted shared library",
      ".lib section in a.out corrupted", "Attempting to link in too many shared libraries",
      "Cannot exec a shared library directly", "Invalid or incomplete multibyte or wide character",
      "Interrupted system call should be restarted", "Streams pipe error", "Too many users",
      "Socket operation on non-socket", "Destination address required", "Message too long",
      "Protocol wrong type for socket", "Protocol not available", "Protocol not supported",
      "Socket type not supported", "Operation not supported", "Protocol family not supported",
      "Address family not supported by protocol", "Address already in use",
      "Cannot assign requested address", "Network is down", "Network is unreachable",
      "Network dropped connection on reset", "Software caused connection abort",
      "Connection reset by peer", "No buffer space available",
      "Transport endpoint is already connected", "Transport endpoint is not connected",
      "Cannot send after transport endpoint shutdown", "Too many references: cannot splice",
      "Connection timed out", "Connection refused", "Host is down", "No route to host",
      "Operation already in progress", "Operation now in progress", "Stale file handle",
      "Structure needs cleaning", "Not a XENIX named type file", "No XENIX semaphores available",
      "Is a named type file", "Remote I/O error", "Disk quota exceeded", "No medium found",
      "Wrong medium type", "Operation canceled", "Required key not available", "Key has expired",
      "Key has been revoked", "Key was rejected by service", "Owner died", "State not recoverable",
      "Operation not possible due to RF-kill", "Memory page has hardware error"])
  ]

/-- The reason in words. -/
def description (e : OsError) : String :=
  let words? := descriptions.findSome? fun (first, words) =>
    if first ≤ e.code then words[(e.code - first).toNat]? else none
  words?.getD ("Unknown error " ++ Number.intText e.code)

/-- The reason in words with its number. -/
def message (e : OsError) : String :=
  e.description ++ " (os error " ++ Number.intText e.code ++ ")"

end OsError

/-- Why a file could not be read or written. -/
inductive FileError where
  /-- The operating system refused. -/
  | os (reason : OsError)
  /-- The path contains a zero character, which no path of the operating system does. -/
  | zeroInPath
  /-- The file was read but is not text. -/
  | notText
  deriving DecidableEq, Repr

/-- The reason in words. -/
def FileError.message : FileError → String
  | .os reason => reason.message
  | .zeroInPath => "file name contained an unexpected NUL byte"
  | .notText => "stream did not contain valid UTF-8"

/-- Why a program could not be started. -/
inductive StartError where
  /-- The operating system refused. -/
  | os (reason : OsError)
  /-- The program, an argument or the directory contains a zero character. -/
  | zeroInText
  deriving DecidableEq, Repr

/-- The reason in words. -/
def StartError.message : StartError → String
  | .os reason => reason.message
  | .zeroInText => "nul byte found in provided data"

end DemoBuild
