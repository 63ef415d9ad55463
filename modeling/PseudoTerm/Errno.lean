/-!
# System error numbers

An `Errno` is the machine word a failing system call leaves behind.  Its text is the
kernel's description of the number where the number has one, and `errno N` otherwise,
with `N` read as a signed word.  The table below is the Linux one (numbers 1 to 132; 41
and 58 are unassigned).
-/

namespace PseudoTerm

/-- A system error number, kept as the unsigned machine word the kernel reports. -/
structure Errno where
  code : Nat
  deriving DecidableEq, Repr, Inhabited

namespace Errno

/-- The size of a machine word: error numbers live below it. -/
def wordSize : Nat := Nat.pow 2 64

/-- Descriptions of the numbers 1 to 132, in order; an empty entry has no description. -/
def descriptions : List String :=
  [ "operation not permitted", "no such file or directory", "no such process",
    "interrupted system call", "input/output error", "no such device or address",
    "argument list too long", "exec format error", "bad file descriptor",
    "no child processes", "resource temporarily unavailable", "cannot allocate memory",
    "permission denied", "bad address", "block device required",
    "device or resource busy", "file exists", "invalid cross-device link",
    "no such device", "not a directory", "is a directory", "invalid argument",
    "too many open files in system", "too many open files",
    "inappropriate ioctl for device", "text file busy", "file too large",
    "no space left on device", "illegal seek", "read-only file system",
    "too many links", "broken pipe", "numerical argument out of domain",
    "numerical result out of range", "resource deadlock avoided", "file name too long",
    "no locks available", "function not implemented", "directory not empty",
    "too many levels of symbolic links", "", "no message of desired type",
    "identifier removed", "channel number out of range", "level 2 not synchronized",
    "level 3 halted", "level 3 reset", "link number out of range",
    "protocol driver not attached", "no CSI structure available", "level 2 halted",
    "invalid exchange", "invalid request descriptor", "exchange full", "no anode",
    "invalid request code", "invalid slot", "", "bad font file format",
    "device not a stream", "no data available", "timer expired",
    "out of streams resources", "machine is not on the network",
    "package not installed", "object is remote", "link has been severed",
    "advertise error", "srmount error", "communication error on send",
    "protocol error", "multihop attempted", "RFS specific error", "bad message",
    "value too large for defined data type", "name not unique on network",
    "file descriptor in bad state", "remote address changed",
    "can not access a needed shared library", "accessing a corrupted shared library",
    ".lib section in a.out corrupted", "attempting to link in too many shared libraries",
    "cannot exec a shared library directly",
    "invalid or incomplete multibyte or wide character",
    "interrupted system call should be restarted", "streams pipe error",
    "too many users", "socket operation on non-socket", "destination address required",
    "message too long", "protocol wrong type for socket", "protocol not available",
    "protocol not supported", "socket type not supported", "operation not supported",
    "protocol family not supported", "address family not supported by protocol",
    "address already in use", "cannot assign requested address", "network is down",
    "network is unreachable", "network dropped connection on reset",
    "software caused connection abort", "connection reset by peer",
    "no buffer space available", "transport endpoint is already connected",
    "transport endpoint is not connected", "cannot send after transport endpoint shutdown",
    "too many references: cannot splice", "connection timed out", "connection refused",
    "host is down", "no route to host", "operation already in progress",
    "operation now in progress", "stale file handle", "structure needs cleaning",
    "not a XENIX named type file", "no XENIX semaphores available",
    "is a named type file", "remote I/O error", "disk quota exceeded",
    "no medium found", "wrong medium type", "operation canceled",
    "required key not available", "key has expired", "key has been revoked",
    "key was rejected by service", "owner died", "state not recoverable",
    "operation not possible due to RF-kill" ]

/-- The description of a number, when the table has one. -/
def description? (code : Nat) : Option String :=
  if code = 0 then none
  else
    match descriptions[code - 1]? with
    | some "" => none
    | some text => some text
    | none => none

/-- The number read as a signed machine word, in decimal. -/
def signedText (code : Nat) : String :=
  let word := code % wordSize
  if word ≥ wordSize / 2 then "-" ++ toString (wordSize - word) else toString word

/-- The text of an error number: its description, or `errno N` for a number without one. -/
def text (e : Errno) : String :=
  match description? (e.code % wordSize) with
  | some description => description
  | none => "errno " ++ signedText e.code

/-- The text of an error number as a sentence, the way programs of the machine print it:
the description with a capital first letter, or `Unknown error N`. -/
def sentence (e : Errno) : String :=
  match description? (e.code % wordSize) with
  | some description => description.capitalize
  | none => "Unknown error " ++ signedText e.code

def eperm : Errno := ⟨1⟩
def enoent : Errno := ⟨2⟩
def esrch : Errno := ⟨3⟩
def eintr : Errno := ⟨4⟩
def eio : Errno := ⟨5⟩
def enxio : Errno := ⟨6⟩
def enoexec : Errno := ⟨8⟩
def ebadf : Errno := ⟨9⟩
def echild : Errno := ⟨10⟩
def eagain : Errno := ⟨11⟩
def eacces : Errno := ⟨13⟩
def eexist : Errno := ⟨17⟩
def enotdir : Errno := ⟨20⟩
def eisdir : Errno := ⟨21⟩
def einval : Errno := ⟨22⟩
def emfile : Errno := ⟨24⟩
def enotty : Errno := ⟨25⟩
def enospc : Errno := ⟨28⟩
def espipe : Errno := ⟨29⟩
def epipe : Errno := ⟨32⟩

end Errno

end PseudoTerm
