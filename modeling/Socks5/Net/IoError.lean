/-!
# `Socks5.Net.IoError`: failures of the streams and sockets below

An input or output error has a kind, which decides how the protocol
reports it, and a text. The text is the kind's own unless the cause
says more, as the operating system and the end of a stream do.
-/

set_option autoImplicit false

namespace Socks5.Net

/-- What went wrong in an operation on a stream, a socket or a file. -/
inductive IoKind where
  | notFound | permissionDenied | connectionRefused | connectionReset
  | hostUnreachable | networkUnreachable | connectionAborted | notConnected
  | addrInUse | addrNotAvailable | networkDown | brokenPipe | alreadyExists
  | wouldBlock | notADirectory | isADirectory | directoryNotEmpty
  | readOnlyFilesystem | staleNetworkFileHandle | invalidInput | invalidData
  | timedOut | writeZero | storageFull | notSeekable | quotaExceeded
  | fileTooLarge | resourceBusy | executableFileBusy | deadlock | tooManyLinks
  | argumentListTooLong | interrupted | unsupported | unexpectedEof
  | outOfMemory | other
  deriving Repr, DecidableEq, Inhabited

/-- The text of an error of which only the kind is known. -/
def IoKind.text : IoKind → String
  | .notFound => "entity not found"
  | .permissionDenied => "permission denied"
  | .connectionRefused => "connection refused"
  | .connectionReset => "connection reset"
  | .hostUnreachable => "host unreachable"
  | .networkUnreachable => "network unreachable"
  | .connectionAborted => "connection aborted"
  | .notConnected => "not connected"
  | .addrInUse => "address in use"
  | .addrNotAvailable => "address not available"
  | .networkDown => "network down"
  | .brokenPipe => "broken pipe"
  | .alreadyExists => "entity already exists"
  | .wouldBlock => "operation would block"
  | .notADirectory => "not a directory"
  | .isADirectory => "is a directory"
  | .directoryNotEmpty => "directory not empty"
  | .readOnlyFilesystem => "read-only filesystem or storage medium"
  | .staleNetworkFileHandle => "stale network file handle"
  | .invalidInput => "invalid input parameter"
  | .invalidData => "invalid data"
  | .timedOut => "timed out"
  | .writeZero => "write zero"
  | .storageFull => "no storage space"
  | .notSeekable => "seek on unseekable file"
  | .quotaExceeded => "quota exceeded"
  | .fileTooLarge => "file too large"
  | .resourceBusy => "resource busy"
  | .executableFileBusy => "executable file busy"
  | .deadlock => "deadlock"
  | .tooManyLinks => "too many links"
  | .argumentListTooLong => "argument list too long"
  | .interrupted => "operation interrupted"
  | .unsupported => "unsupported"
  | .unexpectedEof => "unexpected end of file"
  | .outOfMemory => "out of memory"
  | .other => "other error"

/-- The kind of an error that the operating system reports by number. -/
def IoKind.ofNumber (n : Nat) : IoKind :=
  match n with
  | 1 | 13 => .permissionDenied
  | 2 => .notFound
  | 4 => .interrupted
  | 11 => .wouldBlock
  | 12 => .outOfMemory
  | 22 => .invalidInput
  | 32 => .brokenPipe
  | 98 => .addrInUse
  | 99 => .addrNotAvailable
  | 100 => .networkDown
  | 101 => .networkUnreachable
  | 103 => .connectionAborted
  | 104 => .connectionReset
  | 107 => .notConnected
  | 110 => .timedOut
  | 111 => .connectionRefused
  | 113 => .hostUnreachable
  | _ => .other

/-- An input or output error. -/
structure IoError where
  kind : IoKind
  /-- A text more exact than the kind's own. -/
  detail : Option String := none
  deriving Repr, DecidableEq, Inhabited

/-- The error of which only the kind is known. -/
def IoKind.error (kind : IoKind) : IoError := { kind }

/-- The text of an error. -/
def IoError.message (e : IoError) : String := e.detail.getD e.kind.text

/-- The error that the operating system reports by number, in its words. -/
def IoError.ofNumber (n : Nat) (words : String) : IoError where
  kind := .ofNumber n
  detail := some s!"{words} (os error {n})"

/-- The stream ended inside a block of bytes. -/
def IoError.earlyEof : IoError := { kind := .unexpectedEof, detail := some "early eof" }

/-- An error of which only the kind is known speaks in the words of the kind. -/
@[simp] theorem IoKind.message_error (kind : IoKind) : kind.error.message = kind.text := rfl

end Socks5.Net
