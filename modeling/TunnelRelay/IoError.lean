import TunnelRelay.Text.Decimal

/-! Failures of the operating system's calls. An error is an error number, a
bare kind, or a kind with a text of its own; `message` shows the number's
description, the kind's description, or the text. -/
namespace TunnelRelay

inductive IoKind where
  | notFound | permissionDenied | connectionRefused | connectionReset | connectionAborted
  | notConnected | addrInUse | addrNotAvailable | brokenPipe | alreadyExists | wouldBlock
  | invalidInput | invalidData | timedOut | writeZero | interrupted | unsupported
  | unexpectedEof | outOfMemory | other | uncategorized
  deriving DecidableEq, Repr

inductive IoError where
  | os (errno : Nat)
  | plain (kind : IoKind)
  | described (kind : IoKind) (text : String)
  deriving DecidableEq, Repr

def IoKind.description : IoKind → String
  | notFound => "entity not found"
  | permissionDenied => "permission denied"
  | connectionRefused => "connection refused"
  | connectionReset => "connection reset"
  | connectionAborted => "connection aborted"
  | notConnected => "not connected"
  | addrInUse => "address in use"
  | addrNotAvailable => "address not available"
  | brokenPipe => "broken pipe"
  | alreadyExists => "entity already exists"
  | wouldBlock => "operation would block"
  | invalidInput => "invalid input parameter"
  | invalidData => "invalid data"
  | timedOut => "timed out"
  | writeZero => "write zero"
  | interrupted => "operation interrupted"
  | unsupported => "unsupported"
  | unexpectedEof => "unexpected end of file"
  | outOfMemory => "out of memory"
  | other => "other error"
  | uncategorized => "uncategorized error"

namespace IoError

def kindOf : Nat → IoKind
  | 1 | 13 => .permissionDenied
  | 2 => .notFound
  | 4 => .interrupted
  | 11 => .wouldBlock
  | 12 => .outOfMemory
  | 17 => .alreadyExists
  | 22 => .invalidInput
  | 32 => .brokenPipe
  | 98 => .addrInUse
  | 99 => .addrNotAvailable
  | 103 => .connectionAborted
  | 104 => .connectionReset
  | 107 => .notConnected
  | 110 => .timedOut
  | 111 => .connectionRefused
  | _ => .uncategorized

def kind : IoError → IoKind
  | os errno => kindOf errno
  | plain kind => kind
  | described kind _ => kind

def describeErrno : Nat → String
  | 1 => "Operation not permitted"
  | 2 => "No such file or directory"
  | 4 => "Interrupted system call"
  | 11 => "Resource temporarily unavailable"
  | 12 => "Cannot allocate memory"
  | 13 => "Permission denied"
  | 17 => "File exists"
  | 20 => "Not a directory"
  | 21 => "Is a directory"
  | 22 => "Invalid argument"
  | 24 => "Too many open files"
  | 32 => "Broken pipe"
  | 36 => "File name too long"
  | 97 => "Address family not supported by protocol"
  | 98 => "Address already in use"
  | 99 => "Cannot assign requested address"
  | 101 => "Network is unreachable"
  | 103 => "Software caused connection abort"
  | 104 => "Connection reset by peer"
  | 107 => "Transport endpoint is not connected"
  | 110 => "Connection timed out"
  | 111 => "Connection refused"
  | 113 => "No route to host"
  | errno => "Unknown error " ++ toString errno

def message : IoError → String
  | os errno => describeErrno errno ++ " (os error " ++ toString errno ++ ")"
  | plain kind => kind.description
  | described _ text => text

end IoError
end TunnelRelay
