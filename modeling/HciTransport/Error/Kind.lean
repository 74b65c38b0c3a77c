/-!
# Kinds of input and output errors

Callers decide by the kind of an error, and not by its number or its text, whether to try again.
-/

namespace HciTransport

inductive ErrorKind where
  | notFound
  | permissionDenied
  | connectionRefused
  | connectionReset
  | connectionAborted
  | hostUnreachable
  | networkUnreachable
  | networkDown
  | notConnected
  | addrInUse
  | addrNotAvailable
  | brokenPipe
  | alreadyExists
  | wouldBlock
  | invalidInput
  | invalidData
  | timedOut
  | writeZero
  | notADirectory
  | isADirectory
  | directoryNotEmpty
  | readOnlyFilesystem
  | filesystemLoop
  | staleNetworkFileHandle
  | notSeekable
  | quotaExceeded
  | fileTooLarge
  | executableFileBusy
  | deadlock
  | crossesDevices
  | tooManyLinks
  | invalidFilename
  | storageFull
  | resourceBusy
  | tooManyOpenFiles
  | argumentListTooLong
  | inputOutputError
  | interrupted
  | inProgress
  | unsupported
  | unexpectedEof
  | outOfMemory
  | other
  | uncategorized
  deriving DecidableEq, Repr

namespace ErrorKind

def name : ErrorKind → String
  | .notFound => "NotFound"
  | .permissionDenied => "PermissionDenied"
  | .connectionRefused => "ConnectionRefused"
  | .connectionReset => "ConnectionReset"
  | .connectionAborted => "ConnectionAborted"
  | .hostUnreachable => "HostUnreachable"
  | .networkUnreachable => "NetworkUnreachable"
  | .networkDown => "NetworkDown"
  | .notConnected => "NotConnected"
  | .addrInUse => "AddrInUse"
  | .addrNotAvailable => "AddrNotAvailable"
  | .brokenPipe => "BrokenPipe"
  | .alreadyExists => "AlreadyExists"
  | .wouldBlock => "WouldBlock"
  | .invalidInput => "InvalidInput"
  | .invalidData => "InvalidData"
  | .timedOut => "TimedOut"
  | .writeZero => "WriteZero"
  | .notADirectory => "NotADirectory"
  | .isADirectory => "IsADirectory"
  | .directoryNotEmpty => "DirectoryNotEmpty"
  | .readOnlyFilesystem => "ReadOnlyFilesystem"
  | .filesystemLoop => "FilesystemLoop"
  | .staleNetworkFileHandle => "StaleNetworkFileHandle"
  | .notSeekable => "NotSeekable"
  | .quotaExceeded => "QuotaExceeded"
  | .fileTooLarge => "FileTooLarge"
  | .executableFileBusy => "ExecutableFileBusy"
  | .deadlock => "Deadlock"
  | .crossesDevices => "CrossesDevices"
  | .tooManyLinks => "TooManyLinks"
  | .invalidFilename => "InvalidFilename"
  | .storageFull => "StorageFull"
  | .resourceBusy => "ResourceBusy"
  | .tooManyOpenFiles => "TooManyOpenFiles"
  | .argumentListTooLong => "ArgumentListTooLong"
  | .inputOutputError => "InputOutputError"
  | .interrupted => "Interrupted"
  | .inProgress => "InProgress"
  | .unsupported => "Unsupported"
  | .unexpectedEof => "UnexpectedEof"
  | .outOfMemory => "OutOfMemory"
  | .other => "Other"
  | .uncategorized => "Uncategorized"

/-- What an error of this kind says when nothing more is known about it. -/
def description : ErrorKind → String
  | .notFound => "entity not found"
  | .permissionDenied => "permission denied"
  | .connectionRefused => "connection refused"
  | .connectionReset => "connection reset"
  | .connectionAborted => "connection aborted"
  | .hostUnreachable => "host unreachable"
  | .networkUnreachable => "network unreachable"
  | .networkDown => "network down"
  | .notConnected => "not connected"
  | .addrInUse => "address in use"
  | .addrNotAvailable => "address not available"
  | .brokenPipe => "broken pipe"
  | .alreadyExists => "entity already exists"
  | .wouldBlock => "operation would block"
  | .invalidInput => "invalid input parameter"
  | .invalidData => "invalid data"
  | .timedOut => "timed out"
  | .writeZero => "write zero"
  | .notADirectory => "not a directory"
  | .isADirectory => "is a directory"
  | .directoryNotEmpty => "directory not empty"
  | .readOnlyFilesystem => "read-only filesystem or storage medium"
  | .filesystemLoop => "filesystem loop or indirection limit (e.g. symlink loop)"
  | .staleNetworkFileHandle => "stale network file handle"
  | .notSeekable => "seek on unseekable file"
  | .quotaExceeded => "quota exceeded"
  | .fileTooLarge => "file too large"
  | .executableFileBusy => "executable file busy"
  | .deadlock => "deadlock"
  | .crossesDevices => "cross-device link or rename"
  | .tooManyLinks => "too many links"
  | .invalidFilename => "invalid filename"
  | .storageFull => "no storage space"
  | .resourceBusy => "resource busy"
  | .tooManyOpenFiles => "too many open files"
  | .argumentListTooLong => "argument list too long"
  | .inputOutputError => "input/output error"
  | .interrupted => "operation interrupted"
  | .inProgress => "in progress"
  | .unsupported => "unsupported"
  | .unexpectedEof => "unexpected end of file"
  | .outOfMemory => "out of memory"
  | .other => "other error"
  | .uncategorized => "uncategorized error"

/-- The kinds that programs make errors of; the rest only come from numbers of the system. -/
def portable : List ErrorKind :=
  [.notFound, .permissionDenied, .connectionRefused, .connectionReset, .connectionAborted,
   .notConnected, .addrInUse, .addrNotAvailable, .brokenPipe, .alreadyExists, .wouldBlock,
   .invalidInput, .invalidData, .timedOut, .writeZero, .interrupted, .unsupported, .unexpectedEof,
   .outOfMemory, .resourceBusy, .other]

def ofName? (name : String) : Option ErrorKind := portable.find? (·.name = name)

end ErrorKind

end HciTransport
