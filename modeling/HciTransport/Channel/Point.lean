import HciTransport.Descriptor

/-!
# What operations on an open channel share, and where each of them stands

Any number of operations run on one channel at the same time. They share a `Gate`: two flags and two
locks. Each operation is at a `Point`, and a point says all that is left to do. A point that says
`inside` is a request to the descriptor in progress; `Pending` says which one, and so which lock the
operation holds meanwhile.

The flag `closed` says that the channel takes no more reads and writes, `released` that the
descriptor was given back. The read lock is held while a read is at the descriptor, and while the
descriptor is given back: so its number is never used again under a waiting reader. The write lock
keeps frames apart.
-/

namespace HciTransport.Channel

structure Gate where
  closed : Bool
  released : Bool
  readLocked : Bool
  writeLocked : Bool
  deriving DecidableEq, Repr

/-- The gate of a channel that was just opened. -/
def Gate.opened : Gate := ⟨false, false, false, false⟩

inductive Lock where
  | read
  | write
  deriving DecidableEq, Repr

namespace Gate

def isLocked (gate : Gate) : Lock → Bool
  | .read => gate.readLocked
  | .write => gate.writeLocked

/-- Takes a lock, or frees it. -/
def setLocked (gate : Gate) (locked : Bool) : Lock → Gate
  | .read => { gate with readLocked := locked }
  | .write => { gate with writeLocked := locked }

end Gate

/-- Who closes the channel. -/
inductive Closer where
  /-- Somebody who asked for it, and is told how it went. -/
  | caller
  /-- The end of a channel that nobody closed. -/
  | owner
  deriving DecidableEq, Repr

/-- On whose behalf the descriptor is given back, and what that operation will return. -/
inductive Releaser where
  /-- A read that found the channel closed after its own request; `none` if it made none. -/
  | reader (got : Option (Receipt IoError))
  | closer (closer : Closer)
  /-- The end of the channel. -/
  | owner

/-- A request that an operation makes to the descriptor. -/
inductive Pending where
  | read (length : Nat)
  | write (frame : Bytes)
  | closeFrame (closer : Closer)
  | release (releaser : Releaser)

namespace Pending

def call : Pending → DescriptorCall
  | .read length => .read length
  | .write frame => .write frame
  | .closeFrame _ => .write HciTransport.closeFrame
  | .release _ => .release

/-- The lock that is held around the request. -/
def lock : Pending → Lock
  | .read _ | .release _ => .read
  | .write _ | .closeFrame _ => .write

end Pending

/-- What an operation returns. -/
inductive Result where
  | read (receipt : Receipt HciError)
  | write (outcome : Except HciError Nat)
  | close (outcome : Except HciError Unit)
  /-- The channel is gone. -/
  | dropped

/-- How an operation ends. -/
inductive Ending where
  | returned (result : Result)
  /-- A request was abandoned and took the operation with it. -/
  | unwound

inductive Point where
  /-- A read begins: is the channel closed? -/
  | readStart (length : Nat)
  /-- It takes the read lock, when that is free. -/
  | readLock (length : Nat)
  /-- It holds the read lock: was the channel closed meanwhile? -/
  | readRecheck (length : Nat)
  /-- It frees the read lock. -/
  | readUnlock (got : Option (Receipt IoError))
  /-- It is back: does the descriptor have to be given back? -/
  | readAfter (got : Option (Receipt IoError))
  /-- A write begins: it takes the write lock, when that is free. -/
  | writeLock (frame : Bytes)
  /-- It holds the write lock: is the channel closed? -/
  | writeCheck (frame : Bytes)
  /-- It frees the write lock. -/
  | writeUnlock (outcome : Except HciError Nat)
  /-- A close begins: it marks the channel closed, and looks whether it was. -/
  | closeMark (closer : Closer)
  /-- It takes the write lock, when that is free. -/
  | closeLock (closer : Closer)
  /-- It frees the write lock. -/
  | closeUnlock (closer : Closer)
  /-- The descriptor may be given back, if the read lock is free at this moment. -/
  | releaseTry (releaser : Releaser)
  /-- The read lock is held: mark the descriptor given back, and look whether it was. -/
  | releaseMark (releaser : Releaser)
  /-- The read lock is freed; `none` if there was nothing to give back. -/
  | releaseUnlock (releaser : Releaser) (outcome : Option (Except IoError Unit))
  /-- The channel ends: was it closed? -/
  | dropStart
  /-- A request is about to begin. -/
  | before (pending : Pending)
  /-- A request is in progress. -/
  | inside (pending : Pending)
  /-- A request was abandoned; the lock around it is freed. -/
  | unwinding (pending : Pending)
  | ended (ending : Ending)

namespace Point

/-- What callers can ask of a channel, and its end. -/
def read (length : Nat) : Point := .readStart length
def write (frame : Bytes) : Point := .writeLock frame
def close : Point := .closeMark .caller
def drop : Point := .dropStart

end Point

end HciTransport.Channel
