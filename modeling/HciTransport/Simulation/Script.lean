import HciTransport.Bytes
import HciTransport.Device.Entry
import HciTransport.Error.Io

/-!
# Scripts

A script says how a kernel that is only played answers: one queue of replies for each sort of call.
A queue that has run out gives blank replies. A reply leaves open what it does not mention; what that
means is up to the call that takes it.
-/

namespace HciTransport.Simulation

/-- What a script gives for a field; if the field is missing or makes no sense, its name. Whether that
matters shows only when the field is needed. -/
abbrev Scripted (α : Type) := Except String α

/-- Something done to the same channel while a read or a write is at the descriptor. The queued ones
run in a thread of their own and wait for a lock. -/
inductive Meanwhile where
  | isClosed
  | read (length : Scripted Nat)
  | write (frame : Scripted Bytes)
  | close
  | queueRead (length : Scripted Nat)
  | queueWrite (frame : Scripted Bytes)
  | queueClose
  /-- It does not say what is done; the field is named. -/
  | faulty (field : String)
  deriving Repr

/-- One reply. -/
structure Reply where
  /-- The number that a kernel call returns. -/
  ret : Option Int := none
  /-- The number of the error of a kernel call. -/
  errno : Option Int := none
  /-- The error of a request to a descriptor. -/
  failure : Option IoError := none
  /-- What is stored in the buffer or in the record. -/
  bytes : Bytes := []
  /-- The controllers that are listed. -/
  entries : List DeviceEntry := []
  /-- How many slots the kernel says it used. -/
  number : Option Int := none
  /-- There is input. -/
  readable : Bool := false
  /-- The reasons for which a wait ended. -/
  revents : Option Int := none
  /-- The count that a write returns. A descriptor counts in a word without a sign, the kernel in one
  with a sign; a number that the word does not hold counts as none. -/
  count : Option Int := none
  /-- The request does not return. -/
  unwinds : Bool := false
  during : List Meanwhile := []

/-- The sorts of calls. -/
inductive Queue where
  | socket
  | ioctl
  | info
  | list
  | bind
  | poll
  | read
  | write
  | close
  deriving DecidableEq, Repr

namespace Queue

def all : List Queue := [.socket, .ioctl, .info, .list, .bind, .poll, .read, .write, .close]

def name : Queue → String
  | .socket => "socket"
  | .ioctl => "ioctl"
  | .info => "info"
  | .list => "list"
  | .bind => "bind"
  | .poll => "poll"
  | .read => "read"
  | .write => "write"
  | .close => "close"

end Queue

/-- What a reply of a queue brings along: only reads and writes leave time for anything. -/
def Reply.meanwhile (reply : Reply) : Queue → List Meanwhile
  | .read | .write => reply.during
  | _ => []

structure Script where
  socket : List Reply := []
  ioctl : List Reply := []
  info : List Reply := []
  list : List Reply := []
  bind : List Reply := []
  poll : List Reply := []
  read : List Reply := []
  write : List Reply := []
  close : List Reply := []

namespace Script

def get (script : Script) : Queue → List Reply
  | .socket => script.socket
  | .ioctl => script.ioctl
  | .info => script.info
  | .list => script.list
  | .bind => script.bind
  | .poll => script.poll
  | .read => script.read
  | .write => script.write
  | .close => script.close

def set (script : Script) (replies : List Reply) : Queue → Script
  | .socket => { script with socket := replies }
  | .ioctl => { script with ioctl := replies }
  | .info => { script with info := replies }
  | .list => { script with list := replies }
  | .bind => { script with bind := replies }
  | .poll => { script with poll := replies }
  | .read => { script with read := replies }
  | .write => { script with write := replies }
  | .close => { script with close := replies }

/-- The next reply of a queue, and the script without it. -/
def take (script : Script) (queue : Queue) : Reply × Script :=
  match script.get queue with
  | [] => ({}, script)
  | reply :: rest => (reply, script.set rest queue)

/-- Puts replies behind those that a script holds already. -/
def append (script more : Script) : Script :=
  Queue.all.foldl (fun script queue => script.set (script.get queue ++ more.get queue) queue) script

/-- All replies that a script still holds. -/
def replies (script : Script) : List Reply := Queue.all.flatMap script.get

/-- How many replies a script still holds. -/
def size (script : Script) : Nat := script.replies.length

/-- How many operations the replies that are left bring along. -/
def meanwhileCount (script : Script) : Nat := (script.replies.flatMap (·.during)).length

end Script

end HciTransport.Simulation
