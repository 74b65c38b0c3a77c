import HciTransport.ControlCode
import HciTransport.Device.Entry
import HciTransport.Duration
import HciTransport.Packet
import HciTransport.Program

/-!
# Descriptors

A descriptor is one control socket as the transport sees it: ten requests and their answers. What
stands behind it, system calls or a script, is left to the interpreter of the program.
-/

namespace HciTransport

/-- What a read left behind: the bytes that it stored at the start of the buffer, and the count that
it reports, or its error. A call may store bytes and fail all the same, or count other bytes than it
stored. -/
structure Receipt (ε : Type) where
  stored : Bytes
  outcome : Except ε Nat

/-- The requests to one descriptor. -/
inductive DescriptorCall where
  /-- Makes the descriptor; comes first. -/
  | create
  /-- A control operation whose argument is the index of a controller. -/
  | control (code : ControlCode) (devId : UInt16)
  /-- Has a record filled in whose first field names the controller. -/
  | deviceInfo (record : Bytes)
  | listDevices
  /-- Binds to a controller's exclusive channel. -/
  | bindUserChannel (devId : UInt16)
  /-- Waits for input, at most this long. -/
  | pollReadable (timeout : Duration)
  /-- Reads into a buffer of this length. -/
  | read (length : Nat)
  | write (frame : Bytes)
  /-- Gives the descriptor back to the kernel. -/
  | release
  /-- Forgets the descriptor; one that was not given back is given back now, and no failure shows. -/
  | discard

/-- The answer to each request. -/
def DescriptorCall.Answer : DescriptorCall → Type
  | .create => Except IoError Unit
  | .control _ _ => Except IoError Unit
  | .deviceInfo _ => Except IoError Bytes
  | .listDevices => Except IoError (List DeviceEntry)
  | .bindUserChannel _ => Except IoError Unit
  | .pollReadable _ => Except IoError Bool
  | .read _ => Receipt IoError
  | .write _ => Except IoError Nat
  | .release => Except IoError Unit
  | .discard => Unit

abbrev Descriptor : Interface := ⟨DescriptorCall, DescriptorCall.Answer⟩

/-- A program over one descriptor that may fail. -/
abbrev Attempt (α : Type) := Program Descriptor (Except HciError α)

end HciTransport
