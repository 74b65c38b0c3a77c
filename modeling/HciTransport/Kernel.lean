import HciTransport.ControlCode
import HciTransport.Device.Entry
import HciTransport.Bytes
import HciTransport.Program

/-!
# Kernel calls

The system calls that a raw socket makes, and what each one brings back. A call returns a number;
the number of the error beside it means something only when the call says that it failed. Which
returned numbers say so is for the caller to judge, and callers differ.
-/

namespace HciTransport

/-- The address family of controllers. -/
def bluetoothFamily : Int := 31

/-- A raw socket that is not handed on to other programs. -/
def rawSocketType : Int := 524291

/-- The protocol of controllers. -/
def hciProtocol : Int := 1

/-- The channel that gives one socket a controller for itself. -/
def userChannel : UInt16 := 1

/-- There is input to read. -/
def pollIn : Int := 1

/-- What a call returned, and the error number that stood beside it. -/
structure Status where
  ret : Int
  errno : Int
  deriving DecidableEq, Repr

inductive KernelCall where
  | socket (family kind protocol : Int)
  /-- A control call whose argument is a number. -/
  | control (fd : Int) (code : ControlCode) (arg : UInt64)
  /-- A control call whose argument is a device record. -/
  | deviceInfo (fd : Int) (code : ControlCode) (record : Bytes)
  /-- A control call whose argument is a list request. -/
  | deviceList (fd : Int) (code : ControlCode) (request : DeviceListRequest)
  | bind (fd : Int) (address : Bytes)
  | poll (fd events : Int) (count : Nat) (millis : Int32)
  | read (fd : Int) (length : Nat)
  | write (fd : Int) (frame : Bytes)
  | close (fd : Int)

/-- The answer to each call: its status, and what it stored at the places it was given. -/
def KernelCall.Answer : KernelCall → Type
  | .socket _ _ _ => Status
  | .control _ _ _ => Status
  | .deviceInfo _ _ _ => Status × Bytes
  | .deviceList _ _ _ => Status × DeviceListRequest
  | .bind _ _ => Status
  | .poll _ _ _ _ => Status × Int
  | .read _ _ => Status × Bytes
  | .write _ _ => Status
  | .close _ => Status

abbrev Kernel : Interface := ⟨KernelCall, KernelCall.Answer⟩

namespace Status

/-- Any negative number is a failure. -/
def unlessNegative {α : Type} (status : Status) (value : α) : Except IoError α :=
  if status.ret < 0 then .error (.system status.errno) else .ok value

/-- Only minus one is a failure. -/
def unlessMinusOne {α : Type} (status : Status) (value : α) : Except IoError α :=
  if status.ret = -1 then .error (.system status.errno) else .ok value

end Status

end HciTransport
