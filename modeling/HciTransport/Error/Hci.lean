import HciTransport.ControlCode
import HciTransport.Error.Io

/-!
# Errors of the transport

Each cause names the step that failed, and where there is one the controller that it failed for, so
that a missing controller can be told from a busy one or from a broken transport.
-/

namespace HciTransport

/-- A controller as it reads in messages. -/
def hciName (devId : UInt16) : String := "hci" ++ toString devId.toNat

inductive HciError where
  /-- No socket could be created. -/
  | socket (cause : IoError)
  /-- A control operation on a controller failed. -/
  | control (op : ControlOp) (devId : UInt16) (cause : IoError)
  /-- The controllers could not be listed. -/
  | deviceList (cause : IoError)
  /-- The user channel of a controller was refused. -/
  | bind (devId : UInt16) (cause : IoError)
  | receive (cause : IoError)
  | send (cause : IoError)
  /-- The descriptor could not be given back. -/
  | close (cause : IoError)
  /-- The channel was closed before. -/
  | closed
  /-- No controller can have this index. -/
  | invalidDevice (index : Int)
  /-- No candidate accepted the user channel; the text tells why for each of them. -/
  | noDevices (reasons : String)
  deriving DecidableEq, Repr

namespace HciError

def message : HciError → String
  | .socket cause => "can't create socket: " ++ cause.text
  | .control op devId cause => "can't " ++ op.text ++ " " ++ hciName devId ++ ": " ++ cause.text
  | .deviceList cause => "can't get device list: " ++ cause.text
  | .bind devId cause =>
    "can't bind socket to " ++ hciName devId ++ " user channel: " ++ cause.text
  | .receive cause => "can't read hci socket: " ++ cause.text
  | .send cause => "can't write hci socket: " ++ cause.text
  | .close cause => "can't close hci socket: " ++ cause.text
  | .closed => "hci socket is closed"
  | .invalidDevice index => "invalid device index: " ++ toString index
  | .noDevices reasons => "no devices available: " ++ reasons

/-- The error of the failing call. -/
def cause? : HciError → Option IoError
  | .socket cause | .control _ _ cause | .deviceList cause | .bind _ cause
  | .receive cause | .send cause | .close cause => some cause
  | .closed | .invalidDevice _ | .noDevices _ => none

/-- The controller that the failure belongs to. -/
def devId? : HciError → Option UInt16
  | .control _ devId _ | .bind devId _ => some devId
  | _ => none

/-- Another socket holds the user channel already. -/
def isBusy : HciError → Bool
  | .bind _ cause => cause.number? = some SystemError.busy
  | _ => false

/-- The error as a byte stream reports it. A failed transfer gives back the error of the call itself,
so that its kind still tells a caller whether to try again. -/
def toIoError : HciError → IoError
  | .receive cause | .send cause | .close cause => cause
  | .closed => .custom .notConnected (message .closed)
  | error => .custom .other error.message

end HciError

end HciTransport
