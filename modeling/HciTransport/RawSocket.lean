import HciTransport.Descriptor
import HciTransport.Device.Info
import HciTransport.Kernel

/-!
# Raw sockets

A raw socket answers the requests to a descriptor by kernel calls. It holds the number that the
kernel gave it and remembers whether the number was given back, so that it is given back once.
`RawSocket.lower` turns a whole program over a descriptor into one over the kernel.
-/

namespace HciTransport

/-- A socket of the kernel: its number, and whether that was given back. -/
structure RawSocket where
  fd : Int
  released : Bool
  deriving DecidableEq, Repr

namespace RawSocket

/-- No socket: there is nothing to give back. -/
def absent : RawSocket := ⟨-1, true⟩

/-- The address of a controller's user channel, field by field. -/
def address (devId : UInt16) : Bytes :=
  Bytes.ofU16 (UInt16.ofNat bluetoothFamily.toNat) ++ Bytes.ofU16 devId ++ Bytes.ofU16 userChannel

/-- The record is shorter than what the kernel would fill in. -/
def recordTooShort : IoError := .custom .invalidInput "device info record too short"

/-- Whether there is something to read: a wake-up for any other reason does not count. -/
def readable (status : Status) (events : Int) : Except IoError Bool :=
  status.unlessMinusOne (status.ret ≠ 0 ∧ events % 2 = 1)

/-- Gives the number back, unless that was done before. Whatever the kernel answers, it is gone. -/
def giveBack (socket : RawSocket) : Program Kernel (RawSocket × Except IoError Unit) :=
  if socket.released then .done (socket, .ok ())
  else .call (.close socket.fd) fun status =>
    .done ({ socket with released := true }, status.unlessMinusOne ())

/-- Answers one request. -/
def answer (socket : RawSocket) : (call : DescriptorCall) → Program Kernel (RawSocket × call.Answer)
  | .create => .call (.socket bluetoothFamily rawSocketType hciProtocol) fun status =>
    match status.unlessNegative () with
    | .error cause => .done (absent, .error cause)
    | .ok () => .done (⟨status.ret, false⟩, .ok ())
  | .control code devId => .call (.control socket.fd code devId.toUInt64) fun status =>
    .done (socket, status.unlessMinusOne ())
  -- The kernel fills in the record; what stands behind it in the buffer stays.
  | .deviceInfo record =>
    if record.length < Layout.size then .done (socket, .error recordTooShort)
    else .call (.deviceInfo socket.fd .deviceInfo (record.take Layout.size)) fun (status, filled) =>
      .done (socket, status.unlessMinusOne (filled ++ record.drop Layout.size))
  | .listDevices => .call (.deviceList socket.fd .deviceList .offer) fun (status, request) =>
    .done (socket, status.unlessMinusOne request.entries)
  | .bindUserChannel devId => .call (.bind socket.fd (address devId)) fun status =>
    .done (socket, status.unlessNegative ())
  | .pollReadable timeout => .call (.poll socket.fd pollIn 1 timeout.pollMillis) fun (status, events) =>
    .done (socket, readable status events)
  | .read length => .call (.read socket.fd length) fun (status, stored) =>
    .done (socket, ⟨stored, status.unlessNegative status.ret.toNat⟩)
  | .write frame => .call (.write socket.fd frame) fun status =>
    .done (socket, status.unlessNegative status.ret.toNat)
  | .release => socket.giveBack
  -- Nobody is left to be told of a failure.
  | .discard => socket.giveBack.bind fun (socket, _) => .done (socket, ())

/-- Answers every request of a program; ends with the socket as the program left it. -/
def lower {α : Type} : Program Descriptor α → RawSocket → Program Kernel (RawSocket × α)
  | .done value, socket => .done (socket, value)
  | .emit event rest, socket => .emit event (lower rest socket)
  | .call request next, socket =>
    (socket.answer request).bind fun (socket, got) => lower (next got) socket

end RawSocket

end HciTransport
