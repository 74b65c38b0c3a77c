import HciTransport.Channel.Alone
import HciTransport.Open
import HciTransport.RawSocket

/-!
# Errands

An errand is one thing that a caller asks of the transport, from start to end, on sockets of the
kernel. Channels that were opened and not dropped yet are kept in the order of their opening, so any
number of them can be used by turns. What is left in the end is dropped. A series of errands is one
program over the kernel: each call of it is there, in order, and nothing else is.
-/

namespace HciTransport

open Channel (Gate Point)

/-- A channel and the socket behind it. -/
structure OpenChannel where
  devId : UInt16
  gate : Gate
  socket : RawSocket

/-- What can be asked of the transport. A channel goes by its place among those that are open. -/
inductive Errand where
  | operate (op : ControlOp) (devId : UInt16)
  | info (devId : UInt16)
  | list
  | devices
  | open (selector : DeviceSelector) (config : OpenConfig)
  | read (place length : Nat)
  | write (place : Nat) (frame : Bytes)
  | close (place : Nat)
  | drop (place : Nat)

namespace Errands

/-- Runs a program on a socket of its own. -/
def transient {α : Type} (p : Program Descriptor α) (channels : List OpenChannel) :
    Program Kernel (List OpenChannel) :=
  (RawSocket.lower p .absent).bind fun _ => .done channels

/-- Opens a channel; one that fails to open leaves nothing behind. -/
def openChannel (selector : DeviceSelector) (config : OpenConfig) (channels : List OpenChannel) :
    Program Kernel (List OpenChannel) :=
  (RawSocket.lower (Open.channel selector config) .absent).bind fun
    | (socket, .ok devId) => .done (channels ++ [⟨devId, .opened, socket⟩])
    | (_, .error _) => .done channels

/-- Runs an operation on the channel at a place, if there is one. -/
def useChannel (place : Nat) (asked : Point) (channels : List OpenChannel) :
    Program Kernel (List OpenChannel) :=
  match channels[place]? with
  | none => .done channels
  | some channel =>
    (RawSocket.lower (Channel.run channel.devId channel.gate asked) channel.socket).bind
      fun (socket, gate, _) => .done (channels.set place ⟨channel.devId, gate, socket⟩)

/-- Drops a channel, and its socket with it. -/
def dropChannel (channel : OpenChannel) : Program Kernel Unit :=
  (RawSocket.lower (Channel.drop channel.devId channel.gate) channel.socket).bind fun _ => .done ()

/-- One errand; ends with the channels that are open afterwards. -/
def perform (channels : List OpenChannel) : Errand → Program Kernel (List OpenChannel)
  | .operate op devId => transient (Control.operate op devId) channels
  | .info devId => transient (Control.info devId) channels
  | .list => transient Control.list channels
  | .devices => transient Control.devices channels
  | .open selector config => openChannel selector config channels
  | .read place length => useChannel place (.read length) channels
  | .write place frame => useChannel place (.write frame) channels
  | .close place => useChannel place .close channels
  | .drop place =>
    match channels[place]? with
    | none => .done channels
    | some channel => (dropChannel channel).bind fun () => .done (channels.eraseIdx place)

/-- Drops the channels that are still open. -/
def dropAll : List OpenChannel → Program Kernel Unit
  | [] => .done ()
  | channel :: channels => (dropChannel channel).bind fun () => dropAll channels

/-- One errand after another, and then the end. -/
def run : List Errand → List OpenChannel → Program Kernel Unit
  | [], channels => dropAll channels
  | errand :: errands, channels => (perform channels errand).bind (run errands)

end Errands

end HciTransport
