import HciTransport.RawSocket
import HciTransport.Simulation.Script

/-!
# Worlds

A world answers requests from a script and writes down what it is asked. At the level of descriptors
it answers them itself; at the level of the kernel they go through a raw socket, and the kernel calls
that it makes are answered.
-/

namespace HciTransport.Simulation

inductive Level where
  | descriptor
  | kernel
  deriving DecidableEq, Repr

structure World where
  level : Level
  script : Script
  /-- The number that the next socket gets. -/
  nextNumber : Int := 3
  /-- What was asked, in order. -/
  calls : Array String := #[]
  log : Array LogEntry := #[]
  /-- What was printed, line by line. -/
  lines : Array String := #[]

namespace World

def record (world : World) (text : String) : World := { world with calls := world.calls.push text }

def take (world : World) (queue : Queue) : World × Reply :=
  let (reply, script) := world.script.take queue
  ({ world with script := script }, reply)

def say (world : World) : Event → World
  | .log entry => { world with log := world.log.push entry }
  | .line text => { world with lines := world.lines.push text }

def sayAll (world : World) (entries : List LogEntry) : World :=
  { world with log := world.log ++ entries }

end World

/-! ### Requests to a descriptor -/

/-- A request as it is written down. Forgetting a descriptor leaves no trace. -/
def requestText : DescriptorCall → Option String
  | .create => some "socket"
  | .control code devId => some ("ioctl " ++ code.text ++ " " ++ toString devId.toNat)
  | .deviceInfo record => some ("info " ++ Hex.encode record)
  | .listDevices => some "list"
  | .bindUserChannel devId => some ("bind " ++ toString devId.toNat)
  | .pollReadable timeout => some ("poll " ++ toString timeout.inNanos)
  | .read length => some ("read " ++ toString length)
  | .write frame => some ("write " ++ Hex.encode frame)
  | .release => some "release"
  | .discard => none

def requestQueue : DescriptorCall → Queue
  | .create => .socket
  | .control _ _ => .ioctl
  | .deviceInfo _ => .info
  | .listDevices => .list
  | .bindUserChannel _ => .bind
  | .pollReadable _ => .poll
  | .read _ => .read
  | .write _ => .write
  | .release | .discard => .close

namespace Reply

/-- A request that fails if the reply says so, and brings `value` otherwise. -/
def unlessFailed {α : Type} (reply : Reply) (value : α) : Except IoError α :=
  match reply.failure with
  | some cause => .error cause
  | none => .ok value

/-- The count of a write at a descriptor. -/
def descriptorCount (reply : Reply) (frame : Bytes) : Nat :=
  match reply.count with
  | some n => if 0 ≤ n then n.toNat else frame.length
  | none => frame.length

/-- The answer that a reply gives to a request to a descriptor. -/
def answer (reply : Reply) : (call : DescriptorCall) → call.Answer
  | .create => reply.unlessFailed ()
  | .control _ _ => reply.unlessFailed ()
  | .deviceInfo record => reply.unlessFailed (Bytes.overlay reply.bytes record)
  | .listDevices => reply.unlessFailed reply.entries
  | .bindUserChannel _ => reply.unlessFailed ()
  | .pollReadable _ => reply.unlessFailed reply.readable
  | .read length =>
    let stored := reply.bytes.take length
    match reply.failure with
    | some cause => ⟨[], .error cause⟩
    | none => ⟨stored, .ok stored.length⟩
  | .write frame => reply.unlessFailed (reply.descriptorCount frame)
  | .release => reply.unlessFailed ()
  | .discard => ()

end Reply

/-! ### Kernel calls -/

/-- A list request as it is written down; blank slots are left out. -/
def listText (request : DeviceListRequest) : String :=
  let used := request.slots.filter fun slot => slot ≠ ⟨0, 0⟩
  " ".intercalate
    (("list " ++ toString request.number.toNat) ::
      used.map fun slot => toString slot.devId.toNat ++ "/" ++ toString slot.opt.toNat)

/-- A kernel call as it is written down. -/
def callText : KernelCall → String
  | .socket family kind protocol =>
    "socket " ++ toString family ++ " " ++ toString kind ++ " " ++ toString protocol
  | .control fd code arg => "ioctl " ++ toString fd ++ " " ++ code.text ++ " " ++ toString arg.toNat
  | .deviceInfo fd code record =>
    "ioctl " ++ toString fd ++ " " ++ code.text ++ " info " ++ Hex.encode record
  | .deviceList fd code request =>
    "ioctl " ++ toString fd ++ " " ++ code.text ++ " " ++ listText request
  | .bind fd address => "bind " ++ toString fd ++ " " ++ Hex.encode address
  | .poll fd events count millis =>
    "poll " ++ toString fd ++ " " ++ toString events ++ " " ++ toString count ++ " " ++ toString millis
  | .read fd length => "read " ++ toString fd ++ " " ++ toString length
  | .write fd frame => "write " ++ toString fd ++ " " ++ Hex.encode frame
  | .close fd => "close " ++ toString fd

def callQueue : KernelCall → Queue
  | .socket _ _ _ => .socket
  | .control _ _ _ => .ioctl
  | .deviceInfo _ _ _ => .info
  | .deviceList _ _ _ => .list
  | .bind _ _ => .bind
  | .poll _ _ _ _ => .poll
  | .read _ _ => .read
  | .write _ _ => .write
  | .close _ => .close

namespace Reply

/-- The status that a reply gives to a kernel call; an error number alone means failure, and counts
only with a negative return. -/
def status (reply : Reply) (usual : Int) : Status :=
  let ret := reply.ret.getD (if reply.errno.isSome then -1 else usual)
  ⟨ret, if ret < 0 then reply.errno.getD 0 else 0⟩

/-- The status of a call whose return is a word of 32 bits; of a longer number only the low ones are
left. -/
def shortStatus (reply : Reply) (usual : Int) : Status :=
  { reply with ret := reply.ret.map (Int.bmod · UInt32.size) }.status usual

/-- The count of a write at the kernel. -/
def kernelCount (reply : Reply) (frame : Bytes) : Int :=
  match reply.count with
  | some n => if n < 9223372036854775808 then n else frame.length
  | none => frame.length

/-- A list request after the kernel filled it in, unless the call failed. -/
def fillList (reply : Reply) (status : Status) (request : DeviceListRequest) : DeviceListRequest :=
  if status.ret = -1 then request
  else
    let slots := reply.entries.take maxDevices
    let number := reply.number.getD reply.entries.length
    ⟨UInt16.ofNat (number % 65536).toNat, slots ++ request.slots.drop slots.length⟩

/-- The answer that a reply gives to a kernel call, when the next socket would get `number`. What a
reply stores is stored even if the call fails. -/
def kernelAnswer (reply : Reply) (number : Int) : (call : KernelCall) → call.Answer
  | .socket _ _ _ => reply.shortStatus number
  | .control _ _ _ => reply.shortStatus 0
  | .deviceInfo _ _ record => (reply.shortStatus 0, Bytes.overlay reply.bytes record)
  | .deviceList _ _ request => (reply.shortStatus 0, reply.fillList (reply.shortStatus 0) request)
  | .bind _ _ => reply.shortStatus 0
  | .poll _ _ _ _ =>
    let status := reply.shortStatus (if reply.readable then 1 else 0)
    (status, reply.revents.getD (if 0 < status.ret then pollIn else 0))
  | .read _ length =>
    let stored := reply.bytes.take length
    (reply.status stored.length, stored)
  | .write _ frame => reply.status (reply.kernelCount frame)
  | .close _ => reply.shortStatus 0

end Reply

namespace World

/-- Answers a kernel call, and tells what is to happen meanwhile. Every attempt to make a socket uses
a number up. -/
def kernelCall (world : World) (call : KernelCall) : World × List Meanwhile × call.Answer :=
  let (world, reply) := (world.record (callText call)).take (callQueue call)
  let answer := reply.kernelAnswer world.nextNumber call
  let world := match call with
    | .socket _ _ _ => { world with nextNumber := world.nextNumber + 1 }
    | _ => world
  (world, reply.meanwhile (callQueue call), answer)

/-- Runs a program over the kernel. -/
def runKernel {α : Type} : Program Kernel α → World → List Meanwhile → World × List Meanwhile × α
  | .done value, world, during => (world, during, value)
  | .emit event rest, world, during => runKernel rest (world.say event) during
  | .call request next, world, during =>
    let (world, more, answer) := world.kernelCall request
    runKernel (next answer) world (during ++ more)

/-- How a request was answered: what is to happen meanwhile, and the answer, unless the request does
not return. -/
structure Answered (call : DescriptorCall) where
  during : List Meanwhile
  answer : Option call.Answer

/-- Answers a request to a descriptor. At the level of descriptors the raw socket plays no part. -/
def request (world : World) (socket : RawSocket) (call : DescriptorCall) :
    World × RawSocket × Answered call :=
  match world.level with
  | .kernel =>
    let (world, during, socket, answer) := runKernel (socket.answer call) world []
    (world, socket, ⟨during, some answer⟩)
  | .descriptor =>
    match requestText call with
    | none => (world, socket, ⟨[], some (({} : Reply).answer call)⟩)
    | some text =>
      let (world, reply) := (world.record text).take (requestQueue call)
      (world, socket,
        ⟨reply.meanwhile (requestQueue call),
          if reply.unwinds then none else some (reply.answer call)⟩)

/-- Runs a program over descriptors that answers directly; `none` if a request did not return. -/
def runDescriptor {α : Type} :
    Program Descriptor α → World → List Meanwhile → World × List Meanwhile × Option α
  | .done value, world, during => (world, during, some value)
  | .emit event rest, world, during => runDescriptor rest (world.say event) during
  | .call call next, world, during =>
    match world.request .absent call with
    | (world, _, ⟨more, some answer⟩) => runDescriptor (next answer) world (during ++ more)
    | (world, _, ⟨more, none⟩) => (world, during ++ more, none)

/-- Runs a program on a socket; ends with the socket as the program left it. -/
def run {α : Type} (world : World) (socket : RawSocket) (program : Program Descriptor α) :
    World × RawSocket × List Meanwhile × Option α :=
  match world.level with
  | .kernel =>
    let (world, during, socket, value) := runKernel (RawSocket.lower program socket) world []
    (world, socket, during, some value)
  | .descriptor =>
    let (world, during, value) := runDescriptor program world []
    (world, socket, during, value)

end World

end HciTransport.Simulation
