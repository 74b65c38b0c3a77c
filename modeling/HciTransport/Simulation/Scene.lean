import HciTransport.Errands
import HciTransport.Simulation.World

/-!
# Scenes

A scene is one open channel in a world, with the operations that wait for one of its locks. An
operation is run step by step; when one of its requests is answered, what the reply brings along runs
on the same channel before the answer is handed over.
-/

namespace HciTransport.Simulation

open Channel (Gate Point Pending Ending)

/-- What a step brings. -/
inductive Value where
  | nothing
  | number (n : Int)
  | flag (b : Bool)
  /-- A count, and as many bytes of the buffer. -/
  | data (count : Nat) (bytes : Bytes)
  | record (bytes : Bytes)
  | entries (entries : List DeviceEntry)
  | info (info : DeviceInfo)
  | infos (infos : List DeviceInfo)

/-- How a step ends. -/
inductive Result where
  | value (value : Value)
  | hciError (error : HciError)
  | ioError (error : IoError)
  /-- A field of the step is missing or makes no sense. -/
  | faulty (field : String)
  | noSocket
  /-- A request did not return. -/
  | unwound
  /-- It waits for ever. -/
  | stuck

/-- What became of an operation that a reply brought along. -/
inductive Aside where
  | ran (result : Result)
  | queued
  | skipped

/-- An operation that waits for a lock, the length of its buffer, and what it logged so far. -/
structure Waiting where
  point : Point
  length : Nat
  log : Array LogEntry

/-- An operation that waited, when it is done. -/
structure Finished where
  result : Result
  log : Array LogEntry

structure Scene where
  world : World
  channel : OpenChannel
  waiting : List Waiting := []
  asides : Array Aside := #[]

/-- What is done with the operations that a reply brings along. -/
abbrev Policy := Pending → List Meanwhile → Scene → Scene

/-- A count and as many bytes of what a zeroed buffer holds after a read; the rest of the buffer does
not matter. -/
def readValue (length : Nat) (stored : Bytes) (count : Nat) : Value :=
  .data count (Bytes.overlay stored (Bytes.zeros (min length count)))

/-- How an operation ended that read into a buffer of this length, if it read. -/
def resultOf (length : Nat) : Point → Result
  | .ended (.returned (.read ⟨stored, .ok count⟩)) => .value (readValue length stored count)
  | .ended (.returned (.read ⟨_, .error error⟩)) => .hciError error
  | .ended (.returned (.write (.ok count))) => .value (.number count)
  | .ended (.returned (.write (.error error))) => .hciError error
  | .ended (.returned (.close (.ok ()))) => .value .nothing
  | .ended (.returned (.close (.error error))) => .hciError error
  | .ended (.returned .dropped) => .value .nothing
  | .ended .unwound => .unwound
  | _ => .stuck

namespace Scene

def say (scene : Scene) (log : List LogEntry) : Scene :=
  { scene with world := scene.world.sayAll log }

def setGate (scene : Scene) (gate : Gate) : Scene :=
  { scene with channel := { scene.channel with gate := gate } }

def note (scene : Scene) (aside : Aside) : Scene := { scene with asides := scene.asides.push aside }

/-- Puts a request to the world. -/
def request (scene : Scene) (call : DescriptorCall) : Scene × World.Answered call :=
  let (world, socket, answered) := scene.world.request scene.channel.socket call
  ({ scene with world := world, channel := { scene.channel with socket := socket } }, answered)

/-- Runs an operation until it ends or has to wait; `steps` bounds its steps. -/
def driveFor (policy : Policy) : (steps : Nat) → Scene → Point → Scene × Point
  | 0, scene, point => (scene, point)
  | steps + 1, scene, point =>
    match Channel.advance scene.channel.devId scene.channel.gate point with
    | .step gate log next => driveFor policy steps ((scene.setGate gate).say log) next
    | .begin pending =>
      let (scene, answered) := scene.request pending.call
      let scene := policy pending answered.during scene
      match answered.answer with
      | some answer =>
        let (next, log) := Channel.resume scene.channel.devId pending answer
        driveFor policy steps (scene.say log) next
      | none => driveFor policy steps scene (.unwinding pending)
    | .blocked | .waiting _ | .over _ => (scene, point)

def drive (policy : Policy) (scene : Scene) (point : Point) : Scene × Point :=
  driveFor policy point.rank scene point

/-- Skips whatever a reply brings along: there is no channel to do it on, or it is inside something
that was itself brought along. -/
def skipAll : Policy := fun _ meanwhile scene => meanwhile.foldl (fun scene _ => scene.note .skipped) scene

/-- Runs an operation in the middle of another. -/
def aside (scene : Scene) (point : Point) (length : Nat) : Scene :=
  let (scene, point) := scene.drive skipAll point
  scene.note (.ran (resultOf length point))

/-- Starts an operation in a thread of its own; it goes as far as the lock that it waits for. -/
def enqueue (scene : Scene) (point : Point) (length : Nat) : Scene :=
  let log := scene.world.log
  let (scene, point) := { scene with world := { scene.world with log := #[] } }.drive skipAll point
  let waiting : Waiting := ⟨point, length, scene.world.log⟩
  { scene with
    world := { scene.world with log := log }
    waiting := scene.waiting ++ [waiting] }.note .queued

/-- Goes on with a field of the script, unless it makes no sense. -/
def scripted {α : Type} (scene : Scene) (field : Scripted α) (use : α → Scene) : Scene :=
  match field with
  | .ok value => use value
  | .error name => scene.note (.ran (.faulty name))

/-- Does one thing meanwhile, unless that would wait for the very operation that is in progress; then
its fields are not even looked at. -/
def meanwhile (pending : Pending) (scene : Scene) (op : Meanwhile) : Scene :=
  let reading := pending.lock = .read
  let closed := scene.channel.gate.closed
  match op with
  | .isClosed => scene.note (.ran (.value (.flag closed)))
  | .read length =>
    if reading ∧ ¬closed then scene.note .skipped
    else scene.scripted length fun length => scene.aside (.read length) length
  | .write frame =>
    if reading then scene.scripted frame fun frame => scene.aside (.write frame) 0
    else scene.note .skipped
  | .close => if ¬reading ∧ ¬closed then scene.note .skipped else scene.aside .close 0
  | .queueRead length =>
    if reading then scene.scripted length fun length => scene.enqueue (.read length) length
    else scene.note .skipped
  | .queueWrite frame =>
    if reading then scene.note .skipped
    else scene.scripted frame fun frame => scene.enqueue (.write frame) 0
  | .queueClose => if reading ∨ closed then scene.note .skipped else scene.enqueue .close 0
  | .faulty field => scene.note (.ran (.faulty field))

/-- Does what a reply brings along, one after another. -/
def doAll : Policy := fun pending ops scene => ops.foldl (meanwhile pending) scene

/-- Lets the operations that wait go on, one after another in the order of their start; each keeps
its own log. `fuel` bounds how many there are. -/
def finishWaiting : (fuel : Nat) → Scene → Array Finished → Scene × Array Finished
  | 0, scene, done => (scene, done)
  | fuel + 1, scene, done =>
    match scene.waiting with
    | [] => (scene, done)
    | first :: rest =>
      let log := scene.world.log
      let scene := { scene with waiting := rest, world := { scene.world with log := first.log } }
      let (scene, point) := scene.drive doAll first.point
      let finished : Finished := ⟨resultOf first.length point, scene.world.log⟩
      finishWaiting fuel { scene with world := { scene.world with log := log } } (done.push finished)

/-- Lets everything finish that waits: each waiting operation may bring along others. -/
def settle (scene : Scene) : Scene × Array Finished :=
  finishWaiting (scene.waiting.length + scene.world.script.meanwhileCount) scene #[]

/-- The end of the channel: whatever happened, the socket is forgotten. -/
def finish (scene : Scene) : Scene × Point :=
  let (scene, point) := scene.drive skipAll .drop
  ((scene.request .discard).1, point)

end Scene

end HciTransport.Simulation
