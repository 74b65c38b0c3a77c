import HciTransport.Channel.Stream
import HciTransport.Open
import HciTransport.Simulation.Scene
import HciTransport.Stream

/-!
# Sessions

A session is a series of steps in one world, with open channels kept in named slots. Each step leaves
an entry: its result, what was asked and logged since the entry before, and what ran meanwhile. At
the end all channels that are still held are dropped, in the order of their names.
-/

namespace HciTransport.Simulation

open Channel (Point)

/-- What is done with the channel of a slot. An owned stream has the channel to itself, so nothing
else can be done on it meanwhile. -/
inductive Action where
  | devId
  | isClosed
  | fd
  | read (length : Nat)
  | write (frame : Bytes)
  | close
  | streamRead (length : Nat) (owned : Bool)
  | streamReadExact (length : Nat) (owned : Bool)
  | streamWrite (frame : Bytes) (owned : Bool)
  | streamWriteAll (frame : Bytes) (owned : Bool)
  | streamFlush

inductive Step where
  | operate (op : ControlOp) (devId : UInt16)
  | info (devId : UInt16)
  | list
  | devices
  | prepare (devId : UInt16) (config : OpenConfig)
  | probe (candidates : List UInt16) (config : OpenConfig)
  /-- Adds replies to the script. -/
  | push (script : Script)
  /-- The other fields count only if a controller can have the index. -/
  | open (index : Int) (config : Scripted OpenConfig) (slot : Scripted String)
  /-- Does something with a slot; a faulty field counts only if the slot is in use. -/
  | use (slot : String) (action : Scripted Action)
  | drop (slot : String)
  | faulty (field : String)

structure Entry where
  result : Result
  calls : Array String
  log : Array LogEntry
  asides : Array Aside
  finished : Array Finished

structure Session where
  world : World
  /-- The slots in use, in the order of their names. -/
  slots : List (String × OpenChannel) := []

/-- What a step leaves besides the session: its result, what ran meanwhile, and what waited. -/
structure Outcome where
  result : Result
  asides : Array Aside := #[]
  finished : Array Finished := #[]

namespace Session

def find? (session : Session) (slot : String) : Option OpenChannel :=
  (session.slots.find? (·.1 = slot)).map (·.2)

def erase (session : Session) (slot : String) : Session :=
  { session with slots := session.slots.filter (·.1 ≠ slot) }

/-- Puts a channel into a slot. -/
def put (session : Session) (slot : String) (channel : OpenChannel) : Session :=
  let others := session.slots.filter (·.1 ≠ slot)
  let (before, after) := others.partition (·.1 < slot)
  { session with slots := before ++ (slot, channel) :: after }

/-- What ran meanwhile where no channel is open yet: nothing. -/
def skipped (ops : List Meanwhile) : Array Aside := (ops.map fun _ => Aside.skipped).toArray

/-- Runs a program on a socket of its own. -/
def transient {α : Type} (session : Session) (program : Attempt α) (view : α → Value) :
    Session × Outcome :=
  let (world, _, ops, ended) := session.world.run .absent program
  let result := match ended with
    | none => .unwound
    | some (.error error) => .hciError error
    | some (.ok value) => .value (view value)
  ({ session with world := world }, ⟨result, skipped ops, #[]⟩)

/-- A program on a socket that is forgotten in the end, however it went. -/
def thenDiscard {α : Type} (work : Attempt α) : Attempt α :=
  (Open.onDescriptor work).andThen fun value => Control.discardThen (.ok value)

/-- Drops the channel of a slot. -/
def dropSlot (session : Session) (slot : String) : Session × Outcome :=
  match session.find? slot with
  | none => (session, ⟨.value .nothing, #[], #[]⟩)
  | some channel =>
    let scene : Scene := { world := session.world, channel := channel }
    let (scene, point) := scene.finish
    (({ session with world := scene.world }).erase slot, ⟨resultOf 0 point, scene.asides, #[]⟩)

/-- Drops the channel of a slot and opens another one into it. -/
def openSlot (session : Session) (selector : DeviceSelector) (config : OpenConfig) (slot : String) :
    Session × Outcome :=
  let (session, dropped) := session.dropSlot slot
  match dropped.result with
  | .value _ =>
    let (world, socket, ops, ended) := session.world.run .absent (Open.channel selector config)
    let session := { session with world := world }
    let asides := dropped.asides ++ skipped ops
    match ended with
    | none => (session, ⟨.unwound, asides, #[]⟩)
    | some (.error error) => (session, ⟨.hciError error, asides, #[]⟩)
    | some (.ok devId) =>
      (session.put slot ⟨devId, .opened, socket⟩, ⟨.value (.number devId.toNat), asides, #[]⟩)
  | result => (session, ⟨result, dropped.asides, #[]⟩)

/-- Opens a channel into a slot. An index that names no controller is refused first, then fields that
make no sense; in both cases the channel that is in the slot stays there. -/
def tryOpen (session : Session) (index : Int) (config : Scripted OpenConfig) (slot : Scripted String) :
    Session × Outcome :=
  match DeviceSelector.fromIndex index, config, slot with
  | .error error, _, _ => (session, ⟨.hciError error, #[], #[]⟩)
  | .ok _, .error field, _ | .ok _, .ok _, .error field => (session, ⟨.faulty field, #[], #[]⟩)
  | .ok selector, .ok config, .ok slot => session.openSlot selector config slot

/-- What a call of a stream brings; `view` shows what it has returned. -/
def streamResult {α : Type} (view : α → Except IoError Value) : Channel.StreamEnd α → Result
  | .returned returned =>
    match view returned with
    | .ok value => .value value
    | .error error => .ioError error
  | .resting point => resultOf 0 point

/-- One reading step of a loop, into a zeroed buffer. -/
def readStep (policy : Policy) (scene : Scene) (length : Nat) : Scene × Bytes × Stream.Tried :=
  match Channel.streamRead (Scene.drive policy) scene length with
  | (scene, .returned receipt) => (scene, receipt.stored, some receipt.outcome)
  | (scene, .resting _) => (scene, [], none)

/-- One writing step of a loop. -/
def writeStep (policy : Policy) (scene : Scene) (frame : Bytes) : Scene × Stream.Tried :=
  match Channel.streamWrite (Scene.drive policy) scene frame with
  | (scene, .returned outcome) => (scene, some outcome)
  | (scene, .resting _) => (scene, none)

/-- What may run meanwhile, when the stream is owned or shared. -/
def policy (owned : Bool) : Policy := if owned then Scene.skipAll else Scene.doAll

/-- A bound on the rounds of a loop: a round uses up a reply, or is the last one. -/
def rounds (scene : Scene) : Nat := scene.world.script.size + 2

/-- Runs one operation, or one loop of them, on a channel. -/
def act (scene : Scene) : Action → Scene × Result
  | .devId => (scene, .value (.number scene.channel.devId.toNat))
  | .isClosed => (scene, .value (.flag scene.channel.gate.closed))
  | .fd =>
    (scene, .value (match scene.world.level with
      | .descriptor => .nothing
      | .kernel => .number scene.channel.socket.fd))
  | .read length =>
    let (scene, point) := scene.drive Scene.doAll (.read length)
    (scene, resultOf length point)
  | .write frame =>
    let (scene, point) := scene.drive Scene.doAll (.write frame)
    (scene, resultOf 0 point)
  | .close =>
    let (scene, point) := scene.drive Scene.doAll .close
    (scene, resultOf 0 point)
  | .streamRead length owned =>
    let (scene, ended) := Channel.streamRead (Scene.drive (policy owned)) scene length
    (scene, streamResult (fun receipt => receipt.outcome.map (readValue length receipt.stored)) ended)
  | .streamReadExact length owned =>
    match Stream.readExact (readStep (policy owned)) (rounds scene) scene [] (Bytes.zeros length) with
    | (scene, some (.ok bytes)) => (scene, .value (.data bytes.length bytes))
    | (scene, some (.error error)) => (scene, .ioError error)
    | (scene, none) => (scene, .unwound)
  | .streamWrite frame owned =>
    let (scene, ended) := Channel.streamWrite (Scene.drive (policy owned)) scene frame
    (scene, streamResult (fun outcome => outcome.map fun (count : Nat) => .number count) ended)
  | .streamWriteAll frame owned =>
    match Stream.writeAll (writeStep (policy owned)) (rounds scene) scene frame with
    | (scene, some (.ok ())) => (scene, .value (.number frame.length))
    | (scene, some (.error error)) => (scene, .ioError error)
    | (scene, none) => (scene, .unwound)
  | .streamFlush =>
    let (scene, ended) := Channel.streamFlush scene
    (scene, streamResult (fun outcome => outcome.map fun () => .nothing) ended)

/-- Does something with the channel of a slot, and lets finish what waits because of it. -/
def useSlot (session : Session) (slot : String) (action : Scripted Action) : Session × Outcome :=
  match session.find? slot, action with
  | none, _ => (session, ⟨.noSocket, #[], #[]⟩)
  | some _, .error field => (session, ⟨.faulty field, #[], #[]⟩)
  | some channel, .ok action =>
    let scene : Scene := { world := session.world, channel := channel }
    let (scene, result) := act scene action
    let (scene, finished) := scene.settle
    (({ session with world := scene.world }).put slot scene.channel,
      ⟨result, scene.asides, finished⟩)

def perform (session : Session) : Step → Session × Outcome
  | .operate op devId => session.transient (Control.operate op devId) fun () => .nothing
  | .info devId => session.transient (Control.info devId) .info
  | .list => session.transient Control.list .entries
  | .devices => session.transient Control.devices .infos
  | .prepare devId config =>
    session.transient (thenDiscard (Open.prepare devId config)) fun () => .nothing
  | .probe candidates config =>
    session.transient (thenDiscard (Open.probe candidates config)) fun devId => .number devId.toNat
  | .push script =>
    ({ session with world := { session.world with script := session.world.script.append script } },
      ⟨.value .nothing, #[], #[]⟩)
  | .open index config slot => session.tryOpen index config slot
  | .use slot action => session.useSlot slot action
  | .drop slot =>
    if (session.find? slot).isSome then session.dropSlot slot else (session, ⟨.noSocket, #[], #[]⟩)
  | .faulty field => (session, ⟨.faulty field, #[], #[]⟩)

/-- Turns to a new page: the entry for what was written down, and the session without it. -/
def page (session : Session) (outcome : Outcome) : Session × Entry :=
  ({ session with world := { session.world with calls := #[], log := #[] } },
    ⟨outcome.result, session.world.calls, session.world.log, outcome.asides, outcome.finished⟩)

def step (session : Session) (step : Step) : Session × Entry :=
  let (session, outcome) := session.perform step
  session.page outcome

/-- Drops all channels that are left. -/
def finish (session : Session) : Entry :=
  let (session, asides, whole) := session.slots.foldl
    (fun (session, asides, whole) (slot, _) =>
      let (session, outcome) := session.dropSlot slot
      (session, asides ++ outcome.asides, whole && outcome.result matches .value _))
    (session, #[], true)
  (session.page ⟨if whole then .value .nothing else .unwound, asides, #[]⟩).2

/-- Runs all steps from a new world; one entry for each, and one for the end. -/
def run (level : Level) (script : Script) (steps : List Step) : List Entry :=
  let start : Session := { world := { level := level, script := script } }
  let (session, entries) := steps.foldl
    (fun (session, entries) next =>
      let (session, entry) := session.step next
      (session, entries.push entry))
    (start, (#[] : Array Entry))
  entries.toList ++ [session.finish]

end Session

end HciTransport.Simulation
