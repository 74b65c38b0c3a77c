import HciTransport.Control

/-!
# Opening a user channel

A controller is cycled down, up and down again, so that a session that did not end cleanly does not
stand in the way of the bind, which needs it down. Then the descriptor is bound to the controller,
and input that is waiting already is thrown away; whatever goes wrong there is only logged.
-/

namespace HciTransport

/-- How the open sequence deals with input that waits right after the bind. -/
structure OpenConfig where
  /-- How long to wait for it. -/
  drainTimeout : Duration
  /-- How much of it is thrown away at most. -/
  drainLength : Nat
  deriving DecidableEq, Repr

namespace OpenConfig

/-- Twenty milliseconds and a hundred bytes. -/
def standard : OpenConfig := ⟨.ofMillis 20, 100⟩

end OpenConfig

/-- Which controller to open. -/
inductive DeviceSelector where
  /-- The first one that accepts. -/
  | any
  | index (devId : UInt16)
  deriving DecidableEq, Repr

namespace DeviceSelector

/-- The index that stands for any controller. -/
def anyIndex : Int := -1

/-- Reads a numeric index. -/
def fromIndex (index : Int) : Except HciError DeviceSelector :=
  if index = anyIndex then .ok .any
  else if 0 ≤ index ∧ index < 65536 then .ok (.index (UInt16.ofNat index.toNat))
  else .error (.invalidDevice index)

end DeviceSelector

namespace Open

open Control

/-- Throws waiting input away: one wait, and one read if there is something to read. -/
def drain (devId : UInt16) (config : OpenConfig) : Program Descriptor Unit :=
  .call (.pollReadable config.drainTimeout) fun
    | .error cause => .log (.drainPollFailed devId cause)
    | .ok false => .done ()
    | .ok true => .call (.read config.drainLength) fun receipt =>
      match receipt.outcome with
      | .ok count => .log (.drained devId count)
      | .error cause => .log (.drainReadFailed devId cause)

/-- Binds the descriptor to a controller. -/
def bind (devId : UInt16) : Attempt Unit :=
  .call (.bindUserChannel devId) fun
    | .error cause => .done (.error (.bind devId cause))
    | .ok () => .emit (.log (.bound devId)) (.done (.ok ()))

/-- The open sequence for one controller, on a descriptor that is not bound yet. -/
def prepare (devId : UInt16) (config : OpenConfig) : Attempt Unit :=
  (issue .down devId).andThen fun () =>
  (issue .up devId).andThen fun () =>
  -- The bind needs the controller down.
  (issue .down devId).andThen fun () =>
  (bind devId).andThen fun () =>
  (drain devId config).bind fun () => .done (.ok ())

/-- How one candidate's failure reads in the error for all of them. -/
def reason (devId : UInt16) (error : HciError) : String :=
  "(" ++ hciName devId ++ ": " ++ error.message ++ ")"

/-- Tries the candidates in turn and ends with the first that accepts; `failures` tells about those
tried before. -/
def probeFrom (config : OpenConfig) (failures : String) : List UInt16 → Attempt UInt16
  | [] => .done (.error (.noDevices failures))
  | devId :: rest => (prepare devId config).bind fun
    | .ok () => .done (.ok devId)
    | .error error =>
      .emit (.log (.notAvailable devId error))
        (probeFrom config (failures ++ reason devId error) rest)

/-- Tries all candidates, with no failure to tell about yet. -/
def probe (candidates : List UInt16) (config : OpenConfig) : Attempt UInt16 :=
  probeFrom config "" candidates

/-- Candidates in ascending order; one that is listed twice is tried twice. -/
def candidates (entries : List DeviceEntry) : List UInt16 :=
  (entries.map (·.devId)).mergeSort fun a b => decide (a ≤ b)

/-- Binds a descriptor to the controller that the selector names. -/
def select (selector : DeviceSelector) (config : OpenConfig) : Attempt UInt16 :=
  match selector with
  | .index devId => (prepare devId config).andThen fun () => .done (.ok devId)
  | .any => fetchList.andThen fun entries =>
    .emit (.log (.probing (candidates entries))) (probe (candidates entries) config)

/-- Runs `work` on a new descriptor, and keeps the descriptor only if it succeeds. -/
def onDescriptor {α : Type} (work : Attempt α) : Attempt α :=
  .call .create fun
    | .error cause => .done (.error (.socket cause))
    | .ok () => work.bind fun
      | .error error => discardThen (.error error)
      | .ok value => .done (.ok value)

/-- Opens a channel and tells which controller it is bound to. -/
def channel (selector : DeviceSelector) (config : OpenConfig) : Attempt UInt16 :=
  onDescriptor (select selector config)

end Open

end HciTransport
