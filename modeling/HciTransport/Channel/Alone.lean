import HciTransport.Channel.Step

/-!
# Operations one at a time

An operation that runs while no other does is a program over the descriptor: its own steps in order,
with a request wherever it begins one. It rests where it ended, or at a lock that is not free.
-/

namespace HciTransport.Channel

/-- At most `steps` steps of one operation; ends with the gate and the point where it rests. -/
def runFor (devId : UInt16) : Nat → Gate → Point → Program Descriptor (Gate × Point)
  | 0, gate, point => .done (gate, point)
  | steps + 1, gate, point =>
    match advance devId gate point with
    | .step gate log next => .logAll log (runFor devId steps gate next)
    | .begin pending => .call pending.call fun answer =>
      let (next, log) := resume devId pending answer
      .logAll log (runFor devId steps gate next)
    | .blocked | .waiting _ | .over _ => .done (gate, point)

/-- One operation, to its end; the rank of its point bounds its steps. -/
def run (devId : UInt16) (gate : Gate) (point : Point) : Program Descriptor (Gate × Point) :=
  runFor devId point.rank gate point

/-- The end of the channel: it is closed if nobody did, the descriptor is given back if nobody did,
and then it is forgotten. -/
def drop (devId : UInt16) (gate : Gate) : Program Descriptor Unit :=
  (run devId gate .drop).bind fun _ => .call .discard fun () => .done ()

end HciTransport.Channel
