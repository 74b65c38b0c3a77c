import HciTransport.Channel.Alone
import HciTransport.Proofs.Trace

/-!
# Operations that meet nobody

An operation that begins while no lock is held runs to its end, and its program is one of few. Such an
operation finds the gate as it was opened, or as it is left when the channel was shut down. The equations
below are what `run` comes to there, for each operation; points, locks and bounds on steps are left
behind in them. The end of a channel can also find it closed and its descriptor kept, where whoever was to
give it back has failed.
-/

namespace HciTransport.Channel

open Program (logAll)

/-- The gate of a channel that was shut down. -/
def Gate.shut : Gate := ⟨true, true, false, false⟩

/-- The gate of a channel that was closed, where nobody came to give the descriptor back. -/
def Gate.kept : Gate := ⟨true, false, false, false⟩

/-- What a close logs about its frame. -/
def frameWarning (devId : UInt16) : Except IoError Nat → List LogEntry
  | .ok _ => []
  | .error cause => [.closeFrameFailed devId cause]

/-- What a write logs about its frame. -/
def frameNote (devId : UInt16) : Except IoError Nat → List LogEntry
  | .ok count => [.frameWritten devId count]
  | .error _ => []

variable (devId : UInt16) (length : Nat) (frame : Bytes)

/-! ## On an open channel -/

/-- A read hands its buffer on, and returns what was stored. -/
theorem run_read_opened :
    run devId .opened (.read length) =
      .call (.read length) fun receipt =>
        logAll (readResult devId (some receipt)).2
          (.done (.opened, .ended (.returned (.read (readResult devId (some receipt)).1)))) := rfl

/-- A write hands its frame on, and returns what was counted. -/
theorem run_write_opened :
    run devId .opened (.write frame) =
      .call (.write frame) fun answer =>
        logAll (frameNote devId answer)
          (.done (.opened, .ended (.returned (.write (answer.mapError .send))))) := by
  -- What is logged is known once the answer is.
  refine Program.call_congr fun answer => ?_
  cases answer <;> rfl

/-- A close sends the close frame and gives the descriptor back, whatever became of the frame. -/
theorem run_close_opened :
    run devId .opened .close =
      .call (.write closeFrame) fun answer =>
        logAll (frameWarning devId answer ++ [.closing devId])
          (.call .release fun outcome =>
            .done (.shut, .ended (.returned (.close (outcome.mapError .close))))) := by
  refine Program.call_congr fun answer => ?_
  cases answer <;> rfl

/-- The end of a channel that nobody closed closes it; then it tries once more to give the descriptor
back, and finds it gone. -/
theorem run_drop_opened :
    run devId .opened .drop =
      .call (.write closeFrame) fun answer =>
        logAll (frameWarning devId answer ++ [.closing devId])
          (.call .release fun outcome =>
            logAll (releaseWarning devId (some outcome))
              (.done (.shut, .ended (.returned .dropped)))) := by
  refine Program.call_congr fun answer => ?_
  cases answer <;> rfl

/-! ## On a closed channel -/

/-- A read finds the end of the stream. -/
theorem run_read_shut :
    run devId .shut (.read length) = .done (.shut, .ended (.returned (.read ⟨[], .ok 0⟩))) := rfl

/-- A write is refused. -/
theorem run_write_shut :
    run devId .shut (.write frame) = .done (.shut, .ended (.returned (.write (.error .closed)))) := rfl

/-- A close has nothing left to do, and says so. -/
theorem run_close_shut :
    run devId .shut .close =
      logAll [.alreadyClosed devId] (.done (.shut, .ended (.returned (.close (.ok ()))))) := rfl

theorem run_drop_shut : run devId .shut .drop = .done (.shut, .ended (.returned .dropped)) := rfl

/-- The end of a channel gives back what whoever closed it has left. -/
theorem run_drop_kept :
    run devId .kept .drop =
      .call .release fun outcome =>
        logAll (releaseWarning devId (some outcome))
          (.done (.shut, .ended (.returned .dropped))) := rfl

end HciTransport.Channel
