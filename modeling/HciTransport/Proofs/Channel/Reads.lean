import HciTransport.Proofs.Channel.Order
import HciTransport.Proofs.Channel.Schedule

/-!
# Reads and the giving back of the descriptor

While a read is at the descriptor the descriptor is not given back, and after that no read goes to it:
its number is never used under a reader, whoever may have got it by then.
-/

namespace HciTransport.Channel

variable {devId : UInt16} {system : System} {history : List Occurrence}

/-- How reads and the release keep apart in a run. -/
structure ReadsApart (devId : UInt16) (history : List Occurrence) (system : System) : Prop where
  /-- One read at most is in progress. -/
  one_read : ∀ i j length other,
    system.InProgress i (.read length) → system.InProgress j (.read other) → i = j
  /-- No read is in progress when the release begins. -/
  none_at_release : ∀ i releaser next, Step devId system (.began i (.release releaser)) next →
    ∀ j length, ¬ system.InProgress j (.read length)
  /-- No read begins after the release has begun. -/
  none_after_release : ∀ earlier later i releaser,
    history = earlier ++ .began i (.release releaser) :: later →
    ∀ j length, .began j (.read length) ∉ later

/-- **Reads exclude each other and the release**, in every run and whatever becomes of the requests. -/
theorem Run.readsApart (hrun : Run devId history system) : ReadsApart devId history system where
  -- Two reads at the descriptor would both hold the read lock.
  one_read i j length other hi hj := hrun.inside_unique hi hj rfl
  none_at_release i releaser next hstep j length hj := by
    have hi := hstep.before_of_began
    -- Both would hold the read lock, so the one that is about to release would be inside a read.
    obtain rfl : i = j := hrun.held_unique hi hj rfl rfl
    rw [System.InProgress, hi] at hj
    cases hj
  none_after_release earlier later i releaser hhistory j length :=
    -- A release begins behind the shut gate, and no read gets past that.
    hrun.none_after_shut hhistory rfl rfl rfl

/-- In this run a read is in progress when the channel is closed, and there is a release. -/
theorem readsApart_lateRead :
    Run 0 (play 0 lateRead).1 (play 0 lateRead).2 ∧
      (play 0 lateRead).1.countP Occurrence.isRelease = 1 ∧
      ReadsApart 0 (play 0 lateRead).1 (play 0 lateRead).2 := by
  have hrun : Run 0 (play 0 lateRead).1 (play 0 lateRead).2 := run_play 0 lateRead
  exact ⟨hrun, rfl, hrun.readsApart⟩

end HciTransport.Channel
