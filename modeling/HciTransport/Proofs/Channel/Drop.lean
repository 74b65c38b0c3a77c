import HciTransport.Proofs.Channel.Alone
import HciTransport.Proofs.Channel.Release

/-!
# The end of a channel

A channel is dropped when nothing is in progress on it any more. Whatever happened before, and whichever
requests were abandoned in it, its gate is then one of three (`Run.gate_at_rest`): it was never closed; it
was shut down; or it was closed, and whoever was to give the descriptor back was undone before that. The
drop does what is missing and nothing else, so in the life of a channel there is one close frame and one
release (`Run.shutDown`).
-/

namespace HciTransport

/-- A request to a descriptor and its answer, as they are seen. -/
abbrev DescriptorCall.asked (call : DescriptorCall) (answer : call.Answer) : Sign Descriptor :=
  .asked call answer

/-- The request gives the descriptor back. -/
def DescriptorCall.isRelease : DescriptorCall → Bool
  | .release => true
  | _ => false

/-- The request sends the close frame. -/
def DescriptorCall.isCloseFrame : DescriptorCall → Bool
  | .write bytes => bytes = closeFrame
  | _ => false

namespace Channel

variable {devId : UInt16} {system : System} {history : List Occurrence} {trace : Trace Descriptor}

/-! ## The gate that a drop finds -/

/-- At rest no lock is held. -/
theorem Run.unlocked_at_rest (hrun : Run devId history system) (hrest : system.AtRest) (lock : Lock) :
    system.gate.isLocked lock = false := by
  have hcount := hrun.countP_holds lock
  rw [hrest.countP_eq_zero (fun _ => rfl)] at hcount
  exact Bool.toNat_eq_zero.mp hcount.symm

/-- **At rest the gate is one of three**, whatever was abandoned before. -/
theorem Run.gate_at_rest (hrun : Run devId history system) (hrest : system.AtRest) :
    system.gate = .opened ∨ system.gate = .shut ∨ system.gate = .kept := by
  have hread : system.gate.readLocked = false := hrun.unlocked_at_rest hrest .read
  have hwrite : system.gate.writeLocked = false := hrun.unlocked_at_rest hrest .write
  have hgiven := hrun.closed_of_released
  generalize system.gate = gate at hread hwrite hgiven
  obtain ⟨closed, released, readLocked, writeLocked⟩ := gate
  simp only at hread hwrite hgiven
  subst hread hwrite
  -- Of the four ways in which the two flags can stand, one is ruled out: nothing is given back on an open channel.
  cases released with
  | true =>
    rw [hgiven rfl]
    exact .inr (.inl rfl)
  | false =>
    cases closed with
    | true => exact .inr (.inr rfl)
    | false => exact .inl rfl

/-! ## What a drop does -/

/-- How the operation of a drop ends. -/
def dropped : Gate × Point := (.shut, .ended (.returned .dropped))

/-- A drop is its operation, and then the descriptor is forgotten. -/
theorem runs_drop_iff {gate : Gate} :
    (drop devId gate).Runs trace () ↔
      ∃ shown ending, (run devId gate .drop).Runs shown ending ∧
        trace = shown ++ [DescriptorCall.discard.asked ()] := by
  rw [drop, Program.runs_bind_iff]
  constructor
  · rintro ⟨shown, after, ending, rfl, hrun, hlast⟩
    obtain ⟨answer, rfl, -⟩ := Program.runs_ask_iff.mp hlast
    exact ⟨shown, ending, hrun, rfl⟩
  · rintro ⟨shown, ending, hrun, rfl⟩
    exact ⟨shown, _, ending, rfl, hrun, Program.runs_ask_iff.mpr ⟨(), rfl, rfl⟩⟩

variable {ending : Gate × Point}

/-- The end of a channel that nobody closed shows the close frame, the release, and what is logged about both. -/
theorem shown_of_drop_opened (hruns : (run devId .opened .drop).Runs trace ending) :
    ending = dropped ∧ ∃ (answer : (DescriptorCall.write closeFrame).Answer)
      (outcome : DescriptorCall.release.Answer),
      trace = (DescriptorCall.write closeFrame).asked answer ::
        (Trace.ofLog (frameWarning devId answer ++ [.closing devId]) ++
          DescriptorCall.release.asked outcome ::
            Trace.ofLog (releaseWarning devId (some outcome))) := by
  rw [run_drop_opened] at hruns
  obtain ⟨answer, _, rfl, hsent⟩ := Program.runs_call_iff.mp hruns
  obtain ⟨_, rfl, hnoted⟩ := Program.runs_logAll_iff.mp hsent
  obtain ⟨outcome, _, rfl, hreleased⟩ := Program.runs_call_iff.mp hnoted
  obtain ⟨_, rfl, hdone⟩ := Program.runs_logAll_iff.mp hreleased
  obtain ⟨rfl, rfl⟩ := Program.runs_done_iff.mp hdone
  exact ⟨rfl, answer, outcome, by rw [List.append_nil]⟩

/-- The end of a channel that was shut down shows nothing. -/
theorem shown_of_drop_shut (hruns : (run devId .shut .drop).Runs trace ending) :
    ending = dropped ∧ trace = [] := by
  rw [run_drop_shut] at hruns
  obtain ⟨rfl, rfl⟩ := Program.runs_done_iff.mp hruns
  exact ⟨rfl, rfl⟩

/-- The end of a channel whose descriptor was kept shows the release. -/
theorem shown_of_drop_kept (hruns : (run devId .kept .drop).Runs trace ending) :
    ending = dropped ∧ ∃ outcome : DescriptorCall.release.Answer,
      trace = DescriptorCall.release.asked outcome :: Trace.ofLog (releaseWarning devId (some outcome)) := by
  rw [run_drop_kept] at hruns
  obtain ⟨outcome, _, rfl, hreleased⟩ := Program.runs_call_iff.mp hruns
  obtain ⟨_, rfl, hdone⟩ := Program.runs_logAll_iff.mp hreleased
  obtain ⟨rfl, rfl⟩ := Program.runs_done_iff.mp hdone
  exact ⟨rfl, outcome, by rw [List.append_nil]⟩

/-! ## The main result -/

/-- What a drop still has to ask for, by the gate that it finds. -/
def missing (gate : Gate) : List DescriptorCall :=
  (if gate.closed then [] else [.write closeFrame]) ++ if gate.released then [] else [.release]

/-- How the life of a channel ends, when `trace` is seen of its drop. -/
structure ShutDown (devId : UInt16) (history : List Occurrence) (system : System)
    (trace : Trace Descriptor) : Prop where
  /-- The operation of the drop comes to its end and leaves both flags set. -/
  flags : ∃ shown gate, (run devId system.gate .drop).Runs shown (gate, .ended (.returned .dropped)) ∧
    trace = shown ++ [DescriptorCall.discard.asked ()] ∧ gate.closed = true ∧ gate.released = true
  /-- The drop asks for what is missing, and forgets the descriptor. -/
  asks : trace.calls = missing system.gate ++ [.discard]
  release_once :
    history.countP Occurrence.isRelease + trace.calls.countP DescriptorCall.isRelease = 1
  frame_once :
    history.countP Occurrence.isCloseFrame + trace.calls.countP DescriptorCall.isCloseFrame = 1

/-- At rest the books are closed: what is marked has begun. -/
theorem Run.counts_at_rest (hrun : Run devId history system) (hrest : system.AtRest) :
    history.countP Occurrence.isRelease = system.gate.released.toNat ∧
      history.countP Occurrence.isCloseFrame = system.gate.closed.toNat := by
  have hrelease := hrun.release_ledger
  have hframe := hrun.closeFrame_ledger
  rw [hrest.countP_eq_zero (fun _ => rfl)] at hrelease hframe
  exact ⟨hrelease, hframe⟩

/-- **A drop completes the shutdown, whatever happened before**, if its own requests are answered. -/
theorem Run.shutDown (hrun : Run devId history system) (hrest : system.AtRest)
    (hdrop : (drop devId system.gate).Runs trace ()) : ShutDown devId history system trace := by
  obtain ⟨shown, ending, hshown, rfl⟩ := runs_drop_iff.mp hdrop
  -- The drop ends with the gate shut, and has asked for what was missing.
  have hwhole : ending = dropped ∧ Trace.calls shown = missing system.gate := by
    rcases hrun.gate_at_rest hrest with hgate | hgate | hgate
    · rw [hgate] at hshown ⊢
      obtain ⟨hending, answer, outcome, rfl⟩ := shown_of_drop_opened hshown
      refine ⟨hending, ?_⟩
      simp [missing, Gate.opened]
    · rw [hgate] at hshown ⊢
      obtain ⟨hending, rfl⟩ := shown_of_drop_shut hshown
      exact ⟨hending, rfl⟩
    · rw [hgate] at hshown ⊢
      obtain ⟨hending, outcome, rfl⟩ := shown_of_drop_kept hshown
      refine ⟨hending, ?_⟩
      simp [missing, Gate.kept]
  obtain ⟨rfl, hcalls⟩ := hwhole
  have hasks : Trace.calls (shown ++ [DescriptorCall.discard.asked ()]) =
      missing system.gate ++ [.discard] := by
    rw [Trace.calls_append, hcalls]
    rfl
  obtain ⟨hrelease, hframe⟩ := hrun.counts_at_rest hrest
  refine ⟨⟨shown, .shut, hshown, rfl, rfl, rfl⟩, hasks, ?_, ?_⟩
  -- What is marked has begun, and what is not marked is missing: together that is once.
  · rw [hasks, hrelease, missing]
    cases system.gate.closed <;> cases system.gate.released <;> rfl
  · rw [hasks, hframe, missing]
    cases system.gate.closed <;> cases system.gate.released <;> rfl

/-- A close leaves the release to a read, and the request of the read is abandoned: nobody gives the
descriptor back before the drop. -/
def tornRead : List Choice :=
  [.read 4, .go 0, .go 0, .go 0, .go 0,
   .close, .go 1, .go 1, .go 1, .answer 1 Pending.granted, .go 1, .go 1,
   .abandon 0, .go 0]

/-- The drop comes upon the third gate, and makes the release that the read has left undone. -/
theorem shutDown_tornRead :
    Run 0 (play 0 tornRead).1 (play 0 tornRead).2 ∧ (play 0 tornRead).2.AtRest ∧
      (play 0 tornRead).2.gate = .kept ∧
      (drop 0 (play 0 tornRead).2.gate).Runs
        [DescriptorCall.release.asked (.ok ()), DescriptorCall.discard.asked ()] () ∧
      ShutDown 0 (play 0 tornRead).1 (play 0 tornRead).2
        [DescriptorCall.release.asked (.ok ()), DescriptorCall.discard.asked ()] := by
  have hrun : Run 0 (play 0 tornRead).1 (play 0 tornRead).2 := run_play 0 tornRead
  have hrest : (play 0 tornRead).2.AtRest := by
    unfold System.AtRest
    decide
  have hgate : (play 0 tornRead).2.gate = .kept := rfl
  have hdrop : (drop 0 (play 0 tornRead).2.gate).Runs
      [DescriptorCall.release.asked (.ok ()), DescriptorCall.discard.asked ()] () := by
    rw [hgate, runs_drop_iff, run_drop_kept]
    refine ⟨[DescriptorCall.release.asked (.ok ())], dropped, ?_, rfl⟩
    exact .call _ (.done _)
  exact ⟨hrun, hrest, hgate, hdrop, hrun.shutDown hrest hdrop⟩

end Channel

end HciTransport
