import HciTransport.Channel.Stream
import HciTransport.Proofs.Channel.Linearization
import HciTransport.Proofs.Channel.Progress

/-!
# What a byte stream reports of a call

A byte stream over a channel reads and writes by the channel's own calls and turns their errors into those of a
stream. Of all errors of the transport only some can come of these calls, and for them nothing is wrapped anew: the
error of a failed request is taken out as it went in (`streamed_receive`, `streamed_send`), and the only one that
the channel makes itself is that it is closed. `Streamed` is the table of what is reported, by what the descriptor
has told the call; whatever a call returns keeps to it (`Machine.streamed`), in any run (`Run.streamed`).
-/

namespace HciTransport

/-- A stream has no error of its own for it, and wraps it as it is. -/
def HciError.isRewrapped : HciError → Bool
  | .receive _ | .send _ | .close _ | .closed => false
  | .socket _ | .control _ _ _ | .deviceList _ | .bind _ _ | .invalidDevice _ | .noDevices _ => true

/-- An error that is rewrapped becomes one of no particular kind, with its own text. -/
theorem HciError.toIoError_of_isRewrapped {error : HciError} (hrewrapped : error.isRewrapped = true) :
    error.toIoError = .custom .other error.message := by
  cases error with
  | receive | send | close | closed => cases hrewrapped
  | _ => rfl

/-- What the channel itself has to say to a stream: it is closed. -/
def notConnected : IoError := .custom .notConnected "hci socket is closed"

namespace Channel

variable {devId : UInt16} {operation : Nat} {system : System} {history : List Occurrence} {asked : Point}
  {phase final : Phase} {done : List Deed} {result : Result} {outcome : Except HciError Nat}

/-! ## Errors that were wrapped are unwrapped -/

/-- The error of a read is taken out as it went in. -/
theorem streamed_receive (answer : Except IoError Nat) : streamed (answer.mapError .receive) = answer := by
  cases answer <;> rfl

theorem streamed_send (answer : Except IoError Nat) : streamed (answer.mapError .send) = answer := by
  cases answer <;> rfl

/-- The error of a failed read is not wrapped anew. -/
theorem isRewrapped_receive {answer : Except IoError Nat} {error : HciError}
    (herror : answer.mapError .receive = .error error) : error.isRewrapped = false := by
  cases answer <;> cases herror
  rfl

theorem isRewrapped_send {answer : Except IoError Nat} {error : HciError}
    (herror : answer.mapError .send = .error error) : error.isRewrapped = false := by
  cases answer <;> cases herror
  rfl

/-! ## The table -/

/-- What a call that moves bytes returns. -/
def Result.counted? : Result → Option (Except HciError Nat)
  | .read receipt => some receipt.outcome
  | .write outcome => some outcome
  | .close _ | .dropped => none

/-- What a stream reports of a call, by what the call has done: the answer of the descriptor as it is, be it a count
or an error. Where there is none, since the channel was closed, the stream is at its end or not connected. -/
inductive Streamed : Phase → Point → List Deed → Except IoError Nat → Prop where
  | read {done : List Deed} (length : Nat) (answer : Receipt IoError)
      (hown : transfers done = [.began (.read length), .answered (.read length) answer]) :
      Streamed .opened (.read length) done answer.outcome
  | write {done : List Deed} (frame : Bytes) (answer : Except IoError Nat)
      (hown : transfers done = [.began (.write frame), .answered (.write frame) answer]) :
      Streamed .opened (.write frame) done answer
  | readClosed {done : List Deed} (length : Nat) (hnone : transfers done = []) :
      Streamed .closed (.read length) done (.ok 0)
  | writeClosed {done : List Deed} (frame : Bytes) (hnone : transfers done = []) :
      Streamed .closed (.write frame) done (.error notConnected)

/-- **A stream reports what the descriptor has told the call**, and never wraps an error of it anew. -/
theorem Machine.streamed (hcall : Machine phase asked done result final) (hcounted : result.counted? = some outcome) :
    Streamed phase asked done (streamed outcome) ∧ ∀ error, outcome = .error error → error.isRewrapped = false := by
  -- Each row of the machine is a row of the table, as the error is the answer wrapped and unwrapped.
  cases hcall with
  | read length answer hown =>
    obtain rfl : answer.outcome.mapError .receive = outcome := Option.some.inj hcounted
    rw [streamed_receive]
    exact ⟨.read length answer hown, fun error => isRewrapped_receive⟩
  | write frame answer hown =>
    obtain rfl : answer.mapError .send = outcome := Option.some.inj hcounted
    rw [streamed_send]
    exact ⟨.write frame answer hown, fun error => isRewrapped_send⟩
  | readClosed length hnone =>
    cases hcounted
    exact ⟨.readClosed length hnone, fun error herror => nomatch herror⟩
  | writeClosed frame hnone =>
    cases hcounted
    refine ⟨.writeClosed frame hnone, fun error herror => ?_⟩
    cases herror
    rfl
  | close | closeClosed => cases hcounted

/-- A read that fails has the error of its request. -/
theorem Streamed.of_read_error {length : Nat} {cause : IoError}
    (hstreamed : Streamed phase (.read length) done (.error cause)) :
    ∃ stored, transfers done =
      [.began (.read length), .answered (.read length) (⟨stored, .error cause⟩ : Receipt IoError)] := by
  -- The error is no constructor of a receipt, so the case split needs a name for the outcome.
  generalize houtcome : Except.error cause = outcome at hstreamed
  cases hstreamed with
  | read _ answer hown =>
    obtain ⟨stored, outcome⟩ := answer
    subst houtcome
    exact ⟨stored, hown⟩
  | readClosed => cases houtcome

/-- A write that fails has the error of its request, unless the channel was closed. -/
theorem Streamed.of_write_error {frame : Bytes} {cause : IoError}
    (hstreamed : Streamed phase (.write frame) done (.error cause)) :
    transfers done = [.began (.write frame), .answered (.write frame) (.error cause : Except IoError Nat)] ∨
      transfers done = [] ∧ phase = .closed ∧ cause = notConnected := by
  cases hstreamed with
  | write _ _ hown => exact .inl hown
  | writeClosed _ hnone => exact .inr ⟨hnone, rfl, rfl⟩

/-- The machine returns to a call what belongs to its kind. -/
theorem Machine.kind_eq (hcall : Machine phase asked done result final) : asked.kind? = some result.kind := by
  cases hcall <;> rfl

/-! ## In a run -/

/-- A call that has returned has done what the machine does for it. -/
theorem Account.machine (haccount : Account devId asked (some phase) done (.ended (.returned result))) :
    Machine phase asked done result (phase.after asked) := by
  obtain ⟨whole, explained, hcall, -, hreturned⟩ := haccount.explained
  obtain ⟨rfl, rfl⟩ := hreturned result rfl
  exact hcall

/-- A closed channel stays closed through all decisions that follow. -/
theorem Linked.final_closed {order : List Decision} (hlinked : Linked phase order final) (hclosed : phase = .closed) :
    final = .closed := by
  -- Along the decisions: none of them leads out of the closed phase.
  induction hlinked with
  | nil => exact hclosed
  | cons hrest ih => exact ih (by rw [Decision.after, hclosed, Phase.after_closed])

/-- The gate says what the phase is. -/
theorem Gate.closed_of_phase {gate : Gate} (hphase : gate.phase = .closed) : gate.closed = true := by
  rw [Gate.phase] at hphase
  split at hphase
  · assumption
  · cases hphase

/-- Who was decided by a closed channel leaves it closed. -/
theorem Decided.closed_of_mem {order : List Decision} (hdecided : Decided devId history system order)
    {decision : Decision} (hmem : decision ∈ order) (hclosed : decision.phase = .closed) :
    system.gate.closed = true := by
  obtain ⟨earlier, later, rfl⟩ := List.append_of_mem hmem
  -- The order is split in front of the decision, where the phase is the one that has decided it.
  obtain ⟨between, -, hlater⟩ := linked_append_iff.mp hdecided.linked
  have hbetween : between = decision.phase := by cases hlater; rfl
  exact Gate.closed_of_phase (hlater.final_closed (hbetween.trans hclosed))

/-- **A call that has returned is reported by what the descriptor has told it**, whatever else happens on the
channel. It goes without an answer only if the channel was closed. -/
theorem Run.streamed (hrun : Run devId history system) (hstarted : .started operation asked ∈ history)
    (hover : system.points[operation]? = some (.ended (.returned result))) (hcounted : result.counted? = some outcome) :
    ∃ phase, Streamed phase asked (deeds history operation) (streamed outcome) ∧
      (phase = .closed → system.gate.closed = true) ∧ ∀ error, outcome = .error error → error.isRewrapped = false := by
  obtain ⟨order, hdecided⟩ := hrun.exists_decided
  obtain ⟨decision, hmem, rfl⟩ := List.mem_map.mp (hdecided.complete hover rfl)
  obtain ⟨hasked, point, hhere, haccount⟩ := hdecided.account hmem
  obtain rfl : point = _ := Option.some.inj (hhere.symm.trans hover)
  -- An operation starts once, so what was decided is what was asked for.
  obtain rfl : decision.asked = asked :=
    (hrun.course hover).started_unique (mem_own.mpr ⟨hasked, rfl⟩) (mem_own.mpr ⟨hstarted, rfl⟩)
  obtain ⟨hstreamed, hplain⟩ := haccount.machine.streamed hcounted
  exact ⟨decision.phase, hstreamed, hdecided.closed_of_mem hmem, hplain⟩

end Channel

end HciTransport
