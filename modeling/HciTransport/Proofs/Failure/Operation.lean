import HciTransport.Proofs.Channel.Account
import HciTransport.Proofs.Channel.Drop
import HciTransport.Proofs.Channel.Progress
import HciTransport.Proofs.Failure.Request
import HciTransport.Proofs.Open.Opening

/-!
# Operations and what is seen of each

An operation of the transport is a control operation, the opening of a channel, a call on an open channel or
the drop of one. `Performed` says what can be seen of an operation by itself, and whether it succeeds. For a
call on a channel that is what is seen of it in any run, whatever other calls do meanwhile: the table of
accounts leaves five shapes for it (`Channel.Finished`).
-/

namespace HciTransport

variable {ε α : Type}

/-- Whether a result is a success, and what error it is otherwise. -/
def verdict (result : Except ε α) : Except ε Unit := result.map fun _ => ()

/-! ## Calls on a channel -/

namespace Channel

variable {devId : UInt16} {i : Nat} {system : System} {history : List Occurrence} {point asked : Point}
  {done : List Deed} {result : Result}

/-- Whether a call has succeeded, and what error it has otherwise. -/
def Result.verdict : Result → Except HciError Unit
  | .read receipt => HciTransport.verdict receipt.outcome
  | .write outcome => HciTransport.verdict outcome
  | .close outcome => outcome
  | .dropped => .ok ()

/-- What is seen of a deed; that a request has begun is seen when it is answered. -/
def Deed.sign? : Deed → Option (Sign Descriptor)
  | .began _ => none
  | .answered pending answer => some (.asked pending.call answer)
  | .logged entry => some (.said (.log entry))

/-- What is seen of deeds, in order. -/
def signs (done : List Deed) : Trace Descriptor := done.filterMap Deed.sign?

@[simp] theorem signs_append (done more : List Deed) : signs (done ++ more) = signs done ++ signs more :=
  List.filterMap_append

@[simp] theorem signs_cons_logged (entry : LogEntry) (done : List Deed) :
    signs (.logged entry :: done) = .said (.log entry) :: signs done := rfl

@[simp] theorem signs_logged (log : List LogEntry) : signs (log.map .logged) = Trace.ofLog log := by
  induction log with
  | nil => rfl
  | cons entry log ih => exact congrArg (.said (.log entry) :: ·) ih

/-- What is seen of one operation of a run. -/
def shown (history : List Occurrence) (operation : Nat) : Trace Descriptor := signs (deeds history operation)

/-- A request that was dealt with is seen with its answer, and the log of it after that. -/
@[simp] theorem signs_dealt (pending : Pending) (answer : pending.call.Answer) :
    signs (pending.dealt devId answer) =
      .asked pending.call answer :: Trace.ofLog (resume devId pending answer).2 := by
  change .asked pending.call answer :: signs ((resume devId pending answer).2.map .logged) = _
  rw [signs_logged]

/-- What is seen of a read at the descriptor. -/
def received (length : Nat) : Option (Receipt IoError) → Trace Descriptor
  | none => []
  | some receipt => [(DescriptorCall.read length).asked receipt]

/-- What is seen of a release. -/
def givenBack : Option (Except IoError Unit) → Trace Descriptor
  | none => []
  | some outcome => [DescriptorCall.release.asked outcome]

/-- What a read has done at the descriptor is seen so. -/
theorem signs_readDeeds (length : Nat) (got : Option (Receipt IoError)) :
    signs (readDeeds devId length got) = received length got := by
  cases got with
  | none => rfl
  | some receipt => exact signs_dealt (.read length) receipt

/-- What was done about a release is seen so. -/
theorem signs_releaseDeeds (releaser : Releaser) (outcome : Option (Except IoError Unit)) :
    signs (releaseDeeds devId releaser outcome) = givenBack outcome := by
  cases outcome with
  | none => rfl
  | some outcome => exact signs_dealt (.release releaser) outcome

/-- A frame is seen with a note on it. -/
theorem signs_writeDealt (frame : Bytes) (answer : Except IoError Nat) :
    signs ((Pending.write frame).dealt devId answer) =
      (DescriptorCall.write frame).asked answer :: Trace.ofLog (frameNote devId answer) := by
  cases answer <;> rfl

/-- The close frame is seen with a warning where it has failed. -/
theorem signs_frameDealt (closer : Closer) (answer : Except IoError Nat) :
    signs ((Pending.closeFrame closer).dealt devId answer) =
      (DescriptorCall.write closeFrame).asked answer :: Trace.ofLog (frameWarning devId answer) := by
  cases answer <;> rfl

/-- What a close returns when this came of its release, or when it made none. -/
def closeVerdict : Option (Except IoError Unit) → Except HciError Unit
  | none => .ok ()
  | some outcome => outcome.mapError .close

/-- What is seen of a call that has returned, by what it was asked to do, and whether it succeeded. -/
inductive Finished (devId : UInt16) : Point → Trace Descriptor → Except HciError Unit → Prop where
  /-- A read gives the descriptor back if it finds the channel closed and nobody else has. -/
  | read (length : Nat) (got : Option (Receipt IoError)) (released : Option (Except IoError Unit)) :
      Finished devId (.read length)
        (received length got ++ (givenBack released ++
          Trace.ofLog (releaseWarning devId released ++ (readResult devId got).2)))
        (verdict (readResult devId got).1.outcome)
  | writeRefused (frame : Bytes) : Finished devId (.write frame) [] (.error .closed)
  | write (frame : Bytes) (answer : Except IoError Nat) :
      Finished devId (.write frame)
        ((DescriptorCall.write frame).asked answer :: Trace.ofLog (frameNote devId answer))
        (verdict (answer.mapError .send))
  | closeAgain : Finished devId .close (Trace.ofLog [.alreadyClosed devId]) (.ok ())
  /-- A close gives the descriptor back unless a read holds it. -/
  | close (answer : Except IoError Nat) (released : Option (Except IoError Unit)) :
      Finished devId .close
        ((DescriptorCall.write closeFrame).asked answer ::
          (Trace.ofLog (frameWarning devId answer ++ [.closing devId]) ++ (givenBack released ++
            Trace.ofLog (afterRelease devId (.closer .caller) released).2)))
        (closeVerdict released)

/-- **What the table of accounts leaves for a call that has returned.** -/
theorem Account.finished {decided : Option Phase} (haccount : Account devId asked decided done point)
    (hover : point = .ended (.returned result)) : Finished devId asked (signs done) result.verdict := by
  -- Of all rows of the table only those remain that end with a result.
  cases haccount with
  | @readOver length got =>
    cases hover
    rw [signs_append, signs_readDeeds, signs_logged]
    exact .read length got none
  | @readReleasing length got tail point htail =>
    cases htail with
    | finished outcome hresult =>
      cases hresult
      cases hover
      rw [signs_append, signs_append, signs_readDeeds, signs_releaseDeeds, signs_logged]
      exact .read length got outcome
    | _ => cases hover
  | @writeRefused frame =>
    cases hover
    exact .writeRefused frame
  | @writeOver frame answer =>
    cases hover
    rw [signs_writeDealt]
    exact .write frame answer
  | closeAgain =>
    cases hover
    exact .closeAgain
  | closeReleasing answer htail =>
    cases htail with
    | finished outcome hresult =>
      -- The warning and the note on the close are one log in the row, and two parts of the account.
      have hlog : Trace.ofLog (frameWarning devId answer ++ [.closing devId]) =
          (Trace.ofLog (frameWarning devId answer) ++ [.said (.log (.closing devId))] : Trace Descriptor) :=
        List.map_append
      have hshown : Finished devId .close _ _ := .close answer outcome
      rw [hlog, List.append_assoc] at hshown
      rw [signs_append, signs_cons_logged, signs_append, signs_frameDealt, signs_releaseDeeds, signs_logged]
      cases outcome <;> cases hresult <;> cases hover <;> exact hshown
    | _ => cases hover
  | _ => cases hover

/-- What is seen of a call that has returned, in any run. -/
theorem Run.finished (hrun : Run devId history system) (hstarted : .started i asked ∈ history)
    (hover : system.points[i]? = some (.ended (.returned result))) :
    Finished devId asked (shown history i) result.verdict := by
  have hcourse := hrun.course hover
  obtain ⟨start, decided, -, hmem, haccount⟩ := hcourse.account
  -- An operation starts once, so its account is that of what was asked.
  obtain rfl : start = asked := hcourse.started_unique hmem (mem_own.mpr ⟨hstarted, rfl⟩)
  exact haccount.finished rfl

/-! ### Which requests of a call fail -/

variable {cause : IoError} {sign : Sign Descriptor} {length : Nat} {got : Option (Receipt IoError)}
  {released : Option (Except IoError Unit)}

/-- Where a read at the descriptor has failed, there was one, and it has stored what it could. -/
theorem mem_failed_received (hmem : sign ∈ failed (received length got)) :
    ∃ stored cause, got = some ⟨stored, .error cause⟩ ∧
      sign = (DescriptorCall.read length).asked (⟨stored, .error cause⟩ : Receipt IoError) := by
  rcases got with _ | ⟨stored, cause | count⟩
  · cases hmem
  · exact ⟨stored, cause, rfl, List.mem_singleton.mp hmem⟩
  · cases hmem

/-- Where a release has failed, there was one. -/
theorem mem_failed_givenBack (hmem : sign ∈ failed (givenBack released)) :
    ∃ cause, released = some (.error cause) ∧ sign = DescriptorCall.release.asked (.error cause) := by
  rcases released with _ | cause | _
  · cases hmem
  · exact ⟨cause, rfl, List.mem_singleton.mp hmem⟩
  · cases hmem

/-- A request to write fails, and what is seen after it, or only what is seen after it. -/
theorem failed_write_cons (frame : Bytes) (answer : Except IoError Nat) (trace : Trace Descriptor) :
    failed ((DescriptorCall.write frame).asked answer :: trace) =
      (match answer with
        | .ok _ => []
        | .error cause => [(DescriptorCall.write frame).asked (.error cause)]) ++ failed trace := by
  cases answer <;> rfl

end Channel

/-! ## The open sequence -/

namespace Open

variable {devId : UInt16} {config : OpenConfig} {trace : Trace Descriptor} {error : HciError}

/-- A refused attempt answers for the one request that has failed. -/
theorem Prepared.answered (hprepared : Prepared devId config trace (.error error)) :
    Answered trace (.error error : Except HciError Unit) := by
  cases hprepared with
  | notDown | notUp | notDownAgain | notBound => exact .error _ rfl rfl

/-- What fails in an attempt that succeeds fails when the input that waits is dealt with. -/
theorem Prepared.failed_of_ok (hprepared : Prepared devId config trace (.ok ())) :
    ∃ before drained, trace = before ++ granted devId :: .said (.log (.bound devId)) :: drained ∧
      Drained devId config drained ∧ failed trace = failed drained := by
  cases hprepared with
  | bound hdrained => exact ⟨_, _, rfl, hdrained, by rw [failed_append]; rfl⟩

end Open

/-! ## Operations -/

/-- What the transport can be asked to do. -/
inductive Operation where
  | operate (op : ControlOp) (devId : UInt16)
  | info (devId : UInt16)
  | list
  | devices
  | open (selector : DeviceSelector) (config : OpenConfig)
  | read (length : Nat)
  | write (frame : Bytes)
  | close
  | drop

/-- A call on an open channel, as it is asked for. -/
def Operation.asked? : Operation → Option Channel.Point
  | .read length => some (.read length)
  | .write frame => some (.write frame)
  | .close => some .close
  | _ => none

/-- The operation can be performed so that this is seen of it, and succeeds or fails so. -/
inductive Performed : Operation → Trace Descriptor → Except HciError Unit → Prop where
  | operate {op : ControlOp} {devId : UInt16} {trace : Trace Descriptor} {result : Except HciError Unit}
      (hruns : (Control.operate op devId).Runs trace result) :
      Performed (.operate op devId) trace (verdict result)
  | info {devId : UInt16} {trace : Trace Descriptor} {result : Except HciError DeviceInfo}
      (hruns : (Control.info devId).Runs trace result) : Performed (.info devId) trace (verdict result)
  | list {trace : Trace Descriptor} {result : Except HciError (List DeviceEntry)}
      (hruns : Control.list.Runs trace result) : Performed .list trace (verdict result)
  | devices {trace : Trace Descriptor} {result : Except HciError (List DeviceInfo)}
      (hruns : Control.devices.Runs trace result) : Performed .devices trace (verdict result)
  | open {selector : DeviceSelector} {config : OpenConfig} {trace : Trace Descriptor}
      {result : Except HciError UInt16} (hruns : (Open.channel selector config).Runs trace result) :
      Performed (.open selector config) trace (verdict result)
  /-- A call of any run on one channel, once it has returned. -/
  | call {operation : Operation} {asked : Channel.Point} {devId : UInt16} {history : List Channel.Occurrence}
      {system : Channel.System} {i : Nat} {result : Channel.Result} (hasked : operation.asked? = some asked)
      (hrun : Channel.Run devId history system) (hstarted : .started i asked ∈ history)
      (hover : system.points[i]? = some (.ended (.returned result))) :
      Performed operation (Channel.shown history i) result.verdict
  /-- A channel is dropped when nothing is in progress on it any more. -/
  | drop {devId : UInt16} {history : List Channel.Occurrence} {system : Channel.System}
      {trace : Trace Descriptor} (hrun : Channel.Run devId history system) (hrest : system.AtRest)
      (hruns : (Channel.drop devId system.gate).Runs trace ()) : Performed .drop trace (.ok ())

end HciTransport
