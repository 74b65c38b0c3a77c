import HciTransport.Proofs.Simulation.Drive

/-!
# Streams agree with the calls they are made of

A byte stream over a channel makes the channel's own calls, so it leaves everything as they do, and reports the same
but for the form of an error (`act_streamRead`, `act_streamWrite`). What form that can be is settled by the two-state
machine that every call in a scene follows, with whatever gate, script and company: a failed read has the error of its
request, and so has a failed write, unless the channel was closed (`failed_of_drive`). `StreamsAgree` collects that,
and the same of calls that overlap in any way.
-/

namespace HciTransport.Simulation

open Channel (Asked Point Run Streamed deeds transfers)

variable {scene : Scene} {others : Policy} {point asked : Point} {length : Nat} {error : HciError} {cause : IoError}
  {result : Channel.Result}

/-! ## Results -/

/-- A result as a stream reports it. -/
def Result.streamed : Result → Result
  | .hciError error => .ioError error.toIoError
  | result => result

/-- A call of the channel reports no error in the form of a stream. -/
theorem resultOf_ne_ioError (length : Nat) (point : Point) (cause : IoError) :
    resultOf length point ≠ .ioError cause := by
  fun_cases resultOf length point <;> exact fun hfailed => nomatch hfailed

/-- A call that has failed has returned its error. -/
theorem of_resultOf_eq_hciError (hfailed : resultOf length point = .hciError error) :
    ∃ result, point = .ended (.returned result) ∧
      (result.counted? = some (.error error) ∨ result = .close (.error error)) := by
  revert hfailed
  fun_cases resultOf length point with
  | case2 stored other | case4 other =>
    intro hfailed
    cases hfailed
    exact ⟨_, rfl, .inl rfl⟩
  | case6 other =>
    intro hfailed
    cases hfailed
    exact ⟨_, rfl, .inr rfl⟩
  | case1 | case3 | case5 | case7 | case8 | case9 => exact fun hfailed => nomatch hfailed

/-- An error of a stream is made of one of the call. -/
theorem of_streamed_eq_ioError (hfailed : (resultOf length point).streamed = .ioError cause) :
    ∃ error, resultOf length point = .hciError error ∧ error.toIoError = cause := by
  cases hown : resultOf length point with
  | hciError error =>
    rw [hown] at hfailed
    exact ⟨error, rfl, Result.ioError.inj hfailed⟩
  | ioError other => exact absurd hown (resultOf_ne_ioError length point other)
  | value | faulty | noSocket | unwound | stuck =>
    rw [hown] at hfailed
    cases hfailed

/-- Whoever owns the channel, the others leave the controller as it is. -/
theorem keeps_policy (owned : Bool) : (Session.policy owned).Keeps := by
  cases owned with
  | false => exact keeps_doAll
  | true => exact keeps_skipAll

theorem idle_policy (owned : Bool) : (Session.policy owned).Idle := by
  cases owned <;> exact fun _ _ => rfl

/-! ## Calls that move bytes -/

/-- **A call that fails reports what its request was told**, and its error is never one that is wrapped anew. Without
a request it reports that the channel was closed when the call began. -/
theorem failed_of_drive (hkeeps : others.Keeps) (hasked : Asked asked) (hmoves : asked ≠ .close)
    (hfailed : resultOf length (scene.drive others asked).2 = .hciError error) :
    error.isRewrapped = false ∧ ∃ done, Driven others scene asked done (scene.drive others asked).1
      (scene.drive others asked).2 ∧ Streamed scene.channel.gate.phase asked done (.error error.toIoError) := by
  obtain ⟨result, hover, hresult⟩ := of_resultOf_eq_hciError hfailed
  obtain ⟨done, hdriven, hcall⟩ := machine_of_drive hkeeps hasked hover
  rw [hover]
  -- An error comes from a call that moves bytes, or from a close, which is none.
  rcases hresult with hcounted | rfl
  · obtain ⟨hstreamed, hplain⟩ := hcall.streamed hcounted
    exact ⟨hplain error rfl, done, hdriven, hstreamed⟩
  · have hkind := hcall.kind_eq
    cases hasked with
    | read | write => cases hkind
    | close => exact absurd rfl hmoves

theorem kind_of_drive (hkeeps : others.Keeps) (hasked : Asked asked)
    (hover : (scene.drive others asked).2 = .ended (.returned result)) : asked.kind? = some result.kind := by
  obtain ⟨done, -, hcall⟩ := machine_of_drive hkeeps hasked hover
  exact hcall.kind_eq

/-! ## The main result -/

namespace Session

/-- A stream over a channel and the channel's own calls come to the same. -/
structure StreamsAgree : Prop where
  /-- A stream makes the channel's own call, and reports the same but for the form of an error. -/
  read : ∀ scene length owned, act scene (.streamRead length owned) = ((scene.drive (policy owned) (.read length)).1,
    (resultOf length (scene.drive (policy owned) (.read length)).2).streamed)
  write : ∀ scene frame owned, act scene (.streamWrite frame owned) = ((scene.drive (policy owned) (.write frame)).1,
    (resultOf 0 (scene.drive (policy owned) (.write frame)).2).streamed)
  /-- So a shared stream leaves all as the call does that is made instead. -/
  read_shared : ∀ scene length, act scene (.streamRead length false) =
    ((act scene (.read length)).1, (act scene (.read length)).2.streamed)
  write_shared : ∀ scene frame, act scene (.streamWrite frame false) =
    ((act scene (.write frame)).1, (act scene (.write frame)).2.streamed)
  /-- And so does an owned one, where nobody else would do anything on the channel meanwhile. -/
  read_owned : ∀ scene length, scene.world.script.Quiet → act scene (.streamRead length true) =
    ((act scene (.read length)).1, (act scene (.read length)).2.streamed)
  write_owned : ∀ scene frame, scene.world.script.Quiet → act scene (.streamWrite frame true) =
    ((act scene (.write frame)).1, (act scene (.write frame)).2.streamed)
  /-- A failed read has the error of its request. -/
  read_error : ∀ scene length owned cause, (act scene (.streamRead length owned)).2 = .ioError cause →
    ∃ done stored point,
      Driven (policy owned) scene (.read length) done (act scene (.streamRead length owned)).1 point ∧
        transfers done = [.began (.read length), .answered (.read length) (⟨stored, .error cause⟩ : Receipt IoError)]
  /-- So has a failed write, unless the channel was closed. -/
  write_error : ∀ scene frame owned cause, (act scene (.streamWrite frame owned)).2 = .ioError cause →
    ∃ done point, Driven (policy owned) scene (.write frame) done (act scene (.streamWrite frame owned)).1 point ∧
      (transfers done = [.began (.write frame), .answered (.write frame) (.error cause : Except IoError Nat)] ∨
        transfers done = [] ∧ scene.channel.gate.closed = true ∧ cause.errorKind = .notConnected ∧
          cause.text = "hci socket is closed" ∧ cause.number? = none)
  /-- Some errors would be wrapped as one of another kind. -/
  rewrapped : ∀ error : HciError, error.isRewrapped = true → error.toIoError = .custom .other error.message
  /-- But no call that a stream makes returns one of them. -/
  read_plain : ∀ (scene : Scene) length owned error,
    resultOf length (scene.drive (policy owned) (.read length)).2 = .hciError error → error.isRewrapped = false
  write_plain : ∀ (scene : Scene) frame owned error,
    resultOf 0 (scene.drive (policy owned) (.write frame)).2 = .hciError error → error.isRewrapped = false
  /-- The loops that fill a buffer or send all of a text are given the same errors. -/
  read_step : ∀ scene length owned,
    (readStep (policy owned) scene length).1 = (act scene (.streamRead length owned)).1 ∧
      ∀ cause, (readStep (policy owned) scene length).2.2 = some (.error cause) ↔
        (act scene (.streamRead length owned)).2 = .ioError cause
  write_step : ∀ scene frame owned,
    (writeStep (policy owned) scene frame).1 = (act scene (.streamWrite frame owned)).1 ∧
      ∀ cause, (writeStep (policy owned) scene frame).2 = some (.error cause) ↔
        (act scene (.streamWrite frame owned)).2 = .ioError cause
  /-- All that is true of calls that overlap in any way, on every channel that can be reached. -/
  overlapping : ∀ devId history system operation asked result outcome, Run devId history system →
    .started operation asked ∈ history → system.points[operation]? = some (.ended (.returned result)) →
      result.counted? = some outcome →
        ∃ phase, Streamed phase asked (deeds history operation) (streamed outcome) ∧
          (phase = .closed → system.gate.closed = true) ∧ ∀ error, outcome = .error error → error.isRewrapped = false

/-! ### What a stream does -/

/-- A read through a stream leaves what the channel's own read leaves, and reports the same but for the form of an
error. -/
theorem act_streamRead (scene : Scene) (length : Nat) (owned : Bool) :
    act scene (.streamRead length owned) = ((scene.drive (policy owned) (.read length)).1,
      (resultOf length (scene.drive (policy owned) (.read length)).2).streamed) := by
  rw [act, Channel.streamRead]
  -- Where the call has ended is all that the two sides make something of.
  rcases hdrive : scene.drive (policy owned) (.read length) with ⟨after, point⟩
  cases point with
  | ended ending =>
    cases ending with
    | returned result =>
      -- Only a read can come back from a read.
      have hkind := kind_of_drive (keeps_policy owned) (.read length) (congrArg Prod.snd hdrive)
      cases result with
      | read receipt => obtain ⟨stored, error | count⟩ := receipt <;> rfl
      | write | close | dropped => cases hkind
    | unwound => rfl
  | _ => rfl

/-- A write through a stream leaves what the channel's own write leaves, and reports the same but for the form of an
error. -/
theorem act_streamWrite (scene : Scene) (frame : Bytes) (owned : Bool) :
    act scene (.streamWrite frame owned) = ((scene.drive (policy owned) (.write frame)).1,
      (resultOf 0 (scene.drive (policy owned) (.write frame)).2).streamed) := by
  rw [act, Channel.streamWrite]
  rcases hdrive : scene.drive (policy owned) (.write frame) with ⟨after, point⟩
  cases point with
  | ended ending =>
    cases ending with
    | returned result =>
      have hkind := kind_of_drive (keeps_policy owned) (.write frame) (congrArg Prod.snd hdrive)
      cases result with
      | write outcome => obtain error | count := outcome <;> rfl
      | read | close | dropped => cases hkind
    | unwound => rfl
  | _ => rfl

/-- A stream that shares its channel reads as the channel does. -/
theorem act_streamRead_shared (scene : Scene) (length : Nat) :
    act scene (.streamRead length false) = ((act scene (.read length)).1, (act scene (.read length)).2.streamed) := by
  rw [act_streamRead, act, show policy false = Scene.doAll from rfl]

theorem act_streamWrite_shared (scene : Scene) (frame : Bytes) :
    act scene (.streamWrite frame false) = ((act scene (.write frame)).1, (act scene (.write frame)).2.streamed) := by
  rw [act_streamWrite, act, show policy false = Scene.doAll from rfl]

/-- It makes no difference who owns the channel where nobody else does anything. -/
theorem act_streamRead_owned (hquiet : scene.world.script.Quiet) (length : Nat) :
    act scene (.streamRead length true) = act scene (.streamRead length false) := by
  rw [act_streamRead, act_streamRead, drive_eq_of_quiet (idle_policy true) (idle_policy false) hquiet]

theorem act_streamWrite_owned (hquiet : scene.world.script.Quiet) (frame : Bytes) :
    act scene (.streamWrite frame true) = act scene (.streamWrite frame false) := by
  rw [act_streamWrite, act_streamWrite, drive_eq_of_quiet (idle_policy true) (idle_policy false) hquiet]

/-! ### How it fails -/

/-- A read of a stream fails as its request does. -/
theorem read_error_of_act {owned : Bool} (hfailed : (act scene (.streamRead length owned)).2 = .ioError cause) :
    ∃ done stored point,
      Driven (policy owned) scene (.read length) done (act scene (.streamRead length owned)).1 point ∧
        transfers done =
          [.began (.read length), .answered (.read length) (⟨stored, .error cause⟩ : Receipt IoError)] := by
  rw [act_streamRead] at hfailed ⊢
  -- The stream fails because its call does, and with an error that is made of that one.
  obtain ⟨error, hinherent, rfl⟩ := of_streamed_eq_ioError hfailed
  obtain ⟨-, done, hdriven, hstreamed⟩ := failed_of_drive (keeps_policy owned) (.read length) nofun hinherent
  obtain ⟨stored, hown⟩ := hstreamed.of_read_error
  exact ⟨done, stored, _, hdriven, hown⟩

/-- A write of a stream fails as its request does, or because the channel was closed when it began. -/
theorem write_error_of_act {frame : Bytes} {owned : Bool}
    (hfailed : (act scene (.streamWrite frame owned)).2 = .ioError cause) :
    ∃ done point, Driven (policy owned) scene (.write frame) done (act scene (.streamWrite frame owned)).1 point ∧
      (transfers done = [.began (.write frame), .answered (.write frame) (.error cause : Except IoError Nat)] ∨
        transfers done = [] ∧ scene.channel.gate.closed = true ∧ cause = notConnected) := by
  rw [act_streamWrite] at hfailed ⊢
  obtain ⟨error, hinherent, rfl⟩ := of_streamed_eq_ioError hfailed
  obtain ⟨-, done, hdriven, hstreamed⟩ := failed_of_drive (keeps_policy owned) (.write frame) nofun hinherent
  refine ⟨done, _, hdriven, hstreamed.of_write_error.imp_right ?_⟩
  rintro ⟨hnone, hphase, hcause⟩
  exact ⟨hnone, Channel.Gate.closed_of_phase hphase, hcause⟩

/-- A call of a stream fails with what it has returned, and not unless it has returned. -/
theorem streamResult_eq_ioError_iff {α : Type} {view : α → Except IoError Value} {ended : Channel.StreamEnd α} :
    streamResult view ended = .ioError cause ↔
      ∃ returned, ended = .returned returned ∧ view returned = .error cause := by
  cases ended with
  | returned returned =>
    cases hview : view returned with
    | ok value => simp [streamResult, hview]
    | error error => simp [streamResult, hview]
  -- A call that has not returned has no error of a stream to report.
  | resting point => simp [streamResult, resultOf_ne_ioError]

/-- A step of a loop that reads leaves what the stream leaves, and fails as it does. -/
theorem readStep_agrees (scene : Scene) (length : Nat) (owned : Bool) :
    (readStep (policy owned) scene length).1 = (act scene (.streamRead length owned)).1 ∧
      ∀ cause, (readStep (policy owned) scene length).2.2 = some (.error cause) ↔
        (act scene (.streamRead length owned)).2 = .ioError cause := by
  rw [readStep, act]
  -- Both make the same call, and differ in what they keep of its end.
  rcases Channel.streamRead (Scene.drive (policy owned)) scene length with ⟨after, ended⟩
  refine ⟨by cases ended <;> rfl, fun cause => ?_⟩
  rw [streamResult_eq_ioError_iff]
  cases ended with
  | returned receipt => obtain ⟨stored, error | count⟩ := receipt <;> simp [Except.map]
  | resting point => simp

/-- A step of a loop that writes leaves what the stream leaves, and fails as it does. -/
theorem writeStep_agrees (scene : Scene) (frame : Bytes) (owned : Bool) :
    (writeStep (policy owned) scene frame).1 = (act scene (.streamWrite frame owned)).1 ∧
      ∀ cause, (writeStep (policy owned) scene frame).2 = some (.error cause) ↔
        (act scene (.streamWrite frame owned)).2 = .ioError cause := by
  rw [writeStep, act]
  rcases Channel.streamWrite (Scene.drive (policy owned)) scene frame with ⟨after, ended⟩
  refine ⟨by cases ended <;> rfl, fun cause => ?_⟩
  rw [streamResult_eq_ioError_iff]
  cases ended with
  | returned outcome => obtain error | count := outcome <;> simp [Except.map]
  | resting point => simp

/-- **Streams agree with the calls they are made of.** -/
theorem streamsAgree : StreamsAgree where
  read := act_streamRead
  write := act_streamWrite
  read_shared := act_streamRead_shared
  write_shared := act_streamWrite_shared
  read_owned scene length hquiet := by
    rw [act_streamRead_owned hquiet, act_streamRead_shared]
  write_owned scene frame hquiet := by
    rw [act_streamWrite_owned hquiet, act_streamWrite_shared]
  read_error _ _ _ _ := read_error_of_act
  write_error scene frame owned cause hfailed := by
    obtain ⟨done, point, hdriven, hown | ⟨hnone, hclosed, rfl⟩⟩ := write_error_of_act hfailed
    · exact ⟨done, point, hdriven, .inl hown⟩
    · exact ⟨done, point, hdriven, .inr ⟨hnone, hclosed, rfl, rfl, rfl⟩⟩
  rewrapped _ := HciError.toIoError_of_isRewrapped
  read_plain _ length owned _ hfailed := (failed_of_drive (keeps_policy owned) (.read length) nofun hfailed).1
  write_plain _ frame owned _ hfailed := (failed_of_drive (keeps_policy owned) (.write frame) nofun hfailed).1
  read_step := readStep_agrees
  write_step := writeStep_agrees
  overlapping _ _ _ _ _ _ _ hrun hstarted hover hcounted := hrun.streamed hstarted hover hcounted

/-- A scene in which the first read is interrupted. -/
def interruptedScene : Scene where
  world := { level := .descriptor, script := { read := [{ failure := some (.bare .interrupted) }] } }
  channel := ⟨0, .opened, .absent⟩

/-- The stream reports it as it was, so the read may be made again. -/
theorem streamsAgree_interruptedScene :
    (act interruptedScene (.streamRead 4 true)).2 = .ioError (.bare .interrupted) ∧
      Stream.isInterrupted (.bare .interrupted) = true ∧
      (readStep (policy true) interruptedScene 4).2.2 = some (.error (.bare .interrupted)) := by
  have hfailed : (act interruptedScene (.streamRead 4 true)).2 = .ioError (.bare .interrupted) := rfl
  exact ⟨hfailed, rfl, ((streamsAgree.read_step interruptedScene 4 true).2 _).mpr hfailed⟩

end Session

end HciTransport.Simulation
