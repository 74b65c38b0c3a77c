import HciTransport.Open
import HciTransport.Proofs.Trace

/-!
# What the open sequence shows

One attempt to open the channel of a controller issues three control operations and a bind, and goes no
further than the first of them that fails. `Prepared` is the table of all that can be seen of an attempt,
with its result: a row for each of the four requests that can fail it, and one for an attempt that
succeeds and then deals with the input that waits. The table is complete (`prepared_of_runs`), so nothing
after it opens the programs again.
-/

namespace HciTransport.Open

open Control

variable {devId : UInt16} {config : OpenConfig} {trace : Trace Descriptor}

/-! ## The requests -/

/-- What is seen of a control operation. -/
def issued (op : ControlOp) (devId : UInt16) (answer : Except IoError Unit) : Trace Descriptor :=
  [.said (.log (.control devId op)), .asked (.control op.code devId) answer]

/-- A bind that the kernel grants. -/
def granted (devId : UInt16) : Sign Descriptor := .asked (.bindUserChannel devId) (.ok () : Except IoError Unit)

/-- A bind that the kernel refuses. -/
def denied (devId : UInt16) (cause : IoError) : Sign Descriptor :=
  .asked (.bindUserChannel devId) (.error cause : Except IoError Unit)

/-- A control operation is logged and issued, whatever the kernel says to it. -/
theorem runs_issue_iff {op : ControlOp} {result : Except HciError Unit} :
    (issue op devId).Runs trace result ↔
      ∃ answer, trace = issued op devId answer ∧ result = answer.mapError (.control op devId) := by
  constructor
  · intro hruns
    obtain ⟨_, rfl, hasked⟩ := Program.runs_emit_iff.mp hruns
    obtain ⟨answer, rfl, rfl⟩ := Program.runs_ask_iff.mp hasked
    exact ⟨answer, rfl, rfl⟩
  · rintro ⟨answer, rfl, rfl⟩
    exact .emit (Program.runs_ask_iff.mpr ⟨answer, rfl, rfl⟩)

/-- A bind is logged only if the kernel grants it. -/
theorem runs_bind_iff {result : Except HciError Unit} :
    (bind devId).Runs trace result ↔
      (∃ cause, trace = [denied devId cause] ∧ result = .error (.bind devId cause)) ∨
        trace = [granted devId, .said (.log (.bound devId))] ∧ result = .ok () := by
  constructor
  · intro hruns
    obtain ⟨answer, _, rfl, hnext⟩ := Program.runs_call_iff.mp hruns
    rcases answer with cause | _
    · obtain ⟨rfl, rfl⟩ := Program.runs_done_iff.mp hnext
      exact .inl ⟨cause, rfl, rfl⟩
    · obtain ⟨_, rfl, hdone⟩ := Program.runs_emit_iff.mp hnext
      obtain ⟨rfl, rfl⟩ := Program.runs_done_iff.mp hdone
      exact .inr ⟨rfl, rfl⟩
  · rintro (⟨cause, rfl, rfl⟩ | ⟨rfl, rfl⟩)
    · exact Program.runs_call_iff.mpr ⟨_, [], rfl, .done _⟩
    · exact Program.runs_call_iff.mpr ⟨_, _, rfl, .emit (.done _)⟩

/-! ## Input that waits -/

/-- What is seen of the draining: one wait, and one read if there is something to read. -/
inductive Drained (devId : UInt16) (config : OpenConfig) : Trace Descriptor → Prop where
  | waitFailed (cause : IoError) :
      Drained devId config
        [.asked (.pollReadable config.drainTimeout) (.error cause : Except IoError Bool),
          .said (.log (.drainPollFailed devId cause))]
  | nothing :
      Drained devId config [.asked (.pollReadable config.drainTimeout) (.ok false : Except IoError Bool)]
  | stale (stored : Bytes) (count : Nat) :
      Drained devId config
        [.asked (.pollReadable config.drainTimeout) (.ok true : Except IoError Bool),
          .asked (.read config.drainLength) (⟨stored, .ok count⟩ : Receipt IoError),
          .said (.log (.drained devId count))]
  | readFailed (stored : Bytes) (cause : IoError) :
      Drained devId config
        [.asked (.pollReadable config.drainTimeout) (.ok true : Except IoError Bool),
          .asked (.read config.drainLength) (⟨stored, .error cause⟩ : Receipt IoError),
          .said (.log (.drainReadFailed devId cause))]

/-- Nothing else can be seen of the draining. -/
theorem drained_of_runs (hruns : (drain devId config).Runs trace ()) : Drained devId config trace := by
  obtain ⟨answer, _, rfl, hnext⟩ := Program.runs_call_iff.mp hruns
  rcases answer with cause | readable
  · obtain ⟨_, rfl, hdone⟩ := Program.runs_emit_iff.mp hnext
    obtain ⟨rfl, -⟩ := Program.runs_done_iff.mp hdone
    exact .waitFailed cause
  -- A wait that ran out of time leaves nothing to be read.
  · cases readable with
    | false =>
      obtain ⟨rfl, -⟩ := Program.runs_done_iff.mp hnext
      exact .nothing
    | true =>
      obtain ⟨⟨stored, outcome⟩, _, rfl, hread⟩ := Program.runs_call_iff.mp hnext
      rcases outcome with cause | count
      · obtain ⟨_, rfl, hdone⟩ := Program.runs_emit_iff.mp hread
        obtain ⟨rfl, -⟩ := Program.runs_done_iff.mp hdone
        exact .readFailed stored cause
      · obtain ⟨_, rfl, hdone⟩ := Program.runs_emit_iff.mp hread
        obtain ⟨rfl, -⟩ := Program.runs_done_iff.mp hdone
        exact .stale stored count

/-! ## One attempt -/

/-- What is seen of an attempt to open the channel of one controller, and its result. -/
inductive Prepared (devId : UInt16) (config : OpenConfig) : Trace Descriptor → Except HciError Unit → Prop where
  | notDown (cause : IoError) :
      Prepared devId config (issued .down devId (.error cause)) (.error (.control .down devId cause))
  | notUp (cause : IoError) :
      Prepared devId config (issued .down devId (.ok ()) ++ issued .up devId (.error cause))
        (.error (.control .up devId cause))
  | notDownAgain (cause : IoError) :
      Prepared devId config
        (issued .down devId (.ok ()) ++ issued .up devId (.ok ()) ++ issued .down devId (.error cause))
        (.error (.control .down devId cause))
  | notBound (cause : IoError) :
      Prepared devId config
        (issued .down devId (.ok ()) ++ issued .up devId (.ok ()) ++ issued .down devId (.ok ()) ++
          [denied devId cause])
        (.error (.bind devId cause))
  | bound {drained : Trace Descriptor} (hdrained : Drained devId config drained) :
      Prepared devId config
        (issued .down devId (.ok ()) ++ issued .up devId (.ok ()) ++ issued .down devId (.ok ()) ++
          granted devId :: .said (.log (.bound devId)) :: drained)
        (.ok ())

/-- A control operation fails the attempt, or it succeeds and the attempt goes on. -/
theorem runs_issue_andThen {α : Type} {op : ControlOp} {next : Unit → Attempt α}
    {result : Except HciError α} (hruns : ((issue op devId).andThen next).Runs trace result) :
    (∃ cause, trace = issued op devId (.error cause) ∧ result = .error (.control op devId cause)) ∨
      ∃ rest, trace = issued op devId (.ok ()) ++ rest ∧ (next ()).Runs rest result := by
  rcases Program.runs_andThen_iff.mp hruns with ⟨error, rfl, hfirst⟩ | ⟨before, after, _, rfl, hfirst, hnext⟩
  · obtain ⟨answer, rfl, hresult⟩ := runs_issue_iff.mp hfirst
    rcases answer with cause | _
    · cases hresult
      exact .inl ⟨cause, rfl, rfl⟩
    · cases hresult
  · obtain ⟨answer, rfl, hresult⟩ := runs_issue_iff.mp hfirst
    rcases answer with cause | _
    · cases hresult
    · exact .inr ⟨after, rfl, hnext⟩

/-- **The table is complete.** -/
theorem prepared_of_runs {result : Except HciError Unit} (hruns : (prepare devId config).Runs trace result) :
    Prepared devId config trace result := by
  -- One hurdle at a time: either it is the last that is seen, or the attempt goes on behind it.
  rcases runs_issue_andThen hruns with ⟨cause, rfl, rfl⟩ | ⟨rest, rfl, hup⟩
  · exact .notDown cause
  rcases runs_issue_andThen hup with ⟨cause, rfl, rfl⟩ | ⟨rest, rfl, hdown⟩
  · exact .notUp cause
  rcases runs_issue_andThen hdown with ⟨cause, rfl, rfl⟩ | ⟨rest, rfl, hbind⟩
  · rw [← List.append_assoc]
    exact .notDownAgain cause
  rw [← List.append_assoc, ← List.append_assoc]
  rcases Program.runs_andThen_iff.mp hbind with ⟨error, rfl, hfirst⟩ | ⟨before, after, _, rfl, hfirst, hlast⟩
  · rcases runs_bind_iff.mp hfirst with ⟨cause, rfl, hresult⟩ | ⟨-, hresult⟩
    · cases hresult
      exact .notBound cause
    · cases hresult
  · rcases runs_bind_iff.mp hfirst with ⟨cause, -, hresult⟩ | ⟨rfl, -⟩
    · cases hresult
    -- The draining has no result that could fail the attempt.
    · obtain ⟨drained, _, _, rfl, hdrain, hdone⟩ := Program.runs_bind_iff.mp hlast
      obtain ⟨rfl, rfl⟩ := Program.runs_done_iff.mp hdone
      rw [List.append_nil]
      exact .bound (drained_of_runs hdrain)

/-! ## What is asked for -/

/-- The requests that can fail an attempt, in order. -/
def hurdles (devId : UInt16) : List DescriptorCall :=
  [.control .deviceDown devId, .control .deviceUp devId, .control .deviceDown devId, .bindUserChannel devId]

/-- The draining waits once, and reads at most once. -/
theorem Drained.calls_eq (hdrained : Drained devId config trace) :
    trace.calls = [.pollReadable config.drainTimeout] ∨
      trace.calls = [.pollReadable config.drainTimeout, .read config.drainLength] := by
  cases hdrained with
  | waitFailed | nothing => exact .inl rfl
  | stale | readFailed => exact .inr rfl

theorem Drained.mem_calls (hdrained : Drained devId config trace) {call : DescriptorCall}
    (hmem : call ∈ trace.calls) :
    call = .pollReadable config.drainTimeout ∨ call = .read config.drainLength := by
  rcases hdrained.calls_eq with hcalls | hcalls <;> rw [hcalls] at hmem
  · exact .inl (List.mem_singleton.mp hmem)
  · rcases List.mem_cons.mp hmem with hmem | hmem
    · exact .inl hmem
    · exact .inr (List.mem_singleton.mp hmem)

/-- An attempt that is refused gets so far and no further. -/
theorem Prepared.calls_of_error {error : HciError} (hprepared : Prepared devId config trace (.error error)) :
    ∃ reached, trace.calls = (hurdles devId).take reached := by
  cases hprepared with
  | notDown => exact ⟨1, rfl⟩
  | notUp => exact ⟨2, rfl⟩
  | notDownAgain => exact ⟨3, rfl⟩
  | notBound => exact ⟨4, rfl⟩

/-- An attempt that succeeds has its bind granted, and deals with the input that waits after that. -/
theorem Prepared.split_of_ok (hprepared : Prepared devId config trace (.ok ())) :
    ∃ before drained, trace = before ++ granted devId :: .said (.log (.bound devId)) :: drained ∧
      Drained devId config drained ∧ before.calls = (hurdles devId).take 3 := by
  cases hprepared with
  | bound hdrained => exact ⟨_, _, rfl, hdrained, rfl⟩

/-- An attempt asks for nothing else. -/
theorem Prepared.mem_calls {outcome : Except HciError Unit} (hprepared : Prepared devId config trace outcome)
    {call : DescriptorCall} (hmem : call ∈ trace.calls) :
    call ∈ hurdles devId ∨ call = .pollReadable config.drainTimeout ∨ call = .read config.drainLength := by
  cases outcome with
  | error error =>
    obtain ⟨reached, hcalls⟩ := hprepared.calls_of_error
    rw [hcalls] at hmem
    exact .inl (List.mem_of_mem_take hmem)
  | ok =>
    obtain ⟨before, drained, rfl, hdrained, hcalls⟩ := hprepared.split_of_ok
    rw [Trace.calls_append, hcalls] at hmem
    rcases List.mem_append.mp hmem with hmem | hmem
    · exact .inl (List.mem_of_mem_take hmem)
    · rcases List.mem_cons.mp hmem with rfl | hmem
      · exact .inl (List.mem_of_getElem? (i := 3) rfl)
      · exact .inr (hdrained.mem_calls hmem)

/-! ## In order, and no further than the first failure -/

theorem runs_issue_refused {α : Type} {op : ControlOp} {next : Unit → Attempt α} (cause : IoError) :
    ((issue op devId).andThen next).Runs (issued op devId (.error cause)) (.error (.control op devId cause)) := by
  rw [Program.runs_andThen_iff]
  exact .inl ⟨_, rfl, runs_issue_iff.mpr ⟨.error cause, rfl, rfl⟩⟩

/-- A control operation that is granted lets the attempt go on. -/
theorem runs_issue_passed {α : Type} {op : ControlOp} {next : Unit → Attempt α} {result : Except HciError α}
    (hnext : (next ()).Runs trace result) :
    ((issue op devId).andThen next).Runs (issued op devId (.ok ()) ++ trace) result := by
  rw [Program.runs_andThen_iff]
  exact .inr ⟨_, trace, (), rfl, runs_issue_iff.mpr ⟨.ok (), rfl, rfl⟩, hnext⟩

/-- Every row of the draining is a run of it. -/
theorem Drained.runs (hdrained : Drained devId config trace) : (drain devId config).Runs trace () := by
  rw [drain]
  cases hdrained with
  | waitFailed cause => exact Program.runs_call_iff.mpr ⟨_, _, rfl, .emit (.done ())⟩
  | nothing => exact Program.runs_call_iff.mpr ⟨_, _, rfl, .done ()⟩
  | stale stored count =>
    refine Program.runs_call_iff.mpr ⟨_, _, rfl, ?_⟩
    exact Program.runs_call_iff.mpr ⟨_, _, rfl, .emit (.done ())⟩
  | readFailed stored cause =>
    refine Program.runs_call_iff.mpr ⟨_, _, rfl, ?_⟩
    exact Program.runs_call_iff.mpr ⟨_, _, rfl, .emit (.done ())⟩

/-- Every row of the table is a run, so the table says no more than what can be seen. -/
theorem Prepared.runs {result : Except HciError Unit} (hprepared : Prepared devId config trace result) :
    (prepare devId config).Runs trace result := by
  rw [prepare]
  -- The rows are runs by the steps that have led to them, in front of the one that fails.
  cases hprepared with
  | notDown cause => exact runs_issue_refused cause
  | notUp cause => exact runs_issue_passed (runs_issue_refused cause)
  | notDownAgain cause =>
    rw [List.append_assoc]
    exact runs_issue_passed (runs_issue_passed (runs_issue_refused cause))
  | notBound cause =>
    rw [List.append_assoc, List.append_assoc]
    refine runs_issue_passed (runs_issue_passed (runs_issue_passed ?_))
    exact Program.runs_andThen_iff.mpr (.inl ⟨_, rfl, runs_bind_iff.mpr (.inl ⟨cause, rfl, rfl⟩)⟩)
  | @bound drained hdrained =>
    rw [List.append_assoc, List.append_assoc]
    refine runs_issue_passed (runs_issue_passed (runs_issue_passed ?_))
    refine Program.runs_andThen_iff.mpr (.inr ⟨[granted devId, .said (.log (.bound devId))], drained, (), rfl, ?_, ?_⟩)
    · exact runs_bind_iff.mpr (.inr ⟨rfl, rfl⟩)
    · exact Program.runs_bind_iff.mpr ⟨drained, [], (), (List.append_nil _).symm, hdrained.runs, .done _⟩

/-- What an attempt fails with at each hurdle. -/
def setbacks (devId : UInt16) : List (IoError → HciError) :=
  [.control .down devId, .control .up devId, .control .down devId, .bind devId]

/-- A control operation or a bind, with its answer. -/
def hurdle? : Sign Descriptor → Option (DescriptorCall × Except IoError Unit)
  | .asked (.control code devId) answer => some (.control code devId, answer)
  | .asked (.bindUserChannel devId) answer => some (.bindUserChannel devId, answer)
  | .asked _ _ | .said _ => none

/-- The control operations and the binds of a trace, in order, each with its answer. -/
def taken (trace : Trace Descriptor) : List (DescriptorCall × Except IoError Unit) :=
  trace.filterMap hurdle?

theorem taken_append (before after : Trace Descriptor) : taken (before ++ after) = taken before ++ taken after :=
  List.filterMap_append

/-- Input that waits is no hurdle. -/
theorem Drained.taken_eq (hdrained : Drained devId config trace) : taken trace = [] := by
  cases hdrained <;> rfl

/-- How far an attempt gets, and what comes of it. -/
inductive StopsAtFirst (devId : UInt16) (config : OpenConfig) (trace : Trace Descriptor)
    (result : Except HciError Unit) : Prop where
  /-- The first hurdle that is not passed ends the attempt: nothing is asked for after it, so nobody waits
  for input or reads it, and the result is the error of that hurdle. -/
  | stopped (passed : Nat) (call : DescriptorCall) (setback : IoError → HciError) (cause : IoError)
      (hcall : (hurdles devId)[passed]? = some call) (hsetback : (setbacks devId)[passed]? = some setback)
      (htaken : taken trace = ((hurdles devId).take passed).map (·, .ok ()) ++ [(call, .error cause)])
      (hcalls : trace.calls = (hurdles devId).take (passed + 1)) (hresult : result = .error (setback cause))
  /-- All hurdles are passed, and the input that waits is dealt with after that; whatever comes of it, the
  attempt has succeeded. -/
  | through (before drained : Trace Descriptor)
      (htrace : trace = before ++ granted devId :: .said (.log (.bound devId)) :: drained)
      (hdrained : Drained devId config drained)
      (htaken : taken trace = (hurdles devId).map (·, .ok ())) (hresult : result = .ok ())

/-- **An attempt takes its hurdles in order and ends at the first that it does not pass.** -/
theorem stopsAtFirst {result : Except HciError Unit} (hruns : (prepare devId config).Runs trace result) :
    StopsAtFirst devId config trace result := by
  -- The row says how many hurdles were passed.
  cases prepared_of_runs hruns with
  | notDown cause => exact .stopped 0 _ _ cause rfl rfl rfl rfl rfl
  | notUp cause => exact .stopped 1 _ _ cause rfl rfl rfl rfl rfl
  | notDownAgain cause => exact .stopped 2 _ _ cause rfl rfl rfl rfl rfl
  | notBound cause => exact .stopped 3 _ _ cause rfl rfl rfl rfl rfl
  | bound hdrained =>
    refine .through _ _ rfl hdrained ?_ rfl
    -- The draining stands behind a bind, and adds no hurdle to it.
    have hlast : ∀ drained, taken (granted devId :: .said (.log (.bound devId)) :: drained) =
        (.bindUserChannel devId, .ok ()) :: taken drained := fun _ => rfl
    rw [taken_append, hlast, hdrained.taken_eq]
    rfl

/-- The second of the two operations that take a controller down is refused: that is no refusal of the bind,
although the device is busy. -/
theorem stopsAtFirst_busyAgain :
    (prepare 3 .standard).Runs
        (issued .down 3 (.ok ()) ++ issued .up 3 (.ok ()) ++ issued .down 3 (.error (.system 16)))
        (.error (.control .down 3 (.system 16))) ∧
      StopsAtFirst 3 .standard
        (issued .down 3 (.ok ()) ++ issued .up 3 (.ok ()) ++ issued .down 3 (.error (.system 16)))
        (.error (.control .down 3 (.system 16))) := by
  have hruns : (prepare 3 .standard).Runs
      (issued .down 3 (.ok ()) ++ issued .up 3 (.ok ()) ++ issued .down 3 (.error (.system 16)))
      (.error (.control .down 3 (.system 16))) :=
    (Prepared.notDownAgain (.system 16)).runs
  exact ⟨hruns, stopsAtFirst hruns⟩

end HciTransport.Open
