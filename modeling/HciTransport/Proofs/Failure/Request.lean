import HciTransport.Control
import HciTransport.Proofs.Trace

/-!
# Requests that fail, and the errors that name them

A request that fails does so with an error of its own, and there is one error of the transport that names
the request, the controller that it was made for and this error (`DescriptorCall.error?`). The text of an
error of the transport holds the text of the error that it wraps (`tells_message`).

A program answers for its requests if it succeeds only when none of them has failed, and otherwise fails
with the error that names the only one that has. Attempts that are made in a row answer for their requests
if each of them does (`AnswersFor.andThen`). The control operations do.
-/

namespace HciTransport

variable {α β : Type} {trace : Trace Descriptor} {cause : IoError} {error : HciError}

/-! ## Failures -/

/-- What a request has failed with, if it has. -/
def DescriptorCall.failure? : (call : DescriptorCall) → call.Answer → Option IoError
  | .create, .error cause => some cause
  | .control _ _, .error cause => some cause
  | .deviceInfo _, .error cause => some cause
  | .listDevices, .error cause => some cause
  | .bindUserChannel _, .error cause => some cause
  | .pollReadable _, .error cause => some cause
  | .read _, ⟨_, .error cause⟩ => some cause
  | .write _, .error cause => some cause
  | .release, .error cause => some cause
  | _, _ => none

/-- The operation that a control code carries. -/
def ControlOp.ofCode? (code : ControlCode) : Option ControlOp :=
  [ControlOp.up, .down, .reset, .info].find? (·.code = code)

/-- The code of an operation tells the operation. -/
@[simp] theorem ControlOp.ofCode?_code (op : ControlOp) : ofCode? op.code = some op := by
  cases op <;> decide

/-- The error that names a request which has failed. Nobody is told by an error that it was in vain to wait
for input. -/
def DescriptorCall.error? (cause : IoError) : DescriptorCall → Option HciError
  | .create => some (.socket cause)
  | .control code devId => (ControlOp.ofCode? code).map (.control · devId cause)
  | .deviceInfo record => some (.control .info (Bytes.u16At record 0) cause)
  | .listDevices => some (.deviceList cause)
  | .bindUserChannel devId => some (.bind devId cause)
  | .read _ => some (.receive cause)
  | .write _ => some (.send cause)
  | .release => some (.close cause)
  | .pollReadable _ | .discard => none

namespace Sign

/-- What the request has failed with, if there is one and it has. -/
def failure? : Sign Descriptor → Option IoError
  | .asked request answer => request.failure? answer
  | .said _ => none

/-- The error that names a request, with what it has failed with. -/
def error? : Sign Descriptor → Option HciError
  | .asked request answer => (request.failure? answer).bind request.error?
  | .said _ => none

end Sign

/-- The requests of a trace that have failed. -/
def failed (trace : Trace Descriptor) : Trace Descriptor := trace.filter (·.failure?.isSome)

@[simp] theorem failed_nil : failed [] = [] := rfl

@[simp] theorem failed_said (event : Event) (trace : Trace Descriptor) :
    failed (.said event :: trace) = failed trace := rfl

theorem failed_passed {sign : Sign Descriptor} (hpassed : sign.failure? = none) :
    failed (sign :: trace) = failed trace := by
  rw [failed, List.filter_cons, hpassed]
  rfl

@[simp] theorem failed_append (before after : Trace Descriptor) :
    failed (before ++ after) = failed before ++ failed after := List.filter_append ..

@[simp] theorem failed_ofLog (log : List LogEntry) : failed (Trace.ofLog log) = [] := by
  induction log with
  | nil => rfl
  | cons entry log ih => exact ih

theorem mem_failed {sign : Sign Descriptor} :
    sign ∈ failed trace ↔ sign ∈ trace ∧ ∃ cause, sign.failure? = some cause := by
  rw [failed, List.mem_filter, Option.isSome_iff_exists]

/-- An error that names a request wraps what the request has failed with. -/
theorem cause?_of_error? {sign : Sign Descriptor} (hfailure : sign.failure? = some cause)
    (hnames : sign.error? = some error) : error.cause? = some cause := by
  cases sign with
  | said => cases hfailure
  | asked request answer =>
    change request.failure? answer = some cause at hfailure
    change (request.failure? answer).bind _ = some error at hnames
    rw [hfailure, Option.bind_some] at hnames
    -- Most errors carry what they wrap as it is; a control code has to be read for its operation first.
    cases request with
    | control code devId =>
      obtain ⟨op, -, rfl⟩ := Option.map_eq_some_iff.mp hnames
      rfl
    | pollReadable | discard => cases hnames
    | _ =>
      cases hnames
      rfl

/-! ## Texts -/

/-- The text holds that of the error. -/
def Tells (text : String) (cause : IoError) : Prop := ∃ before after, text = before ++ cause.text ++ after

theorem Tells.self (cause : IoError) : Tells cause.text cause := ⟨"", "", by simp⟩

theorem Tells.after {text : String} (htells : Tells text cause) (before : String) : Tells (before ++ text) cause := by
  obtain ⟨first, last, rfl⟩ := htells
  exact ⟨before ++ first, last, by simp only [String.append_assoc]⟩

/-- An error of the transport tells the error that it wraps. -/
theorem tells_message (hcause : error.cause? = some cause) : Tells error.message cause := by
  cases error with
  | closed | invalidDevice | noDevices => cases hcause
  | _ =>
    cases hcause
    exact (Tells.self cause).after _

/-! ## Programs that answer for their requests -/

/-- A result answers for the requests that have failed: a success for none, and an error for the one that it
names. -/
inductive Answered (trace : Trace Descriptor) : Except HciError α → Prop where
  | ok {value : α} (hnone : failed trace = []) : Answered trace (.ok value)
  | error {error : HciError} (sign : Sign Descriptor) (hone : failed trace = [sign])
      (hnames : sign.error? = some error) : Answered trace (.error error)

/-- Every result of the program answers for its requests. -/
def AnswersFor (p : Attempt α) : Prop :=
  ∀ trace result, p.Runs trace result → Answered trace result

/-- Attempts in a row answer for their requests if each of them does. -/
theorem AnswersFor.andThen {p : Attempt α} {f : α → Attempt β} (hp : AnswersFor p)
    (hf : ∀ value, AnswersFor (f value)) : AnswersFor (p.andThen f) := by
  intro trace result hruns
  rcases Program.runs_andThen_iff.mp hruns with ⟨error, rfl, hfirst⟩ | ⟨before, after, value, rfl, hfirst, hnext⟩
  · cases hp _ _ hfirst with
    | error sign hone hnames => exact .error sign hone hnames
  · -- What has succeeded adds no failure to those of what comes after it.
    cases hp _ _ hfirst with
    | ok hnone =>
      have hsame : failed (before ++ after) = failed after := by
        rw [failed_append, hnone, List.nil_append]
      cases hf value _ _ hnext with
      | ok hnone => exact .ok (hsame.trans hnone)
      | error sign hone hnames => exact .error sign (hsame.trans hone) hnames

theorem AnswersFor.done (value : α) : AnswersFor (.done (.ok value)) := by
  intro trace result hruns
  obtain ⟨rfl, rfl⟩ := Program.runs_done_iff.mp hruns
  exact .ok rfl

/-- A program that puts one request answers for it if it returns the error that names it. -/
theorem AnswersFor.call {call : DescriptorCall} {next : call.Answer → Except HciError α}
    (hfailed : ∀ answer cause, call.failure? answer = some cause →
      ∃ error, next answer = .error error ∧ call.error? cause = some error)
    (hpassed : ∀ answer, call.failure? answer = none → ∃ value, next answer = .ok value) :
    AnswersFor (.call call fun answer => .done (next answer)) := by
  intro trace result hruns
  obtain ⟨answer, rfl, rfl⟩ := Program.runs_ask_iff.mp hruns
  -- Whether the request has failed decides both what the trace has and what the program returns.
  cases hfailure : call.failure? answer with
  | none =>
    obtain ⟨value, hvalue⟩ := hpassed answer hfailure
    rw [hvalue]
    exact .ok (by simp [failed, Sign.failure?, hfailure])
  | some cause =>
    obtain ⟨error, herror, hnames⟩ := hfailed answer cause hfailure
    rw [herror]
    refine .error (.asked call answer) ?_ ?_
    · simp [failed, Sign.failure?, hfailure]
    · simp [Sign.error?, hfailure, hnames]

theorem AnswersFor.emit {event : Event} {p : Attempt α} (hp : AnswersFor p) : AnswersFor (.emit event p) := by
  intro trace result hruns
  obtain ⟨rest, rfl, hrest⟩ := Program.runs_emit_iff.mp hruns
  cases hp _ _ hrest with
  | ok hnone => exact .ok hnone
  | error sign hone hnames => exact .error sign hone hnames

namespace Control

/-- A control operation names its operation and its controller. -/
theorem answersFor_issue (op : ControlOp) (devId : UInt16) : AnswersFor (issue op devId) := by
  refine AnswersFor.emit (AnswersFor.call ?_ ?_)
  · rintro (cause | _) _ ⟨⟩
    exact ⟨_, rfl, by simp [DescriptorCall.error?]⟩
  · rintro (cause | _) hpassed
    · cases hpassed
    · exact ⟨_, rfl⟩

/-- A record that asks for a controller names it. -/
theorem u16At_request (devId : UInt16) : Bytes.u16At (DeviceInfo.request devId) 0 = devId := by
  have hfits : (Bytes.ofU16 devId).length ≤ (Bytes.zeros Layout.size).length := by
    simp [Layout.size]
  rw [DeviceInfo.request, Bytes.overlay_of_le hfits]
  exact Bytes.u16At_append [] _ devId

/-- A request for a record names its controller. -/
theorem answersFor_fetchInfo (devId : UInt16) : AnswersFor (fetchInfo devId) := by
  refine AnswersFor.call ?_ ?_
  · rintro (cause | _) _ ⟨⟩
    exact ⟨_, rfl, by rw [DescriptorCall.error?, u16At_request]⟩
  · rintro (cause | record) hpassed
    · cases hpassed
    · exact ⟨_, rfl⟩

theorem answersFor_fetchList : AnswersFor fetchList := by
  refine AnswersFor.call ?_ ?_
  · rintro (cause | _) _ ⟨⟩
    exact ⟨_, rfl, rfl⟩
  · rintro (cause | entries) hpassed
    · cases hpassed
    · exact ⟨_, rfl⟩

/-- Requests for records in a row name the one that has failed. -/
theorem answersFor_fetchInfos (entries : List DeviceEntry) : AnswersFor (fetchInfos entries) := by
  -- Record by record, as each is an attempt in a row with the others.
  induction entries with
  | nil => exact .done []
  | cons entry entries ih =>
    refine (answersFor_fetchInfo entry.devId).andThen fun info => ?_
    exact ih.andThen fun infos => .done _

/-- To forget a descriptor cannot fail, and keeps the result as it is. -/
theorem runs_discardThen_iff {result outcome : Except HciError α} :
    (discardThen result).Runs trace outcome ↔ trace = [.asked .discard ()] ∧ outcome = result := by
  constructor
  · intro hruns
    obtain ⟨_, rfl, rfl⟩ := Program.runs_ask_iff.mp hruns
    exact ⟨rfl, rfl⟩
  · rintro ⟨rfl, rfl⟩
    exact Program.runs_ask_iff.mpr ⟨(), rfl, rfl⟩

/-- What is seen of work on a socket of its own, and the result. -/
inductive OnSocket (work : Attempt α) : Trace Descriptor → Except HciError α → Prop where
  | notMade (cause : IoError) :
      OnSocket work [.asked .create (.error cause : Except IoError Unit)] (.error (.socket cause))
  | undone {shown : Trace Descriptor} {error : HciError} (hwork : work.Runs shown (.error error)) :
      OnSocket work (.asked .create (.ok () : Except IoError Unit) :: (shown ++ [.asked .discard ()])) (.error error)
  | notGivenBack {shown : Trace Descriptor} {value : α} (cause : IoError) (hwork : work.Runs shown (.ok value)) :
      OnSocket work
        (.asked .create (.ok () : Except IoError Unit) ::
          (shown ++ [.asked .release (.error cause : Except IoError Unit), .asked .discard ()]))
        (.error (.close cause))
  | done {shown : Trace Descriptor} {value : α} (hwork : work.Runs shown (.ok value)) :
      OnSocket work
        (.asked .create (.ok () : Except IoError Unit) ::
          (shown ++ [.asked .release (.ok () : Except IoError Unit), .asked .discard ()]))
        (.ok value)

/-- Nothing else can be seen of such work. -/
theorem onSocket_of_runs {work : Attempt α} {result : Except HciError α}
    (hruns : (withSocket work).Runs trace result) : OnSocket work trace result := by
  obtain ⟨answer, _, rfl, hmade⟩ := Program.runs_call_iff.mp hruns
  rcases answer with cause | _
  · obtain ⟨rfl, rfl⟩ := Program.runs_done_iff.mp hmade
    exact .notMade cause
  · obtain ⟨shown, _, outcome, rfl, hwork, hlast⟩ := Program.runs_bind_iff.mp hmade
    -- Work that has failed is followed by the forgetting only, and work that has passed by a release before that.
    cases outcome with
    | error error =>
      obtain ⟨rfl, rfl⟩ := runs_discardThen_iff.mp hlast
      exact .undone hwork
    | ok value =>
      obtain ⟨answer, _, rfl, hend⟩ := Program.runs_call_iff.mp hlast
      rcases answer with cause | _
      · obtain ⟨rfl, rfl⟩ := runs_discardThen_iff.mp hend
        exact .notGivenBack cause hwork
      · obtain ⟨rfl, rfl⟩ := runs_discardThen_iff.mp hend
        exact .done hwork

/-- Work on a socket of its own answers for its requests, those about the socket among them. -/
theorem answersFor_withSocket {work : Attempt α} (hwork : AnswersFor work) : AnswersFor (withSocket work) := by
  intro trace result hruns
  cases onSocket_of_runs hruns with
  | notMade cause => exact .error _ rfl rfl
  | @undone shown error hshown =>
    have hsame : failed (.asked .create (.ok () : Except IoError Unit) :: (shown ++ [.asked .discard ()])) =
        failed shown := by
      rw [failed_passed rfl, failed_append]
      exact List.append_nil _
    cases hwork _ _ hshown with
    | error sign hone hnames => exact .error sign (hsame.trans hone) hnames
  -- The work has passed, so the release is all that has failed.
  | notGivenBack cause hshown =>
    cases hwork _ _ hshown with
    | ok hnone =>
      refine .error (.asked .release (.error cause : Except IoError Unit)) ?_ rfl
      rw [failed_passed rfl, failed_append, hnone]
      rfl
  | done hshown =>
    cases hwork _ _ hshown with
    | ok hnone =>
      refine .ok ?_
      rw [failed_passed rfl, failed_append, hnone]
      rfl

/-- A change of a controller answers for its requests. -/
theorem answersFor_operate (op : ControlOp) (devId : UInt16) : AnswersFor (operate op devId) :=
  answersFor_withSocket (answersFor_issue op devId)

theorem answersFor_info (devId : UInt16) : AnswersFor (info devId) :=
  answersFor_withSocket (answersFor_fetchInfo devId)

theorem answersFor_list : AnswersFor list := answersFor_withSocket answersFor_fetchList

theorem answersFor_devices : AnswersFor devices :=
  answersFor_withSocket (answersFor_fetchList.andThen answersFor_fetchInfos)

end Control

end HciTransport
