import HciTransport.Proofs.Channel.Report
import HciTransport.Proofs.Failure.Operation

/-!
# No failure is silent

Whatever request of an operation fails, its text is in the error that the operation returns or in an entry
of its log (`AllTold`). What is logged at the time is told for good, so an operation that goes on after a
failure tells all if it has logged it (`AllTold.append`).

There are four ways in which an operation succeeds although a request of it has failed, and `Excused` lists
them: the input that waits could not be dealt with; a candidate was refused and a later one accepted; the
close frame could not be sent; and the descriptor could not be given back by a read.
-/

namespace HciTransport

variable {trace before after : Trace Descriptor} {outcome : Except HciError Unit} {cause : IoError}
  {error : HciError} {α : Type}

/-- The failure is told by the error of the operation, or by an entry of its log. -/
def Told (trace : Trace Descriptor) (outcome : Except HciError Unit) (cause : IoError) : Prop :=
  (∃ error, outcome = .error error ∧ Tells error.message cause) ∨ ∃ entry ∈ trace.log, Tells entry.message cause

/-- Every failure is told. -/
def AllTold (trace : Trace Descriptor) (outcome : Except HciError Unit) : Prop :=
  ∀ sign ∈ failed trace, ∀ cause, sign.failure? = some cause → Told trace outcome cause

/-- A failure is told whatever was seen before. -/
theorem Told.append_left (htold : Told trace outcome cause) (before : Trace Descriptor) :
    Told (before ++ trace) outcome cause := by
  rcases htold with herror | ⟨entry, hmem, htells⟩
  · exact .inl herror
  · refine .inr ⟨entry, ?_, htells⟩
    rw [Trace.log_append]
    exact List.mem_append_right _ hmem

theorem Told.append_right (htold : Told trace outcome cause) (after : Trace Descriptor) :
    Told (trace ++ after) outcome cause := by
  rcases htold with herror | ⟨entry, hmem, htells⟩
  · exact .inl herror
  · refine .inr ⟨entry, ?_, htells⟩
    rw [Trace.log_append]
    exact List.mem_append_left _ hmem

theorem AllTold.of_none (hnone : failed trace = []) : AllTold trace outcome := by
  intro sign hmem
  rw [hnone] at hmem
  cases hmem

/-- What was told while nothing had failed the operation yet stays told. -/
theorem AllTold.append (hbefore : AllTold before (.ok ())) (hafter : AllTold after outcome) :
    AllTold (before ++ after) outcome := by
  intro sign hmem cause hfailure
  rw [failed_append] at hmem
  rcases List.mem_append.mp hmem with hmem | hmem
  · rcases hbefore sign hmem cause hfailure with ⟨error, herror, -⟩ | hlogged
    · cases herror
    · exact Told.append_right (.inr hlogged) after
  · exact (hafter sign hmem cause hfailure).append_left before

/-- What was told stays told, if what comes later does not fail. -/
theorem AllTold.append_passed (htold : AllTold before outcome) (hnone : failed after = []) :
    AllTold (before ++ after) outcome := by
  intro sign hmem cause hfailure
  rw [failed_append, hnone, List.append_nil] at hmem
  exact (htold sign hmem cause hfailure).append_right after

/-- A result that answers for its requests tells what the one that has failed has failed with. -/
theorem Answered.allTold {result : Except HciError α} (hanswered : Answered trace result) :
    AllTold trace (verdict result) := by
  cases hanswered with
  | ok hnone => exact .of_none hnone
  | @error error sign hone hnames =>
    intro other hmem cause hfailure
    rw [hone] at hmem
    obtain rfl := List.mem_singleton.mp hmem
    exact .inl ⟨error, rfl, tells_message (cause?_of_error? hfailure hnames)⟩

/-! ## The log -/

/-- An entry about a controller tells what its text tells. -/
theorem tells_about {text : String} (htells : Tells text cause) (devId : UInt16) :
    Tells (LogEntry.about devId text) cause := htells.after _

theorem tells_closeFailed (devId : UInt16) (cause : IoError) :
    Tells (LogEntry.closeFailed devId (.close cause)).message cause :=
  tells_about (tells_message rfl) devId

theorem tells_closeFrameFailed (devId : UInt16) (cause : IoError) :
    Tells (LogEntry.closeFrameFailed devId cause).message cause :=
  tells_about ((Tells.self cause).after _) devId

/-- Who is told of a refusal is told why. -/
theorem tells_notAvailable (devId : UInt16) (htells : Tells error.message cause) :
    Tells (LogEntry.notAvailable devId error).message cause := tells_about (htells.after _) devId

/-! ## Opening a channel -/

namespace Open

variable {devId : UInt16} {config : OpenConfig} {selector : DeviceSelector} {ids : List UInt16}
  {failures : String} {result : Except HciError UInt16}

/-- The log tells what goes wrong with waiting input. -/
theorem Drained.allTold (hdrained : Drained devId config trace) : AllTold trace outcome := by
  cases hdrained with
  | waitFailed cause =>
    rintro _ hmem _ hfailure
    obtain rfl := List.mem_singleton.mp hmem
    cases hfailure
    exact .inr ⟨_, List.mem_singleton_self _, tells_about ((Tells.self cause).after _) devId⟩
  | readFailed stored cause =>
    rintro _ hmem _ hfailure
    obtain rfl := List.mem_singleton.mp hmem
    cases hfailure
    exact .inr ⟨_, List.mem_singleton_self _, tells_about ((Tells.self cause).after _) devId⟩
  | nothing | stale => exact .of_none rfl

/-- An attempt tells its failures, by its error or by the log of the draining. -/
theorem Prepared.allTold (hprepared : Prepared devId config trace outcome) : AllTold trace outcome := by
  cases outcome with
  | error error => exact hprepared.answered.allTold
  | ok =>
    cases hprepared with
    | @bound drained hdrained =>
      have hlast : AllTold ([granted devId, .said (.log (.bound devId))] ++ drained) (.ok ()) :=
        AllTold.append (.of_none rfl) hdrained.allTold
      exact AllTold.append (.of_none rfl) hlast

/-- A refusal is told in the log, whatever becomes of the candidates after it. -/
theorem Refusal.Sound.allTold {refusal : Refusal} (hsound : refusal.Sound config) :
    AllTold refusal.shown (.ok ()) := by
  intro sign hmem cause hfailure
  rw [Refusal.shown, failed_append, failed_said, failed_nil, List.append_nil] at hmem
  refine .inr ⟨.notAvailable refusal.devId refusal.error, ?_, ?_⟩
  · rw [Refusal.shown, Trace.log_append]
    exact List.mem_append_right _ (List.mem_singleton_self _)
  -- One request of the attempt has failed, and the entry wraps the error that names it.
  · cases (prepared_of_runs hsound).answered with
    | error failing hone hnames =>
      rw [hone] at hmem
      obtain rfl := List.mem_singleton.mp hmem
      exact tells_notAvailable _ (tells_message (cause?_of_error? hfailure hnames))

/-- Refusals are told one by one. -/
theorem allTold_refusals {refusals : List Refusal} (hrefused : ∀ refusal ∈ refusals, refusal.Sound config) :
    AllTold (refusals.flatMap Refusal.shown) (.ok ()) := by
  -- Each of them has its own entry, so what was told stays told.
  induction refusals with
  | nil => exact .of_none rfl
  | cons refusal refusals ih =>
    rw [List.flatMap_cons]
    refine AllTold.append (hrefused refusal List.mem_cons_self).allTold (ih fun other hmem => ?_)
    exact hrefused other (List.mem_cons_of_mem _ hmem)

/-- Probing tells all failures, whether it ends with a controller or without one. -/
theorem Probed.allTold (hprobed : Probed config failures ids trace result) : AllTold trace (verdict result) := by
  cases hprobed with
  | chosen refusals devId later last hrefused haccepted hids htrace hresult =>
    rw [htrace, hresult]
    exact (allTold_refusals hrefused).append (prepared_of_runs haccepted).allTold
  -- The error at the end is not needed: the log has told all before.
  | exhausted refusals hrefused hids htrace hresult =>
    rw [htrace, ← List.append_nil (refusals.flatMap _)]
    exact (allTold_refusals hrefused).append (.of_none rfl)

theorem allTold_select (hruns : (select selector config).Runs trace result) : AllTold trace (verdict result) := by
  cases selector with
  | index devId =>
    rcases selectIndex_cases hruns with ⟨error, rfl, hprepared⟩ | ⟨rfl, hprepared⟩
    · exact hprepared.allTold
    · exact hprepared.allTold
  | any =>
    rcases selectAny_cases hruns with ⟨cause, rfl, rfl⟩ | ⟨entries, rest, rfl, hprobed⟩
    · have hanswered : Answered [.asked .listDevices (.error cause : Except IoError (List DeviceEntry))]
          (.error (.deviceList cause) : Except HciError UInt16) := .error _ rfl rfl
      exact hanswered.allTold
    · have hfirst : AllTold [listed entries, .said (.log (.probing (candidates entries)))] (.ok ()) := .of_none rfl
      exact hfirst.append hprobed.allTold

theorem Opened.allTold (hopened : Opened selector config trace result) : AllTold trace (verdict result) := by
  have hmade : AllTold [.asked .create (.ok () : Except IoError Unit)] (.ok ()) := .of_none rfl
  cases hopened with
  | notMade cause =>
    have hanswered : Answered [.asked .create (.error cause : Except IoError Unit)]
        (.error (.socket cause) : Except HciError UInt16) := .error _ rfl rfl
    exact hanswered.allTold
  | refused htried =>
    exact hmade.append ((allTold_select htried).append_passed rfl)
  | bound htried =>
    exact hmade.append (allTold_select htried)

end Open

/-! ## Calls on a channel, and its drop -/

namespace Channel

variable {devId : UInt16} {asked : Point} {history : List Occurrence} {system : System}

/-- A close frame that has failed is told by a warning. -/
theorem allTold_frame (devId : UInt16) (answer : Except IoError Nat) :
    AllTold ((DescriptorCall.write closeFrame).asked answer ::
      Trace.ofLog (frameWarning devId answer ++ [.closing devId])) (.ok ()) := by
  cases answer with
  | ok => exact .of_none rfl
  | error cause =>
    rintro _ hmem _ hfailure
    obtain rfl := List.mem_singleton.mp hmem
    cases hfailure
    exact .inr ⟨_, List.mem_cons_self, tells_closeFrameFailed devId cause⟩

/-- Where the failure of a release is logged it is told. -/
theorem allTold_warned (devId : UInt16) (released : Option (Except IoError Unit)) (log : List LogEntry) :
    AllTold (givenBack released ++ Trace.ofLog (releaseWarning devId released ++ log)) outcome := by
  rintro sign hmem cause hfailure
  rw [failed_append, failed_ofLog, List.append_nil] at hmem
  obtain ⟨cause, rfl, rfl⟩ := mem_failed_givenBack hmem
  cases hfailure
  refine .inr ⟨.closeFailed devId (.close cause), ?_, tells_closeFailed devId cause⟩
  rw [Trace.log_append, Trace.log_ofLog]
  exact List.mem_append_right _ List.mem_cons_self

/-- A call that has returned has told all failures. -/
theorem Finished.allTold (hfinished : Finished devId asked trace outcome) : AllTold trace outcome := by
  cases hfinished with
  -- A read is told by its error, and the release that was left to it by a warning.
  | read length got released =>
    intro sign hmem cause hfailure
    rw [failed_append] at hmem
    rcases List.mem_append.mp hmem with hmem | hmem
    · obtain ⟨stored, cause, rfl, rfl⟩ := mem_failed_received hmem
      cases hfailure
      exact .inl ⟨.receive cause, rfl, tells_message rfl⟩
    · exact (allTold_warned devId released _ sign hmem cause hfailure).append_left _
  | writeRefused => exact .of_none rfl
  | write frame answer =>
    rintro sign hmem cause hfailure
    rw [failed_write_cons, failed_ofLog, List.append_nil] at hmem
    cases answer with
    | ok => cases hmem
    | error cause =>
      obtain rfl := List.mem_singleton.mp hmem
      cases hfailure
      exact .inl ⟨.send cause, rfl, tells_message rfl⟩
  | closeAgain => exact .of_none rfl
  | close answer released =>
    rw [← List.cons_append]
    -- The frame is told by the log, and the release by the error that the close returns.
    refine (allTold_frame devId answer).append ?_
    rintro sign hmem cause hfailure
    rw [failed_append, failed_ofLog, List.append_nil] at hmem
    obtain ⟨cause, rfl, rfl⟩ := mem_failed_givenBack hmem
    cases hfailure
    exact .inl ⟨.close cause, rfl, tells_message rfl⟩

/-- A drop tells all failures, and only the log can do it. -/
theorem Run.allTold_drop (hrun : Run devId history system) (hrest : system.AtRest)
    (hdrop : (drop devId system.gate).Runs trace ()) : AllTold trace (.ok ()) := by
  obtain ⟨shown, ending, hshown, rfl⟩ := runs_drop_iff.mp hdrop
  refine AllTold.append_passed ?_ rfl
  have hreleased : ∀ outcome : Except IoError Unit, AllTold (DescriptorCall.release.asked outcome ::
      Trace.ofLog (releaseWarning devId (some outcome))) (.ok ()) := by
    intro outcome
    have hwarned : AllTold (givenBack (some outcome) ++ Trace.ofLog (releaseWarning devId (some outcome) ++ []))
        (.ok ()) := allTold_warned devId (some outcome) []
    rwa [List.append_nil] at hwarned
  -- At rest the channel is open, or shut and released, or was left to nobody; the drop does the rest.
  rcases hrun.gate_at_rest hrest with hgate | hgate | hgate <;> rw [hgate] at hshown
  · obtain ⟨-, answer, outcome, rfl⟩ := shown_of_drop_opened hshown
    rw [← List.cons_append]
    exact (allTold_frame devId answer).append (hreleased outcome)
  · obtain ⟨-, rfl⟩ := shown_of_drop_shut hshown
    exact .of_none rfl
  · obtain ⟨-, outcome, rfl⟩ := shown_of_drop_kept hshown
    exact hreleased outcome

end Channel

/-! ## Success in spite of a failure -/

open Open in
/-- The request may fail, as part of this trace, and the operation succeeds all the same. -/
inductive Excused (trace : Trace Descriptor) (sign : Sign Descriptor) : Operation → Prop where
  /-- The wait for input, or its reading, after the bind was granted. -/
  | drain {selector : DeviceSelector} {config : OpenConfig} {devId : UInt16} {before drained : Trace Descriptor}
      (htrace : trace = before ++ granted devId :: .said (.log (.bound devId)) :: drained)
      (hdrained : Drained devId config drained) (hmem : sign ∈ drained) : Excused trace sign (.open selector config)
  /-- A request for a candidate that was refused before another one accepted. -/
  | candidate {config : OpenConfig} {entries : List DeviceEntry} {refusals : List Refusal} {devId : UInt16}
      {later : List UInt16} {last : Trace Descriptor}
      (hcandidates : candidates entries = refusals.map (·.devId) ++ devId :: later)
      (hrefused : ∀ refusal ∈ refusals, refusal.Sound config)
      (haccepted : (prepare devId config).Runs last (.ok ()))
      (htrace : trace = .asked .create (.ok () : Except IoError Unit) :: listed entries ::
        .said (.log (.probing (candidates entries))) :: (refusals.flatMap Refusal.shown ++ last))
      {refusal : Refusal} (hrefusal : refusal ∈ refusals) (hmem : sign ∈ refusal.trace) :
      Excused trace sign (.open .any config)
  | closeFrame (hcall : sign.call? = some (.write closeFrame)) : Excused trace sign .close
  /-- A release that was left to a read. -/
  | release {length : Nat} (hcall : sign.call? = some .release) : Excused trace sign (.read length)

namespace Open

variable {devId : UInt16} {config : OpenConfig} {selector : DeviceSelector} {sign : Sign Descriptor}

/-- What fails in an attempt that succeeds is excused by the draining. -/
theorem Prepared.excused (hprepared : Prepared devId config trace (.ok ())) (hmem : sign ∈ failed trace)
    (before : Trace Descriptor) : Excused (before ++ trace) sign (.open selector config) := by
  obtain ⟨first, drained, rfl, hdrained, hsame⟩ := hprepared.failed_of_ok
  rw [hsame] at hmem
  rw [← List.append_assoc]
  exact .drain rfl hdrained (mem_failed.mp hmem).1

theorem mem_failed_refusals {refusals : List Refusal} (hmem : sign ∈ failed (refusals.flatMap Refusal.shown)) :
    ∃ refusal ∈ refusals, sign ∈ refusal.trace := by
  obtain ⟨hmem, cause, hfailure⟩ := mem_failed.mp hmem
  obtain ⟨refusal, hrefusal, hshown⟩ := List.mem_flatMap.mp hmem
  refine ⟨refusal, hrefusal, ?_⟩
  rcases List.mem_append.mp hshown with hshown | hshown
  · exact hshown
  · -- What is logged about a refusal cannot fail.
    cases List.mem_singleton.mp hshown
    cases hfailure

/-- What fails in an open that succeeds is excused by the draining, or by a later candidate. -/
theorem Opened.excused (hopened : Opened selector config trace (.ok devId)) (hmem : sign ∈ failed trace) :
    Excused trace sign (.open selector config) := by
  cases hopened with
  | @bound tried _ htried =>
    rw [failed_passed rfl] at hmem
    cases selector with
    | index asked =>
      rcases selectIndex_cases htried with ⟨error, hresult, -⟩ | ⟨-, hprepared⟩
      · cases hresult
      · exact hprepared.excused hmem [.asked .create (.ok () : Except IoError Unit)]
    | any =>
      rcases selectAny_cases htried with ⟨cause, -, hresult⟩ | ⟨entries, rest, rfl, hprobed⟩
      · cases hresult
      · rw [failed_passed rfl, failed_said] at hmem
        cases hprobed with
        | exhausted _ _ _ _ hresult => cases hresult
        | chosen refusals devId later last hrefused haccepted hids htrace hresult =>
          subst htrace
          rw [failed_append] at hmem
          -- Before the last attempt or in it.
          rcases List.mem_append.mp hmem with hmem | hmem
          · obtain ⟨refusal, hrefusal, hmem⟩ := mem_failed_refusals hmem
            exact .candidate hids hrefused haccepted rfl hrefusal hmem
          · exact (prepared_of_runs haccepted).excused hmem (.asked .create (.ok () : Except IoError Unit) ::
              listed entries :: .said (.log (.probing (candidates entries))) :: refusals.flatMap Refusal.shown)

end Open

/-- What fails in a call that succeeds is the close frame of a close, or the release of a read. -/
theorem Channel.Finished.excused {devId : UInt16} {operation : Operation} {asked : Channel.Point}
    {sign : Sign Descriptor} (hasked : operation.asked? = some asked)
    (hfinished : Channel.Finished devId asked trace (.ok ())) (hmem : sign ∈ failed trace) :
    Excused trace sign operation := by
  generalize hverdict : (.ok () : Except HciError Unit) = outcome at hfinished
  cases hfinished with
  | read length got released =>
    cases operation <;> cases hasked
    rw [failed_append, failed_append, failed_ofLog, List.append_nil] at hmem
    rcases List.mem_append.mp hmem with hmem | hmem
    · -- A read that has failed to read does not succeed.
      obtain ⟨stored, cause, rfl, -⟩ := Channel.mem_failed_received hmem
      cases hverdict
    · obtain ⟨cause, -, rfl⟩ := Channel.mem_failed_givenBack hmem
      exact .release rfl
  -- A write that was refused has an error, and this call has none.
  | writeRefused => cases hverdict
  | write frame answer =>
    cases answer with
    | ok => cases hmem
    | error => cases hverdict
  | closeAgain => cases hmem
  | close answer released =>
    cases operation <;> cases hasked
    rw [Channel.failed_write_cons, failed_append, failed_append, failed_ofLog, failed_ofLog, List.nil_append,
      List.append_nil] at hmem
    rcases List.mem_append.mp hmem with hmem | hmem
    · cases answer with
      | ok => cases hmem
      | error cause =>
        obtain rfl := List.mem_singleton.mp hmem
        exact .closeFrame rfl
    · obtain ⟨cause, rfl, -⟩ := Channel.mem_failed_givenBack hmem
      cases hverdict

/-! ## The main result -/

/-- A result that answers for its requests is no success where one has failed. -/
theorem Answered.none_of_ok {result : Except HciError α} (hanswered : Answered trace result)
    (hok : verdict result = .ok ()) : failed trace = [] := by
  cases hanswered with
  | ok hnone => exact hnone
  | error => cases hok

/-- What becomes of the failures of an operation. -/
structure NothingSilent (operation : Operation) (trace : Trace Descriptor) (outcome : Except HciError Unit) :
    Prop where
  /-- The text of a failure is in the error that is returned, or in the log. -/
  told : ∀ sign ∈ failed trace, ∀ cause, sign.failure? = some cause →
    (∃ error, outcome = .error error ∧ Tells error.message cause) ∨
      ∃ entry ∈ trace.log, Tells entry.message cause
  /-- Only the drop of a channel succeeds in spite of other failures than those that are excused. -/
  excused : operation ≠ .drop → outcome = .ok () → ∀ sign ∈ failed trace, Excused trace sign operation

/-- **No failure is silent.** -/
theorem nothingSilent {operation : Operation} (hperformed : Performed operation trace outcome) :
    NothingSilent operation trace outcome := by
  -- Control operations excuse nothing: they answer for all of their requests.
  have hcontrol : ∀ {α : Type} {p : Attempt α} {result : Except HciError α}, AnswersFor p →
      p.Runs trace result → NothingSilent operation trace (verdict result) := by
    intro α p result hp hruns
    refine ⟨(hp _ _ hruns).allTold, fun _ hok sign hmem => ?_⟩
    rw [(hp _ _ hruns).none_of_ok hok] at hmem
    cases hmem
  cases hperformed with
  | operate hruns => exact hcontrol (Control.answersFor_operate _ _) hruns
  | info hruns => exact hcontrol (Control.answersFor_info _) hruns
  | list hruns => exact hcontrol Control.answersFor_list hruns
  | devices hruns => exact hcontrol Control.answersFor_devices hruns
  | @«open» _ _ _ result hruns =>
    have hopened := Open.opened_of_runs hruns
    refine ⟨hopened.allTold, fun _ hok sign hmem => ?_⟩
    cases result with
    | ok devId => exact hopened.excused hmem
    | error => cases hok
  | call hasked hrun hstarted hover =>
    have hfinished := hrun.finished hstarted hover
    refine ⟨hfinished.allTold, fun _ hok sign hmem => ?_⟩
    rw [hok] at hfinished
    exact hfinished.excused hasked hmem
  | drop hrun hrest hruns => exact ⟨hrun.allTold_drop hrest hruns, fun hother => absurd rfl hother⟩

open Channel in
/-- A read that returns what it has read, although the release that was left to it fails: the log tells it. -/
theorem nothingSilent_lateFailure :
    Performed (.read 4) (shown (play 0 lateFailure).1 0) (.ok ()) ∧
      failed (shown (play 0 lateFailure).1 0) = [DescriptorCall.release.asked (.error (.system 5))] ∧
      (shown (play 0 lateFailure).1 0).log = [.closeFailed 0 (.close (.system 5)), .frameRead 0 0] ∧
      NothingSilent (.read 4) (shown (play 0 lateFailure).1 0) (.ok ()) := by
  have hover : (play 0 lateFailure).2.points[0]? = some (.ended (.returned (.read ⟨[], .ok 0⟩))) := rfl
  have hperformed : Performed (.read 4) (shown (play 0 lateFailure).1 0) (.ok ()) :=
    .call rfl (run_play 0 lateFailure) List.mem_cons_self hover
  exact ⟨hperformed, rfl, rfl, nothingSilent hperformed⟩

end HciTransport
