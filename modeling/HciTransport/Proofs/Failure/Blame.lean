import HciTransport.Proofs.Failure.Operation

/-!
# Which request fails an operation

An operation gets over some of its requests if they fail (`Operation.getsOver`). It stops at the first other
request that fails, so there is one at most: the operation fails with the error that names it, and succeeds
if there is none (`Performed.blames`). Two errors are about no request: a write may find the channel closed,
and of the candidates for any controller none may accept.
-/

namespace HciTransport

variable {operation : Operation} {trace before after : Trace Descriptor} {sign : Sign Descriptor}
  {devId : UInt16} {α : Type}

/-! ## What an operation gets over -/

/-- The requests whose failure is no failure of the operation: those that deal with waiting input, those for a
candidate where any controller will do, a release that was left to a read, the close frame, and whatever is
asked for when nobody is left to be told. -/
def Operation.getsOver : Operation → DescriptorCall → Bool
  | .open _ _, .pollReadable _ | .open _ _, .read _ => true
  | .open .any _, call => call.controller?.isSome
  | .read _, .release | .close, .write _ | .drop, _ => true
  | _, _ => false

/-- The requests that have failed the operation. -/
def Operation.culprits (operation : Operation) (trace : Trace Descriptor) : Trace Descriptor :=
  (failed trace).filter fun sign => !sign.call?.any operation.getsOver

namespace Operation

theorem culprits_append :
    operation.culprits (before ++ after) = operation.culprits before ++ operation.culprits after := by
  rw [culprits, failed_append, List.filter_append]
  rfl

theorem culprits_passed (hpassed : sign.failure? = none) :
    operation.culprits (sign :: trace) = operation.culprits trace := by
  rw [culprits, failed_passed hpassed]
  rfl

theorem culprits_ofLog (log : List LogEntry) : operation.culprits (Trace.ofLog log) = [] := by
  rw [culprits, failed_ofLog]
  rfl

/-- Nothing that the operation gets over fails it. -/
theorem culprits_eq_nil (hover : ∀ call ∈ trace.calls, operation.getsOver call = true) :
    operation.culprits trace = [] := by
  refine List.filter_eq_nil_iff.mpr fun sign hmem => ?_
  obtain ⟨hmem, cause, hfailure⟩ := mem_failed.mp hmem
  cases sign with
  | said => cases hfailure
  | asked call answer =>
    -- Every request that has failed is one of the trace.
    have hown := hover call (List.mem_filterMap.mpr ⟨_, hmem, rfl⟩)
    simp [Sign.call?, hown]

/-- An operation that gets over nothing is failed by whatever fails. -/
theorem culprits_eq_failed (hnothing : ∀ call, operation.getsOver call = false) :
    operation.culprits trace = failed trace := by
  refine List.filter_eq_self.mpr fun sign _ => ?_
  cases sign <;> simp [Sign.call?, hnothing]

end Operation

/-! ## What is to blame -/

/-- What an operation lays the blame on, if it fails. -/
inductive Blames (operation : Operation) (trace : Trace Descriptor) : Except HciError Unit → Prop where
  | ok (hnone : operation.culprits trace = []) : Blames operation trace (.ok ())
  /-- The one request that has failed it. -/
  | request {error : HciError} (sign : Sign Descriptor) (hone : operation.culprits trace = [sign])
      (hnames : sign.error? = some error) : Blames operation trace (.error error)
  /-- The channel, which is closed, so that nothing is asked for. -/
  | closed {frame : Bytes} (hwrite : operation = .write frame) (hnothing : trace = []) :
      Blames operation trace (.error .closed)
  /-- All candidates together. -/
  | candidates {config : OpenConfig} {reasons : String} (hany : operation = .open .any config)
      (hnone : operation.culprits trace = []) : Blames operation trace (.error (.noDevices reasons))

/-- Who gets over nothing blames the request that it answers for. -/
theorem Answered.blames {result : Except HciError α} (hnothing : ∀ call, operation.getsOver call = false)
    (hanswered : Answered trace result) : Blames operation trace (verdict result) := by
  have hall : operation.culprits trace = failed trace := Operation.culprits_eq_failed hnothing
  cases hanswered with
  | ok hnone => exact .ok (hall.trans hnone)
  | error sign hone hnames => exact .request sign (hall.trans hone) hnames

namespace Open

variable {config : OpenConfig} {selector : DeviceSelector} {ids : List UInt16} {failures : String}
  {result : Except HciError UInt16}

/-- Whoever opens a channel gets over what the draining comes to. -/
theorem Drained.culprits_eq (hdrained : Drained devId config trace) :
    (Operation.open selector config).culprits trace = [] := by
  refine Operation.culprits_eq_nil fun call hmem => ?_
  rcases hdrained.mem_calls hmem with rfl | rfl <;> cases selector <;> rfl

/-- Whoever opens any controller gets over whatever a candidate fails with. -/
theorem Probed.culprits_eq (hprobed : Probed config failures ids trace result) :
    (Operation.open .any config).culprits trace = [] := by
  refine Operation.culprits_eq_nil fun call hmem => ?_
  obtain ⟨devId, shown, outcome, hprepared, hmem⟩ := hprobed.mem_calls hmem
  rcases hprepared.mem_calls hmem with hown | rfl | rfl
  · simp only [hurdles, List.mem_cons, List.not_mem_nil, or_false] at hown
    rcases hown with rfl | rfl | rfl | rfl <;> rfl
  · rfl
  · rfl

/-- An attempt on one controller blames the hurdle at which it has ended. -/
theorem Prepared.blames {outcome : Except HciError Unit} (hprepared : Prepared devId config trace outcome) :
    Blames (.open (.index devId) config) trace outcome := by
  cases hprepared with
  | notDown | notUp | notDownAgain | notBound => exact .request _ rfl rfl
  | @bound drained hdrained =>
    refine .ok ?_
    rw [Operation.culprits_append, Operation.culprits_passed rfl, Operation.culprits_passed rfl,
      hdrained.culprits_eq]
    rfl

/-- A selection blames the hurdle, the list or all candidates. -/
theorem blames_select (hruns : (select selector config).Runs trace result) :
    Blames (.open selector config) trace (verdict result) := by
  cases selector with
  | index devId =>
    rcases selectIndex_cases hruns with ⟨error, rfl, hprepared⟩ | ⟨rfl, hprepared⟩
    · exact hprepared.blames
    · exact hprepared.blames
  | any =>
    rcases selectAny_cases hruns with ⟨cause, rfl, rfl⟩ | ⟨entries, rest, rfl, hprobed⟩
    · exact .request _ rfl rfl
    -- The list has passed, and what candidates fail with is got over.
    · have hnone : (Operation.open .any config).culprits
          (listed entries :: .said (.log (.probing (candidates entries))) :: rest) = [] := by
        rw [Operation.culprits_passed rfl, Operation.culprits_passed rfl, hprobed.culprits_eq]
      cases hprobed with
      | chosen _ _ _ _ _ _ _ _ hresult =>
        rw [hresult]
        exact .ok hnone
      | exhausted _ _ _ _ hresult =>
        rw [hresult]
        exact .candidates rfl hnone

end Open

namespace Blames

variable {outcome : Except HciError Unit}

/-- A request that has not failed is not to blame, whenever it is made. -/
theorem surround (hblames : Blames operation trace outcome) (hasks : operation.asked? = none)
    (hbefore : failed before = []) (hafter : failed after = []) :
    Blames operation (before ++ (trace ++ after)) outcome := by
  -- Around the trace nothing has failed, so the culprits are the same.
  have hsame : operation.culprits (before ++ (trace ++ after)) = operation.culprits trace := by
    rw [Operation.culprits, failed_append, failed_append, hbefore, hafter, List.nil_append, List.append_nil]
    rfl
  cases hblames with
  | ok hnone => exact .ok (hsame.trans hnone)
  | request sign hone hnames => exact .request sign (hsame.trans hone) hnames
  | closed hwrite =>
    subst hwrite
    cases hasks
  | candidates hany hnone => exact .candidates hany (hsame.trans hnone)

end Blames

/-- An open blames what its selection does, or the making of its socket. -/
theorem Open.Opened.blames {selector : DeviceSelector} {config : OpenConfig} {result : Except HciError UInt16}
    (hopened : Opened selector config trace result) : Blames (.open selector config) trace (verdict result) := by
  have hmade : failed [.asked .create (.ok () : Except IoError Unit)] = [] := rfl
  cases hopened with
  | notMade cause => cases selector <;> exact .request _ rfl rfl
  | refused htried => exact (blames_select htried).surround rfl hmade rfl
  | bound htried =>
    have hblames := (blames_select htried).surround rfl hmade failed_nil
    rwa [List.append_nil] at hblames

/-- A call blames its own request, or the channel. -/
theorem Channel.Finished.blames {asked : Channel.Point} {outcome : Except HciError Unit}
    (hasked : operation.asked? = some asked) (hfinished : Channel.Finished devId asked trace outcome) :
    Blames operation trace outcome := by
  cases hfinished with
  | read length got released =>
    cases operation <;> cases hasked
    -- Nobody is failed by a release that was left to a read.
    have hsame : ∀ log, (Operation.read length).culprits
        (Channel.received length got ++ (Channel.givenBack released ++ Trace.ofLog log)) =
          (Operation.read length).culprits (Channel.received length got) := by
      intro log
      rw [Operation.culprits_append, Operation.culprits_append, Operation.culprits_ofLog]
      rcases released with _ | _ | _ <;> exact List.append_nil _
    rcases got with _ | ⟨stored, cause | count⟩
    · exact .ok (hsame _)
    · exact .request ((DescriptorCall.read length).asked (⟨stored, .error cause⟩ : Receipt IoError)) (hsame _) rfl
    · exact .ok (hsame _)
  | writeRefused frame =>
    cases operation <;> cases hasked
    exact .closed rfl rfl
  | write frame answer =>
    cases operation <;> cases hasked
    cases answer with
    | ok => exact .ok rfl
    | error cause => exact .request _ rfl rfl
  | closeAgain => exact .ok rfl
  | close answer released =>
    cases operation <;> cases hasked
    -- Nor is anybody by the close frame.
    have hsame : ∀ shown, Operation.close.culprits ((DescriptorCall.write closeFrame).asked answer ::
        (Trace.ofLog (frameWarning devId answer ++ [.closing devId]) ++ shown)) = Operation.close.culprits shown := by
      intro shown
      rw [← List.cons_append, Operation.culprits_append]
      cases answer <;> rfl
    rcases released with _ | cause | _
    · exact .ok (hsame _)
    · exact .request (DescriptorCall.release.asked (.error cause)) (hsame _) rfl
    · exact .ok (hsame _)

/-- **An operation fails with the one request that it does not get over**, and succeeds if there is none. -/
theorem Performed.blames {outcome : Except HciError Unit} (hperformed : Performed operation trace outcome) :
    Blames operation trace outcome := by
  cases hperformed with
  | operate hruns => exact (Control.answersFor_operate _ _ _ _ hruns).blames fun _ => rfl
  | info hruns => exact (Control.answersFor_info _ _ _ hruns).blames fun _ => rfl
  | list hruns => exact (Control.answersFor_list _ _ hruns).blames fun _ => rfl
  | devices hruns => exact (Control.answersFor_devices _ _ hruns).blames fun _ => rfl
  | «open» hruns => exact (Open.opened_of_runs hruns).blames
  | call hasked hrun hstarted hover => exact (hrun.finished hstarted hover).blames hasked
  | drop => exact .ok (Operation.culprits_eq_nil fun _ _ => rfl)

end HciTransport
