import HciTransport.Proofs.Open.Probe
import HciTransport.Proofs.Socket.Lifetime
import HciTransport.Proofs.Socket.Lowering

/-!
# Opening a channel on a raw socket

A channel is opened on a descriptor of its own, which is forgotten if the work on it fails (`Opened`). The
work asks to prepare controllers and for nothing else. So whoever opens a channel writes nothing, and where
the open succeeds nothing was closed: the socket is left with a number that is still its own
(`opened_live`).
-/

namespace HciTransport

/-- A request that is made to get a channel ready. -/
def DescriptorCall.isPreparation : DescriptorCall → Bool
  | .control _ _ | .listDevices | .bindUserChannel _ | .pollReadable _ | .read _ => true
  | .create | .deviceInfo _ | .write _ | .release | .discard => false

namespace Open

open Control RawSocket

variable {devId : UInt16} {selector : DeviceSelector} {config : OpenConfig} {trace : Trace Descriptor}
  {ids : List UInt16} {failures : String} {result : Except HciError UInt16} {socket : RawSocket}
  {made : Trace Kernel}

/-! ## What is asked for -/

/-- An attempt asks for nothing but preparations. -/
theorem Prepared.isPreparation {outcome : Except HciError Unit} (hprepared : Prepared devId config trace outcome)
    {call : DescriptorCall} (hmem : call ∈ trace.calls) : call.isPreparation = true := by
  rcases hprepared.mem_calls hmem with hown | rfl | rfl
  · simp only [hurdles, List.mem_cons, List.not_mem_nil, or_false] at hown
    rcases hown with rfl | rfl | rfl | rfl <;> rfl
  · rfl
  · rfl

theorem Probed.isPreparation (hprobed : Probed config failures ids trace result) {call : DescriptorCall}
    (hmem : call ∈ trace.calls) : call.isPreparation = true := by
  obtain ⟨_, _, _, hprepared, hmem⟩ := hprobed.mem_calls hmem
  exact hprepared.isPreparation hmem

/-- A selection asks for nothing but preparations, be it of one controller or of any. -/
theorem isPreparation_of_select (hruns : (select selector config).Runs trace result) {call : DescriptorCall}
    (hmem : call ∈ trace.calls) : call.isPreparation = true := by
  cases selector with
  | index devId =>
    rcases selectIndex_cases hruns with ⟨error, -, hprepared⟩ | ⟨-, hprepared⟩
    · exact hprepared.isPreparation hmem
    · exact hprepared.isPreparation hmem
  | any =>
    rcases selectAny_cases hruns with ⟨cause, rfl, -⟩ | ⟨entries, rest, rfl, hprobed⟩
    · cases List.mem_singleton.mp hmem
      rfl
    · rcases List.mem_cons.mp hmem with rfl | hmem
      · rfl
      · exact hprobed.isPreparation hmem

/-! ## On a descriptor of its own -/

/-- What is seen of an open, and its result. -/
inductive Opened (selector : DeviceSelector) (config : OpenConfig) :
    Trace Descriptor → Except HciError UInt16 → Prop where
  | notMade (cause : IoError) :
      Opened selector config [.asked .create (.error cause : Except IoError Unit)] (.error (.socket cause))
  | refused {tried : Trace Descriptor} {error : HciError}
      (htried : (select selector config).Runs tried (.error error)) :
      Opened selector config
        (.asked .create (.ok () : Except IoError Unit) :: (tried ++ [.asked .discard ()])) (.error error)
  | bound {tried : Trace Descriptor} {devId : UInt16} (htried : (select selector config).Runs tried (.ok devId)) :
      Opened selector config (.asked .create (.ok () : Except IoError Unit) :: tried) (.ok devId)

/-- Every open is one of these three. -/
theorem opened_of_runs (hruns : (channel selector config).Runs trace result) :
    Opened selector config trace result := by
  obtain ⟨answer, _, rfl, hmade⟩ := Program.runs_call_iff.mp hruns
  rcases answer with cause | _
  · obtain ⟨rfl, rfl⟩ := Program.runs_done_iff.mp hmade
    exact .notMade cause
  · obtain ⟨tried, after, outcome, rfl, htried, hlast⟩ := Program.runs_bind_iff.mp hmade
    cases outcome with
    | error error =>
      obtain ⟨_, rfl, rfl⟩ := Program.runs_ask_iff.mp hlast
      exact .refused htried
    | ok devId =>
      obtain ⟨rfl, rfl⟩ := Program.runs_done_iff.mp hlast
      rw [List.append_nil]
      exact .bound htried

/-- Whoever opens a channel makes a descriptor, prepares, and forgets it only if the open has failed. -/
theorem Opened.mem_calls (hopened : Opened selector config trace result) {call : DescriptorCall}
    (hmem : call ∈ trace.calls) :
    call = .create ∨ call.isPreparation = true ∨ call = .discard ∧ ∃ error, result = .error error := by
  cases hopened with
  | notMade cause => exact .inl (List.mem_singleton.mp hmem)
  | refused htried =>
    rw [← List.cons_append, Trace.calls_append] at hmem
    rcases List.mem_append.mp hmem with hmem | hmem
    · rcases List.mem_cons.mp hmem with hmem | hmem
      · exact .inl hmem
      · exact .inr (.inl (isPreparation_of_select htried hmem))
    · exact .inr (.inr ⟨List.mem_singleton.mp hmem, _, rfl⟩)
  | bound htried =>
    rcases List.mem_cons.mp hmem with hmem | hmem
    · exact .inl hmem
    · exact .inr (.inl (isPreparation_of_select htried hmem))

/-! ## On a raw socket -/

/-- What serves a preparation neither writes nor closes. -/
theorem quiet_of_serves {request : DescriptorCall} {call : KernelCall}
    (hrequest : request = .create ∨ request.isPreparation = true) (hserves : call.Serves request) :
    call.frame? = none ∧ call.closes? = none := by
  rcases hrequest with rfl | hrequest
  · cases call <;> first | exact ⟨rfl, rfl⟩ | cases hserves
  · cases request with
    | control | listDevices | bindUserChannel | pollReadable | read =>
      cases call <;> first | exact ⟨rfl, rfl⟩ | cases hserves
    | create | deviceInfo | write | release | discard => cases hrequest

/-- **Whoever opens a channel writes nothing.** -/
theorem frame?_of_opened (hruns : (lower (channel selector config) .absent).Runs made (socket, result))
    {call : KernelCall} (hmem : call ∈ made.calls) : call.frame? = none := by
  obtain ⟨asked, hasked, hserved⟩ := runs_lower_iff.mp hruns
  obtain ⟨request, hrequest, hserves⟩ := hserved.mem_calls hmem
  -- Every call serves a request of the open, and no such request is served by a write.
  rcases (opened_of_runs hasked).mem_calls hrequest with hown | hown | ⟨rfl, -⟩
  · exact (quiet_of_serves (.inl hown) hserves).1
  · exact (quiet_of_serves (.inr hown) hserves).1
  · cases call <;> first | rfl | cases hserves

/-- Whoever has opened a channel has closed nothing on the way. -/
theorem closes?_of_opened (hruns : (lower (channel selector config) .absent).Runs made (socket, .ok devId))
    {call : KernelCall} (hmem : call ∈ made.calls) : call.closes? = none := by
  obtain ⟨asked, hasked, hserved⟩ := runs_lower_iff.mp hruns
  obtain ⟨request, hrequest, hserves⟩ := hserved.mem_calls hmem
  rcases (opened_of_runs hasked).mem_calls hrequest with hown | hown | ⟨-, error, herror⟩
  · exact (quiet_of_serves (.inl hown) hserves).2
  · exact (quiet_of_serves (.inr hown) hserves).2
  -- The descriptor is forgotten only where the open fails.
  · cases herror

/-- A channel that was opened has a number of its own. -/
theorem opened_live (hruns : (lower (channel selector config) .absent).Runs made (socket, .ok devId)) :
    socket.released = false := by
  -- What the descriptor is at the end is said by its account.
  have hlive := ((tidy_channel selector config).uses rfl hruns 0).2
  simpa [Except.isOk, Except.toBool] using hlive

end Open

end HciTransport
