import HciTransport.Proofs.Open.Probe

/-!
# When no candidate accepts

Any controller will do, and none of those that are listed accepts the channel. Then every candidate was tried,
in ascending order and as often as it is listed, and the error tells for each attempt why it was refused
(`Aggregates`). The candidates get very unequal shares of the requests: an attempt makes one request if it is
refused at once, and four if it is refused at the bind. So what holds an attempt and its reason together is
`Refusal`, one for each place in the list, and `noDevices` reads off the text.

* `noneAccepted_of_grants`: an attempt that succeeds has its bind granted, so where no bind is granted none does.
* `runs_of_refusals`: any sequence of refused attempts, one for each candidate, can be seen.
* `aggregated`: nothing else can be seen where no attempt succeeds.
-/

namespace HciTransport.Open

open Control

variable {devId : UInt16} {config : OpenConfig} {trace : Trace Descriptor} {ids : List UInt16}
  {failures : String} {result : Except HciError UInt16} {entries : List DeviceEntry} {refusals : List Refusal}

/-! ## No attempt succeeds -/

/-- No part of the trace is an attempt that succeeds. -/
def NoneAccepted (config : OpenConfig) (trace : Trace Descriptor) : Prop :=
  ∀ devId attempt, (prepare devId config).Runs attempt (.ok ()) → ¬ attempt <:+: trace

/-- Where no bind is granted no attempt succeeds. -/
theorem noneAccepted_of_grants (hnone : grants trace = []) : NoneAccepted config trace := by
  intro devId attempt hattempt hpart
  obtain ⟨before, after, rfl⟩ := hpart
  have hgranted : grants attempt = [devId] := (prepared_of_runs hattempt).grants_of_ok
  -- The bind of the attempt would be one of the trace.
  rw [grants_append, grants_append, hgranted] at hnone
  simp at hnone

/-- Probing ends with an error exactly if no attempt in it succeeds. -/
theorem Probed.noneAccepted_iff (hprobed : Probed config failures ids trace result) :
    NoneAccepted config trace ↔ ∃ error, result = .error error := by
  cases hprobed with
  | chosen refusals devId later last hrefused haccepted hids htrace hresult =>
    constructor
    · intro hnone
      -- The attempt that was accepted stands at the end of the trace.
      have hpart : last <:+: trace := by
        rw [htrace]
        exact (List.suffix_append ..).isInfix
      exact absurd hpart (hnone devId last haccepted)
    · rintro ⟨error, herror⟩
      rw [hresult] at herror
      cases herror
  | exhausted refusals hrefused hids htrace hresult =>
    have hnone : grants trace = [] := by
      rw [htrace]
      exact grants_refusals hrefused
    exact iff_of_true (noneAccepted_of_grants hnone) ⟨_, hresult⟩

/-! ## The text of the error -/

/-- One reason, with the number of the controller and the text of the error. -/
theorem Refusal.reason_eq (refusal : Refusal) :
    refusal.reason = "(hci" ++ toString refusal.devId.toNat ++ ": " ++ refusal.error.message ++ ")" := by
  -- The number of the controller is spelt after the bracket and a common prefix.
  have hhead : "(" ++ hciName refusal.devId = "(hci" ++ toString refusal.devId.toNat := by
    unfold hciName
    rw [← String.append_assoc]
    rfl
  unfold Refusal.reason Open.reason
  rw [hhead]

theorem Refusal.reason_ne_empty (refusal : Refusal) : refusal.reason ≠ "" := by
  intro hempty
  unfold Refusal.reason Open.reason at hempty
  simp [String.append_eq_empty_iff] at hempty

/-- A text without reasons is one about nobody. -/
theorem join_reasons_eq_empty_iff : String.join (refusals.map Refusal.reason) = "" ↔ refusals = [] := by
  cases refusals with
  | nil => simp
  | cons refusal refusals =>
    have hsome := refusal.reason_ne_empty
    simp [String.append_eq_empty_iff, hsome]

/-- There is a candidate for each entry, so there is none only where the list is empty. -/
theorem candidates_eq_nil_iff : candidates entries = [] ↔ entries = [] := by
  have hlength : (candidates entries).length = entries.length := by
    rw [(perm_candidates entries).length_eq, List.length_map]
  rw [← List.length_eq_zero_iff, hlength, List.length_eq_zero_iff]

/-! ## What is asked for -/

/-- A refused attempt asks for hurdles of its controller only. -/
theorem Prepared.mem_hurdles_of_error {error : HciError}
    (hprepared : Prepared devId config trace (.error error)) {call : DescriptorCall}
    (hmem : call ∈ trace.calls) : call ∈ hurdles devId := by
  obtain ⟨reached, hcalls⟩ := hprepared.calls_of_error
  rw [hcalls] at hmem
  exact List.mem_of_mem_take hmem

/-- To wait for input or to read it is no hurdle. -/
theorem not_input_of_mem_hurdles {call : DescriptorCall} (hmem : call ∈ hurdles devId) :
    (∀ timeout, call ≠ .pollReadable timeout) ∧ ∀ length, call ≠ .read length := by
  simp only [hurdles, List.mem_cons, List.not_mem_nil, or_false] at hmem
  rcases hmem with rfl | rfl | rfl | rfl <;> simp

theorem not_input_of_refusals (hrefused : ∀ refusal ∈ refusals, refusal.Sound config) {call : DescriptorCall}
    (hmem : call ∈ Trace.calls (refusals.flatMap Refusal.shown)) :
    (∀ timeout, call ≠ .pollReadable timeout) ∧ ∀ length, call ≠ .read length := by
  obtain ⟨refusal, hrefusal, hmem⟩ := mem_calls_flatMap hmem
  have hprepared := prepared_of_runs (hrefused refusal hrefusal)
  exact not_input_of_mem_hurdles (hprepared.mem_hurdles_of_error hmem)

/-! ## Whatever is refused can be seen -/

/-- Refused attempts can follow each other, and their reasons add up. -/
theorem runs_probeFrom_refusals (hrefused : ∀ refusal ∈ refusals, refusal.Sound config) :
    (probeFrom config failures (refusals.map (·.devId))).Runs (refusals.flatMap Refusal.shown)
      (.error (.noDevices (failures ++ String.join (refusals.map Refusal.reason)))) := by
  -- Along the attempts: the reasons so far are in front, whatever they are.
  induction refusals generalizing failures with
  | nil =>
    simp only [List.map_nil, List.flatMap_nil, String.join_nil, String.append_empty]
    exact .done _
  | cons refusal refusals ih =>
    have hothers := @ih (failures ++ refusal.reason) fun other hmem => hrefused other (List.mem_cons_of_mem _ hmem)
    rw [List.map_cons, List.map_cons, List.flatMap_cons, String.join_cons, ← String.append_assoc, probeFrom]
    refine Program.runs_bind_iff.mpr ⟨refusal.trace, _, _, ?_, hrefused refusal List.mem_cons_self, .emit hothers⟩
    simp [Refusal.shown]

/-- If there is one for each candidate, the selection ends with these reasons. -/
theorem runs_of_refusals (hrefused : ∀ refusal ∈ refusals, refusal.Sound config)
    (hids : refusals.map (·.devId) = candidates entries) :
    (select .any config).Runs
      (listed entries :: .said (.log (.probing (candidates entries))) :: refusals.flatMap Refusal.shown)
      (.error (.noDevices (String.join (refusals.map Refusal.reason)))) := by
  have hprobe := @runs_probeFrom_refusals config "" refusals hrefused
  rw [hids, String.empty_append] at hprobe
  refine Program.runs_andThen_iff.mpr (.inr ⟨[listed entries], _, entries, rfl, ?_, .emit hprobe⟩)
  exact Program.runs_ask_iff.mpr ⟨.ok entries, rfl, rfl⟩

/-! ## The main result -/

/-- How it ends that no controller of a list accepts. -/
structure Aggregates (config : OpenConfig) (entries : List DeviceEntry) (trace : Trace Descriptor)
    (result : Except HciError UInt16) : Prop where
  /-- The candidates are the controllers of the list, each as often as it is listed, in ascending order. -/
  ascending : (candidates entries).Pairwise (· ≤ ·)
  all_listed : (candidates entries).Perm (entries.map (·.devId))
  /-- Each candidate was tried once, in this order, and refused for a reason of its own; the text of the error
  is made of these reasons, in the same order. -/
  reasons : ∃ refusals : List Refusal, refusals.map (·.devId) = candidates entries ∧
    (∀ refusal ∈ refusals, Prepared refusal.devId config refusal.trace (.error refusal.error)) ∧
    trace = listed entries :: .said (.log (.probing (candidates entries))) :: refusals.flatMap Refusal.shown ∧
    result = .error (.noDevices (String.join (refusals.map fun refusal =>
      "(hci" ++ toString refusal.devId.toNat ++ ": " ++ refusal.error.message ++ ")")))
  /-- The text is empty exactly if the list is. -/
  empty_text : result = .error (.noDevices "") ↔ entries = []
  /-- No bind was granted. -/
  no_bind : grants trace = []
  /-- Nobody waited for input or read it. -/
  no_input : ∀ call ∈ trace.calls, (∀ timeout, call ≠ .pollReadable timeout) ∧ ∀ length, call ≠ .read length

/-- How any controller is opened in vain. -/
structure Aggregated (config : OpenConfig) (trace : Trace Descriptor) (result : Except HciError UInt16) :
    Prop where
  /-- The list is asked for first of all. -/
  lists : (∃ cause, trace.head? = some (unlisted cause)) ∨ ∃ entries, trace.head? = some (listed entries)
  /-- Without a list no controller is tried, and the error is that of the list. -/
  no_list : ∀ cause, unlisted cause ∈ trace → trace = [unlisted cause] ∧ result = .error (.deviceList cause)
  /-- With a list of which no candidate accepts, the error tells about all of them. -/
  no_candidate : NoneAccepted config trace → ∀ entries, listed entries ∈ trace →
    Aggregates config entries trace result

/-- A selection that ends in refusals only has everything that is said of one in vain. -/
theorem aggregates_of_refusals (hrefused : ∀ refusal ∈ refusals, refusal.Sound config)
    (hids : candidates entries = refusals.map (·.devId)) :
    Aggregates config entries
      (listed entries :: .said (.log (.probing (candidates entries))) :: refusals.flatMap Refusal.shown)
      (.error (.noDevices (String.join (refusals.map Refusal.reason)))) where
  ascending := pairwise_candidates entries
  all_listed := perm_candidates entries
  reasons := by
    refine ⟨refusals, hids.symm, ?_, rfl, ?_⟩
    · intro refusal hmem
      exact prepared_of_runs (hrefused refusal hmem)
    -- The reasons are spelt out here, so that the statement says what the text is.
    · have hspelt : refusals.map Refusal.reason = refusals.map fun refusal =>
          "(hci" ++ toString refusal.devId.toNat ++ ": " ++ refusal.error.message ++ ")" :=
        List.map_congr_left fun refusal _ => refusal.reason_eq
      rw [hspelt]
  empty_text := by
    have hnobody : refusals = [] ↔ entries = [] := by
      rw [← candidates_eq_nil_iff, hids, List.map_eq_nil_iff]
    rw [← hnobody, ← join_reasons_eq_empty_iff]
    simp
  no_bind := grants_refusals hrefused
  no_input := by
    intro call hmem
    rcases List.mem_cons.mp hmem with rfl | hmem
    · simp
    · exact not_input_of_refusals hrefused hmem

/-- **Where no candidate accepts, the error tells of each of them why**, and nothing was touched beyond the
hurdle that it stopped at. -/
theorem aggregated (hruns : (select .any config).Runs trace result) : Aggregated config trace result := by
  rcases selectAny_cases hruns with ⟨cause, rfl, rfl⟩ | ⟨entries, rest, rfl, hprobed⟩
  · refine ⟨.inl ⟨cause, rfl⟩, ?_, ?_⟩
    · intro other hmem
      cases List.mem_singleton.mp hmem
      exact ⟨rfl, rfl⟩
    · intro _ entries hmem
      cases List.mem_singleton.mp hmem
  · -- Nobody asks for the list again, so there is one answer to it.
    have honce : ∀ answer : Except IoError (List DeviceEntry),
        .asked .listDevices answer ∈ listed entries :: .said (.log (.probing (candidates entries))) :: rest →
          answer = .ok entries := by
      intro answer hmem
      rcases List.mem_cons.mp hmem with hmem | hmem
      · cases hmem
        rfl
      · refine absurd ?_ hprobed.not_lists
        rcases List.mem_cons.mp hmem with hmem | hmem
        · cases hmem
        · exact List.mem_filterMap.mpr ⟨_, hmem, rfl⟩
    refine ⟨.inr ⟨entries, rfl⟩, ?_, ?_⟩
    · intro cause hmem
      cases honce _ hmem
    · intro hnone given hmem
      cases honce _ hmem
      -- What is true of the whole trace is true of the part behind the list.
      have hnone : NoneAccepted config rest := by
        intro devId attempt hattempt hpart
        exact hnone devId attempt hattempt (hpart.trans ((List.suffix_cons ..).trans (List.suffix_cons ..)).isInfix)
      obtain ⟨error, rfl⟩ := hprobed.noneAccepted_iff.mp hnone
      cases hprobed with
      | chosen _ _ _ _ _ _ _ _ hresult => cases hresult
      | exhausted refusals hrefused hids htrace hresult =>
        rw [htrace, hresult, String.empty_append]
        exact aggregates_of_refusals hrefused hids

/-- Three attempts on two controllers, each refused at another hurdle. -/
def unwilling : List Refusal :=
  [⟨1, issued .down 1 (.ok ()) ++ issued .up 1 (.error (.system 132)), .control .up 1 (.system 132)⟩,
   ⟨1, issued .down 1 (.ok ()) ++ issued .up 1 (.ok ()) ++ issued .down 1 (.ok ()) ++ [denied 1 (.system 16)],
    .bind 1 (.system 16)⟩,
   ⟨3, issued .down 3 (.error (.system 19)), .control .down 3 (.system 19)⟩]

/-- What is seen of them, when the kernel lists the two controllers in disorder and one of them twice. -/
def unwillingRun : Trace Descriptor :=
  listed [⟨1, 0⟩, ⟨3, 0⟩, ⟨1, 0⟩] :: .said (.log (.probing [1, 1, 3])) :: unwilling.flatMap Refusal.shown

/-- The reasons for them, in a row. -/
def unwillingText : String :=
  "(hci1: can't up device hci1: Operation not possible due to RF-kill (os error 132))" ++
  "(hci1: can't bind socket to hci1 user channel: Device or resource busy (os error 16))" ++
  "(hci3: can't down device hci3: No such device (os error 19))"

/-- The controller that is listed twice is told about twice. -/
theorem aggregated_unwilling :
    (select .any .standard).Runs unwillingRun (.error (.noDevices unwillingText)) ∧
      NoneAccepted .standard unwillingRun ∧ listed [⟨1, 0⟩, ⟨3, 0⟩, ⟨1, 0⟩] ∈ unwillingRun ∧
      Aggregates .standard [⟨1, 0⟩, ⟨3, 0⟩, ⟨1, 0⟩] unwillingRun (.error (.noDevices unwillingText)) := by
  have hrefused : ∀ refusal ∈ unwilling, refusal.Sound .standard := by
    intro refusal hmem
    simp only [unwilling, List.mem_cons, List.not_mem_nil, or_false] at hmem
    -- Each attempt is a row of the table.
    rcases hmem with rfl | rfl | rfl
    · exact (Prepared.notUp (.system 132)).runs
    · exact (Prepared.notBound (.system 16)).runs
    · exact (Prepared.notDown (.system 19)).runs
  have hcandidates : candidates [⟨1, 0⟩, ⟨3, 0⟩, ⟨1, 0⟩] = [1, 1, 3] := candidates_eq (by decide) (by decide)
  have htext : String.join (unwilling.map Refusal.reason) = unwillingText := by decide +kernel
  have hruns : (select .any .standard).Runs unwillingRun (.error (.noDevices unwillingText)) := by
    have hruns := runs_of_refusals hrefused hcandidates.symm
    rwa [htext, hcandidates] at hruns
  have hnone : NoneAccepted .standard unwillingRun := noneAccepted_of_grants (grants_refusals hrefused)
  have hlisted : listed [⟨1, 0⟩, ⟨3, 0⟩, ⟨1, 0⟩] ∈ unwillingRun := List.mem_cons_self
  exact ⟨hruns, hnone, hlisted, (aggregated hruns).no_candidate hnone _ hlisted⟩

end HciTransport.Open
