import HciTransport.Proofs.Open.Sequence

/-!
# Which controller is opened, if any will do

The controllers that the kernel lists are tried in ascending order, one attempt for each entry, and the
first attempt that succeeds is the last one that is made. `Probed` says what is seen of that: the attempts
that were refused, and the one that succeeded if there is one. An attempt names its own controller and no
other, so no controller beyond the chosen one is ever touched; and an attempt that was refused has had no
bind granted, so there is one bind that was (`picksFirst`).
-/

namespace HciTransport

/-- The controller that a request names. -/
def DescriptorCall.controller? : DescriptorCall → Option UInt16
  | .control _ devId | .bindUserChannel devId => some devId
  | .deviceInfo record => some (Bytes.u16At record 0)
  | _ => none

/-- The controller whose bind was granted. -/
def Sign.grants? : Sign Descriptor → Option UInt16
  | .asked (.bindUserChannel devId) (.ok ()) => some devId
  | _ => none

namespace Open

open Control

/-- The controllers whose binds were granted. -/
def grants (trace : Trace Descriptor) : List UInt16 := trace.filterMap Sign.grants?

theorem grants_append (before after : Trace Descriptor) :
    grants (before ++ after) = grants before ++ grants after := List.filterMap_append

/-- Everything but a bind that was granted can be left out. -/
theorem grants_cons_none {sign : Sign Descriptor} {trace : Trace Descriptor} (hnone : sign.grants? = none) :
    grants (sign :: trace) = grants trace := List.filterMap_cons_none hnone

variable {devId : UInt16} {config : OpenConfig} {trace : Trace Descriptor} {ids : List UInt16}
  {failures : String} {result : Except HciError UInt16}

/-! ## One attempt -/

theorem controller?_of_mem_hurdles {call : DescriptorCall} (hmem : call ∈ hurdles devId) :
    call.controller? = some devId := by
  simp only [hurdles, List.mem_cons, List.not_mem_nil, or_false] at hmem
  rcases hmem with rfl | rfl | rfl | rfl <;> rfl

theorem Drained.grants_eq (hdrained : Drained devId config trace) : grants trace = [] := by
  cases hdrained <;> rfl

/-- What an attempt names is its own controller. -/
theorem Prepared.eq_of_controller? {outcome : Except HciError Unit}
    (hprepared : Prepared devId config trace outcome) {call : DescriptorCall} (hmem : call ∈ trace.calls)
    {named : UInt16} (hnamed : call.controller? = some named) : named = devId := by
  rcases hprepared.mem_calls hmem with hown | rfl | rfl
  · rw [controller?_of_mem_hurdles hown] at hnamed
    exact (Option.some.inj hnamed).symm
  · cases hnamed
  · cases hnamed

theorem Prepared.not_lists {outcome : Except HciError Unit} (hprepared : Prepared devId config trace outcome) :
    .listDevices ∉ trace.calls := by
  intro hmem
  rcases hprepared.mem_calls hmem with hown | hpoll | hread
  · have hnamed := controller?_of_mem_hurdles hown
    cases hnamed
  · cases hpoll
  · cases hread

/-- An attempt that was refused has no bind to show for it. -/
theorem Prepared.grants_of_error {error : HciError} (hprepared : Prepared devId config trace (.error error)) :
    grants trace = [] := by
  cases hprepared <;> rfl

/-- The bind of an attempt that succeeds is the only one in it that is granted. -/
theorem Prepared.grants_of_ok (hprepared : Prepared devId config trace (.ok ())) :
    grants trace = [devId] := by
  cases hprepared with
  | bound hdrained =>
    rw [grants_append]
    have hbefore : grants (issued .down devId (.ok ()) ++ issued .up devId (.ok ()) ++
        issued .down devId (.ok ())) = [] := rfl
    have hlast : ∀ drained, grants (granted devId :: .said (.log (.bound devId)) :: drained) =
        devId :: grants drained := fun _ => rfl
    rw [hbefore, hlast, hdrained.grants_eq]
    rfl

/-! ## One attempt after another -/

/-- An attempt that was refused. -/
structure Refusal where
  devId : UInt16
  trace : Trace Descriptor
  error : HciError

namespace Refusal

/-- The attempt is one that the open sequence can make. -/
def Sound (config : OpenConfig) (refusal : Refusal) : Prop :=
  (prepare refusal.devId config).Runs refusal.trace (.error refusal.error)

/-- What is seen of it. -/
def shown (refusal : Refusal) : Trace Descriptor :=
  refusal.trace ++ [.said (.log (.notAvailable refusal.devId refusal.error))]

/-- What is said about it in the end. -/
def reason (refusal : Refusal) : String := Open.reason refusal.devId refusal.error

end Refusal

/-- Candidates are tried in turn: all that were tried before the last were refused, and the last one was
accepted, or there is no candidate left. `failures` is told about those that were tried still earlier. -/
inductive Probed (config : OpenConfig) (failures : String) (ids : List UInt16)
    (trace : Trace Descriptor) (result : Except HciError UInt16) : Prop where
  | chosen (refusals : List Refusal) (devId : UInt16) (later : List UInt16) (last : Trace Descriptor)
      (hrefused : ∀ refusal ∈ refusals, refusal.Sound config)
      (haccepted : (prepare devId config).Runs last (.ok ()))
      (hids : ids = refusals.map (·.devId) ++ devId :: later)
      (htrace : trace = refusals.flatMap Refusal.shown ++ last) (hresult : result = .ok devId)
  | exhausted (refusals : List Refusal) (hrefused : ∀ refusal ∈ refusals, refusal.Sound config)
      (hids : ids = refusals.map (·.devId)) (htrace : trace = refusals.flatMap Refusal.shown)
      (hresult : result = .error (.noDevices (failures ++ String.join (refusals.map Refusal.reason))))

/-- One more attempt that was refused stands in front. -/
theorem Probed.cons {refusal : Refusal} (hsound : refusal.Sound config)
    (hprobed : Probed config (failures ++ refusal.reason) ids trace result) :
    Probed config failures (refusal.devId :: ids) (refusal.shown ++ trace) result := by
  have hmore : ∀ {refusals : List Refusal}, (∀ refusal ∈ refusals, refusal.Sound config) →
      ∀ other ∈ refusal :: refusals, other.Sound config := by
    intro refusals hrefused other hmem
    rcases List.mem_cons.mp hmem with rfl | hmem
    · exact hsound
    · exact hrefused other hmem
  cases hprobed with
  | chosen refusals devId later last hrefused haccepted hids htrace hresult =>
    refine .chosen (refusal :: refusals) devId later last (hmore hrefused) haccepted ?_ ?_ hresult
    · rw [hids, List.map_cons, List.cons_append]
    · rw [htrace, List.flatMap_cons, List.append_assoc]
  | exhausted refusals hrefused hids htrace hresult =>
    refine .exhausted (refusal :: refusals) (hmore hrefused) ?_ ?_ ?_
    · rw [hids, List.map_cons]
    · rw [htrace, List.flatMap_cons]
    · rw [hresult, List.map_cons, String.join_cons, String.append_assoc]

/-- **What is seen of probing.** -/
theorem probed_of_runs (hruns : (probeFrom config failures ids).Runs trace result) :
    Probed config failures ids trace result := by
  -- Along the candidates: each refusal adds to the failures, and the rest is tried as if they had been there before.
  induction ids generalizing failures trace with
  | nil =>
    obtain ⟨rfl, rfl⟩ := Program.runs_done_iff.mp hruns
    exact .exhausted [] (fun _ hmem => by cases hmem) rfl rfl (by simp)
  | cons devId later ih =>
    obtain ⟨before, after, outcome, rfl, hattempt, hnext⟩ := Program.runs_bind_iff.mp hruns
    cases outcome with
    | ok =>
      obtain ⟨rfl, rfl⟩ := Program.runs_done_iff.mp hnext
      rw [List.append_nil]
      exact .chosen [] devId later before (fun _ hmem => by cases hmem) hattempt rfl rfl rfl
    | error error =>
      obtain ⟨rest, rfl, hrest⟩ := Program.runs_emit_iff.mp hnext
      have hsound : Refusal.Sound config ⟨devId, before, error⟩ := hattempt
      have hprobed := Probed.cons hsound (ih hrest)
      rwa [Refusal.shown, List.append_assoc, List.singleton_append] at hprobed

theorem mem_calls_flatMap {refusals : List Refusal} {call : DescriptorCall}
    (hmem : call ∈ Trace.calls (refusals.flatMap Refusal.shown)) :
    ∃ refusal ∈ refusals, call ∈ refusal.trace.calls := by
  induction refusals with
  | nil => cases hmem
  | cons refusal refusals ih =>
    rw [List.flatMap_cons, Trace.calls_append, Refusal.shown, Trace.calls_append] at hmem
    rcases List.mem_append.mp hmem with hmem | hmem
    · -- What is logged about a refusal asks for nothing.
      refine ⟨refusal, List.mem_cons_self, ?_⟩
      simpa using hmem
    · obtain ⟨other, hother, hmem⟩ := ih hmem
      exact ⟨other, List.mem_cons_of_mem _ hother, hmem⟩

/-- Refused attempts have no bind to show for them. -/
theorem grants_refusals {refusals : List Refusal} (hrefused : ∀ refusal ∈ refusals, refusal.Sound config) :
    grants (refusals.flatMap Refusal.shown) = [] := by
  -- One attempt after the other, and none of them has bound anything.
  induction refusals with
  | nil => rfl
  | cons refusal refusals ih =>
    have hnone := (prepared_of_runs (hrefused refusal List.mem_cons_self)).grants_of_error
    have hothers := ih fun other hmem => hrefused other (List.mem_cons_of_mem _ hmem)
    rw [List.flatMap_cons, grants_append, hothers, Refusal.shown, grants_append, hnone]
    rfl

/-- The controllers that they name are those that were tried. -/
theorem mem_of_controller? {refusals : List Refusal} (hrefused : ∀ refusal ∈ refusals, refusal.Sound config)
    {call : DescriptorCall} (hmem : call ∈ Trace.calls (refusals.flatMap Refusal.shown)) {named : UInt16}
    (hnamed : call.controller? = some named) : named ∈ refusals.map (·.devId) := by
  obtain ⟨refusal, hrefusal, hmem⟩ := mem_calls_flatMap hmem
  rw [(prepared_of_runs (hrefused refusal hrefusal)).eq_of_controller? hmem hnamed]
  exact List.mem_map_of_mem hrefusal

/-- Whatever is asked for while candidates are tried, an attempt asks for it. -/
theorem Probed.mem_calls (hprobed : Probed config failures ids trace result) {call : DescriptorCall}
    (hmem : call ∈ trace.calls) :
    ∃ devId shown outcome, Prepared devId config shown outcome ∧ call ∈ shown.calls := by
  -- A refused attempt shows a run of the sequence as much as the last one does.
  have hearlier : ∀ {refusals : List Refusal}, (∀ refusal ∈ refusals, refusal.Sound config) →
      call ∈ Trace.calls (refusals.flatMap Refusal.shown) →
        ∃ devId shown outcome, Prepared devId config shown outcome ∧ call ∈ shown.calls := by
    intro refusals hrefused hmem
    obtain ⟨refusal, hrefusal, hmem⟩ := mem_calls_flatMap hmem
    exact ⟨_, _, _, prepared_of_runs (hrefused refusal hrefusal), hmem⟩
  cases hprobed with
  | chosen refusals devId later last hrefused haccepted hids htrace hresult =>
    rw [htrace, Trace.calls_append] at hmem
    rcases List.mem_append.mp hmem with hmem | hmem
    · exact hearlier hrefused hmem
    · exact ⟨_, _, _, prepared_of_runs haccepted, hmem⟩
  | exhausted refusals hrefused hids htrace hresult =>
    rw [htrace] at hmem
    exact hearlier hrefused hmem

theorem Probed.not_lists (hprobed : Probed config failures ids trace result) :
    .listDevices ∉ trace.calls := by
  intro hmem
  obtain ⟨_, _, _, hprepared, hmem⟩ := hprobed.mem_calls hmem
  exact hprepared.not_lists hmem

/-- A probing that succeeds ends with the attempt that did. -/
theorem Probed.of_ok (hprobed : Probed config failures ids trace (.ok devId)) :
    ∃ (refusals : List Refusal) (later : List UInt16) (last : Trace Descriptor),
      (∀ refusal ∈ refusals, refusal.Sound config) ∧ Prepared devId config last (.ok ()) ∧
        ids = refusals.map (·.devId) ++ devId :: later ∧ trace = refusals.flatMap Refusal.shown ++ last := by
  cases hprobed with
  | chosen refusals chosen later last hrefused haccepted hids htrace hresult =>
    cases hresult
    exact ⟨refusals, later, last, hrefused, prepared_of_runs haccepted, hids, htrace⟩
  | exhausted refusals hrefused hids htrace hresult => cases hresult

/-- The one bind that was granted is that of the chosen controller. -/
theorem Probed.grants_of_ok (hprobed : Probed config failures ids trace (.ok devId)) :
    grants trace = [devId] := by
  obtain ⟨refusals, later, last, hrefused, hlast, -, rfl⟩ := hprobed.of_ok
  rw [grants_append, grants_refusals hrefused, hlast.grants_of_ok]
  rfl

/-- Whatever is asked for while candidates are tried, it is about a candidate. -/
theorem Probed.mem_ids (hprobed : Probed config failures ids trace result) {call : DescriptorCall}
    (hmem : call ∈ trace.calls) {named : UInt16} (hnamed : call.controller? = some named) : named ∈ ids := by
  cases hprobed with
  | chosen refusals devId later last hrefused haccepted hids htrace hresult =>
    rw [htrace, Trace.calls_append] at hmem
    rw [hids]
    rcases List.mem_append.mp hmem with hmem | hmem
    · exact List.mem_append_left _ (mem_of_controller? hrefused hmem hnamed)
    · rw [(prepared_of_runs haccepted).eq_of_controller? hmem hnamed]
      exact List.mem_append_right _ List.mem_cons_self
  | exhausted refusals hrefused hids htrace hresult =>
    rw [htrace] at hmem
    rw [hids]
    exact mem_of_controller? hrefused hmem hnamed

/-- Where candidates are tried in ascending order, no request names one beyond the one that is chosen. -/
theorem Probed.le_of_controller? (hprobed : Probed config failures ids trace (.ok devId))
    (hascending : ids.Pairwise (· ≤ ·)) {call : DescriptorCall} (hmem : call ∈ trace.calls) {named : UInt16}
    (hnamed : call.controller? = some named) : named ≤ devId := by
  obtain ⟨refusals, later, last, hrefused, hlast, rfl, rfl⟩ := hprobed.of_ok
  rw [Trace.calls_append] at hmem
  rcases List.mem_append.mp hmem with hmem | hmem
  -- Whatever was refused stood before the chosen one in an ascending list.
  · have hearlier := mem_of_controller? hrefused hmem hnamed
    exact (List.pairwise_append.mp hascending).2.2 named hearlier devId List.mem_cons_self
  · rw [hlast.eq_of_controller? hmem hnamed]
    exact UInt16.le_refl devId

/-- Behind that bind only input is drained. -/
theorem Probed.split_of_ok (hprobed : Probed config failures ids trace (.ok devId)) :
    ∃ before after, trace = before ++ granted devId :: after ∧
      ∀ call ∈ Trace.calls after, call = .pollReadable config.drainTimeout ∨ call = .read config.drainLength := by
  obtain ⟨refusals, later, last, -, hlast, -, rfl⟩ := hprobed.of_ok
  obtain ⟨before, drained, rfl, hdrained, -⟩ := hlast.split_of_ok
  refine ⟨refusals.flatMap Refusal.shown ++ before, .said (.log (.bound devId)) :: drained, ?_, ?_⟩
  · rw [List.append_assoc]
  · intro call hmem
    exact hdrained.mem_calls hmem

/-! ## Any controller -/

/-- The candidates are in ascending order. -/
theorem pairwise_candidates (entries : List DeviceEntry) : (candidates entries).Pairwise (· ≤ ·) := by
  have htrans : ∀ a b c : UInt16, decide (a ≤ b) = true → decide (b ≤ c) = true → decide (a ≤ c) = true := by
    intro a b c hab hbc
    exact decide_eq_true (UInt16.le_trans (of_decide_eq_true hab) (of_decide_eq_true hbc))
  have htotal : ∀ a b : UInt16, (decide (a ≤ b) || decide (b ≤ a)) = true := by
    intro a b
    simpa using UInt16.le_total a b
  exact (List.pairwise_mergeSort htrans htotal (entries.map (·.devId))).imp of_decide_eq_true

theorem perm_candidates (entries : List DeviceEntry) :
    (candidates entries).Perm (entries.map (·.devId)) := List.mergeSort_perm _ _

/-- An ascending list of the controllers that are listed is the candidates. -/
theorem candidates_eq {entries : List DeviceEntry} (hascending : ids.Pairwise (· ≤ ·))
    (hlisted : ids.Perm (entries.map (·.devId))) : candidates entries = ids := by
  -- Two ascending lists of the same controllers are the same list.
  refine List.Perm.eq_of_pairwise ?_ (pairwise_candidates entries) hascending
    ((perm_candidates entries).trans hlisted.symm)
  intro a b _ _ hab hba
  exact UInt16.le_antisymm hab hba

/-- The kernel lists these entries. -/
def listed (entries : List DeviceEntry) : Sign Descriptor :=
  .asked .listDevices (.ok entries : Except IoError (List DeviceEntry))

/-- The kernel does not list any controllers. -/
def unlisted (cause : IoError) : Sign Descriptor :=
  .asked .listDevices (.error cause : Except IoError (List DeviceEntry))

/-- How any controller is opened when the kernel lists `entries`. -/
structure PicksFirst (config : OpenConfig) (entries : List DeviceEntry) (trace : Trace Descriptor)
    (result : Except HciError UInt16) : Prop where
  /-- The candidates are the controllers of the list, each as often as it is listed, in ascending order. -/
  ascending : (candidates entries).Pairwise (· ≤ ·)
  all_listed : (candidates entries).Perm (entries.map (·.devId))
  /-- The list is asked for once, and then the candidates are tried in turn, up to the first that accepts. -/
  tried : ∃ rest : Trace Descriptor,
    trace = listed entries :: .said (.log (.probing (candidates entries))) :: rest ∧
      .listDevices ∉ rest.calls ∧ Probed config "" (candidates entries) rest result
  /-- The controller that is opened is the one whose bind was granted, and there is one such bind. -/
  one_bind : ∀ devId, result = .ok devId → grants trace = [devId]
  /-- No request names a controller beyond the one that is opened. -/
  not_beyond : ∀ devId, result = .ok devId → ∀ call ∈ trace.calls, ∀ named,
    DescriptorCall.controller? call = some named → named ≤ devId
  /-- After that bind nothing is asked for but to wait for stale input and to read it. -/
  bind_last : ∀ devId, result = .ok devId →
    ∃ before after : Trace Descriptor, trace = before ++ granted devId :: after ∧
      ∀ call ∈ after.calls, call = .pollReadable config.drainTimeout ∨ call = .read config.drainLength

/-- What is seen when one controller is asked for. -/
theorem selectIndex_cases (hruns : (select (.index devId) config).Runs trace result) :
    (∃ error, result = .error error ∧ Prepared devId config trace (.error error)) ∨
      result = .ok devId ∧ Prepared devId config trace (.ok ()) := by
  rcases Program.runs_andThen_iff.mp hruns with ⟨error, rfl, hfirst⟩ | ⟨shown, after, _, rfl, hfirst, hdone⟩
  · exact .inl ⟨error, rfl, prepared_of_runs hfirst⟩
  · obtain ⟨rfl, rfl⟩ := Program.runs_done_iff.mp hdone
    rw [List.append_nil]
    exact .inr ⟨rfl, prepared_of_runs hfirst⟩

/-- The list is asked for, and the attempt goes on with the entries of it. -/
theorem runs_list_andThen {α : Type} {next : List DeviceEntry → Attempt α} {result : Except HciError α}
    (hruns : (fetchList.andThen next).Runs trace result) :
    (∃ cause, trace = [unlisted cause] ∧ result = .error (.deviceList cause)) ∨
      ∃ entries rest, trace = listed entries :: rest ∧ (next entries).Runs rest result := by
  rcases Program.runs_andThen_iff.mp hruns with ⟨error, rfl, hfirst⟩ | ⟨shown, after, entries, rfl, hfirst, hnext⟩
  · obtain ⟨answer, rfl, hresult⟩ := Program.runs_ask_iff.mp hfirst
    rcases answer with cause | entries
    · cases hresult
      exact .inl ⟨cause, rfl, rfl⟩
    · cases hresult
  · obtain ⟨answer, rfl, hresult⟩ := Program.runs_ask_iff.mp hfirst
    rcases answer with cause | answered
    · cases hresult
    · cases hresult
      exact .inr ⟨entries, after, rfl, hnext⟩

/-- What is seen when any controller will do. -/
theorem selectAny_cases (hruns : (select .any config).Runs trace result) :
    (∃ cause, trace = [.asked .listDevices (.error cause : Except IoError (List DeviceEntry))] ∧
        result = .error (.deviceList cause)) ∨
      ∃ entries rest, trace = listed entries :: .said (.log (.probing (candidates entries))) :: rest ∧
        Probed config "" (candidates entries) rest result := by
  rcases runs_list_andThen hruns with hnone | ⟨entries, after, rfl, hnext⟩
  · exact .inl hnone
  · obtain ⟨rest, rfl, hrest⟩ := Program.runs_emit_iff.mp hnext
    exact .inr ⟨entries, rest, rfl, probed_of_runs hrest⟩

/-- What is seen when the list could be had. -/
theorem probed_of_listed {entries : List DeviceEntry} (hruns : (select .any config).Runs trace result)
    (hlisted : listed entries ∈ trace) :
    ∃ rest, trace = listed entries :: .said (.log (.probing (candidates entries))) :: rest ∧
      Probed config "" (candidates entries) rest result := by
  rcases selectAny_cases hruns with ⟨cause, rfl, -⟩ | ⟨given, rest, rfl, hprobed⟩
  · -- A list that could not be had is not the one that was given.
    cases List.mem_singleton.mp hlisted
  · rcases List.mem_cons.mp hlisted with hlisted | hlisted
    · cases hlisted
      exact ⟨rest, rfl, hprobed⟩
    · -- Nobody asks for the list again.
      refine absurd ?_ hprobed.not_lists
      rcases List.mem_cons.mp hlisted with hlisted | hlisted
      · cases hlisted
      · exact List.mem_filterMap.mpr ⟨_, hlisted, rfl⟩

/-- **Of the controllers that are listed the first that accepts is opened**, and nothing beyond it is
touched. -/
theorem picksFirst {entries : List DeviceEntry} (hruns : (select .any config).Runs trace result)
    (hlisted : listed entries ∈ trace) : PicksFirst config entries trace result := by
  obtain ⟨rest, rfl, hprobed⟩ := probed_of_listed hruns hlisted
  refine ⟨pairwise_candidates entries, perm_candidates entries, ⟨rest, rfl, hprobed.not_lists, hprobed⟩,
    ?_, ?_, ?_⟩
  · rintro devId rfl
    exact hprobed.grants_of_ok
  · rintro devId rfl call hmem named hnamed
    -- The list names no controller, and what follows it is said of the candidates.
    rcases List.mem_cons.mp hmem with rfl | hmem
    · cases hnamed
    · exact hprobed.le_of_controller? (pairwise_candidates entries) hmem hnamed
  · rintro devId rfl
    obtain ⟨before, after, rfl, hafter⟩ := hprobed.split_of_ok
    exact ⟨listed entries :: .said (.log (.probing (candidates entries))) :: before, after, rfl, hafter⟩

/-- A descriptor that lists three controllers in disorder, one of them twice, where the lower one is busy. -/
def busyFirst : (call : DescriptorCall) → call.Answer
  | .listDevices => (.ok [⟨3, 0⟩, ⟨1, 0⟩, ⟨5, 0⟩, ⟨1, 0⟩] : Except IoError (List DeviceEntry))
  | .bindUserChannel devId => (if devId = 1 then .error (.system 16) else .ok () : Except IoError Unit)
  | .create | .control _ _ | .release => (.ok () : Except IoError Unit)
  | .deviceInfo record => (.ok record : Except IoError Bytes)
  | .pollReadable _ => (.ok false : Except IoError Bool)
  | .read _ => (⟨[], .ok 0⟩ : Receipt IoError)
  | .write frame => (.ok frame.length : Except IoError Nat)
  | .discard => ()

/-- The lower one is tried twice, and then the next is opened. -/
theorem picksFirst_busyFirst :
    (select .any .standard).Runs ((select .any .standard).follow busyFirst).1 (.ok 3) ∧
      listed [⟨3, 0⟩, ⟨1, 0⟩, ⟨5, 0⟩, ⟨1, 0⟩] ∈ ((select .any .standard).follow busyFirst).1 ∧
      candidates [⟨3, 0⟩, ⟨1, 0⟩, ⟨5, 0⟩, ⟨1, 0⟩] = [1, 1, 3, 5] ∧
      PicksFirst .standard [⟨3, 0⟩, ⟨1, 0⟩, ⟨5, 0⟩, ⟨1, 0⟩] ((select .any .standard).follow busyFirst).1
        (.ok 3) := by
  have hcandidates : candidates [⟨3, 0⟩, ⟨1, 0⟩, ⟨5, 0⟩, ⟨1, 0⟩] = [1, 1, 3, 5] :=
    candidates_eq (by decide) (by decide)
  have hruns : (select .any .standard).Runs ((select .any .standard).follow busyFirst).1 (.ok 3) := by
    have hended : ((select .any .standard).follow busyFirst).2 = .ok 3 := by
      -- The sort does not evaluate by itself, so the candidates are put in place of it.
      have hprobe : ((select .any .standard).follow busyFirst).2 =
          ((probe (candidates [⟨3, 0⟩, ⟨1, 0⟩, ⟨5, 0⟩, ⟨1, 0⟩]) .standard).follow busyFirst).2 := rfl
      rw [hprobe, hcandidates]
      rfl
    rw [← hended]
    exact Program.runs_follow busyFirst (select .any .standard)
  have hlisted : listed [⟨3, 0⟩, ⟨1, 0⟩, ⟨5, 0⟩, ⟨1, 0⟩] ∈ ((select .any .standard).follow busyFirst).1 :=
    List.mem_cons_self
  exact ⟨hruns, hlisted, hcandidates, picksFirst hruns hlisted⟩

end Open

end HciTransport
