import HciTransport.Proofs.Control.Protocol
import HciTransport.Proofs.Socket.Lowering

/-!
# Calls that were granted

Whether the kernel has granted a call is read off the number that it returned. A request whose call was not granted
fails, and a request that fails has a call to show for it, but for two of them: a record that is too short is refused
without a call, and nobody hears how the call went that gives a forgotten socket back. Where neither is asked for, no
request has failed exactly if no call has (`Served.flawless_iff`).

What the kernel stores where it grants a call is what the requests are answered with: the lists that it has reported
(`Served.reports_eq`), and the records that it has filled in (`Served.replies_eq`).
-/

namespace HciTransport

open RawSocket

variable {socket socket' : RawSocket} {asked : Trace Descriptor} {made before after : Trace Kernel}
  {request : DescriptorCall} {got : request.Answer} {sign : Sign Kernel}

namespace Sign

/-- The call has passed: the number that it returned is not negative, or not minus one, as the call has it. -/
def Granted : Sign Kernel → Prop
  | .said _ => True
  | .asked (.socket _ _ _) status | .asked (.bind _ _) status | .asked (.write _ _) status => 0 ≤ Status.ret status
  | .asked (.read _ _) (status, _) => 0 ≤ Status.ret status
  | .asked (.control _ _ _) status | .asked (.close _) status => Status.ret status ≠ -1
  | .asked (.deviceInfo _ _ _) (status, _) | .asked (.deviceList _ _ _) (status, _) |
    .asked (.poll _ _ _ _) (status, _) => Status.ret status ≠ -1

/-- A list that was reported. -/
def report? : Sign Kernel → Option DeviceListRequest
  | .asked (.deviceList _ _ _) (status, report) => if Status.ret status = -1 then none else some report
  | .asked _ _ | .said _ => none

/-- A record that was filled in, behind the record that was handed over for it. -/
def reply? : Sign Kernel → Option (Bytes × Bytes)
  | .asked (.deviceInfo _ _ record) (status, filled) => if Status.ret status = -1 then none else some (record, filled)
  | .asked _ _ | .said _ => none

/-- A record that a request was answered with, behind the record that came with the request. -/
def answered? : Sign Descriptor → Option (Bytes × Bytes)
  | .asked (.deviceInfo record) (.ok filled) => some (record, filled)
  | _ => none

end Sign

/-- All calls have passed. -/
def Flawless (made : Trace Kernel) : Prop := ∀ sign ∈ made, sign.Granted

/-- The lists that were reported, in order. -/
def reports (made : Trace Kernel) : List DeviceListRequest := made.filterMap Sign.report?

/-- The records that were filled in, in order, each behind the record that was handed over. -/
def replies (made : Trace Kernel) : List (Bytes × Bytes) := made.filterMap Sign.reply?

theorem flawless_nil : Flawless [] := List.forall_mem_nil _

theorem flawless_cons_iff : Flawless (sign :: made) ↔ sign.Granted ∧ Flawless made := List.forall_mem_cons

theorem flawless_append_iff : Flawless (before ++ after) ↔ Flawless before ∧ Flawless after := List.forall_mem_append

theorem flawless_singleton_iff : Flawless [sign] ↔ sign.Granted := List.forall_mem_singleton

theorem reports_append : reports (before ++ after) = reports before ++ reports after := List.filterMap_append

theorem replies_append : replies (before ++ after) = replies before ++ replies after := List.filterMap_append

/-! ## The calls of a request -/

/-- The request has a call, and the answer shows how it went. -/
def DescriptorCall.Shows : DescriptorCall → Prop
  | .deviceInfo record => Layout.size ≤ record.length
  | .discard => False
  | _ => True

section Verdict

variable {α : Type} {status : Status} {value : α} {failure : Except IoError α → Option IoError}

/-- A call that goes by the sign passes where its request does, whatever the request makes of the value. -/
theorem nonneg_iff_passed (herror : ∀ cause, failure (.error cause) = some cause)
    (hok : failure (.ok value) = none) : 0 ≤ status.ret ↔ failure (status.unlessNegative value) = none := by
  rw [Status.unlessNegative]
  split
  · next hneg => exact iff_of_false (Int.not_le.mpr hneg) (herror _ ▸ Option.some_ne_none _)
  · next hnonneg => exact iff_of_true (Int.not_lt.mp hnonneg) hok

theorem ne_minusOne_iff_passed (herror : ∀ cause, failure (.error cause) = some cause)
    (hok : failure (.ok value) = none) : status.ret ≠ -1 ↔ failure (status.unlessMinusOne value) = none := by
  rw [Status.unlessMinusOne]
  split
  · next hminus => exact iff_of_false (fun hne => hne hminus) (herror _ ▸ Option.some_ne_none _)
  · next hother => exact iff_of_true hother hok

end Verdict

/-- The call for a socket. -/
def socketCall : KernelCall := .socket bluetoothFamily rawSocketType hciProtocol

/-- A socket is made unless the number is negative. -/
theorem runs_create {answer : Except IoError Unit} (hruns : (socket.answer .create).Runs made (socket', answer)) :
    ∃ status : Status, made = [.asked socketCall status] ∧
      (status.ret < 0 ∧ answer = .error (.system status.errno) ∧ socket' = absent ∨
        0 ≤ status.ret ∧ answer = .ok () ∧ socket' = ⟨status.ret, false⟩) := by
  obtain ⟨status, rest, rfl, hmade⟩ := Program.runs_call_iff.mp hruns
  -- The same test decides on the answer and on the socket that is kept.
  by_cases hret : status.ret < 0
  · have hfailed : Status.unlessNegative status () = .error (.system (Status.errno status)) := if_pos hret
    rw [hfailed] at hmade
    obtain ⟨rfl, hended⟩ := Program.runs_done_iff.mp hmade
    cases hended
    exact ⟨status, rfl, .inl ⟨hret, rfl, rfl⟩⟩
  · have hpassed : Status.unlessNegative status () = .ok () := if_neg hret
    rw [hpassed] at hmade
    obtain ⟨rfl, hended⟩ := Program.runs_done_iff.mp hmade
    cases hended
    exact ⟨status, rfl, .inr ⟨Int.not_lt.mp hret, rfl, rfl⟩⟩

/-- What was given back before is not given back again, and nothing can fail then. -/
theorem flawless_giveBack_iff {outcome : Except IoError Unit} (hruns : socket.giveBack.Runs made (socket', outcome)) :
    Flawless made ↔ DescriptorCall.release.failure? outcome = none := by
  rw [giveBack] at hruns
  split at hruns
  · obtain ⟨rfl, hended⟩ := Program.runs_done_iff.mp hruns
    cases hended
    exact iff_of_true flawless_nil rfl
  · obtain ⟨status, rfl, hended⟩ := Program.runs_ask_iff.mp hruns
    cases hended
    exact flawless_singleton_iff.trans (ne_minusOne_iff_passed (fun _ => rfl) rfl)

/-- The call of a request passes exactly if the request does. -/
theorem flawless_answer_iff (hshows : request.Shows) (hruns : (socket.answer request).Runs made (socket', got)) :
    Flawless made ↔ request.failure? got = none := by
  -- Most requests are one call, and differ in which test their call goes by.
  cases request with
  | create =>
    obtain ⟨status, rfl, ⟨hret, rfl, -⟩ | ⟨hret, rfl, -⟩⟩ := runs_create hruns
    · exact flawless_singleton_iff.trans (iff_of_false (Int.not_le.mpr hret) nofun)
    · exact flawless_singleton_iff.trans (iff_of_true hret rfl)
  | bindUserChannel | write =>
    obtain ⟨status, rfl, hended⟩ := Program.runs_ask_iff.mp hruns
    cases hended
    exact flawless_singleton_iff.trans (nonneg_iff_passed (fun _ => rfl) rfl)
  | read length =>
    obtain ⟨⟨status, stored⟩, rfl, hended⟩ := Program.runs_ask_iff.mp hruns
    cases hended
    exact flawless_singleton_iff.trans
      (@nonneg_iff_passed _ status _ (fun outcome => (DescriptorCall.read length).failure? ⟨stored, outcome⟩)
        (fun _ => rfl) rfl)
  | control =>
    obtain ⟨status, rfl, hended⟩ := Program.runs_ask_iff.mp hruns
    cases hended
    exact flawless_singleton_iff.trans (ne_minusOne_iff_passed (fun _ => rfl) rfl)
  | listDevices | pollReadable =>
    obtain ⟨⟨status, stored⟩, rfl, hended⟩ := Program.runs_ask_iff.mp hruns
    cases hended
    exact flawless_singleton_iff.trans (ne_minusOne_iff_passed (fun _ => rfl) rfl)
  | deviceInfo record =>
    rw [answer, if_neg (Nat.not_lt.mpr hshows)] at hruns
    obtain ⟨⟨status, filled⟩, rfl, hended⟩ := Program.runs_ask_iff.mp hruns
    cases hended
    exact flawless_singleton_iff.trans (ne_minusOne_iff_passed (fun _ => rfl) rfl)
  -- A socket that was given back has no call, and its request passes; the others always have one.
  | release => exact flawless_giveBack_iff hruns
  | discard => exact hshows.elim

/-- No request has failed if the first has not, and no other has. -/
theorem failed_cons_eq_nil_iff {sign : Sign Descriptor} :
    failed (sign :: asked) = [] ↔ sign.failure? = none ∧ failed asked = [] := by
  rw [failed, List.filter_eq_nil_iff, List.forall_mem_cons, Option.not_isSome_iff_eq_none, ← List.filter_eq_nil_iff]
  rfl

/-- **No call has failed exactly if no request has.** -/
theorem Served.flawless_iff (hserved : Served socket asked made socket') (hshows : ∀ call ∈ asked.calls, call.Shows) :
    Flawless made ↔ failed asked = [] := by
  induction hserved with
  | nil => exact iff_of_true flawless_nil rfl
  | said event hrest ih =>
    rw [flawless_cons_iff, failed_said, ← ih hshows]
    exact and_iff_right trivial
  | asked hanswer hrest ih =>
    -- The calls of the first request stand in front of the others, as the request does.
    rw [flawless_append_iff, failed_cons_eq_nil_iff, ← ih fun call hmem => hshows call (List.mem_cons_of_mem _ hmem),
      flawless_answer_iff (hshows _ List.mem_cons_self) hanswer]
    rfl

/-! ## What the kernel has stored -/

/-- A list is reported to nobody who asks for none. -/
theorem reports_eq_nil (hnone : ∀ fd code offer, .deviceList fd code offer ∉ made.calls) : reports made = [] := by
  refine List.filterMap_eq_nil_iff.mpr fun sign hmem => ?_
  cases sign with
  | said => rfl
  | asked call answer =>
    cases call with
    | deviceList fd code offer =>
      refine absurd ?_ (hnone fd code offer)
      exact List.mem_filterMap.mpr ⟨_, hmem, rfl⟩
    | _ => rfl

theorem replies_eq_nil (hnone : ∀ fd code record, .deviceInfo fd code record ∉ made.calls) : replies made = [] := by
  refine List.filterMap_eq_nil_iff.mpr fun sign hmem => ?_
  cases sign with
  | said => rfl
  | asked call answer =>
    cases call with
    | deviceInfo fd code record =>
      refine absurd ?_ (hnone fd code record)
      exact List.mem_filterMap.mpr ⟨_, hmem, rfl⟩
    | _ => rfl

/-- A list is reported to who asks for one. -/
theorem reports_answer (hruns : (socket.answer request).Runs made (socket', got)) :
    (reports made).map (·.entries) = (Sign.entries? (.asked request got)).toList := by
  cases request with
  | listDevices =>
    obtain ⟨⟨status, report⟩, rfl, hended⟩ := Program.runs_ask_iff.mp hruns
    cases hended
    dsimp only
    rw [Status.unlessMinusOne]
    split
    · next hfailed =>
      have hnone : Sign.report? (.asked (.deviceList socket.fd .deviceList .offer) (status, report)) = none :=
        if_pos hfailed
      exact congrArg (List.map _) (List.filterMap_cons_none hnone)
    · next hpassed =>
      have hsome : Sign.report? (.asked (.deviceList socket.fd .deviceList .offer) (status, report)) = some report :=
        if_neg hpassed
      exact congrArg (List.map _) (List.filterMap_cons_some hsome)
  -- No other request has a call that stores a list.
  | _ =>
    rw [reports_eq_nil fun _ _ _ hmem => serves_of_answer hruns hmem]
    rfl

/-- A record is filled in for who asks for one. -/
theorem replies_answer (hsize : ∀ record, request = .deviceInfo record → record.length = Layout.size)
    (hruns : (socket.answer request).Runs made (socket', got)) :
    replies made = (Sign.answered? (.asked request got)).toList := by
  cases request with
  | deviceInfo record =>
    -- A longer record would be handed over in part, and then the reply is not the answer.
    have hlength := hsize record rfl
    rw [answer, if_neg (Nat.not_lt.mpr hlength.ge), ← hlength, List.take_length, List.drop_length] at hruns
    obtain ⟨⟨status, filled⟩, rfl, hended⟩ := Program.runs_ask_iff.mp hruns
    cases hended
    dsimp only
    rw [Status.unlessMinusOne, List.append_nil]
    split
    · next hfailed => exact List.filterMap_cons_none (if_pos hfailed)
    · next hpassed => exact List.filterMap_cons_some (if_neg hpassed)
  | _ =>
    rw [replies_eq_nil fun _ _ _ hmem => serves_of_answer hruns hmem]
    rfl

/-- **The lists that were reported are those that the requests were answered with.** -/
theorem Served.reports_eq (hserved : Served socket asked made socket') :
    (reports made).map (·.entries) = asked.filterMap Sign.entries? := by
  induction hserved with
  | nil => rfl
  | said event hrest ih => exact ih
  | asked hanswer hrest ih =>
    -- A request has one answer at most, so the two filters go along request by request.
    rw [reports_append, List.map_append, reports_answer hanswer, ih, List.filterMap_eq_flatMap_toList,
      List.filterMap_eq_flatMap_toList, List.flatMap_cons]

/-- **The records that were filled in are those that the requests were answered with**, if each request brings a
record of the size of one. -/
theorem Served.replies_eq (hserved : Served socket asked made socket')
    (hsize : ∀ record, .deviceInfo record ∈ asked.calls → record.length = Layout.size) :
    replies made = asked.filterMap Sign.answered? := by
  induction hserved with
  | nil => rfl
  | said event hrest ih => exact ih hsize
  | asked hanswer hrest ih =>
    rw [replies_append, replies_answer (fun record hrequest => hsize record (hrequest ▸ List.mem_cons_self)) hanswer,
      ih fun record hmem => hsize record (List.mem_cons_of_mem _ hmem), List.filterMap_eq_flatMap_toList,
      List.filterMap_eq_flatMap_toList, List.flatMap_cons]

end HciTransport
