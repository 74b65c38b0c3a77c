import HciTransport.Proofs.Socket.Numbers
import HciTransport.RawSocket

/-!
# Requests and the system calls that serve them

A raw socket serves each request with a system call, or with none. `Served` lays the requests of a run and
the calls that were made for them side by side, and a run of a lowered program is a run of the program whose
requests were served (`runs_lower_iff`). What is known about requests is so carried over to calls: a call is
only made for a request of its own kind (`Served.mem_calls`), and reads, writes and releases come to calls
that can be named (`Served.of_read` and its neighbours).
-/

namespace HciTransport

open RawSocket

variable {α : Type} {socket socket' between : RawSocket} {asked before after : Trace Descriptor}
  {made first rest : Trace Kernel}

/-! ## What a call means to the socket -/

namespace KernelCall

/-- What the socket makes of an answer: the error of a call that has failed. -/
def verdict : (call : KernelCall) → call.Answer → Except IoError Unit
  | .socket _ _ _, status => Status.unlessNegative status ()
  | .bind _ _, status => Status.unlessNegative status ()
  | .read _ _, (status, _) => Status.unlessNegative status ()
  | .write _ _, status => Status.unlessNegative status ()
  | .control _ _ _, status => Status.unlessMinusOne status ()
  | .deviceInfo _ _ _, (status, _) => Status.unlessMinusOne status ()
  | .deviceList _ _ _, (status, _) => Status.unlessMinusOne status ()
  | .poll _ _ _ _, (status, _) => Status.unlessMinusOne status ()
  | .close _, status => Status.unlessMinusOne status ()

/-- The bytes that are written. -/
def frame? : KernelCall → Option Bytes
  | .write _ frame => some frame
  | _ => none

/-- The call is of the kind that serves the request, and carries what the request carries. -/
def Serves : KernelCall → DescriptorCall → Prop
  | .socket _ _ _, .create => True
  | .control _ code arg, .control asked devId => code = asked ∧ arg = devId.toUInt64
  | .deviceInfo _ _ record, .deviceInfo asked => record = asked.take Layout.size
  | .deviceList _ _ _, .listDevices => True
  | .bind _ bytes, .bindUserChannel devId => bytes = address devId
  | .poll _ _ _ millis, .pollReadable timeout => millis = timeout.pollMillis
  | .read _ length, .read asked => length = asked
  | .write _ frame, .write asked => frame = asked
  | .close _, .release => True
  | .close _, .discard => True
  | _, _ => False

end KernelCall

/-- The call was made and has failed. -/
def Sign.Failed : Sign Kernel → Prop
  | .said _ => False
  | .asked call answer => ∃ cause, call.verdict answer = .error cause

/-- A call of this kind fails with any negative number. -/
theorem Status.unlessNegative_eq_error_iff {status : Status} {value : α} :
    (∃ cause, status.unlessNegative value = .error cause) ↔ status.ret < 0 := by
  rw [Status.unlessNegative]
  split <;> simp [*]

/-- A call of this kind fails with minus one only. -/
theorem Status.unlessMinusOne_eq_error_iff {status : Status} {value : α} :
    (∃ cause, status.unlessMinusOne value = .error cause) ↔ status.ret = -1 := by
  rw [Status.unlessMinusOne]
  split <;> simp [*]

theorem failed_read {fd : Int} {length : Nat} {status : Status} {stored : Bytes} :
    Sign.Failed (.asked (.read fd length) (status, stored)) ↔ status.ret < 0 := Status.unlessNegative_eq_error_iff

theorem failed_write {fd : Int} {frame : Bytes} {status : Status} :
    Sign.Failed (.asked (.write fd frame) status) ↔ status.ret < 0 := Status.unlessNegative_eq_error_iff

theorem failed_close {fd : Int} {status : Status} :
    Sign.Failed (.asked (.close fd) status) ↔ status.ret = -1 := Status.unlessMinusOne_eq_error_iff

/-! ## Side by side -/

/-- The calls `made` have served the requests `asked`; the socket was `socket` before them and is `socket'`
after them. -/
inductive Served : RawSocket → Trace Descriptor → Trace Kernel → RawSocket → Prop where
  | nil (socket : RawSocket) : Served socket [] [] socket
  | said {socket socket' : RawSocket} {asked : Trace Descriptor} {made : Trace Kernel} (event : Event)
      (hrest : Served socket asked made socket') : Served socket (.said event :: asked) (.said event :: made) socket'
  | asked {socket between socket' : RawSocket} {asked : Trace Descriptor} {first made : Trace Kernel}
      {call : DescriptorCall} {answer : call.Answer}
      (hanswer : (socket.answer call).Runs first (between, answer))
      (hrest : Served between asked made socket') :
      Served socket (.asked call answer :: asked) (first ++ made) socket'

/-- **A run of a lowered program is a run of the program whose requests were served.** -/
theorem runs_lower_iff {p : Program Descriptor α} {value : α} :
    (lower p socket).Runs made (socket', value) ↔ ∃ asked, p.Runs asked value ∧ Served socket asked made socket' := by
  -- On the program. The socket that a request leaves is the one that the next request finds.
  induction p generalizing socket made with
  | done ended =>
    constructor
    · intro hruns
      obtain ⟨rfl, hended⟩ := Program.runs_done_iff.mp hruns
      cases hended
      exact ⟨[], .done _, .nil _⟩
    · rintro ⟨asked, hruns, hserved⟩
      obtain ⟨rfl, rfl⟩ := Program.runs_done_iff.mp hruns
      cases hserved with
      | nil => exact .done _
  | emit event rest ih =>
    constructor
    · intro hruns
      obtain ⟨tail, rfl, htail⟩ := Program.runs_emit_iff.mp hruns
      obtain ⟨asked, hasked, hserved⟩ := ih.mp htail
      exact ⟨_, .emit hasked, .said event hserved⟩
    · rintro ⟨asked, hruns, hserved⟩
      obtain ⟨tail, rfl, htail⟩ := Program.runs_emit_iff.mp hruns
      cases hserved with
      | said _ hrest => exact .emit (ih.mpr ⟨tail, htail, hrest⟩)
  | call request next ih =>
    constructor
    · intro hruns
      obtain ⟨first, tail, ⟨between, answer⟩, rfl, hanswer, htail⟩ := Program.runs_bind_iff.mp hruns
      obtain ⟨asked, hasked, hserved⟩ := (ih answer).mp htail
      exact ⟨_, .call answer hasked, .asked hanswer hserved⟩
    · rintro ⟨asked, hruns, hserved⟩
      obtain ⟨answer, tail, rfl, htail⟩ := Program.runs_call_iff.mp hruns
      cases hserved with
      | asked hanswer hrest =>
        exact Program.runs_bind_iff.mpr ⟨_, _, _, rfl, hanswer, (ih answer).mpr ⟨tail, htail, hrest⟩⟩

/-- What was asked for in two parts was served in two parts. -/
theorem Served.split (hserved : Served socket (before ++ after) made socket') :
    ∃ first rest between, made = first ++ rest ∧ Served socket before first between ∧
      Served between after rest socket' := by
  -- On the first part; the calls for it are all made before those for the second.
  induction before generalizing socket made with
  | nil => exact ⟨[], made, socket, rfl, .nil socket, hserved⟩
  | cons sign before ih =>
    cases hserved with
    | said event hrest =>
      obtain ⟨first, rest, between, rfl, hbefore, hafter⟩ := ih hrest
      exact ⟨_, rest, between, rfl, .said event hbefore, hafter⟩
    | asked hanswer hrest =>
      obtain ⟨first, rest, between, rfl, hbefore, hafter⟩ := ih hrest
      exact ⟨_, rest, between, (List.append_assoc ..).symm, .asked hanswer hbefore, hafter⟩

/-- A request that was put was answered, and the calls that were made for it are among all that were made. -/
theorem Served.answer_of_mem {request : DescriptorCall} {got : request.Answer}
    (hserved : Served socket asked made socket') (hmem : .asked request got ∈ asked) :
    ∃ (before between : RawSocket) (own : Trace Kernel), (before.answer request).Runs own (between, got) ∧
      ∀ sign ∈ own, sign ∈ made := by
  obtain ⟨earlier, later, rfl⟩ := List.append_of_mem hmem
  obtain ⟨first, rest, before, rfl, -, hrest⟩ := hserved.split
  cases hrest with
  | asked hanswer hlater =>
    refine ⟨before, _, _, hanswer, ?_⟩
    intro sign hsign
    exact List.mem_append_right _ (List.mem_append_left _ hsign)

/-! ## Calls by the kind of the request -/

/-- To give a socket back takes no other call than the close of its number. -/
theorem giveBack_calls {outcome : Except IoError Unit} (hruns : socket.giveBack.Runs made (socket', outcome))
    {call : KernelCall} (hmem : call ∈ made.calls) : call = .close socket.fd := by
  rw [giveBack] at hruns
  split at hruns
  · obtain ⟨rfl, -⟩ := Program.runs_done_iff.mp hruns
    cases hmem
  · obtain ⟨status, rfl, -⟩ := Program.runs_ask_iff.mp hruns
    exact List.mem_singleton.mp hmem

/-- What a single call and an end make is that call. -/
theorem mem_calls_once {request : KernelCall} {next : request.Answer → Program Kernel α} {value : α}
    (hnext : ∀ answer, ∃ ended, next answer = .done ended) (hruns : (Program.call request next).Runs made value)
    {call : KernelCall} (hmem : call ∈ made.calls) : call = request := by
  obtain ⟨answer, _, rfl, hdone⟩ := Program.runs_call_iff.mp hruns
  obtain ⟨ended, hended⟩ := hnext answer
  rw [hended] at hdone
  obtain ⟨rfl, -⟩ := Program.runs_done_iff.mp hdone
  exact List.mem_singleton.mp hmem

/-- A request takes no other calls than such as serve it. -/
theorem serves_of_answer {request : DescriptorCall} {got : request.Answer}
    (hruns : (socket.answer request).Runs made (socket', got)) {call : KernelCall} (hmem : call ∈ made.calls) :
    call.Serves request := by
  -- Most requests are one call and an end. A socket that is made has two ends, a short record takes no call, and to
  -- give back may take none.
  cases request with
  | create =>
    refine (mem_calls_once ?_ hruns hmem) ▸ trivial
    intro status
    cases hmade : status.unlessNegative () with
    | ok _ => exact ⟨_, rfl⟩
    | error cause => exact ⟨_, rfl⟩
  | control code devId => exact (mem_calls_once (fun _ => ⟨_, rfl⟩) hruns hmem) ▸ ⟨rfl, rfl⟩
  | deviceInfo record =>
    rw [answer] at hruns
    split at hruns
    · obtain ⟨rfl, -⟩ := Program.runs_done_iff.mp hruns
      cases hmem
    · exact (mem_calls_once (fun _ => ⟨_, rfl⟩) hruns hmem) ▸ rfl
  | listDevices => exact (mem_calls_once (fun _ => ⟨_, rfl⟩) hruns hmem) ▸ trivial
  | bindUserChannel | pollReadable | read | write =>
    exact (mem_calls_once (fun _ => ⟨_, rfl⟩) hruns hmem) ▸ rfl
  | release => exact giveBack_calls hruns hmem ▸ trivial
  | discard =>
    obtain ⟨first, last, ⟨given, outcome⟩, rfl, hgiven, hdone⟩ := Program.runs_bind_iff.mp hruns
    obtain ⟨rfl, -⟩ := Program.runs_done_iff.mp hdone
    rw [List.append_nil] at hmem
    exact giveBack_calls hgiven hmem ▸ trivial

/-- **Every call was made for a request that it serves.** -/
theorem Served.mem_calls (hserved : Served socket asked made socket') {call : KernelCall}
    (hmem : call ∈ made.calls) : ∃ request ∈ asked.calls, call.Serves request := by
  induction hserved with
  | nil => cases hmem
  | said event hrest ih => exact ih hmem
  | @asked socket between socket' asked first made request answer hanswer hrest ih =>
    -- It was made for the first of the requests, or for a later one.
    rw [Trace.calls_append] at hmem
    rcases List.mem_append.mp hmem with hmem | hmem
    · exact ⟨request, List.mem_cons_self, serves_of_answer hanswer hmem⟩
    · obtain ⟨other, hother, hserves⟩ := ih hmem
      exact ⟨other, List.mem_cons_of_mem _ hother, hserves⟩

/-- Where nothing is asked for no call is made. -/
theorem Served.calls_eq_nil (hserved : Served socket asked made socket') (hnone : asked.calls = []) :
    made.calls = [] := by
  refine List.eq_nil_iff_forall_not_mem.mpr fun call hmem => ?_
  obtain ⟨request, hrequest, -⟩ := hserved.mem_calls hmem
  rw [hnone] at hrequest
  cases hrequest

/-! ## Calls that can be named -/

/-- What is said needs no call. -/
theorem Served.of_said {event : Event} (hserved : Served socket (.said event :: asked) made socket') :
    ∃ rest, made = .said event :: rest ∧ Served socket asked rest socket' := by
  cases hserved with
  | said _ hrest => exact ⟨_, rfl, hrest⟩

theorem Served.of_log {entries : List LogEntry} (hserved : Served socket (Trace.ofLog entries ++ asked) made socket') :
    ∃ rest, made = Trace.ofLog entries ++ rest ∧ Served socket asked rest socket' := by
  induction entries generalizing made with
  | nil => exact ⟨made, rfl, hserved⟩
  | cons entry entries ih =>
    obtain ⟨tail, rfl, htail⟩ := Served.of_said hserved
    obtain ⟨rest, rfl, hrest⟩ := ih htail
    exact ⟨rest, rfl, hrest⟩

/-- A request that takes one call and leaves the socket as it is. -/
theorem Served.of_once {request : DescriptorCall} {call : KernelCall} {next : call.Answer → request.Answer}
    {got : request.Answer} (hcall : socket.answer request = .call call fun answer => .done (socket, next answer))
    (hserved : Served socket (.asked request got :: asked) made socket') :
    ∃ answer rest, made = .asked call answer :: rest ∧ got = next answer ∧ Served socket asked rest socket' := by
  cases hserved with
  | asked hanswer hrest =>
    rw [hcall] at hanswer
    obtain ⟨answer, rfl, hended⟩ := Program.runs_ask_iff.mp hanswer
    cases hended
    exact ⟨answer, _, rfl, rfl, hrest⟩

/-- A control operation passes the index of the controller as its argument. -/
theorem Served.of_control {code : ControlCode} {devId : UInt16} {answer : Except IoError Unit}
    (hserved : Served socket (.asked (.control code devId) answer :: asked) made socket') :
    ∃ (status : Status) (rest : Trace Kernel),
      made = .asked (.control socket.fd code devId.toUInt64) status :: rest ∧ answer = status.unlessMinusOne () ∧
        Served socket asked rest socket' := by
  obtain ⟨status, rest, rfl, rfl, hrest⟩ := hserved.of_once rfl
  exact ⟨status, rest, rfl, rfl, hrest⟩

theorem Served.of_bind {devId : UInt16} {answer : Except IoError Unit}
    (hserved : Served socket (.asked (.bindUserChannel devId) answer :: asked) made socket') :
    ∃ (status : Status) (rest : Trace Kernel), made = .asked (.bind socket.fd (address devId)) status :: rest ∧
      answer = status.unlessNegative () ∧ Served socket asked rest socket' := by
  obtain ⟨status, rest, rfl, rfl, hrest⟩ := hserved.of_once rfl
  exact ⟨status, rest, rfl, rfl, hrest⟩

theorem Served.of_poll {timeout : Duration} {answer : Except IoError Bool}
    (hserved : Served socket (.asked (.pollReadable timeout) answer :: asked) made socket') :
    ∃ (status : Status) (events : Int) (rest : Trace Kernel),
      made = .asked (.poll socket.fd pollIn 1 timeout.pollMillis) (status, events) :: rest ∧
        answer = readable status events ∧ Served socket asked rest socket' := by
  obtain ⟨⟨status, events⟩, rest, rfl, rfl, hrest⟩ := hserved.of_once rfl
  exact ⟨status, events, rest, rfl, rfl, hrest⟩

/-- A read stores what the kernel has stored, also when it fails. -/
theorem Served.of_read {length : Nat} {receipt : Receipt IoError}
    (hserved : Served socket (.asked (.read length) receipt :: asked) made socket') :
    ∃ (status : Status) (stored : Bytes) (rest : Trace Kernel),
      made = .asked (.read socket.fd length) (status, stored) :: rest ∧
        receipt = ⟨stored, status.unlessNegative status.ret.toNat⟩ ∧ Served socket asked rest socket' := by
  obtain ⟨⟨status, stored⟩, rest, rfl, rfl, hrest⟩ := hserved.of_once rfl
  exact ⟨status, stored, rest, rfl, rfl, hrest⟩

theorem Served.of_write {frame : Bytes} {answer : Except IoError Nat}
    (hserved : Served socket (.asked (.write frame) answer :: asked) made socket') :
    ∃ (status : Status) (rest : Trace Kernel), made = .asked (.write socket.fd frame) status :: rest ∧
      answer = status.unlessNegative status.ret.toNat ∧ Served socket asked rest socket' := by
  obtain ⟨status, rest, rfl, rfl, hrest⟩ := hserved.of_once rfl
  exact ⟨status, rest, rfl, rfl, hrest⟩

/-- The first release closes. -/
theorem Served.of_release {answer : Except IoError Unit} (hlive : socket.released = false)
    (hserved : Served socket (.asked .release answer :: asked) made socket') :
    ∃ (status : Status) (rest : Trace Kernel), made = .asked (.close socket.fd) status :: rest ∧
      answer = status.unlessMinusOne () ∧ Served ⟨socket.fd, true⟩ asked rest socket' := by
  cases hserved with
  | asked hanswer hrest =>
    have hcloses : (socket.answer .release) = .call (.close socket.fd) fun status =>
        .done (⟨socket.fd, true⟩, Status.unlessMinusOne status ()) := by
      have hkept : ¬ socket.released = true := by simp [hlive]
      exact if_neg hkept
    rw [hcloses] at hanswer
    obtain ⟨status, rfl, hended⟩ := Program.runs_ask_iff.mp hanswer
    cases hended
    exact ⟨status, _, rfl, rfl, hrest⟩

/-- To forget a socket that was given back takes no call. -/
theorem Served.of_discard {answer : DescriptorCall.discard.Answer} (hgiven : socket.released = true)
    (hserved : Served socket (.asked .discard answer :: asked) made socket') : Served socket asked made socket' := by
  cases hserved with
  | asked hanswer hrest =>
    have hnone : (socket.answer .discard) = .done (socket, ()) := by
      show socket.giveBack.bind _ = _
      rw [giveBack, if_pos hgiven]
      rfl
    rw [hnone] at hanswer
    obtain ⟨rfl, hended⟩ := Program.runs_done_iff.mp hanswer
    cases hended
    exact hrest

end HciTransport
