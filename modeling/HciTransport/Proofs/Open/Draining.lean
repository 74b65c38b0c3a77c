import HciTransport.Proofs.Open.Opening

/-!
# Input that waits after the bind

A read waits for input that is not there, so it would keep whoever opens a channel from ever getting it. The open
sequence asks the kernel first, in one call that comes back after a while, and reads only if that call says that
there is input: it has not failed, it was not in vain, and it was not woken up by something else (`InputWaits`).

What comes after a bind that was granted is that one call and at most one read, whatever the kernel answers, and the
controller is open all the same (`drainsOnce`).
-/

namespace HciTransport

open RawSocket

/-! ## When there is input -/

/-- The call to wait for input says that there is some. The events are bits of a word, and one bit is for input. -/
def InputWaits (status : Status) (events : Int) : Prop :=
  status.ret ≠ -1 ∧ status.ret ≠ 0 ∧ BitVec.ofInt 16 events &&& BitVec.ofInt 16 pollIn ≠ 0

instance (status : Status) (events : Int) : Decidable (InputWaits status events) :=
  inferInstanceAs (Decidable (_ ∧ _ ∧ _))

/-- The bit for input is the last one. -/
theorem and_pollIn_ne_zero_iff (events : Int) :
    BitVec.ofInt 16 events &&& BitVec.ofInt 16 pollIn ≠ 0 ↔ events % 2 = 1 := by
  -- The mask has one bit, so what is left of the word is its remainder.
  have hbit : (BitVec.ofInt 16 pollIn).toNat = 1 := by decide
  have hzero : (0 : BitVec 16).toNat = 0 := rfl
  rw [← BitVec.toNat_ne_iff_ne, BitVec.toNat_and, hbit, hzero, Nat.and_one_is_mod, BitVec.toNat_ofInt]
  omega

variable {status : Status} {events : Int} {config : OpenConfig} {devId : UInt16} {socket socket' : RawSocket}
  {asked : Trace Descriptor} {made before after : Trace Kernel}

/-- The descriptor says that there is something to read in these cases only. -/
theorem readable_eq_true_iff : readable status events = .ok true ↔ InputWaits status events := by
  rw [InputWaits, and_pollIn_ne_zero_iff, readable, Status.unlessMinusOne]
  split
  · next hfailed => simp [hfailed]
  · next hpassed => simp [hpassed]

namespace Open

/-! ## After the bind -/

/-- What is called after a bind that was granted: the kernel is asked for input once, and what it has is read once. -/
def DrainCalls (config : OpenConfig) (fd : Int) (after : Trace Kernel) : Prop :=
  ∃ (status : Status) (events : Int),
    .asked (.poll fd pollIn 1 config.drainTimeout.pollMillis) (status, events) ∈ after ∧
      after.calls = .poll fd pollIn 1 config.drainTimeout.pollMillis ::
        if InputWaits status events then [.read fd config.drainLength] else []

/-- Nothing is read unless the answer is that there is input. -/
theorem drainCalls_of_unread {answer : Except IoError Bool}
    (hserved : Served socket (.asked (.pollReadable config.drainTimeout) answer :: asked) made socket')
    (hanswer : answer ≠ .ok true) (hnone : asked.calls = []) : DrainCalls config socket.fd made := by
  obtain ⟨status, events, rest, rfl, rfl, hrest⟩ := hserved.of_poll
  refine ⟨status, events, List.mem_cons_self, ?_⟩
  rw [if_neg (mt readable_eq_true_iff.mpr hanswer)]
  exact congrArg (_ :: ·) (hrest.calls_eq_nil hnone)

/-- If the answer is that there is input, it is read once. -/
theorem drainCalls_of_read {receipt : Receipt IoError}
    (hserved : Served socket (.asked (.pollReadable config.drainTimeout) (.ok true : Except IoError Bool) ::
      .asked (.read config.drainLength) receipt :: asked) made socket')
    (hnone : asked.calls = []) : DrainCalls config socket.fd made := by
  obtain ⟨status, events, _, rfl, hanswer, hlater⟩ := hserved.of_poll
  obtain ⟨_, _, rest, rfl, -, hrest⟩ := hlater.of_read
  refine ⟨status, events, List.mem_cons_self, ?_⟩
  rw [if_pos (readable_eq_true_iff.mp hanswer.symm)]
  exact congrArg (_ :: _ :: ·) (hrest.calls_eq_nil hnone)

theorem DrainCalls.said {fd : Int} (hdrains : DrainCalls config fd after) (event : Event) :
    DrainCalls config fd (.said event :: after) := by
  obtain ⟨status, events, hmem, hcalls⟩ := hdrains
  exact ⟨status, events, List.mem_cons_of_mem _ hmem, hcalls⟩

/-- Whatever the draining sees, its calls are these. -/
theorem drainCalls_of_served {drained : Trace Descriptor} (hdrained : Drained devId config drained)
    (hserved : Served socket (.said (.log (.bound devId)) :: drained) made socket') :
    DrainCalls config socket.fd made := by
  obtain ⟨rest, rfl, hrest⟩ := hserved.of_said
  refine DrainCalls.said ?_ _
  cases hdrained with
  | waitFailed | nothing => exact drainCalls_of_unread hrest nofun rfl
  | stale | readFailed => exact drainCalls_of_read hrest rfl

/-! ## One attempt -/

end Open

/-- The call gets a controller ready. -/
def KernelCall.prepares : KernelCall → Bool
  | .control _ _ _ | .bind _ _ => true
  | .socket _ _ _ | .deviceInfo _ _ _ | .deviceList _ _ _ | .poll _ _ _ _ | .read _ _ | .write _ _ | .close _ => false

namespace Open

/-- No call that gets a controller ready has failed. -/
def Unhindered (made : Trace Kernel) : Prop :=
  ∀ (call : KernelCall) (answer : call.Answer), .asked call answer ∈ made → call.prepares = true →
    ¬ Sign.Failed (.asked call answer)

/-- A control operation that has to pass has passed, with one call. -/
theorem Unhindered.of_issued {op : ControlOp} {answer : Except IoError Unit} (hfree : Unhindered made)
    (hserved : Served socket (issued op devId answer ++ asked) made socket') :
    answer = .ok () ∧ ∃ (status : Status) (rest : Trace Kernel),
      made = .said (.log (.control devId op)) :: .asked (.control socket.fd op.code devId.toUInt64) status :: rest ∧
        Unhindered rest ∧ Served socket asked rest socket' := by
  obtain ⟨_, rfl, hissued⟩ := hserved.of_said
  obtain ⟨status, rest, rfl, rfl, hrest⟩ := hissued.of_control
  -- The call of the operation is one that may not fail.
  have hpassed := hfree (.control socket.fd op.code devId.toUInt64) status
    (List.mem_cons_of_mem _ List.mem_cons_self) rfl
  refine ⟨?_, status, rest, rfl, fun call answer hmem => ?_, hrest⟩
  · cases hanswer : Status.unlessMinusOne status () with
    | error cause => exact absurd ⟨cause, hanswer⟩ hpassed
    | ok _ => rfl
  · exact hfree call answer (List.mem_cons_of_mem _ (List.mem_cons_of_mem _ hmem))

/-- The controller was taken down, up and down again. -/
theorem Unhindered.of_cycle (hfree : Unhindered made)
    (hserved : Served socket (issued .down devId (.ok ()) ++ issued .up devId (.ok ()) ++
      issued .down devId (.ok ()) ++ asked) made socket') :
    ∃ before rest, made = before ++ rest ∧
      before.calls = [.control socket.fd .deviceDown devId.toUInt64, .control socket.fd .deviceUp devId.toUInt64,
        .control socket.fd .deviceDown devId.toUInt64] ∧ Unhindered rest ∧ Served socket asked rest socket' := by
  obtain ⟨-, first, _, rfl, hfree, hserved⟩ := hfree.of_issued hserved
  obtain ⟨-, second, _, rfl, hfree, hserved⟩ := hfree.of_issued hserved
  obtain ⟨-, third, rest, rfl, hfree, hserved⟩ := hfree.of_issued hserved
  exact ⟨[.said (.log (.control devId .down)), .asked (.control socket.fd .deviceDown devId.toUInt64) first,
    .said (.log (.control devId .up)), .asked (.control socket.fd .deviceUp devId.toUInt64) second,
    .said (.log (.control devId .down)), .asked (.control socket.fd .deviceDown devId.toUInt64) third],
    rest, rfl, rfl, hfree, hserved⟩

/-- How an attempt ends whose control calls and whose bind do not fail. -/
structure Bound (devId : UInt16) (config : OpenConfig) (fd : Int) (made : Trace Kernel)
    (result : Except HciError Unit) : Prop where
  /-- It succeeds, whatever comes of waiting and reading. -/
  succeeded : result = .ok ()
  /-- After the bind there are only the calls that deal with input. -/
  drained : ∃ (before after : Trace Kernel) (status : Status),
    made = before ++ .asked (.bind fd (address devId)) status :: after ∧
      before.calls = [.control fd .deviceDown devId.toUInt64, .control fd .deviceUp devId.toUInt64,
        .control fd .deviceDown devId.toUInt64] ∧
      DrainCalls config fd after

/-- An attempt that nothing hinders gets to the bind, past it, and to the draining. -/
theorem bound_of_prepared {result : Except HciError Unit} (hprepared : Prepared devId config asked result)
    (hserved : Served socket asked made socket') (hfree : Unhindered made) :
    Bound devId config socket.fd made result := by
  -- Each row that ends early has a call that has failed, and there is none.
  cases hprepared with
  | notDown cause =>
    obtain ⟨hanswer, -⟩ := hfree.of_issued hserved
    cases hanswer
  | notUp cause =>
    obtain ⟨-, _, _, rfl, hfree, hserved⟩ := hfree.of_issued hserved
    obtain ⟨hanswer, -⟩ := hfree.of_issued hserved
    cases hanswer
  | notDownAgain cause =>
    obtain ⟨-, _, _, rfl, hfree, hserved⟩ := hfree.of_issued hserved
    obtain ⟨-, _, _, rfl, hfree, hserved⟩ := hfree.of_issued hserved
    obtain ⟨hanswer, -⟩ := hfree.of_issued hserved
    cases hanswer
  | notBound cause =>
    obtain ⟨before, _, rfl, -, hfree, hserved⟩ := hfree.of_cycle hserved
    obtain ⟨status, rest, rfl, hrefused, -⟩ := hserved.of_bind
    have hpassed := hfree (.bind socket.fd (address devId)) status List.mem_cons_self rfl
    exact absurd ⟨cause, hrefused.symm⟩ hpassed
  | bound hdrained =>
    obtain ⟨before, _, rfl, hcycle, -, hserved⟩ := hfree.of_cycle hserved
    obtain ⟨status, rest, rfl, -, hserved⟩ := hserved.of_bind
    exact ⟨rfl, before, rest, status, rfl, hcycle, drainCalls_of_served hdrained hserved⟩

/-! ## Whichever controller is opened -/

end Open

/-- A bind was made for a request to bind, which was answered by it. -/
theorem Served.bind_of_mem {fd : Int} {bytes : Bytes} {status : Status} (hserved : Served socket asked made socket')
    (hmem : .asked (.bind fd bytes) status ∈ made) :
    ∃ devId, bytes = address devId ∧
      .asked (.bindUserChannel devId) (status.unlessNegative () : Except IoError Unit) ∈ asked := by
  -- Along the requests: the bind was made for the first, or for one behind it.
  induction hserved with
  | nil => cases hmem
  | said event hrest ih =>
    obtain ⟨devId, hbytes, hasked⟩ := ih ((List.mem_cons.mp hmem).resolve_left nofun)
    exact ⟨devId, hbytes, List.mem_cons_of_mem _ hasked⟩
  | @asked socket between socket' asked first made request got hanswer hrest ih =>
    rcases List.mem_append.mp hmem with hmem | hmem
    · have hcall : .bind fd bytes ∈ first.calls := List.mem_filterMap.mpr ⟨_, hmem, rfl⟩
      -- A bind serves a request to bind and no other.
      have hserves := serves_of_answer hanswer hcall
      cases request with
      | bindUserChannel devId =>
        obtain ⟨given, rfl, hended⟩ := Program.runs_ask_iff.mp hanswer
        cases List.mem_singleton.mp hmem
        cases hended
        exact ⟨devId, hserves, List.mem_cons_self⟩
      | _ => cases hserves
    · obtain ⟨devId, hbytes, hasked⟩ := ih hmem
      exact ⟨devId, hbytes, List.mem_cons_of_mem _ hasked⟩

namespace Open

variable {selector : DeviceSelector} {result : Except HciError UInt16}

/-- A selection that fails has had no bind granted. -/
theorem grants_of_select_error {error : HciError} (hruns : (select selector config).Runs asked (.error error)) :
    grants asked = [] := by
  cases selector with
  | index devId =>
    rcases selectIndex_cases hruns with ⟨_, -, hprepared⟩ | ⟨hresult, -⟩
    · exact hprepared.grants_of_error
    · cases hresult
  | any =>
    rcases selectAny_cases hruns with ⟨cause, rfl, -⟩ | ⟨entries, rest, rfl, hprobed⟩
    · rfl
    · cases hprobed with
      | chosen _ _ _ _ _ _ _ _ hresult => cases hresult
      -- Every attempt was refused, and a refused attempt has bound nothing.
      | exhausted refusals hrefused hids htrace hresult =>
        rw [htrace]
        exact grants_refusals hrefused

/-- An attempt that succeeds has bound its controller once, in front of the draining. -/
theorem split_of_prepared_ok (hprepared : Prepared devId config asked (.ok ())) :
    ∃ earlier drained, asked = earlier ++ granted devId :: .said (.log (.bound devId)) :: drained ∧
      grants earlier = [] ∧ Drained devId config drained := by
  cases hprepared with
  | bound hdrained => exact ⟨_, _, rfl, rfl, hdrained⟩

/-- One that succeeds ends with the bind that was granted and with what is done about input. -/
theorem split_of_select_ok (hruns : (select selector config).Runs asked (.ok devId)) :
    ∃ earlier drained, asked = earlier ++ granted devId :: .said (.log (.bound devId)) :: drained ∧
      grants earlier = [] ∧ Drained devId config drained := by
  cases selector with
  | index devId =>
    rcases selectIndex_cases hruns with ⟨_, hresult, -⟩ | ⟨hresult, hprepared⟩
    · cases hresult
    · cases hresult
      exact split_of_prepared_ok hprepared
  | any =>
    rcases selectAny_cases hruns with ⟨cause, -, hresult⟩ | ⟨entries, rest, rfl, hprobed⟩
    · cases hresult
    -- The attempts before the last were refused, so they add no bind.
    · obtain ⟨refusals, later, last, hrefused, hlast, -, rfl⟩ := hprobed.of_ok
      obtain ⟨earlier, drained, rfl, hnone, hdrained⟩ := split_of_prepared_ok hlast
      refine ⟨listed entries :: .said (.log (.probing (candidates entries))) ::
        (refusals.flatMap Refusal.shown ++ earlier), drained, by simp, ?_, hdrained⟩
      rw [grants_cons_none rfl, grants_cons_none rfl, grants_append, grants_refusals hrefused, hnone]
      rfl

theorem mem_grants (hmem : granted devId ∈ asked) : devId ∈ grants asked :=
  List.mem_filterMap.mpr ⟨_, hmem, rfl⟩

/-- A bind that was granted was asked for. -/
theorem granted_of_mem {fd : Int} {bytes : Bytes} {status : Status} (hserved : Served socket asked made socket')
    (hmem : .asked (.bind fd bytes) status ∈ made) (hgranted : ¬ status.ret < 0) :
    ∃ devId, bytes = address devId ∧ devId ∈ grants asked := by
  obtain ⟨devId, hbytes, hasked⟩ := hserved.bind_of_mem hmem
  rw [Status.unlessNegative, if_neg hgranted] at hasked
  exact ⟨devId, hbytes, mem_grants hasked⟩

/-- The draining binds nothing. -/
theorem DrainCalls.not_mem_bind {fd fd' : Int} {bytes : Bytes} {status : Status}
    (hdrains : DrainCalls config fd after) : .asked (.bind fd' bytes) status ∉ after := by
  obtain ⟨_, _, -, hcalls⟩ := hdrains
  intro hmem
  have hcall : .bind fd' bytes ∈ after.calls := List.mem_filterMap.mpr ⟨_, hmem, rfl⟩
  rw [hcalls] at hcall
  -- There are two calls at most, and neither is a bind.
  rcases List.mem_cons.mp hcall with hpoll | hread
  · cases hpoll
  · split at hread
    · cases List.mem_singleton.mp hread
    · cases hread

/-- An open in which a bind was granted succeeds, and behind that bind it drains. -/
theorem drained_of_channel {fd : Int} {bytes : Bytes} {status : Status}
    (hruns : (lower (channel selector config) .absent).Runs made (socket', result))
    (hmade : made = before ++ .asked (.bind fd bytes) status :: after) (hgranted : ¬ status.ret < 0) :
    ∃ devId, result = .ok devId ∧ bytes = address devId ∧ DrainCalls config fd after := by
  obtain ⟨asked, hasked, hserved⟩ := runs_lower_iff.mp hruns
  have hmem : .asked (.bind fd bytes) status ∈ made := by
    rw [hmade]
    exact List.mem_append_right _ List.mem_cons_self
  -- Somebody has asked for the bind, so the open is not one of those that fail.
  obtain ⟨devId, -, hasks⟩ := granted_of_mem hserved hmem hgranted
  cases opened_of_runs hasked with
  | notMade cause => cases hasks
  | @refused tried error htried =>
    have hnone : grants (.asked .create (.ok () : Except IoError Unit) :: (tried ++ [.asked .discard ()])) = [] := by
      rw [grants_cons_none rfl, grants_append, grants_of_select_error htried]
      rfl
    rw [hnone] at hasks
    cases hasks
  | @bound tried chosen htried =>
    obtain ⟨earlier, drained, rfl, hnone, hdrained⟩ := split_of_select_ok htried
    -- The calls before the bind, the bind, and the calls after it.
    rw [← List.cons_append] at hserved
    obtain ⟨first, _, between, rfl, hfirst, hlater⟩ := hserved.split
    obtain ⟨given, rest, rfl, -, hrest⟩ := hlater.of_bind
    have hdrains := drainCalls_of_served hdrained hrest
    -- There is one bind that was granted, so it is the one that was given.
    have hnot : .asked (.bind fd bytes) status ∉ first := by
      intro hmem
      obtain ⟨other, -, hother⟩ := granted_of_mem hfirst hmem hgranted
      rw [grants_cons_none rfl, hnone] at hother
      cases hother
    obtain ⟨rfl, hbind, rfl⟩ := (List.append_cons_inj_of_notMem hnot hdrains.not_mem_bind).mp hmade
    cases hbind
    exact ⟨chosen, rfl, rfl, hdrains⟩

/-! ## The main result -/

/-- How input that waits is dealt with. -/
structure DrainsOnce (config : OpenConfig) : Prop where
  /-- In an attempt to open one controller whose control calls and whose bind do not fail. -/
  attempt : ∀ (devId : UInt16) (socket socket' : RawSocket) (made : Trace Kernel) (result : Except HciError Unit),
    (lower (prepare devId config) socket).Runs made (socket', result) → Unhindered made →
      Bound devId config socket.fd made result
  /-- In an open as a whole, after a bind that was granted. -/
  channel : ∀ (selector : DeviceSelector) (socket' : RawSocket) (before after : Trace Kernel) (fd : Int)
    (bytes : Bytes) (status : Status) (result : Except HciError UInt16),
    (lower (channel selector config) .absent).Runs (before ++ .asked (.bind fd bytes) status :: after)
        (socket', result) → ¬ status.ret < 0 →
      ∃ devId, result = .ok devId ∧ bytes = address devId ∧ DrainCalls config fd after

/-- **Whoever opens a controller reads once, and only where there is input.** -/
theorem drainsOnce (config : OpenConfig) : DrainsOnce config where
  attempt devId socket socket' made result hruns hfree := by
    obtain ⟨asked, hasked, hserved⟩ := runs_lower_iff.mp hruns
    exact bound_of_prepared (prepared_of_runs hasked) hserved hfree
  channel _ _ _ _ _ _ _ _ hruns hgranted := drained_of_channel hruns rfl hgranted

/-- A kernel that lets everything pass and wakes whoever waits for input. -/
def wakes (events : Int) : (call : KernelCall) → call.Answer
  | .socket _ _ _ => (⟨3, 0⟩ : Status)
  | .deviceInfo _ _ record => ((⟨0, 0⟩, record) : Status × Bytes)
  | .deviceList _ _ request => ((⟨0, 0⟩, request) : Status × DeviceListRequest)
  | .poll _ _ _ _ => ((⟨1, 0⟩, events) : Status × Int)
  | .read _ _ => ((⟨2, 0⟩, [4, 14]) : Status × Bytes)
  | .control _ _ _ | .bind _ _ | .write _ _ | .close _ => (⟨0, 0⟩ : Status)

theorem unhindered_wakes (events : Int) (p : Program Kernel (RawSocket × Except HciError Unit)) :
    Unhindered (p.follow (wakes events)).1 := by
  intro call answer hmem hprepares
  rw [Program.answer_of_mem_follow hmem]
  cases call with
  | control | bind =>
    rintro ⟨cause, hfailed⟩
    cases hfailed
  | _ => cases hprepares

/-- What is seen of an attempt whose wait ends because the other side has hung up. -/
def hungUp : Trace Kernel := ((lower (prepare 2 .standard) ⟨3, false⟩).follow (wakes 16)).1

/-- What is seen of an open whose wait ends because the other side has hung up, with something left to read. -/
def hungUpLate : Trace Kernel := ((lower (channel (.index 2) .standard) .absent).follow (wakes 17)).1

/-- In one of them there is a read. -/
theorem drainsOnce_hungUp :
    ((lower (prepare 2 .standard) ⟨3, false⟩).Runs hungUp (⟨3, false⟩, .ok ()) ∧ Unhindered hungUp ∧
      hungUp.calls = [.control 3 .deviceDown 2, .control 3 .deviceUp 2, .control 3 .deviceDown 2,
        .bind 3 (address 2), .poll 3 pollIn 1 20] ∧
      Bound 2 .standard 3 hungUp (.ok ())) ∧
    ∃ before after : Trace Kernel,
      hungUpLate = before ++ .asked (.bind 3 (address 2)) (⟨0, 0⟩ : Status) :: after ∧
      (lower (channel (.index 2) .standard) .absent).Runs hungUpLate (⟨3, false⟩, .ok 2) ∧
      after.calls = [.poll 3 pollIn 1 20, .read 3 100] ∧ DrainCalls .standard 3 after := by
  have hattempt : (lower (prepare 2 .standard) ⟨3, false⟩).Runs hungUp (⟨3, false⟩, .ok ()) := by
    unfold hungUp
    exact Program.runs_follow (wakes 16) (lower (prepare 2 .standard) ⟨3, false⟩)
  have hfree : Unhindered hungUp := unhindered_wakes 16 (lower (prepare 2 .standard) ⟨3, false⟩)
  refine ⟨⟨hattempt, hfree, rfl, (drainsOnce .standard).attempt _ _ _ _ _ hattempt hfree⟩, ?_⟩
  -- The bind is the eighth thing that is seen.
  have hsplit : hungUpLate = hungUpLate.take 7 ++ .asked (.bind 3 (address 2)) (⟨0, 0⟩ : Status) ::
      hungUpLate.drop 8 := rfl
  have hopen : (lower (channel (.index 2) .standard) .absent).Runs hungUpLate (⟨3, false⟩, .ok 2) := by
    unfold hungUpLate
    exact Program.runs_follow (wakes 17) (lower (channel (.index 2) .standard) .absent)
  have hgranted : ¬ (⟨0, 0⟩ : Status).ret < 0 := by decide
  obtain ⟨_, -, -, hdrains⟩ := (drainsOnce .standard).channel _ _ _ _ _ _ _ _ (hsplit ▸ hopen) hgranted
  exact ⟨_, _, hsplit, hopen, rfl, hdrains⟩

end Open

end HciTransport
