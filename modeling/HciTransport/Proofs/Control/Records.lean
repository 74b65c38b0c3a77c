import HciTransport.Proofs.Control.Protocol
import HciTransport.Proofs.Device.Record

/-!
# A record for each entry of a list

Where all controllers are wanted with their records, the list comes first, and then the record of each of its
entries is asked for, one after the other. A reply need not fill in the whole record. What a reply stores is a
`Fill`, and the record that it leaves behind has the bytes of the request wherever it stores none: each request
brings a fresh record with it, so nothing of one record can show in another.

`Gathered` says this of the loop, for any sequence of replies, and is proved by following the list
(`gathered_of_runs`). `oneForEach` says it of the whole operation, where what was gathered may still be lost
when the socket cannot be given back.
-/

namespace HciTransport

/-- What a reply stores in a record: a byte for each place that it covers. -/
abbrev Fill := Nat → Option UInt8

/-- The record that a reply leaves behind. -/
def Fill.apply (fill : Fill) (record : Bytes) : Bytes := record.mapIdx fun i b => (fill i).getD b

/-- A request for a record, and the answer to it. -/
def Sign.fetch? : Sign Descriptor → Option (Bytes × Except IoError Bytes)
  | .asked (.deviceInfo record) answer => some (record, answer)
  | _ => none

namespace Control

open DeviceInfo (decode)

variable {entries : List DeviceEntry} {replies : Nat → Except IoError Fill} {trace before after : Trace Descriptor}
  {result : Except HciError (List DeviceInfo)} {devId : UInt16} {answer : Except IoError Bytes} {α β : Type}

/-! ## Requests for records -/

/-- The requests for records, in order, and the answers to them. -/
def fetches (trace : Trace Descriptor) : List (Bytes × Except IoError Bytes) := trace.filterMap Sign.fetch?

/-- A record of zeroes that carries only the index of a controller. -/
def bareRecord (devId : UInt16) : Bytes := Bytes.ofU16 devId ++ Bytes.zeros (Layout.size - 2)

/-- Each request comes with such a record. -/
theorem request_eq_bareRecord (devId : UInt16) : DeviceInfo.request devId = bareRecord devId := by
  have hfits : (Bytes.ofU16 devId).length ≤ (Bytes.zeros Layout.size).length := by
    rw [Bytes.length_ofU16, Bytes.length_zeros]
    decide
  rw [DeviceInfo.request, Bytes.overlay_of_le hfits, bareRecord, Bytes.zeros, List.drop_replicate, Bytes.length_ofU16]
  rfl

theorem fetches_append : fetches (before ++ after) = fetches before ++ fetches after := List.filterMap_append

/-- A request for a record brings a fresh record with it. -/
theorem fetches_cons : fetches (fetched devId answer :: trace) = (bareRecord devId, answer) :: fetches trace := by
  rw [← request_eq_bareRecord]
  exact List.filterMap_cons_some rfl

/-- The answers to the requests for records are what the replies make of these requests, the first reply of the
first request, and so on. -/
def FilledBy (replies : Nat → Except IoError Fill) (trace : Trace Descriptor) : Prop :=
  ∀ k record answer, (fetches trace)[k]? = some (record, answer) → answer = (replies k).map (·.apply record)

theorem filledBy_of_none (hnone : fetches trace = []) : FilledBy replies trace := by
  intro k record answer hplace
  rw [hnone] at hplace
  cases hplace

/-- The first reply is for the first request, and those after it for the rest. -/
theorem filledBy_cons_iff :
    FilledBy replies (fetched devId answer :: trace) ↔
      answer = (replies 0).map (·.apply (bareRecord devId)) ∧ FilledBy (fun k => replies (k + 1)) trace := by
  unfold FilledBy
  rw [fetches_cons]
  constructor
  · intro hfilled
    refine ⟨hfilled 0 _ _ rfl, fun k record given hplace => ?_⟩
    exact hfilled (k + 1) record given hplace
  · rintro ⟨hfirst, hrest⟩ k record given hplace
    -- The place decides: the first is the new request, and the others have moved by one.
    cases k with
    | zero =>
      cases hplace
      exact hfirst
    | succ k => exact hrest k record given hplace

/-! ## The loop -/

/-- The records of some entries are asked for in turn, given these replies. -/
structure InTurn (entries : List DeviceEntry) (replies : Nat → Except IoError Fill) (trace : Trace Descriptor)
    (result : Except HciError (List DeviceInfo)) : Prop where
  /-- For each entry that is reached a record is asked for, in the order of the list, with zeroes but for the index
  of the entry. An entry is reached if no reply before its own has failed. -/
  asked : ∀ k, (fetches trace)[k]?.map (·.1) =
    if ∀ j < k, (replies j).isOk then entries[k]?.map (bareRecord ·.devId) else none
  /-- The first reply that fails decides the result. -/
  stopped : ∀ k entry cause, entries[k]? = some entry → (∀ j < k, (replies j).isOk) → replies k = .error cause →
    result = .error (.control .info entry.devId cause)
  /-- A result has one record for each entry, in the same place. It is read from what the reply has left behind:
  the bytes that it has stored, and those of its own request everywhere else. -/
  records : ∀ infos, result = .ok infos → infos.length = entries.length ∧ ∀ k entry, entries[k]? = some entry →
    ∃ fill, replies k = .ok fill ∧ infos[k]? = some (decode (fill.apply (bareRecord entry.devId)))

/-- How the loop gathers the records of some entries. -/
structure Gathered (entries : List DeviceEntry) (replies : Nat → Except IoError Fill) (trace : Trace Descriptor)
    (result : Except HciError (List DeviceInfo)) : Prop extends InTurn entries replies trace result where
  /-- Where no reply fails there is a result. -/
  brought : (∀ k < entries.length, (replies k).isOk) → ∃ infos, result = .ok infos

theorem gathered_nil : Gathered [] replies [] (.ok []) where
  asked k := by simp [fetches]
  stopped k entry cause hentry := by simp at hentry
  brought _ := ⟨[], rfl⟩
  records infos hresult := by
    cases hresult
    exact ⟨rfl, fun k entry hentry => by simp at hentry⟩

/-- The record of the first entry cannot be had. -/
theorem gathered_failed (entry : DeviceEntry) {cause : IoError} (hreply : replies 0 = .error cause) :
    Gathered (entry :: entries) replies [fetched entry.devId (.error cause)]
      (.error (.control .info entry.devId cause)) := by
  -- No later entry is reached, since this reply stands in its way.
  have hnever : ∀ {n : Nat}, 0 < n → ¬ ∀ j < n, (replies j).isOk := by
    intro n hn hall
    have hfirst := hall 0 hn
    rw [hreply] at hfirst
    cases hfirst
  refine ⟨⟨fun k => ?_, fun k other given hentry hbefore hgiven => ?_, nofun⟩, fun hall => ?_⟩
  · rw [fetches_cons]
    cases k with
    | zero => simp
    | succ k =>
      rw [if_neg (hnever (Nat.succ_pos k))]
      rfl
  · cases k with
    | zero =>
      cases hentry
      cases hreply.symm.trans hgiven
      rfl
    | succ k => exact absurd hbefore (hnever (Nat.succ_pos k))
  · exact absurd hall (hnever (Nat.succ_pos _))

/-- The record of the first entry is had, and those of the others are gathered after it. -/
theorem Gathered.cons (entry : DeviceEntry) {fill : Fill} {others : Except HciError (List DeviceInfo)}
    (hreply : replies 0 = .ok fill) (hothers : Gathered entries (fun k => replies (k + 1)) trace others) :
    Gathered (entry :: entries) replies (fetched entry.devId answer :: trace)
      (others.map (decode (fill.apply (bareRecord entry.devId)) :: ·)) where
  asked k := by
    rw [fetches_cons]
    cases k with
    | zero => simp
    | succ k =>
      -- The first reply has not failed, so it stands in the way of no later entry.
      have hall : (∀ j < k + 1, (replies j).isOk) ↔ ∀ j < k, (replies (j + 1)).isOk := by
        rw [Nat.forall_lt_succ_left', hreply]
        exact and_iff_right rfl
      rw [List.getElem?_cons_succ, List.getElem?_cons_succ, hothers.asked k]
      simp only [hall]
  stopped k other cause hentry hbefore hfailed := by
    cases k with
    | zero => cases hreply.symm.trans hfailed
    | succ k =>
      rw [hothers.stopped k other cause hentry (fun j hj => hbefore (j + 1) (Nat.succ_lt_succ hj)) hfailed]
      rfl
  brought hall := by
    obtain ⟨infos, rfl⟩ := hothers.brought fun k hk => hall (k + 1) (Nat.succ_lt_succ hk)
    exact ⟨_, rfl⟩
  records infos hresult := by
    cases others with
    -- The record of this entry stands in front, and every other one in the next place.
    | error => cases hresult
    | ok later =>
      cases hresult
      obtain ⟨hlength, hplaces⟩ := hothers.records later rfl
      refine ⟨congrArg (· + 1) hlength, fun k other hentry => ?_⟩
      cases k with
      | zero =>
        cases hentry
        exact ⟨fill, hreply, rfl⟩
      | succ k => exact hplaces k other hentry

/-- **Whatever the replies are, the records are gathered so.** -/
theorem gathered_of_runs (hruns : (fetchInfos entries).Runs trace result) (hfilled : FilledBy replies trace) :
    Gathered entries replies trace result := by
  -- With each entry a reply is used up, so the induction is for all replies.
  induction entries generalizing replies trace result with
  | nil =>
    obtain ⟨rfl, rfl⟩ := Program.runs_done_iff.mp hruns
    exact gathered_nil
  | cons entry entries ih =>
    rcases runs_fetch_andThen_iff.mp hruns with ⟨cause, rfl, rfl⟩ | ⟨record, rest, rfl, hrest⟩
    · obtain ⟨hanswer, -⟩ := filledBy_cons_iff.mp hfilled
      cases hreply : replies 0 with
      | error given =>
        rw [hreply] at hanswer
        -- A fill is never the answer to a request that has failed.
        cases hanswer
        exact gathered_failed entry hreply
      | ok fill =>
        rw [hreply] at hanswer
        cases hanswer
    · obtain ⟨hanswer, hlater⟩ := filledBy_cons_iff.mp hfilled
      cases hreply : replies 0 with
      | error given =>
        rw [hreply] at hanswer
        cases hanswer
      | ok fill =>
        rw [hreply] at hanswer
        obtain ⟨others, hothers, rfl⟩ := Program.runs_andThen_done_iff.mp hrest
        rw [Except.ok.inj hanswer]
        exact (ih hothers hlater).cons entry hreply

/-- Any replies can be met with. -/
theorem exists_gathering (entries : List DeviceEntry) (replies : Nat → Except IoError Fill) :
    ∃ trace result, (fetchInfos entries).Runs trace result ∧ FilledBy replies trace := by
  induction entries generalizing replies with
  | nil => exact ⟨[], .ok [], .done _, filledBy_of_none rfl⟩
  | cons entry entries ih =>
    -- The trace is built as the loop goes on, and ends at the first reply that fails.
    cases hreply : replies 0 with
    | error cause =>
      refine ⟨[fetched entry.devId (.error cause)], _, runs_fetch_andThen_iff.mpr (.inl ⟨cause, rfl, rfl⟩), ?_⟩
      rw [filledBy_cons_iff, hreply]
      exact ⟨rfl, filledBy_of_none rfl⟩
    | ok fill =>
      obtain ⟨trace, others, hothers, hfilled⟩ := ih fun k => replies (k + 1)
      refine ⟨fetched entry.devId (.ok (fill.apply (bareRecord entry.devId))) :: trace, _,
        runs_fetch_andThen_iff.mpr (.inr ⟨_, trace, rfl, Program.runs_andThen_done_iff.mpr ⟨others, hothers, rfl⟩⟩), ?_⟩
      rw [filledBy_cons_iff, hreply]
      exact ⟨rfl, hfilled⟩

/-! ## The whole operation -/

/-- What work on a socket comes to, what is seen after it, and the result of all that. -/
inductive Concluded : Except HciError α → Trace Descriptor → Except HciError α → Prop where
  | undone (error : HciError) : Concluded (.error error) [forgotten] (.error error)
  | notGivenBack (value : α) (cause : IoError) :
      Concluded (.ok value) [released (.error cause), forgotten] (.error (.close cause))
  | done (value : α) : Concluded (.ok value) [released (.ok ()), forgotten] (.ok value)

/-- Work on a socket runs in these two ways, and in no others. -/
theorem runs_withSocket_iff {work : Attempt α} {outcome : Except HciError α} :
    (withSocket work).Runs trace outcome ↔
      (∃ cause, trace = [created (.error cause)] ∧ outcome = .error (.socket cause)) ∨
        ∃ shown worked ending, trace = created (.ok ()) :: (shown ++ ending) ∧ work.Runs shown worked ∧
          Concluded worked ending outcome := by
  constructor
  · intro hruns
    cases onSocket_of_runs hruns with
    | notMade cause => exact .inl ⟨cause, rfl, rfl⟩
    | undone hwork => exact .inr ⟨_, _, _, rfl, hwork, .undone _⟩
    | notGivenBack cause hwork => exact .inr ⟨_, _, _, rfl, hwork, .notGivenBack _ cause⟩
    | done hwork => exact .inr ⟨_, _, _, rfl, hwork, .done _⟩
  · rintro (⟨cause, rfl, rfl⟩ | ⟨shown, worked, ending, rfl, hwork, hconcluded⟩)
    · exact Program.runs_call_iff.mpr ⟨_, [], rfl, .done _⟩
    · refine Program.runs_call_iff.mpr ⟨_, _, rfl, Program.runs_bind_iff.mpr ⟨shown, ending, worked, rfl, hwork, ?_⟩⟩
      cases hconcluded with
      | undone error => exact runs_discardThen_iff.mpr ⟨rfl, rfl⟩
      | notGivenBack value cause =>
        exact Program.runs_call_iff.mpr ⟨_, _, rfl, runs_discardThen_iff.mpr ⟨rfl, rfl⟩⟩
      | done value => exact Program.runs_call_iff.mpr ⟨_, _, rfl, runs_discardThen_iff.mpr ⟨rfl, rfl⟩⟩

theorem exists_concluded (worked : Except HciError α) : ∃ ending outcome, Concluded worked ending outcome := by
  cases worked with
  | error error => exact ⟨_, _, .undone error⟩
  | ok value => exact ⟨_, _, .done value⟩

/-- The kernel lists these entries, and these are its replies to the requests for their records. -/
structure RepliedBy (entries : List DeviceEntry) (replies : Nat → Except IoError Fill) (trace : Trace Descriptor) :
    Prop where
  listed : Open.listed entries ∈ trace
  filled : FilledBy replies trace

/-- How all controllers are listed with their records, given these replies. -/
structure OneForEach (entries : List DeviceEntry) (replies : Nat → Except IoError Fill) (trace : Trace Descriptor)
    (result : Except HciError (List DeviceInfo)) : Prop extends InTurn entries replies trace result where
  /-- Where no reply fails there is a result, unless the socket cannot be given back. -/
  brought : (∀ k < entries.length, (replies k).isOk) →
    (∃ infos, result = .ok infos) ∨ ∃ cause, released (.error cause) ∈ trace ∧ result = .error (.close cause)

/-- Who asks for records asks for no list. -/
theorem entries_of_fetchInfos (hruns : (fetchInfos entries).Runs trace result) :
    trace.filterMap Sign.entries? = [] := by
  cases result with
  | ok infos =>
    obtain ⟨had, -, rfl, -⟩ := fetchedAll_of_runs hruns
    exact entries_fetchedAll had
  | error error =>
    obtain ⟨had, entry, later, cause, -, -, rfl⟩ := unfetched_of_runs hruns
    rw [List.filterMap_append]
    exact congrArg (· ++ []) (entries_fetchedAll had)

/-- What is seen where the kernel lists these entries. -/
theorem runs_devices_of_listed (hruns : devices.Runs trace result) (hlisted : Open.listed entries ∈ trace) :
    ∃ shown worked ending, trace = created (.ok ()) :: Open.listed entries :: (shown ++ ending) ∧
      (fetchInfos entries).Runs shown worked ∧ Concluded worked ending result := by
  rcases runs_withSocket_iff.mp hruns with ⟨cause, rfl, -⟩ | ⟨shown, worked, ending, rfl, hwork, hconcluded⟩
  · cases List.mem_singleton.mp hlisted
  have hlast : ending.filterMap Sign.entries? = [] := by
    cases hconcluded <;> rfl
  -- The list is not seen when the socket is made or given back, so it is seen in the work.
  have hmem : entries ∈ (shown ++ ending).filterMap Sign.entries? :=
    List.mem_filterMap.mpr ⟨_, (List.mem_cons.mp hlisted).resolve_left nofun, rfl⟩
  rw [List.filterMap_append, hlast, List.append_nil] at hmem
  rcases Open.runs_list_andThen hwork with ⟨cause, rfl, -⟩ | ⟨given, rest, rfl, hrest⟩
  · cases hmem
  · -- The list is asked for once.
    have honly : (Open.listed given :: rest).filterMap Sign.entries? = [given] :=
      congrArg (given :: ·) (entries_of_fetchInfos hrest)
    rw [honly] at hmem
    obtain rfl := List.mem_singleton.mp hmem
    exact ⟨rest, worked, ending, rfl, hrest, hconcluded⟩

/-- Records are asked for on the socket, and neither before the list nor after the work. -/
theorem fetches_devices {shown ending : Trace Descriptor} {worked : Except HciError (List DeviceInfo)}
    (hconcluded : Concluded worked ending result) :
    fetches (created (.ok ()) :: Open.listed entries :: (shown ++ ending)) = fetches shown := by
  have hlast : fetches ending = [] := by
    cases hconcluded <;> rfl
  have hsame : fetches (created (.ok ()) :: Open.listed entries :: (shown ++ ending)) = fetches (shown ++ ending) := rfl
  rw [hsame, fetches_append, hlast, List.append_nil]

/-- Any list can be met with, and any replies. -/
theorem exists_replied (entries : List DeviceEntry) (replies : Nat → Except IoError Fill) :
    ∃ trace result, devices.Runs trace result ∧ RepliedBy entries replies trace := by
  obtain ⟨shown, worked, hworked, hfilled⟩ := exists_gathering entries replies
  obtain ⟨ending, result, hconcluded⟩ := exists_concluded worked
  refine ⟨_, result, runs_withSocket_iff.mpr (.inr ⟨Open.listed entries :: shown, worked, ending, rfl, ?_, hconcluded⟩),
    List.mem_cons_of_mem _ List.mem_cons_self, ?_⟩
  · refine Program.runs_andThen_iff.mpr (.inr ⟨[Open.listed entries], shown, entries, rfl, ?_, hworked⟩)
    exact Program.runs_ask_iff.mpr ⟨.ok entries, rfl, rfl⟩
  · rw [FilledBy, List.cons_append, fetches_devices hconcluded]
    exact hfilled

/-- What was gathered is the result, if the socket can be given back. -/
theorem Gathered.concluded {shown ending : Trace Descriptor} {worked : Except HciError (List DeviceInfo)}
    (hgathered : Gathered entries replies shown worked) (hconcluded : Concluded worked ending result) :
    OneForEach entries replies (created (.ok ()) :: Open.listed entries :: (shown ++ ending)) result where
  asked := by
    rw [fetches_devices hconcluded]
    exact hgathered.asked
  stopped k entry cause hentry hbefore hfailed := by
    obtain rfl := hgathered.stopped k entry cause hentry hbefore hfailed
    cases hconcluded
    rfl
  brought hall := by
    obtain ⟨infos, rfl⟩ := hgathered.brought hall
    cases hconcluded with
    | notGivenBack _ cause => exact .inr ⟨cause, by simp, rfl⟩
    | done => exact .inl ⟨infos, rfl⟩
  records infos hresult := by
    subst hresult
    cases hconcluded
    exact hgathered.records infos rfl

/-- **All controllers are listed with a record for each entry, or not at all**, for any list of entries and any
replies, and such a run there is. -/
theorem oneForEach (entries : List DeviceEntry) (replies : Nat → Except IoError Fill) :
    (∃ trace result, devices.Runs trace result ∧ RepliedBy entries replies trace) ∧
      ∀ trace result, devices.Runs trace result → RepliedBy entries replies trace →
        OneForEach entries replies trace result := by
  refine ⟨exists_replied entries replies, fun trace result hruns hreplied => ?_⟩
  obtain ⟨shown, worked, ending, rfl, hworked, hconcluded⟩ := runs_devices_of_listed hruns hreplied.listed
  -- The replies of the whole trace are those of the loop.
  have hfilled : FilledBy replies shown := by
    have hfilled := hreplied.filled
    rwa [FilledBy, fetches_devices hconcluded] at hfilled
  exact (gathered_of_runs hworked hfilled).concluded hconcluded

/-- A controller that is listed twice, and another one between. -/
def threefold : List DeviceEntry := [⟨4, 0⟩, ⟨2, 0⟩, ⟨4, 0⟩]

/-- The start of a record, up to the end of the name. -/
def startOfRecord : Bytes := [4, 0, 0x68, 0x63, 0x69, 0x34]

/-- The kernel knows the name of one of them, and nothing of the other. -/
def sparse : (call : DescriptorCall) → call.Answer
  | .create | .release | .control _ _ | .bindUserChannel _ => (.ok () : Except IoError Unit)
  | .deviceInfo record =>
    (.ok (if Bytes.u16At record 0 = 4 then Bytes.overlay startOfRecord record else record) : Except IoError Bytes)
  | .listDevices => (.ok threefold : Except IoError (List DeviceEntry))
  | .pollReadable _ => (.ok false : Except IoError Bool)
  | .read _ => (⟨[], .ok 0⟩ : Receipt IoError)
  | .write frame => (.ok frame.length : Except IoError Nat)
  | .discard => ()

/-- What the kernel stores: nothing in the record between. -/
def sparseReplies (k : Nat) : Except IoError Fill := .ok fun i => if k = 1 then none else startOfRecord[i]?

/-- Each record stands for itself: the second has nothing of the first. -/
theorem oneForEach_sparse :
    devices.Runs (devices.follow sparse).1
        (.ok [{ DeviceInfo.blank 4 with name := "hci4" }, DeviceInfo.blank 2,
          { DeviceInfo.blank 4 with name := "hci4" }]) ∧
      RepliedBy threefold sparseReplies (devices.follow sparse).1 ∧
      OneForEach threefold sparseReplies (devices.follow sparse).1
        (.ok [{ DeviceInfo.blank 4 with name := "hci4" }, DeviceInfo.blank 2,
          { DeviceInfo.blank 4 with name := "hci4" }]) := by
  have hended : (devices.follow sparse).2 =
      .ok [{ DeviceInfo.blank 4 with name := "hci4" }, DeviceInfo.blank 2,
        { DeviceInfo.blank 4 with name := "hci4" }] := by decide
  have hruns := Program.runs_follow sparse devices
  rw [hended] at hruns
  have hlisted : Open.listed threefold ∈ (devices.follow sparse).1 := List.mem_cons_of_mem _ List.mem_cons_self
  have hfilled : FilledBy sparseReplies (devices.follow sparse).1 := by
    have hfetches : fetches (devices.follow sparse).1 =
        [(bareRecord 4, (sparseReplies 0).map (·.apply (bareRecord 4))),
          (bareRecord 2, (sparseReplies 1).map (·.apply (bareRecord 2))),
          (bareRecord 4, (sparseReplies 2).map (·.apply (bareRecord 4)))] := by decide +kernel
    intro k record answer hplace
    rw [hfetches] at hplace
    -- Three records are asked for, and the reply for each was put down above.
    match k with
    | 0 | 1 | 2 =>
      cases hplace
      rfl
    | k + 3 => cases hplace
  exact ⟨hruns, ⟨hlisted, hfilled⟩, (oneForEach threefold sparseReplies).2 _ _ hruns ⟨hlisted, hfilled⟩⟩

end Control

end HciTransport
