import HciTransport.Proofs.Failure.Attribution

/-!
# The protocol of a control operation

A control operation makes a socket for itself, puts the requests of its task on it and gives the socket back.
It ends with the first of these that fails. `Task` names the operations, `Task.requests` says what each of them
asks for, and `Course` is the table of what can be seen of one: a row for each way to fail, and one for
success. Only the last two rows give the socket back, and only the last has a value, so a value that was had
is lost when the socket cannot be given back (`followsProtocol`).

What a task asks for depends on what it was told meanwhile: where all records are wanted the list comes first,
and then a request for each of its entries. That is why the requests are a function of the entries, and the
entries are read off the trace (`listedIn`).
-/

namespace HciTransport

/-- The controllers that the kernel lists in answer to a request. -/
def Sign.entries? : Sign Descriptor → Option (List DeviceEntry)
  | .asked .listDevices (.ok entries) => some entries
  | _ => none

/-- The record that the kernel fills in in answer to a request. -/
def Sign.record? : Sign Descriptor → Option Bytes
  | .asked (.deviceInfo _) (.ok record) => some record
  | _ => none

namespace Control

/-- The controllers that were listed. -/
def listedIn (trace : Trace Descriptor) : List DeviceEntry := (trace.filterMap Sign.entries?).flatten

/-- The records that were filled in, in order. -/
def recordsIn (trace : Trace Descriptor) : List Bytes := trace.filterMap Sign.record?

/-- A control operation, with the type of what it brings. -/
inductive Task : Type → Type 1 where
  | operate (op : ControlOp) (devId : UInt16) : Task Unit
  | info (devId : UInt16) : Task DeviceInfo
  | list : Task (List DeviceEntry)
  | devices : Task (List DeviceInfo)

namespace Task

variable {α : Type}

/-- The operation itself. -/
def program : Task α → Attempt α
  | .operate op devId => Control.operate op devId
  | .info devId => Control.info devId
  | .list => Control.list
  | .devices => Control.devices

/-- What is done on the socket. -/
def work : Task α → Attempt α
  | .operate op devId => issue op devId
  | .info devId => fetchInfo devId
  | .list => fetchList
  | .devices => fetchList.andThen fetchInfos

/-- Every task has a socket made for it. -/
theorem program_eq (task : Task α) : task.program = withSocket task.work := by
  cases task <;> rfl

/-- What the task asks for on its socket, if the kernel lists these entries. -/
def requests : Task α → (entries : List DeviceEntry) → List DescriptorCall
  | .operate op devId, _ => [.control op.code devId]
  | .info devId, _ => [.deviceInfo (DeviceInfo.request devId)]
  | .list, _ => [.listDevices]
  | .devices, entries => .listDevices :: entries.map fun entry => .deviceInfo (DeviceInfo.request entry.devId)

/-- The value is what the answers tell. -/
def Brings : Task α → (trace : Trace Descriptor) → (value : α) → Prop
  | .operate _ _, _, _ => True
  | .info _, trace, value => (recordsIn trace).map DeviceInfo.decode = [value]
  | .list, trace, value => listedIn trace = value
  | .devices, trace, value => (recordsIn trace).map DeviceInfo.decode = value

/-- The work on the socket ends with what fails of it. -/
theorem answersFor_work (task : Task α) : AnswersFor task.work := by
  cases task with
  | operate op devId => exact answersFor_issue op devId
  | info devId => exact answersFor_fetchInfo devId
  | list => exact answersFor_fetchList
  | devices => exact answersFor_fetchList.andThen answersFor_fetchInfos

/-- No task makes a socket or gives one back. -/
theorem not_mem_requests (task : Task α) (entries : List DeviceEntry) :
    .create ∉ task.requests entries ∧ .release ∉ task.requests entries := by
  cases task <;> simp [requests]

end Task

/-! ## Requests in a row -/

variable {α : Type} {task : Task α} {trace own : Trace Descriptor} {value : α} {error : HciError}
  {result : Except HciError α} {entries : List DeviceEntry} {infos : List DeviceInfo}

/-- All requests of the task were put, and have passed. -/
structure Passed (task : Task α) (own : Trace Descriptor) (value : α) : Prop where
  asked : own.calls = task.requests (listedIn own)
  none_failed : failed own = []
  brought : task.Brings own value

/-- The requests of the task were put in order, up to and including the first that has failed, and the error
names that one. -/
structure Stopped (task : Task α) (own : Trace Descriptor) (error : HciError) : Prop where
  asked : own.calls <+: task.requests (listedIn own)
  last_failed : ∃ before sign, own = before ++ [sign] ∧ failed before = [] ∧ sign.error? = some error

/-! ### Records -/

/-- What is seen of records that were all filled in. -/
def fetchedAll (had : List (DeviceEntry × Bytes)) : Trace Descriptor :=
  had.map fun (entry, record) => fetched entry.devId (.ok record)

section Fetched

variable (had : List (DeviceEntry × Bytes))

/-- Records that were had were asked for by the index of their entries, in order. -/
theorem calls_fetchedAll :
    (fetchedAll had).calls = had.map fun (entry, _) => .deviceInfo (DeviceInfo.request entry.devId) := by
  induction had with
  | nil => rfl
  | cons first had ih => exact congrArg (.deviceInfo (DeviceInfo.request first.1.devId) :: ·) ih

theorem failed_fetchedAll : failed (fetchedAll had) = [] := by
  induction had with
  | nil => rfl
  | cons first had ih => exact ih

theorem recordsIn_fetchedAll : recordsIn (fetchedAll had) = had.map (·.2) := by
  induction had with
  | nil => rfl
  | cons first had ih => exact congrArg (first.2 :: ·) ih

/-- Records tell nothing about the list. -/
theorem entries_fetchedAll : (fetchedAll had).filterMap Sign.entries? = [] := by
  induction had with
  | nil => rfl
  | cons first had ih => exact ih

end Fetched

/-- Who has fetched the records of all entries has asked for each of them. -/
theorem fetchedAll_of_runs (hruns : (fetchInfos entries).Runs trace (.ok infos)) :
    ∃ had : List (DeviceEntry × Bytes), entries = had.map (·.1) ∧ trace = fetchedAll had ∧
      infos = (had.map (·.2)).map DeviceInfo.decode := by
  -- Along the entries: each of them costs one request, and what follows is the same for those behind it.
  induction entries generalizing trace infos with
  | nil =>
    obtain ⟨rfl, hresult⟩ := Program.runs_done_iff.mp hruns
    cases hresult
    exact ⟨[], rfl, rfl, rfl⟩
  | cons entry entries ih =>
    rcases runs_fetch_andThen_iff.mp hruns with ⟨cause, -, hresult⟩ | ⟨record, rest, rfl, hrest⟩
    · cases hresult
    · obtain ⟨others, hothers, hresult⟩ := Program.runs_andThen_done_iff.mp hrest
      cases others with
      | error => cases hresult
      | ok others =>
        cases hresult
        obtain ⟨had, rfl, rfl, rfl⟩ := ih hothers
        exact ⟨(entry, record) :: had, rfl, rfl, rfl⟩

/-! ### Every task -/

/-- The list is the one that came first if no other follows. -/
theorem listedIn_cons (entries : List DeviceEntry) (rest : Trace Descriptor)
    (hrest : rest.filterMap Sign.entries? = []) : listedIn (Open.listed entries :: rest) = entries := by
  have hfirst : Sign.entries? (Open.listed entries) = some entries := rfl
  rw [listedIn, List.filterMap_cons_some hfirst, hrest]
  simp

/-- The request that a task starts with fails. -/
theorem Stopped.of_first {sign : Sign Descriptor} {call : DescriptorCall} (noted : List LogEntry)
    (hcall : sign.call? = some call) (hown : ∀ entries, ∃ rest, task.requests entries = call :: rest)
    (hfailed : sign.error? = some error) : Stopped task (Trace.ofLog noted ++ [sign]) error := by
  refine ⟨?_, Trace.ofLog noted, sign, rfl, failed_ofLog noted, hfailed⟩
  obtain ⟨rest, hrest⟩ := hown (listedIn (Trace.ofLog noted ++ [sign]))
  have hcalls : Trace.calls [sign] = [call] := List.filterMap_cons_some hcall
  rw [hrest, Trace.calls_append, Trace.calls_ofLog, hcalls]
  exact ⟨rest, rfl⟩

/-- A record that could not be had is named by the error. -/
theorem error?_fetched (devId : UInt16) (cause : IoError) :
    (fetched devId (.error cause)).error? = some (.control .info devId cause) := by
  simp [fetched, Sign.error?, DescriptorCall.failure?, DescriptorCall.error?, u16At_request]

/-- All records up to some entry were had, and that of the entry was not. -/
theorem Stopped.of_record (had : List (DeviceEntry × Bytes)) (entry : DeviceEntry) (later : List DeviceEntry)
    (cause : IoError) :
    Stopped .devices
      (Open.listed (had.map (·.1) ++ entry :: later) :: (fetchedAll had ++ [fetched entry.devId (.error cause)]))
      (.control .info entry.devId cause) := by
  have hlast : [fetched entry.devId (.error cause)].filterMap Sign.entries? = [] := rfl
  have hrest : (fetchedAll had ++ [fetched entry.devId (.error cause)]).filterMap Sign.entries? = [] := by
    rw [List.filterMap_append, entries_fetchedAll, hlast]
    rfl
  refine ⟨?_, Open.listed _ :: fetchedAll had, fetched entry.devId (.error cause), rfl, failed_fetchedAll had,
    error?_fetched entry.devId cause⟩
  -- What is left of the list is not asked for.
  refine ⟨later.map fun entry => .deviceInfo (DeviceInfo.request entry.devId), ?_⟩
  rw [listedIn_cons _ _ hrest]
  have hasked : Trace.calls [fetched entry.devId (.error cause)] =
      [.deviceInfo (DeviceInfo.request entry.devId)] := rfl
  have hlisted : ∀ rest, Trace.calls (Open.listed (had.map (·.1) ++ entry :: later) :: rest) =
      .listDevices :: Trace.calls rest := fun _ => rfl
  rw [hlisted, Trace.calls_append, calls_fetchedAll, hasked]
  simp [Task.requests]

/-- What fails ends the work on the socket. -/
theorem Task.stopped (task : Task α) (hruns : task.work.Runs own (.error error)) : Stopped task own error := by
  cases task with
  -- The change is logged before it is asked for, and so the failure is not the first that is seen.
  | operate op devId =>
    obtain ⟨answer, rfl, hanswer⟩ := Open.runs_issue_iff.mp hruns
    rcases answer with cause | _
    · cases hanswer
      have hnames : Sign.error? (DescriptorCall.asked (.control op.code devId) (.error cause)) =
          some (.control op devId cause) := by
        simp [Sign.error?, DescriptorCall.failure?, DescriptorCall.error?]
      exact Stopped.of_first [.control devId op] rfl (fun _ => ⟨[], rfl⟩) hnames
    · cases hanswer
  | info devId =>
    obtain ⟨answer, rfl, hanswer⟩ := Program.runs_ask_iff.mp hruns
    rcases answer with cause | record
    · cases hanswer
      exact Stopped.of_first [] rfl (fun _ => ⟨[], rfl⟩) (error?_fetched devId cause)
    · cases hanswer
  | list =>
    obtain ⟨answer, rfl, hanswer⟩ := Program.runs_ask_iff.mp hruns
    rcases answer with cause | entries
    · cases hanswer
      exact Stopped.of_first [] rfl (fun _ => ⟨[], rfl⟩) rfl
    · cases hanswer
  -- Either there is no list, or there is one and the record of some entry is missing.
  | devices =>
    rcases Open.runs_list_andThen hruns with ⟨cause, rfl, hresult⟩ | ⟨entries, rest, rfl, hrest⟩
    · cases hresult
      exact Stopped.of_first [] rfl (fun _ => ⟨_, rfl⟩) rfl
    · obtain ⟨had, entry, later, cause, rfl, rfl, rfl⟩ := unfetched_of_runs hrest
      exact Stopped.of_record had entry later cause

/-- What passes is asked for in full. -/
theorem Task.passed (task : Task α) (hruns : task.work.Runs own (.ok value)) : Passed task own value := by
  cases task with
  | operate op devId =>
    obtain ⟨answer, rfl, hanswer⟩ := Open.runs_issue_iff.mp hruns
    rcases answer with cause | _
    · cases hanswer
    · exact ⟨rfl, rfl, trivial⟩
  | info devId =>
    obtain ⟨answer, rfl, hanswer⟩ := Program.runs_ask_iff.mp hruns
    rcases answer with cause | record
    · cases hanswer
    · cases hanswer
      exact ⟨rfl, rfl, rfl⟩
  | list =>
    obtain ⟨answer, rfl, hanswer⟩ := Program.runs_ask_iff.mp hruns
    rcases answer with cause | entries
    · cases hanswer
    · cases hanswer
      exact ⟨rfl, rfl, listedIn_cons _ [] rfl⟩
  -- Every entry of the list has its record, so the list says what was asked for.
  | devices =>
    rcases Open.runs_list_andThen hruns with ⟨_, -, hresult⟩ | ⟨entries, rest, rfl, hrest⟩
    · cases hresult
    · obtain ⟨had, rfl, rfl, rfl⟩ := fetchedAll_of_runs hrest
      refine ⟨?_, failed_fetchedAll had, ?_⟩
      · rw [listedIn_cons _ _ (entries_fetchedAll had)]
        refine congrArg (DescriptorCall.listDevices :: ·) ?_
        rw [List.map_map]
        exact calls_fetchedAll had
      · have hrecords : recordsIn (Open.listed (had.map (·.1)) :: fetchedAll had) = recordsIn (fetchedAll had) := rfl
        show (recordsIn (Open.listed (had.map (·.1)) :: fetchedAll had)).map DeviceInfo.decode = _
        rw [hrecords, recordsIn_fetchedAll]

/-- Only its own requests are put on the socket. -/
theorem Passed.not_mem (hpassed : Passed task own value) : .create ∉ own.calls ∧ .release ∉ own.calls := by
  rw [hpassed.asked]
  exact task.not_mem_requests _

theorem Stopped.not_mem (hstopped : Stopped task own error) : .create ∉ own.calls ∧ .release ∉ own.calls := by
  obtain ⟨hcreate, hrelease⟩ := task.not_mem_requests (listedIn own)
  exact ⟨fun hmem => hcreate (hstopped.asked.subset hmem), fun hmem => hrelease (hstopped.asked.subset hmem)⟩

/-! ## The socket -/

/-- A socket is asked for. -/
def created (answer : Except IoError Unit) : Sign Descriptor := .asked .create answer

/-- It is given back to the kernel. -/
def released (answer : Except IoError Unit) : Sign Descriptor := .asked .release answer

/-- It is forgotten, whatever became of it. -/
def forgotten : Sign Descriptor := .asked .discard ()

section Calls

variable (answer : Except IoError Unit) (trace : Trace Descriptor)

@[simp] theorem calls_created : Trace.calls (created answer :: trace) = .create :: trace.calls := rfl

@[simp] theorem calls_released : Trace.calls (released answer :: trace) = .release :: trace.calls := rfl

/-- When the work has failed the socket is only forgotten. -/
theorem calls_undone : Trace.calls (trace ++ [forgotten]) = trace.calls ++ [.discard] := Trace.calls_append _ _

/-- When the work has passed the socket is given back first. -/
theorem calls_done : Trace.calls (trace ++ [released answer, forgotten]) = trace.calls ++ [.release, .discard] :=
  Trace.calls_append _ _

end Calls

/-- What can be seen of a control operation, and how it ends. -/
inductive Course (task : Task α) : Trace Descriptor → Except HciError α → Prop where
  | notMade (cause : IoError) : Course task [created (.error cause)] (.error (.socket cause))
  | stopped {own : Trace Descriptor} {error : HciError} (hstopped : Stopped task own error) :
      Course task (created (.ok ()) :: (own ++ [forgotten])) (.error error)
  | notGivenBack {own : Trace Descriptor} {value : α} (cause : IoError) (hpassed : Passed task own value) :
      Course task (created (.ok ()) :: (own ++ [released (.error cause), forgotten])) (.error (.close cause))
  | done {own : Trace Descriptor} {value : α} (hpassed : Passed task own value) :
      Course task (created (.ok ()) :: (own ++ [released (.ok ()), forgotten])) (.ok value)

/-- **Every run takes one of these courses.** -/
theorem course_of_runs (hruns : task.program.Runs trace result) : Course task trace result := by
  rw [task.program_eq] at hruns
  -- The four ways of a socket are the four rows of the table.
  cases onSocket_of_runs hruns with
  | notMade cause => exact .notMade cause
  | undone hwork => exact .stopped (task.stopped hwork)
  | notGivenBack cause hwork => exact .notGivenBack cause (task.passed hwork)
  | done hwork => exact .done (task.passed hwork)

/-- Around the requests of a task nothing is asked for that is not about the socket. -/
theorem mem_calls_around {ending : Trace Descriptor} {closing : List DescriptorCall}
    (hlists : ending.filterMap Sign.entries? = []) (hcalls : Trace.calls (own ++ ending) = own.calls ++ closing)
    (hclosing : closing ⊆ [.release, .discard]) (hown : own.calls ⊆ task.requests (listedIn own))
    {call : DescriptorCall} (hmem : call ∈ Trace.calls (created (.ok ()) :: (own ++ ending))) :
    call ∈ [.create, .release, .discard] ∨
      call ∈ task.requests (listedIn (created (.ok ()) :: (own ++ ending))) := by
  have hlisted : listedIn (created (.ok ()) :: (own ++ ending)) = listedIn own := by
    have hfirst : Sign.entries? (created (.ok ())) = none := rfl
    rw [listedIn, List.filterMap_cons_none hfirst, List.filterMap_append, hlists, List.append_nil, listedIn]
  rw [hlisted]
  rw [calls_created, hcalls, List.mem_cons, List.mem_append] at hmem
  rcases hmem with rfl | hmem | hmem
  · exact .inl List.mem_cons_self
  · exact .inr (hown hmem)
  · exact .inl (List.mem_cons_of_mem _ (hclosing hmem))

namespace Course

/-- Nothing is asked for but what the task is about, and what makes the socket and gives it back. -/
theorem mem_calls (hcourse : Course task trace result) {call : DescriptorCall} (hmem : call ∈ trace.calls) :
    call ∈ [.create, .release, .discard] ∨ call ∈ task.requests (listedIn trace) := by
  cases hcourse with
  | notMade cause => exact .inl (List.mem_of_mem_take (i := 1) hmem)
  | stopped hstopped =>
    exact mem_calls_around rfl (calls_undone _) (List.subset_cons_self _ _) hstopped.asked.subset hmem
  | notGivenBack cause hpassed | done hpassed =>
    exact mem_calls_around rfl (calls_done _ _) (List.Subset.refl _) (fun _ hcall => hpassed.asked ▸ hcall) hmem

/-- The socket is made by the first request, and by no later one. -/
theorem created_once (hcourse : Course task trace result) :
    ∃ answer rest, trace = created answer :: rest ∧ .create ∉ Trace.calls rest := by
  cases hcourse with
  | notMade cause => exact ⟨_, [], rfl, List.not_mem_nil⟩
  | stopped hstopped =>
    refine ⟨_, _, rfl, ?_⟩
    rw [calls_undone]
    simp [hstopped.not_mem.1]
  | notGivenBack cause hpassed | done hpassed =>
    refine ⟨_, _, rfl, ?_⟩
    rw [calls_done]
    simp [hpassed.not_mem.1]

/-- Either the socket is given back, when everything before has passed, or something before has failed. -/
theorem released_or (hcourse : Course task trace result) :
    (∃ own answer, trace = created (.ok ()) :: (own ++ [released answer, forgotten]) ∧ failed own = [] ∧
        .release ∉ Trace.calls own) ∨
      .release ∉ trace.calls ∧ ∃ sign ∈ failed trace, sign.call? ≠ some .release := by
  cases hcourse with
  | notMade cause =>
    refine .inr ⟨by simp, created (.error cause), List.mem_singleton_self _, ?_⟩
    intro hcall
    cases hcall
  | @stopped own error hstopped =>
    refine .inr ⟨?_, ?_⟩
    · rw [calls_created, calls_undone]
      simp [hstopped.not_mem.2]
    · obtain ⟨before, sign, rfl, -, hnames⟩ := hstopped.last_failed
      -- An error names a request that has failed.
      have hfailed : ∃ cause, sign.failure? = some cause := by
        cases sign with
        | said => cases hnames
        | asked call answer =>
          obtain ⟨cause, hcause, -⟩ := Option.bind_eq_some_iff.mp hnames
          exact ⟨cause, hcause⟩
      refine ⟨sign, mem_failed.mpr ⟨by simp, hfailed⟩, ?_⟩
      intro hcall
      exact hstopped.not_mem.2 (List.mem_filterMap.mpr ⟨sign, by simp, hcall⟩)
  | notGivenBack cause hpassed => exact .inl ⟨_, _, rfl, hpassed.none_failed, hpassed.not_mem.2⟩
  | done hpassed => exact .inl ⟨_, _, rfl, hpassed.none_failed, hpassed.not_mem.2⟩

/-- The socket is given back exactly if nothing else has failed. -/
theorem released_iff (hcourse : Course task trace result) :
    .release ∈ trace.calls ↔ ∀ sign ∈ failed trace, sign.call? = some .release := by
  rcases hcourse.released_or with ⟨own, answer, rfl, hnone, -⟩ | ⟨hkept, sign, hmem, hother⟩
  · refine iff_of_true ?_ ?_
    · exact List.mem_filterMap.mpr ⟨released answer, by simp, rfl⟩
    · intro sign hmem
      -- Around the work there is one request that can have failed here: the one that gives the socket back.
      have hsplit : failed (created (.ok ()) :: (own ++ [released answer, forgotten])) = failed [released answer] := by
        rw [failed_passed rfl, failed_append, hnone]
        cases answer <;> rfl
      rw [hsplit] at hmem
      obtain rfl := List.mem_singleton.mp (mem_failed.mp hmem).1
      rfl
  · exact iff_of_false hkept fun hall => hother (hall sign hmem)

/-- There is one place in a trace where the socket is given back. -/
theorem released_last (hcourse : Course task trace result) {before after : Trace Descriptor}
    {answer : Except IoError Unit} (htrace : trace = before ++ released answer :: after) :
    failed before = [] ∧ .release ∉ before.calls ∧ after = [forgotten] := by
  have hasked : .release ∈ trace.calls := by
    rw [htrace]
    exact List.mem_filterMap.mpr ⟨released answer, by simp, rfl⟩
  rcases hcourse.released_or with ⟨own, given, hshown, hnone, hnot⟩ | ⟨hkept, -⟩
  -- The trace is split twice in front of a request of this kind, and a trace has one of them.
  · have hfirst : .release ∉ Trace.calls (created (.ok ()) :: own) := by simp [hnot]
    rw [hshown, ← List.cons_append] at htrace
    rcases List.append_eq_append_iff.mp htrace with ⟨more, rfl, hrest⟩ | ⟨more, hown, hrest⟩
    · cases more with
      | nil =>
        rw [List.append_nil]
        obtain ⟨-, rfl⟩ := List.cons.inj hrest
        exact ⟨hnone, hfirst, rfl⟩
      | cons sign more =>
        -- After the first place the socket is only forgotten.
        obtain ⟨-, hrest⟩ := List.cons.inj hrest
        have hmem : released answer ∈ [forgotten] := by
          rw [hrest]
          simp
        cases List.mem_singleton.mp hmem
    · cases more with
      | nil =>
        rw [List.append_nil] at hown
        subst hown
        obtain ⟨-, rfl⟩ := List.cons.inj hrest
        exact ⟨hnone, hfirst, rfl⟩
      | cons sign more =>
        -- Before it nobody gives the socket back.
        obtain ⟨rfl, -⟩ := List.cons.inj hrest
        refine absurd ?_ hfirst
        rw [hown, Trace.calls_append, calls_released]
        exact List.mem_append_right _ List.mem_cons_self
  · exact absurd hasked hkept

end Course

/-! ## The main result -/

/-- The protocol of a control operation. -/
structure FollowsProtocol (task : Task α) (trace : Trace Descriptor) (result : Except HciError α) : Prop where
  /-- It takes one of the courses of the table. -/
  course : Course task trace result
  /-- A socket is asked for first of all, and once. -/
  created_once : ∃ answer rest, trace = created answer :: rest ∧ .create ∉ Trace.calls rest
  /-- The socket is given back unless another request has failed. -/
  released_iff : .release ∈ trace.calls ↔ ∀ sign ∈ failed trace, sign.call? = some .release
  /-- Where it is given back nothing has failed so far, it was not given back before, and all that comes after is
  that it is forgotten. -/
  released_last : ∀ before answer after, trace = before ++ released answer :: after →
    failed before = [] ∧ .release ∉ before.calls ∧ after = [forgotten]
  /-- The operation fails with the one request that fails, and succeeds if there is none. -/
  answered : Answered trace result

/-- **A control operation follows one protocol, whatever fails of it.** -/
theorem followsProtocol (hruns : task.program.Runs trace result) : FollowsProtocol task trace result where
  course := course_of_runs hruns
  created_once := (course_of_runs hruns).created_once
  released_iff := (course_of_runs hruns).released_iff
  released_last := fun _ _ _ => (course_of_runs hruns).released_last
  answered := by
    rw [task.program_eq] at hruns
    exact answersFor_withSocket task.answersFor_work _ _ hruns

/-- Three controllers are listed, and the second has gone before its record is asked for. -/
def gone : (call : DescriptorCall) → call.Answer
  | .create | .release | .control _ _ | .bindUserChannel _ => (.ok () : Except IoError Unit)
  | .deviceInfo record =>
    (if Bytes.u16At record 0 = 4 then .error (.system 19) else .ok record : Except IoError Bytes)
  | .listDevices => (.ok [⟨2, 0⟩, ⟨4, 0⟩, ⟨7, 0⟩] : Except IoError (List DeviceEntry))
  | .pollReadable _ => (.ok false : Except IoError Bool)
  | .read _ => (⟨[], .ok 0⟩ : Receipt IoError)
  | .write frame => (.ok frame.length : Except IoError Nat)
  | .discard => ()

/-- The record of the first is lost with it, the third is not asked for, and the socket is not given back. -/
theorem followsProtocol_gone :
    devices.Runs (devices.follow gone).1 (.error (.control .info 4 (.system 19))) ∧
      (devices.follow gone).1.calls = [.create, .listDevices, .deviceInfo (DeviceInfo.request 2),
        .deviceInfo (DeviceInfo.request 4), .discard] ∧
      FollowsProtocol .devices (devices.follow gone).1 (.error (.control .info 4 (.system 19))) := by
  have hruns : devices.Runs (devices.follow gone).1 (.error (.control .info 4 (.system 19))) :=
    Program.runs_follow gone devices
  exact ⟨hruns, rfl, followsProtocol hruns⟩

end Control

end HciTransport
