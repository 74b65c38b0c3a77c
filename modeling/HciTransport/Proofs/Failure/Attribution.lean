import HciTransport.Proofs.Failure.Blame

/-!
# Which request an error is about

The error that an operation returns names the request that has failed it, wraps what that request has failed
with, and belongs to the controller that the request was made for. Which errors belong to a controller depends
on the operation, and `Belongs` lists them: where any controller will do there are none, and only the bind of
a controller that was asked for can tell that it is busy.
-/

namespace HciTransport

variable {operation : Operation} {trace : Trace Descriptor} {error : HciError} {cause : IoError}
  {sign : Sign Descriptor} {devId : UInt16} {α : Type}

/-! ## What an error names -/

/-- The controller that is named in what is asked for. -/
def Sign.controller? (sign : Sign Descriptor) : Option UInt16 := sign.call?.bind DescriptorCall.controller?

/-- An error belongs to the controller that its request names. -/
theorem devId?_of_error? (hnames : sign.error? = some error) : error.devId? = sign.controller? := by
  cases sign with
  | said => cases hnames
  | asked call answer =>
    obtain ⟨cause, -, hnames⟩ := Option.bind_eq_some_iff.mp hnames
    cases call with
    | control code devId =>
      obtain ⟨op, -, rfl⟩ := Option.map_eq_some_iff.mp hnames
      rfl
    | pollReadable | discard => cases hnames
    | _ =>
      cases hnames
      rfl

/-- A refused bind is the only request that is named so. -/
theorem eq_denied_of_error? (hnames : sign.error? = some (.bind devId cause)) : sign = Open.denied devId cause := by
  cases sign with
  | said => cases hnames
  | asked call answer =>
    obtain ⟨failure, hfailure, hnames⟩ := Option.bind_eq_some_iff.mp hnames
    cases call with
    | control code devId =>
      obtain ⟨op, -, herror⟩ := Option.map_eq_some_iff.mp hnames
      cases herror
    | bindUserChannel devId =>
      rcases answer with refusal | _
      · cases hfailure
        cases hnames
        rfl
      · cases hfailure
    | _ => cases hnames

/-- Where any controller will do no controller fails the operation. -/
theorem Operation.controller?_of_mem_culprits {config : OpenConfig}
    (hmem : sign ∈ (Operation.open .any config).culprits trace) :
    sign.controller? = none := by
  obtain ⟨-, hover⟩ := List.mem_filter.mp hmem
  cases sign with
  | said => rfl
  | asked call answer =>
    cases call with
    | control | deviceInfo | bindUserChannel => cases hover
    | _ => rfl

/-! ## The controller that an error belongs to -/

/-- The errors of each operation that belong to a controller. -/
inductive Belongs : Operation → UInt16 → HciError → Prop where
  | operate (op : ControlOp) (devId : UInt16) (cause : IoError) :
      Belongs (.operate op devId) devId (.control op devId cause)
  | info (devId : UInt16) (cause : IoError) : Belongs (.info devId) devId (.control .info devId cause)
  | devices (devId : UInt16) (cause : IoError) : Belongs .devices devId (.control .info devId cause)
  | cycle {op : ControlOp} (hop : op = .down ∨ op = .up) (config : OpenConfig) (devId : UInt16) (cause : IoError) :
      Belongs (.open (.index devId) config) devId (.control op devId cause)
  | bind (config : OpenConfig) (devId : UInt16) (cause : IoError) :
      Belongs (.open (.index devId) config) devId (.bind devId cause)

namespace Control

/-- An error that belongs to a controller comes of the work on a socket, and not of making the socket or of
giving it back. -/
theorem OnSocket.inside {work : Attempt α} (honSocket : OnSocket work trace (.error error))
    (hbelongs : error.devId? = some devId) :
    ∃ shown, trace = .asked .create (.ok () : Except IoError Unit) :: (shown ++ [.asked .discard ()]) ∧
      work.Runs shown (.error error) := by
  cases honSocket with
  | notMade | notGivenBack => cases hbelongs
  | undone hwork => exact ⟨_, rfl, hwork⟩

/-- What is seen when a controller is asked for its record. -/
def fetched (devId : UInt16) (answer : Except IoError Bytes) : Sign Descriptor :=
  .asked (.deviceInfo (DeviceInfo.request devId)) answer

/-- A record that cannot be had ends an attempt, and one that can be had is read. -/
theorem runs_fetch_andThen_iff {next : DeviceInfo → Attempt α} {outcome : Except HciError α} :
    ((fetchInfo devId).andThen next).Runs trace outcome ↔
      (∃ cause, trace = [fetched devId (.error cause)] ∧ outcome = .error (.control .info devId cause)) ∨
        ∃ record rest, trace = fetched devId (.ok record) :: rest ∧
          (next (DeviceInfo.decode record)).Runs rest outcome := by
  rw [Program.runs_andThen_iff]
  constructor
  · rintro (⟨error, rfl, hfirst⟩ | ⟨_, after, info, rfl, hfirst, hnext⟩)
    · obtain ⟨answer, rfl, hanswer⟩ := Program.runs_ask_iff.mp hfirst
      rcases answer with cause | record
      · cases hanswer
        exact .inl ⟨cause, rfl, rfl⟩
      · cases hanswer
    · obtain ⟨answer, rfl, hanswer⟩ := Program.runs_ask_iff.mp hfirst
      rcases answer with cause | record
      · cases hanswer
      · cases hanswer
        exact .inr ⟨record, after, rfl, hnext⟩
  · rintro (⟨cause, rfl, rfl⟩ | ⟨record, rest, rfl, hnext⟩)
    · exact .inl ⟨_, rfl, Program.runs_ask_iff.mpr ⟨.error cause, rfl, rfl⟩⟩
    · exact .inr ⟨[fetched devId (.ok record)], rest, _, rfl, Program.runs_ask_iff.mpr ⟨.ok record, rfl, rfl⟩, hnext⟩

/-- The controllers of a list are asked for their records in turn, up to the first that gives none. -/
inductive Unfetched (entries : List DeviceEntry) (trace : Trace Descriptor) (error : HciError) : Prop where
  | intro (had : List (DeviceEntry × Bytes)) (entry : DeviceEntry) (later : List DeviceEntry) (cause : IoError)
      (hentries : entries = had.map (·.1) ++ entry :: later) (herror : error = .control .info entry.devId cause)
      (htrace : trace =
        had.map (fun (earlier, record) => fetched earlier.devId (.ok record)) ++ [fetched entry.devId (.error cause)])

/-- Where records cannot be had, the first of these is named. -/
theorem unfetched_of_runs {entries : List DeviceEntry} (hruns : (fetchInfos entries).Runs trace (.error error)) :
    Unfetched entries trace error := by
  -- Along the entries: either this one gives no record, or it has one and the error comes from behind it.
  induction entries generalizing trace with
  | nil =>
    obtain ⟨-, hresult⟩ := Program.runs_done_iff.mp hruns
    cases hresult
  | cons entry entries ih =>
    rcases runs_fetch_andThen_iff.mp hruns with ⟨cause, rfl, hresult⟩ | ⟨record, rest, rfl, hrest⟩
    · cases hresult
      exact .intro [] entry entries cause rfl rfl rfl
    · obtain ⟨others, hothers, hresult⟩ := Program.runs_andThen_done_iff.mp hrest
      cases others with
      | error =>
        cases hresult
        obtain ⟨had, stuck, later, cause, rfl, rfl, rfl⟩ := ih hothers
        exact .intro ((entry, record) :: had) stuck later cause rfl rfl rfl
      | ok => cases hresult

/-- Where the error of a listing belongs to a controller, its record is the first that could not be had. -/
theorem unfetched_of_devices (hruns : devices.Runs trace (.error error)) (hbelongs : error.devId? = some devId) :
    ∃ entries shown, trace = .asked .create (.ok () : Except IoError Unit) :: Open.listed entries ::
      (shown ++ [.asked .discard ()]) ∧ Unfetched entries shown error := by
  obtain ⟨shown, rfl, hwork⟩ := (onSocket_of_runs hruns).inside hbelongs
  rcases Open.runs_list_andThen hwork with ⟨cause, -, hresult⟩ | ⟨entries, after, rfl, hinfos⟩
  · cases hresult
    cases hbelongs
  · exact ⟨entries, after, rfl, unfetched_of_runs hinfos⟩

end Control

/-- Where one controller was asked for, the error is about one of its hurdles. -/
theorem Open.Opened.belongs {selector : DeviceSelector} {config : OpenConfig}
    (hopened : Opened selector config trace (.error error)) (hbelongs : error.devId? = some devId) :
    Belongs (.open selector config) devId error := by
  cases hopened with
  | notMade => cases hbelongs
  | refused htried =>
    cases selector with
    | index asked =>
      rcases selectIndex_cases htried with ⟨_, hresult, hprepared⟩ | ⟨hresult, -⟩
      · cases hresult
        cases hprepared with
        | notDown | notDownAgain =>
          cases hbelongs
          exact .cycle (.inl rfl) ..
        | notUp =>
          cases hbelongs
          exact .cycle (.inr rfl) ..
        | notBound =>
          cases hbelongs
          exact .bind ..
      · cases hresult
    | any =>
      -- What fails then is the list, or all candidates together.
      rcases selectAny_cases htried with ⟨cause, -, hresult⟩ | ⟨entries, rest, -, hprobed⟩
      · cases hresult
        cases hbelongs
      · cases hprobed with
        | chosen _ _ _ _ _ _ _ _ hresult => cases hresult
        | exhausted _ _ _ _ hresult =>
          cases hresult
          cases hbelongs

/-- What a call on a channel fails with belongs to no controller. -/
theorem Channel.Finished.devId?_eq {asked : Channel.Point}
    (hfinished : Channel.Finished devId asked trace (.error error)) : error.devId? = none := by
  -- The error is named first, since the table speaks of verdicts.
  generalize hverdict : (.error error : Except HciError Unit) = outcome at hfinished
  cases hfinished with
  | read length got =>
    rcases got with _ | ⟨stored, cause | count⟩ <;> cases hverdict
    rfl
  | writeRefused =>
    cases hverdict
    rfl
  | write frame answer =>
    cases answer <;> cases hverdict
    rfl
  | closeAgain => cases hverdict
  | close answer released =>
    rcases released with _ | cause | _ <;> cases hverdict
    rfl

theorem verdict_eq_error {result : Except HciError α} (hverdict : verdict result = .error error) :
    result = .error error := by
  cases result with
  | ok => cases hverdict
  | error =>
    cases hverdict
    rfl

/-- An error of any operation belongs to the controller that the operation is about, or to none. -/
theorem Performed.belongs (hperformed : Performed operation trace (.error error))
    (hbelongs : error.devId? = some devId) : Belongs operation devId error := by
  generalize houtcome : (.error error : Except HciError Unit) = outcome at hperformed
  -- Operation by operation; the errors about the socket belong to no controller and are excluded.
  cases hperformed with
  | operate hruns =>
    cases verdict_eq_error houtcome.symm
    obtain ⟨shown, -, hissue⟩ := (Control.onSocket_of_runs hruns).inside hbelongs
    obtain ⟨answer, -, hanswer⟩ := Open.runs_issue_iff.mp hissue
    cases answer <;> cases hanswer
    cases hbelongs
    exact .operate ..
  | info hruns =>
    cases verdict_eq_error houtcome.symm
    obtain ⟨shown, -, hfetch⟩ := (Control.onSocket_of_runs hruns).inside hbelongs
    obtain ⟨answer, -, hanswer⟩ := Program.runs_ask_iff.mp hfetch
    cases answer <;> cases hanswer
    cases hbelongs
    exact .info ..
  | list hruns =>
    cases verdict_eq_error houtcome.symm
    obtain ⟨shown, -, hlist⟩ := (Control.onSocket_of_runs hruns).inside hbelongs
    obtain ⟨answer, -, hanswer⟩ := Program.runs_ask_iff.mp hlist
    cases answer <;> cases hanswer
    cases hbelongs
  | devices hruns =>
    cases verdict_eq_error houtcome.symm
    obtain ⟨entries, shown, -, had, entry, later, cause, -, rfl, -⟩ := Control.unfetched_of_devices hruns hbelongs
    cases hbelongs
    exact .devices ..
  | «open» hruns =>
    cases verdict_eq_error houtcome.symm
    exact (Open.opened_of_runs hruns).belongs hbelongs
  | call hasked hrun hstarted hover =>
    have hfinished := hrun.finished hstarted hover
    rw [← houtcome] at hfinished
    rw [hfinished.devId?_eq] at hbelongs
    cases hbelongs
  | drop => cases houtcome

/-! ## The main result -/

/-- What an error of an operation is about. -/
structure Attributed (operation : Operation) (trace : Trace Descriptor) (error : HciError) : Prop where
  /-- It names the request that has failed the operation, and only two errors name none. -/
  blames : Blames operation trace (.error error)
  /-- What it wraps is what this request has failed with. -/
  wraps : ∀ cause, error.cause? = some cause ↔ ∃ sign ∈ operation.culprits trace, sign.failure? = some cause
  /-- It belongs to a controller if this request was made for that controller, and never where any controller
  will do. -/
  controller : ∀ devId, error.devId? = some devId ↔
    (∀ config, operation ≠ .open .any config) ∧ ∃ sign ∈ operation.culprits trace, sign.controller? = some devId
  /-- The controller is the one that the operation was asked for, and the request one that the operation makes
  of it. -/
  belongs : ∀ devId, error.devId? = some devId → Belongs operation devId error
  /-- Where all records are wanted it is the controller of the first entry that gives none. -/
  listed : operation = .devices → ∀ devId, error.devId? = some devId →
    ∃ entries shown, trace = .asked .create (.ok () : Except IoError Unit) :: Open.listed entries ::
      (shown ++ [.asked .discard ()]) ∧ Control.Unfetched entries shown error
  /-- A controller is busy if it was asked for and refuses its bind so, and on no other occasion. -/
  busy : error.isBusy = true ↔ ∃ devId config, operation = .open (.index devId) config ∧
    Open.denied devId (.system 16) ∈ operation.culprits trace

namespace Blames

/-- What an error wraps is what the request to blame has failed with. -/
theorem wraps_iff (hblames : Blames operation trace (.error error)) :
    error.cause? = some cause ↔ ∃ sign ∈ operation.culprits trace, sign.failure? = some cause := by
  cases hblames with
  | request sign hone hnames =>
    -- The request to blame is one of those that have failed.
    have hfailed : ∃ failure, sign.failure? = some failure :=
      (mem_failed.mp (List.mem_filter.mp (hone ▸ List.mem_singleton_self sign)).1).2
    obtain ⟨failure, hfailure⟩ := hfailed
    simp [hone, hfailure, cause?_of_error? hfailure hnames]
  | closed hwrite hnothing =>
    subst hnothing
    simp [Operation.culprits, HciError.cause?]
  | candidates hany hnone => simp [hnone, HciError.cause?]

/-- An error belongs to the controller of the request to blame. -/
theorem controller_iff (hblames : Blames operation trace (.error error)) :
    error.devId? = some devId ↔
      (∀ config, operation ≠ .open .any config) ∧ ∃ sign ∈ operation.culprits trace, sign.controller? = some devId := by
  cases hblames with
  | request sign hone hnames =>
    rw [devId?_of_error? hnames]
    constructor
    · intro hown
      have hmem : sign ∈ operation.culprits trace := hone ▸ List.mem_singleton_self sign
      refine ⟨?_, sign, hmem, hown⟩
      rintro config rfl
      rw [Operation.controller?_of_mem_culprits hmem] at hown
      cases hown
    · rintro ⟨-, other, hmem, hown⟩
      rw [hone] at hmem
      rwa [List.mem_singleton.mp hmem] at hown
  | closed hwrite hnothing =>
    subst hnothing
    simp [Operation.culprits, HciError.devId?]
  | candidates hany hnone => simp [hnone, HciError.devId?]

end Blames

/-- Only a refused bind tells that a controller is busy. -/
theorem isBusy_iff : error.isBusy = true ↔ ∃ devId, error = .bind devId (.system 16) := by
  cases error with
  | bind devId cause => cases cause <;> simp [HciError.isBusy, IoError.number?, SystemError.busy]
  | _ => simp [HciError.isBusy]

/-- **An error is about the request that has failed the operation**, and about its controller. -/
theorem attributed (hperformed : Performed operation trace (.error error)) : Attributed operation trace error where
  blames := hperformed.blames
  wraps _ := hperformed.blames.wraps_iff
  controller _ := hperformed.blames.controller_iff
  belongs _ := hperformed.belongs
  listed := by
    rintro rfl devId hbelongs
    generalize houtcome : (.error error : Except HciError Unit) = outcome at hperformed
    cases hperformed with
    -- The one operation on all records is this one.
    | devices hruns =>
      cases verdict_eq_error houtcome.symm
      exact Control.unfetched_of_devices hruns hbelongs
    | call hasked => cases hasked
  busy := by
    rw [isBusy_iff]
    constructor
    · rintro ⟨devId, rfl⟩
      -- A refused bind belongs to a controller, so one was asked for.
      cases hperformed.belongs rfl with
      | bind config =>
        refine ⟨devId, config, rfl, ?_⟩
        cases hperformed.blames with
        | request sign hone hnames =>
          rw [hone, eq_denied_of_error? hnames]
          exact List.mem_singleton_self _
    · rintro ⟨devId, config, rfl, hmem⟩
      cases hperformed.blames with
      | request sign hone hnames =>
        rw [hone] at hmem
        obtain rfl := List.mem_singleton.mp hmem
        cases hnames
        exact ⟨devId, rfl⟩
      | closed hwrite => cases hwrite
      | candidates hany => cases hany

/-- The controller that is asked for is busy, and the error says so. -/
theorem attributed_busy :
    Performed (.open (.index 1) .standard) ((Open.channel (.index 1) .standard).follow Open.busyFirst).1
        (.error (.bind 1 (.system 16))) ∧
      (HciError.bind 1 (.system 16)).isBusy = true ∧
      Attributed (.open (.index 1) .standard) ((Open.channel (.index 1) .standard).follow Open.busyFirst).1
        (.bind 1 (.system 16)) := by
  have hperformed : Performed (.open (.index 1) .standard)
      ((Open.channel (.index 1) .standard).follow Open.busyFirst).1 (.error (.bind 1 (.system 16))) :=
    .open (Program.runs_follow Open.busyFirst (Open.channel (.index 1) .standard))
  exact ⟨hperformed, rfl, attributed hperformed⟩

end HciTransport
