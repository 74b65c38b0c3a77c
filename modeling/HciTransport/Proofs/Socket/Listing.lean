import HciTransport.Proofs.Control.Protocol

/-!
# The slots of a list that count

The kernel reports the controllers in a record of sixteen slots, beside a count that it may set to anything. The
slots beyond the count hold whatever was left there. Two answers with the same count and the same slots up to it are
the same report (`KernelCall.SameReport`), and a raw socket makes the same of both: what is run on it is `Heedless`,
so two kernels that only differ in what is left over see the same calls (`Heedless.play_congr`).

It remains to see which controllers the calls are on. Whoever wants the list, or the records of all controllers, or
any controller opened, asks about none that the kernel has not listed (`ListedOnly`), and so no call is on a
controller outside a report (`usesReported`).
-/

namespace HciTransport

open RawSocket

variable {α β : Type} {p : Program Kernel α} {socket socket' : RawSocket} {asked : Trace Descriptor}
  {made : Trace Kernel} {entries : List DeviceEntry} {devId : UInt16}

/-! ## What is left over -/

namespace KernelCall

/-- The answers are equal, or they are reports with the same count and the same slots up to it. -/
def SameReport : (call : KernelCall) → (answer other : call.Answer) → Prop
  | .deviceList _ _ _, (status, report), (otherStatus, otherReport) =>
    status = otherStatus ∧ report.number = otherReport.number ∧
      ∀ k < min report.number.toNat maxDevices, report.slots[k]? = otherReport.slots[k]?
  | .socket _ _ _, answer, other | .control _ _ _, answer, other | .deviceInfo _ _ _, answer, other
  | .bind _ _, answer, other | .poll _ _ _ _, answer, other | .read _ _, answer, other
  | .write _ _, answer, other | .close _, answer, other => answer = other

end KernelCall

/-- The two kernels give the same reports, and are alike in everything else. -/
def ReportAlike (kernel other : Environment Kernel) : Prop :=
  ∀ (before : List KernelCall) (call : KernelCall), call.SameReport (kernel before call) (other before call)

/-- The program goes on alike with two answers that are the same report. -/
inductive Heedless : Program Kernel α → Prop where
  | done (value : α) : Heedless (.done value)
  | emit {event : Event} {rest : Program Kernel α} (hrest : Heedless rest) : Heedless (.emit event rest)
  | call {call : KernelCall} {next : call.Answer → Program Kernel α}
      (hsame : ∀ answer other, call.SameReport answer other → next answer = next other)
      (hnext : ∀ answer, Heedless (next answer)) : Heedless (.call call next)

/-- What follows may look at the value, as the value does not depend on what is left over. -/
theorem Heedless.bind {f : α → Program Kernel β} (hp : Heedless p) (hf : ∀ value, Heedless (f value)) :
    Heedless (p.bind f) := by
  induction hp with
  | done value => exact hf value
  | emit hrest ih => exact .emit ih
  | call hsame hnext ih =>
    refine .call (fun answer other hreport => ?_) ih
    rw [hsame answer other hreport]

/-- **Two kernels that give the same reports see the same calls**, and the program ends alike. -/
theorem Heedless.play_congr {kernel other : Environment Kernel} (hp : Heedless p) (halike : ReportAlike kernel other)
    (before : List KernelCall) :
    (p.play kernel before).1.calls = (p.play other before).1.calls ∧
      (p.play kernel before).2 = (p.play other before).2 := by
  induction hp generalizing before with
  | done value => exact ⟨rfl, rfl⟩
  | emit hrest ih => exact ih before
  | @call call next hsame hnext ih =>
    -- The answers may differ, but not what the program makes of them; and both kernels know the same calls then.
    have hnextSame : next (other before call) = next (kernel before call) :=
      (hsame _ _ (halike before call)).symm
    obtain ⟨hcalls, hvalue⟩ := ih (kernel before call) (before ++ [call])
    simp only [Program.play, Trace.calls_asked, hnextSame]
    exact ⟨congrArg (call :: ·) hcalls, hvalue⟩

/-! ### On a raw socket -/

/-- One call, whose answer is looked at as far as it is a report. -/
theorem heedless_once {call : KernelCall} {next : call.Answer → α}
    (hsame : ∀ answer other, call.SameReport answer other → next answer = next other) :
    Heedless (.call call fun answer => .done (next answer)) :=
  .call (fun answer other hreport => congrArg _ (hsame answer other hreport)) fun _ => .done _

theorem heedless_giveBack (socket : RawSocket) : Heedless socket.giveBack := by
  rw [giveBack]
  split
  · exact .done _
  · exact heedless_once fun _ _ hsame => hsame ▸ rfl

/-- No request looks further into a list than the count goes. -/
theorem heedless_answer (socket : RawSocket) (request : DescriptorCall) : Heedless (socket.answer request) := by
  cases request with
  -- The call for a socket decides which socket the rest has, so it is followed by a program of its own.
  | create =>
    refine .call (fun _ _ hsame => hsame ▸ rfl) fun status => ?_
    cases hmade : Status.unlessNegative status () with
    | error cause => exact .done _
    | ok _ => exact .done _
  | deviceInfo record =>
    rw [answer]
    split
    · exact .done _
    · exact heedless_once fun _ _ hsame => hsame ▸ rfl
  | listDevices =>
    refine heedless_once ?_
    rintro ⟨status, report⟩ ⟨_, other⟩ ⟨rfl, hnumber, hslots⟩
    -- Only here the two answers may differ: the list ends at the count.
    rw [DeviceListRequest.entries_congr hnumber hslots]
  | control | bindUserChannel | pollReadable | read | write =>
    exact heedless_once fun _ _ hsame => hsame ▸ rfl
  | release => exact heedless_giveBack socket
  | discard => exact (heedless_giveBack socket).bind fun _ => .done _

/-- **Nothing that is run on a raw socket depends on what is left over in a list.** -/
theorem heedless_lower (p : Program Descriptor α) (socket : RawSocket) : Heedless (lower p socket) := by
  -- The socket changes with each request, so the induction is for all of them.
  induction p generalizing socket with
  | done value => exact .done _
  | emit event rest ih => exact .emit (ih socket)
  | call request next ih => exact (heedless_answer socket request).bind fun ⟨socket, got⟩ => ih got socket

/-! ## Controllers that are asked about -/

/-- Every request that names a controller names one that the kernel has listed. -/
def ListedOnly (asked : Trace Descriptor) : Prop :=
  ∀ call ∈ asked.calls, ∀ devId, DescriptorCall.controller? call = some devId →
    ∃ entries, Open.listed entries ∈ asked ∧ devId ∈ entries.map (·.devId)

namespace Control

theorem listed_of_entries? {sign : Sign Descriptor} (hentries : sign.entries? = some entries) :
    sign = Open.listed entries := by
  unfold Sign.entries? at hentries
  split at hentries
  · cases hentries
    rfl
  · cases hentries

/-- A control operation asks about listed controllers if its requests do. -/
theorem listedOnly_of_course {task : Task α} {result : Except HciError α} (hcourse : Course task asked result)
    (hnamed : ∀ entries, ∀ call ∈ task.requests entries, ∀ devId, DescriptorCall.controller? call = some devId →
      devId ∈ entries.map (·.devId)) : ListedOnly asked := by
  intro call hmem devId hcall
  rcases hcourse.mem_calls hmem with haround | hown
  · -- What is about the socket names no controller.
    simp only [List.mem_cons, List.not_mem_nil, or_false] at haround
    rcases haround with rfl | rfl | rfl <;> cases hcall
  -- The entries of a trace are those of its lists, so one of these has the controller.
  · obtain ⟨entry, hentry, rfl⟩ := List.mem_map.mp (hnamed _ call hown devId hcall)
    obtain ⟨entries, hentries, hmem⟩ := List.mem_flatten.mp hentry
    obtain ⟨sign, hsign, hlisted⟩ := List.mem_filterMap.mp hentries
    rw [listed_of_entries? hlisted] at hsign
    exact ⟨entries, hsign, List.mem_map_of_mem hmem⟩

theorem listedOnly_list {result : Except HciError (List DeviceEntry)} (hruns : list.Runs asked result) :
    ListedOnly asked := by
  have hcourse : Course .list asked result := course_of_runs hruns
  refine listedOnly_of_course hcourse ?_
  intro entries call hmem devId hnamed
  cases List.mem_singleton.mp hmem
  cases hnamed

theorem listedOnly_devices {result : Except HciError (List DeviceInfo)} (hruns : devices.Runs asked result) :
    ListedOnly asked := by
  have hcourse : Course .devices asked result := course_of_runs hruns
  refine listedOnly_of_course hcourse ?_
  intro entries call hmem devId hnamed
  rcases List.mem_cons.mp hmem with rfl | hmem
  · cases hnamed
  · obtain ⟨entry, hentry, rfl⟩ := List.mem_map.mp hmem
    cases hnamed
    rw [u16At_request]
    exact List.mem_map_of_mem hentry

end Control

namespace Open

variable {config : OpenConfig} {result : Except HciError UInt16}

/-- Among all controllers those are tried that the list has. -/
theorem listedOnly_select (hruns : (select .any config).Runs asked result) : ListedOnly asked := by
  intro call hmem devId hnamed
  rcases selectAny_cases hruns with ⟨cause, rfl, -⟩ | ⟨entries, rest, rfl, hprobed⟩
  · cases List.mem_singleton.mp hmem
    cases hnamed
  · rcases List.mem_cons.mp hmem with rfl | hmem
    · cases hnamed
    · refine ⟨entries, List.mem_cons_self, ?_⟩
      exact (perm_candidates entries).mem_iff.mp (hprobed.mem_ids hmem hnamed)

/-- Opening any controller adds no others: it binds the one that was chosen. -/
theorem listedOnly_channel (hruns : (channel .any config).Runs asked result) : ListedOnly asked := by
  intro call hmem devId hnamed
  -- The bind comes last, and its controller is the one that the selection ended with.
  cases opened_of_runs hruns with
  | notMade cause =>
    cases List.mem_singleton.mp hmem
    cases hnamed
  | refused htried =>
    rw [← List.cons_append, Trace.calls_append] at hmem
    rcases List.mem_append.mp hmem with hmem | hmem
    · rcases List.mem_cons.mp hmem with rfl | hmem
      · cases hnamed
      · obtain ⟨entries, hentries, hdevId⟩ := listedOnly_select htried call hmem devId hnamed
        exact ⟨entries, List.mem_cons_of_mem _ (List.mem_append_left _ hentries), hdevId⟩
    · cases List.mem_singleton.mp hmem
      cases hnamed
  | bound htried =>
    rcases List.mem_cons.mp hmem with rfl | hmem
    · cases hnamed
    · obtain ⟨entries, hentries, hdevId⟩ := listedOnly_select htried call hmem _ hnamed
      exact ⟨entries, List.mem_cons_of_mem _ hentries, hdevId⟩

end Open

/-! ## Calls on controllers -/

namespace KernelCall

/-- The call is on one of these controllers, or on none. -/
def Within (ids : UInt16 → Prop) : KernelCall → Prop
  | .control _ _ arg => ∃ devId, ids devId ∧ arg = devId.toUInt64
  | .deviceInfo _ _ record => ids (Bytes.u16At record 0)
  | .bind _ bytes => ∃ devId, ids devId ∧ bytes = address devId
  | .socket _ _ _ | .deviceList _ _ _ | .poll _ _ _ _ | .read _ _ | .write _ _ | .close _ => True

end KernelCall

/-- The kernel has reported the controller, in one of the slots that count. -/
def InReport (made : Trace Kernel) (devId : UInt16) : Prop :=
  ∃ (fd : Int) (code : ControlCode) (request : DeviceListRequest) (status : Status) (report : DeviceListRequest),
    .asked (.deviceList fd code request) (status, report) ∈ made ∧ status.ret ≠ -1 ∧
      ∃ k < min report.number.toNat maxDevices, ∃ entry, report.slots[k]? = some entry ∧ entry.devId = devId

/-- What a raw socket makes of the kernel's answer to a request for the list. -/
inductive Listing (socket : RawSocket) : Trace Kernel → Except IoError (List DeviceEntry) → Prop where
  | refused (status : Status) (report : DeviceListRequest) (hfailed : status.ret = -1) :
      Listing socket [.asked (.deviceList socket.fd .deviceList .offer) (status, report)]
        (.error (.system status.errno))
  /-- The entries are the slots that count, each in its place. -/
  | filled (status : Status) (report : DeviceListRequest) (entries : List DeviceEntry) (hpassed : status.ret ≠ -1)
      (hentries : ∀ k, entries[k]? = if k < min report.number.toNat maxDevices then report.slots[k]? else none) :
      Listing socket [.asked (.deviceList socket.fd .deviceList .offer) (status, report)] (.ok entries)

/-- A raw socket answers a request for the list from the slots that count. -/
theorem runs_listDevices_iff {got : Except IoError (List DeviceEntry)} :
    (socket.answer .listDevices).Runs made (socket', got) ↔ socket' = socket ∧ Listing socket made got := by
  constructor
  · intro hruns
    obtain ⟨⟨status, report⟩, rfl, hended⟩ := Program.runs_ask_iff.mp hruns
    cases hended
    refine ⟨rfl, ?_⟩
    dsimp only
    rw [Status.unlessMinusOne]
    split
    · next hfailed => exact .refused status report hfailed
    · next hpassed => exact .filled status report _ hpassed report.getElem?_entries
  · rintro ⟨rfl, hlisting⟩
    cases hlisting with
    | refused status report hfailed =>
      refine Program.runs_ask_iff.mpr ⟨(status, report), rfl, ?_⟩
      dsimp only
      rw [Status.unlessMinusOne, if_pos hfailed]
    | filled status report entries hpassed hentries =>
      -- A list is what stands in its places.
      have hexact : entries = report.entries := List.ext_getElem? fun k => by
        rw [hentries, report.getElem?_entries]
      refine Program.runs_ask_iff.mpr ⟨(status, report), rfl, ?_⟩
      dsimp only
      rw [Status.unlessMinusOne, if_neg hpassed, hexact]

/-- What is listed was reported. -/
theorem inReport_of_listed (hserved : Served socket asked made socket') (hlisted : Open.listed entries ∈ asked)
    (hdevId : devId ∈ entries.map (·.devId)) : InReport made devId := by
  obtain ⟨before, between, own, hruns, hown⟩ := hserved.answer_of_mem hlisted
  obtain ⟨-, hlisting⟩ := runs_listDevices_iff.mp hruns
  cases hlisting with
  | filled status report _ hpassed hentries =>
    obtain ⟨entry, hentry, rfl⟩ := List.mem_map.mp hdevId
    obtain ⟨k, hk⟩ := List.getElem?_of_mem hentry
    -- An entry has its place in the list, and so in the slots that count.
    rw [hentries] at hk
    split at hk
    · next hcounts =>
      exact ⟨_, _, _, status, report, hown _ List.mem_cons_self, hpassed, k, hcounts, entry, hk, rfl⟩
    · cases hk

theorem u16At_take (record : Bytes) : Bytes.u16At (record.take Layout.size) 0 = Bytes.u16At record 0 := by
  simp [Bytes.u16At, Bytes.byteAt, Layout.size]

/-- What serves a request is on the controller that the request names. -/
theorem within_of_serves {ids : UInt16 → Prop} {call : KernelCall} {request : DescriptorCall}
    (hserves : call.Serves request) (hnamed : ∀ devId, request.controller? = some devId → ids devId) :
    call.Within ids := by
  -- A call carries the controller in its own way: as an argument, in a record or in an address.
  cases call with
  | control fd code arg =>
    cases request with
    | control asked devId => exact ⟨devId, hnamed devId rfl, hserves.2⟩
    | _ => cases hserves
  | deviceInfo fd code record =>
    cases request with
    | deviceInfo asked =>
      obtain rfl : record = asked.take Layout.size := hserves
      show ids (Bytes.u16At (asked.take Layout.size) 0)
      rw [u16At_take]
      exact hnamed _ rfl
    | _ => cases hserves
  | bind fd bytes =>
    cases request with
    | bindUserChannel devId => exact ⟨devId, hnamed devId rfl, hserves⟩
    | _ => cases hserves
  | socket | deviceList | poll | read | write | close => trivial

/-- Whoever asks about listed controllers calls on reported ones. -/
theorem within_of_listedOnly {p : Program Descriptor α} {value : α}
    (hlisted : ∀ {asked : Trace Descriptor}, p.Runs asked value → ListedOnly asked)
    (hruns : (lower p socket).Runs made (socket', value)) {call : KernelCall} (hmem : call ∈ made.calls) :
    call.Within (InReport made) := by
  obtain ⟨asked, hasked, hserved⟩ := runs_lower_iff.mp hruns
  obtain ⟨request, hrequest, hserves⟩ := hserved.mem_calls hmem
  refine within_of_serves hserves fun devId hnamed => ?_
  obtain ⟨entries, hentries, hdevId⟩ := hlisted hasked request hrequest devId hnamed
  exact inReport_of_listed hserved hentries hdevId

/-! ## The main result -/

/-- What a program over the kernel makes of reports. -/
structure UsesReported (p : Program Kernel α) : Prop where
  /-- Two kernels that give the same reports see the same calls, and the program ends alike. -/
  alike : ∀ kernel other : Environment Kernel, ReportAlike kernel other →
    (p.play kernel []).1.calls = (p.play other []).1.calls ∧ (p.play kernel []).2 = (p.play other []).2
  /-- No call is on a controller that the kernel has not reported. -/
  within : ∀ made value, p.Runs made value → ∀ call ∈ made.calls, KernelCall.Within (InReport made) call

/-- On a raw socket only reports count for who goes by the list. -/
theorem usesReported_lower {p : Program Descriptor α}
    (hlisted : ∀ {asked : Trace Descriptor} {value : α}, p.Runs asked value → ListedOnly asked) :
    UsesReported (lower p .absent) where
  alike _ _ halike := (heedless_lower p .absent).play_congr halike []
  within _ _ hruns _ hmem := within_of_listedOnly hlisted hruns hmem

/-- **Of a list of controllers only what the kernel reports is used**: the list itself holds the slots that count,
in their order, and whoever goes by the list goes by nothing else. -/
theorem usesReported (config : OpenConfig) :
    (∀ (socket socket' : RawSocket) (made : Trace Kernel) (got : Except IoError (List DeviceEntry)),
      (socket.answer .listDevices).Runs made (socket', got) ↔ socket' = socket ∧ Listing socket made got) ∧
      UsesReported (lower Control.list .absent) ∧ UsesReported (lower Control.devices .absent) ∧
      UsesReported (lower (Open.channel .any config) .absent) :=
  ⟨fun _ _ _ _ => runs_listDevices_iff, usesReported_lower Control.listedOnly_list,
    usesReported_lower Control.listedOnly_devices, usesReported_lower Open.listedOnly_channel⟩

/-- A kernel that reports two controllers, with some slots left over. -/
def reportsTwo (leftOver : List DeviceEntry) : Environment Kernel := fun _ call =>
  match call with
  | .socket _ _ _ => (⟨3, 0⟩ : Status)
  | .deviceInfo _ _ record => ((⟨0, 0⟩, record) : Status × Bytes)
  | .deviceList _ _ _ => ((⟨0, 0⟩, ⟨2, [⟨7, 0⟩, ⟨4, 0⟩] ++ leftOver⟩) : Status × DeviceListRequest)
  | .poll _ _ _ _ => ((⟨0, 0⟩, 0) : Status × Int)
  | .read _ _ => ((⟨0, 0⟩, []) : Status × Bytes)
  | .control _ _ _ | .bind _ _ | .write _ _ | .close _ => (⟨0, 0⟩ : Status)

/-- A controller that is left over from earlier is not asked about. -/
theorem usesReported_leftOver :
    ReportAlike (reportsTwo [⟨99, 1⟩]) (reportsTwo []) ∧
      ((lower Control.devices .absent).play (reportsTwo [⟨99, 1⟩]) []).1.calls =
        [.socket bluetoothFamily rawSocketType hciProtocol, .deviceList 3 .deviceList .offer,
          .deviceInfo 3 .deviceInfo (DeviceInfo.request 7), .deviceInfo 3 .deviceInfo (DeviceInfo.request 4),
          .close 3] ∧
      ((lower Control.devices .absent).play (reportsTwo [⟨99, 1⟩]) []).1.calls =
        ((lower Control.devices .absent).play (reportsTwo []) []).1.calls ∧
      ∀ call ∈ ((lower Control.devices .absent).play (reportsTwo [⟨99, 1⟩]) []).1.calls,
        KernelCall.Within (InReport ((lower Control.devices .absent).play (reportsTwo [⟨99, 1⟩]) []).1) call := by
  have halike : ReportAlike (reportsTwo [⟨99, 1⟩]) (reportsTwo []) := by
    intro before call
    cases call with
    | deviceList =>
      refine ⟨rfl, rfl, fun k hcounts => ?_⟩
      -- Two slots count, and both kernels have filled them alike.
      have hearly : k < 2 := Nat.lt_of_lt_of_le hcounts (by decide)
      exact (List.getElem?_append_left hearly).trans (List.getElem?_append_left hearly).symm
    | _ => rfl
  have hdevices := (usesReported .standard).2.2.1
  have hruns := Program.runs_play (reportsTwo [⟨99, 1⟩]) [] (lower Control.devices .absent)
  exact ⟨halike, rfl, (hdevices.alike _ _ halike).1, hdevices.within _ _ hruns⟩

end HciTransport
