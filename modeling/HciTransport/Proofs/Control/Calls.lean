import HciTransport.Proofs.Control.Records
import HciTransport.Proofs.Socket.Granted

/-!
# The system calls of a control operation

Each request of a control operation is one control call on the number of its socket (`Served.controls`). So the
kernel sees a call for the socket, the control calls up to the first that fails, and a close, or only the first of
these where there is no socket (`Conducted.calls`). The operation has a value exactly if every call has passed, the
close among them (`Conducted.flawless_iff`), and the value is then read from what the kernel has stored
(`Conducted.tells`).
-/

namespace HciTransport

open RawSocket
open DeviceInfo (decode)

variable {socket socket' : RawSocket} {asked own : Trace Descriptor} {made : Trace Kernel} {request : DescriptorCall}
  {got : request.Answer}

/-! ## Control requests -/

namespace DescriptorCall

/-- The control call that puts a request on a number. -/
def control? (fd : Int) : DescriptorCall → Option KernelCall
  | .control code devId => some (.control fd code devId.toUInt64)
  | .deviceInfo record => some (.deviceInfo fd .deviceInfo record)
  | .listDevices => some (.deviceList fd .deviceList .offer)
  | _ => none

/-- The request is put by a control call; a record that comes with it has the size of one. -/
def IsControl : DescriptorCall → Prop
  | .control _ _ | .listDevices => True
  | .deviceInfo record => record.length = Layout.size
  | _ => False

theorem IsControl.shows (hcontrol : request.IsControl) : request.Shows := by
  cases request with
  | control | listDevices => trivial
  | deviceInfo record => exact Nat.le_of_eq hcontrol.symm
  | _ => exact hcontrol.elim

end DescriptorCall

/-- A control request is one call on the number of the socket, which is kept. -/
theorem control_of_answer (hcontrol : request.IsControl) (hruns : (socket.answer request).Runs made (socket', got)) :
    socket' = socket ∧ made.calls = (request.control? socket.fd).toList := by
  cases request with
  | control | listDevices =>
    obtain ⟨answer, rfl, hended⟩ := Program.runs_ask_iff.mp hruns
    cases hended
    exact ⟨rfl, rfl⟩
  | deviceInfo record =>
    have hlength : record.length = Layout.size := hcontrol
    rw [answer, if_neg (Nat.not_lt.mpr hlength.ge), ← hlength, List.take_length] at hruns
    obtain ⟨answer, rfl, hended⟩ := Program.runs_ask_iff.mp hruns
    cases hended
    exact ⟨rfl, rfl⟩
  | _ => exact hcontrol.elim

/-- All control requests are put on the same number, one call for each. -/
theorem Served.controls (hserved : Served socket asked made socket')
    (hcontrol : ∀ call ∈ asked.calls, call.IsControl) :
    socket' = socket ∧ made.calls = asked.calls.filterMap (DescriptorCall.control? socket.fd) := by
  induction hserved with
  | nil => exact ⟨rfl, rfl⟩
  | said event hrest ih => exact ih hcontrol
  | asked hanswer hrest ih =>
    -- The socket is the same after the first request, so the others are put on the same number.
    obtain ⟨rfl, hfirst⟩ := control_of_answer (hcontrol _ List.mem_cons_self) hanswer
    obtain ⟨rfl, hlater⟩ := ih fun call hmem => hcontrol call (List.mem_cons_of_mem _ hmem)
    refine ⟨rfl, ?_⟩
    rw [Trace.calls_append, hfirst, hlater, Trace.calls_asked, List.filterMap_eq_flatMap_toList,
      List.filterMap_eq_flatMap_toList, List.flatMap_cons]

/-- The value of a call does not decide whether it has passed. -/
theorem Status.unlessMinusOne_eq_map (status : Status) {α : Type} (value : α) :
    status.unlessMinusOne value = (status.unlessMinusOne ()).map fun () => value := by
  rw [Status.unlessMinusOne, Status.unlessMinusOne]
  split <;> rfl

namespace Control

variable {α : Type}

namespace Task

/-- The control calls of a task, if the kernel lists these entries. -/
def controls (task : Task α) (fd : Int) (entries : List DeviceEntry) : List KernelCall :=
  (task.requests entries).filterMap (DescriptorCall.control? fd)

/-- The value is what the kernel has stored. -/
def Tells : Task α → (made : Trace Kernel) → (value : α) → Prop
  | .operate _ _, _, _ => True
  | .info devId, made, value => ∃ record, replies made = [(DeviceInfo.request devId, record)] ∧ value = decode record
  | .list, made, value => ∃ report, reports made = [report] ∧ value = report.entries
  | .devices, made, value => ∃ report, reports made = [report] ∧
      (replies made).map (·.1) = report.entries.map (DeviceInfo.request ·.devId) ∧
      value = (replies made).map (decode ·.2)

variable {task : Task α} {result : Except HciError α}

/-- Nothing else of a trace matters than what was stored. -/
theorem Tells.congr {made' : Trace Kernel} {value : α} (htells : task.Tells made value)
    (hreports : reports made' = reports made) (hreplies : replies made' = replies made) : task.Tells made' value := by
  cases task with
  | operate => trivial
  | info | list | devices =>
    simp only [Tells, hreports, hreplies]
    exact htells

/-- A task asks for control requests only. -/
theorem isControl_of_requests {entries : List DeviceEntry} (hmem : request ∈ task.requests entries) :
    request.IsControl := by
  cases task with
  | operate | list =>
    cases List.mem_singleton.mp hmem
    trivial
  | info devId =>
    cases List.mem_singleton.mp hmem
    exact DeviceInfo.length_request devId
  | devices =>
    rcases List.mem_cons.mp hmem with rfl | hmem
    · trivial
    · obtain ⟨entry, -, rfl⟩ := List.mem_map.mp hmem
      exact DeviceInfo.length_request entry.devId

theorem isControl_of_work (hwork : task.work.Runs own result) : ∀ call ∈ own.calls, call.IsControl := by
  intro call hmem
  -- Whether the work is stopped or passes, what was asked for is known from the list of requests.
  cases result with
  | error error => exact isControl_of_requests ((task.stopped hwork).asked.subset hmem)
  | ok value => exact isControl_of_requests ((task.passed hwork).asked ▸ hmem)

end Task

variable {task : Task α} {value : α} {result : Except HciError α}

/-! ## The table -/

/-- A call for a socket, and what the kernel says to it. -/
def opening (status : Status) : Sign Kernel := .asked socketCall status

/-- The call that gives a socket back. -/
def closing (fd : Int) (status : Status) : Sign Kernel := .asked (.close fd) status

/-- What work comes to, if this is said to the call that gives its socket back. -/
def concluded (closed : Status) (worked : Except HciError α) : Except HciError α :=
  worked.bind fun value => (closed.unlessMinusOne value).mapError .close

/-- A value is kept if the close passes, and there is none otherwise. -/
theorem concluded_eq_ok_iff {closed : Status} {worked : Except HciError α} :
    concluded closed worked = .ok value ↔ worked = .ok value ∧ closed.ret ≠ -1 := by
  cases worked with
  | error error =>
    constructor
    · intro hended
      cases hended
    · rintro ⟨hworked, -⟩
      cases hworked
  | ok had =>
    show (closed.unlessMinusOne had).mapError HciError.close = .ok value ↔ _
    rw [Status.unlessMinusOne]
    split
    · next hclosed =>
      constructor
      · intro hended
        cases hended
      · rintro ⟨-, hpassed⟩
        exact absurd hclosed hpassed
    · next hclosed => exact (and_iff_left hclosed).symm

/-- What the kernel sees of a control operation, and how it ends. -/
inductive Conducted (task : Task α) : Trace Kernel → Except HciError α → Prop where
  | refused (opened : Status) (hret : opened.ret < 0) :
      Conducted task [opening opened] (.error (.socket (.system opened.errno)))
  | worked (opened closed : Status) {own : Trace Descriptor} {made : Trace Kernel} {worked : Except HciError α}
      (hret : 0 ≤ opened.ret) (hwork : task.work.Runs own worked)
      (hserved : Served ⟨opened.ret, false⟩ own made ⟨opened.ret, false⟩) :
      Conducted task (opening opened :: (made ++ [closing opened.ret closed])) (concluded closed worked)

/-- How a value fares that was had. -/
theorem Concluded.of_ok {ending : Trace Descriptor} (hconcluded : Concluded (.ok value) ending result) :
    ∃ answer, ending = [released answer, forgotten] ∧ result = (answer.map fun () => value).mapError .close := by
  cases hconcluded with
  | notGivenBack _ cause => exact ⟨.error cause, rfl, rfl⟩
  | done => exact ⟨.ok (), rfl, rfl⟩

/-- To forget a socket that was not given back gives it back. -/
theorem Served.of_forgotten (hlive : socket.released = false)
    (hserved : Served socket (forgotten :: asked) made socket') :
    ∃ status rest, made = closing socket.fd status :: rest ∧ Served ⟨socket.fd, true⟩ asked rest socket' := by
  cases hserved with
  | asked hanswer hrest =>
    obtain ⟨first, last, ⟨given, outcome⟩, rfl, hgiven, hdone⟩ := Program.runs_bind_iff.mp hanswer
    rw [giveBack, hlive, if_neg Bool.false_ne_true] at hgiven
    obtain ⟨status, rfl, hended⟩ := Program.runs_ask_iff.mp hgiven
    cases hended
    obtain ⟨rfl, hended⟩ := Program.runs_done_iff.mp hdone
    cases hended
    exact ⟨status, _, rfl, hrest⟩

/-- **The kernel sees one of the two.** -/
theorem conducted_of_runs (hruns : task.program.Runs asked result) (hserved : Served .absent asked made socket') :
    Conducted task made result := by
  rw [task.program_eq] at hruns
  rcases runs_withSocket_iff.mp hruns with ⟨cause, rfl, rfl⟩ | ⟨own, worked, ending, rfl, hwork, hconcluded⟩
  · cases hserved with
    | asked hanswer hrest =>
      obtain ⟨opened, rfl, ⟨hret, hcause, -⟩ | ⟨-, hcause, -⟩⟩ := runs_create hanswer
      · cases hcause
        cases hrest
        exact .refused opened hret
      · cases hcause
  · cases hserved with
    | asked hanswer hrest =>
      obtain ⟨opened, rfl, ⟨-, hcause, -⟩ | ⟨hret, -, rfl⟩⟩ := runs_create hanswer
      · cases hcause
      -- The work leaves the socket as it was, so the close is on the same number.
      obtain ⟨first, last, between, rfl, hfirst, hlast⟩ := hrest.split
      obtain ⟨rfl, -⟩ := hfirst.controls (Task.isControl_of_work hwork)
      cases worked with
      -- The work has failed, and to forget the socket is to close it.
      | error error =>
        cases hconcluded
        obtain ⟨closed, _, rfl, hnone⟩ := Served.of_forgotten rfl hlast
        cases hnone
        exact .worked opened closed hret hwork hfirst
      -- The work has passed: the socket is closed by the request for it, and to forget it later does nothing.
      | ok value =>
        obtain ⟨answer, rfl, rfl⟩ := hconcluded.of_ok
        obtain ⟨closed, _, rfl, rfl, hforgotten⟩ := Served.of_release rfl hlast
        cases hforgotten.of_discard rfl
        rw [← Status.unlessMinusOne_eq_map]
        exact .worked opened closed hret hwork hfirst

/-- What is stored between the two calls for the socket is all that is stored. -/
theorem reports_between (opened closed : Status) (fd : Int) (made : Trace Kernel) :
    reports (opening opened :: (made ++ [closing fd closed])) = reports made ∧
      replies (opening opened :: (made ++ [closing fd closed])) = replies made := by
  constructor
  · exact (@reports_append made [closing fd closed]).trans (List.append_nil _)
  · exact (@replies_append made [closing fd closed]).trans (List.append_nil _)

theorem calls_between (opened closed : Status) (fd : Int) (made : Trace Kernel) :
    Trace.calls (opening opened :: (made ++ [closing fd closed])) = socketCall :: (made.calls ++ [.close fd]) :=
  congrArg (socketCall :: ·) (Trace.calls_append ..)

/-- All calls have passed if these three parts have. -/
theorem flawless_between_iff {opened closed : Status} {fd : Int} :
    Flawless (opening opened :: (made ++ [closing fd closed])) ↔
      0 ≤ opened.ret ∧ Flawless made ∧ closed.ret ≠ -1 := by
  rw [flawless_cons_iff, flawless_append_iff, flawless_singleton_iff]
  rfl

/-- The controllers that were reported are those that the requests were answered with. -/
theorem entries_reports (hserved : Served socket own made socket') :
    (reports made).flatMap (·.entries) = listedIn own := by
  rw [listedIn, ← hserved.reports_eq, List.flatMap_def]

/-- Each record that was had is the answer to the request of its entry. -/
theorem answered_fetchedAll (had : List (DeviceEntry × Bytes)) :
    (fetchedAll had).filterMap Sign.answered? =
      had.map fun (entry, record) => (DeviceInfo.request entry.devId, record) := by
  induction had with
  | nil => rfl
  | cons first had ih => exact congrArg ((DeviceInfo.request first.1.devId, first.2) :: ·) ih

namespace Conducted

/-- **The operation has a value exactly if every call has passed.** -/
theorem flawless_iff (hconducted : Conducted task made result) : Flawless made ↔ ∃ value, result = .ok value := by
  cases hconducted with
  | refused opened hret =>
    refine iff_of_false (fun hflawless => ?_) nofun
    exact Int.not_le.mpr hret (flawless_singleton_iff.mp hflawless)
  | @worked opened closed own made worked hret hwork hserved =>
    -- Between the two calls for the socket the requests tell how the calls went.
    have hmade : Flawless made ↔ failed own = [] :=
      hserved.flawless_iff fun call hmem => (Task.isControl_of_work hwork call hmem).shows
    rw [flawless_between_iff, hmade]
    simp only [concluded_eq_ok_iff, exists_and_right]
    -- The work has a value exactly if nothing of it has failed.
    cases task.answersFor_work _ _ hwork with
    | error sign hone =>
      refine iff_of_false (fun hflawless => ?_) nofun
      rw [hone] at hflawless
      cases hflawless.2.1
    | @ok value hnone =>
      rw [hnone]
      constructor
      · rintro ⟨-, -, hclosed⟩
        exact ⟨⟨value, rfl⟩, hclosed⟩
      · rintro ⟨-, hclosed⟩
        exact ⟨hret, rfl, hclosed⟩

/-- There is a call for the socket and, unless it fails, control calls on the socket, as many as the task takes or
fewer, and a close. -/
theorem calls (hconducted : Conducted task made result) :
    made.calls = [socketCall] ∨
      ∃ fd controls, made.calls = socketCall :: (controls ++ [.close fd]) ∧
        controls <+: task.controls fd ((reports made).flatMap (·.entries)) := by
  cases hconducted with
  | refused opened hret => exact .inl rfl
  | @worked opened closed own made worked hret hwork hserved =>
    -- Work that fails stops at some request, and work that passes has put them all.
    have hasked : own.calls <+: task.requests (listedIn own) := by
      cases worked with
      | error error => exact (task.stopped hwork).asked
      | ok value => exact (task.passed hwork).asked ▸ List.prefix_rfl
    refine .inr ⟨opened.ret, made.calls, calls_between .., ?_⟩
    rw [(reports_between ..).1, entries_reports hserved, (hserved.controls (Task.isControl_of_work hwork)).2]
    exact hasked.filterMap _

/-- A value is had where the work has passed. -/
theorem of_ok (hconducted : Conducted task made result) (hresult : result = .ok value) :
    ∃ (opened closed : Status) (own : Trace Descriptor) (between : Trace Kernel),
      made = opening opened :: (between ++ [closing opened.ret closed]) ∧ task.work.Runs own (.ok value) ∧
        Served ⟨opened.ret, false⟩ own between ⟨opened.ret, false⟩ := by
  cases hconducted with
  | refused => cases hresult
  | @worked opened closed own between worked hret hwork hserved =>
    obtain ⟨hworked, -⟩ := concluded_eq_ok_iff.mp hresult
    exact ⟨opened, closed, own, between, rfl, hworked ▸ hwork, hserved⟩

/-- Where the operation has a value all control calls of the task were made. -/
theorem calls_of_ok (hconducted : Conducted task made (.ok value)) :
    ∃ fd, made.calls = socketCall ::
      (task.controls fd ((reports made).flatMap (·.entries)) ++ [.close fd]) := by
  obtain ⟨opened, closed, own, between, rfl, hwork, hserved⟩ := hconducted.of_ok rfl
  refine ⟨opened.ret, ?_⟩
  rw [calls_between, (reports_between ..).1, entries_reports hserved,
    (hserved.controls (Task.isControl_of_work hwork)).2, (task.passed hwork).asked]
  rfl

/-- **The value is what the kernel has stored.** -/
theorem tells (hconducted : Conducted task made (.ok value)) : task.Tells made value := by
  obtain ⟨opened, closed, own, between, rfl, hwork, hserved⟩ := hconducted.of_ok rfl
  -- What the requests were answered with is what was stored, and the value is read from the answers.
  have hlists := hserved.reports_eq
  have hrecords := hserved.replies_eq fun record hmem => Task.isControl_of_work hwork _ hmem
  obtain ⟨hreports, hreplies⟩ := reports_between opened closed opened.ret between
  cases task with
  | operate => trivial
  | info devId =>
    obtain ⟨answer, rfl, hanswer⟩ := Program.runs_ask_iff.mp hwork
    rcases answer with cause | record
    · cases hanswer
    · cases hanswer
      exact ⟨record, hreplies.trans hrecords, rfl⟩
  | list =>
    obtain ⟨answer, rfl, hanswer⟩ := Program.runs_ask_iff.mp hwork
    rcases answer with cause | entries
    · cases hanswer
    · cases hanswer
      obtain ⟨report, hreport, rfl⟩ := List.map_eq_singleton_iff.mp hlists
      exact ⟨report, hreports.trans hreport, rfl⟩
  | devices =>
    rcases Open.runs_list_andThen hwork with ⟨_, -, hresult⟩ | ⟨entries, rest, rfl, hrest⟩
    · cases hresult
    · obtain ⟨had, rfl, rfl, rfl⟩ := fetchedAll_of_runs hrest
      -- One list was reported, and each record is the answer to the request of its entry.
      have hlisted : (reports between).map (·.entries) = [had.map (·.1)] :=
        hlists.trans (congrArg (List.cons (had.map Prod.fst)) (entries_fetchedAll had))
      have hfilled : replies between = had.map fun (entry, record) => (DeviceInfo.request entry.devId, record) :=
        hrecords.trans (answered_fetchedAll had)
      obtain ⟨report, hreport, hentries⟩ := List.map_eq_singleton_iff.mp hlisted
      refine ⟨report, hreports.trans hreport, ?_, ?_⟩
      · rw [hreplies, hfilled, hentries, List.map_map, List.map_map]
        rfl
      · rw [hreplies, hfilled, List.map_map, List.map_map]
        rfl

end Conducted

end Control

end HciTransport
