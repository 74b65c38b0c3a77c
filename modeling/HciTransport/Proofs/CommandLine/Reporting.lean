import HciTransport.Proofs.CommandLine.Printout
import HciTransport.Proofs.CommandLine.Values
import HciTransport.Proofs.Control.Calls
import HciTransport.Proofs.Socket.Lifetime
import HciTransport.Proofs.Socket.Listing

/-!
# All of it or nothing

Every command but a dump does one task on a socket of its own, and prints what came of it when all is over
(`Reported`). A call may fail at any place, the last of many records or the close at the very end among them: then
nothing is printed, though much may have been gathered, and the exit status says so. Otherwise everything is printed
that was asked for, each line from what the kernel has filled in for it (`allOrNothing`).
-/

namespace HciTransport

open RawSocket
open DeviceInfo (decode)

/-! ## Tasks print nothing -/

namespace Control

open Program

theorem mute_fetchInfos (entries : List DeviceEntry) : Mute (fetchInfos entries) := by
  induction entries with
  | nil => exact .done _
  | cons entry entries ih => exact .andThen (.call fun _ => .done _) fun _ => ih.andThen fun _ => .done _

theorem mute_withSocket {α : Type} {work : Attempt α} (hwork : Mute work) : Mute (withSocket work) := by
  refine .call fun answer => ?_
  rcases answer with cause | _
  · exact .done _
  · refine hwork.bind fun worked => ?_
    cases worked with
    | error error => exact .call fun _ => .done _
    | ok value =>
      refine .call fun answer => ?_
      rcases answer with cause | _
      · exact .call fun _ => .done _
      · exact .call fun _ => .done _

theorem Task.mute {α : Type} (task : Task α) : Mute task.program := by
  rw [task.program_eq]
  refine mute_withSocket ?_
  cases task with
  | operate op devId => exact Open.mute_issue devId op
  | info devId => exact .call fun _ => .done _
  | list => exact .call fun _ => .done _
  | devices => exact .andThen (.call fun _ => .done _) mute_fetchInfos

end Control

namespace CommandLine

variable {I : Interface} {α : Type} {task : Control.Task α} {what : String} {lines : α → List String}
  {socket socket' : RawSocket} {made : Trace Kernel} {text : List String} {outcome : Outcome} {command : Command}
  {devId : UInt16}

/-! ## Lines -/

/-- Lines as they are seen. -/
def shown (text : List String) : Trace I := text.map fun line => .said (.line line)

theorem printed_shown (text : List String) : printed (shown text : Trace I) = text := by
  induction text with
  | nil => rfl
  | cons line text ih => exact congrArg (line :: ·) ih

/-- To print shows the lines and nothing else. -/
theorem runs_printing_iff {value ended : α} {trace : Trace Descriptor} :
    (printing text value).Runs trace ended ↔ trace = shown text ∧ ended = value := by
  induction text generalizing trace with
  | nil => exact Program.runs_done_iff
  | cons line text ih =>
    constructor
    · intro hruns
      obtain ⟨rest, rfl, hrest⟩ := Program.runs_emit_iff.mp hruns
      obtain ⟨rfl, hended⟩ := ih.mp hrest
      exact ⟨rfl, hended⟩
    · rintro ⟨rfl, hended⟩
      exact .emit (ih.mpr ⟨rfl, hended⟩)

/-- It takes no call to print. -/
theorem eq_shown_of_served (hserved : Served socket (shown text) made socket') : made = shown text := by
  induction text generalizing made with
  | nil =>
    cases hserved
    rfl
  | cons line text ih =>
    obtain ⟨rest, rfl, hrest⟩ := Served.of_said hserved
    rw [ih hrest]
    rfl

theorem calls_shown (text : List String) : Trace.calls (shown text : Trace I) = [] := by
  induction text with
  | nil => rfl
  | cons line text ih => exact ih

/-- What is printed is no part of what passes between a command and the kernel. -/
theorem append_shown (made : Trace Kernel) (text : List String) :
    Trace.calls (made ++ shown text) = made.calls ∧ reports (made ++ shown text) = reports made ∧
      replies (made ++ shown text) = replies made ∧ (Flawless (made ++ shown text) ↔ Flawless made) := by
  have hcalls : Trace.calls (shown text : Trace Kernel) = [] := calls_shown text
  have hreports : reports (shown text) = [] := reports_eq_nil fun _ _ _ hmem => List.not_mem_nil (hcalls ▸ hmem)
  have hreplies : replies (shown text) = [] := replies_eq_nil fun _ _ _ hmem => List.not_mem_nil (hcalls ▸ hmem)
  have hflawless : Flawless (shown text) := by
    intro sign hmem
    obtain ⟨line, -, rfl⟩ := List.mem_map.mp hmem
    trivial
  rw [Trace.calls_append, hcalls, reports_append, hreports, replies_append, hreplies, flawless_append_iff]
  exact ⟨List.append_nil _, List.append_nil _, List.append_nil _, and_iff_left hflawless⟩

/-! ## One task and what came of it -/

/-- What the kernel and the reader see of a command, and how it ends. -/
inductive Reported (task : Control.Task α) (lines : α → List String) : Trace Kernel → Outcome → Prop where
  | failed {made : Trace Kernel} {error : HciError} (what : String)
      (hconducted : Control.Conducted task made (.error error)) (hmute : printed made = []) :
      Reported task lines made (.during what error)
  | passed {made : Trace Kernel} {value : α} (hconducted : Control.Conducted task made (.ok value))
      (hmute : printed made = []) : Reported task lines (made ++ shown (lines value)) .success

/-- Every command that reports is seen so. -/
theorem reported_of_runs (task : Control.Task α) (lines : α → List String)
    (hruns : (lower (reporting what task.program lines) .absent).Runs made (socket, outcome)) :
    Reported task lines made outcome := by
  obtain ⟨asked, hasked, hserved⟩ := runs_lower_iff.mp hruns
  obtain ⟨before, after, result, rfl, hwork, hafter⟩ := Program.runs_bind_iff.mp hasked
  obtain ⟨first, rest, between, rfl, hfirst, hrest⟩ := hserved.split
  -- What the task does is done before anything is printed.
  have hconducted := Control.conducted_of_runs hwork hfirst
  have hmute : printed first = [] := hfirst.printed_eq.trans (task.mute.printed_eq hwork)
  cases result with
  | error error =>
    obtain ⟨rfl, rfl⟩ := Program.runs_done_iff.mp hafter
    cases hrest
    rw [List.append_nil]
    exact .failed what hconducted hmute
  | ok value =>
    obtain ⟨rfl, rfl⟩ := runs_printing_iff.mp hafter
    rw [eq_shown_of_served hrest]
    exact .passed hconducted hmute

/-! ## Commands -/

/-- The control calls of a command, if the kernel reports these entries. -/
def Command.controls (fd : Int) (entries : List DeviceEntry) : Command → List KernelCall
  | .list => .deviceList fd .deviceList .offer ::
      entries.map fun entry => .deviceInfo fd .deviceInfo (DeviceInfo.request entry.devId)
  | .info devId => [.deviceInfo fd .deviceInfo (DeviceInfo.request devId)]
  | .up devId => [.control fd .deviceUp devId.toUInt64]
  | .down devId => [.control fd .deviceDown devId.toUInt64]
  | .reset devId => [.control fd .deviceReset devId.toUInt64]
  | .dump _ => []

/-- The line of a list for a record: the index in it, the address and the flags, a tab between them. -/
def entryLine (record : Bytes) : String :=
  "hci" ++ toString (Bytes.u16At record 0).toNat ++ "\t" ++ DeviceAddress.text ⟨Bytes.bytesAt record 10 6⟩ ++ "\t" ++
    DeviceFlags.text ⟨Bytes.u32At record 16⟩

/-- What a list prints of a report. -/
structure Lists (made : Trace Kernel) (report : DeviceListRequest) : Prop where
  /-- It is the one report that the kernel has given. -/
  reported : reports made = [report]
  /-- A record was filled in for each entry, in the order of the entries. -/
  filled : (replies made).map (·.1) = report.entries.map (DeviceInfo.request ·.devId)
  /-- Each entry has a line, from what was filled in for it. -/
  lines : report.entries ≠ [] → printed made = (replies made).map fun (_, record) => entryLine record
  none : report.entries = [] → printed made = ["no controllers"]
  /-- That there is no controller is said nowhere else. -/
  none_iff : "no controllers" ∈ printed made ↔ report.entries = []

/-- What is printed of a record about a controller. -/
structure Describes (made : Trace Kernel) (devId : UInt16) (record : Bytes) : Prop where
  /-- It is the one record that the kernel has filled in. -/
  filled : replies made = [(DeviceInfo.request devId, record)]
  lines : printed made = infoLines (decode record)
  /-- The lines are those of no other values; of the flags they tell what the text tells. -/
  values : ∀ info, printed made = infoLines info ↔
    { decode record with flags := info.flags } = info ∧ (decode record).flags.text = info.flags.text

/-- What a command prints where no call has failed. -/
def Command.Prints (made : Trace Kernel) : Command → Prop
  | .list => ∃ report, Lists made report
  | .info devId => ∃ record, Describes made devId record
  | .up _ | .down _ | .reset _ => printed made = []
  | .dump _ => True

/-- A command prints all of it or nothing. -/
structure AllOrNothing (command : Command) (made : Trace Kernel) (outcome : Outcome) : Prop where
  /-- There is a call for a socket and, unless it fails, control calls on the socket, up to as many as the command
  takes, and a close. -/
  calls : made.calls = [socketCall] ∨ ∃ fd controls, made.calls = socketCall :: (controls ++ [.close fd]) ∧
    controls <+: command.controls fd ((reports made).flatMap (·.entries))
  /-- The exit status is zero exactly if all of these have passed. -/
  succeeds_iff : outcome.status? = some 0 ↔ Flawless made
  /-- Otherwise it is one, and nothing was printed. -/
  fails : ¬ Flawless made → outcome.status? = some 1 ∧ printed made = []
  /-- Where all have passed, all that the command takes were made. -/
  whole : Flawless made → ∃ fd, made.calls =
    socketCall :: (command.controls fd ((reports made).flatMap (·.entries)) ++ [.close fd])
  prints : Flawless made → command.Prints made

/-- What a command prints is what its task has brought. -/
theorem Reported.whole (hreported : Reported task lines made outcome)
    (hcontrols : ∀ fd entries, command.controls fd entries = task.controls fd entries)
    (hprints : ∀ value, task.Tells made value → printed made = lines value → command.Prints made) :
    AllOrNothing command made outcome := by
  cases hreported with
  -- Nothing was printed yet when the failure was known.
  | failed what hconducted hmute =>
    have hflawed : ¬ Flawless made := by
      rw [hconducted.flawless_iff]
      nofun
    refine ⟨?_, iff_of_false nofun hflawed, fun _ => ⟨rfl, hmute⟩, fun hgranted => absurd hgranted hflawed,
      fun hgranted => absurd hgranted hflawed⟩
    simp only [hcontrols]
    exact hconducted.calls
  -- What is printed changes nothing of what was called and stored.
  | @passed made value hconducted hmute =>
    obtain ⟨hcalls, hreports, hreplies, hflawless⟩ := append_shown made (lines value)
    have hgranted : Flawless (made ++ shown (lines value)) := hflawless.mpr (hconducted.flawless_iff.mpr ⟨value, rfl⟩)
    refine ⟨?_, iff_of_true rfl hgranted, fun hflawed => absurd hgranted hflawed, fun _ => ?_,
      fun _ => hprints value ?_ ?_⟩
    · simp only [hcontrols, hcalls, hreports]
      exact hconducted.calls
    · simp only [hcontrols, hcalls, hreports]
      exact hconducted.calls_of_ok
    · exact hconducted.tells.congr hreports hreplies
    · rw [printed_append, hmute, printed_shown]
      rfl

/-- The calls of a list are those of the task that brings all records. -/
theorem controls_devices (fd : Int) (entries : List DeviceEntry) :
    Command.controls fd entries .list = Control.Task.devices.controls fd entries := by
  have hrecords : (entries.map fun entry => DescriptorCall.deviceInfo (DeviceInfo.request entry.devId)).filterMap
      (DescriptorCall.control? fd) =
        entries.map fun entry => .deviceInfo fd .deviceInfo (DeviceInfo.request entry.devId) := by
    rw [List.filterMap_map]
    exact congrFun List.filterMap_eq_map entries
  exact congrArg (KernelCall.deviceList fd .deviceList .offer :: ·) hrecords.symm

/-- No line of a controller says that there is none. -/
theorem entryLine_ne (record : Bytes) : entryLine record ≠ "no controllers" := by
  intro hsame
  have hchars := congrArg String.toList hsame
  -- The one begins with an h and the other does not.
  simp [entryLine] at hchars

theorem listLines_of_ne_nil {infos : List DeviceInfo} (hsome : infos ≠ []) : listLines infos = infos.map listLine := by
  cases infos with
  | nil => exact absurd rfl hsome
  | cons => rfl

/-- A list has one line for each entry, unless it has none. -/
theorem prints_list {infos : List DeviceInfo} (htells : Control.Task.devices.Tells made infos)
    (hprinted : printed made = listLines infos) : Command.list.Prints made := by
  obtain ⟨report, hreported, hfilled, rfl⟩ := htells
  -- As many records as entries: without entries there are none to print.
  by_cases hempty : report.entries = []
  · have hnone : replies made = [] := List.map_eq_nil_iff.mp (hfilled.trans (congrArg _ hempty))
    have hlines : printed made = ["no controllers"] := by rw [hprinted, hnone, List.map_nil, listLines]
    refine ⟨report, hreported, hfilled, fun hsome => absurd hempty hsome, fun _ => hlines, iff_of_true ?_ hempty⟩
    rw [hlines]
    exact List.mem_cons_self
  · have hsome : (replies made).map (decode ·.2) ≠ [] := by
      intro hnone
      rw [List.map_eq_nil_iff.mp hnone] at hfilled
      exact hempty (List.map_eq_nil_iff.mp hfilled.symm)
    have hlines : printed made = (replies made).map fun (_, record) => entryLine record := by
      rw [hprinted, listLines_of_ne_nil hsome, List.map_map]
      rfl
    refine ⟨report, hreported, hfilled, fun _ => hlines, fun hnone => absurd hnone hempty, iff_of_false ?_ hempty⟩
    rw [hlines]
    intro hmem
    obtain ⟨⟨_, record⟩, -, hline⟩ := List.mem_map.mp hmem
    exact entryLine_ne record hline

/-- The lines about a controller are those of its record. -/
theorem prints_info {info : DeviceInfo} (htells : (Control.Task.info devId).Tells made info)
    (hprinted : printed made = infoLines info) : (Command.info devId).Prints made := by
  obtain ⟨record, hfilled, rfl⟩ := htells
  refine ⟨record, hfilled, hprinted, fun info => ?_⟩
  rw [hprinted]
  exact infoLines_eq_iff

/-- In every run of a command that does not dump it is so. -/
theorem allOrNothing_of_runs (hcommand : ∀ options, command ≠ .dump options) {budget : Nat}
    (hruns : (lower (command.run budget) .absent).Runs made (socket, outcome)) : AllOrNothing command made outcome := by
  cases command with
  | list =>
    have hreported : Reported .devices listLines made outcome := reported_of_runs .devices listLines hruns
    exact hreported.whole controls_devices fun _ => prints_list
  | info devId =>
    have hreported : Reported (.info devId) infoLines made outcome := reported_of_runs (.info devId) infoLines hruns
    exact hreported.whole (fun _ _ => rfl) fun _ => prints_info
  -- The three changes differ in the operation only, and bring no lines.
  | up devId =>
    have hreported : Reported (.operate .up devId) (fun () => []) made outcome := reported_of_runs _ _ hruns
    exact hreported.whole (fun _ _ => rfl) fun _ _ hprinted => hprinted
  | down devId =>
    have hreported : Reported (.operate .down devId) (fun () => []) made outcome := reported_of_runs _ _ hruns
    exact hreported.whole (fun _ _ => rfl) fun _ _ hprinted => hprinted
  | reset devId =>
    have hreported : Reported (.operate .reset devId) (fun () => []) made outcome := reported_of_runs _ _ hruns
    exact hreported.whole (fun _ _ => rfl) fun _ _ hprinted => hprinted
  | dump options => exact absurd rfl (hcommand options)

/-- **A command prints all of it or nothing**, whatever the kernel answers. -/
theorem allOrNothing (hcommand : ∀ options, command ≠ .dump options) (budget : Nat) (kernel : Environment Kernel) :
    AllOrNothing command ((lower (command.run budget) .absent).play kernel []).1
      ((lower (command.run budget) .absent).play kernel []).2.2 :=
  allOrNothing_of_runs hcommand (Program.runs_play kernel [] (lower (command.run budget) .absent))

/-- Sixteen controllers were listed and each has its record filled in, but the socket cannot be given back: all that
was gathered is lost, and nothing is printed of it. -/
theorem allOrNothing_reluctant :
    (∀ options, Command.list ≠ .dump options) ∧
      (replies ((lower (Command.list.run 0) .absent).play (fun _ => Errands.reluctant) []).1).length = 16 ∧
      ¬ Flawless ((lower (Command.list.run 0) .absent).play (fun _ => Errands.reluctant) []).1 ∧
      ((lower (Command.list.run 0) .absent).play (fun _ => Errands.reluctant) []).2.2.status? = some 1 ∧
      printed ((lower (Command.list.run 0) .absent).play (fun _ => Errands.reluctant) []).1 = [] := by
  have hcommand : ∀ options, Command.list ≠ .dump options := nofun
  have hall := allOrNothing hcommand 0 fun _ => Errands.reluctant
  have hflawed : ¬ Flawless ((lower (Command.list.run 0) .absent).play (fun _ => Errands.reluctant) []).1 := by
    rw [← hall.succeeds_iff]
    decide
  exact ⟨hcommand, rfl, hflawed, hall.fails hflawed⟩

/-- Where the socket is given back there is a line for each of the controllers. -/
example : printed ((lower (Command.list.run 0) .absent).play (reportsTwo []) []).1 =
    ["hci7\t00:00:00:00:00:00\tDOWN", "hci4\t00:00:00:00:00:00\tDOWN"] := by decide +kernel

end CommandLine

end HciTransport
