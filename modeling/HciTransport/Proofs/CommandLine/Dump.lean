import HciTransport.Proofs.Channel.Drop
import HciTransport.Proofs.CommandLine.Frames
import HciTransport.Proofs.Open.Opening

/-!
# A dump and its end

A dump opens a channel, sends a reset if it is asked to, prints frames and closes the channel. It can be left
after the reset, in the loop, and after the close; where it is left before the close, the drop of the channel
does what the close would have done, and where it is left after it, the drop finds nothing to do. So there is
one table for what follows the open (`Dumped`), and the shutdown stands at the end of each of its rows.

`dumpCourse` puts it together over a whole run: whichever way a dump ends, its last two system calls are the
close frame and the close of its number, and its exit status is zero exactly if nothing but the close frame
has failed.
-/

namespace HciTransport.CommandLine

open Channel (Gate)
open RawSocket

variable {devId : UInt16} {budget : Nat} {options : DumpOptions} {gate : Gate} {socket socket' : RawSocket}
  {asked : Trace Descriptor} {made : Trace Kernel} {outcome : Outcome} {fd : Int}

/-! ## The reset -/

/-- What is done about the reset, and how that ends. -/
inductive ResetSent (devId : UInt16) (fd : Int) : (wanted : Bool) → Trace Kernel → Outcome → Prop where
  | unwanted : ResetSent devId fd false [] .success
  | sent {status : Status} (hret : 0 ≤ status.ret) :
      ResetSent devId fd true
        [.asked (.write fd resetFrame) status, .said (.log (.frameWritten devId status.ret.toNat))] .success
  | failed {status : Status} (hret : status.ret < 0) :
      ResetSent devId fd true [.asked (.write fd resetFrame) status]
        (.during "sending HCI_Reset" (.send (.system status.errno)))

/-- Nothing else can be seen of the reset. -/
theorem resetSent_of_runs {wanted : Bool} (hruns : (sendReset devId wanted .opened).Runs asked (gate, outcome))
    (hserved : Served socket asked made socket') :
    gate = .opened ∧ socket' = socket ∧ ResetSent devId socket.fd wanted made outcome := by
  cases wanted with
  | false =>
    obtain ⟨rfl, hended⟩ := Program.runs_done_iff.mp hruns
    cases hended
    cases hserved
    exact ⟨rfl, rfl, .unwanted⟩
  | true =>
    rw [sendReset, if_pos rfl, Channel.run_write_opened] at hruns
    obtain ⟨answer, _, rfl, hsent⟩ := Program.runs_call_iff.mp hruns
    obtain ⟨status, made, rfl, rfl, hnext⟩ := hserved.of_write
    -- A reset that could not be sent is not logged.
    by_cases hfailed : status.ret < 0
    · rw [Status.unlessNegative, if_pos hfailed] at hsent
      obtain ⟨rfl, hended⟩ := Program.runs_done_iff.mp hsent
      cases hended
      cases hnext
      exact ⟨rfl, rfl, .failed hfailed⟩
    · rw [Status.unlessNegative, if_neg hfailed] at hsent
      obtain ⟨_, rfl, hdone⟩ := Program.runs_emit_iff.mp hsent
      obtain ⟨rfl, hended⟩ := Program.runs_done_iff.mp hdone
      cases hended
      obtain ⟨made, rfl, hlast⟩ := hnext.of_said
      cases hlast
      exact ⟨rfl, rfl, .sent (Int.not_lt.mp hfailed)⟩

/-! ## The shutdown -/

/-- The channel is shut down: the close frame is sent, and then the number is given back, which the kernel
answers with `status`. -/
def Shut (fd : Int) (status : Status) (made : Trace Kernel) : Prop :=
  ∃ (sent : Status) (noted later : List LogEntry),
    made = Sign.asked (KernelCall.write fd closeFrame) sent ::
      (Trace.ofLog noted ++ Sign.asked (KernelCall.close fd) status :: Trace.ofLog later)

/-- How a dump ends that has come so far and was shut down. -/
def shutOutcome (status : Status) : Outcome → Outcome
  | .success =>
    if status.ret = -1 then .during "closing user channel" (.close (.system status.errno)) else .success
  | failed => failed

/-- The requests of a shutdown, as they are served. -/
theorem shut_of_served {answer : Except IoError Nat} {given : Except IoError Unit} {noted : List LogEntry}
    (hserved : Served ⟨fd, false⟩
      ((DescriptorCall.write closeFrame).asked answer ::
        (Trace.ofLog noted ++ DescriptorCall.release.asked given :: asked)) made socket') :
    ∃ (sent status : Status) (rest : Trace Kernel),
      made = Sign.asked (KernelCall.write fd closeFrame) sent ::
        (Trace.ofLog noted ++ Sign.asked (KernelCall.close fd) status :: rest) ∧
      given = status.unlessMinusOne () ∧ Served ⟨fd, true⟩ asked rest socket' := by
  obtain ⟨sent, _, rfl, -, hsent⟩ := hserved.of_write
  obtain ⟨_, rfl, hnoted⟩ := hsent.of_log
  obtain ⟨status, rest, rfl, hgiven, hclosed⟩ := hnoted.of_release rfl
  exact ⟨sent, status, rest, rfl, hgiven, hclosed⟩

/-- A close of an open channel shuts it down, and fails only if the number cannot be given back. -/
theorem shut_of_close (hruns : (closeChannel devId .opened).Runs asked (gate, outcome))
    (hserved : Served ⟨fd, false⟩ asked made socket') :
    gate = .shut ∧ socket' = ⟨fd, true⟩ ∧ ∃ status, Shut fd status made ∧ outcome = shutOutcome status .success := by
  obtain ⟨before, after, ended, rfl, hclose, hdone⟩ := Program.runs_bind_iff.mp hruns
  rw [Channel.run_close_opened] at hclose
  obtain ⟨answer, _, rfl, hsent⟩ := Program.runs_call_iff.mp hclose
  obtain ⟨_, rfl, hnoted⟩ := Program.runs_logAll_iff.mp hsent
  obtain ⟨given, _, rfl, hgiven⟩ := Program.runs_call_iff.mp hnoted
  obtain ⟨rfl, rfl⟩ := Program.runs_done_iff.mp hgiven
  rw [List.cons_append, List.append_assoc, List.cons_append, List.nil_append] at hserved
  obtain ⟨sent, status, rest, rfl, rfl, hrest⟩ := shut_of_served hserved
  -- The close of the number decides, and the close frame does not.
  by_cases hfailed : status.ret = -1
  · rw [Status.unlessMinusOne, if_pos hfailed] at hdone
    obtain ⟨rfl, hended⟩ := Program.runs_done_iff.mp hdone
    cases hended
    cases hrest
    exact ⟨rfl, rfl, status, ⟨sent, _, [], rfl⟩, (if_pos hfailed).symm⟩
  · rw [Status.unlessMinusOne, if_neg hfailed] at hdone
    obtain ⟨rfl, hended⟩ := Program.runs_done_iff.mp hdone
    cases hended
    cases hrest
    exact ⟨rfl, rfl, status, ⟨sent, _, [], rfl⟩, (if_neg hfailed).symm⟩

/-- The drop of a channel that nobody closed shuts it down. -/
theorem shut_of_drop (hruns : (Channel.drop devId .opened).Runs asked ())
    (hserved : Served ⟨fd, false⟩ asked made socket') : ∃ status, Shut fd status made := by
  obtain ⟨shown, ending, hdrop, rfl⟩ := Channel.runs_drop_iff.mp hruns
  obtain ⟨-, answer, given, rfl⟩ := Channel.shown_of_drop_opened hdrop
  rw [List.cons_append, List.append_assoc, List.cons_append] at hserved
  obtain ⟨sent, status, rest, rfl, -, hrest⟩ := shut_of_served hserved
  obtain ⟨_, rfl, hlast⟩ := hrest.of_log
  -- The number was given back, so to forget the socket makes no call.
  have hnone := hlast.of_discard rfl
  cases hnone
  rw [List.append_nil]
  exact ⟨status, sent, _, _, rfl⟩

/-- The drop of a channel that was shut down makes no call. -/
theorem nil_of_drop (hruns : (Channel.drop devId .shut).Runs asked ())
    (hserved : Served ⟨fd, true⟩ asked made socket') : made = [] := by
  obtain ⟨shown, ending, hdrop, rfl⟩ := Channel.runs_drop_iff.mp hruns
  obtain ⟨-, rfl⟩ := Channel.shown_of_drop_shut hdrop
  have hnone := hserved.of_discard rfl
  cases hnone
  rfl

/-! ## What follows the open -/

/-- What a dump does on a channel that was opened on the number `fd`, and how it ends. -/
inductive Dumped (devId : UInt16) (fd : Int) (budget : Nat) (options : DumpOptions) :
    Trace Kernel → Outcome → Prop where
  /-- The reset fails. -/
  | notReset {reset shut : Trace Kernel} {failed : Outcome} {status : Status}
      (hreset : ResetSent devId fd options.sendReset reset failed) (hfailed : failed ≠ .success)
      (hshut : Shut fd status shut) :
      Dumped devId fd budget options (.said (.log (.opened devId)) :: (reset ++ shut)) (shutOutcome status failed)
  /-- The loop is left, one way or another. -/
  | left {reset frames shut : Trace Kernel} {left : Outcome} {status : Status}
      (hreset : ResetSent devId fd options.sendReset reset .success)
      (hframes : Frames devId fd budget options.count (Bytes.zeros bufferLength) frames left)
      (hshut : Shut fd status shut) :
      Dumped devId fd budget options (.said (.log (.opened devId)) :: (reset ++ frames ++ shut))
        (shutOutcome status left)

/-- What follows a success is run after one, and otherwise the work is all there is. -/
theorem runs_onSuccess {work : Program Descriptor (Gate × Outcome)}
    {next : Gate → Program Descriptor (Gate × Outcome)}
    (hruns : (onSuccess work next).Runs asked (gate, outcome)) :
    (outcome ≠ .success ∧ work.Runs asked (gate, outcome)) ∨
      ∃ before after between, asked = before ++ after ∧ work.Runs before (between, .success) ∧
        (next between).Runs after (gate, outcome) := by
  obtain ⟨before, after, ⟨between, first⟩, rfl, hwork, hnext⟩ := Program.runs_bind_iff.mp hruns
  cases first with
  | success => exact .inr ⟨before, after, between, rfl, hwork, hnext⟩
  | failure | crashed | unfinished =>
    obtain ⟨rfl, hended⟩ := Program.runs_done_iff.mp hnext
    cases hended
    rw [List.append_nil]
    exact .inl ⟨nofun, hwork⟩

theorem shutOutcome_of_ne {status : Status} (hfailed : outcome ≠ .success) : shutOutcome status outcome = outcome := by
  cases outcome with
  | success => exact absurd rfl hfailed
  | failure | crashed | unfinished => rfl

/-- What a dump does once its channel is open. -/
def afterOpen (budget : Nat) (options : DumpOptions) (devId : UInt16) : Program Descriptor Outcome :=
  .emit (.log (.opened devId)) <|
    (dumpChannel budget options devId).bind fun (gate, outcome) =>
    (Channel.drop devId gate).bind fun () => .done outcome

/-- **The table is complete.** -/
theorem dumped_of_runs (hruns : (afterOpen budget options devId).Runs asked outcome)
    (hserved : Served ⟨fd, false⟩ asked made socket') : Dumped devId fd budget options made outcome := by
  obtain ⟨_, rfl, hrest⟩ := Program.runs_emit_iff.mp hruns
  obtain ⟨made, rfl, hnoted⟩ := hserved.of_said
  obtain ⟨worked, last, ⟨gate, ended⟩, rfl, hwork, hlast⟩ := Program.runs_bind_iff.mp hrest
  obtain ⟨dropping, _, _, rfl, hdrop, hdone⟩ := Program.runs_bind_iff.mp hlast
  obtain ⟨rfl, rfl⟩ := Program.runs_done_iff.mp hdone
  rw [List.append_nil] at hnoted
  obtain ⟨first, second, between, rfl, hfirst, hsecond⟩ := hnoted.split
  -- Left after the reset: the drop finds an open channel.
  rcases runs_onSuccess hwork with ⟨hfailed, hreset⟩ | ⟨before, after, reached, rfl, hreset, hnext⟩
  · obtain ⟨rfl, rfl, hreset⟩ := resetSent_of_runs hreset hfirst
    obtain ⟨status, hshut⟩ := shut_of_drop hdrop hsecond
    rw [← @shutOutcome_of_ne outcome status hfailed]
    exact .notReset hreset hfailed hshut
  obtain ⟨made₁, made₂, between₁, rfl, hserved₁, hserved₂⟩ := hfirst.split
  obtain ⟨rfl, rfl, hreset⟩ := resetSent_of_runs hreset hserved₁
  -- Left in the loop, or after the close, which leaves the drop nothing to do.
  rcases runs_onSuccess hnext with ⟨hfailed, hloop⟩ | ⟨looped, closing, reached, rfl, hloop, hclose⟩
  · obtain ⟨rfl, rfl, hframes⟩ := frames_of_runs hloop hserved₂
    obtain ⟨status, hshut⟩ := shut_of_drop hdrop hsecond
    rw [← @shutOutcome_of_ne outcome status hfailed]
    exact .left hreset hframes hshut
  · obtain ⟨frames, shut, between₂, rfl, hserved₃, hserved₄⟩ := hserved₂.split
    obtain ⟨rfl, rfl, hframes⟩ := frames_of_runs hloop hserved₃
    obtain ⟨rfl, rfl, status, hshut, rfl⟩ := shut_of_close hclose hserved₄
    obtain rfl := nil_of_drop hdrop hsecond
    rw [List.append_nil, ← List.append_assoc]
    exact .left hreset hframes hshut

/-! ### Its system calls -/

theorem calls_of_shut {status : Status} (hshut : Shut fd status made) :
    made.calls = [.write fd closeFrame, .close fd] := by
  obtain ⟨sent, noted, later, rfl⟩ := hshut
  have hclosed : Trace.calls (I := Kernel) (.asked (.close fd) status :: Trace.ofLog later) = [.close fd] :=
    congrArg (List.cons (KernelCall.close fd)) (Trace.calls_ofLog (I := Kernel) later)
  have hnoted : Trace.calls (I := Kernel)
      (Trace.ofLog noted ++ Sign.asked (KernelCall.close fd) status :: Trace.ofLog later) = [KernelCall.close fd] := by
    rw [Trace.calls_append, Trace.calls_ofLog, hclosed, List.nil_append]
  exact congrArg (List.cons (KernelCall.write fd closeFrame)) hnoted

theorem calls_of_reset {wanted : Bool} (hreset : ResetSent devId fd wanted made outcome) :
    made.calls = if wanted then [.write fd resetFrame] else [] := by
  cases hreset <;> rfl

theorem ResetSent.ne_unfinished {wanted : Bool} (hreset : ResetSent devId fd wanted made outcome) :
    outcome ≠ .unfinished := by
  cases hreset <;> nofun

theorem ResetSent.ne_crashed {wanted : Bool} (hreset : ResetSent devId fd wanted made outcome) :
    outcome ≠ .crashed := by
  cases hreset <;> nofun

/-- A shutdown does not leave a dump unfinished that was not so before. -/
theorem unfinished_of_shut {status : Status} (hunfinished : shutOutcome status outcome = .unfinished) :
    outcome = .unfinished := by
  cases outcome with
  | success =>
    rw [shutOutcome] at hunfinished
    split at hunfinished <;> cases hunfinished
  | failure | crashed | unfinished => exact hunfinished

/-- A reset if it is wanted, reads, and the shutdown. -/
theorem Dumped.calls_eq (hdumped : Dumped devId fd budget options made outcome) :
    ∃ reads, made.calls = (if options.sendReset then [.write fd resetFrame] else []) ++
        List.replicate reads (.read fd bufferLength) ++ [.write fd closeFrame, .close fd] ∧
      (outcome = .unfinished → reads = budget) := by
  cases hdumped with
  | @notReset _ _ failed status hreset hfailed hshut =>
    refine ⟨0, ?_, fun hunfinished => ?_⟩
    · rw [Trace.calls_said, Trace.calls_append, calls_of_reset hreset, calls_of_shut hshut]
      exact congrArg (· ++ _) (List.append_nil _).symm
    · exact absurd (unfinished_of_shut hunfinished) hreset.ne_unfinished
  | left hreset hframes hshut =>
    obtain ⟨reads, hcalls, hreads⟩ := hframes.calls_eq
    refine ⟨reads, ?_, fun hunfinished => hreads (unfinished_of_shut hunfinished)⟩
    rw [Trace.calls_said, Trace.calls_append, Trace.calls_append, calls_of_reset hreset, hcalls, calls_of_shut hshut]

/-! ### Its exit status -/

theorem unharmed_close {status : Status} :
    Unharmed fd (.asked (KernelCall.close fd) status :: made) ↔ status.ret ≠ -1 ∧ Unharmed fd made := by
  have hother : KernelCall.close fd ≠ .write fd closeFrame := nofun
  exact (unharmed_asked hother).trans (and_congr_left fun _ => not_congr failed_close)

/-- The reset may not fail, as it is another frame than the close frame. -/
theorem unharmed_resetFrame {status : Status} :
    Unharmed fd (.asked (KernelCall.write fd resetFrame) status :: made) ↔ 0 ≤ status.ret ∧ Unharmed fd made := by
  have hother : KernelCall.write fd resetFrame ≠ .write fd closeFrame := by
    intro hsame
    -- The two frames differ in a byte.
    have hframes : resetFrame = closeFrame := (KernelCall.write.inj hsame).2
    exact absurd hframes (by decide)
  exact (unharmed_asked hother).trans (and_congr_left fun _ => (not_congr failed_write).trans Int.not_lt)

/-- A shutdown does harm where its close fails. -/
theorem unharmed_shut {status : Status} (hshut : Shut fd status made) : Unharmed fd made ↔ status.ret ≠ -1 := by
  obtain ⟨sent, noted, later, rfl⟩ := hshut
  rw [unharmed_closeFrame, unharmed_append, and_iff_right (unharmed_ofLog noted), unharmed_close,
    and_iff_left (unharmed_ofLog later)]

/-- The reset has succeeded exactly if it has done no harm. -/
theorem unharmed_reset {wanted : Bool} (hreset : ResetSent devId fd wanted made outcome) :
    Unharmed fd made ↔ outcome = .success := by
  cases hreset with
  | unwanted => exact iff_of_true unharmed_nil rfl
  | sent hret =>
    rw [unharmed_resetFrame, unharmed_said]
    exact iff_of_true ⟨hret, unharmed_nil⟩ rfl
  | failed hret =>
    rw [unharmed_resetFrame]
    exact iff_of_false (fun hunharmed => Int.not_lt.mpr hunharmed.1 hret) nofun

/-- The exit status is zero if all was well before the shutdown and the close passes. -/
theorem status_shutOutcome {status : Status} :
    (shutOutcome status outcome).status? = some 0 ↔ outcome = .success ∧ status.ret ≠ -1 := by
  cases outcome with
  | success =>
    by_cases hfailed : status.ret = -1
    · simp [shutOutcome, hfailed, Outcome.during, Outcome.status?]
    · simp [shutOutcome, hfailed, Outcome.status?]
  | failure | crashed | unfinished => simp [shutOutcome, Outcome.status?]

theorem frames_subset {event : Event} {reset frames shut : Trace Kernel} :
    frames ⊆ .said event :: (reset ++ frames ++ shut) := by
  intro sign hmem
  exact List.mem_cons_of_mem _ (List.mem_append_left _ (List.mem_append_right _ hmem))

/-- **The exit status is zero exactly if nothing was harmed**, where every read keeps to its room. -/
theorem Dumped.status_iff (hdumped : Dumped devId fd budget options made outcome) (hfits : Fits made)
    (hfinished : outcome ≠ .unfinished) : outcome.status? = some 0 ↔ Unharmed fd made := by
  cases hdumped with
  | notReset hreset hfailed hshut =>
    rw [status_shutOutcome, unharmed_said, unharmed_append, unharmed_reset hreset, unharmed_shut hshut]
  | @left reset frames shut ended status hreset hframes hshut =>
    -- The loop has succeeded exactly if no read has failed, since it was followed to its end.
    have hloop : ended = .success ↔ Unharmed fd frames := by
      rcases hframes.outcome_cases (hfits.mono frames_subset) with ⟨rfl | rfl, hunharmed⟩ | ⟨⟨error, rfl⟩, hharmed⟩
      · exact ⟨fun _ => hunharmed, fun _ => rfl⟩
      · exact absurd rfl hfinished
      · exact ⟨nofun, fun hunharmed => absurd hunharmed hharmed⟩
    rw [status_shutOutcome, unharmed_said, unharmed_append, unharmed_append, unharmed_shut hshut, hloop,
      and_iff_right ((unharmed_reset hreset).mpr rfl)]

theorem not_crashed_shut {status : Status} (hended : outcome ≠ .crashed) : shutOutcome status outcome ≠ .crashed := by
  cases outcome with
  | success =>
    rw [shutOutcome]
    split <;> nofun
  | failure | crashed | unfinished => exact hended

/-- Where every read keeps to its room the loop does not crash. -/
theorem Dumped.not_crashed (hdumped : Dumped devId fd budget options made outcome) (hfits : Fits made) :
    outcome ≠ .crashed := by
  cases hdumped with
  | notReset hreset hfailed hshut => exact not_crashed_shut hreset.ne_crashed
  | left hreset hframes hshut =>
    refine not_crashed_shut ?_
    rcases hframes.outcome_cases (hfits.mono frames_subset) with ⟨rfl | rfl, -⟩ | ⟨⟨error, rfl⟩, -⟩ <;> nofun

/-! ## A whole run -/

/-- What a dump opens its channel with. -/
def DumpOptions.openConfig (options : DumpOptions) : OpenConfig :=
  { OpenConfig.standard with drainTimeout := .ofMillis options.drainMillis }

/-- The run begins with an open, which is seen as `opening`, leaves `socket` behind and has this result; the
rest of the run is `rest`. -/
structure Opens (options : DumpOptions) (made opening rest : Trace Kernel) (socket : RawSocket)
    (result : Except HciError UInt16) : Prop where
  split : made = opening ++ rest
  runs : ∃ selector, DeviceSelector.fromIndex options.index = .ok selector ∧
    (lower (Open.channel selector options.openConfig) .absent).Runs opening (socket, result)

/-- A run begins with one open at most. -/
theorem Opens.unique {opening opening' rest rest' : Trace Kernel} {result result' : Except HciError UInt16}
    (hopens : Opens options made opening rest socket result)
    (hother : Opens options made opening' rest' socket' result') :
    opening = opening' ∧ rest = rest' ∧ socket = socket' ∧ result = result' := by
  obtain ⟨selector, hselector, hruns⟩ := hopens.runs
  obtain ⟨_, hsame, hruns'⟩ := hother.runs
  cases hselector.symm.trans hsame
  have hsplit := hopens.split.symm.trans hother.split
  -- A program does not stop where a longer trace of it goes on, so the two openings have the same end.
  obtain ⟨rfl, hresult⟩ := hruns.unique_of_append hruns' hsplit
  cases hresult
  exact ⟨rfl, List.append_cancel_left hsplit, rfl, rfl⟩

/-- What a dump can come to: its index names no controller; or the channel cannot be opened; or it is. -/
theorem dump_cases (hruns : (lower (runDump budget options) .absent).Runs made (socket, outcome)) :
    (∃ error, DeviceSelector.fromIndex options.index = .error error ∧ made = []) ∨
      (∃ error, Opens options made made [] socket (.error error)) ∨
        ∃ opening rest fd devId, Opens options made opening rest ⟨fd, false⟩ (.ok devId) ∧
          Dumped devId fd budget options rest outcome := by
  obtain ⟨asked, hasked, hserved⟩ := runs_lower_iff.mp hruns
  rw [runDump] at hasked
  cases hselector : DeviceSelector.fromIndex options.index with
  | error error =>
    rw [hselector] at hasked
    obtain ⟨rfl, rfl⟩ := Program.runs_done_iff.mp hasked
    cases hserved
    exact .inl ⟨error, rfl, rfl⟩
  | ok selector =>
    rw [hselector] at hasked
    obtain ⟨before, after, result, rfl, hchannel, hnext⟩ := Program.runs_bind_iff.mp hasked
    obtain ⟨opening, rest, between, rfl, hopening, hrest⟩ := hserved.split
    have hopened := runs_lower_iff.mpr ⟨before, hchannel, hopening⟩
    cases result with
    | error error =>
      obtain ⟨rfl, rfl⟩ := Program.runs_done_iff.mp hnext
      cases hrest
      rw [List.append_nil]
      exact .inr (.inl ⟨error, (List.append_nil _).symm, selector, hselector, hopened⟩)
    | ok devId =>
      obtain ⟨fd, released⟩ := between
      -- The open has succeeded, so the number is live still.
      obtain rfl : released = false := Open.opened_live hopened
      exact .inr (.inr ⟨opening, rest, fd, devId, ⟨rfl, selector, hselector, hopened⟩, dumped_of_runs hnext hrest⟩)

/-- What follows an open that succeeds is in the table. -/
theorem dumped_of_opens {opening rest : Trace Kernel}
    (hruns : (lower (runDump budget options) .absent).Runs made (socket, outcome))
    (hopens : Opens options made opening rest socket' (.ok devId)) :
    socket'.released = false ∧ Dumped devId socket'.fd budget options rest outcome := by
  rcases dump_cases hruns with ⟨error, hindex, -⟩ | ⟨error, hother⟩ | ⟨_, _, fd, _, hother, hdumped⟩
  · obtain ⟨selector, hselector, -⟩ := hopens.runs
    cases hindex.symm.trans hselector
  · cases (hopens.unique hother).2.2.2
  · obtain ⟨rfl, rfl, rfl, hresult⟩ := hopens.unique hother
    cases hresult
    exact ⟨rfl, hdumped⟩

/-- An index is valid if it fits a controller number, or is minus one. -/
theorem fromIndex_ok_iff {index : Int} :
    (∃ selector, DeviceSelector.fromIndex index = .ok selector) ↔ -1 ≤ index ∧ index ≤ 65535 := by
  unfold DeviceSelector.fromIndex DeviceSelector.anyIndex
  constructor
  · rintro ⟨selector, hselector⟩
    split at hselector
    · omega
    · split at hselector
      · omega
      · cases hselector
  · rintro ⟨hlow, hhigh⟩
    split
    · exact ⟨_, rfl⟩
    · rw [if_pos (by omega)]
      exact ⟨_, rfl⟩

/-- How a dump ends that has opened its channel on the number `fd`; `rest` is what follows the open. -/
structure DumpEnds (budget : Nat) (options : DumpOptions) (fd : Int) (made rest : Trace Kernel)
    (outcome : Outcome) : Prop where
  /-- The last two calls of the run are the close frame and the close of the number. There is no close frame
  and no close before them, and so no write after the close frame and no call after the close. -/
  shut_down : ∃ before, made.calls = before ++ [.write fd closeFrame, .close fd] ∧
    ∀ call ∈ before, call.frame? ≠ some closeFrame ∧ call.closes? = none
  /-- What is asked for between the open and that is the reset, if it is wanted, and reads. A run that is not
  followed to its end has made all the reads that it is followed for. -/
  asks : ∃ reads, rest.calls = (if options.sendReset then [.write fd resetFrame] else []) ++
      List.replicate reads (.read fd bufferLength) ++ [.write fd closeFrame, .close fd] ∧
    (outcome = .unfinished → reads = budget)
  not_crashed : outcome ≠ .crashed
  /-- The exit status is zero exactly if the reset, every read and the close have succeeded. -/
  status : outcome ≠ .unfinished → (outcome.status? = some 0 ↔ Unharmed fd rest)

/-- How a dump goes. -/
structure DumpCourse (budget : Nat) (options : DumpOptions) (made : Trace Kernel) (outcome : Outcome) : Prop where
  invalid_index : options.index < -1 ∨ 65535 < options.index → made.calls = []
  opens : -1 ≤ options.index → options.index ≤ 65535 →
    ∃ opening rest socket result, Opens options made opening rest socket result
  not_opened : ∀ opening rest socket error, Opens options made opening rest socket (.error error) →
    ∀ call ∈ made.calls, call.frame? = none
  ends : ∀ opening rest socket devId, Opens options made opening rest socket (.ok devId) →
    DumpEnds budget options socket.fd made rest outcome

/-- A dump whose channel was opened ends as the table says. -/
theorem dumpEnds_of_opens {opening rest : Trace Kernel}
    (hruns : (lower (runDump budget options) .absent).Runs made (socket, outcome)) (hfits : Fits made)
    (hopens : Opens options made opening rest socket' (.ok devId)) :
    DumpEnds budget options socket'.fd made rest outcome := by
  have hdumped := (dumped_of_opens hruns hopens).2
  obtain ⟨rfl, selector, -, hopened⟩ := hopens
  have hroom : Fits rest := hfits.mono (List.subset_append_right ..)
  obtain ⟨reads, hcalls, hreads⟩ := hdumped.calls_eq
  refine ⟨?_, ⟨reads, hcalls, hreads⟩, hdumped.not_crashed hroom, hdumped.status_iff hroom⟩
  refine ⟨opening.calls ++ ((if options.sendReset then [.write socket'.fd resetFrame] else []) ++
    List.replicate reads (.read socket'.fd bufferLength)), ?_, ?_⟩
  · rw [Trace.calls_append, hcalls, ← List.append_assoc]
  · intro call hmem
    -- Before the shutdown there are the calls of the open, the reset and reads.
    rcases List.mem_append.mp hmem with hmem | hmem
    · rw [Open.frame?_of_opened hopened hmem]
      exact ⟨nofun, Open.closes?_of_opened hopened hmem⟩
    rcases List.mem_append.mp hmem with hmem | hmem
    · split at hmem
      · cases List.mem_singleton.mp hmem
        have hother : resetFrame ≠ closeFrame := by decide
        exact ⟨fun hsame => hother (Option.some.inj hsame), rfl⟩
      · cases hmem
    · obtain rfl := List.eq_of_mem_replicate hmem
      exact ⟨nofun, rfl⟩

/-- **However a dump ends, the channel that it has opened is shut down**, once and at the very end; and its
exit status tells whether anything failed that matters. -/
theorem dumpCourse (hruns : (lower (runDump budget options) .absent).Runs made (socket, outcome))
    (hfits : Fits made) : DumpCourse budget options made outcome where
  invalid_index hindex := by
    -- An invalid index opens nothing, and what was opened had a valid one.
    rcases dump_cases hruns with ⟨error, -, rfl⟩ | ⟨error, hopens⟩ | ⟨_, _, _, _, hopens, -⟩
    · rfl
    · have hvalid := fromIndex_ok_iff.mp (hopens.runs.imp fun _ => And.left)
      omega
    · have hvalid := fromIndex_ok_iff.mp (hopens.runs.imp fun _ => And.left)
      omega
  opens hlow hhigh := by
    rcases dump_cases hruns with ⟨error, hindex, -⟩ | ⟨error, hopens⟩ | ⟨_, _, _, _, hopens, -⟩
    · obtain ⟨selector, hselector⟩ := fromIndex_ok_iff.mpr ⟨hlow, hhigh⟩
      cases hindex.symm.trans hselector
    · exact ⟨_, _, _, _, hopens⟩
    · exact ⟨_, _, _, _, hopens⟩
  not_opened opening rest live error hopens call hmem := by
    rcases dump_cases hruns with ⟨_, -, rfl⟩ | ⟨_, hother⟩ | ⟨_, _, _, _, hother, -⟩
    · cases hmem
    · obtain ⟨selector, -, hopened⟩ := hother.runs
      exact Open.frame?_of_opened hopened hmem
    · cases (hopens.unique hother).2.2.2
  ends opening rest live devId hopens := dumpEnds_of_opens hruns hfits hopens

/-- A dump of the first controller that resets it and reads until there is no more. -/
def thorough : DumpOptions := ⟨0, none, true, 20⟩

/-- All goes well up to the close, which fails. -/
theorem dumpCourse_thorough :
    (lower (runDump 2 thorough) .absent).Runs ((lower (runDump 2 thorough) .absent).follow Errands.reluctant).1
        (⟨3, true⟩, .during "closing user channel" (.close (.system 5))) ∧
      Fits ((lower (runDump 2 thorough) .absent).follow Errands.reluctant).1 ∧
      DumpCourse 2 thorough ((lower (runDump 2 thorough) .absent).follow Errands.reluctant).1
        (.during "closing user channel" (.close (.system 5))) := by
  have hruns : (lower (runDump 2 thorough) .absent).Runs
      ((lower (runDump 2 thorough) .absent).follow Errands.reluctant).1
      (⟨3, true⟩, .during "closing user channel" (.close (.system 5))) :=
    Program.runs_follow Errands.reluctant (lower (runDump 2 thorough) .absent)
  have hfits : Fits ((lower (runDump 2 thorough) .absent).follow Errands.reluctant).1 := by
    intro fd length status stored hmem
    have hanswer := Program.answer_of_mem_follow hmem
    obtain ⟨rfl, -⟩ := Prod.mk.inj hanswer
    exact Int.natCast_nonneg length
  exact ⟨hruns, hfits, dumpCourse hruns hfits⟩

end HciTransport.CommandLine
