import HciTransport.CommandLine.Run
import HciTransport.Proofs.Channel.Alone
import HciTransport.Proofs.Socket.Lowering

/-!
# The loop of a dump

A dump reads into one buffer, again and again, and prints a line for each read that has brought something.
`Frames` is the table of all that the loop can make the kernel do, with the outcome it ends with: a row for
each way to leave the loop, and one for a round after which it goes on. The table is complete
(`frames_of_runs`). The loop asks for reads only (`Frames.calls_eq`), and how it ends depends on them
(`Frames.outcome_cases`).
-/

namespace HciTransport.CommandLine

open Channel (Gate)

variable {devId : UInt16} {budget : Nat} {wanted : Option Nat} {buffer : Bytes} {gate : Gate}
  {socket socket' : RawSocket} {asked : Trace Descriptor} {made : Trace Kernel} {outcome : Outcome} {fd : Int}

/-! ## The table -/

/-- A read of the loop. -/
def readInto (fd : Int) (status : Status) (stored : Bytes) : Sign Kernel :=
  .asked (.read fd bufferLength) (status, stored)

/-- The note about a read that has not failed. -/
def readNote (devId : UInt16) (status : Status) : Sign Kernel := .said (.log (.frameRead devId status.ret.toNat))

/-- What the loop does on the number `fd` while `budget` reads are left to be looked at and `wanted` frames to
be printed, and the outcome that it ends with. -/
inductive Frames (devId : UInt16) (fd : Int) :
    (budget : Nat) → (wanted : Option Nat) → (buffer : Bytes) → Trace Kernel → Outcome → Prop where
  /-- As many frames were printed as were wanted. -/
  | enough {budget : Nat} {buffer : Bytes} : Frames devId fd budget (some 0) buffer [] .success
  /-- The loop goes on, but nobody looks at it any more. -/
  | unseen {wanted : Option Nat} {buffer : Bytes} (hwanted : wanted ≠ some 0) :
      Frames devId fd 0 wanted buffer [] .unfinished
  /-- The channel has no more. -/
  | ended {budget : Nat} {wanted : Option Nat} {buffer stored : Bytes} {status : Status}
      (hwanted : wanted ≠ some 0) (hret : status.ret = 0) :
      Frames devId fd (budget + 1) wanted buffer [readInto fd status stored, readNote devId status] .success
  /-- The read fails. -/
  | broken {budget : Nat} {wanted : Option Nat} {buffer stored : Bytes} {status : Status}
      (hwanted : wanted ≠ some 0) (hret : status.ret < 0) :
      Frames devId fd (budget + 1) wanted buffer [readInto fd status stored]
        (.ofError (.receive (.system status.errno)))
  /-- The read counts more than the buffer holds. -/
  | overrun {budget : Nat} {wanted : Option Nat} {buffer stored : Bytes} {status : Status}
      (hwanted : wanted ≠ some 0) (hret : (bufferLength : Int) < status.ret) :
      Frames devId fd (budget + 1) wanted buffer [readInto fd status stored, readNote devId status] .crashed
  /-- A frame is printed. -/
  | frame {budget : Nat} {wanted : Option Nat} {buffer stored : Bytes} {status : Status} {made : Trace Kernel}
      {outcome : Outcome} (hwanted : wanted ≠ some 0) (hsome : 0 < status.ret)
      (hfits : status.ret ≤ (bufferLength : Int))
      (hrest : Frames devId fd budget (wanted.map (· - 1)) (Bytes.overlay stored buffer) made outcome) :
      Frames devId fd (budget + 1) wanted buffer
        (readInto fd status stored :: readNote devId status ::
          .said (.line (frameLine ((Bytes.overlay stored buffer).take status.ret.toNat))) :: made)
        outcome

/-! ### What the loop comes to on an open channel -/

/-- How the loop goes on when its read is answered. -/
def afterRead (devId : UInt16) (budget : Nat) (wanted : Option Nat) (buffer : Bytes) :
    Receipt IoError → Program Descriptor (Gate × Outcome)
  | ⟨_, .error cause⟩ => .done (.opened, .ofError (.receive cause))
  | ⟨stored, .ok count⟩ => .emit (.log (.frameRead devId count)) <|
    if count = 0 then .done (.opened, .success)
    else if bufferLength < count then .done (.opened, .crashed)
    else .emit (.line (frameLine ((Bytes.overlay stored buffer).take count)))
      (dumpFrames devId budget (wanted.map (· - 1)) .opened (Bytes.overlay stored buffer))

/-- Where no more frames are wanted the loop is over. -/
theorem dumpFrames_enough : dumpFrames devId budget (some 0) gate buffer = .done (gate, .success) := by
  rw [dumpFrames.eq_def]
  exact if_pos rfl

theorem dumpFrames_zero (hwanted : wanted ≠ some 0) :
    dumpFrames devId 0 wanted gate buffer = .done (gate, .unfinished) := by
  rw [dumpFrames]
  exact if_neg hwanted

/-- While frames are wanted and a read is left, the loop reads and goes by the answer. -/
theorem dumpFrames_succ (hwanted : wanted ≠ some 0) :
    dumpFrames devId (budget + 1) wanted .opened buffer =
      .call (.read bufferLength) (afterRead devId budget wanted buffer) := by
  rw [dumpFrames, if_neg hwanted, Channel.run_read_opened]
  refine Program.call_congr fun receipt => ?_
  rcases receipt with ⟨stored, cause | count⟩ <;> rfl

/-- **The table is complete.** The loop leaves the channel as it has found it. -/
theorem frames_of_runs (hruns : (dumpFrames devId budget wanted .opened buffer).Runs asked (gate, outcome))
    (hserved : Served socket asked made socket') :
    gate = .opened ∧ socket' = socket ∧ Frames devId socket.fd budget wanted buffer made outcome := by
  -- Over the reads that are left: a round uses up one, and hands a new buffer and a new count to the rest.
  induction budget generalizing wanted buffer asked made with
  | zero =>
    by_cases hwanted : wanted = some 0
    · rw [hwanted, dumpFrames_enough] at hruns
      obtain ⟨rfl, hended⟩ := Program.runs_done_iff.mp hruns
      cases hended
      cases hserved
      exact ⟨rfl, rfl, hwanted ▸ .enough⟩
    · rw [dumpFrames_zero hwanted] at hruns
      obtain ⟨rfl, hended⟩ := Program.runs_done_iff.mp hruns
      cases hended
      cases hserved
      exact ⟨rfl, rfl, .unseen hwanted⟩
  | succ budget ih =>
    by_cases hwanted : wanted = some 0
    · rw [hwanted, dumpFrames_enough] at hruns
      obtain ⟨rfl, hended⟩ := Program.runs_done_iff.mp hruns
      cases hended
      cases hserved
      exact ⟨rfl, rfl, hwanted ▸ .enough⟩
    rw [dumpFrames_succ hwanted] at hruns
    obtain ⟨receipt, _, rfl, hread⟩ := Program.runs_call_iff.mp hruns
    obtain ⟨status, stored, made, rfl, rfl, hnext⟩ := hserved.of_read
    by_cases hfailed : status.ret < 0
    · rw [Status.unlessNegative, if_pos hfailed] at hread
      obtain ⟨rfl, hended⟩ := Program.runs_done_iff.mp hread
      cases hended
      cases hnext
      exact ⟨rfl, rfl, .broken hwanted hfailed⟩
    rw [Status.unlessNegative, if_neg hfailed] at hread
    obtain ⟨_, rfl, hnoted⟩ := Program.runs_emit_iff.mp hread
    obtain ⟨made, rfl, hlater⟩ := hnext.of_said
    -- From here on the number is a count, so the two tests on it are tests on the number of the kernel.
    have hcount : (status.ret.toNat : Int) = status.ret := Int.toNat_of_nonneg (Int.not_lt.mp hfailed)
    split at hnoted
    -- Nothing was read, which is the end of the channel.
    · next hzero =>
      obtain ⟨rfl, hended⟩ := Program.runs_done_iff.mp hnoted
      cases hended
      cases hlater
      exact ⟨rfl, rfl, .ended hwanted (by omega)⟩
    split at hnoted
    -- More is counted than there is room for.
    · next hover =>
      obtain ⟨rfl, hended⟩ := Program.runs_done_iff.mp hnoted
      cases hended
      cases hlater
      exact ⟨rfl, rfl, .overrun hwanted (by omega)⟩
    · next hfits =>
      obtain ⟨_, rfl, hmore⟩ := Program.runs_emit_iff.mp hnoted
      obtain ⟨made, rfl, hrest⟩ := hlater.of_said
      obtain ⟨hgate, hsocket, hframes⟩ := ih hmore hrest
      exact ⟨hgate, hsocket, .frame hwanted (by omega) (by omega) hframes⟩

/-! ## What the loop asks of the kernel -/

/-- The loop reads and does nothing else. One that is not over when nobody looks any more has used up all the
reads that it had. -/
theorem Frames.calls_eq (hframes : Frames devId fd budget wanted buffer made outcome) :
    ∃ reads, made.calls = List.replicate reads (.read fd bufferLength) ∧ (outcome = .unfinished → reads = budget) := by
  -- Along the rounds, each of which makes one call.
  induction hframes with
  | enough => exact ⟨0, rfl, nofun⟩
  | unseen => exact ⟨0, rfl, fun _ => rfl⟩
  | ended | broken | overrun => exact ⟨1, rfl, nofun⟩
  | frame hwanted hsome hfits hrest ih =>
    obtain ⟨reads, hcalls, hreads⟩ := ih
    refine ⟨reads + 1, ?_, fun hunfinished => congrArg (· + 1) (hreads hunfinished)⟩
    exact congrArg (.read fd bufferLength :: ·) hcalls

/-- A read does not count more than it was given room for. -/
def Fits (made : Trace Kernel) : Prop :=
  ∀ fd length status stored,
    Sign.asked (KernelCall.read fd length) (status, stored) ∈ made → status.ret ≤ (length : Int)

theorem Fits.mono {part : Trace Kernel} (hfits : Fits made) (hpart : part ⊆ made) : Fits part :=
  fun _ _ _ _ hmem => hfits _ _ _ _ (hpart hmem)

/-! ## What the outcome depends on -/

/-- No call has failed, but for the close frame. -/
def Unharmed (fd : Int) (made : Trace Kernel) : Prop :=
  ∀ sign ∈ made, sign.Failed → sign.call? = some (.write fd closeFrame)

theorem unharmed_nil : Unharmed fd [] := List.forall_mem_nil _

theorem unharmed_append {before after : Trace Kernel} :
    Unharmed fd (before ++ after) ↔ Unharmed fd before ∧ Unharmed fd after := List.forall_mem_append

theorem unharmed_said {event : Event} : Unharmed fd (.said event :: made) ↔ Unharmed fd made :=
  List.forall_mem_cons.trans (and_iff_right False.elim)

theorem unharmed_ofLog (entries : List LogEntry) : Unharmed fd (Trace.ofLog entries) := by
  induction entries with
  | nil => exact unharmed_nil
  | cons entry entries ih => exact unharmed_said.mpr ih

/-- The close frame may fail. -/
theorem unharmed_closeFrame {answer : Status} :
    Unharmed fd (.asked (KernelCall.write fd closeFrame) answer :: made) ↔ Unharmed fd made :=
  List.forall_mem_cons.trans (and_iff_right fun _ => rfl)

/-- Every other call has to succeed. -/
theorem unharmed_asked {call : KernelCall} {answer : call.Answer} (hcall : call ≠ .write fd closeFrame) :
    Unharmed fd (.asked call answer :: made) ↔ ¬ Sign.Failed (.asked call answer) ∧ Unharmed fd made := by
  refine List.forall_mem_cons.trans (and_congr_left fun _ => ?_)
  exact ⟨fun hspared hfailed => hcall (Option.some.inj (hspared hfailed)),
    fun hgranted hfailed => absurd hfailed hgranted⟩

theorem unharmed_readInto {status : Status} {stored : Bytes} :
    Unharmed fd (readInto fd status stored :: made) ↔ 0 ≤ status.ret ∧ Unharmed fd made := by
  have hother : KernelCall.read fd bufferLength ≠ .write fd closeFrame := nofun
  exact (unharmed_asked hother).trans (and_congr_left fun _ => (not_congr failed_read).trans Int.not_lt)

/-- The loop ends in failure where a read has failed, and nowhere else. -/
theorem Frames.outcome_cases (hframes : Frames devId fd budget wanted buffer made outcome) (hfits : Fits made) :
    ((outcome = .success ∨ outcome = .unfinished) ∧ Unharmed fd made) ∨
      (∃ error, outcome = .ofError error) ∧ ¬ Unharmed fd made := by
  induction hframes with
  | enough => exact .inl ⟨.inl rfl, unharmed_nil⟩
  | unseen => exact .inl ⟨.inr rfl, unharmed_nil⟩
  | ended hwanted hret =>
    refine .inl ⟨.inl rfl, ?_⟩
    rw [unharmed_readInto, readNote, unharmed_said]
    exact ⟨by omega, unharmed_nil⟩
  | broken hwanted hret =>
    refine .inr ⟨⟨_, rfl⟩, ?_⟩
    rw [unharmed_readInto]
    omega
  -- A count beyond the room is excluded here.
  | overrun hwanted hret =>
    have hread := hfits _ _ _ _ List.mem_cons_self
    omega
  -- The read of this round has not failed, so the rest decides.
  | frame hwanted hsome hroom hrest ih =>
    rw [unharmed_readInto, readNote, unharmed_said, unharmed_said, and_iff_right (Int.le_of_lt hsome)]
    exact ih (hfits.mono fun _ hmem => List.mem_cons_of_mem _ (List.mem_cons_of_mem _ (List.mem_cons_of_mem _ hmem)))

end HciTransport.CommandLine
