import HciTransport.Proofs.Channel.Course
import HciTransport.Proofs.Channel.Order
import HciTransport.Proofs.Channel.Schedule

/-!
# Frames: what is written, by whom and when

A write that is told that the channel is closed has written nothing, and every other write that has come
to its end has written its own frame, once. `Writing` is the account: it says for each point of a write
what it has written when it stands there, and `Course.writing` that every write keeps to it. A frame may still
be written after the channel was closed, but not after the close frame.
-/

namespace HciTransport.Channel

variable {devId : UInt16} {operation : Nat} {system : System} {history past : List Occurrence}
  {occurrence : Occurrence} {gate gate' : Gate} {point point' : Point} {frame bytes : Bytes}

/-! ## What is written -/

/-- The bytes that a request hands to the descriptor to be written, if it is one to write. -/
def Pending.bytes? (pending : Pending) : Option Bytes :=
  match pending.call with
  | .write bytes => some bytes
  | _ => none

/-- The bytes that an occurrence hands to the descriptor. -/
def Occurrence.bytes? : Occurrence → Option Bytes
  | .began _ pending => pending.bytes?
  | _ => none

/-- What an operation has had written, in order. -/
def written (history : List Occurrence) (operation : Nat) : List Bytes :=
  (own history operation).filterMap Occurrence.bytes?

/-- Whatever is written is written under the write lock. -/
theorem lock_of_bytes? {pending : Pending} (h : pending.bytes? = some bytes) : pending.lock = .write := by
  cases pending with
  | write | closeFrame => rfl
  | read | release => cases h

/-! ## The account of a write -/

/-- What a write of `frame` has written, by the point where it stands. -/
inductive Writing (frame : Bytes) : List Bytes → Point → Prop where
  | lock : Writing frame [] (.writeLock frame)
  | check : Writing frame [] (.writeCheck frame)
  | ready : Writing frame [] (.before (.write frame))
  | refused : Writing frame [] (.writeUnlock (.error .closed))
  | denied : Writing frame [] (.ended (.returned (.write (.error .closed))))
  | inside : Writing frame [frame] (.inside (.write frame))
  | torn : Writing frame [frame] (.unwinding (.write frame))
  | answered {outcome : Except HciError Nat} (hserved : outcome ≠ .error .closed) :
      Writing frame [frame] (.writeUnlock outcome)
  | returned {outcome : Except HciError Nat} (hserved : outcome ≠ .error .closed) :
      Writing frame [frame] (.ended (.returned (.write outcome)))
  | unwound : Writing frame [frame] (.ended .unwound)

/-- A turn of a write keeps the account. -/
theorem Turn.writing {before : List Bytes} (hturn : Turn devId operation gate point occurrence gate' point')
    (hwriting : Writing frame before point) :
    Writing frame (before ++ occurrence.bytes?.toList) point' := by
  -- What is written is added in one row only, where the request begins.
  cases hwriting with
  | lock => cases hturn; exact .check
  | check =>
    cases hturn with
    | writeRefused => exact .refused
    | writeCheck => exact .ready
  | ready => cases hturn; exact .inside
  | refused => cases hturn; exact .denied
  | inside =>
    cases hturn with
    | answerWrite answer =>
      refine .answered ?_
      -- What the descriptor says of a frame is never that the channel is closed.
      cases answer <;> nofun
    | abandon => exact .torn
  | torn => cases hturn; exact .unwound
  | answered hserved => cases hturn; exact .returned hserved
  | denied | returned | unwound => cases hturn

/-- **Every write keeps to the account.** -/
theorem Course.writing (hcourse : Course devId operation past point)
    (hstarted : .started operation (.write frame) ∈ past) :
    Writing frame (past.filterMap Occurrence.bytes?) point := by
  induction hcourse with
  | start hasked =>
    cases List.mem_singleton.mp hstarted
    exact .lock
  | @turn past gate gate' point point' occurrence hbefore hturn ih =>
    have hearlier : .started operation (.write frame) ∈ past := by
      rcases List.mem_append.mp hstarted with hmem | hmem
      · exact hmem
      · rw [← List.mem_singleton.mp hmem] at hturn
        cases hturn
    have hsum : (past ++ [occurrence]).filterMap Occurrence.bytes? =
        past.filterMap Occurrence.bytes? ++ occurrence.bytes?.toList := by
      rw [List.filterMap_append]
      cases h : occurrence.bytes? <;> simp [h]
    rw [hsum]
    exact hturn.writing (ih hearlier)

/-- Every write of a run keeps to the account. -/
theorem Run.writing (hrun : Run devId history system)
    (hstarted : .started operation (.write frame) ∈ history)
    (hhere : system.points[operation]? = some point) :
    Writing frame (written history operation) point :=
  (hrun.course hhere).writing (mem_own.mpr ⟨hstarted, rfl⟩)

/-! ## The main result -/

/-- A write has its own frame written and nothing else. -/
theorem Run.eq_write_of_began (hrun : Run devId history system)
    (hbegan : .began operation (.write bytes) ∈ history) :
    .started operation (.write bytes) ∈ history := by
  obtain ⟨frame, hstarted⟩ := hrun.write_of_began hbegan
  obtain ⟨point, hhere, -⟩ := hrun.exists_course hbegan
  have hwriting := hrun.writing hstarted hhere
  have hmem : bytes ∈ written history operation :=
    List.mem_filterMap.mpr ⟨_, mem_own.mpr ⟨hbegan, rfl⟩, rfl⟩
  generalize written history operation = frames at hwriting hmem
  -- It has had written this and, by its account, its own frame and nothing else.
  have hbytes : bytes = frame := by
    cases hwriting <;> simp at hmem <;> exact hmem
  rw [hbytes]
  exact hstarted

/-- What is written in a run, one frame at a time. -/
structure WritesAccounted (devId : UInt16) (history : List Occurrence) (system : System) : Prop where
  /-- One request to write at most is in progress, be it for a caller's frame or for the close frame. -/
  one_write : ∀ i j first second, system.InProgress i first → system.InProgress j second →
    first.bytes?.isSome = true → second.bytes?.isSome = true → i = j
  /-- A write that was told that the channel is closed has written nothing. -/
  refused : ∀ i frame, .started i (.write frame) ∈ history →
    system.points[i]? = some (.ended (.returned (.write (.error .closed)))) → written history i = []
  /-- Every other write that is over has written its own frame, once. -/
  served : ∀ i frame ending, .started i (.write frame) ∈ history →
    system.points[i]? = some (.ended ending) → ending ≠ .returned (.write (.error .closed)) →
    written history i = [frame]
  /-- Whatever else is written is the close frame, and a close has it written. -/
  others : ∀ i pending bytes, .began i pending ∈ history → pending.bytes? = some bytes →
    pending = .write bytes ∧ .started i (.write bytes) ∈ history ∨
      pending = .closeFrame .caller ∧ .started i .close ∈ history ∧ bytes = HciTransport.closeFrame
  close_frame_once : history.countP Occurrence.isCloseFrame ≤ 1
  /-- After the close frame no frame of a caller is written. -/
  close_frame_last : ∀ earlier later i closer, history = earlier ++ .began i (.closeFrame closer) :: later →
    ∀ j frame, .began j (.write frame) ∉ later

/-- **Writes are accounted for and the close frame is the last**, in every run and whatever becomes of the
requests. -/
theorem Run.writesAccounted (hrun : Run devId history system) : WritesAccounted devId history system where
  one_write i j first second hi hj hfirst hsecond := by
    obtain ⟨_, hfirst⟩ := Option.isSome_iff_exists.mp hfirst
    obtain ⟨_, hsecond⟩ := Option.isSome_iff_exists.mp hsecond
    refine hrun.inside_unique hi hj ?_
    rw [lock_of_bytes? hfirst, lock_of_bytes? hsecond]
  refused i frame hstarted hhere := by
    have hwriting := hrun.writing hstarted hhere
    generalize written history i = frames at hwriting ⊢
    cases hwriting with
    | denied => rfl
    -- What the descriptor answers is never that the channel is closed.
    | returned hserved => exact absurd rfl hserved
  served i frame ending hstarted hhere hserved := by
    have hwriting := hrun.writing hstarted hhere
    generalize written history i = frames at hwriting ⊢
    cases hwriting with
    | denied => exact absurd rfl hserved
    | returned | unwound => rfl
  others i pending bytes hbegan hbytes := by
    -- Only these two requests write, each for a call of its own kind.
    cases pending with
    | write frame =>
      obtain rfl : frame = bytes := Option.some.inj hbytes
      exact .inl ⟨rfl, hrun.eq_write_of_began hbegan⟩
    | closeFrame closer =>
      obtain ⟨rfl, hstarted⟩ := hrun.close_of_began hbegan
      exact .inr ⟨rfl, hstarted, (Option.some.inj hbytes).symm⟩
    | read | release => cases hbytes
  close_frame_once := by
    have hledger := hrun.closeFrame_ledger
    have hone := Bool.toNat_le system.gate.closed
    omega
  close_frame_last earlier later i closer hhistory j frame :=
    hrun.none_after_shut hhistory rfl rfl rfl

/-- In this run one write is served while the channel is closed, and another one is refused. -/
theorem writesAccounted_lateWrite :
    Run 0 (play 0 lateWrite).1 (play 0 lateWrite).2 ∧
      written (play 0 lateWrite).1 0 = [[0x01, 0x03, 0x0c, 0x00]] ∧
      written (play 0 lateWrite).1 1 = [HciTransport.closeFrame] ∧
      written (play 0 lateWrite).1 2 = [] ∧
      WritesAccounted 0 (play 0 lateWrite).1 (play 0 lateWrite).2 := by
  have hrun : Run 0 (play 0 lateWrite).1 (play 0 lateWrite).2 := run_play 0 lateWrite
  exact ⟨hrun, rfl, rfl, rfl, hrun.writesAccounted⟩

end HciTransport.Channel
