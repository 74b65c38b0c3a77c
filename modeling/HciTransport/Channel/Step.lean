import HciTransport.Channel.Point

/-!
# One step of an operation

`advance` says what an operation does next at a gate. Each access to a flag, each locking, trying or
freeing of a lock, and each beginning of a request is one step; `resume` is the end of a request that
was answered. `rank` falls with every step, so no operation goes on for ever by itself.
-/

namespace HciTransport.Channel

/-- What an operation does next. -/
inductive Move where
  /-- One step: the gate and the point after it, and what is logged. -/
  | step (gate : Gate) (log : List LogEntry) (next : Point)
  /-- Nothing, while another operation holds the lock. -/
  | blocked
  /-- It begins a request. -/
  | begin (pending : Pending)
  /-- Nothing, until its request is answered. -/
  | waiting (pending : Pending)
  /-- Nothing any more. -/
  | over (ending : Ending)

/-- What a read returns, and what it logs, when its request left `got`. -/
def readResult (devId : UInt16) : Option (Receipt IoError) → Receipt HciError × List LogEntry
  | none => (⟨[], .ok 0⟩, [])
  | some ⟨stored, .ok count⟩ => (⟨stored, .ok count⟩, [.frameRead devId count])
  | some ⟨stored, .error cause⟩ => (⟨stored, .error (.receive cause)⟩, [])

/-- Logs a descriptor that could not be given back, where nobody else is told. -/
def releaseWarning (devId : UInt16) : Option (Except IoError Unit) → List LogEntry
  | some (.error cause) => [.closeFailed devId (.close cause)]
  | _ => []

/-- Where an operation goes on when it has tried to give the descriptor back. -/
def afterRelease (devId : UInt16) :
    Releaser → Option (Except IoError Unit) → Point × List LogEntry
  | .reader got, outcome =>
    let (receipt, log) := readResult devId got
    (.ended (.returned (.read receipt)), releaseWarning devId outcome ++ log)
  | .closer .caller, some outcome => (.ended (.returned (.close (outcome.mapError .close))), [])
  | .closer .caller, none => (.ended (.returned (.close (.ok ()))), [.releaseDeferred devId])
  | .closer .owner, some outcome => (.releaseTry .owner, releaseWarning devId (some outcome))
  | .closer .owner, none => (.releaseTry .owner, [.releaseDeferred devId])
  | .owner, outcome => (.ended (.returned .dropped), releaseWarning devId outcome)

/-- Where a close goes on that finds the channel closed. -/
def afterClosed : Closer → Point
  | .caller => .ended (.returned (.close (.ok ())))
  | .owner => .releaseTry .owner

/-- Takes a lock and goes on, when the lock is free. -/
def acquire (gate : Gate) (lock : Lock) (next : Point) : Move :=
  if gate.isLocked lock then .blocked else .step (gate.setLocked true lock) [] next

/-- What an operation on the channel of a controller does next. -/
def advance (devId : UInt16) (gate : Gate) : Point → Move
  | .readStart length =>
    if gate.closed then .step gate [] (.ended (.returned (.read ⟨[], .ok 0⟩)))
    else .step gate [] (.readLock length)
  | .readLock length => acquire gate .read (.readRecheck length)
  -- The channel may have been closed while the read waited for the lock.
  | .readRecheck length =>
    if gate.closed then .step gate [] (.readUnlock none)
    else .step gate [] (.before (.read length))
  | .readUnlock got => .step (gate.setLocked false .read) [] (.readAfter got)
  | .readAfter got =>
    if gate.closed then .step gate [] (.releaseTry (.reader got))
    else
      let (receipt, log) := readResult devId got
      .step gate log (.ended (.returned (.read receipt)))
  | .writeLock frame => acquire gate .write (.writeCheck frame)
  | .writeCheck frame =>
    if gate.closed then .step gate [] (.writeUnlock (.error .closed))
    else .step gate [] (.before (.write frame))
  | .writeUnlock outcome =>
    .step (gate.setLocked false .write) [] (.ended (.returned (.write outcome)))
  -- The flag is read and set in one step, so only one close of a channel finds it unset.
  | .closeMark closer =>
    if gate.closed then .step gate [.alreadyClosed devId] (afterClosed closer)
    else .step { gate with closed := true } [] (.closeLock closer)
  | .closeLock closer => acquire gate .write (.before (.closeFrame closer))
  | .closeUnlock closer =>
    .step (gate.setLocked false .write) [.closing devId] (.releaseTry (.closer closer))
  -- The lock is only tried: its holder gives the descriptor back, or comes here when it is done.
  | .releaseTry releaser =>
    if gate.readLocked then
      let (next, log) := afterRelease devId releaser none
      .step gate log next
    else .step (gate.setLocked true .read) [] (.releaseMark releaser)
  | .releaseMark releaser =>
    if gate.released then .step gate [] (.releaseUnlock releaser none)
    else .step { gate with released := true } [] (.before (.release releaser))
  | .releaseUnlock releaser outcome =>
    let (next, log) := afterRelease devId releaser outcome
    .step (gate.setLocked false .read) log next
  | .dropStart =>
    if gate.closed then .step gate [] (.releaseTry .owner)
    else .step gate [] (.closeMark .owner)
  | .before pending => .begin pending
  | .inside pending => .waiting pending
  -- The lock is freed, but a flag that was set stays set.
  | .unwinding pending => .step (gate.setLocked false pending.lock) [] (.ended .unwound)
  | .ended ending => .over ending

/-- Where an operation goes on when its request is answered, and what it logs. -/
def resume (devId : UInt16) : (pending : Pending) → pending.call.Answer → Point × List LogEntry
  | .read _, receipt => (.readUnlock (some receipt), [])
  | .write _, .ok count => (.writeUnlock (.ok count), [.frameWritten devId count])
  | .write _, .error cause => (.writeUnlock (.error (.send cause)), [])
  | .closeFrame closer, .ok _ => (.closeUnlock closer, [])
  | .closeFrame closer, .error cause => (.closeUnlock closer, [.closeFrameFailed devId cause])
  | .release releaser, outcome => (.releaseUnlock releaser (some outcome), [])

/-! ### Every step leads on -/

/-- How many steps an attempt to give the descriptor back may still entail after it. -/
def Releaser.rank : Releaser → Nat
  | .reader _ | .owner => 0
  | .closer _ => 6

/-- A bound on the steps that are left. -/
def Point.rank : Point → Nat
  | .ended _ => 0
  | .releaseUnlock releaser _ => releaser.rank + 1
  | .releaseMark releaser => releaser.rank + 4
  | .releaseTry releaser => releaser.rank + 5
  | .closeUnlock _ => 12
  | .closeLock _ => 15
  | .closeMark _ => 16
  | .dropStart => 17
  | .readAfter _ => 6
  | .readUnlock _ => 7
  | .readRecheck _ => 10
  | .readLock _ => 11
  | .readStart _ => 12
  | .writeUnlock _ => 1
  | .writeCheck _ => 4
  | .writeLock _ => 5
  | .before (.read _) => 9
  | .before (.write _) => 3
  | .before (.closeFrame _) => 14
  | .before (.release releaser) => releaser.rank + 3
  | .inside (.read _) => 8
  | .inside (.write _) => 2
  | .inside (.closeFrame _) => 13
  | .inside (.release releaser) => releaser.rank + 2
  | .unwinding _ => 1

theorem afterRelease_rank (devId : UInt16) (releaser : Releaser) (outcome : Option (Except IoError Unit)) :
    (afterRelease devId releaser outcome).1.rank ≤ releaser.rank := by
  match releaser, outcome with
  | .reader _, _ | .owner, _ => simp [afterRelease, Point.rank]
  | .closer .caller, none | .closer .caller, some _ => simp [afterRelease, Point.rank]
  | .closer .owner, none | .closer .owner, some _ => simp [afterRelease, Point.rank, Releaser.rank]

/-- A step brings the operation nearer to its end. -/
theorem rank_lt_of_advance {devId : UInt16} {gate after : Gate} {point next : Point}
    {log : List LogEntry} (moves : advance devId gate point = .step after log next) :
    next.rank < point.rank := by
  cases point with
  | releaseTry releaser =>
    have bound := afterRelease_rank devId releaser none
    simp only [advance] at moves
    split at moves <;> obtain ⟨_, _, rfl⟩ := Move.step.inj moves
    · exact Nat.lt_of_le_of_lt bound (Nat.lt_add_of_pos_right (by decide))
    · exact Nat.lt_succ_self _
  | releaseUnlock releaser outcome =>
    have bound := afterRelease_rank devId releaser outcome
    simp only [advance] at moves
    obtain ⟨_, _, rfl⟩ := Move.step.inj moves
    exact Nat.lt_succ_of_le bound
  | closeMark closer =>
    simp only [advance] at moves
    split at moves <;> obtain ⟨_, _, rfl⟩ := Move.step.inj moves <;> cases closer <;>
      simp [Point.rank, afterClosed, Releaser.rank]
  | readStart | readRecheck | readAfter | writeCheck | dropStart | releaseMark =>
    simp only [advance] at moves
    split at moves <;> obtain ⟨_, _, rfl⟩ := Move.step.inj moves <;> simp [Point.rank, Releaser.rank]
  | readLock | writeLock | closeLock =>
    simp only [advance, acquire] at moves
    split at moves <;> simp at moves
    obtain ⟨_, _, rfl⟩ := moves
    simp [Point.rank]
  | readUnlock | writeUnlock | closeUnlock | unwinding =>
    simp only [advance] at moves
    obtain ⟨_, _, rfl⟩ := Move.step.inj moves
    simp [Point.rank, Releaser.rank]
  | before | inside | ended => simp [advance] at moves

/-- An answer brings an operation nearer to its end. -/
theorem rank_resume_lt (devId : UInt16) (pending : Pending) (answer : pending.call.Answer) :
    (resume devId pending answer).1.rank < (Point.inside pending).rank := by
  cases pending with
  | read | release => simp [resume, Point.rank]
  | write frame =>
    cases answer <;> simp [resume, Point.rank]
  | closeFrame closer => cases answer <;> simp [resume, Point.rank]

end HciTransport.Channel
