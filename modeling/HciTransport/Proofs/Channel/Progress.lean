import HciTransport.Proofs.Channel.Release

/-!
# Progress: nobody waits in a circle

An operation can be kept waiting at three points only, and at each of them it asks for one lock and holds
none (`exists_turn_or_waits`). So whoever holds a lock can move, and an operation that cannot waits for one
that can: there is no circle of waiting, however many operations there are.

The lock for frames is held by writes and closes and nobody else, and the other lock is waited for by reads
and nobody else: a close tries it once and goes on if it is taken. So a read that stays at the descriptor
for ever keeps neither a write nor a close waiting (`Run.deadlockFree`).
-/

namespace HciTransport.Channel

variable {devId : UInt16} {operation : Nat} {system : System} {history past : List Occurrence}
  {gate : Gate} {point : Point} {lock : Lock}

/-! ## Who can move -/

/-- The lock that an operation asks for at a point, and waits for if it is taken. -/
def Point.wants : Point → Option Lock
  | .readLock _ => some .read
  | .writeLock _ | .closeLock _ => some .write
  | _ => none

/-- Wherever an operation stands before its end, it has a turn, or asks for a lock that is taken. A request
in progress can always be answered. -/
theorem exists_turn_or_waits (devId : UInt16) (operation : Nat) (gate : Gate)
    (hover : point.isOver = false) :
    (∃ occurrence gate' point', Turn devId operation gate point occurrence gate' point') ∨
      ∃ lock, point.wants = some lock ∧ gate.isLocked lock = true := by
  -- A look at the gate finds it one way or the other, and both ways lead on; only the taking of a lock has to wait.
  cases point with
  | readStart =>
    cases hclosed : gate.closed with
    | true => exact .inl ⟨_, _, _, .readRefused hclosed⟩
    | false => exact .inl ⟨_, _, _, .readStart hclosed⟩
  | readLock =>
    cases hlocked : gate.readLocked with
    | true => exact .inr ⟨.read, rfl, hlocked⟩
    | false => exact .inl ⟨_, _, _, .readLock hlocked⟩
  | readRecheck =>
    cases hclosed : gate.closed with
    | true => exact .inl ⟨_, _, _, .readLate hclosed⟩
    | false => exact .inl ⟨_, _, _, .readRecheck hclosed⟩
  | readUnlock => exact .inl ⟨_, _, _, .readUnlock⟩
  | readAfter =>
    cases hclosed : gate.closed with
    | true => exact .inl ⟨_, _, _, .readAfter hclosed⟩
    | false => exact .inl ⟨_, _, _, .readOver hclosed⟩
  | writeLock =>
    cases hlocked : gate.writeLocked with
    | true => exact .inr ⟨.write, rfl, hlocked⟩
    | false => exact .inl ⟨_, _, _, .writeLock hlocked⟩
  | writeCheck =>
    cases hclosed : gate.closed with
    | true => exact .inl ⟨_, _, _, .writeRefused hclosed⟩
    | false => exact .inl ⟨_, _, _, .writeCheck hclosed⟩
  | writeUnlock => exact .inl ⟨_, _, _, .writeUnlock⟩
  | closeMark =>
    cases hclosed : gate.closed with
    | true => exact .inl ⟨_, _, _, .closeRefused hclosed⟩
    | false => exact .inl ⟨_, _, _, .closeMark hclosed⟩
  | closeLock =>
    cases hlocked : gate.writeLocked with
    | true => exact .inr ⟨.write, rfl, hlocked⟩
    | false => exact .inl ⟨_, _, _, .closeLock hlocked⟩
  | closeUnlock => exact .inl ⟨_, _, _, .closeUnlock⟩
  | releaseTry =>
    -- The read lock is only tried here, so a lock that is taken keeps nobody waiting.
    cases hlocked : gate.readLocked with
    | true => exact .inl ⟨_, _, _, .releaseBusy hlocked⟩
    | false => exact .inl ⟨_, _, _, .releaseTry hlocked⟩
  | releaseMark =>
    cases hreleased : gate.released with
    | true => exact .inl ⟨_, _, _, .releaseVain hreleased⟩
    | false => exact .inl ⟨_, _, _, .releaseMark hreleased⟩
  | releaseUnlock => exact .inl ⟨_, _, _, .releaseUnlock⟩
  | dropStart =>
    cases hclosed : gate.closed with
    | true => exact .inl ⟨_, _, _, .dropClosed hclosed⟩
    | false => exact .inl ⟨_, _, _, .dropOpen hclosed⟩
  | before => exact .inl ⟨_, _, _, .begin⟩
  | inside pending => exact .inl ⟨_, _, _, turn_of_resume pending pending.granted⟩
  | unwinding => exact .inl ⟨_, _, _, .unwind⟩
  | ended => cases hover

/-- Nobody asks for a lock who holds one. -/
theorem wants_of_held (hheld : point.held = some lock) : point.wants = none := by
  cases point with
  | readLock | writeLock | closeLock => cases hheld
  | _ => rfl

/-- Nobody holds a lock at its end. -/
theorem isOver_of_held (hheld : point.held = some lock) : point.isOver = false := by
  cases point with
  | ended => cases hheld
  | _ => rfl

/-- Nobody asks for a lock at its end. -/
theorem isOver_of_wants (hwants : point.wants = some lock) : point.isOver = false := by
  cases point with
  | ended => cases hwants
  | _ => rfl

/-! ## What kind waits, and what kind is waited for -/

/-- Only reads wait for the read lock. -/
theorem kind?_of_wants_read (hwants : point.wants = some .read) : point.kind? = some .read := by
  cases point with
  | readLock => rfl
  | writeLock | closeLock => cases hwants
  | _ => cases hwants

/-- Only writes and closes hold the write lock. -/
theorem kind?_of_held_write (hheld : point.held = some .write) :
    point.kind? = some .write ∨ ∃ closer : Closer, point.kind? = some closer.kind := by
  cases point with
  | writeCheck | writeUnlock => exact .inl rfl
  | closeUnlock closer => exact .inr ⟨closer, rfl⟩
  | before pending | inside pending | unwinding pending =>
    cases pending with
    | write => exact .inl rfl
    | closeFrame closer => exact .inr ⟨closer, rfl⟩
    | read | release => cases hheld
  | _ => cases hheld

/-- An operation is started once. -/
theorem Course.started_unique (hcourse : Course devId operation past point) {asked other : Point}
    (hasked : .started operation asked ∈ past) (hother : .started operation other ∈ past) :
    asked = other := by
  induction hcourse with
  | start =>
    cases List.mem_singleton.mp hasked
    cases List.mem_singleton.mp hother
    rfl
  | @turn past _ _ _ _ occurrence hbefore hturn ih =>
    -- No turn is a start, so both belong to what was before.
    have hearlier : ∀ start, .started operation start ∈ past ++ [occurrence] →
        .started operation start ∈ past := by
      intro start hmem
      rcases List.mem_append.mp hmem with hmem | hmem
      · exact hmem
      · obtain rfl := List.mem_singleton.mp hmem
        cases hturn
    exact ih (hearlier asked hasked) (hearlier other hother)

/-- An operation that is not over is of the kind that it was asked to be. -/
theorem Run.kind?_of_started (hrun : Run devId history system) {asked : Point}
    (hasked : .started operation asked ∈ history) (hhere : system.points[operation]? = some point)
    (hover : point.isOver = false) : point.kind? = asked.kind? := by
  have hcourse := hrun.course hhere
  obtain ⟨start, -, hstarted, hkind, -⟩ := hcourse.kind_eq
  obtain rfl : start = asked := hcourse.started_unique hstarted (mem_own.mpr ⟨hasked, rfl⟩)
  refine hkind.resolve_right ?_
  rintro rfl
  cases hover

/-! ## Systems -/

namespace System

/-- The operation was started and has not come to its end. -/
def Unfinished (system : System) (operation : Nat) : Prop :=
  ∃ point, system.points[operation]? = some point ∧ point.isOver = false

/-- One of the steps that the system can take is a step of this operation. -/
def CanMove (devId : UInt16) (system : System) (operation : Nat) : Prop :=
  system.Unfinished operation ∧
    ∃ occurrence next, Step devId system occurrence next ∧ occurrence.number = operation

/-- The operation asks for a lock that is taken. -/
def Waits (system : System) (operation : Nat) (lock : Lock) : Prop :=
  ∃ point, system.points[operation]? = some point ∧ point.wants = some lock ∧
    system.gate.isLocked lock = true

/-- The operation holds the lock. -/
def Holds (system : System) (operation : Nat) (lock : Lock) : Prop :=
  ∃ point, system.points[operation]? = some point ∧ point.held = some lock

end System

/-- The operation was asked to write a frame or to close the channel. -/
def AskedToSend (history : List Occurrence) (operation : Nat) : Prop :=
  (∃ frame, .started operation (.write frame) ∈ history) ∨ .started operation .close ∈ history

/-- Who holds a lock can move. -/
theorem System.canMove_of_holds (devId : UInt16) (hholds : system.Holds operation lock) :
    system.CanMove devId operation := by
  obtain ⟨point, hhere, hheld⟩ := hholds
  have hover := isOver_of_held hheld
  refine ⟨⟨point, hhere, hover⟩, ?_⟩
  rcases exists_turn_or_waits devId operation system.gate hover with
    ⟨occurrence, gate', point', hturn⟩ | ⟨wanted, hwants, -⟩
  · exact ⟨occurrence, _, hturn.step hhere, hturn.number_eq⟩
  · rw [wants_of_held hheld] at hwants
    cases hwants

/-- Who waits for a lock holds none. -/
theorem System.Waits.not_holds {held : Lock} (hwaits : system.Waits operation lock) :
    ¬ system.Holds operation held := by
  obtain ⟨point, hhere, hwants, -⟩ := hwaits
  rintro ⟨point', hhere', hheld⟩
  obtain rfl : point = point' := Option.some.inj (hhere.symm.trans hhere')
  rw [wants_of_held hheld] at hwants
  cases hwants

/-- Who has not come to its end can move, or waits for a lock. -/
theorem System.Unfinished.canMove_or_waits (devId : UInt16) (hlive : system.Unfinished operation) :
    system.CanMove devId operation ∨ ∃ lock, system.Waits operation lock := by
  obtain ⟨point, hhere, hover⟩ := hlive
  rcases exists_turn_or_waits devId operation system.gate hover with
    ⟨occurrence, gate', point', hturn⟩ | ⟨lock, hwants, hlocked⟩
  · exact .inl ⟨⟨point, hhere, hover⟩, occurrence, _, hturn.step hhere, hturn.number_eq⟩
  · exact .inr ⟨lock, point, hhere, hwants, hlocked⟩

/-- **A lock that is waited for is held by somebody who can move.** -/
theorem Run.exists_holder (hrun : Run devId history system) (hwaits : system.Waits operation lock) :
    ∃ holder, system.Holds holder lock ∧ system.CanMove devId holder := by
  obtain ⟨point, -, -, hlocked⟩ := hwaits
  obtain ⟨holder, point', hhere, hheld⟩ := hrun.exists_held hlocked
  have hholds : system.Holds holder lock := ⟨point', hhere, hheld⟩
  exact ⟨holder, hholds, System.canMove_of_holds devId hholds⟩

/-- No read holds the write lock. -/
theorem Run.not_holds_of_read (hrun : Run devId history system) {length : Nat}
    (hread : .started operation (.read length) ∈ history) : ¬ system.Holds operation .write := by
  rintro ⟨point, hhere, hheld⟩
  have hkind := hrun.kind?_of_started hread hhere (isOver_of_held hheld)
  -- Its kind would be another one than it was started as.
  rcases kind?_of_held_write hheld with hwrite | ⟨closer, hclose⟩
  · rw [hwrite] at hkind
    cases hkind
  · rw [hclose] at hkind
    cases closer <;> cases hkind

/-- Whoever holds the write lock was asked to write or to close. -/
theorem Run.askedToSend_of_holds (hrun : Run devId history system)
    (hholds : system.Holds operation .write) : AskedToSend history operation := by
  obtain ⟨point, hhere, hheld⟩ := hholds
  obtain ⟨asked, hasked, hown, -, -⟩ := (hrun.course hhere).kind_eq
  have hstarted := (mem_own.mp hown).1
  -- There is nothing else that can be asked for than these three.
  cases hasked with
  | read length => exact absurd ⟨point, hhere, hheld⟩ (hrun.not_holds_of_read hstarted)
  | write frame => exact .inl ⟨frame, hstarted⟩
  | close => exact .inr hstarted

/-- A write or a close waits for no lock but the one for frames. -/
theorem Run.waits_write_of_askedToSend (hrun : Run devId history system)
    (hasked : AskedToSend history operation) (hwaits : system.Waits operation lock) :
    lock = .write := by
  obtain ⟨point, hhere, hwants, -⟩ := hwaits
  -- If it were the read lock, it would be a read.
  cases lock with
  | write => rfl
  | read =>
    have hlive := isOver_of_wants hwants
    have hread := kind?_of_wants_read hwants
    rcases hasked with ⟨frame, hstarted⟩ | hstarted
    · rw [hrun.kind?_of_started hstarted hhere hlive] at hread
      cases hread
    · rw [hrun.kind?_of_started hstarted hhere hlive] at hread
      cases hread

/-- In a state that a run has reached nobody is stuck. -/
structure DeadlockFree (devId : UInt16) (history : List Occurrence) (system : System) : Prop where
  /-- If an operation has not come to its end, then one that has not can move. -/
  progress : ∀ i, system.Unfinished i → ∃ j, system.CanMove devId j
  /-- A write or a close that has not come to its end can move, or it waits for the write lock, and another
  write or close holds this lock and can move. -/
  senders : ∀ i, AskedToSend history i → system.Unfinished i →
    system.CanMove devId i ∨
      system.Waits i .write ∧
        ∃ j, j ≠ i ∧ AskedToSend history j ∧ system.Holds j .write ∧ system.CanMove devId j
  /-- What a write or a close waits for, no read holds. -/
  never_for_reads : ∀ i lock, AskedToSend history i → system.Waits i lock →
    ∀ j length, .started j (.read length) ∈ history → ¬ system.Holds j lock

/-- **Nobody is stuck, and a read keeps no write and no close waiting**, in every state of every run. -/
theorem Run.deadlockFree (hrun : Run devId history system) : DeadlockFree devId history system where
  progress i hlive := by
    rcases hlive.canMove_or_waits devId with hmoves | ⟨lock, hwaits⟩
    · exact ⟨i, hmoves⟩
    · obtain ⟨holder, -, hmoves⟩ := hrun.exists_holder hwaits
      exact ⟨holder, hmoves⟩
  senders i hasked hlive := by
    rcases hlive.canMove_or_waits devId with hmoves | ⟨lock, hwaits⟩
    · exact .inl hmoves
    · obtain rfl := hrun.waits_write_of_askedToSend hasked hwaits
      obtain ⟨holder, hholds, hmoves⟩ := hrun.exists_holder hwaits
      refine .inr ⟨hwaits, holder, ?_, hrun.askedToSend_of_holds hholds, hholds, hmoves⟩
      -- Who waits holds nothing, so it is somebody else who holds the lock.
      rintro rfl
      exact hwaits.not_holds hholds
  never_for_reads i lock hasked hwaits j length hread := by
    obtain rfl := hrun.waits_write_of_askedToSend hasked hwaits
    exact hrun.not_holds_of_read hread

/-- A read waits for input at the descriptor, a frame is being written, and a close waits for its turn. -/
def crowded : List Choice :=
  [.read 4, .go 0, .go 0, .go 0, .go 0,
   .write [0x01, 0x03, 0x0c, 0x00], .go 1, .go 1, .go 1,
   .close, .go 2]

/-- The close cannot move, and the frame that it waits for can. -/
theorem deadlockFree_crowded :
    Run 0 (play 0 crowded).1 (play 0 crowded).2 ∧
      (play 0 crowded).2.InProgress 0 (.read 4) ∧
      (play 0 crowded).2.InProgress 1 (.write [0x01, 0x03, 0x0c, 0x00]) ∧
      (play 0 crowded).2.Waits 2 .write ∧
      DeadlockFree 0 (play 0 crowded).1 (play 0 crowded).2 := by
  have hrun : Run 0 (play 0 crowded).1 (play 0 crowded).2 := run_play 0 crowded
  exact ⟨hrun, rfl, rfl, ⟨.closeLock .caller, rfl, rfl, rfl⟩, hrun.deadlockFree⟩

end HciTransport.Channel
