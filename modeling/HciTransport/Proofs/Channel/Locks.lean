import HciTransport.Proofs.Channel.Turn

/-!
# Locks: who holds them

A point says which lock an operation holds there, if it holds one. Over every run a lock is held by one
operation if it is locked and by none if it is not (`Run.countP_holds`). So two operations that hold the
same lock are one (`Run.held_unique`), and one request for each lock is in progress at most
(`Run.inside_unique`). An operation whose request was abandoned holds its lock until it has freed it, so
none of this minds an abandoned request.
-/

namespace HciTransport.Channel

variable {devId : UInt16} {operation : Nat} {system : System} {history : List Occurrence}
  {occurrence : Occurrence} {gate gate' : Gate} {point point' : Point}

/-- The lock that an operation holds at a point; it never holds two. -/
def Point.held : Point → Option Lock
  | .readRecheck _ | .readUnlock _ | .releaseMark _ | .releaseUnlock _ _ => some .read
  | .writeCheck _ | .writeUnlock _ | .closeUnlock _ => some .write
  | .before pending | .inside pending | .unwinding pending => some pending.lock
  | _ => none

/-- The operation holds this lock at the point. -/
def Point.holds (lock : Lock) (point : Point) : Bool := point.held = some lock

@[simp] theorem holds_eq_true {lock : Lock} : point.holds lock = true ↔ point.held = some lock := by
  simp [Point.holds]

/-- A close that was refused holds nothing. -/
@[simp] theorem held_afterClosed (closer : Closer) : (afterClosed closer).held = none :=
  afterClosed_eq (f := Point.held) (fun _ => rfl) rfl closer

@[simp] theorem held_afterRelease (releaser : Releaser) (outcome : Option (Except IoError Unit)) :
    (afterRelease devId releaser outcome).1.held = none :=
  afterRelease_eq (f := Point.held) (fun _ => rfl) rfl releaser outcome

/-- A turn takes a lock that was free, frees the one that the operation held, or leaves it alone. -/
theorem Turn.holds_balance (lock : Lock)
    (hturn : Turn devId operation gate point occurrence gate' point')
    (hlocked : point.holds lock = true → gate.isLocked lock = true) :
    (point'.holds lock).toNat + (gate.isLocked lock).toNat =
      (point.holds lock).toNat + (gate'.isLocked lock).toNat := by
  cases hturn with
  | unwind =>
    -- Which lock is freed depends on the request.
    rename_i pending
    rw [Gate.isLocked_setLocked]
    by_cases hlock : pending.lock = lock
    · rw [hlocked (by simp [Point.held, hlock])]
      simp [Point.holds, Point.held, hlock]
    · simp [Point.holds, Point.held, hlock]
  -- No lock is touched, and nothing is held before or after.
  | closeRefused | releaseBusy =>
    rw [Point.holds, Point.holds]
    simp only [held_afterClosed, held_afterRelease]
    rfl
  | releaseUnlock =>
    rw [Point.holds, held_afterRelease]
    cases lock with
    | read =>
      -- It holds the lock that it frees, so that was locked.
      have hread : gate.readLocked = true := hlocked rfl
      simp [hread, Gate.isLocked, Point.holds, Point.held]
    | write => simp [Gate.isLocked, Point.holds, Point.held]
  | _ =>
    cases lock <;>
      simp_all [Point.holds, Point.held, Gate.isLocked, Pending.lock]

/-- **A lock is held by one operation while it is locked, and by none while it is not.** -/
theorem Run.countP_holds (hrun : Run devId history system) (lock : Lock) :
    system.points.countP (·.holds lock) = (system.gate.isLocked lock).toNat := by
  -- Nothing that happens counts here: a lock is at the gate and with its holder, and nowhere else.
  have hsum := Run.conserved (·.holds lock) (fun _ => false) (·.isLocked lock)
    (by cases lock <;> rfl)
    (fun _ _ hasked => by cases hasked <;> exact ⟨rfl, rfl⟩)
    (fun hturn hlocked => by simpa using hturn.holds_balance lock hlocked)
    hrun
  simpa using hsum

/-- What is locked is held by an operation. -/
theorem Run.exists_held (hrun : Run devId history system) {lock : Lock}
    (hlocked : system.gate.isLocked lock = true) :
    ∃ (i : Nat) (point : Point), system.points[i]? = some point ∧ point.held = some lock := by
  have hpos : 0 < system.points.countP (·.holds lock) := by
    rw [hrun.countP_holds lock, hlocked]
    exact Nat.one_pos
  obtain ⟨point, hmem, hheld⟩ := List.countP_pos_iff.mp hpos
  obtain ⟨i, hi⟩ := List.getElem?_of_mem hmem
  exact ⟨i, point, hi, holds_eq_true.mp hheld⟩

/-- **Two operations never hold the same lock.** -/
theorem Run.held_unique (hrun : Run devId history system) {i j : Nat} {p q : Point} {lock : Lock}
    (hi : system.points[i]? = some p) (hj : system.points[j]? = some q)
    (hp : p.held = some lock) (hq : q.held = some lock) : i = j := by
  have hcount : system.points.countP (·.holds lock) ≤ 1 := by
    rw [hrun.countP_holds lock]
    exact Bool.toNat_le _
  exact index_unique_of_countP_le_one hcount hi hj (holds_eq_true.mpr hp) (holds_eq_true.mpr hq)

/-- The operation has this request in progress. -/
def System.InProgress (system : System) (operation : Nat) (pending : Pending) : Prop :=
  system.points[operation]? = some (.inside pending)

/-- Requests under the same lock are never in progress at the same time. -/
theorem Run.inside_unique (hrun : Run devId history system) {i j : Nat} {first second : Pending}
    (hi : system.InProgress i first) (hj : system.InProgress j second)
    (hlock : first.lock = second.lock) : i = j := by
  have hfirst : (Point.inside first).held = some first.lock := rfl
  have hsecond : (Point.inside second).held = some first.lock := by rw [hlock]; rfl
  exact hrun.held_unique hi hj hfirst hsecond

end HciTransport.Channel
