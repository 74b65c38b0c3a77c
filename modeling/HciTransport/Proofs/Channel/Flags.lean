import HciTransport.Proofs.Channel.Turn

/-!
# Flags: what operations know of the gate

The two flags of the gate are set and never unset, so what an operation once saw of them stays true while
others go on. An operation that is about to shut something down is at a point that is reached only when
the channel is closed (`Run.closed_of_late`), and one that has the descriptor to give back, or has given
it back, is at a point that is reached only when that is marked (`Run.released_of_spent`).

Setting a flag puts somebody under an obligation: who marks the channel closed owes the close frame, and
who marks the descriptor given back owes the release. `Run.release_ledger` and `Run.closeFrame_ledger` keep
the books: what was begun and what is still owed are one, if the flag is set, and none, if it is not.
-/

namespace HciTransport.Channel

variable {devId : UInt16} {operation : Nat} {system : System} {history : List Occurrence}
  {occurrence : Occurrence} {gate gate' : Gate} {point point' : Point}

/-! ## Points behind a flag -/

/-- The operation has seen the channel closed, or has closed it. -/
def Point.isLate : Point → Bool
  | .closeLock _ | .closeUnlock _ | .releaseTry _ | .releaseMark _ | .releaseUnlock _ _ => true
  | .before (.closeFrame _) | .inside (.closeFrame _) => true
  | .before (.release _) | .inside (.release _) => true
  | _ => false

/-- The operation has seen the descriptor marked as given back, or has marked it. -/
def Point.isSpent : Point → Bool
  | .releaseUnlock _ _ | .before (.release _) | .inside (.release _) | .unwinding (.release _) => true
  | _ => false

/-- A turn leads behind the mark of closing only if the channel is closed by then. -/
theorem Turn.closed_of_late (hturn : Turn devId operation gate point occurrence gate' point')
    (hbefore : point.isLate = true → gate.closed = true) (hlate : point'.isLate = true) :
    gate'.closed = true := by
  cases hturn with
  | closeMark => rfl
  | readAfter hclosed | closeRefused hclosed | dropClosed hclosed => exact hclosed
  -- These lead from behind the mark to behind the mark.
  | closeLock | closeUnlock | releaseBusy | releaseTry | releaseVain | releaseMark | releaseUnlock =>
    exact hbefore rfl
  -- A request is behind the mark exactly if the point before it was.
  | begin => rename_i pending; cases pending <;> first | exact hbefore rfl | cases hlate
  | answerFrame | answerRelease => exact hbefore rfl
  | _ => cases hlate

/-- A turn leads behind the mark of giving back only if the descriptor is marked by then. -/
theorem Turn.released_of_spent (hturn : Turn devId operation gate point occurrence gate' point')
    (hbefore : point.isSpent = true → gate.released = true) (hspent : point'.isSpent = true) :
    gate'.released = true := by
  cases hturn with
  | releaseMark => rfl
  | releaseVain hreleased => exact hreleased
  -- Where an attempt ends nobody has anything left to give back.
  | closeRefused =>
    rw [afterClosed_eq (f := Point.isSpent) (fun _ => rfl) rfl] at hspent
    cases hspent
  | releaseBusy | releaseUnlock =>
    rw [afterRelease_eq (f := Point.isSpent) (fun _ => rfl) rfl] at hspent
    cases hspent
  | begin | abandon => rename_i pending; cases pending <;> first | exact hbefore rfl | cases hspent
  | answerRelease => exact hbefore rfl
  | _ => cases hspent

/-- In a run whoever is behind the mark of closing has the channel closed around it. -/
theorem Run.closed_of_late (hrun : Run devId history system) {i : Nat}
    (hi : system.points[i]? = some point) (hlate : point.isLate = true) : system.gate.closed = true :=
  Run.everywhere (P := fun gate point => point.isLate = true → gate.closed = true)
    (fun hasked hlate => by cases hasked <;> cases hlate)
    (fun hturn hbefore hlate => hturn.closed_of_late hbefore hlate)
    (fun hturn hbefore hlate => hturn.closed_mono (hbefore hlate))
    hrun hi hlate

/-- In a run whoever is behind the mark of giving back has the descriptor marked. -/
theorem Run.released_of_spent (hrun : Run devId history system) {i : Nat}
    (hi : system.points[i]? = some point) (hspent : point.isSpent = true) :
    system.gate.released = true :=
  Run.everywhere (P := fun gate point => point.isSpent = true → gate.released = true)
    (fun hasked hspent => by cases hasked <;> cases hspent)
    (fun hturn hbefore hspent => hturn.released_of_spent hbefore hspent)
    (fun hturn hbefore hspent => hturn.released_mono (hbefore hspent))
    hrun hi hspent

/-- The descriptor is marked by the turn that stands before the mark, and by no other. -/
theorem Turn.released_cases (hturn : Turn devId operation gate point occurrence gate' point')
    (hreleased : gate'.released = true) :
    gate.released = true ∨ ∃ releaser, point = .releaseMark releaser := by
  cases hturn with
  | releaseMark => exact .inr ⟨_, rfl⟩
  | unwind => rw [Gate.released_setLocked] at hreleased; exact .inl hreleased
  | _ => exact .inl hreleased

/-- The channel is closed by a turn that leads on to the close frame, and by no other. -/
theorem Turn.closed_cases (hturn : Turn devId operation gate point occurrence gate' point')
    (hclosed : gate'.closed = true) :
    gate.closed = true ∨ ∃ closer, point' = .closeLock closer := by
  cases hturn with
  | closeMark => exact .inr ⟨_, rfl⟩
  | unwind => rw [Gate.closed_setLocked] at hclosed; exact .inl hclosed
  | _ => exact .inl hclosed

/-- The descriptor is given back on a closed channel only. -/
theorem Run.closed_of_released (hrun : Run devId history system) (hreleased : system.gate.released = true) :
    system.gate.closed = true := by
  induction hrun with
  | opened => cases hreleased
  | step hbefore hstep ih =>
    rcases step_iff.mp hstep with ⟨point, -, rfl, rfl⟩ | ⟨moved, point, gate', point', hhere, hmoved, rfl⟩
    · exact ih hreleased
    -- It was marked before this turn, or by it; and who marks it is behind the mark of closing.
    · refine hmoved.closed_mono ?_
      rcases hmoved.released_cases hreleased with hreleased | ⟨releaser, rfl⟩
      · exact ih hreleased
      · exact hbefore.closed_of_late hhere rfl

/-! ## The books

An entry is made where a request begins, a debt where its flag is set. -/

/-- The beginning of a release. -/
def Occurrence.isRelease : Occurrence → Bool
  | .began _ (.release _) => true
  | _ => false

/-- The beginning of a close frame. -/
def Occurrence.isCloseFrame : Occurrence → Bool
  | .began _ (.closeFrame _) => true
  | _ => false

theorem Occurrence.eq_of_isRelease (h : occurrence.isRelease = true) :
    ∃ i releaser, occurrence = .began i (.release releaser) := by
  unfold Occurrence.isRelease at h
  split at h
  · exact ⟨_, _, rfl⟩
  · cases h

theorem Occurrence.eq_of_isCloseFrame (h : occurrence.isCloseFrame = true) :
    ∃ i closer, occurrence = .began i (.closeFrame closer) := by
  unfold Occurrence.isCloseFrame at h
  split at h
  · exact ⟨_, _, rfl⟩
  · cases h

/-- The operation has marked the descriptor and has not begun to give it back. -/
def Point.owesRelease : Point → Bool
  | .before (.release _) => true
  | _ => false

/-- The operation has closed the channel and has not begun to send the close frame. -/
def Point.owesCloseFrame : Point → Bool
  | .closeLock _ | .before (.closeFrame _) => true
  | _ => false

/-- A turn marks the descriptor and comes to owe its release, or it begins a release that it owes; otherwise both
sides of the book stay as they are. -/
theorem Turn.release_balance (hturn : Turn devId operation gate point occurrence gate' point') :
    occurrence.isRelease.toNat + point'.owesRelease.toNat + gate.released.toNat =
      point.owesRelease.toNat + gate'.released.toNat := by
  cases hturn with
  | releaseMark hkept =>
    -- One more at the gate, and one more that owes.
    simp [hkept, Occurrence.isRelease, Point.owesRelease]
  | closeRefused =>
    rw [afterClosed_eq (f := Point.owesRelease) (fun _ => rfl) rfl]
    simp [Occurrence.isRelease, Point.owesRelease]
  | releaseBusy | releaseUnlock =>
    rw [afterRelease_eq (f := Point.owesRelease) (fun _ => rfl) rfl]
    simp [Occurrence.isRelease, Point.owesRelease]
  | begin =>
    -- What was owed is begun, or it is another request and neither counts.
    rename_i pending
    cases pending <;> simp [Occurrence.isRelease, Point.owesRelease]
  | _ => simp [Occurrence.isRelease, Point.owesRelease]

/-- A turn marks the channel closed and comes to owe the close frame, or it begins a close frame that was owed, or it
does neither. -/
theorem Turn.closeFrame_balance (hturn : Turn devId operation gate point occurrence gate' point') :
    occurrence.isCloseFrame.toNat + point'.owesCloseFrame.toNat + gate.closed.toNat =
      point.owesCloseFrame.toNat + gate'.closed.toNat := by
  cases hturn with
  -- The closed flag is set, and who has set it owes the frame.
  | closeMark hopen => simp [hopen, Occurrence.isCloseFrame, Point.owesCloseFrame]
  | closeRefused =>
    rw [afterClosed_eq (f := Point.owesCloseFrame) (fun _ => rfl) rfl]
    simp [Occurrence.isCloseFrame, Point.owesCloseFrame]
  | releaseBusy | releaseUnlock =>
    rw [afterRelease_eq (f := Point.owesCloseFrame) (fun _ => rfl) rfl]
    simp [Occurrence.isCloseFrame, Point.owesCloseFrame]
  | begin =>
    rename_i pending
    cases pending <;> simp [Occurrence.isCloseFrame, Point.owesCloseFrame]
  | _ => simp [Occurrence.isCloseFrame, Point.owesCloseFrame]

/-- **Giving back is marked once, and what is marked is begun or owed.** -/
theorem Run.release_ledger (hrun : Run devId history system) :
    history.countP Occurrence.isRelease + system.points.countP Point.owesRelease =
      system.gate.released.toNat :=
  Run.conserved Point.owesRelease Occurrence.isRelease Gate.released rfl
    (fun _ _ hasked => by cases hasked <;> exact ⟨rfl, rfl⟩) (fun hturn _ => hturn.release_balance) hrun

/-- **Closing is marked once, and its frame is begun or owed.** -/
theorem Run.closeFrame_ledger (hrun : Run devId history system) :
    history.countP Occurrence.isCloseFrame + system.points.countP Point.owesCloseFrame =
      system.gate.closed.toNat :=
  Run.conserved Point.owesCloseFrame Occurrence.isCloseFrame Gate.closed rfl
    (fun _ _ hasked => by cases hasked <;> exact ⟨rfl, rfl⟩) (fun hturn _ => hturn.closeFrame_balance) hrun

/-- What has begun is marked. -/
theorem Run.released_of_release (hrun : Run devId history system)
    (hbegan : ∃ o ∈ history, o.isRelease = true) : system.gate.released = true := by
  have hpos : 0 < history.countP Occurrence.isRelease := List.countP_pos_iff.mpr hbegan
  have hledger := hrun.release_ledger
  have hone := Bool.toNat_le system.gate.released
  -- The left side of the book is not zero, so neither is the right one.
  exact Bool.toNat_eq_one.mp (by omega)

/-- The close frame is sent on a closed channel only. -/
theorem Run.closed_of_closeFrame (hrun : Run devId history system)
    (hbegan : ∃ o ∈ history, o.isCloseFrame = true) : system.gate.closed = true := by
  have hpos : 0 < history.countP Occurrence.isCloseFrame := List.countP_pos_iff.mpr hbegan
  have hledger := hrun.closeFrame_ledger
  have hone := Bool.toNat_le system.gate.closed
  exact Bool.toNat_eq_one.mp (by omega)

end HciTransport.Channel
