import HciTransport.Proofs.Channel.Frames

/-!
# The close frame and the release

The close frame is sent under the write lock and the descriptor is given back under the read lock, so no
lock makes the one wait for the other. A close that gives the descriptor back itself has sent its frame
before that. A read that comes back after the channel was marked closed does not ask for the frame: it
gives the descriptor back while the close may still wait for the write lock, and the frame then goes to a
number that is nobody's, or somebody else's (`frame_after_release`).

This is the only way in which a request to write can meet a descriptor that was given back. If the attempt
to send the close frame was over when the release began, no write is in progress from then on; and if it
was not, the run can go on so that one is (`Run.writesOver_iff`).
-/

namespace HciTransport.Channel

variable {devId : UInt16} {operation : Nat} {system next : System} {history past : List Occurrence}
  {occurrence : Occurrence} {gate gate' : Gate} {point point' : Point}

/-! ## When the close frame is over -/

/-- The attempt to send the close frame comes to its end. -/
def Occurrence.isFrameEnd : Occurrence → Bool
  | .answered _ (.closeFrame _) _ _ | .abandoned _ (.closeFrame _) => true
  | _ => false

/-- The operation has closed the channel, and its attempt to send the close frame is not over. -/
def Point.owesFrameEnd : Point → Bool
  | .closeLock _ | .before (.closeFrame _) | .inside (.closeFrame _) => true
  | _ => false

/-- A turn marks the channel closed and comes to owe the end of the close frame, or it brings that about. -/
theorem Turn.frameEnd_balance (hturn : Turn devId operation gate point occurrence gate' point') :
    occurrence.isFrameEnd.toNat + point'.owesFrameEnd.toNat + gate.closed.toNat =
      point.owesFrameEnd.toNat + gate'.closed.toNat := by
  cases hturn with
  | closeMark hopen => simp [hopen, Occurrence.isFrameEnd, Point.owesFrameEnd]
  | closeRefused =>
    rw [afterClosed_eq (f := Point.owesFrameEnd) (fun _ => rfl) rfl]
    simp [Occurrence.isFrameEnd, Point.owesFrameEnd]
  | releaseBusy | releaseUnlock =>
    rw [afterRelease_eq (f := Point.owesFrameEnd) (fun _ => rfl) rfl]
    simp [Occurrence.isFrameEnd, Point.owesFrameEnd]
  -- The close frame begins without an end, and is at its end when it is abandoned.
  | begin | abandon =>
    rename_i pending
    cases pending <;> simp [Occurrence.isFrameEnd, Point.owesFrameEnd]
  | _ => simp [Occurrence.isFrameEnd, Point.owesFrameEnd]

/-- **The close frame is over, or a close that has marked the channel still has it before it.** -/
theorem Run.frameEnd_ledger (hrun : Run devId history system) :
    history.countP Occurrence.isFrameEnd + system.points.countP Point.owesFrameEnd =
      system.gate.closed.toNat :=
  Run.conserved Point.owesFrameEnd Occurrence.isFrameEnd Gate.closed rfl
    (fun _ _ hasked => by cases hasked <;> exact ⟨rfl, rfl⟩) (fun hturn _ => hturn.frameEnd_balance) hrun

/-- Once the close frame is over, nobody has it before him. -/
theorem Run.settled_of_frameEnd (hrun : Run devId history system)
    (hend : ∃ o ∈ history, o.isFrameEnd = true) :
    system.gate.closed = true ∧ system.points.countP Point.owesFrameEnd = 0 := by
  have hpos : 0 < history.countP Occurrence.isFrameEnd := List.countP_pos_iff.mpr hend
  have hledger := hrun.frameEnd_ledger
  have hone := Bool.toNat_le system.gate.closed
  exact ⟨Bool.toNat_eq_one.mp (by omega), by omega⟩

/-- What is over has begun. -/
theorem Run.began_of_frameEnd (hrun : Run devId history system)
    (hend : ∃ o ∈ history, o.isFrameEnd = true) :
    ∃ i closer, .began i (.closeFrame closer) ∈ history := by
  obtain ⟨hclosed, hnone⟩ := hrun.settled_of_frameEnd hend
  have hledger := hrun.closeFrame_ledger
  -- Who has the frame still to begin has also still to see it over, and nobody has.
  have hfewer : system.points.countP Point.owesCloseFrame ≤ system.points.countP Point.owesFrameEnd := by
    refine List.countP_mono_left ?_
    intro point _ howes
    unfold Point.owesCloseFrame at howes
    split at howes
    · rfl
    · rfl
    · cases howes
  rw [hclosed, Bool.toNat_true] at hledger
  have hpos : 0 < history.countP Occurrence.isCloseFrame := by omega
  obtain ⟨o, hmem, ho⟩ := List.countP_pos_iff.mp hpos
  obtain ⟨i, closer, rfl⟩ := Occurrence.eq_of_isCloseFrame ho
  exact ⟨i, closer, hmem⟩

/-- **Once the close frame is over, no request to write is about to begin or in progress.** -/
theorem Run.bytes?_of_frameEnd (hrun : Run devId history system)
    (hend : ∃ o ∈ history, o.isFrameEnd = true) {i : Nat} {pending : Pending}
    (hi : system.points[i]? = some point) (hrequest : point.request? = some pending) :
    pending.bytes? = none := by
  -- Two requests write, and each of them is over by now for a reason of its own.
  cases pending with
  | read | release => rfl
  | write frame =>
    -- The frame of a caller is not under way once the close frame has begun.
    obtain ⟨j, closer, hbegan⟩ := hrun.began_of_frameEnd hend
    exact (hrun.unshut_of_request hi hrequest rfl hbegan rfl rfl).elim
  | closeFrame closer =>
    obtain ⟨-, hnone⟩ := hrun.settled_of_frameEnd hend
    rw [List.countP_eq_zero] at hnone
    -- The close frame is not sent twice.
    have howes : point.owesFrameEnd = true := by
      unfold Point.request? at hrequest
      split at hrequest
      · cases hrequest
        rfl
      · cases hrequest
        rfl
      · cases hrequest
    exact absurd howes (hnone _ (List.mem_of_getElem? hi))

/-! ## However the run goes on -/

/-- However a run goes on, no request to write is in progress or begins. -/
def WritesOver (devId : UInt16) (history : List Occurrence) : Prop :=
  ∀ later final, Run devId (history ++ later) final →
    (∀ i pending, final.InProgress i pending → pending.bytes? = none) ∧
    ∀ i pending, .began i pending ∈ later → pending.bytes? = none

/-- A run can go on so that a request to write is in progress. -/
def WriteAhead (devId : UInt16) (history : List Occurrence) : Prop :=
  ∃ later final, Run devId (history ++ later) final ∧
    ∃ i pending bytes, final.InProgress i pending ∧ pending.bytes? = some bytes

/-- After the close frame nothing is written, however the run goes on. -/
theorem writesOver_of_frameEnd (hend : ∃ o ∈ history, o.isFrameEnd = true) : WritesOver devId history := by
  obtain ⟨o, hmem, ho⟩ := hend
  intro later final hrun
  refine ⟨?_, ?_⟩
  · intro i pending hi
    exact hrun.bytes?_of_frameEnd ⟨o, List.mem_append_left _ hmem, ho⟩ hi rfl
  -- The run is cut where the request begins; up to there it is a run that has seen the end of the frame.
  · intro i pending hbegan
    obtain ⟨between, rest, rfl⟩ := List.append_of_mem hbegan
    rw [← List.append_assoc] at hrun
    obtain ⟨here, after, hbefore, hstep⟩ := hrun.step_of_append
    exact hbefore.bytes?_of_frameEnd ⟨o, List.mem_append_left _ hmem, ho⟩ hstep.before_of_began rfl

/-- Where all writing is over none lies ahead. -/
theorem WritesOver.not_ahead (hover : WritesOver devId history) : ¬ WriteAhead devId history := by
  rintro ⟨later, final, hrun, i, pending, bytes, hi, hbytes⟩
  rw [(hover later final hrun).1 i pending hi] at hbytes
  cases hbytes

/-- What lies ahead after one more step lies ahead before it. -/
theorem WriteAhead.of_append (hahead : WriteAhead devId (history ++ [occurrence])) :
    WriteAhead devId history := by
  obtain ⟨later, final, hrun, hwrite⟩ := hahead
  rw [List.append_assoc] at hrun
  exact ⟨_, final, hrun, hwrite⟩

/-- A request under the write lock is one to write. -/
theorem Run.ahead_of_inside (hrun : Run devId history system) {i : Nat} {pending : Pending}
    (hi : system.points[i]? = some (.inside pending)) (hlock : pending.lock = .write) :
    WriteAhead devId history := by
  have hbytes : ∃ bytes, pending.bytes? = some bytes := by
    cases pending with
    | write | closeFrame => exact ⟨_, rfl⟩
    | read | release => cases hlock
  obtain ⟨bytes, hbytes⟩ := hbytes
  exact ⟨[], system, by rwa [List.append_nil], i, pending, bytes, hi, hbytes⟩

/-- One that is about to begin can begin. -/
theorem Run.ahead_of_before (hrun : Run devId history system) {i : Nat} {pending : Pending}
    (hi : system.points[i]? = some (.before pending)) (hlock : pending.lock = .write) :
    WriteAhead devId history := by
  have hnext := hrun.turn hi .begin
  exact (hnext.ahead_of_inside (getElem?_set_of_some hi) hlock).of_append

/-- Whoever holds the write lock can come to write under it, or can free it and leave the others where
they are. -/
theorem Run.ahead_or_freed (hrun : Run devId history system) {i : Nat}
    (hi : system.points[i]? = some point) (hheld : point.held = some .write) :
    WriteAhead devId history ∨ ∃ later final, Run devId (history ++ later) final ∧
      final.gate.writeLocked = false ∧ ∀ j, j ≠ i → final.points[j]? = system.points[j]? := by
  have hset : ∀ point' j, j ≠ i → (system.points.set i point')[j]? = system.points[j]? := by
    intro point' j hne
    rw [List.getElem?_set_ne (Ne.symm hne)]
  -- The points at which the write lock is held.
  cases point with
  | writeCheck frame =>
    cases hclosed : system.gate.closed
    · -- It finds the channel open and writes.
      have hnext := hrun.turn hi (.writeCheck hclosed)
      exact .inl (hnext.ahead_of_before (getElem?_set_of_some hi) rfl).of_append
    · -- It finds the channel closed and goes away.
      have hrefused := hrun.turn hi (.writeRefused hclosed)
      have hfreed := hrefused.turn (getElem?_set_of_some hi) .writeUnlock
      rw [List.append_assoc] at hfreed
      refine .inr ⟨_, _, hfreed, rfl, ?_⟩
      intro j hne
      rw [List.getElem?_set_ne (Ne.symm hne), hset _ j hne]
  | writeUnlock => exact .inr ⟨_, _, hrun.turn hi .writeUnlock, rfl, hset _⟩
  | closeUnlock => exact .inr ⟨_, _, hrun.turn hi .closeUnlock, rfl, hset _⟩
  | before pending => exact .inl (hrun.ahead_of_before hi (Option.some.inj hheld))
  | inside pending => exact .inl (hrun.ahead_of_inside hi (Option.some.inj hheld))
  | unwinding pending =>
    -- It frees the lock of its request, which is the one that it holds.
    refine .inr ⟨_, _, hrun.turn hi .unwind, ?_, hset _⟩
    rw [Option.some.inj hheld]
    rfl
  | _ => cases hheld

/-- A close that waits for the write lock can take it when it is free. -/
theorem Run.ahead_of_closeLock (hrun : Run devId history system) {i : Nat} {closer : Closer}
    (hi : system.points[i]? = some (.closeLock closer)) (hfree : system.gate.writeLocked = false) :
    WriteAhead devId history := by
  have hnext := hrun.turn hi (.closeLock hfree)
  exact (hnext.ahead_of_before (getElem?_set_of_some hi) rfl).of_append

/-- **While the close frame is not over, the run can go on so that it is written.** -/
theorem Run.ahead_of_owesFrameEnd (hrun : Run devId history system) {i : Nat}
    (hi : system.points[i]? = some point) (howes : point.owesFrameEnd = true) :
    WriteAhead devId history := by
  -- The frame waits for its lock, or is about to begin, or is in progress.
  unfold Point.owesFrameEnd at howes
  split at howes
  · cases hlocked : system.gate.writeLocked
    · exact hrun.ahead_of_closeLock hi hlocked
    · -- Somebody else has the write lock, and writes or frees it.
      obtain ⟨j, holder, hj, hheld⟩ := hrun.exists_held (show system.gate.isLocked .write = true from hlocked)
      have hne : i ≠ j := by
        rintro rfl
        obtain rfl := Option.some.inj (hj.symm.trans hi)
        cases hheld
      rcases hrun.ahead_or_freed hj hheld with hahead | ⟨later, final, hlater, hunlocked, hothers⟩
      · exact hahead
      · obtain ⟨more, last, hlast, hwrite⟩ := hlater.ahead_of_closeLock ((hothers i hne).trans hi) hunlocked
        rw [List.append_assoc] at hlast
        exact ⟨_, last, hlast, hwrite⟩
  · exact hrun.ahead_of_before hi rfl
  · exact hrun.ahead_of_inside hi rfl
  · cases howes

/-! ## A close that gives the descriptor back itself -/

/-- The operation goes on from its close frame, to give the descriptor back. -/
def Point.isPastFrame : Point → Bool
  | .closeUnlock _ | .releaseTry (.closer _) | .releaseMark (.closer _) => true
  | .before (.release (.closer _)) | .inside (.release (.closer _)) => true
  | .releaseUnlock (.closer _) _ => true
  | _ => false

/-- A turn leads past the close frame from its end, or from where it was past it. -/
theorem Turn.pastFrame_cases (hturn : Turn devId operation gate point occurrence gate' point')
    (hpast : point'.isPastFrame = true) : point.isPastFrame = true ∨ occurrence.isFrameEnd = true := by
  cases hturn with
  | answerFrame => exact .inr rfl
  | closeUnlock => exact .inl rfl
  | closeRefused =>
    rw [afterClosed_eq (f := Point.isPastFrame) (fun _ => rfl) rfl] at hpast
    cases hpast
  | releaseBusy | releaseUnlock =>
    rw [afterRelease_eq (f := Point.isPastFrame) (fun _ => rfl) rfl] at hpast
    cases hpast
  -- The rest is the attempt to give the descriptor back, and it counts only for a close.
  | releaseTry | releaseMark | releaseVain =>
    rename_i releaser _
    cases releaser with
    | closer => exact .inl rfl
    | reader | owner => cases hpast
  | begin =>
    rename_i pending
    rcases pending with _ | _ | _ | releaser
    · cases hpast
    · cases hpast
    · cases hpast
    · cases releaser with
      | closer => exact .inl rfl
      | reader | owner => cases hpast
  | answerRelease =>
    rename_i releaser _
    cases releaser with
    | closer => exact .inl rfl
    | reader | owner => cases hpast
  | _ => cases hpast

/-- Who is past its close frame has seen it over. -/
theorem Course.frameEnd_of_pastFrame (hcourse : Course devId operation past point)
    (hpast : point.isPastFrame = true) : ∃ o ∈ past, o.isFrameEnd = true := by
  induction hcourse with
  | start hasked => cases hasked <;> cases hpast
  | turn hbefore hturn ih =>
    rcases hturn.pastFrame_cases hpast with hpast | hend
    · obtain ⟨o, hmem, ho⟩ := ih hpast
      exact ⟨o, List.mem_append_left _ hmem, ho⟩
    · exact ⟨_, List.mem_append_right _ (List.mem_singleton_self _), hend⟩

/-! ## The main result -/

/-- **A release ends all writing exactly if the attempt to send the close frame is over when it begins.** It
is over if the close that made the attempt gives the descriptor back itself. -/
theorem Run.writesOver_iff (hrun : Run devId history system) {i : Nat} {releaser : Releaser}
    (hstep : Step devId system (.began i (.release releaser)) next) :
    (WritesOver devId (history ++ [.began i (.release releaser)]) ↔
      ∃ o ∈ history, o.isFrameEnd = true) ∧
    ∀ closer, releaser = .closer closer → ∃ o ∈ history, o.isFrameEnd = true := by
  have hi : system.points[i]? = some (.before (.release releaser)) := hstep.before_of_began
  refine ⟨⟨?_, ?_⟩, ?_⟩
  · intro hover
    have hledger := hrun.frameEnd_ledger
    rw [hrun.closed_of_late hi rfl, Bool.toNat_true] at hledger
    -- If the attempt were not over, somebody would owe it, and the run could go on to a write.
    rcases Nat.eq_zero_or_pos (history.countP Occurrence.isFrameEnd) with hzero | hpos
    · -- Somebody still has the close frame before it, and it is not the one that releases.
      have howed : 0 < system.points.countP Point.owesFrameEnd := by omega
      obtain ⟨point, hmem, howes⟩ := List.countP_pos_iff.mp howed
      obtain ⟨j, hj⟩ := List.getElem?_of_mem hmem
      have hne : i ≠ j := by
        rintro rfl
        obtain rfl := Option.some.inj (hi.symm.trans hj)
        cases howes
      have hnext := hrun.turn hi .begin
      have hstill : (system.points.set i (.inside (.release releaser)))[j]? = some point := by
        rw [List.getElem?_set_ne hne]
        exact hj
      exact absurd (hnext.ahead_of_owesFrameEnd hstill howes) hover.not_ahead
    · exact List.countP_pos_iff.mp hpos
  · rintro ⟨o, hmem, ho⟩
    exact writesOver_of_frameEnd ⟨o, List.mem_append_left _ hmem, ho⟩
  · rintro closer rfl
    obtain ⟨o, hmem, ho⟩ := (hrun.course hi).frameEnd_of_pastFrame rfl
    exact ⟨o, (mem_own.mp hmem).1, ho⟩

/-- The release of `lateRead` begins when the close frame is over, so it ends all writing. -/
theorem writesOver_lateRead :
    Run 0 (play 0 (lateRead.take 17)).1 (play 0 (lateRead.take 17)).2 ∧
      WritesOver 0 (play 0 (lateRead.take 18)).1 := by
  have hrun : Run 0 (play 0 (lateRead.take 17)).1 (play 0 (lateRead.take 17)).2 := run_play 0 _
  have hstep := @Step.begin 0 (play 0 (lateRead.take 17)).2 0 _ _ rfl rfl
  have hover := (hrun.writesOver_iff hstep).1.mpr ⟨_, List.mem_of_getElem? (i := 9) rfl, rfl⟩
  exact ⟨hrun, hover⟩

/-- A read comes back after the channel was marked closed and gives the descriptor back; then the close
frame is sent. -/
def lateFrame : List Choice :=
  [.read 4, .go 0, .go 0, .go 0, .go 0, .close, .go 1,
   .answer 0 Pending.granted, .go 0, .go 0, .go 0, .go 0, .go 0,
   .go 1, .go 1]

/-- **A write may be in progress on a descriptor that was given back.** -/
theorem frame_after_release :
    ¬ ∀ devId history system, Run devId history system →
      ∀ i releaser, .began i (.release releaser) ∈ history →
        ∀ j pending, system.InProgress j pending → pending.bytes? = none := by
  intro hclaim
  have hnone := hclaim 0 _ _ (run_play 0 lateFrame) 0 _ (List.mem_of_getElem? (i := 12) rfl) 1 _ rfl
  cases hnone

end HciTransport.Channel
