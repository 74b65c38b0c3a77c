import HciTransport.Proofs.Channel.Course
import HciTransport.Proofs.Channel.Flags
import HciTransport.Proofs.Channel.Locks
import HciTransport.Proofs.Channel.Schedule

/-!
# The descriptor is given back, and once

Whoever wants to give the descriptor back tries the read lock and goes away if it is taken. Nothing is
lost by that: as long as a closed channel keeps its descriptor, there is an operation that has still to
try (`Run.obliged`). The one that goes away leaves it to the holder of the lock, and every holder will
look at the closed flag after it has freed the lock, or is about to mark the descriptor itself.

Nothing is done twice either. The mark of the descriptor is set once, by `Run.release_ledger`; and a close
has one attempt, which ends in the release or in a deferral, by `Run.attempt_ledger`. So a deferral was
not made good by a close, which leaves the reads.

The argument breaks where a request is abandoned: an operation that is unwound gives up what it owed.
-/

namespace HciTransport.Channel

variable {devId : UInt16} {operation : Nat} {system : System} {history : List Occurrence}
  {occurrence : Occurrence} {gate gate' : Gate} {point point' : Point}

/-! ## Runs without an abandoned request -/

/-- A request is abandoned. -/
def Occurrence.isAbandonment : Occurrence → Bool
  | .abandoned _ _ => true
  | _ => false

/-- No request was abandoned. -/
def Unbroken (history : List Occurrence) : Prop :=
  ∀ occurrence ∈ history, occurrence.isAbandonment = false

/-- What was abandoned in no part was abandoned in none of its parts before. -/
theorem Unbroken.of_append {later : List Occurrence} (h : Unbroken (history ++ later)) :
    Unbroken history :=
  fun occurrence hmem => h occurrence (List.mem_append_left _ hmem)

/-- The request of the operation was abandoned, and its lock is not freed yet. -/
def Point.isUnwinding : Point → Bool
  | .unwinding _ => true
  | _ => false

/-- An operation comes to be unwound only where its request is abandoned. -/
theorem Turn.abandonment_of_unwinding (hturn : Turn devId operation gate point occurrence gate' point')
    (hunwinding : point'.isUnwinding = true) : occurrence.isAbandonment = true := by
  cases hturn with
  | abandon => rfl
  | closeRefused =>
    rw [afterClosed_eq (f := Point.isUnwinding) (fun _ => rfl) rfl] at hunwinding
    cases hunwinding
  | releaseBusy | releaseUnlock =>
    rw [afterRelease_eq (f := Point.isUnwinding) (fun _ => rfl) rfl] at hunwinding
    cases hunwinding
  | _ => cases hunwinding

/-- Where no request was abandoned nobody is being unwound. -/
theorem Run.not_unwinding (hrun : Run devId history system) (hunbroken : Unbroken history) {i : Nat}
    {q : Point} (hi : system.points[i]? = some q) : q.isUnwinding = false := by
  induction hrun generalizing i q with
  | opened => simp [System.opened] at hi
  | step hbefore hstep ih =>
    have hstill := hunbroken.of_append
    rcases step_iff.mp hstep with ⟨point, hasked, rfl, rfl⟩ | ⟨moved, point, gate', point', hhere, hmoved, rfl⟩
    · rcases getElem?_append_cases hi with ⟨-, rfl⟩ | ⟨-, hi⟩
      · cases hasked <;> rfl
      · exact ih hstill hi
    · rcases getElem?_set_cases hi with ⟨-, rfl⟩ | ⟨-, hi⟩
      · cases hunwinding : q.isUnwinding
        · rfl
        · have habandoned := hmoved.abandonment_of_unwinding hunwinding
          rw [hunbroken _ (List.mem_append_right _ (List.mem_singleton_self _))] at habandoned
          cases habandoned
      · exact ih hstill hi

/-! ## Somebody has still to try -/

/-- The operation has still to try to give the descriptor back, if it finds the channel closed. -/
def Point.isObliged : Point → Bool
  | .readRecheck _ | .before (.read _) | .inside (.read _) | .readUnlock _ | .readAfter _ => true
  | .closeLock _ | .before (.closeFrame _) | .inside (.closeFrame _) | .closeUnlock _ => true
  | .releaseTry _ | .releaseMark _ => true
  | _ => false

/-- Who holds the read lock has still to try, or the descriptor is marked. -/
theorem obliged_or_spent_of_held (hheld : point.held = some .read) (hunbroken : point.isUnwinding = false) :
    point.isObliged = true ∨ point.isSpent = true := by
  cases point with
  | readRecheck | readUnlock | releaseMark => exact .inl rfl
  | releaseUnlock => exact .inr rfl
  | before pending | inside pending =>
    cases pending with
    | read => exact .inl rfl
    | release => exact .inr rfl
    | write | closeFrame => cases hheld
  | unwinding => cases hunbroken
  | _ => cases hheld

/-- On a closed channel an operation that has to try goes on to have to, unless it marks the descriptor or
goes away from a lock that is taken. -/
theorem Turn.obliged_cases (hturn : Turn devId operation gate point occurrence gate' point')
    (hclosed : gate.closed = true) (hobliged : point.isObliged = true)
    (hunbroken : point'.isUnwinding = false) :
    point'.isObliged = true ∨ gate'.released = true ∨
      ((∃ releaser, point = .releaseTry releaser) ∧ gate' = gate ∧ gate.readLocked = true) := by
  cases hturn with
  | readLate | readUnlock | readAfter | closeLock | closeUnlock | releaseTry | answerRead | answerFrame =>
    exact .inl rfl
  | readRecheck hopen | readOver hopen =>
    -- A reader goes to the descriptor, or goes home, only if it finds the channel open.
    rw [hclosed] at hopen
    cases hopen
  | releaseBusy hlocked => exact .inr (.inr ⟨⟨_, rfl⟩, rfl, hlocked⟩)
  | releaseVain hreleased => exact .inr (.inl hreleased)
  | releaseMark => exact .inr (.inl rfl)
  | begin =>
    rename_i pending
    cases pending with
    | read | closeFrame => exact .inl rfl
    | write | release => cases hobliged
  | abandon => cases hunbroken
  | _ => cases hobliged

/-- Who goes away from the read lock leaves somebody behind who has still to try: the holder of the lock. -/
theorem Run.obliged_of_busy (hrun : Run devId history system) (hunbroken : Unbroken history) {i : Nat}
    {releaser : Releaser} (hi : system.points[i]? = some (.releaseTry releaser))
    (hlocked : system.gate.readLocked = true) (hkept : system.gate.released = false) :
    ∃ (j : Nat) (q : Point), j ≠ i ∧ system.points[j]? = some q ∧ q.isObliged = true := by
  obtain ⟨j, holder, hj, hheld⟩ := hrun.exists_held (show system.gate.isLocked .read = true from hlocked)
  have hne : j ≠ i := by
    rintro rfl
    obtain rfl := Option.some.inj (hj.symm.trans hi)
    cases hheld
  refine ⟨j, holder, hne, hj, ?_⟩
  -- A holder that has nothing left to do has marked the descriptor, and it is not marked.
  rcases obliged_or_spent_of_held hheld (hrun.not_unwinding hunbroken hj) with hobliged | hspent
  · exact hobliged
  · rw [hrun.released_of_spent hj hspent] at hkept
    cases hkept

/-- **While a closed channel keeps its descriptor, somebody has still to try to give it back.** -/
theorem Run.obliged (hrun : Run devId history system) (hunbroken : Unbroken history)
    (hclosed : system.gate.closed = true) (hkept : system.gate.released = false) :
    ∃ (i : Nat) (q : Point), system.points[i]? = some q ∧ q.isObliged = true := by
  have hquiet : ∀ {i : Nat} {q : Point}, system.points[i]? = some q → q.isUnwinding = false :=
    hrun.not_unwinding hunbroken
  -- On the run. In the last step somebody has a turn who had to try, or who had not; or the channel is closed by it.
  induction hrun with
  | opened => cases hclosed
  | @step history system next occurrence hbefore hstep ih =>
    have hstill := hunbroken.of_append
    rcases step_iff.mp hstep with ⟨start, hasked, rfl, rfl⟩ | ⟨moved, point, gate', point', hhere, hmoved, rfl⟩
    · -- A start leaves everybody where they are.
      obtain ⟨i, q, hi, hobliged⟩ := ih hstill hclosed hkept (hbefore.not_unwinding hstill)
      have hlt := (List.getElem?_eq_some_iff.mp hi).1
      exact ⟨i, q, by rw [List.getElem?_append_left hlt]; exact hi, hobliged⟩
    · have hmine : (system.points.set moved point')[moved]? = some point' := getElem?_set_of_some hhere
      have hothers : ∀ {j : Nat} {q : Point}, j ≠ moved → system.points[j]? = some q →
          (system.points.set moved point')[j]? = some q := by
        intro j q hne hj
        rw [List.getElem?_set_ne (Ne.symm hne)]
        exact hj
      have hkept' : system.gate.released = false := by
        cases hreleased : system.gate.released
        · rfl
        · rw [hmoved.released_mono hreleased] at hkept
          cases hkept
      cases hbefore_closed : system.gate.closed
      · -- It is closed by this turn, and who closes it has all before it.
        rcases hmoved.closed_cases hclosed with hclosed' | ⟨closer, rfl⟩
        · rw [hbefore_closed] at hclosed'
          cases hclosed'
        · exact ⟨moved, _, hmine, rfl⟩
      · obtain ⟨i, q, hi, hobliged⟩ := ih hstill hbefore_closed hkept' (hbefore.not_unwinding hstill)
        by_cases hsame : i = moved
        · subst hsame
          obtain rfl : q = point := Option.some.inj (hi.symm.trans hhere)
          -- Its turn was that of the one who had to try: it still has, or another one has.
          rcases hmoved.obliged_cases hbefore_closed hobliged (hquiet hmine) with
            hobliged | hreleased | ⟨⟨releaser, rfl⟩, rfl, hlocked⟩
          · exact ⟨i, point', hmine, hobliged⟩
          · rw [hreleased] at hkept
            cases hkept
          · obtain ⟨j, q, hne, hj, hobliged⟩ := hbefore.obliged_of_busy hstill hhere hlocked hkept'
            exact ⟨j, q, hothers hne hj, hobliged⟩
        · exact ⟨i, q, hothers hsame hi, hobliged⟩

/-! ## A close has one attempt -/

/-- A close says that it leaves the release to others. -/
def isDeferral : LogEntry → Bool
  | .releaseDeferred _ => true
  | _ => false

/-- The attempt of a close comes to its end: it leaves the release to others, begins it, or is undone
before it gets there. -/
def Occurrence.isAttempt : Occurrence → Bool
  | .stepped _ log => log.any isDeferral
  | .began _ (.release (.closer _)) => true
  | .abandoned _ (.closeFrame _) => true
  | _ => false

/-- The operation has closed the channel, and its attempt has not come to its end. -/
def Point.owesAttempt : Point → Bool
  | .closeLock _ | .before (.closeFrame _) | .inside (.closeFrame _) | .closeUnlock _ => true
  | .releaseTry (.closer _) | .releaseMark (.closer _) | .before (.release (.closer _)) => true
  | .releaseUnlock (.closer _) none => true
  | _ => false

/-- What a read logs about itself defers nothing. -/
theorem deferral_readResult (got : Option (Receipt IoError)) :
    (readResult devId got).2.any isDeferral = false := by
  rcases got with _ | ⟨stored, outcome⟩
  · rfl
  · cases outcome <;> rfl

theorem deferral_releaseWarning (outcome : Option (Except IoError Unit)) :
    (releaseWarning devId outcome).any isDeferral = false := by
  rcases outcome with _ | outcome
  · rfl
  · cases outcome <;> rfl

/-- A close that has nothing to show for its attempt says so. -/
theorem attempt_afterRelease (devId : UInt16) (releaser : Releaser) (outcome : Option (Except IoError Unit)) :
    ((afterRelease devId releaser outcome).2.any isDeferral).toNat +
        (afterRelease devId releaser outcome).1.owesAttempt.toNat =
      (Point.releaseUnlock releaser outcome).owesAttempt.toNat := by
  -- Only a close that comes away with nothing says so.
  rcases releaser with got | closer | _
  · simp [afterRelease, List.any_append, deferral_readResult, deferral_releaseWarning, Point.owesAttempt]
  · cases closer <;> cases outcome <;>
      simp [afterRelease, deferral_releaseWarning, isDeferral, Point.owesAttempt]
  · simp [afterRelease, deferral_releaseWarning, Point.owesAttempt]

/-- A turn marks the channel closed and comes to owe the attempt, or it brings to its end an attempt that was owed. -/
theorem Turn.attempt_balance (hturn : Turn devId operation gate point occurrence gate' point') :
    occurrence.isAttempt.toNat + point'.owesAttempt.toNat + gate.closed.toNat =
      point.owesAttempt.toNat + gate'.closed.toNat := by
  cases hturn with
  | closeMark hopen => simp [hopen, Occurrence.isAttempt, Point.owesAttempt]
  | closeRefused =>
    rw [afterClosed_eq (f := Point.owesAttempt) (fun _ => rfl) rfl]
    simp [Occurrence.isAttempt, isDeferral, Point.owesAttempt]
  -- The attempt of a close ends here with a deferral; of other attempts there is no book.
  | releaseBusy =>
    rename_i releaser hlocked
    have hattempt := attempt_afterRelease devId releaser none
    cases releaser <;> exact congrArg (· + _) hattempt
  | releaseUnlock => exact congrArg (· + _) (attempt_afterRelease devId _ _)
  | readOver => simp [Occurrence.isAttempt, deferral_readResult, Point.owesAttempt]
  | releaseTry | releaseMark | releaseVain =>
    rename_i releaser _
    cases releaser <;> simp [Occurrence.isAttempt, Point.owesAttempt]
  -- Of all requests only these of a close count, the release where it begins and the frame where it is abandoned.
  | begin | abandon =>
    rename_i pending
    rcases pending with _ | _ | _ | releaser
    all_goals try cases releaser
    all_goals simp [Occurrence.isAttempt, Point.owesAttempt]
  | _ => simp [Occurrence.isAttempt, isDeferral, Point.owesAttempt]

/-- **A close has one attempt at the release.** -/
theorem Run.attempt_ledger (hrun : Run devId history system) :
    history.countP Occurrence.isAttempt + system.points.countP Point.owesAttempt =
      system.gate.closed.toNat :=
  Run.conserved Point.owesAttempt Occurrence.isAttempt Gate.closed rfl
    (fun _ _ hasked => by cases hasked <;> exact ⟨rfl, rfl⟩) (fun hturn _ => hturn.attempt_balance) hrun

/-! ## The main result -/

/-- The operation has come to its end. -/
def Point.isOver : Point → Bool
  | .ended _ => true
  | _ => false

/-- No operation is in progress. -/
def System.AtRest (system : System) : Prop :=
  ∀ point ∈ system.points, point.isOver = true

/-- At rest every operation is at its end. -/
theorem System.AtRest.eq_ended (hrest : system.AtRest) (hmem : point ∈ system.points) :
    ∃ ending, point = .ended ending := by
  have hover := hrest point hmem
  unfold Point.isOver at hover
  split at hover
  · exact ⟨_, rfl⟩
  · cases hover

/-- At rest nobody is at a point that only an operation in progress can be at. -/
theorem System.AtRest.countP_eq_zero (hrest : system.AtRest) {P : Point → Bool}
    (hended : ∀ ending, P (.ended ending) = false) : system.points.countP P = 0 := by
  rw [List.countP_eq_zero]
  intro point hmem
  obtain ⟨ending, rfl⟩ := hrest.eq_ended hmem
  simp [hended]

/-- At rest a closed channel has marked its descriptor, and an open one has not. -/
theorem Run.released_eq_closed (hrun : Run devId history system) (hunbroken : Unbroken history)
    (hrest : system.AtRest) : system.gate.released = system.gate.closed := by
  cases hreleased : system.gate.released
  · cases hclosed : system.gate.closed
    · rfl
    -- Somebody would have to try, and nobody has anything left to do.
    · obtain ⟨i, q, hi, hobliged⟩ := hrun.obliged hunbroken hclosed hreleased
      obtain ⟨ending, rfl⟩ := hrest.eq_ended (List.mem_of_getElem? hi)
      cases hobliged
  · exact (hrun.closed_of_released hreleased).symm

/-- How often the descriptor is given back in a run, and by whom. -/
structure ReleasedOnce (devId : UInt16) (history : List Occurrence) (system : System) : Prop where
  at_most_once : history.countP Occurrence.isRelease ≤ 1
  /-- With no operation in progress it has been given back if the channel is closed, and only then. -/
  at_rest : system.AtRest →
    history.countP Occurrence.isRelease = if system.gate.closed then 1 else 0
  /-- A close that deferred the release left it to a read, which has made it by then. -/
  deferred : system.AtRest → ∀ i log, .stepped i log ∈ history → .releaseDeferred devId ∈ log →
    ∃ reader length got, .started reader (.read length) ∈ history ∧
      .began reader (.release (.reader got)) ∈ history

/-- **The release is never lost and never repeated** in a run in which no request is abandoned. -/
theorem Run.releasedOnce (hrun : Run devId history system) (hunbroken : Unbroken history) :
    ReleasedOnce devId history system := by
  have hledger := hrun.release_ledger
  have hrest_count : system.AtRest →
      history.countP Occurrence.isRelease = if system.gate.closed then 1 else 0 := by
    intro hrest
    rw [hrest.countP_eq_zero (fun _ => rfl), hrun.released_eq_closed hunbroken hrest] at hledger
    rw [Nat.add_zero] at hledger
    rw [hledger]
    cases system.gate.closed <;> rfl
  refine ⟨?_, hrest_count, ?_⟩
  · have hone := Bool.toNat_le system.gate.released
    omega
  · intro hrest i log hstepped hdeferral
    have hattempt := hrun.attempt_ledger
    have hone := Bool.toNat_le system.gate.closed
    have hdeferred : (Occurrence.stepped i log).isAttempt = true :=
      List.any_eq_true.mpr ⟨_, hdeferral, rfl⟩
    -- Only a closed channel has deferrals, so there was a release.
    have hclosed : system.gate.closed = true := by
      have hpos : 0 < history.countP Occurrence.isAttempt :=
        List.countP_pos_iff.mpr ⟨_, hstepped, hdeferred⟩
      exact Bool.toNat_eq_one.mp (by omega)
    have hcount := hrest_count hrest
    rw [hclosed, if_pos rfl] at hcount
    have hpos : 0 < history.countP Occurrence.isRelease := by omega
    obtain ⟨occurrence, hmem, hrelease⟩ := List.countP_pos_iff.mp hpos
    obtain ⟨j, releaser, rfl⟩ := Occurrence.eq_of_isRelease hrelease
    rcases hrun.releaser_of_began hmem with ⟨got, length, rfl, hstarted⟩ | ⟨rfl, -⟩
    · exact ⟨j, length, got, hstarted, hmem⟩
    · -- The close would have had two attempts: the one that it deferred and this one.
      have hcontra := eq_of_countP_le_one (P := Occurrence.isAttempt) (by omega) hstepped hmem hdeferred rfl
      cases hcontra

/-- In this run a close defers the release to a read, and nothing is in progress at the end. -/
theorem releasedOnce_lateRead :
    Run 0 (play 0 lateRead).1 (play 0 lateRead).2 ∧ Unbroken (play 0 lateRead).1 ∧
      (play 0 lateRead).2.AtRest ∧ .stepped 1 [.releaseDeferred 0] ∈ (play 0 lateRead).1 ∧
      ReleasedOnce 0 (play 0 lateRead).1 (play 0 lateRead).2 := by
  have hrun : Run 0 (play 0 lateRead).1 (play 0 lateRead).2 := run_play 0 lateRead
  have hunbroken : Unbroken (play 0 lateRead).1 := by
    unfold Unbroken
    decide
  refine ⟨hrun, hunbroken, ?_, ?_, hrun.releasedOnce hunbroken⟩
  · unfold System.AtRest
    decide
  · exact List.mem_of_getElem? (i := 11) rfl

end HciTransport.Channel
