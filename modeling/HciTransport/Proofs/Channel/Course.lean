import HciTransport.Proofs.Channel.Turn

/-!
# Courses: a run as one operation sees it

What happened to one operation in a run is a course of that operation alone: it was started, and then it
had its turns, each at whatever gate the others had left to it (`Run.course`). So what an operation does,
asks for and returns is found out by an induction over its own turns.

An operation never changes its sort. `Run.started_of_began` traces a request back to what a caller asked
for: only a read reads, only a write writes a caller's frame, only a close sends the close frame, and the
descriptor is given back by a read or by a close.
-/

namespace HciTransport.Channel

variable {devId : UInt16} {operation : Nat} {system : System} {history past : List Occurrence}
  {occurrence : Occurrence} {gate gate' : Gate} {point point' : Point}

/-- The operation to which it happens. -/
def Occurrence.number : Occurrence → Nat
  | .started operation _ | .stepped operation _ | .began operation _ | .answered operation _ _ _
  | .abandoned operation _ => operation

/-- What happened to one operation. -/
def own (history : List Occurrence) (operation : Nat) : List Occurrence :=
  history.filter (·.number = operation)

theorem mem_own : occurrence ∈ own history operation ↔
    occurrence ∈ history ∧ occurrence.number = operation := by
  simp [own]

/-- What can happen to an operation: it is started, and then it has one turn after another. -/
inductive Course (devId : UInt16) (operation : Nat) : List Occurrence → Point → Prop where
  | start {point : Point} (hasked : Asked point) :
      Course devId operation [.started operation point] point
  | turn {past : List Occurrence} {gate gate' : Gate} {point point' : Point} {occurrence : Occurrence}
      (hbefore : Course devId operation past point)
      (hturn : Turn devId operation gate point occurrence gate' point') :
      Course devId operation (past ++ [occurrence]) point'

/-! ## From a run to its courses -/

/-- A turn happens to the operation whose turn it is. -/
theorem Turn.number_eq (hturn : Turn devId operation gate point occurrence gate' point') :
    occurrence.number = operation := by
  cases hturn <;> rfl

/-- Nothing happens to an operation that was not started. -/
theorem Run.number_lt (hrun : Run devId history system) (hmem : occurrence ∈ history) :
    occurrence.number < system.points.length := by
  induction hrun with
  | opened => simp at hmem
  | step hbefore hstep ih =>
    -- A start gets the next number, and a turn is of an operation that stands somewhere.
    rcases step_iff.mp hstep with ⟨point, -, rfl, rfl⟩ | ⟨number, point, gate', point', hhere, hmoved, rfl⟩
    · rw [List.length_append]
      rcases List.mem_append.mp hmem with hmem | hmem
      · exact Nat.lt_add_right 1 (ih hmem)
      · rw [List.mem_singleton.mp hmem]
        exact Nat.lt_succ_self _
    · rw [List.length_set]
      rcases List.mem_append.mp hmem with hmem | hmem
      · exact ih hmem
      · rw [List.mem_singleton.mp hmem, hmoved.number_eq]
        exact (List.getElem?_eq_some_iff.mp hhere).1

/-- **What happened to an operation in a run is a course of it.** -/
theorem Run.course (hrun : Run devId history system) (hhere : system.points[operation]? = some point) :
    Course devId operation (own history operation) point := by
  -- On the run; the course of an operation gets longer only where the occurrence is its own.
  induction hrun generalizing point with
  | opened => simp [System.opened] at hhere
  | @step history system next occurrence hbefore hstep ih =>
    have happend : own (history ++ [occurrence]) operation =
        own history operation ++ if occurrence.number = operation then [occurrence] else [] := by
      rw [own, List.filter_append]
      by_cases hmine : occurrence.number = operation <;> simp [own, hmine]
    rw [happend]
    rcases step_iff.mp hstep with ⟨start, hasked, rfl, rfl⟩ | ⟨moved, before, gate', after, hbefore', hmoved, rfl⟩
    · rcases getElem?_append_cases hhere with ⟨rfl, rfl⟩ | ⟨hlt, hhere⟩
      · -- It starts here, so nothing happened to it before.
        have hfresh : own history system.points.length = [] := by
          rw [own, List.filter_eq_nil_iff]
          intro earlier hmem
          simpa using Nat.ne_of_lt (hbefore.number_lt hmem)
        rw [hfresh]
        simpa [Occurrence.number] using Course.start hasked
      · have hother : (Occurrence.started system.points.length start).number ≠ operation :=
          Nat.ne_of_gt hlt
        rw [if_neg hother, List.append_nil]
        exact ih hhere
    · rw [hmoved.number_eq]
      rcases getElem?_set_cases hhere with ⟨rfl, rfl⟩ | ⟨hne, hhere⟩
      · rw [if_pos rfl]
        exact .turn (ih hbefore') hmoved
      · rw [if_neg (Ne.symm hne), List.append_nil]
        exact ih hhere

/-- To whom something happened stands at a point, and has a course. -/
theorem Run.exists_course (hrun : Run devId history system) (hmem : occurrence ∈ history) :
    ∃ point, system.points[occurrence.number]? = some point ∧
      Course devId occurrence.number (own history occurrence.number) point := by
  have hlt := hrun.number_lt hmem
  exact ⟨_, List.getElem?_eq_getElem hlt, hrun.course (List.getElem?_eq_getElem hlt)⟩

/-! ## The kind of an operation

Every point, request and result belongs to one kind of operation, and turns stay within it. Only where an
operation was ended by an abandoned request its point does not tell any more what it was. -/

/-- What an operation was asked to do; the end of the channel is a kind of its own. -/
inductive Kind where
  | read
  | write
  | close
  | drop
  deriving DecidableEq

/-- The end of a channel that nobody closed closes it on its own behalf. -/
def Closer.kind : Closer → Kind
  | .caller => .close
  | .owner => .drop

/-- Who gives the descriptor back does so on behalf of an operation. -/
def Releaser.kind : Releaser → Kind
  | .reader _ => .read
  | .closer who => who.kind
  | .owner => .drop

def Pending.kind : Pending → Kind
  | .read _ => .read
  | .write _ => .write
  | .closeFrame closer => closer.kind
  | .release releaser => releaser.kind

def Result.kind : Result → Kind
  | .read _ => .read
  | .write _ => .write
  | .close _ => .close
  | .dropped => .drop

/-- The kind of an operation, as its point tells it. -/
def Point.kind? : Point → Option Kind
  | .readStart _ | .readLock _ | .readRecheck _ | .readUnlock _ | .readAfter _ => some .read
  | .writeLock _ | .writeCheck _ | .writeUnlock _ => some .write
  | .closeMark closer | .closeLock closer | .closeUnlock closer => some closer.kind
  | .releaseTry releaser | .releaseMark releaser | .releaseUnlock releaser _ => some releaser.kind
  | .dropStart => some .drop
  | .before pending | .inside pending | .unwinding pending => some pending.kind
  | .ended (.returned result) => some result.kind
  | .ended .unwound => none

/-- A refused close goes on as what it was. -/
theorem kind?_afterClosed (closer : Closer) : (afterClosed closer).kind? = some closer.kind := by
  cases closer <;> rfl

theorem kind?_afterRelease (releaser : Releaser) (outcome : Option (Except IoError Unit)) :
    (afterRelease devId releaser outcome).1.kind? = some releaser.kind := by
  rcases releaser with _ | closer | _
  · rfl
  · cases closer <;> cases outcome <;> rfl
  · rfl

/-- A turn keeps the kind, unless it is the last one after an abandoned request. -/
theorem Turn.kind?_eq (hturn : Turn devId operation gate point occurrence gate' point') :
    point'.kind? = point.kind? ∨ point' = .ended .unwound := by
  cases hturn with
  | closeRefused => exact .inl (kind?_afterClosed _)
  | releaseBusy | releaseUnlock => exact .inl (kind?_afterRelease _ _)
  | unwind => exact .inr rfl
  | _ => exact .inl rfl

/-- All that happens to an operation is of the kind that it was started as. -/
theorem Course.kind_eq (hcourse : Course devId operation past point) :
    ∃ start, Asked start ∧ .started operation start ∈ past ∧
      (point.kind? = start.kind? ∨ point = .ended .unwound) ∧
      ∀ pending, .began operation pending ∈ past → start.kind? = some pending.kind := by
  induction hcourse with
  | start hasked => exact ⟨_, hasked, List.mem_singleton_self _, .inl rfl, by simp⟩
  | @turn past gate gate' point point' occurrence hbefore hturn ih =>
    obtain ⟨start, hasked, hstarted, hkind, hbegan⟩ := ih
    -- Whoever has a turn has not been ended yet.
    have hlive : point.kind? = start.kind? := by
      refine hkind.resolve_right ?_
      rintro rfl
      cases hturn
    refine ⟨start, hasked, List.mem_append_left _ hstarted, ?_, ?_⟩
    · rw [← hlive]
      exact hturn.kind?_eq
    · intro pending hmem
      rcases List.mem_append.mp hmem with hmem | hmem
      · exact hbegan pending hmem
      -- The request that begins in this turn is the one that the point was before.
      · obtain rfl := List.mem_singleton.mp hmem
        cases hturn
        rw [← hlive]
        rfl

/-- **Who makes a request was asked for something of that kind.** -/
theorem Run.started_of_began (hrun : Run devId history system) {pending : Pending}
    (hbegan : .began operation pending ∈ history) :
    ∃ start, Asked start ∧ .started operation start ∈ history ∧ start.kind? = some pending.kind := by
  obtain ⟨point, -, hcourse⟩ := hrun.exists_course hbegan
  obtain ⟨start, hasked, hstarted, -, hkind⟩ := hcourse.kind_eq
  exact ⟨start, hasked, (mem_own.mp hstarted).1, hkind pending (mem_own.mpr ⟨hbegan, rfl⟩)⟩

/-- A caller's frame is written for a call that was asked to write. -/
theorem Run.write_of_began (hrun : Run devId history system) {frame : Bytes}
    (hbegan : .began operation (.write frame) ∈ history) :
    ∃ asked, .started operation (.write asked) ∈ history := by
  obtain ⟨start, hasked, hstarted, hkind⟩ := hrun.started_of_began hbegan
  cases hasked with
  | write asked => exact ⟨asked, hstarted⟩
  | read | close => cases hkind

/-- The close frame is sent for a call that was asked to close. -/
theorem Run.close_of_began (hrun : Run devId history system) {closer : Closer}
    (hbegan : .began operation (.closeFrame closer) ∈ history) :
    closer = .caller ∧ .started operation .close ∈ history := by
  obtain ⟨start, hasked, hstarted, hkind⟩ := hrun.started_of_began hbegan
  cases closer <;> cases hasked <;> cases hkind
  exact ⟨rfl, hstarted⟩

/-- The descriptor is given back by a read or by a close. -/
theorem Run.releaser_of_began (hrun : Run devId history system) {releaser : Releaser}
    (hbegan : .began operation (.release releaser) ∈ history) :
    (∃ got length, releaser = .reader got ∧ .started operation (.read length) ∈ history) ∨
      releaser = .closer .caller ∧ .started operation .close ∈ history := by
  obtain ⟨start, hasked, hstarted, hkind⟩ := hrun.started_of_began hbegan
  -- Nobody asks for the end of a channel here, so the last one cannot be.
  rcases releaser with got | closer | _
  · cases hasked with
    | read length => exact .inl ⟨got, length, rfl, hstarted⟩
    | write | close => cases hkind
  · cases closer <;> cases hasked <;> cases hkind
    exact .inr ⟨rfl, hstarted⟩
  · cases hasked <;> cases hkind

end HciTransport.Channel
