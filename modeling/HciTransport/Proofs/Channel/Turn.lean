import HciTransport.Channel.Interleaving

/-!
# Turns: what one step of a system can be

A step either starts an operation or is the turn of one that was started: this one leaves its point
and may move the gate, and no other operation moves. `Turn` is the table of all turns, one row for each
thing that an operation can do, with the guard under which it does it. `step_iff` says that the table is
complete and that every row of it can happen, so nothing after it has to look at `advance` or `resume`
again.

Two inductions over a run are made here once. `Run.conserved` is for what operations hand to each other
through the gate: a flag or a lock counts for one, an operation that owes or holds it counts for one, and
no turn changes the sum. `Run.everywhere` is for what is true of every operation by itself.
-/

namespace HciTransport.Channel

/-- The turn of one operation: the gate and its point before, what happens, the gate and its point
after. -/
inductive Turn (devId : UInt16) (operation : Nat) : Gate → Point → Occurrence → Gate → Point → Prop where
  | readRefused {gate : Gate} {length : Nat} (hclosed : gate.closed = true) :
      Turn devId operation gate (.readStart length) (.stepped operation []) gate
        (.ended (.returned (.read ⟨[], .ok 0⟩)))
  | readStart {gate : Gate} {length : Nat} (hopen : gate.closed = false) :
      Turn devId operation gate (.readStart length) (.stepped operation []) gate (.readLock length)
  | readLock {gate : Gate} {length : Nat} (hfree : gate.readLocked = false) :
      Turn devId operation gate (.readLock length) (.stepped operation [])
        { gate with readLocked := true } (.readRecheck length)
  | readLate {gate : Gate} {length : Nat} (hclosed : gate.closed = true) :
      Turn devId operation gate (.readRecheck length) (.stepped operation []) gate (.readUnlock none)
  | readRecheck {gate : Gate} {length : Nat} (hopen : gate.closed = false) :
      Turn devId operation gate (.readRecheck length) (.stepped operation []) gate
        (.before (.read length))
  | readUnlock {gate : Gate} {got : Option (Receipt IoError)} :
      Turn devId operation gate (.readUnlock got) (.stepped operation [])
        { gate with readLocked := false } (.readAfter got)
  | readOver {gate : Gate} {got : Option (Receipt IoError)} (hopen : gate.closed = false) :
      Turn devId operation gate (.readAfter got) (.stepped operation (readResult devId got).2) gate
        (.ended (.returned (.read (readResult devId got).1)))
  | readAfter {gate : Gate} {got : Option (Receipt IoError)} (hclosed : gate.closed = true) :
      Turn devId operation gate (.readAfter got) (.stepped operation []) gate
        (.releaseTry (.reader got))
  | writeLock {gate : Gate} {frame : Bytes} (hfree : gate.writeLocked = false) :
      Turn devId operation gate (.writeLock frame) (.stepped operation [])
        { gate with writeLocked := true } (.writeCheck frame)
  | writeRefused {gate : Gate} {frame : Bytes} (hclosed : gate.closed = true) :
      Turn devId operation gate (.writeCheck frame) (.stepped operation []) gate
        (.writeUnlock (.error .closed))
  | writeCheck {gate : Gate} {frame : Bytes} (hopen : gate.closed = false) :
      Turn devId operation gate (.writeCheck frame) (.stepped operation []) gate
        (.before (.write frame))
  | writeUnlock {gate : Gate} {outcome : Except HciError Nat} :
      Turn devId operation gate (.writeUnlock outcome) (.stepped operation [])
        { gate with writeLocked := false } (.ended (.returned (.write outcome)))
  | closeRefused {gate : Gate} {closer : Closer} (hclosed : gate.closed = true) :
      Turn devId operation gate (.closeMark closer) (.stepped operation [.alreadyClosed devId]) gate
        (afterClosed closer)
  | closeMark {gate : Gate} {closer : Closer} (hopen : gate.closed = false) :
      Turn devId operation gate (.closeMark closer) (.stepped operation [])
        { gate with closed := true } (.closeLock closer)
  | closeLock {gate : Gate} {closer : Closer} (hfree : gate.writeLocked = false) :
      Turn devId operation gate (.closeLock closer) (.stepped operation [])
        { gate with writeLocked := true } (.before (.closeFrame closer))
  | closeUnlock {gate : Gate} {closer : Closer} :
      Turn devId operation gate (.closeUnlock closer) (.stepped operation [.closing devId])
        { gate with writeLocked := false } (.releaseTry (.closer closer))
  | releaseBusy {gate : Gate} {releaser : Releaser} (hlocked : gate.readLocked = true) :
      Turn devId operation gate (.releaseTry releaser)
        (.stepped operation (afterRelease devId releaser none).2) gate
        (afterRelease devId releaser none).1
  | releaseTry {gate : Gate} {releaser : Releaser} (hfree : gate.readLocked = false) :
      Turn devId operation gate (.releaseTry releaser) (.stepped operation [])
        { gate with readLocked := true } (.releaseMark releaser)
  | releaseVain {gate : Gate} {releaser : Releaser} (hreleased : gate.released = true) :
      Turn devId operation gate (.releaseMark releaser) (.stepped operation []) gate
        (.releaseUnlock releaser none)
  | releaseMark {gate : Gate} {releaser : Releaser} (hkept : gate.released = false) :
      Turn devId operation gate (.releaseMark releaser) (.stepped operation [])
        { gate with released := true } (.before (.release releaser))
  | releaseUnlock {gate : Gate} {releaser : Releaser} {outcome : Option (Except IoError Unit)} :
      Turn devId operation gate (.releaseUnlock releaser outcome)
        (.stepped operation (afterRelease devId releaser outcome).2)
        { gate with readLocked := false } (afterRelease devId releaser outcome).1
  | dropClosed {gate : Gate} (hclosed : gate.closed = true) :
      Turn devId operation gate .dropStart (.stepped operation []) gate (.releaseTry .owner)
  | dropOpen {gate : Gate} (hopen : gate.closed = false) :
      Turn devId operation gate .dropStart (.stepped operation []) gate (.closeMark .owner)
  | begin {gate : Gate} {pending : Pending} :
      Turn devId operation gate (.before pending) (.began operation pending) gate (.inside pending)
  | answerRead {gate : Gate} {length : Nat} (receipt : Receipt IoError) :
      Turn devId operation gate (.inside (.read length))
        (.answered operation (.read length) receipt (resume devId (.read length) receipt).2) gate
        (.readUnlock (some receipt))
  | answerWrite {gate : Gate} {frame : Bytes} (answer : Except IoError Nat) :
      Turn devId operation gate (.inside (.write frame))
        (.answered operation (.write frame) answer (resume devId (.write frame) answer).2) gate
        (.writeUnlock (answer.mapError .send))
  | answerFrame {gate : Gate} {closer : Closer} (answer : Except IoError Nat) :
      Turn devId operation gate (.inside (.closeFrame closer))
        (.answered operation (.closeFrame closer) answer (resume devId (.closeFrame closer) answer).2)
        gate (.closeUnlock closer)
  | answerRelease {gate : Gate} {releaser : Releaser} (answer : Except IoError Unit) :
      Turn devId operation gate (.inside (.release releaser))
        (.answered operation (.release releaser) answer (resume devId (.release releaser) answer).2)
        gate (.releaseUnlock releaser (some answer))
  | abandon {gate : Gate} {pending : Pending} :
      Turn devId operation gate (.inside pending) (.abandoned operation pending) gate
        (.unwinding pending)
  | unwind {gate : Gate} {pending : Pending} :
      Turn devId operation gate (.unwinding pending) (.stepped operation [])
        (gate.setLocked false pending.lock) (.ended .unwound)

variable {devId : UInt16} {operation : Nat} {system next : System} {history : List Occurrence}
  {occurrence : Occurrence}

/-! ## The table is the step relation -/

/-- Where a lock is asked for, the step is the taking of a free lock. -/
theorem acquire_eq_step {gate after : Gate} {lock : Lock} {point point' : Point} {log : List LogEntry}
    (h : acquire gate lock point' = .step after log point) :
    gate.isLocked lock = false ∧ after = gate.setLocked true lock ∧ log = [] ∧ point = point' := by
  unfold acquire at h
  split at h
  · cases h
  · next hfree =>
    cases h
    exact ⟨by simpa using hfree, rfl, rfl, rfl⟩

/-- Each step that `advance` makes by itself is a row of the table. -/
theorem turn_of_advance {gate gate' : Gate} {point point' : Point} {log : List LogEntry}
    (h : advance devId gate point = .step gate' log point') :
    Turn devId operation gate point (.stepped operation log) gate' point' := by
  cases point with
  | readStart | readRecheck | readAfter | writeCheck | closeMark | releaseTry | releaseMark | dropStart =>
    -- A look at the gate: what it finds is the guard of one row or of the other.
    simp only [advance] at h
    split at h
    · next hset =>
      cases h
      constructor
      exact hset
    · next hunset =>
      cases h
      constructor
      simpa using hunset
  | readLock | writeLock | closeLock =>
    obtain ⟨hfree, rfl, rfl, rfl⟩ := acquire_eq_step h
    constructor
    exact hfree
  | readUnlock | writeUnlock | closeUnlock | releaseUnlock | unwinding =>
    cases h
    constructor
  | before | inside | ended => cases h

/-- A request begins at no other point than the one before it. -/
theorem eq_before_of_advance {gate : Gate} {point : Point} {pending : Pending}
    (h : advance devId gate point = .begin pending) : point = .before pending := by
  cases point with
  | readStart | readRecheck | readAfter | writeCheck | closeMark | releaseTry | releaseMark | dropStart =>
    simp only [advance] at h
    split at h <;> cases h
  | readLock | writeLock | closeLock =>
    simp only [advance, acquire] at h
    split at h <;> cases h
  | readUnlock | writeUnlock | closeUnlock | releaseUnlock | unwinding | inside | ended => cases h
  | before => cases h; rfl

/-- An answer is a row of the table. -/
theorem turn_of_resume {gate : Gate} (pending : Pending) (answer : pending.call.Answer) :
    Turn devId operation gate (.inside pending)
      (.answered operation pending answer (resume devId pending answer).2) gate
      (resume devId pending answer).1 := by
  cases pending with
  | read length => exact .answerRead answer
  | write frame => cases answer <;> exact .answerWrite _
  | closeFrame closer => cases answer <;> exact .answerFrame _
  | release releaser => exact .answerRelease answer

/-- Each row of the table is a step of any system with an operation at that point. -/
theorem Turn.step {gate' : Gate} {point point' : Point}
    (hturn : Turn devId operation system.gate point occurrence gate' point')
    (hhere : system.points[operation]? = some point) :
    Step devId system occurrence ⟨gate', system.points.set operation point'⟩ := by
  cases hturn with
  -- Requests and answers are steps of their own kind; how a request is answered is open in each of them.
  | begin => exact .begin hhere rfl
  | answerRead receipt => exact @Step.answer _ _ _ (.read _) receipt hhere
  | answerWrite answer => cases answer <;> exact @Step.answer _ _ _ (.write _) _ hhere
  | answerFrame answer => cases answer <;> exact @Step.answer _ _ _ (.closeFrame _) _ hhere
  | answerRelease answer => exact @Step.answer _ _ _ (.release _) answer hhere
  | abandon => exact .abandon hhere
  | _ =>
    -- What is left the operation does by itself, and its guard decides what `advance` says.
    refine .go hhere ?_
    simp [advance, acquire, Gate.isLocked, Gate.setLocked, *]

/-- **A step is a start or a turn.** -/
theorem step_iff :
    Step devId system occurrence next ↔
      (∃ point, Asked point ∧ occurrence = .started system.points.length point ∧
        next = ⟨system.gate, system.points ++ [point]⟩) ∨
      ∃ operation point gate point', system.points[operation]? = some point ∧
        Turn devId operation system.gate point occurrence gate point' ∧
        next = ⟨gate, system.points.set operation point'⟩ := by
  constructor
  -- A step is one of five things, and only the first of them puts an operation there.
  · intro hstep
    cases hstep with
    | start asked => exact .inl ⟨_, asked, rfl, rfl⟩
    | go here moves => exact .inr ⟨_, _, _, _, here, turn_of_advance moves, rfl⟩
    | begin here moves =>
      obtain rfl := eq_before_of_advance moves
      exact .inr ⟨_, _, _, _, here, .begin, rfl⟩
    | answer answer here => exact .inr ⟨_, _, _, _, here, turn_of_resume _ answer, rfl⟩
    | abandon here => exact .inr ⟨_, _, _, _, here, .abandon, rfl⟩
  · rintro (⟨point, hasked, rfl, rfl⟩ | ⟨operation, point, gate, point', hhere, hturn, rfl⟩)
    · exact .start hasked
    · exact hturn.step hhere

/-- A request begins where the operation stood before it. -/
theorem Step.before_of_began {pending : Pending}
    (hstep : Step devId system (.began operation pending) next) :
    system.points[operation]? = some (.before pending) := by
  rcases step_iff.mp hstep with ⟨_, _, h, _⟩ | ⟨_, _, _, _, hhere, hturn, _⟩
  · cases h
  · cases hturn
    exact hhere

/-! ## Where an attempt leads

An attempt that comes to its end leaves the operation over, or at the one more try that the end of the
channel makes for itself. What is the same of both is so wherever it leads. -/

/-- What is so for every result, and where the end of the channel tries once more, is so after a close that was
refused. -/
theorem afterClosed_eq {α : Type} {f : Point → α} {a : α} (hover : ∀ result, f (.ended (.returned result)) = a)
    (htry : f (.releaseTry .owner) = a) (closer : Closer) : f (afterClosed closer) = a := by
  cases closer with
  | caller => exact hover _
  | owner => exact htry

/-- What is so for every result, and where the end of the channel tries once more, is so after an attempt to give the
descriptor back, whoever made it. -/
theorem afterRelease_eq {α : Type} {f : Point → α} {a : α} (hover : ∀ result, f (.ended (.returned result)) = a)
    (htry : f (.releaseTry .owner) = a) (releaser : Releaser) (outcome : Option (Except IoError Unit)) :
    f (afterRelease devId releaser outcome).1 = a := by
  rcases releaser with _ | closer | _
  · exact hover _
  · cases closer <;> cases outcome <;> first | exact hover _ | exact htry
  · exact hover _

/-! ## What the gate keeps -/

@[simp] theorem Gate.closed_setLocked (gate : Gate) (locked : Bool) (lock : Lock) :
    (gate.setLocked locked lock).closed = gate.closed := by
  cases lock <;> rfl

@[simp] theorem Gate.released_setLocked (gate : Gate) (locked : Bool) (lock : Lock) :
    (gate.setLocked locked lock).released = gate.released := by
  cases lock <;> rfl

/-- Setting one lock leaves the other one alone. -/
theorem Gate.isLocked_setLocked (gate : Gate) (locked : Bool) (lock other : Lock) :
    (gate.setLocked locked lock).isLocked other = if lock = other then locked else gate.isLocked other := by
  cases lock <;> cases other <;> rfl

/-- A closed channel stays closed. -/
theorem Turn.closed_mono {gate gate' : Gate} {point point' : Point}
    (hturn : Turn devId operation gate point occurrence gate' point') (hclosed : gate.closed = true) :
    gate'.closed = true := by
  cases hturn <;> simp [hclosed]

/-- A descriptor that was given back stays so. -/
theorem Turn.released_mono {gate gate' : Gate} {point point' : Point}
    (hturn : Turn devId operation gate point occurrence gate' point') (hreleased : gate.released = true) :
    gate'.released = true := by
  cases hturn <;> simp [hreleased]

/-! ## Operations by number -/

/-- After a turn an operation stands where its turn led, or it is another one and stands where it
stood. -/
theorem getElem?_set_cases {points : List Point} {moved i : Nat} {point' q : Point}
    (h : (points.set moved point')[i]? = some q) :
    (i = moved ∧ q = point') ∨ (i ≠ moved ∧ points[i]? = some q) := by
  rw [List.getElem?_set] at h
  -- Whether it is the one that was moved.
  split at h
  · next heq =>
    split at h
    · exact .inl ⟨heq.symm, (Option.some.inj h).symm⟩
    · cases h
  · next hne => exact .inr ⟨fun heq => hne heq.symm, h⟩

/-- After a start an operation is the one that was started, or stands where it stood. -/
theorem getElem?_append_cases {points : List Point} {i : Nat} {point q : Point}
    (h : (points ++ [point])[i]? = some q) :
    (i = points.length ∧ q = point) ∨ (i < points.length ∧ points[i]? = some q) := by
  rcases Nat.lt_or_ge i points.length with hlt | hge
  · rw [List.getElem?_append_left hlt] at h
    exact .inr ⟨hlt, h⟩
  · rw [List.getElem?_append_right hge] at h
    obtain ⟨hzero, hq⟩ := List.getElem?_eq_some_iff.mp h
    simp only [List.length_cons, List.length_nil] at hzero
    exact .inl ⟨by omega, by simpa using hq.symm⟩

/-- Who moves stands where it moved to. -/
theorem getElem?_set_of_some {points : List Point} {moved : Nat} {point point' : Point}
    (h : points[moved]? = some point) : (points.set moved point')[moved]? = some point' := by
  rw [List.getElem?_set_self (List.getElem?_eq_some_iff.mp h).1]

/-- Moving one operation takes away what its point counted for and adds what its new point does. -/
theorem countP_set_add {points : List Point} {moved : Nat} {point : Point} (P : Point → Bool)
    (point' : Point) (h : points[moved]? = some point) :
    (points.set moved point').countP P + (P point).toNat = points.countP P + (P point').toNat := by
  -- On the list, down to the place of the one that moves.
  induction points generalizing moved with
  | nil => simp at h
  | cons q points ih =>
    cases moved with
    | zero =>
      obtain rfl : q = point := by simpa using h
      simp only [List.set_cons_zero, List.countP_cons]
      cases P q <;> cases P point' <;> simp
    | succ moved =>
      have htail : points[moved]? = some point := by simpa using h
      have := ih htail
      simp only [List.set_cons_succ, List.countP_cons]
      omega

/-- Where at most one thing counts, two places with a thing that counts are one. -/
theorem index_unique_of_countP_le_one {α : Type} {xs : List α} {i j : Nat} {x y : α} {P : α → Bool}
    (hcount : xs.countP P ≤ 1) (hi : xs[i]? = some x) (hj : xs[j]? = some y)
    (hx : P x = true) (hy : P y = true) : i = j := by
  induction xs generalizing i j with
  | nil => simp at hi
  | cons z xs ih =>
    rw [List.countP_cons] at hcount
    -- One of them at the head leaves no room for the other behind it.
    have hnone : P z = true → ∀ {k : Nat} {w : α}, xs[k]? = some w → P w = true → False := by
      intro hz k w hk hw
      have hpos := List.countP_pos_iff.mpr ⟨w, List.mem_of_getElem? hk, hw⟩
      rw [if_pos hz] at hcount
      omega
    cases i with
    | zero =>
      obtain rfl : z = x := by simpa using hi
      cases j with
      | zero => rfl
      | succ j => exact (hnone hx (by simpa using hj) hy).elim
    | succ i =>
      cases j with
      | zero =>
        obtain rfl : z = y := by simpa using hj
        exact (hnone hy (by simpa using hi) hx).elim
      | succ j =>
        have hij : i = j := ih (by omega) (by simpa using hi) (by simpa using hj)
        rw [hij]

/-- Where at most one thing counts, two things that count are one. -/
theorem eq_of_countP_le_one {α : Type} {xs : List α} {x y : α} {P : α → Bool}
    (hcount : xs.countP P ≤ 1) (hx : x ∈ xs) (hy : y ∈ xs) (hPx : P x = true) (hPy : P y = true) :
    x = y := by
  -- They stand at one place, and there is one thing at a place.
  obtain ⟨i, hi⟩ := List.getElem?_of_mem hx
  obtain ⟨j, hj⟩ := List.getElem?_of_mem hy
  obtain rfl := index_unique_of_countP_le_one hcount hi hj hPx hPy
  exact Option.some.inj (hi.symm.trans hj)

/-! ## Runs -/

/-- A run goes on with a turn. -/
theorem Run.turn {gate' : Gate} {point point' : Point} (hrun : Run devId history system)
    (hhere : system.points[operation]? = some point)
    (hturn : Turn devId operation system.gate point occurrence gate' point') :
    Run devId (history ++ [occurrence]) ⟨gate', system.points.set operation point'⟩ :=
  hrun.step (hturn.step hhere)

/-- A run passes through a state between any two of its occurrences, and goes from there by a step. -/
theorem Run.step_of_append {before after : List Occurrence}
    (hrun : Run devId (before ++ occurrence :: after) system) :
    ∃ here next, Run devId before here ∧ Step devId here occurrence next := by
  generalize hall : before ++ occurrence :: after = history at hrun
  -- From the end of the run, since that is where a run grows; what comes after the occurrence gets shorter.
  induction hrun generalizing after with
  | opened => simp at hall
  | @step history middle last occurrence' hbefore hstep ih =>
    rcases List.eq_nil_or_concat after with rfl | ⟨after', occurrence'', rfl⟩
    · -- It is the last occurrence of the run.
      obtain ⟨rfl, hlast⟩ := List.append_inj' hall rfl
      cases hlast
      exact ⟨middle, last, hbefore, hstep⟩
    · have hshort : before ++ occurrence :: after' = history := by
        rw [List.concat_eq_append, ← List.cons_append, ← List.append_assoc] at hall
        exact (List.append_inj' hall rfl).1
      exact ih hshort

/-- **What is handed on and never lost.** Let a flag or a lock of the gate, and the operations at some
points, count for one each. If no turn changes the sum of what is at the gate, what operations hold and
what has happened, then in every run what happened and what is held make up what is at the gate. -/
theorem Run.conserved (held : Point → Bool) (tally : Occurrence → Bool) (stock : Gate → Bool)
    (hopened : stock .opened = false)
    (hasked : ∀ number point, Asked point → held point = false ∧ tally (.started number point) = false)
    (hturn : ∀ {operation gate point occurrence gate' point'},
      Turn devId operation gate point occurrence gate' point' →
      (held point = true → stock gate = true) →
      (tally occurrence).toNat + (held point').toNat + (stock gate).toNat =
        (held point).toNat + (stock gate').toNat)
    (hrun : Run devId history system) :
    history.countP tally + system.points.countP held = (stock system.gate).toNat := by
  induction hrun with
  | opened => simp [System.opened, hopened]
  | @step history system next occurrence hbefore hstep ih =>
    have htally : (history ++ [occurrence]).countP tally = history.countP tally + (tally occurrence).toNat := by
      cases h : tally occurrence <;> simp [h]
    rw [htally]
    rcases step_iff.mp hstep with ⟨point, hpoint, rfl, rfl⟩ | ⟨operation, point, gate', point', hhere, hmoved, rfl⟩
    · -- A start counts for nothing, neither as an operation nor as an occurrence.
      obtain ⟨hheld, hstart⟩ := hasked system.points.length point hpoint
      simpa [hheld, hstart] using ih
    · have hset := countP_set_add held point' hhere
      -- An operation that holds something vouches for what is at the gate.
      have hvouched : held point = true → stock system.gate = true := by
        intro hheld
        have hpos := List.countP_pos_iff.mpr ⟨point, List.mem_of_getElem? hhere, hheld⟩
        have hone := Bool.toNat_le (stock system.gate)
        exact Bool.toNat_eq_one.mp (by omega)
      have hbalance := hturn hmoved hvouched
      simp only
      omega

/-- **What is true of every operation.** It is true where operations start, the operation whose turn it
is keeps it for itself, and the turn of another one does not take it away. -/
theorem Run.everywhere {P : Gate → Point → Prop}
    (hasked : ∀ {gate point}, Asked point → P gate point)
    (hself : ∀ {operation gate point occurrence gate' point'},
      Turn devId operation gate point occurrence gate' point' → P gate point → P gate' point')
    (hother : ∀ {operation gate point occurrence gate' point' q},
      Turn devId operation gate point occurrence gate' point' → P gate q → P gate' q)
    (hrun : Run devId history system) {i : Nat} {q : Point} (hq : system.points[i]? = some q) :
    P system.gate q := by
  induction hrun generalizing i q with
  | opened => simp [System.opened] at hq
  | step hbefore hstep ih =>
    rcases step_iff.mp hstep with ⟨point, hpoint, rfl, rfl⟩ | ⟨operation, point, gate', point', hhere, hmoved, rfl⟩
    -- Either the operation was started by this step or it was there already.
    · rcases getElem?_append_cases hq with ⟨-, rfl⟩ | ⟨-, hq⟩
      · exact hasked hpoint
      · exact ih hq
    -- Either it has its turn in this step or another one has.
    · rcases getElem?_set_cases hq with ⟨-, rfl⟩ | ⟨-, hq⟩
      · exact hself hmoved (ih hhere)
      · exact hother hmoved (ih hq)

end HciTransport.Channel
