import HciTransport.Proofs.Channel.Course

/-!
# Accounts: what an operation shows of itself

All that others see of an operation are its deeds: the requests that it begins, the answers that it gets
and what it logs. `Account` is the table of what an operation has shown, by the point where it stands, and
`Turn.account` says that every turn keeps to the table. So for an operation that is over the table says
which deeds it has done and what it returned for them.

The table also says when an operation is decided. A look at the closed flag decides a read or a write: it
is served if the channel is open and refused if it is closed. A close is decided when it marks the
channel. `Turn.account` ties the decision to the gate of that very turn.
-/

namespace HciTransport.Channel

variable {devId : UInt16} {operation : Nat} {system : System} {history past : List Occurrence}
  {occurrence : Occurrence} {gate gate' : Gate} {point point' asked : Point}

/-! ## Deeds -/

/-- What others see of an operation. -/
inductive Deed where
  | began (pending : Pending)
  | answered (pending : Pending) (answer : pending.call.Answer)
  | logged (entry : LogEntry)

/-- The deeds that an occurrence consists of; a start is none, and an abandoned request leaves none. -/
def Occurrence.deeds : Occurrence → List Deed
  | .started _ _ | .abandoned _ _ => []
  | .stepped _ log => log.map .logged
  | .began _ pending => [.began pending]
  | .answered _ pending answer log => .answered pending answer :: log.map .logged

/-- What an operation has done, in order. -/
def deeds (history : List Occurrence) (operation : Nat) : List Deed :=
  (own history operation).flatMap Occurrence.deeds

theorem deeds_append (history later : List Occurrence) (operation : Nat) :
    deeds (history ++ later) operation = deeds history operation ++ deeds later operation := by
  rw [deeds, own, List.filter_append, List.flatMap_append]
  rfl

/-- What happens to the operation itself shows in its deeds. -/
theorem deeds_own (h : occurrence.number = operation) : deeds [occurrence] operation = occurrence.deeds := by
  simp [deeds, own, h]

/-- What happens to another one does not. -/
theorem deeds_other (h : occurrence.number ≠ operation) : deeds [occurrence] operation = [] := by
  simp [deeds, own, h]

/-- Every deed of an occurrence is one of the operation to which it happened. -/
theorem mem_deeds_of_mem {deed : Deed} (hmem : occurrence ∈ history) (hdeed : deed ∈ occurrence.deeds) :
    deed ∈ deeds history occurrence.number :=
  List.mem_flatMap.mpr ⟨occurrence, mem_own.mpr ⟨hmem, rfl⟩, hdeed⟩

/-- A request among the deeds was begun in the run. -/
theorem began_of_mem_deeds {pending : Pending} (hmem : .began pending ∈ deeds history operation) :
    .began operation pending ∈ history := by
  obtain ⟨occurrence, hown, hdeed⟩ := List.mem_flatMap.mp hmem
  obtain ⟨hoccurrence, hnumber⟩ := mem_own.mp hown
  -- Only the beginning of a request is made of one; an answer comes with the log that follows it.
  cases occurrence with
  | began number begun =>
    obtain rfl : number = operation := hnumber
    cases List.mem_singleton.mp hdeed
    exact hoccurrence
  | stepped number log | answered number answered answer log => simp [Occurrence.deeds] at hdeed
  | started | abandoned => cases hdeed

/-- A request with its answer, and what is logged about it. -/
def Pending.dealt (devId : UInt16) (pending : Pending) (answer : pending.call.Answer) : List Deed :=
  .began pending :: .answered pending answer :: (resume devId pending answer).2.map .logged

/-- What a read has done at the descriptor, by what it got there. -/
def readDeeds (devId : UInt16) (length : Nat) : Option (Receipt IoError) → List Deed
  | none => []
  | some receipt => (Pending.read length).dealt devId receipt

/-- What an attempt to give the descriptor back has done, by what came of it. -/
def releaseDeeds (devId : UInt16) (releaser : Releaser) : Option (Except IoError Unit) → List Deed
  | none => []
  | some outcome => (Pending.release releaser).dealt devId outcome

/-! ## Phases -/

/-- What a caller can tell of a channel. -/
inductive Phase where
  | opened
  | closed
  deriving DecidableEq

/-- The phase of a channel can be told from its gate. -/
def Gate.phase (gate : Gate) : Phase := if gate.closed then .closed else .opened

theorem Gate.phase_of_closed (h : gate.closed = true) : gate.phase = .closed := by
  rw [Gate.phase, if_pos h]

theorem Gate.phase_of_open (h : gate.closed = false) : gate.phase = .opened := by
  rw [Gate.phase, h]
  rfl

/-- The phase after a call; nothing but a close changes it, and nothing opens a channel again. -/
def Phase.after (phase : Phase) : Point → Phase
  | .closeMark _ => .closed
  | _ => phase

/-- A read that got something was served, and one that got nothing was refused. -/
def phaseOf : Option (Receipt IoError) → Phase
  | none => .closed
  | some _ => .opened

/-! ## The table -/

/-- What an operation has done since it began to try to give the descriptor back. -/
inductive Releasing (devId : UInt16) (releaser : Releaser) : List Deed → Point → Prop where
  | attempt : Releasing devId releaser [] (.releaseTry releaser)
  | mark : Releasing devId releaser [] (.releaseMark releaser)
  | ready : Releasing devId releaser [] (.before (.release releaser))
  | inside : Releasing devId releaser [.began (.release releaser)] (.inside (.release releaser))
  | torn : Releasing devId releaser [.began (.release releaser)] (.unwinding (.release releaser))
  | unwound : Releasing devId releaser [.began (.release releaser)] (.ended .unwound)
  | unlock (outcome : Option (Except IoError Unit)) :
      Releasing devId releaser (releaseDeeds devId releaser outcome) (.releaseUnlock releaser outcome)
  | finished (outcome : Option (Except IoError Unit)) {result : Result}
      (hresult : (afterRelease devId releaser outcome).1 = .ended (.returned result)) :
      Releasing devId releaser
        (releaseDeeds devId releaser outcome ++ (afterRelease devId releaser outcome).2.map .logged)
        (.ended (.returned result))

/-- What an operation has done that was asked for this, by the point where it stands; and how it was
decided, if it was. -/
inductive Account (devId : UInt16) : Point → Option Phase → List Deed → Point → Prop where
  | readStart {length : Nat} : Account devId (.read length) none [] (.readStart length)
  | readLock {length : Nat} : Account devId (.read length) none [] (.readLock length)
  | readRecheck {length : Nat} : Account devId (.read length) none [] (.readRecheck length)
  | readReady {length : Nat} : Account devId (.read length) (some .opened) [] (.before (.read length))
  | readInside {length : Nat} :
      Account devId (.read length) (some .opened) [.began (.read length)] (.inside (.read length))
  | readTorn {length : Nat} :
      Account devId (.read length) (some .opened) [.began (.read length)] (.unwinding (.read length))
  | readUnwound {length : Nat} :
      Account devId (.read length) (some .opened) [.began (.read length)] (.ended .unwound)
  | readUnlock {length : Nat} (got : Option (Receipt IoError)) :
      Account devId (.read length) (some (phaseOf got)) (readDeeds devId length got) (.readUnlock got)
  | readAfter {length : Nat} (got : Option (Receipt IoError)) :
      Account devId (.read length) (some (phaseOf got)) (readDeeds devId length got) (.readAfter got)
  | readOver {length : Nat} (got : Option (Receipt IoError)) :
      Account devId (.read length) (some (phaseOf got))
        (readDeeds devId length got ++ (readResult devId got).2.map .logged)
        (.ended (.returned (.read (readResult devId got).1)))
  | readReleasing {length : Nat} (got : Option (Receipt IoError)) {tail : List Deed} {point : Point}
      (htail : Releasing devId (.reader got) tail point) :
      Account devId (.read length) (some (phaseOf got)) (readDeeds devId length got ++ tail) point
  | writeLock {frame : Bytes} : Account devId (.write frame) none [] (.writeLock frame)
  | writeCheck {frame : Bytes} : Account devId (.write frame) none [] (.writeCheck frame)
  | writeLate {frame : Bytes} :
      Account devId (.write frame) (some .closed) [] (.writeUnlock (.error .closed))
  | writeRefused {frame : Bytes} :
      Account devId (.write frame) (some .closed) [] (.ended (.returned (.write (.error .closed))))
  | writeReady {frame : Bytes} : Account devId (.write frame) (some .opened) [] (.before (.write frame))
  | writeInside {frame : Bytes} :
      Account devId (.write frame) (some .opened) [.began (.write frame)] (.inside (.write frame))
  | writeTorn {frame : Bytes} :
      Account devId (.write frame) (some .opened) [.began (.write frame)] (.unwinding (.write frame))
  | writeUnwound {frame : Bytes} :
      Account devId (.write frame) (some .opened) [.began (.write frame)] (.ended .unwound)
  | writeUnlock {frame : Bytes} (answer : Except IoError Nat) :
      Account devId (.write frame) (some .opened) ((Pending.write frame).dealt devId answer)
        (.writeUnlock (answer.mapError .send))
  | writeOver {frame : Bytes} (answer : Except IoError Nat) :
      Account devId (.write frame) (some .opened) ((Pending.write frame).dealt devId answer)
        (.ended (.returned (.write (answer.mapError .send))))
  | closeMark : Account devId .close none [] (.closeMark .caller)
  | closeAgain :
      Account devId .close (some .closed) [.logged (.alreadyClosed devId)]
        (.ended (.returned (.close (.ok ()))))
  | closeLock : Account devId .close (some .opened) [] (.closeLock .caller)
  | closeReady : Account devId .close (some .opened) [] (.before (.closeFrame .caller))
  | closeInside :
      Account devId .close (some .opened) [.began (.closeFrame .caller)] (.inside (.closeFrame .caller))
  | closeTorn :
      Account devId .close (some .opened) [.began (.closeFrame .caller)]
        (.unwinding (.closeFrame .caller))
  | closeUnwound :
      Account devId .close (some .opened) [.began (.closeFrame .caller)] (.ended .unwound)
  | closeUnlock (answer : Except IoError Nat) :
      Account devId .close (some .opened) ((Pending.closeFrame .caller).dealt devId answer)
        (.closeUnlock .caller)
  | closeReleasing (answer : Except IoError Nat) {tail : List Deed} {point : Point}
      (htail : Releasing devId (.closer .caller) tail point) :
      Account devId .close (some .opened)
        ((Pending.closeFrame .caller).dealt devId answer ++ .logged (.closing devId) :: tail) point

/-! ## Every turn keeps to the table -/

/-- An attempt that is made for a caller is the last thing that an operation does. -/
theorem Turn.releasing {releaser : Releaser} {done : List Deed}
    (hturn : Turn devId operation gate point occurrence gate' point')
    (hlast : ∀ outcome, ∃ result, (afterRelease devId releaser outcome).1 = .ended (.returned result))
    (hreleasing : Releasing devId releaser done point) :
    Releasing devId releaser (done ++ occurrence.deeds) point' := by
  -- The lock is free or not, the mark is there or not, and the request is answered or abandoned: each way is a row.
  cases hreleasing with
  | attempt =>
    cases hturn with
    | releaseBusy =>
      obtain ⟨result, hresult⟩ := hlast none
      rw [hresult]
      exact .finished none hresult
    | releaseTry => exact .mark
  | mark =>
    cases hturn with
    | releaseVain => exact .unlock none
    | releaseMark => exact .ready
  | ready =>
    cases hturn
    exact .inside
  | inside =>
    cases hturn with
    | answerRelease answer => exact .unlock (some answer)
    | abandon => exact .torn
  | torn =>
    cases hturn
    exact .unwound
  | unlock outcome =>
    cases hturn
    obtain ⟨result, hresult⟩ := hlast outcome
    rw [hresult]
    exact .finished outcome hresult
  | unwound | finished => cases hturn

/-- For a read the attempt is the last thing. -/
theorem Releasing.last_reader (got : Option (Receipt IoError)) (outcome : Option (Except IoError Unit)) :
    ∃ result, (afterRelease devId (.reader got) outcome).1 = .ended (.returned result) :=
  ⟨_, rfl⟩

theorem Releasing.last_caller (outcome : Option (Except IoError Unit)) :
    ∃ result, (afterRelease devId (.closer .caller) outcome).1 = .ended (.returned result) := by
  cases outcome with
  | none => exact ⟨_, rfl⟩
  | some outcome => exact ⟨_, rfl⟩

/-- A decided operation keeps to the table. -/
theorem Turn.account_decided {phase : Phase} {done : List Deed}
    (hturn : Turn devId operation gate point occurrence gate' point')
    (haccount : Account devId asked (some phase) done point) :
    Account devId asked (some phase) (done ++ occurrence.deeds) point' := by
  cases haccount with
  | readReady =>
    cases hturn
    exact .readInside
  | readInside =>
    cases hturn with
    | answerRead receipt => exact .readUnlock (some receipt)
    | abandon => exact .readTorn
  | readTorn =>
    cases hturn
    exact .readUnwound
  | readUnlock got =>
    cases hturn
    rw [show (Occurrence.stepped operation []).deeds = [] from rfl, List.append_nil]
    exact .readAfter got
  | readAfter got =>
    cases hturn with
    | readOver => exact .readOver got
    | readAfter => exact .readReleasing got .attempt
  -- The last attempt is the same for reads and closes, so it has a table of its own.
  | readReleasing got htail =>
    rw [List.append_assoc]
    exact .readReleasing got (hturn.releasing (Releasing.last_reader got) htail)
  | writeLate =>
    cases hturn
    exact .writeRefused
  | writeReady =>
    cases hturn
    exact .writeInside
  | writeInside =>
    cases hturn with
    | answerWrite answer => exact .writeUnlock answer
    | abandon => exact .writeTorn
  | writeTorn =>
    cases hturn
    exact .writeUnwound
  | writeUnlock answer =>
    cases hturn
    rw [show (Occurrence.stepped operation []).deeds = [] from rfl, List.append_nil]
    exact .writeOver answer
  | closeLock =>
    cases hturn
    exact .closeReady
  | closeReady =>
    cases hturn
    exact .closeInside
  | closeInside =>
    cases hturn with
    | answerFrame answer => exact .closeUnlock answer
    | abandon => exact .closeTorn
  | closeTorn =>
    cases hturn
    exact .closeUnwound
  | closeUnlock answer =>
    cases hturn
    exact .closeReleasing answer .attempt
  | closeReleasing answer htail =>
    rw [List.append_assoc, List.cons_append]
    exact .closeReleasing answer (hturn.releasing Releasing.last_caller htail)
  -- Who is over has no turn.
  | readUnwound | readOver | writeRefused | writeUnwound | writeOver | closeAgain | closeUnwound =>
    cases hturn

/-- An operation that is not decided yet stays so, or is decided by the gate of its turn. -/
theorem Turn.account_undecided {done : List Deed}
    (hturn : Turn devId operation gate point occurrence gate' point')
    (haccount : Account devId asked none done point) :
    (Account devId asked none (done ++ occurrence.deeds) point' ∧ gate'.phase = gate.phase) ∨
      (Account devId asked (some gate.phase) (done ++ occurrence.deeds) point' ∧
        gate'.phase = gate.phase.after asked) := by
  -- Undecided are only those who have not looked at the flag under their lock, and a close that has not marked it.
  cases haccount with
  | readStart =>
    cases hturn with
    | readRefused hclosed =>
      rw [Gate.phase_of_closed hclosed]
      exact .inr ⟨.readOver none, rfl⟩
    | readStart => exact .inl ⟨.readLock, rfl⟩
  | readLock =>
    cases hturn
    exact .inl ⟨.readRecheck, rfl⟩
  | readRecheck =>
    cases hturn with
    | readLate hclosed =>
      rw [Gate.phase_of_closed hclosed]
      exact .inr ⟨.readUnlock none, rfl⟩
    | readRecheck hopen =>
      rw [Gate.phase_of_open hopen]
      exact .inr ⟨.readReady, rfl⟩
  | writeLock =>
    cases hturn
    exact .inl ⟨.writeCheck, rfl⟩
  | writeCheck =>
    cases hturn with
    | writeRefused hclosed =>
      rw [Gate.phase_of_closed hclosed]
      exact .inr ⟨.writeLate, rfl⟩
    | writeCheck hopen =>
      rw [Gate.phase_of_open hopen]
      exact .inr ⟨.writeReady, rfl⟩
  | closeMark =>
    cases hturn with
    | closeRefused hclosed =>
      rw [Gate.phase_of_closed hclosed]
      exact .inr ⟨.closeAgain, rfl⟩
    | closeMark hopen =>
      rw [Gate.phase_of_open hopen]
      exact .inr ⟨.closeLock, rfl⟩

/-! ## In a course, and in a run -/

/-- An operation starts undecided, with nothing done. -/
theorem Account.of_asked (hasked : Asked point) : Account devId point none [] point := by
  cases hasked with
  | read length => exact .readStart
  | write frame => exact .writeLock
  | close => exact .closeMark

/-- **Every operation keeps to the table.** -/
theorem Course.account (hcourse : Course devId operation past point) :
    ∃ asked phase, Asked asked ∧ .started operation asked ∈ past ∧
      Account devId asked phase (past.flatMap Occurrence.deeds) point := by
  induction hcourse with
  | start hasked => exact ⟨_, none, hasked, List.mem_singleton_self _, .of_asked hasked⟩
  | @turn past gate gate' point point' occurrence hbefore hturn ih =>
    obtain ⟨asked, phase, hasked, hstarted, haccount⟩ := ih
    rw [List.flatMap_append, List.flatMap_singleton]
    have hstill : .started operation asked ∈ past ++ [occurrence] := List.mem_append_left _ hstarted
    -- Once decided the phase is fixed, whatever becomes of the gate.
    cases phase with
    | some phase => exact ⟨asked, _, hasked, hstill, hturn.account_decided haccount⟩
    | none =>
      rcases hturn.account_undecided haccount with ⟨haccount, -⟩ | ⟨haccount, -⟩
      · exact ⟨asked, _, hasked, hstill, haccount⟩
      · exact ⟨asked, _, hasked, hstill, haccount⟩

/-- Every operation of a run keeps to the table. -/
theorem Run.account (hrun : Run devId history system) (hhere : system.points[operation]? = some point) :
    ∃ asked phase, Asked asked ∧ .started operation asked ∈ history ∧
      Account devId asked phase (deeds history operation) point := by
  obtain ⟨asked, phase, hasked, hstarted, haccount⟩ := (hrun.course hhere).account
  exact ⟨asked, phase, hasked, (mem_own.mp hstarted).1, haccount⟩

end HciTransport.Channel
