import HciTransport.Proofs.Failure.Operation

/-!
# One operation by itself, step by step

The program of an operation was made of its steps, with a bound on how many there are. The bound is left
behind here: the program of an operation is its next step and then the program of the operation where that
step leads (`run_of_step`, `run_before`). So it tells what an operation does that nobody else interferes with
(`Progress.runs_back`): whatever is seen of one step, and then of a run of the program after it, is seen of a run
of the program before it. A request is seen when it is answered, and until then the operation counts as
standing before it (`Point.recalled`).
-/

namespace HciTransport.Channel

open Program (logAll)

variable {devId : UInt16} {operation : Nat} {gate gate' : Gate} {point next : Point} {log : List LogEntry}
  {pending : Pending} {system system' : System} {occurrence : Occurrence} {trace rest : Trace Descriptor}
  {ending : Gate × Point}

/-! ## The program without its bound -/

/-- No steps are left at the end, and nowhere else. -/
theorem eq_ended_of_rank (hrank : point.rank = 0) : ∃ ending, point = .ended ending := by
  cases point with
  | ended ending => exact ⟨ending, rfl⟩
  | before pending | inside pending => cases pending <;> simp [Point.rank] at hrank
  | _ => simp [Point.rank] at hrank

/-- To begin a request is one step. -/
theorem rank_before (pending : Pending) : (Point.before pending).rank = (Point.inside pending).rank + 1 := by
  cases pending <;> rfl

/-- Any bound will do that is large enough. -/
theorem runFor_congr {steps other : Nat} (hsteps : point.rank ≤ steps) (hother : point.rank ≤ other) :
    runFor devId steps gate point = runFor devId other gate point := by
  -- On the one bound; the rank that both cover falls with every step.
  induction steps generalizing other gate point with
  | zero =>
    obtain ⟨ending, rfl⟩ := eq_ended_of_rank (Nat.le_zero.mp hsteps)
    cases other <;> rfl
  | succ steps ih =>
    cases other with
    | zero =>
      obtain ⟨ending, rfl⟩ := eq_ended_of_rank (Nat.le_zero.mp hother)
      rfl
    | succ other =>
      rw [runFor, runFor]
      cases hmoves : advance devId gate point with
      | step gate' log next =>
        have hfewer := rank_lt_of_advance hmoves
        exact congrArg (logAll log) (ih (by omega) (by omega))
      -- The step into the request and the answer count as two, so one less than the bound is still enough.
      | begin pending =>
        obtain rfl := eq_before_of_advance hmoves
        refine Program.call_congr fun answer => ?_
        have hfewer := rank_resume_lt devId pending answer
        have hbefore := rank_before pending
        have hsame : runFor devId steps gate (resume devId pending answer).1 =
            runFor devId other gate (resume devId pending answer).1 := ih (by omega) (by omega)
        exact congrArg (logAll _) hsame
      | _ => rfl

/-- The program of an operation that can step goes on with its next step. -/
theorem run_of_step (hmoves : advance devId gate point = .step gate' log next) :
    run devId gate point = logAll log (run devId gate' next) := by
  have hfewer := rank_lt_of_advance hmoves
  obtain ⟨steps, hsteps⟩ : ∃ steps, point.rank = steps + 1 := ⟨point.rank - 1, by omega⟩
  rw [run, hsteps, runFor, hmoves]
  exact congrArg (logAll log) (runFor_congr (by omega) (Nat.le_refl _))

/-- The program of an operation that stands before a request goes on with the request. -/
theorem run_before (gate : Gate) (pending : Pending) :
    run devId gate (.before pending) =
      .call pending.call fun answer =>
        logAll (resume devId pending answer).2 (run devId gate (resume devId pending answer).1) := by
  have hmoves : advance devId gate (.before pending) = .begin pending := rfl
  rw [run, rank_before, runFor, hmoves]
  refine Program.call_congr fun answer => ?_
  have hfewer := rank_resume_lt devId pending answer
  have hsame : runFor devId (Point.inside pending).rank gate (resume devId pending answer).1 =
      run devId gate (resume devId pending answer).1 := runFor_congr (by omega) (Nat.le_refl _)
  exact congrArg (logAll _) hsame

/-- An operation that waits for a lock has nothing to do by itself. -/
theorem run_of_blocked (hmoves : advance devId gate point = .blocked) :
    run devId gate point = .done (gate, point) := by
  rw [run]
  cases point.rank with
  | zero => rfl
  | succ steps => rw [runFor, hmoves]

/-! ## Requests that are not answered yet -/

/-- A request of the operation is in progress. -/
def Point.isInside : Point → Bool
  | .inside _ => true
  | _ => false

/-- An operation with a request in progress counts as standing before it. -/
def Point.recalled : Point → Point
  | .inside pending => .before pending
  | point => point

/-- Outside a request there is nothing to take back. -/
theorem Point.recalled_eq (houtside : point.isInside = false) : point.recalled = point := by
  cases point with
  | inside => cases houtside
  | _ => rfl

/-- The point of an operation that is not at a step of its own. -/
def Move.stands? : Move → Option Point
  | .waiting pending => some (.inside pending)
  | .over ending => some (.ended ending)
  | .step .. | .begin _ | .blocked => none

/-- An operation that waits for an answer, or for nothing any more, is where its move says. -/
theorem eq_of_stands (hstands : (advance devId gate point).stands? = some next) : point = next := by
  cases point with
  | readStart | readRecheck | readAfter | writeCheck | closeMark | releaseTry | releaseMark | dropStart =>
    simp only [advance] at hstands
    split at hstands <;> cases hstands
  | readLock | writeLock | closeLock =>
    simp only [advance, acquire] at hstands
    split at hstands <;> cases hstands
  | readUnlock | writeUnlock | closeUnlock | releaseUnlock | unwinding | before => cases hstands
  | inside | ended =>
    cases hstands
    rfl

/-- No step starts or ends inside a request. -/
theorem outside_of_advance (hmoves : advance devId gate point = .step gate' log next) :
    point.isInside = false ∧ next.isInside = false := by
  have hturn : Turn devId 0 gate point (.stepped 0 log) gate' next := turn_of_advance hmoves
  cases hturn with
  | closeRefused => exact ⟨rfl, afterClosed_eq (fun _ => rfl) rfl _⟩
  | releaseBusy | releaseUnlock => exact ⟨rfl, afterRelease_eq (fun _ => rfl) rfl _ _⟩
  | _ => exact ⟨rfl, rfl⟩

/-- An answer leads out of its request. -/
theorem outside_of_resume (answer : pending.call.Answer) : (resume devId pending answer).1.isInside = false := by
  cases pending with
  | read | release => rfl
  | write | closeFrame => cases answer <;> rfl

/-! ## What is seen -/

/-- What is seen of a history, whoever it is of. -/
def seen (history : List Occurrence) : Trace Descriptor := signs (history.flatMap Occurrence.deeds)

theorem seen_append (history later : List Occurrence) : seen (history ++ later) = seen history ++ seen later := by
  rw [seen, List.flatMap_append, signs_append]
  rfl

theorem seen_singleton (occurrence : Occurrence) : seen [occurrence] = signs occurrence.deeds := by
  rw [seen, List.flatMap_singleton]

theorem seen_stepped (operation : Nat) (log : List LogEntry) :
    seen [.stepped operation log] = Trace.ofLog log := by
  rw [seen_singleton]
  exact signs_logged log

/-- Of an answer one sees the whole request, since nothing was seen when it began. -/
theorem seen_answered (operation : Nat) (answer : pending.call.Answer) (log : List LogEntry) :
    seen [.answered operation pending answer log] = .asked pending.call answer :: Trace.ofLog log := by
  rw [seen_singleton]
  exact congrArg (Sign.asked pending.call answer :: ·) (signs_logged log)

/-! ## The program and the steps -/

/-- One step of an operation, without the others: a step of its own, the begin of a request, or its answer. -/
inductive Progress (devId : UInt16) (operation : Nat) : Gate → Point → Occurrence → Gate → Point → Prop where
  | go {gate gate' : Gate} {point next : Point} {log : List LogEntry}
      (moves : advance devId gate point = .step gate' log next) :
      Progress devId operation gate point (.stepped operation log) gate' next
  | begin {gate : Gate} (pending : Pending) :
      Progress devId operation gate (.before pending) (.began operation pending) gate (.inside pending)
  | answer {gate : Gate} {pending : Pending} (answer : pending.call.Answer) :
      Progress devId operation gate (.inside pending)
        (.answered operation pending answer (resume devId pending answer).2) gate (resume devId pending answer).1

/-- A step of a system is that of one of its operations, if it neither starts nor abandons one. -/
theorem Step.progress (hstep : Step devId system occurrence system') (hnumber : occurrence.number = operation)
    (hbefore : system.points[operation]? = some point) (hafter : system'.points[operation]? = some next)
    (hanswered : occurrence.isAbandonment = false) :
    Progress devId operation system.gate point occurrence system'.gate next := by
  subst hnumber
  cases hstep with
  | start hasked =>
    -- Whoever is started had no place before.
    rw [Occurrence.number, List.getElem?_eq_none (Nat.le_refl _)] at hbefore
    cases hbefore
  | go here moves =>
    cases here.symm.trans hbefore
    cases (getElem?_set_of_some here).symm.trans hafter
    exact .go moves
  | begin here moves =>
    cases here.symm.trans hbefore
    cases (getElem?_set_of_some here).symm.trans hafter
    obtain rfl := eq_before_of_advance moves
    exact .begin _
  | answer answer here =>
    cases here.symm.trans hbefore
    cases (getElem?_set_of_some here).symm.trans hafter
    exact .answer answer
  | abandon => cases hanswered

section Progress

variable (hprogress : Progress devId operation gate point occurrence gate' next)
include hprogress

/-- Progress of an operation is a step of any system in which it stands there. -/
theorem Progress.step {points : List Point} (hhere : points[operation]? = some point) :
    Step devId ⟨gate, points⟩ occurrence ⟨gate', points.set operation next⟩ := by
  cases hprogress with
  | go moves => exact .go hhere moves
  | begin pending => exact .begin hhere rfl
  | answer answer => exact .answer answer hhere

/-- Every progress brings the operation nearer to its end. -/
theorem Progress.rank_lt : next.rank < point.rank := by
  cases hprogress with
  | go moves => exact rank_lt_of_advance moves
  | begin pending =>
    rw [rank_before]
    exact Nat.lt_succ_self _
  | answer answer => exact rank_resume_lt devId _ answer

/-- Progress abandons nothing. -/
theorem Progress.answered : occurrence.isAbandonment = false := by
  cases hprogress <;> rfl

/-- **What is seen of one step, and of the program after it, is seen of the program before it.** -/
theorem Progress.runs_back (hrest : (run devId gate' next.recalled).Runs rest ending) :
    (run devId gate point.recalled).Runs (seen [occurrence] ++ rest) ending := by
  -- Only where a request is answered is there more to see than a log: the request itself.
  cases hprogress with
  | go moves =>
    obtain ⟨hpoint, hnext⟩ := outside_of_advance moves
    rw [Point.recalled_eq hnext] at hrest
    rw [Point.recalled_eq hpoint, run_of_step moves, seen_stepped]
    exact Program.runs_logAll_iff.mpr ⟨rest, rfl, hrest⟩
  | begin pending => exact hrest
  | @answer pending answer =>
    rw [Point.recalled_eq (outside_of_resume answer)] at hrest
    rw [Point.recalled, run_before, seen_answered]
    refine Program.runs_call_iff.mpr ⟨answer, _, rfl, ?_⟩
    exact Program.runs_logAll_iff.mpr ⟨rest, rfl, hrest⟩

end Progress

/-- **A run of the program to an end is one step of the operation and a run of the program after it**, unless the
operation has ended before. -/
theorem exists_progress (operation : Nat) {stopped : Ending}
    (hruns : (run devId gate point.recalled).Runs trace (gate', .ended stopped)) :
    (gate = gate' ∧ point = .ended stopped ∧ trace = []) ∨
      ∃ occurrence between next rest, trace = seen [occurrence] ++ rest ∧
        Progress devId operation gate point occurrence between next ∧
          (run devId between next.recalled).Runs rest (gate', .ended stopped) := by
  -- What the operation does next decides how its program goes on.
  cases hmoves : advance devId gate point with
  | step between log next =>
    obtain ⟨hpoint, hnext⟩ := outside_of_advance hmoves
    rw [Point.recalled_eq hpoint, run_of_step hmoves] at hruns
    obtain ⟨rest, rfl, hrest⟩ := Program.runs_logAll_iff.mp hruns
    rw [← Point.recalled_eq hnext] at hrest
    exact .inr ⟨.stepped operation log, between, next, rest, by rw [seen_stepped], .go hmoves, hrest⟩
  | begin pending =>
    obtain rfl := eq_before_of_advance hmoves
    exact .inr ⟨.began operation pending, gate, .inside pending, trace, rfl, .begin pending, hruns⟩
  | waiting pending =>
    obtain rfl : point = .inside pending := eq_of_stands (congrArg Move.stands? hmoves)
    rw [Point.recalled, run_before] at hruns
    -- Its program stands before the request, and what comes next in it is the answer.
    obtain ⟨answer, _, rfl, hanswered⟩ := Program.runs_call_iff.mp hruns
    obtain ⟨rest, rfl, hrest⟩ := Program.runs_logAll_iff.mp hanswered
    rw [← Point.recalled_eq (outside_of_resume answer)] at hrest
    exact .inr ⟨_, gate, _, rest, by rw [seen_answered]; rfl, .answer answer, hrest⟩
  | blocked =>
    -- It would have to wait, and its program would end there.
    have hpoint : point.isInside = false := by
      cases point with
      | inside => cases hmoves
      | _ => rfl
    rw [Point.recalled_eq hpoint, run_of_blocked hmoves] at hruns
    obtain ⟨-, hended⟩ := Program.runs_done_iff.mp hruns
    obtain ⟨-, rfl⟩ := Prod.mk.inj hended
    cases hmoves
  | _ =>
    obtain ⟨before, rfl⟩ : ∃ before, point = .ended before := ⟨_, eq_of_stands (congrArg Move.stands? hmoves)⟩
    obtain ⟨rfl, hended⟩ := Program.runs_done_iff.mp hruns
    cases hended
    exact .inl ⟨rfl, rfl, rfl⟩

end HciTransport.Channel
