import HciTransport.Proofs.Channel.Decision
import HciTransport.Proofs.Channel.Schedule

/-!
# One order for all calls

To its callers a channel is a machine with two states. While it is open a read or a write moves its own
bytes, once, and the first close shuts it; after that nothing is moved any more. `Machine` is that
machine. The calls of a run overlap, and still there is one order of them in which the machine, taking one
call at a time, does what each of them has seen (`Run.linearizable`).

The order is that in which the operations are decided: a read or a write at the look at the closed flag
that it acts on, and a close at the mark that it sets. A decision lies between the start and the end of
its call, so the order respects real time. A served call goes to the descriptor later than it is decided,
at a time when the channel may have been closed long since. But it holds its lock from the one to the
other, so the order is also that in which the requests come to the descriptor.
-/

namespace HciTransport.Channel

variable {devId : UInt16} {operation i j : Nat} {system next : System} {history : List Occurrence}
  {occurrence : Occurrence} {gate gate' : Gate} {point point' asked : Point} {phase final : Phase}
  {lock : Lock}

/-! ## The two-state machine -/

/-- The request moves bytes through the descriptor. -/
def Pending.isTransfer : Pending → Bool
  | .release _ => false
  | .read _ | .write _ | .closeFrame _ => true

/-- The deed belongs to a request that moves bytes. -/
def Deed.isTransfer : Deed → Bool
  | .began pending | .answered pending _ => pending.isTransfer
  | .logged _ => false

/-- What was read and written among some deeds. -/
def transfers (done : List Deed) : List Deed := done.filter Deed.isTransfer

/-- One call on the machine: its state before, what is asked, what is done for it, what it returns, and
the state after. Who gives the descriptor back is not the machine's affair, but the close that shuts it
may report a failure of that if it has done it itself. -/
inductive Machine : Phase → Point → List Deed → Result → Phase → Prop where
  | read {done : List Deed} (length : Nat) (receipt : Receipt IoError)
      (hown : transfers done = [.began (.read length), .answered (.read length) receipt]) :
      Machine .opened (.read length) done
        (.read ⟨receipt.stored, receipt.outcome.mapError .receive⟩) .opened
  | write {done : List Deed} (frame : Bytes) (answer : Except IoError Nat)
      (hown : transfers done = [.began (.write frame), .answered (.write frame) answer]) :
      Machine .opened (.write frame) done (.write (answer.mapError .send)) .opened
  | close {done : List Deed} {outcome : Except HciError Unit} (answer : Except IoError Nat)
      (hframe : transfers done =
        [.began (.closeFrame .caller), .answered (.closeFrame .caller) answer])
      (houtcome : outcome = .ok () ∨ ∃ cause : IoError, outcome = .error (.close cause) ∧
        .answered (.release (.closer .caller)) (.error cause : Except IoError Unit) ∈ done) :
      Machine .opened .close done (.close outcome) .closed
  | readClosed {done : List Deed} (length : Nat) (hnone : transfers done = []) :
      Machine .closed (.read length) done (.read ⟨[], .ok 0⟩) .closed
  | writeClosed {done : List Deed} (frame : Bytes) (hnone : transfers done = []) :
      Machine .closed (.write frame) done (.write (.error .closed)) .closed
  | closeClosed {done : List Deed} (hnone : transfers done = []) :
      Machine .closed .close done (.close (.ok ())) .closed

/-- The machine takes the calls of a run in this order. A call that has returned did there what it did in
the run and returned what it returned; one that has not can be finished so. -/
inductive Replay (history : List Occurrence) (system : System) : Phase → List Nat → Phase → Prop where
  | nil {phase : Phase} : Replay history system phase [] phase
  | call {phase between final : Phase} {i : Nat} {order : List Nat} {asked : Point} {whole : List Deed}
      {result : Result}
      (hstarted : .started i asked ∈ history)
      (hcall : Machine phase asked whole result between)
      (hdone : deeds history i <+: whole)
      (hreturned : ∀ returned, system.points[i]? = some (.ended (.returned returned)) →
        deeds history i = whole ∧ returned = result)
      (hrest : Replay history system between order final) :
      Replay history system phase (i :: order) final

/-- The operation that begins to move bytes under the lock, if this is where one does. -/
def Occurrence.mover? (lock : Lock) : Occurrence → Option Nat
  | .began operation pending =>
    if pending.isTransfer && decide (pending.lock = lock) then some operation else none
  | _ => none

/-- Who has moved bytes under a lock, in the order in which the requests came to the descriptor. -/
def movers (lock : Lock) (history : List Occurrence) : List Nat :=
  history.filterMap (Occurrence.mover? lock)

/-- An order of calls that explains a run. -/
structure Linearization (history : List Occurrence) (system : System) (order : List Nat) : Prop where
  nodup : order.Nodup
  /-- Every operation that is over has its place, and so may others. -/
  complete : ∀ i ending, system.points[i]? = some (.ended ending) → i ∈ order
  real_time : ∀ i j, Precedes history system i j → j ∈ order → [i, j].Sublist order
  replayed : Replay history system .opened order system.gate.phase
  /-- Frames are written in this order, the close frame among them, and reads are made in it. -/
  moved : ∀ lock, (movers lock history).Sublist order

/-! ## What accounts say of transfers -/

@[simp] theorem transfers_nil : transfers [] = [] := rfl

@[simp] theorem transfers_append (done more : List Deed) :
    transfers (done ++ more) = transfers done ++ transfers more := List.filter_append ..

@[simp] theorem transfers_logged (log : List LogEntry) : transfers (log.map .logged) = [] := by
  rw [transfers, List.filter_map]
  exact List.map_eq_nil_iff.mpr (List.filter_eq_nil_iff.mpr fun _ _ => nofun)

/-- A request that moves bytes, and its answer, are all the transfers of its dealing. -/
theorem transfers_dealt (devId : UInt16) {pending : Pending} (hmoves : pending.isTransfer = true)
    (answer : pending.call.Answer) :
    transfers (pending.dealt devId answer) = [.began pending, .answered pending answer] := by
  have hlog := transfers_logged (resume devId pending answer).2
  rw [transfers] at hlog
  simp [Pending.dealt, transfers, Deed.isTransfer, hmoves, hlog]

/-- Giving the descriptor back moves nothing. -/
theorem transfers_releaseDeeds (releaser : Releaser) (outcome : Option (Except IoError Unit)) :
    transfers (releaseDeeds devId releaser outcome) = [] := by
  cases outcome with
  | none => rfl
  | some outcome => rfl

theorem Releasing.transfers_eq {releaser : Releaser} {tail : List Deed}
    (htail : Releasing devId releaser tail point) : transfers tail = [] := by
  cases htail with
  | unlock outcome => exact transfers_releaseDeeds releaser outcome
  | finished outcome => rw [transfers_append, transfers_releaseDeeds, transfers_logged]; rfl
  | _ => rfl

/-- Who was refused has moved nothing. -/
theorem Account.transfers_closed {done : List Deed}
    (haccount : Account devId asked (some .closed) done point) : transfers done = [] := by
  generalize hdecided : some Phase.closed = decided at haccount
  -- In the rows with a decision that was made on a closed channel nothing has been begun.
  cases haccount with
  | readUnlock got | readAfter got =>
    cases got with
    | none => rfl
    | some => cases hdecided
  | readOver got =>
    cases got with
    | none => rfl
    | some => cases hdecided
  | readReleasing got htail =>
    cases got with
    | none => exact htail.transfers_eq
    | some => cases hdecided
  | writeLate | writeRefused | closeAgain => rfl
  | _ => cases hdecided

/-! ## The list is the order of the movers -/

theorem movers_append (lock : Lock) (history later : List Occurrence) :
    movers lock (history ++ later) = movers lock history ++ movers lock later :=
  List.filterMap_append ..

/-- Who is among the movers has moved something. -/
theorem transfers_ne_nil_of_mem_movers (hmem : i ∈ movers lock history) :
    transfers (deeds history i) ≠ [] := by
  obtain ⟨occurrence, hoccurrence, hmover⟩ := List.mem_filterMap.mp hmem
  cases occurrence with
  | began operation pending =>
    rw [Occurrence.mover?] at hmover
    split at hmover
    · next hmoves =>
      obtain rfl := Option.some.inj hmover
      rw [Bool.and_eq_true] at hmoves
      refine List.ne_nil_of_mem (a := Deed.began pending) (List.mem_filter.mpr ⟨?_, hmoves.1⟩)
      exact mem_deeds_of_mem hoccurrence (List.mem_singleton_self _)
    · cases hmover
  | _ => cases hmover

/-- A turn adds nobody to the movers, or it is the beginning of a request. -/
theorem Turn.movers_cases (lock : Lock)
    (hturn : Turn devId operation gate point occurrence gate' point') :
    movers lock [occurrence] = [] ∨
      ∃ pending, point = .before pending ∧ pending.isTransfer = true ∧ pending.lock = lock ∧
        movers lock [occurrence] = [operation] := by
  cases hturn with
  | begin =>
    rename_i pending
    by_cases hmoves : pending.isTransfer = true ∧ pending.lock = lock
    · refine .inr ⟨pending, rfl, hmoves.1, hmoves.2, ?_⟩
      simp [movers, Occurrence.mover?, hmoves.1, hmoves.2]
    · refine .inl ?_
      simp only [movers, Occurrence.mover?, List.filterMap_cons, List.filterMap_nil]
      rw [if_neg (by simpa using hmoves)]
  | _ => exact .inl rfl

/-- Who comes to move something was decided in that very turn, unless it closes the channel. -/
theorem Turn.before_cases {pending : Pending}
    (hturn : Turn devId operation gate point occurrence gate' point')
    (hready : point' = .before pending) (hmoves : pending.isTransfer = true) :
    point.isUndecided = true ∨ ∃ closer, point = .closeLock closer := by
  have hheld : point'.held = some pending.lock := by rw [hready]; rfl
  -- Three turns lead to a request, and one of these is the release, which moves nothing.
  cases hturn with
  | readRecheck | writeCheck => exact .inl rfl
  | closeLock => exact .inr ⟨_, rfl⟩
  | releaseMark =>
    cases hready
    cases hmoves
  | closeRefused =>
    rw [held_afterClosed] at hheld
    cases hheld
  | releaseBusy | releaseUnlock =>
    rw [held_afterRelease] at hheld
    cases hheld
  | _ => cases hready

/-- A close that has set its mark and waits for its frame has shut the channel, and done nothing else. -/
theorem Account.of_closeLock {done : List Deed} {closer : Closer}
    (haccount : Account devId asked (some phase) done (.closeLock closer)) :
    done = [] ∧ phase.after asked = .closed := by
  cases haccount with
  | closeLock => exact ⟨rfl, rfl⟩
  | readReleasing got htail | closeReleasing answer htail => cases htail

/-- Whoever has moved bytes under a lock, and whoever is about to, does so in the order of the list. -/
structure Moving (lock : Lock) (history : List Occurrence) (system : System) (list : List Nat) : Prop where
  moved : (movers lock history).Sublist list
  coming : ∀ i pending, system.points[i]? = some (.before pending) → pending.isTransfer = true →
    pending.lock = lock → (movers lock history ++ [i]).Sublist list

variable {order : List Decision}

/-- After a close nobody on the list moves anything. So when it comes to send its frame, whoever has moved
something stands before it. -/
theorem Decided.sublist_of_closeLock (hdecided : Decided devId history system order) {closer : Closer}
    (hhere : system.points[operation]? = some (.closeLock closer))
    (hmoved : (movers lock history).Sublist (order.map Decision.operation)) :
    (movers lock history ++ [operation]).Sublist (order.map Decision.operation) := by
  obtain ⟨close, hclose, rfl⟩ := List.mem_map.mp (hdecided.complete hhere rfl)
  obtain ⟨-, stands, hstands, haccount⟩ := hdecided.account hclose
  obtain rfl : stands = .closeLock closer := Option.some.inj (hstands.symm.trans hhere)
  -- The list is cut at the close.
  obtain ⟨earlier, later, rfl⟩ := List.append_of_mem hclose
  obtain ⟨between, -, hlinked⟩ := linked_append_iff.mp hdecided.linked
  obtain ⟨hnothing, hafter⟩ := haccount.of_closeLock
  -- The close has done nothing yet, and all that come after it were refused.
  have hstill : ∀ decision ∈ close :: later, transfers (deeds history decision.operation) = [] := by
    intro decision hmem
    rcases List.mem_cons.mp hmem with rfl | hlater
    · rw [hnothing]
      rfl
    · have hclosed : decision.phase = .closed := by
        cases hlinked with
        | cons hrest => exact hrest.closed hafter hlater
      obtain ⟨-, stands, -, haccount⟩ := hdecided.account (List.mem_append_right _ hmem)
      rw [hclosed] at haccount
      exact haccount.transfers_closed
  rw [List.map_append] at hmoved ⊢
  -- So the part of the movers that stands among those behind the close is empty.
  obtain ⟨first, second, hsplit, hfirst, hsecond⟩ := List.sublist_append_iff.mp hmoved
  have hnone : second = [] := by
    rw [List.eq_nil_iff_forall_not_mem]
    intro i hmem
    obtain ⟨decision, hdecision, rfl⟩ := List.mem_map.mp (hsecond.subset hmem)
    have hmover : decision.operation ∈ movers lock history := by
      rw [hsplit]
      exact List.mem_append_right _ hmem
    exact transfers_ne_nil_of_mem_movers hmover (hstill decision hdecision)
  rw [hsplit, hnone, List.append_nil]
  exact hfirst.append (List.singleton_sublist.mpr List.mem_cons_self)

/-- A turn keeps the movers in the order of a list that has room for the operation. -/
theorem Moving.turn {list list' : List Nat} (hmoving : Moving lock history system list)
    (hlist : list.Sublist list') (hrun : Run devId history system)
    (hhere : system.points[operation]? = some point)
    (hturn : Turn devId operation system.gate point occurrence gate' point')
    (hroom : ∀ pending, point' = .before pending → pending.isTransfer = true → pending.lock = lock →
      (movers lock history ++ [operation]).Sublist list') :
    Moving lock (history ++ [occurrence]) ⟨gate', system.points.set operation point'⟩ list' := by
  -- Either nobody begins to move anything, or the one who was about to does.
  rcases hturn.movers_cases lock with hnone | ⟨pending, rfl, hmoves, hlock, hone⟩
  · have hsame : movers lock (history ++ [occurrence]) = movers lock history := by
      rw [movers_append, hnone, List.append_nil]
    refine ⟨?_, fun i pending hready hmoves hlock => ?_⟩
    · rw [hsame]
      exact hmoving.moved.trans hlist
    · rw [hsame]
      rcases getElem?_set_cases hready with ⟨rfl, hpoint⟩ | ⟨-, hready⟩
      · exact hroom pending hpoint.symm hmoves hlock
      · exact (hmoving.coming i pending hready hmoves hlock).trans hlist
  · have hmore : movers lock (history ++ [occurrence]) = movers lock history ++ [operation] := by
      rw [movers_append, hone]
    refine ⟨?_, fun i other hready hmoves' hlock' => ?_⟩
    · rw [hmore]
      exact (hmoving.coming operation pending hhere hmoves hlock).trans hlist
    · -- Nobody else is about to move anything, since that takes the lock.
      rcases getElem?_set_cases hready with ⟨rfl, hpoint⟩ | ⟨hne, hready⟩
      · rw [← hpoint] at hturn
        cases hturn
      · have hheld : (Point.before other).held = some pending.lock := by rw [hlock, ← hlock']; rfl
        exact absurd (hrun.held_unique hready hhere hheld rfl) hne

/-- **Bytes are moved in the order of the list.** -/
theorem Decided.moving (hdecided : Decided devId history system order) (lock : Lock) :
    Moving lock history system (order.map Decision.operation) := by
  -- On the list, as it is written; who comes to move something must find room at its end.
  induction hdecided with
  | opened => exact ⟨List.Sublist.refl _, fun i pending hready => by simp [System.opened] at hready⟩
  | @start history system order point hbefore hasked ih =>
    have hsame : movers lock (history ++ [.started system.points.length point]) = movers lock history := by
      rw [movers_append]
      exact List.append_nil _
    refine ⟨?_, fun i pending hready hmoves hlock => ?_⟩
    · rw [hsame]
      exact ih.moved
    · rw [hsame]
      rcases getElem?_append_cases hready with ⟨-, rfl⟩ | ⟨-, hready⟩
      · cases hasked
      · exact ih.coming i pending hready hmoves hlock
  | turn hbefore hhere hturn hkept ih =>
    refine ih.turn (List.Sublist.refl _) hbefore.run hhere hturn ?_
    intro pending hready hmoves hlock
    -- A turn that decides nothing and leads to a request is that of a close.
    rcases hturn.before_cases hready hmoves with hundecided | ⟨closer, rfl⟩
    · have hstill := hkept hundecided
      rw [hready] at hstill
      cases hstill
    · exact hbefore.sublist_of_closeLock hhere ih.moved
  | decide hbefore hhere hturn hstarted haccount hmade ih =>
    rw [List.map_append]
    refine ih.turn (List.sublist_append_left _ _) hbefore.run hhere hturn ?_
    intro pending hready hmoves hlock
    -- Who has just been decided is the last of the list, behind all that have moved something.
    exact ih.moved.append (List.Sublist.refl _)

/-! ## The machine does the same -/

/-- A read that was served got something from the descriptor, and one that was refused got nothing. -/
theorem machine_read (devId : UInt16) (length : Nat) (got : Option (Receipt IoError)) {tail : List Deed}
    (hnone : transfers tail = []) :
    Machine (phaseOf got) (.read length) (readDeeds devId length got ++ tail)
      (.read (readResult devId got).1) (phaseOf got) := by
  have htransfers :
      transfers (readDeeds devId length got ++ tail) = transfers (readDeeds devId length got) := by
    rw [transfers_append, hnone, List.append_nil]
  -- What it got tells how it was decided.
  cases got with
  | none => exact .readClosed length htransfers
  | some receipt =>
    have hmoves : (Pending.read length).isTransfer = true := rfl
    have hown := htransfers.trans (transfers_dealt devId hmoves receipt)
    obtain ⟨stored, outcome⟩ := receipt
    cases outcome with
    | ok count => exact .read length ⟨stored, .ok count⟩ hown
    | error cause => exact .read length ⟨stored, .error cause⟩ hown

/-- A write that was answered was served. -/
theorem machine_write (devId : UInt16) (frame : Bytes) (answer : Except IoError Nat) :
    Machine .opened (.write frame) ((Pending.write frame).dealt devId answer)
      (.write (answer.mapError .send)) .opened := by
  have hmoves : (Pending.write frame).isTransfer = true := rfl
  exact .write frame answer (transfers_dealt devId hmoves answer)

/-- A failure of the release is all that a close can report. -/
theorem machine_close (devId : UInt16) (answer : Except IoError Nat) {outcome : Except HciError Unit}
    {tail : List Deed} (hnone : transfers tail = [])
    (houtcome : outcome = .ok () ∨ ∃ cause : IoError, outcome = .error (.close cause) ∧
      .answered (.release (.closer .caller)) (.error cause : Except IoError Unit) ∈ tail) :
    Machine .opened .close ((Pending.closeFrame .caller).dealt devId answer ++ tail) (.close outcome)
      .closed := by
  have hmoves : (Pending.closeFrame .caller).isTransfer = true := rfl
  refine .close answer ?_ ?_
  · rw [transfers_append, hnone, List.append_nil]
    exact transfers_dealt devId hmoves answer
  · rcases houtcome with hok | ⟨cause, herror, hmem⟩
    · exact .inl hok
    · exact .inr ⟨cause, herror, List.mem_append_right _ hmem⟩

/-- A read returns what it got, also when it has tried to give the descriptor back. -/
theorem Releasing.read_eq {got : Option (Receipt IoError)} {tail : List Deed} {result : Result}
    (htail : Releasing devId (.reader got) tail (.ended (.returned result))) :
    result = .read (readResult devId got).1 := by
  cases htail with
  | finished outcome hresult =>
    cases hresult
    rfl

/-- A close returns that all went well, or the failure that its own attempt has met. -/
theorem Releasing.close_cases {tail : List Deed} {result : Result}
    (htail : Releasing devId (.closer .caller) tail (.ended (.returned result))) :
    ∃ outcome, result = .close outcome ∧
      (outcome = .ok () ∨ ∃ cause : IoError, outcome = .error (.close cause) ∧
        .answered (.release (.closer .caller)) (.error cause : Except IoError Unit) ∈ tail) := by
  cases htail with
  | finished outcome hresult =>
    rcases outcome with _ | (cause | ⟨⟩)
    · cases hresult
      exact ⟨.ok (), rfl, .inl rfl⟩
    · cases hresult
      refine ⟨.error (.close cause), rfl, .inr ⟨cause, rfl, ?_⟩⟩
      simp [releaseDeeds, Pending.dealt]
    · cases hresult
      exact ⟨.ok (), rfl, .inl rfl⟩

/-- A request that has begun can still be answered in any way. -/
theorem Pending.began_prefix (devId : UInt16) (pending : Pending) (answer : pending.call.Answer) :
    [.began pending] <+: pending.dealt devId answer :=
  ⟨_, rfl⟩

/-- What an operation has done so far can be finished to a call on the machine. If it has returned it is
that call already. -/
def Explained (phase : Phase) (asked : Point) (done : List Deed) (point : Point) : Prop :=
  ∃ whole result, Machine phase asked whole result (phase.after asked) ∧ done <+: whole ∧
    ∀ returned, point = .ended (.returned returned) → done = whole ∧ returned = result

/-- What has not returned is explained by any way in which it can end. -/
theorem Explained.under_way {done whole : List Deed} {result : Result}
    (hcall : Machine phase asked whole result (phase.after asked)) (hdone : done <+: whole)
    (hlive : ∀ returned, point ≠ .ended (.returned returned)) : Explained phase asked done point :=
  ⟨whole, result, hcall, hdone, fun returned hover => absurd hover (hlive returned)⟩

/-- What has done all that its call does is explained by that call. -/
theorem Explained.finished {done : List Deed} {result : Result}
    (hcall : Machine phase asked done result (phase.after asked))
    (hresult : ∀ returned, point = .ended (.returned returned) → returned = result) :
    Explained phase asked done point :=
  ⟨done, result, hcall, List.prefix_rfl, fun returned hover => ⟨rfl, hresult returned hover⟩⟩

/-- **The machine explains every account.** -/
theorem Account.explained {done : List Deed} (haccount : Account devId asked (some phase) done point) :
    Explained phase asked done point := by
  cases haccount with
  -- It has not been answered yet, so any answer will do to finish it.
  | @readReady length =>
    have hcall := machine_read devId length (some (Pending.read length).granted) transfers_nil
    exact .under_way hcall List.nil_prefix (fun _ hover => nomatch hover)
  | @readInside length | @readTorn length | @readUnwound length =>
    have hcall := machine_read devId length (some (Pending.read length).granted) transfers_nil
    have hdone := Pending.began_prefix devId (.read length) (Pending.read length).granted
    exact .under_way hcall (hdone.trans (List.prefix_append _ _)) (fun _ hover => nomatch hover)
  | @readUnlock length got | @readAfter length got =>
    have hcall := machine_read devId length got transfers_nil
    rw [List.append_nil] at hcall
    exact .finished hcall (fun _ hover => nomatch hover)
  | @readOver length got =>
    refine .finished (machine_read devId length got (transfers_logged _)) fun returned hover => ?_
    cases hover
    rfl
  -- What it returns is fixed by what it got, and the rest of its deeds moves nothing.
  | @readReleasing length got tail point htail =>
    refine .finished (machine_read devId length got htail.transfers_eq) ?_
    rintro returned rfl
    exact htail.read_eq
  | writeLate =>
    exact .finished (.writeClosed _ rfl) (fun _ hover => nomatch hover)
  | writeRefused =>
    refine .finished (.writeClosed _ rfl) fun returned hover => ?_
    cases hover
    rfl
  | @writeReady frame =>
    have hcall := machine_write devId frame (Pending.write frame).granted
    exact .under_way hcall List.nil_prefix (fun _ hover => nomatch hover)
  | @writeInside frame | @writeTorn frame | @writeUnwound frame =>
    have hcall := machine_write devId frame (Pending.write frame).granted
    exact .under_way hcall (Pending.began_prefix devId (.write frame) _) (fun _ hover => nomatch hover)
  | @writeUnlock frame answer =>
    exact .finished (machine_write devId frame answer) (fun _ hover => nomatch hover)
  | @writeOver frame answer =>
    refine .finished (machine_write devId frame answer) fun returned hover => ?_
    cases hover
    rfl
  | closeAgain =>
    refine .finished (.closeClosed rfl) fun returned hover => ?_
    cases hover
    rfl
  -- A close that is under way is taken to end well.
  | closeLock | closeReady =>
    have hcall := machine_close devId (Pending.closeFrame .caller).granted transfers_nil (.inl rfl)
    exact .under_way hcall List.nil_prefix (fun _ hover => nomatch hover)
  | closeInside | closeTorn | closeUnwound =>
    have hcall := machine_close devId (Pending.closeFrame .caller).granted transfers_nil (.inl rfl)
    have hdone := Pending.began_prefix devId (.closeFrame .caller) (Pending.closeFrame .caller).granted
    exact .under_way hcall (hdone.trans (List.prefix_append _ _)) (fun _ hover => nomatch hover)
  | closeUnlock answer =>
    have hcall := machine_close devId answer transfers_nil (.inl rfl)
    rw [List.append_nil] at hcall
    exact .finished hcall (fun _ hover => nomatch hover)
  | @closeReleasing answer tail point htail =>
    have hnone : transfers (.logged (.closing devId) :: tail) = [] := htail.transfers_eq
    -- Only a close that is over has an outcome of its own; one that is not may still end well.
    by_cases hover : ∃ returned, point = .ended (.returned returned)
    · obtain ⟨returned, rfl⟩ := hover
      obtain ⟨outcome, rfl, houtcome⟩ := htail.close_cases
      have hcause : outcome = .ok () ∨ ∃ cause : IoError, outcome = .error (.close cause) ∧
          .answered (.release (.closer .caller)) (.error cause : Except IoError Unit) ∈
            .logged (.closing devId) :: tail :=
        houtcome.imp_right fun ⟨cause, herror, hmem⟩ => ⟨cause, herror, List.mem_cons_of_mem _ hmem⟩
      refine .finished (machine_close devId answer hnone hcause) fun returned hover => ?_
      cases hover
      rfl
    · refine .finished (machine_close devId answer hnone (.inl rfl)) fun returned hreturned => ?_
      exact absurd ⟨returned, hreturned⟩ hover

/-! ## Every run has an explanation -/

/-- Any part of the list that links up is replayed by the machine. -/
theorem Decided.replay (hdecided : Decided devId history system order) {later : List Decision}
    (hlater : ∀ decision ∈ later, decision ∈ order) (hlinked : Linked phase later final) :
    Replay history system phase (later.map Decision.operation) final := by
  -- On the part that links up, from its front: that is the order in which the machine takes the calls.
  induction hlinked with
  | nil => exact .nil
  | @cons decision later final hrest ih =>
    obtain ⟨hstarted, point, hhere, haccount⟩ := hdecided.account (hlater decision List.mem_cons_self)
    obtain ⟨whole, result, hcall, hdone, hreturned⟩ := haccount.explained
    have hothers : ∀ other ∈ later, other ∈ order :=
      fun other hmem => hlater other (List.mem_cons_of_mem _ hmem)
    refine .call hstarted hcall hdone ?_ (ih hothers)
    intro returned hover
    exact hreturned returned (Option.some.inj (hhere.symm.trans hover))

/-- **The calls of a run are calls on a machine with two states, made one at a time.** -/
theorem Run.linearizable (hrun : Run devId history system) :
    ∃ order, Linearization history system order := by
  obtain ⟨order, hdecided⟩ := hrun.exists_decided
  refine ⟨order.map Decision.operation, ?_⟩
  exact {
    nodup := hdecided.nodup
    complete := fun i ending hover => hdecided.complete hover rfl
    real_time := fun i j => hdecided.ahead
    replayed := hdecided.replay (fun decision hmem => hmem) hdecided.linked
    moved := fun lock => (hdecided.moving lock).moved }

/-- In this run a frame is under way when the channel is closed, and goes out before the close frame. -/
theorem linearizable_lateWrite :
    Run 0 (play 0 lateWrite).1 (play 0 lateWrite).2 ∧
      movers .write (play 0 lateWrite).1 = [0, 1] ∧
      ∃ order, Linearization (play 0 lateWrite).1 (play 0 lateWrite).2 order := by
  have hrun : Run 0 (play 0 lateWrite).1 (play 0 lateWrite).2 := run_play 0 lateWrite
  exact ⟨hrun, rfl, hrun.linearizable⟩

end HciTransport.Channel
