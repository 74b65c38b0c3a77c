import HciTransport.Proofs.Channel.Account
import HciTransport.Proofs.Channel.Locks

/-!
# Decisions, and the order in which they are made

An operation is decided at one turn of its own. Before that turn it has done nothing. Afterwards, whatever
else happens to the channel, it goes the way that the phase of that turn has set for it
(`Decided.account`). `Decided` writes down the decisions of a run as they are made, and what is true of the
list carries over from one step to the next: who is past its decision is on the list, once
(`Decided.complete`, `Decided.nodup`); the phases on the list link up, each decision beginning where the
one before it has left off (`Decided.linked`); and who was over before another was started stands ahead of
it (`Decided.ahead`).
-/

namespace HciTransport.Channel

variable {devId : UInt16} {operation i j : Nat} {system next : System} {history : List Occurrence}
  {occurrence : Occurrence} {gate gate' : Gate} {point point' asked : Point} {phase final : Phase}
  {lock : Lock}

/-- An operation stands before its decision. -/
def Point.isUndecided : Point → Bool
  | .readStart _ | .readLock _ | .readRecheck _ | .writeLock _ | .writeCheck _ | .closeMark _ | .dropStart =>
    true
  | _ => false

/-- The table of accounts knows who is decided. -/
theorem Account.isUndecided_eq {decided : Option Phase} {done : List Deed}
    (haccount : Account devId asked decided done point) : point.isUndecided = decided.isNone := by
  -- The last attempts to give the descriptor back are all made by those who are decided.
  cases haccount with
  | readReleasing got htail | closeReleasing answer htail => cases htail <;> rfl
  | _ => rfl

/-- Only a decision changes the phase. -/
theorem Turn.phase_eq (hturn : Turn devId operation gate point occurrence gate' point')
    (hkept : point.isUndecided = true → point'.isUndecided = true) : gate'.phase = gate.phase := by
  -- Only the mark of closing touches the flag, and that is a decision.
  cases hturn with
  | closeMark => cases hkept rfl
  | unwind => rw [Gate.phase, Gate.closed_setLocked]; rfl
  | _ => rfl

/-! ## The list of decisions -/

/-- An operation, what it was asked, and the phase in which it was decided. -/
structure Decision where
  operation : Nat
  asked : Point
  phase : Phase

/-- The phase in which it leaves the channel. -/
def Decision.after (decision : Decision) : Phase := decision.phase.after decision.asked

/-- A run, and the decisions that were made in it. -/
inductive Decided (devId : UInt16) : List Occurrence → System → List Decision → Prop where
  | opened : Decided devId [] .opened []
  | start {history : List Occurrence} {system : System} {order : List Decision} {point : Point}
      (hbefore : Decided devId history system order) (hasked : Asked point) :
      Decided devId (history ++ [.started system.points.length point])
        ⟨system.gate, system.points ++ [point]⟩ order
  | turn {history : List Occurrence} {system : System} {order : List Decision} {operation : Nat}
      {point point' : Point} {occurrence : Occurrence} {gate' : Gate}
      (hbefore : Decided devId history system order)
      (hhere : system.points[operation]? = some point)
      (hturn : Turn devId operation system.gate point occurrence gate' point')
      (hkept : point.isUndecided = true → point'.isUndecided = true) :
      Decided devId (history ++ [occurrence]) ⟨gate', system.points.set operation point'⟩ order
  | decide {history : List Occurrence} {system : System} {order : List Decision} {operation : Nat}
      {point point' asked : Point} {occurrence : Occurrence} {gate' : Gate}
      (hbefore : Decided devId history system order)
      (hhere : system.points[operation]? = some point)
      (hturn : Turn devId operation system.gate point occurrence gate' point')
      (hstarted : .started operation asked ∈ history)
      (haccount : Account devId asked none (deeds history operation) point)
      (hmade : point'.isUndecided = false) :
      Decided devId (history ++ [occurrence]) ⟨gate', system.points.set operation point'⟩
        (order ++ [⟨operation, asked, system.gate.phase⟩])

variable {order : List Decision}

/-- Without its list it is a run. -/
theorem Decided.run (hdecided : Decided devId history system order) : Run devId history system := by
  induction hdecided with
  | opened => exact .opened
  | start hbefore hasked ih => exact ih.step (.start hasked)
  | turn hbefore hhere hturn hkept ih => exact ih.turn hhere hturn
  | decide hbefore hhere hturn hstarted haccount hmade ih => exact ih.turn hhere hturn

/-- Every run has its list. -/
theorem Run.exists_decided (hrun : Run devId history system) :
    ∃ order, Decided devId history system order := by
  induction hrun with
  | opened => exact ⟨[], .opened⟩
  | @step history system next occurrence hbefore hstep ih =>
    obtain ⟨order, hdecided⟩ := ih
    rcases step_iff.mp hstep with
      ⟨point, hasked, rfl, rfl⟩ | ⟨operation, point, gate', point', hhere, hturn, rfl⟩
    · exact ⟨order, hdecided.start hasked⟩
    · obtain ⟨asked, decided, -, hstarted, haccount⟩ := hbefore.account hhere
      have hnone := haccount.isUndecided_eq
      -- A decision is made where the operation stood before it and does not any more.
      cases decided with
      | some phase =>
        refine ⟨order, hdecided.turn hhere hturn fun hundecided => ?_⟩
        rw [hundecided] at hnone
        cases hnone
      | none =>
        by_cases hmade : point'.isUndecided = true
        · exact ⟨order, hdecided.turn hhere hturn fun _ => hmade⟩
        · exact ⟨_, hdecided.decide hhere hturn hstarted haccount (by simpa using hmade)⟩

/-! ## Who is on the list -/

/-- Who is past its decision is on the list. -/
theorem Decided.complete (hdecided : Decided devId history system order)
    (hhere : system.points[i]? = some point) (hmade : point.isUndecided = false) :
    i ∈ order.map Decision.operation := by
  induction hdecided generalizing i point with
  | opened => simp [System.opened] at hhere
  | start hbefore hasked ih =>
    -- Who was just started is not decided yet.
    rcases getElem?_append_cases hhere with ⟨-, rfl⟩ | ⟨-, hhere⟩
    · cases hasked <;> cases hmade
    · exact ih hhere hmade
  | turn hbefore hbefore' hturn hkept ih =>
    rcases getElem?_set_cases hhere with ⟨rfl, rfl⟩ | ⟨-, hhere⟩
    · refine ih hbefore' (Bool.eq_false_iff.mpr fun hundecided => ?_)
      rw [hkept hundecided] at hmade
      cases hmade
    · exact ih hhere hmade
  | decide hbefore hbefore' hturn hstarted haccount hmade' ih =>
    rw [List.map_append]
    rcases getElem?_set_cases hhere with ⟨rfl, rfl⟩ | ⟨-, hhere⟩
    · exact List.mem_append_right _ (List.mem_singleton_self _)
    · exact List.mem_append_left _ (ih hhere hmade)

/-- A turn leaves the decided on their way, whoever's turn it is. -/
theorem Account.after_turn (haccount : Account devId asked (some phase) (deeds history i) point)
    (hstands : system.points[i]? = some point) {here here' : Point}
    (hhere : system.points[operation]? = some here)
    (hturn : Turn devId operation gate here occurrence gate' here') :
    ∃ point', (system.points.set operation here')[i]? = some point' ∧
      Account devId asked (some phase) (deeds (history ++ [occurrence]) i) point' := by
  rw [deeds_append]
  -- Another operation's turn adds nothing to its deeds and does not move it.
  by_cases hmine : operation = i
  · subst hmine
    obtain rfl : here = point := Option.some.inj (hhere.symm.trans hstands)
    refine ⟨here', getElem?_set_of_some hhere, ?_⟩
    rw [deeds_own hturn.number_eq]
    exact hturn.account_decided haccount
  · have hother : occurrence.number ≠ i := by rwa [hturn.number_eq]
    refine ⟨point, ?_, ?_⟩
    · rw [List.getElem?_set_ne hmine]
      exact hstands
    · rw [deeds_other hother, List.append_nil]
      exact haccount

/-- Who is on the list goes the way that its decision has set for it. -/
theorem Decided.account (hdecided : Decided devId history system order) {decision : Decision}
    (hmem : decision ∈ order) :
    .started decision.operation decision.asked ∈ history ∧
      ∃ point, system.points[decision.operation]? = some point ∧
        Account devId decision.asked (some decision.phase) (deeds history decision.operation) point := by
  induction hdecided with
  | opened => cases hmem
  | @start history system order point hbefore hasked ih =>
    obtain ⟨hstarted, point, hhere, haccount⟩ := ih hmem
    have hlt : decision.operation < system.points.length := (List.getElem?_eq_some_iff.mp hhere).1
    refine ⟨List.mem_append_left _ hstarted, point, ?_, ?_⟩
    · rw [List.getElem?_append_left hlt]
      exact hhere
    · rw [deeds_append, deeds_other (Nat.ne_of_gt hlt), List.append_nil]
      exact haccount
  | turn hbefore hhere hturn hkept ih =>
    obtain ⟨hstarted, point, hstands, haccount⟩ := ih hmem
    exact ⟨List.mem_append_left _ hstarted, haccount.after_turn hstands hhere hturn⟩
  | decide hbefore hhere hturn hstarted haccount hmade ih =>
    rcases List.mem_append.mp hmem with hmem | hmem
    · obtain ⟨hstarted, point, hstands, haccount⟩ := ih hmem
      exact ⟨List.mem_append_left _ hstarted, haccount.after_turn hstands hhere hturn⟩
    · obtain rfl := List.mem_singleton.mp hmem
      refine ⟨List.mem_append_left _ hstarted, _, getElem?_set_of_some hhere, ?_⟩
      rw [deeds_append, deeds_own hturn.number_eq]
      -- The decision is that of this turn, by the phase that it has found.
      rcases hturn.account_undecided haccount with ⟨hstill, -⟩ | ⟨hdone, -⟩
      · rw [hstill.isUndecided_eq] at hmade
        cases hmade
      · exact hdone

/-- Who is on the list is past its decision. -/
theorem Decided.not_undecided (hdecided : Decided devId history system order)
    (hmem : i ∈ order.map Decision.operation) (hhere : system.points[i]? = some point) :
    point.isUndecided = false := by
  obtain ⟨decision, hdecision, rfl⟩ := List.mem_map.mp hmem
  obtain ⟨-, stands, hstands, haccount⟩ := hdecided.account hdecision
  obtain rfl : stands = point := Option.some.inj (hstands.symm.trans hhere)
  exact haccount.isUndecided_eq

/-- No operation is decided twice. -/
theorem Decided.nodup (hdecided : Decided devId history system order) :
    (order.map Decision.operation).Nodup := by
  induction hdecided with
  | opened => exact List.nodup_nil
  | start hbefore hasked ih => exact ih
  | turn hbefore hhere hturn hkept ih => exact ih
  | decide hbefore hhere hturn hstarted haccount hmade ih =>
    rw [List.map_append, List.nodup_append]
    refine ⟨ih, List.pairwise_singleton _ _, ?_⟩
    -- Who is decided now stood before its decision, so it was not on the list.
    rintro i hmem j hj rfl
    obtain rfl : i = _ := List.mem_singleton.mp hj
    have hpast := hbefore.not_undecided hmem hhere
    rw [haccount.isUndecided_eq] at hpast
    cases hpast

/-! ## The phases link up -/

/-- Each decision begins in the phase in which the one before it has left the channel. -/
inductive Linked : Phase → List Decision → Phase → Prop where
  | nil {phase : Phase} : Linked phase [] phase
  | cons {decision : Decision} {order : List Decision} {final : Phase}
      (hrest : Linked decision.after order final) : Linked decision.phase (decision :: order) final

/-- Lists link up if both parts do, and meet in the same phase. -/
theorem linked_append_iff {earlier later : List Decision} :
    Linked phase (earlier ++ later) final ↔
      ∃ between, Linked phase earlier between ∧ Linked between later final := by
  constructor
  · intro hlinked
    -- On the first part, which is walked through before the parts meet.
    induction earlier generalizing phase with
    | nil => exact ⟨phase, .nil, hlinked⟩
    | cons decision earlier ih =>
      cases hlinked with
      | cons hrest =>
        obtain ⟨between, hearlier, hlater⟩ := ih hrest
        exact ⟨between, .cons hearlier, hlater⟩
  · rintro ⟨between, hearlier, hlater⟩
    induction hearlier with
    | nil => exact hlater
    | cons hrest ih => exact .cons (ih hlater)

/-- Nothing opens a channel again. -/
theorem Phase.after_closed (asked : Point) : Phase.closed.after asked = .closed := by
  cases asked <;> rfl

/-- Nothing is decided in favour of anybody once the channel is closed. -/
theorem Linked.closed (hlinked : Linked phase order final) (hclosed : phase = .closed)
    {decision : Decision} (hmem : decision ∈ order) : decision.phase = .closed := by
  induction hlinked with
  | nil => cases hmem
  | cons hrest ih =>
    rcases List.mem_cons.mp hmem with rfl | hmem
    · exact hclosed
    · refine ih ?_ hmem
      rw [Decision.after, hclosed, Phase.after_closed]

/-- The phases of the list link up from the opened channel to the phase that the gate shows. -/
theorem Decided.linked (hdecided : Decided devId history system order) :
    Linked .opened order system.gate.phase := by
  induction hdecided with
  | opened => exact .nil
  | start hbefore hasked ih => exact ih
  | turn hbefore hhere hturn hkept ih =>
    rw [hturn.phase_eq hkept]
    exact ih
  | @decide history system order _ _ _ _ _ _ hbefore hhere hturn hstarted haccount hmade ih =>
    refine linked_append_iff.mpr ⟨_, ih, ?_⟩
    rcases hturn.account_undecided haccount with ⟨hstill, -⟩ | ⟨-, hafter⟩
    · rw [hstill.isUndecided_eq] at hmade
      cases hmade
    · rw [hafter]
      exact @Linked.cons ⟨_, _, system.gate.phase⟩ [] _ .nil

/-! ## Who was over stands ahead -/

/-- The second operation was started, and since then nothing has happened to the first. -/
def Behind (history : List Occurrence) (i j : Nat) : Prop :=
  ∃ earlier asked later, history = earlier ++ .started j asked :: later ∧
    ∀ occurrence ∈ Occurrence.started j asked :: later, occurrence.number ≠ i

/-- The first operation was over before the second was started. -/
def Precedes (history : List Occurrence) (system : System) (i j : Nat) : Prop :=
  (∃ ending, system.points[i]? = some (.ended ending)) ∧ Behind history i j

/-- If the last occurrence is of another operation, who was behind is behind without it, unless it was started by it.
-/
theorem Behind.last (hbehind : Behind (history ++ [occurrence]) i j) :
    occurrence.number ≠ i ∧ ((∃ asked, occurrence = .started j asked) ∨ Behind history i j) := by
  obtain ⟨earlier, asked, later, hall, hnone⟩ := hbehind
  -- Either nothing has happened since the second was started, or the last occurrence is the last of what has.
  rcases List.eq_nil_or_concat later with rfl | ⟨later, last, rfl⟩
  · obtain ⟨-, hlast⟩ := List.append_inj' hall rfl
    cases hlast
    exact ⟨hnone _ (List.mem_singleton_self _), .inl ⟨asked, rfl⟩⟩
  · rw [List.concat_eq_append, ← List.cons_append, ← List.append_assoc] at hall
    obtain ⟨rfl, hlast⟩ := List.append_inj' hall rfl
    cases hlast
    rw [List.concat_eq_append, ← List.cons_append] at hnone
    have hother := hnone occurrence (List.mem_append_right _ (List.mem_singleton_self _))
    refine ⟨hother, .inr ⟨earlier, asked, later, rfl, ?_⟩⟩
    exact fun occurrence hmem => hnone occurrence (List.mem_append_left _ hmem)

/-- A turn ends nothing that was to precede anything. -/
theorem Precedes.before_turn (hturn : Turn devId operation gate point occurrence gate' point')
    (hprecedes : Precedes (history ++ [occurrence]) ⟨gate', system.points.set operation point'⟩ i j) :
    Precedes history system i j := by
  obtain ⟨⟨ending, hover⟩, hbehind⟩ := hprecedes
  obtain ⟨hother, hstart | hbehind⟩ := hbehind.last
  · obtain ⟨asked, rfl⟩ := hstart
    cases hturn
  -- The turn is of another operation, so the first was over without it.
  · rw [hturn.number_eq] at hother
    rcases getElem?_set_cases hover with ⟨rfl, -⟩ | ⟨-, hover⟩
    · exact absurd rfl hother
    · exact ⟨⟨ending, hover⟩, hbehind⟩

/-- **The list respects real time.** -/
theorem Decided.ahead (hdecided : Decided devId history system order)
    (hprecedes : Precedes history system i j) (hmem : j ∈ order.map Decision.operation) :
    [i, j].Sublist (order.map Decision.operation) := by
  induction hdecided with
  | opened => cases hmem
  | @start history system order point hbefore hasked ih =>
    obtain ⟨⟨ending, hover⟩, hbehind⟩ := hprecedes
    obtain ⟨hother, hstart | hbehind⟩ := hbehind.last
    · -- What starts in this step is not decided yet.
      obtain ⟨asked, hstart⟩ := hstart
      cases hstart
      obtain ⟨decision, hdecision, hj⟩ := List.mem_map.mp hmem
      obtain ⟨-, stands, hstands, -⟩ := hbefore.account hdecision
      rw [hj] at hstands
      exact absurd (List.getElem?_eq_some_iff.mp hstands).1 (Nat.lt_irrefl _)
    · rcases getElem?_append_cases hover with ⟨rfl, -⟩ | ⟨-, hover⟩
      · exact absurd rfl hother
      · exact ih ⟨⟨ending, hover⟩, hbehind⟩ hmem
  | turn hbefore hhere hturn hkept ih => exact ih (hprecedes.before_turn hturn) hmem
  | decide hbefore hhere hturn hstarted haccount hmade ih =>
    have hearlier := hprecedes.before_turn hturn
    rw [List.map_append] at hmem ⊢
    rcases List.mem_append.mp hmem with hmem | hmem
    · exact (ih hearlier hmem).trans (List.sublist_append_left _ _)
    · -- The one that is over was decided earlier.
      obtain ⟨⟨ending, hover⟩, -⟩ := hearlier
      have hi := hbefore.complete hover rfl
      obtain rfl := List.mem_singleton.mp hmem
      exact (List.singleton_sublist.mpr hi).append (List.Sublist.refl [j])

end HciTransport.Channel
