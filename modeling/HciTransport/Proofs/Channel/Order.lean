import HciTransport.Proofs.Channel.Flags
import HciTransport.Proofs.Channel.Locks

/-!
# Order: the last request under each lock

Under each lock there is one request that shuts the channel down: under the read lock the release of the
descriptor, under the write lock the close frame. The requests of callers come from a look at the closed
flag, and the flag is set without any lock, so a caller may still be on its way when the channel is closed.
But it looks under the lock, and goes on to its request without letting go of it. So as long as its
request is under way, the one that shuts down under the same lock has not begun
(`Run.unshut_of_request`), and once that has begun, no request of a caller begins
(`Run.none_after_shut`).
-/

namespace HciTransport.Channel

variable {devId : UInt16} {operation : Nat} {system : System} {history : List Occurrence}
  {occurrence : Occurrence} {gate gate' : Gate} {point point' : Point} {pending shut : Pending}

/-- The request shuts the channel down; the other ones are those that callers ask for. -/
def Pending.isShutting : Pending → Bool
  | .closeFrame _ | .release _ => true
  | .read _ | .write _ => false

/-- The request that an operation is about to begin, or has in progress. -/
def Point.request? : Point → Option Pending
  | .before pending | .inside pending => some pending
  | _ => none

/-- Around a request its lock is held. -/
theorem held_of_request (hrequest : point.request? = some pending) : point.held = some pending.lock := by
  unfold Point.request? at hrequest
  split at hrequest
  · cases hrequest
    rfl
  · cases hrequest
    rfl
  · cases hrequest

/-- The request of a caller is the one that was about to begin, or it comes from a look at the closed flag
that found the channel open. -/
theorem Turn.request_cases (hturn : Turn devId operation gate point occurrence gate' point')
    (hrequest : point'.request? = some pending) (hcaller : pending.isShutting = false) :
    (point.request? = some pending ∨ gate.closed = false) ∧
      ∀ i begun, occurrence = .began i begun → begun = pending := by
  -- A request of a caller comes from one of two looks at the flag; the ones that close and give back are no requests
  -- of callers.
  cases hturn with
  | readRecheck hopen | writeCheck hopen => exact ⟨.inr hopen, fun _ _ h => by cases h⟩
  | begin =>
    cases hrequest
    refine ⟨.inl rfl, ?_⟩
    intro i begun hbegun
    cases hbegun
    rfl
  | closeLock | releaseMark =>
    cases hrequest
    cases hcaller
  | closeRefused =>
    rw [afterClosed_eq (f := Point.request?) (fun _ => rfl) rfl] at hrequest
    cases hrequest
  | releaseBusy | releaseUnlock =>
    rw [afterRelease_eq (f := Point.request?) (fun _ => rfl) rfl] at hrequest
    cases hrequest
  | _ => cases hrequest

/-- A request is begun by the operation that stands before it. -/
theorem Turn.before_of_began {i : Nat}
    (hturn : Turn devId operation gate point (.began i pending) gate' point') :
    i = operation ∧ point = .before pending := by
  cases hturn
  exact ⟨rfl, rfl⟩

/-- Where a request that shuts down has begun, the channel is closed. -/
theorem Run.closed_of_shut (hrun : Run devId history system) (hbegan : .began operation shut ∈ history)
    (hshut : shut.isShutting = true) : system.gate.closed = true := by
  cases shut with
  | closeFrame => exact hrun.closed_of_closeFrame ⟨_, hbegan, rfl⟩
  | release => exact hrun.closed_of_released (hrun.released_of_release ⟨_, hbegan, rfl⟩)
  | read | write => cases hshut

/-- **While the request of a caller is under way, the one that shuts down under its lock has not begun.** -/
theorem Run.unshut_of_request (hrun : Run devId history system) {i : Nat} {q : Point}
    (hi : system.points[i]? = some q) (hrequest : q.request? = some pending)
    (hcaller : pending.isShutting = false) (hbegan : .began operation shut ∈ history)
    (hshut : shut.isShutting = true) : shut.lock ≠ pending.lock := by
  -- On the run. In the last step the shutting request begins, or the caller comes to its own, or neither.
  induction hrun generalizing i q with
  | opened => simp at hbegan
  | @step history system next occurrence hbefore hstep ih =>
    rcases step_iff.mp hstep with ⟨start, hasked, rfl, rfl⟩ | ⟨moved, point, gate', point', hhere, hmoved, rfl⟩
    · -- A start brings no request.
      rcases List.mem_append.mp hbegan with hbegan | hbegan
      · rcases getElem?_append_cases hi with ⟨-, rfl⟩ | ⟨-, hi⟩
        · cases hasked <;> cases hrequest
        · exact ih hi hrequest hbegan
      · cases List.mem_singleton.mp hbegan
    · rcases getElem?_set_cases hi with ⟨-, rfl⟩ | ⟨hne, hi⟩
      · -- The turn is the caller's own.
        obtain ⟨hfrom, honly⟩ := hmoved.request_cases hrequest hcaller
        rcases List.mem_append.mp hbegan with hbegan | hbegan
        · rcases hfrom with hrequest | hopen
          · exact ih hhere hrequest hbegan
          · rw [hbefore.closed_of_shut hbegan hshut] at hopen
            cases hopen
        · rw [honly _ _ (List.mem_singleton.mp hbegan).symm, hcaller] at hshut
          cases hshut
      · rcases List.mem_append.mp hbegan with hbegan | hbegan
        · exact ih hi hrequest hbegan
        · -- Another one begins to shut down, and holds the lock that it does it under.
          obtain rfl := List.mem_singleton.mp hbegan
          obtain ⟨-, rfl⟩ := hmoved.before_of_began
          intro hlock
          have hheld : (Point.before shut).held = some pending.lock := by rw [← hlock]; rfl
          exact hne (hbefore.held_unique hi hhere (held_of_request hrequest) hheld)

/-- **After a request that shuts down no request of a caller begins under the same lock.** -/
theorem Run.none_after_shut (hrun : Run devId history system) {earlier later : List Occurrence} {i j : Nat}
    (hhistory : history = earlier ++ .began i shut :: later) (hshut : shut.isShutting = true)
    (hcaller : pending.isShutting = false) (hlock : shut.lock = pending.lock) :
    .began j pending ∉ later := by
  intro hmem
  obtain ⟨between, rest, rfl⟩ := List.append_of_mem hmem
  have hsplit : history = (earlier ++ .began i shut :: between) ++ .began j pending :: rest := by
    rw [hhistory, List.append_assoc, List.cons_append]
  -- The run is cut where the later request begins: there the caller stands before it.
  rw [hsplit] at hrun
  obtain ⟨here, next, hbefore, hstep⟩ := hrun.step_of_append
  have hbegan : .began i shut ∈ earlier ++ .began i shut :: between :=
    List.mem_append_right _ List.mem_cons_self
  exact hbefore.unshut_of_request hstep.before_of_began rfl hcaller hbegan hshut hlock

end HciTransport.Channel
