import HciTransport.Kernel
import HciTransport.Proofs.Trace
import Mathlib.Data.Multiset.Count

/-!
# Numbers of the kernel, and who may use them

A successful call for a socket hands out a number, and a close takes it back. `Uses` follows a trace with
the numbers that are out: every other call has to be on one of them, and a close takes its number away. So
the numbers that were out before a trace and those that it was handed are those that it has closed and
those that are out after it (`Uses.ledger`). Where none are out before and after, and the kernel hands out
no number twice, each is closed once, and nothing is done on it before it is handed out or after it is
closed (`closedOnce_of_uses`).
-/

namespace HciTransport

namespace KernelCall

/-- The number that a call is made on; there is none yet when a socket is made. -/
def number? : KernelCall → Option Int
  | .socket _ _ _ => none
  | .control fd _ _ | .deviceInfo fd _ _ | .deviceList fd _ _ | .bind fd _ | .poll fd _ _ _ | .read fd _
  | .write fd _ | .close fd => some fd

/-- The number that a call closes. -/
def closes? : KernelCall → Option Int
  | .close fd => some fd
  | _ => none

end KernelCall

namespace Sign

def number? : Sign Kernel → Option Int
  | .said _ => none
  | .asked call _ => call.number?

def closes? : Sign Kernel → Option Int
  | .said _ => none
  | .asked call _ => call.closes?

/-- The number that a successful call for a socket has returned. -/
def opens? : Sign Kernel → Option Int
  | .asked (.socket _ _ _) status => if Status.ret status < 0 then none else some (Status.ret status)
  | .asked _ _ | .said _ => none

end Sign

variable {trace before after : Trace Kernel} {held held' : Multiset Int}

/-- The numbers that were handed out. -/
def handedOut (trace : Trace Kernel) : List Int := trace.filterMap Sign.opens?

/-- The numbers that were closed, whatever the kernel answered. -/
def givenBack (trace : Trace Kernel) : List Int := trace.filterMap Sign.closes?

/-- Every call of the trace is on a number that is out, where `held` are out before it and `held'` after. -/
inductive Uses : Multiset Int → Trace Kernel → Multiset Int → Prop where
  | nil {held : Multiset Int} : Uses held [] held
  | said {held held' : Multiset Int} {trace : Trace Kernel} (event : Event)
      (hrest : Uses held trace held') : Uses held (.said event :: trace) held'
  | refused {held held' : Multiset Int} {trace : Trace Kernel} {family kind protocol : Int}
      {status : Status} (hfailed : status.ret < 0) (hrest : Uses held trace held') :
      Uses held (.asked (.socket family kind protocol) status :: trace) held'
  | opened {held held' : Multiset Int} {trace : Trace Kernel} {family kind protocol : Int}
      {status : Status} (hmade : ¬ status.ret < 0) (hrest : Uses (status.ret ::ₘ held) trace held') :
      Uses held (.asked (.socket family kind protocol) status :: trace) held'
  | used {held held' : Multiset Int} {trace : Trace Kernel} {call : KernelCall} {fd : Int}
      (answer : call.Answer) (hnumber : call.number? = some fd) (hopen : call.closes? = none)
      (hheld : fd ∈ held) (hrest : Uses held trace held') : Uses held (.asked call answer :: trace) held'
  | closed {held held' : Multiset Int} {trace : Trace Kernel} {fd : Int} (status : Status)
      (hrest : Uses held trace held') : Uses (fd ::ₘ held) (.asked (.close fd) status :: trace) held'

/-- Two traces in a row use the numbers that are out between them. -/
theorem Uses.append {last : Multiset Int} (hbefore : Uses held before held')
    (hafter : Uses held' after last) : Uses held (before ++ after) last := by
  induction hbefore with
  | nil => exact hafter
  | said event hrest ih => exact .said event (ih hafter)
  | refused hfailed hrest ih => exact .refused hfailed (ih hafter)
  | opened hmade hrest ih => exact .opened hmade (ih hafter)
  | used answer hnumber hopen hheld hrest ih => exact .used answer hnumber hopen hheld (ih hafter)
  | closed status hrest ih => exact .closed status (ih hafter)

theorem Uses.split (huses : Uses held (before ++ after) held') :
    ∃ between, Uses held before between ∧ Uses between after held' := by
  induction before generalizing held with
  | nil => exact ⟨held, .nil, huses⟩
  | cons sign before ih =>
    cases huses with
    | said event hrest =>
      obtain ⟨between, hbefore, hafter⟩ := ih hrest
      exact ⟨between, .said event hbefore, hafter⟩
    | refused hfailed hrest =>
      obtain ⟨between, hbefore, hafter⟩ := ih hrest
      exact ⟨between, .refused hfailed hbefore, hafter⟩
    | opened hmade hrest =>
      obtain ⟨between, hbefore, hafter⟩ := ih hrest
      exact ⟨between, .opened hmade hbefore, hafter⟩
    | used answer hnumber hopen hheld hrest =>
      obtain ⟨between, hbefore, hafter⟩ := ih hrest
      exact ⟨between, .used answer hnumber hopen hheld hbefore, hafter⟩
    | closed status hrest =>
      obtain ⟨between, hbefore, hafter⟩ := ih hrest
      exact ⟨between, .closed status hbefore, hafter⟩

theorem handedOut_append (before after : Trace Kernel) :
    handedOut (before ++ after) = handedOut before ++ handedOut after := List.filterMap_append

/-- A call on a number hands out none. -/
theorem opens?_of_number {call : KernelCall} {fd : Int} (answer : call.Answer)
    (hnumber : call.number? = some fd) : Sign.opens? (.asked call answer) = none := by
  cases call with
  | socket => cases hnumber
  | _ => rfl

/-- **What is out and what is handed out is given back or still out.** -/
theorem Uses.ledger (huses : Uses held trace held') (fd : Int) :
    held.count fd + (handedOut trace).count fd = (givenBack trace).count fd + held'.count fd := by
  -- On the trace. A number moves where a socket is made and where one is closed.
  induction huses with
  | nil => exact Nat.add_comm _ _
  | said event hrest ih => exact ih
  | @refused _ _ trace family kind protocol status hfailed hrest ih =>
    have hmade : handedOut (.asked (.socket family kind protocol) status :: trace) = handedOut trace :=
      List.filterMap_cons_none (if_pos hfailed)
    rw [hmade]
    exact ih
  | @opened _ _ trace family kind protocol status hmade hrest ih =>
    have hmore : handedOut (.asked (.socket family kind protocol) status :: trace) =
        status.ret :: handedOut trace :=
      List.filterMap_cons_some (if_neg hmade)
    have hsame : givenBack (.asked (.socket family kind protocol) status :: trace) = givenBack trace := rfl
    rw [hmore, hsame, ← ih, Multiset.count_cons, List.count_cons]
    -- It is the number in question that was handed out, or another one.
    by_cases hfd : fd = status.ret
    · simp [hfd]
      omega
    · simp [hfd, Ne.symm hfd]
  | @used _ _ trace call number answer hnumber hopen hheld hrest ih =>
    -- Any other call hands out nothing and gives nothing back.
    have hmade : handedOut (.asked call answer :: trace) = handedOut trace :=
      List.filterMap_cons_none (opens?_of_number answer hnumber)
    have hkept : givenBack (.asked call answer :: trace) = givenBack trace :=
      List.filterMap_cons_none hopen
    rw [hmade, hkept]
    exact ih
  | @closed _ _ trace number status hrest ih =>
    have hless : givenBack (.asked (.close number) status :: trace) = number :: givenBack trace := rfl
    have hsame : handedOut (.asked (.close number) status :: trace) = handedOut trace := rfl
    rw [hless, hsame, Multiset.count_cons, List.count_cons]
    by_cases hfd : fd = number
    · simp [hfd]
      rw [hfd] at ih
      omega
    · simp [hfd, Ne.symm hfd]
      omega

/-- A call is on a number that is out. -/
theorem Uses.mem_of_number {sign : Sign Kernel} (huses : Uses held (sign :: trace) held') {fd : Int}
    (hnumber : sign.number? = some fd) : fd ∈ held := by
  cases huses with
  | said | refused | opened => cases hnumber
  | used answer hcall _ hheld =>
    rw [Sign.number?, hcall] at hnumber
    cases hnumber
    exact hheld
  | closed =>
    cases hnumber
    exact Multiset.mem_cons_self ..

/-- Every number is closed once, and used only between the call that has returned it and its close. -/
structure ClosedOnce (trace : Trace Kernel) : Prop where
  once : ∀ fd ∈ handedOut trace, (givenBack trace).count fd = 1
  /-- A call is on a number that was handed out before it and has not been closed. So there is no close where
  no socket was made, and no call after a close. -/
  in_use : ∀ before sign after fd, trace = before ++ sign :: after → sign.number? = some fd →
    fd ∈ handedOut before ∧ fd ∉ givenBack before

/-- **Where nothing is out before and after, every number is closed once**, if no number was handed out twice. -/
theorem closedOnce_of_uses (huses : Uses 0 trace 0) (hdistinct : (handedOut trace).Nodup) :
    ClosedOnce trace where
  once fd hmem := by
    have hledger := huses.ledger fd
    rw [List.count_eq_one_of_mem hdistinct hmem, Multiset.count_zero] at hledger
    omega
  in_use before sign after fd htrace hnumber := by
    subst htrace
    -- The trace is cut before the call: there its number is out.
    obtain ⟨between, hbefore, hafter⟩ := huses.split
    have hout := Multiset.count_pos.mpr (hafter.mem_of_number hnumber)
    have hledger := hbefore.ledger fd
    rw [Multiset.count_zero] at hledger
    -- It was handed out no more than once, so none of what was handed out can have been given back.
    rw [handedOut_append] at hdistinct
    have hone := List.nodup_iff_count_le_one.mp (List.Nodup.of_append_left hdistinct) fd
    refine ⟨List.count_pos_iff.mp (by omega), fun hmem => ?_⟩
    have hclosed := List.count_pos_iff.mpr hmem
    omega

end HciTransport
