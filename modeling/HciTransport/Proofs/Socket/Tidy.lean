import HciTransport.Channel.Alone
import HciTransport.Open
import HciTransport.Proofs.Channel.Alone
import HciTransport.Proofs.Socket.Numbers
import HciTransport.RawSocket
import Mathlib.Data.Multiset.AddSub

/-!
# Tidy programs

A program over a descriptor is tidy if it makes one only while it has none, and puts no other request than
a release or a discard while it has none. `Tidy` keeps book of that along every path of the program and
says what is true where a path ends; it composes like the program does (`Tidy.bind`). On a raw socket a
tidy program uses the numbers of the kernel as it should: `Tidy.uses` is the one place where the requests
of a descriptor and the calls of the kernel meet. The programs for the control operations, the open
sequence and the operations of a channel are tidy.
-/

namespace HciTransport

variable {α β : Type} {live : Bool}

/-- The request is put to a descriptor that was made and not given back. -/
def DescriptorCall.isUse : DescriptorCall → Bool
  | .create | .release | .discard => false
  | _ => true

/-- The program is tidy, where `live` says whether there is a descriptor. What `post` says holds at its
end. -/
inductive Tidy (post : Bool → α → Prop) : Bool → Program Descriptor α → Prop where
  | done {live : Bool} {value : α} (hpost : post live value) : Tidy post live (.done value)
  | emit {live : Bool} {event : Event} {rest : Program Descriptor α} (hrest : Tidy post live rest) :
      Tidy post live (.emit event rest)
  | create {next : DescriptorCall.create.Answer → Program Descriptor α}
      (hmade : Tidy post true (next (.ok () : Except IoError Unit)))
      (hfailed : ∀ cause, Tidy post false (next (.error cause : Except IoError Unit))) :
      Tidy post false (.call .create next)
  | use {request : DescriptorCall} {next : request.Answer → Program Descriptor α}
      (huse : request.isUse = true) (hnext : ∀ answer, Tidy post true (next answer)) :
      Tidy post true (.call request next)
  | release {live : Bool} {next : DescriptorCall.release.Answer → Program Descriptor α}
      (hnext : ∀ answer, Tidy post false (next answer)) : Tidy post live (.call .release next)
  | discard {live : Bool} {next : DescriptorCall.discard.Answer → Program Descriptor α}
      (hnext : Tidy post false (next ())) : Tidy post live (.call .discard next)

/-- Two programs in a row are tidy if the second is so wherever the first has ended. -/
theorem Tidy.bind {mid : Bool → α → Prop} {post : Bool → β → Prop} {p : Program Descriptor α}
    {f : α → Program Descriptor β} (hp : Tidy mid live p)
    (hf : ∀ live value, mid live value → Tidy post live (f value)) : Tidy post live (p.bind f) := by
  induction hp with
  | done hpost => exact hf _ _ hpost
  | emit hrest ih => exact .emit ih
  | create hmade hfailed ihmade ihfailed => exact .create ihmade ihfailed
  | use huse hnext ih => exact .use huse ih
  | release hnext ih => exact .release ih
  | discard hnext ih => exact .discard ih

theorem Tidy.logAll {post : Bool → α → Prop} {p : Program Descriptor α} (hp : Tidy post live p)
    (entries : List LogEntry) : Tidy post live (Program.logAll entries p) := by
  induction entries with
  | nil => exact hp
  | cons entry entries ih => exact .emit ih

/-! ## On a raw socket -/

namespace RawSocket

/-- The numbers that a socket holds: one, until it is given back. -/
def numbers (socket : RawSocket) : Multiset Int := if socket.released then 0 else {socket.fd}

end RawSocket

open RawSocket

variable {socket socket' : RawSocket} {rest : Multiset Int} {trace : Trace Kernel}

/-- A socket that was given back holds nothing. -/
theorem numbers_of_released (h : socket.released = true) : socket.numbers = 0 := if_pos h

theorem numbers_of_live (h : socket.released = false) : socket.numbers = {socket.fd} := by
  rw [numbers, h]
  rfl

/-- To give a socket back closes what it holds. -/
theorem giveBack_uses {got : Except IoError Unit} (hruns : socket.giveBack.Runs trace (socket', got)) :
    Uses (socket.numbers + rest) trace rest ∧ socket'.released = true := by
  rw [giveBack] at hruns
  -- Was it given back already?
  split at hruns
  · next hreleased =>
    obtain ⟨rfl, hended⟩ := Program.runs_done_iff.mp hruns
    cases hended
    rw [numbers_of_released hreleased, Multiset.zero_add]
    exact ⟨.nil, hreleased⟩
  · next hlive =>
    obtain ⟨status, rfl, hended⟩ := Program.runs_ask_iff.mp hruns
    cases hended
    rw [numbers_of_live (by simpa using hlive), Multiset.singleton_add]
    exact ⟨.closed status .nil, rfl⟩

/-- One call on the number that a socket holds leaves it there. -/
theorem once_uses {call : KernelCall} {next : call.Answer → Program Kernel (RawSocket × α)} {got : α}
    (hlive : socket.released = false) (hnumber : call.number? = some socket.fd)
    (hopen : call.closes? = none) (hnext : ∀ answer, ∃ value, next answer = .done (socket, value))
    (hruns : (Program.call call next).Runs trace (socket', got)) :
    Uses (socket.numbers + rest) trace (socket.numbers + rest) ∧ socket' = socket := by
  obtain ⟨answer, _, rfl, hdone⟩ := Program.runs_call_iff.mp hruns
  obtain ⟨value, hvalue⟩ := hnext answer
  rw [hvalue] at hdone
  obtain ⟨rfl, hended⟩ := Program.runs_done_iff.mp hdone
  cases hended
  have hheld : socket.fd ∈ socket.numbers + rest := by
    rw [numbers_of_live hlive, Multiset.singleton_add]
    exact Multiset.mem_cons_self ..
  exact ⟨.used answer hnumber hopen hheld .nil, rfl⟩

/-- A request that uses a descriptor makes at most one call, on the number that the socket holds. -/
theorem use_uses {call : DescriptorCall} {got : call.Answer} (huse : call.isUse = true)
    (hlive : socket.released = false) (hruns : (socket.answer call).Runs trace (socket', got)) :
    Uses (socket.numbers + rest) trace (socket.numbers + rest) ∧ socket' = socket := by
  -- Every one of these makes its call at once, but for a record that is looked at first.
  cases call with
  | create | release | discard => cases huse
  | control | listDevices | bindUserChannel | pollReadable | read | write =>
    exact once_uses hlive rfl rfl (fun _ => ⟨_, rfl⟩) hruns
  | deviceInfo record =>
    rw [answer] at hruns
    split at hruns
    · -- A record that is too short is refused without a call.
      obtain ⟨rfl, hended⟩ := Program.runs_done_iff.mp hruns
      cases hended
      exact ⟨.nil, rfl⟩
    · exact once_uses hlive rfl rfl (fun _ => ⟨_, rfl⟩) hruns

/-- A descriptor is made exactly if the answer says so. -/
theorem create_uses {got : Except IoError Unit} (hnone : socket.released = true)
    (hruns : (socket.answer .create).Runs trace (socket', got)) :
    Uses (socket.numbers + rest) trace (socket'.numbers + rest) ∧
      ((got = .ok () ∧ socket'.released = false) ∨
        ∃ cause, got = .error cause ∧ socket'.released = true) := by
  obtain ⟨status, _, rfl, hmade⟩ := Program.runs_call_iff.mp hruns
  rw [numbers_of_released hnone, Multiset.zero_add]
  generalize hgot : Status.unlessNegative status () = outcome at hmade
  unfold Status.unlessNegative at hgot
  -- How the socket comes out is decided by the sign of the number, as the answer is.
  cases outcome with
  | error cause =>
    obtain ⟨rfl, hended⟩ := Program.runs_done_iff.mp hmade
    cases hended
    split at hgot
    · next hfailed =>
      rw [numbers_of_released rfl, Multiset.zero_add]
      exact ⟨.refused hfailed .nil, .inr ⟨cause, rfl, rfl⟩⟩
    · cases hgot
  | ok value =>
    obtain ⟨rfl, hended⟩ := Program.runs_done_iff.mp hmade
    cases hended
    split at hgot
    · cases hgot
    · next hpositive =>
      rw [numbers_of_live rfl, Multiset.singleton_add]
      exact ⟨.opened hpositive .nil, .inl ⟨rfl, rfl⟩⟩

/-- **A tidy program uses the numbers of the kernel as it should**, whatever other sockets hold meanwhile. -/
theorem Tidy.uses {post : Bool → α → Prop} {p : Program Descriptor α} {value : α}
    (hp : Tidy post live p) (hlive : socket.released = !live)
    (hruns : (lower p socket).Runs trace (socket', value)) (rest : Multiset Int) :
    Uses (socket.numbers + rest) trace (socket'.numbers + rest) ∧ post (!socket'.released) value := by
  -- On the book. Each row of it is one request, and so some calls at the front of the trace.
  induction hp generalizing socket trace with
  | @done live ended hpost =>
    obtain ⟨rfl, hended⟩ := Program.runs_done_iff.mp hruns
    cases hended
    refine ⟨.nil, ?_⟩
    rw [hlive, Bool.not_not]
    exact hpost
  | emit hrest ih =>
    obtain ⟨tail, rfl, htail⟩ := Program.runs_emit_iff.mp hruns
    obtain ⟨huses, hpost⟩ := ih hlive htail
    exact ⟨.said _ huses, hpost⟩
  | create hmade hfailed ihmade ihfailed =>
    -- What was held before is gone, and the socket that the rest of the program sees is a new one.
    obtain ⟨before, after, ⟨between, got⟩, rfl, hanswer, hnext⟩ := Program.runs_bind_iff.mp hruns
    obtain ⟨hfirst, ⟨rfl, hbetween⟩ | ⟨cause, rfl, hbetween⟩⟩ := create_uses hlive hanswer
    · obtain ⟨huses, hpost⟩ := ihmade hbetween hnext
      exact ⟨hfirst.append huses, hpost⟩
    · obtain ⟨huses, hpost⟩ := ihfailed cause hbetween hnext
      exact ⟨hfirst.append huses, hpost⟩
  | use huse hnext ih =>
    obtain ⟨before, after, ⟨between, got⟩, rfl, hanswer, hnext⟩ := Program.runs_bind_iff.mp hruns
    obtain ⟨hfirst, rfl⟩ := use_uses huse hlive hanswer
    obtain ⟨huses, hpost⟩ := ih got hlive hnext
    exact ⟨hfirst.append huses, hpost⟩
  | release hnext ih =>
    -- A socket that was given back already makes no call here.
    obtain ⟨before, after, ⟨between, got⟩, rfl, hanswer, hnext⟩ := Program.runs_bind_iff.mp hruns
    obtain ⟨hfirst, hbetween⟩ := giveBack_uses hanswer
    obtain ⟨huses, hpost⟩ := ih got hbetween hnext
    rw [numbers_of_released hbetween, Multiset.zero_add] at huses
    exact ⟨hfirst.append huses, hpost⟩
  -- To forget a descriptor is to give it back, and its answer says nothing of that.
  | discard hnext ih =>
    obtain ⟨before, after, ⟨between, got⟩, rfl, hanswer, hnext⟩ := Program.runs_bind_iff.mp hruns
    obtain ⟨first, second, ⟨given, outcome⟩, rfl, hgiven, hdone⟩ := Program.runs_bind_iff.mp hanswer
    obtain ⟨rfl, hended⟩ := Program.runs_done_iff.mp hdone
    cases hended
    obtain ⟨hfirst, hbetween⟩ := giveBack_uses hgiven
    obtain ⟨huses, hpost⟩ := ih hbetween hnext
    rw [numbers_of_released hbetween, Multiset.zero_add] at huses
    rw [List.append_nil]
    exact ⟨hfirst.append huses, hpost⟩

end HciTransport
