import HciTransport.Proofs.Trace

/-!
# What a program says

Besides its requests a program says things, to the log or on standard output. That all it says is of one kind
is read off its parts (`Program.Says.bind` and its neighbours). What it says does not matter to what it asks
for: without it (`Program.silent`) a program makes the same requests, and ends with the same value
(`Program.runs_silent_iff`).
-/

namespace HciTransport

variable {I : Interface} {α β ε : Type} {trace before after : Trace I} {value : α}

/-! ## Of one kind -/

namespace Program

/-- Whatever it is answered, all that the program says is of this kind. -/
def Says (P : Event → Prop) (p : Program I α) : Prop :=
  ∀ trace value, p.Runs trace value → ∀ event, .said event ∈ trace → P event

namespace Says

variable {P : Event → Prop}

theorem done (value : α) : Says P (.done value : Program I α) := by
  intro trace result hruns event hmem
  obtain ⟨rfl, -⟩ := runs_done_iff.mp hruns
  cases hmem

/-- What is said first has to be of the kind, and what comes after it. -/
theorem emit {event : Event} {rest : Program I α} (hevent : P event) (hrest : Says P rest) :
    Says P (.emit event rest) := by
  intro trace result hruns said hmem
  obtain ⟨tail, rfl, htail⟩ := runs_emit_iff.mp hruns
  rcases List.mem_cons.mp hmem with hmem | hmem
  · cases hmem
    exact hevent
  · exact hrest _ _ htail said hmem

/-- A request says nothing itself. -/
theorem call {request : I.Call} {next : I.Answer request → Program I α} (hnext : ∀ answer, Says P (next answer)) :
    Says P (.call request next) := by
  intro trace result hruns said hmem
  obtain ⟨answer, tail, rfl, htail⟩ := runs_call_iff.mp hruns
  rcases List.mem_cons.mp hmem with hmem | hmem
  · cases hmem
  · exact hnext answer _ _ htail said hmem

/-- Two programs in a row say what both of them say. -/
theorem bind {p : Program I α} {f : α → Program I β} (hp : Says P p) (hf : ∀ value, Says P (f value)) :
    Says P (p.bind f) := by
  intro trace result hruns said hmem
  obtain ⟨before, after, value, rfl, hbefore, hafter⟩ := runs_bind_iff.mp hruns
  rcases List.mem_append.mp hmem with hmem | hmem
  · exact hp _ _ hbefore said hmem
  · exact hf value _ _ hafter said hmem

theorem andThen {p : Program I (Except ε α)} {f : α → Program I (Except ε β)} (hp : Says P p)
    (hf : ∀ value, Says P (f value)) : Says P (p.andThen f) := by
  refine hp.bind fun outcome => ?_
  cases outcome with
  | ok value => exact hf value
  | error error => exact done _

theorem logAll {entries : List LogEntry} {p : Program I α} (hentries : ∀ entry ∈ entries, P (.log entry))
    (hp : Says P p) : Says P (logAll entries p) := by
  -- Entry by entry, each in front of what comes after it.
  induction entries with
  | nil => exact hp
  | cons entry entries ih =>
    exact emit (hentries entry List.mem_cons_self) (ih fun other hmem => hentries other (List.mem_cons_of_mem _ hmem))

end Says

end Program

/-- The log of a trace is what was said to it. -/
theorem Trace.mem_log {entry : LogEntry} : entry ∈ trace.log ↔ .said (.log entry) ∈ trace := by
  constructor
  · intro hmem
    obtain ⟨sign, hsign, hentry⟩ := List.mem_filterMap.mp hmem
    cases sign with
    | asked => cases hentry
    | said event =>
      cases event with
      | line => cases hentry
      | log =>
        cases hentry
        exact hsign
  · intro hmem
    exact List.mem_filterMap.mpr ⟨_, hmem, rfl⟩

/-! ## Nothing at all -/

/-- The sign is a request with its answer. -/
def Sign.isAsked : Sign I → Bool
  | .asked _ _ => true
  | .said _ => false

/-- The requests of a trace and their answers. -/
def Trace.asks (trace : Trace I) : Trace I := trace.filter Sign.isAsked

namespace Trace

@[simp] theorem asks_append : (before ++ after).asks = before.asks ++ after.asks := List.filter_append ..

/-- What is said asks for nothing. -/
theorem calls_asks : trace.asks.calls = trace.calls := by
  induction trace with
  | nil => rfl
  | cons sign trace ih =>
    cases sign with
    | said => exact ih
    | asked request answer => exact congrArg (request :: ·) ih

end Trace

namespace Program

/-- The program, which says nothing any more. -/
def silent : Program I α → Program I α
  | .done value => .done value
  | .emit _ rest => silent rest
  | .call request next => .call request fun answer => silent (next answer)

/-- Without what it says nothing is left of a log. -/
theorem silent_logAll (log : List LogEntry) (p : Program I α) : (logAll log p).silent = p.silent := by
  induction log with
  | nil => rfl
  | cons entry log ih => exact ih

/-- **A run of the silent program is a run of the program without what is said.** -/
theorem runs_silent_iff {p : Program I α} :
    p.silent.Runs trace value ↔ ∃ shown, trace = Trace.asks shown ∧ p.Runs shown value := by
  -- On the program. What is said is left out of the trace, and is put back from the program.
  induction p generalizing trace with
  | done ended =>
    constructor
    · intro hruns
      obtain ⟨rfl, rfl⟩ := runs_done_iff.mp hruns
      exact ⟨[], rfl, .done _⟩
    · rintro ⟨shown, rfl, hruns⟩
      obtain ⟨rfl, rfl⟩ := runs_done_iff.mp hruns
      exact .done _
  | emit event rest ih =>
    constructor
    · intro hruns
      obtain ⟨shown, rfl, hshown⟩ := ih.mp hruns
      exact ⟨.said event :: shown, rfl, .emit hshown⟩
    · rintro ⟨shown, rfl, hruns⟩
      obtain ⟨tail, rfl, htail⟩ := runs_emit_iff.mp hruns
      exact ih.mpr ⟨tail, rfl, htail⟩
  | call request next ih =>
    constructor
    · intro hruns
      obtain ⟨answer, tail, rfl, htail⟩ := runs_call_iff.mp hruns
      obtain ⟨shown, rfl, hshown⟩ := (ih answer).mp htail
      exact ⟨.asked request answer :: shown, rfl, .call answer hshown⟩
    · rintro ⟨shown, rfl, hruns⟩
      obtain ⟨answer, tail, rfl, htail⟩ := runs_call_iff.mp hruns
      exact .call answer ((ih answer).mpr ⟨tail, rfl, htail⟩)

end Program

end HciTransport
