import HciTransport.Program

/-!
# Traces: one run of a program

A program is a tree and a run is one path through it. What is seen of a run is its trace: what the
program said, and each request with the answer that it got. `Program.Runs` reads traces off the tree. A
run of a composed program falls into runs of its parts (`Program.runs_bind_iff`), and with an answer for
every request there is a run (`Program.runs_follow`).
-/

namespace HciTransport

variable {I : Interface} {α β : Type}

/-- One thing that is seen of a run. -/
inductive Sign (I : Interface) where
  | said (event : Event)
  | asked (request : I.Call) (answer : I.Answer request)

abbrev Trace (I : Interface) := List (Sign I)

namespace Sign

/-- The request, if it is one. -/
def call? : Sign I → Option I.Call
  | .said _ => none
  | .asked request _ => some request

/-- The log entry, if it is one. -/
def entry? : Sign I → Option LogEntry
  | .said (.log entry) => some entry
  | .said (.line _) | .asked _ _ => none

end Sign

namespace Trace

/-- What was asked, in order. -/
def calls (trace : Trace I) : List I.Call := trace.filterMap Sign.call?

/-- What was logged, in order. -/
def log (trace : Trace I) : List LogEntry := trace.filterMap Sign.entry?

/-- Log entries as they are seen. -/
def ofLog (entries : List LogEntry) : Trace I := entries.map fun entry => .said (.log entry)

@[simp] theorem calls_nil : calls ([] : Trace I) = [] := rfl

@[simp] theorem calls_said (event : Event) (trace : Trace I) :
    calls (.said event :: trace) = calls trace := rfl

@[simp] theorem calls_asked (request : I.Call) (answer : I.Answer request) (trace : Trace I) :
    calls (.asked request answer :: trace) = request :: calls trace := rfl

@[simp] theorem calls_append (before after : Trace I) :
    calls (before ++ after) = calls before ++ calls after := List.filterMap_append

@[simp] theorem calls_ofLog (entries : List LogEntry) : calls (ofLog entries : Trace I) = [] := by
  induction entries with
  | nil => rfl
  | cons entry entries ih => exact ih

@[simp] theorem log_nil : log ([] : Trace I) = [] := rfl

@[simp] theorem log_asked (request : I.Call) (answer : I.Answer request) (trace : Trace I) :
    log (.asked request answer :: trace) = log trace := rfl

@[simp] theorem log_append (before after : Trace I) : log (before ++ after) = log before ++ log after :=
  List.filterMap_append

@[simp] theorem log_ofLog (entries : List LogEntry) : log (ofLog entries : Trace I) = entries := by
  induction entries with
  | nil => rfl
  | cons entry entries ih => exact congrArg (entry :: ·) ih

end Trace

/-- What answers each request, knowing what was asked before it. -/
abbrev Environment (I : Interface) := (before : List I.Call) → (request : I.Call) → I.Answer request

namespace Program

/-- The program can show this trace and end with this value. -/
inductive Runs : Program I α → Trace I → α → Prop where
  | done (value : α) : Runs (.done value) [] value
  | emit {event : Event} {rest : Program I α} {trace : Trace I} {value : α}
      (hrest : Runs rest trace value) : Runs (.emit event rest) (.said event :: trace) value
  | call {request : I.Call} {next : I.Answer request → Program I α} {trace : Trace I} {value : α}
      (answer : I.Answer request) (hnext : Runs (next answer) trace value) :
      Runs (.call request next) (.asked request answer :: trace) value

variable {p : Program I α} {f : α → Program I β} {trace : Trace I} {value : α} {result : β}

/-- Two programs that put the same request are one if they go on alike with every answer. -/
theorem call_congr {request : I.Call} {next other : I.Answer request → Program I α}
    (h : ∀ answer, next answer = other answer) : call request next = call request other :=
  congrArg (call request) (funext h)

/-- A program that has ended shows nothing more. -/
@[simp] theorem runs_done_iff {ended : α} :
    Runs (.done ended : Program I α) trace value ↔ trace = [] ∧ value = ended := by
  constructor
  · intro hruns
    cases hruns
    exact ⟨rfl, rfl⟩
  · rintro ⟨rfl, rfl⟩
    exact .done _

/-- What a program says is seen first. -/
@[simp] theorem runs_emit_iff {event : Event} :
    Runs (.emit event p) trace value ↔ ∃ rest, trace = .said event :: rest ∧ Runs p rest value := by
  constructor
  · intro hruns
    cases hruns with
    | emit hrest => exact ⟨_, rfl, hrest⟩
  · rintro ⟨rest, rfl, hrest⟩
    exact .emit hrest

/-- A request is seen with its answer, and the answer decides how the program goes on. -/
@[simp] theorem runs_call_iff {request : I.Call} {next : I.Answer request → Program I α} :
    Runs (.call request next) trace value ↔
      ∃ answer rest, trace = .asked request answer :: rest ∧ Runs (next answer) rest value := by
  constructor
  · intro hruns
    cases hruns with
    | call answer hnext => exact ⟨answer, _, rfl, hnext⟩
  · rintro ⟨answer, rest, rfl, hnext⟩
    exact .call answer hnext

/-- A program that puts one request and ends with what it makes of the answer. -/
theorem runs_ask_iff {request : I.Call} {next : I.Answer request → α} :
    Runs (.call request fun answer => .done (next answer)) trace value ↔
      ∃ answer, trace = [.asked request answer] ∧ value = next answer := by
  constructor
  · intro hruns
    obtain ⟨answer, _, rfl, hdone⟩ := runs_call_iff.mp hruns
    obtain ⟨rfl, rfl⟩ := runs_done_iff.mp hdone
    exact ⟨answer, rfl, rfl⟩
  · rintro ⟨answer, rfl, rfl⟩
    exact .call answer (.done _)

/-- **A run of two programs in a row is a run of the first and then one of the second.** -/
theorem runs_bind_iff :
    Runs (p.bind f) trace result ↔
      ∃ before after value, trace = before ++ after ∧ Runs p before value ∧
        Runs (f value) after result := by
  -- On the first program. Each of its nodes is the first sign of the trace, in both directions.
  induction p generalizing trace with
  | done ended =>
    constructor
    · intro hruns
      exact ⟨[], trace, ended, rfl, .done ended, hruns⟩
    · rintro ⟨before, after, value, rfl, hfirst, hsecond⟩
      obtain ⟨rfl, rfl⟩ := runs_done_iff.mp hfirst
      exact hsecond
  | emit event rest ih =>
    constructor
    · intro hruns
      obtain ⟨tail, rfl, htail⟩ := runs_emit_iff.mp hruns
      obtain ⟨before, after, value, rfl, hfirst, hsecond⟩ := ih.mp htail
      exact ⟨_, after, value, rfl, .emit hfirst, hsecond⟩
    · rintro ⟨before, after, value, rfl, hfirst, hsecond⟩
      obtain ⟨tail, rfl, htail⟩ := runs_emit_iff.mp hfirst
      exact .emit (ih.mpr ⟨tail, after, value, rfl, htail, hsecond⟩)
  | call request next ih =>
    constructor
    · intro hruns
      obtain ⟨answer, tail, rfl, htail⟩ := runs_call_iff.mp hruns
      obtain ⟨before, after, value, rfl, hfirst, hsecond⟩ := (ih answer).mp htail
      exact ⟨_, after, value, rfl, .call answer hfirst, hsecond⟩
    · rintro ⟨before, after, value, rfl, hfirst, hsecond⟩
      obtain ⟨answer, tail, rfl, htail⟩ := runs_call_iff.mp hfirst
      exact .call answer ((ih answer).mpr ⟨tail, after, value, rfl, htail, hsecond⟩)

/-- A run of two attempts in a row ends with the failure of the first, or is a run of the first that has
succeeded and then one of the second. -/
theorem runs_andThen_iff {ε : Type} {p : Program I (Except ε α)} {f : α → Program I (Except ε β)}
    {outcome : Except ε β} :
    Runs (p.andThen f) trace outcome ↔
      (∃ error, outcome = .error error ∧ Runs p trace (.error error)) ∨
        ∃ before after value, trace = before ++ after ∧ Runs p before (.ok value) ∧
          Runs (f value) after outcome := by
  rw [andThen, runs_bind_iff]
  constructor
  · rintro ⟨before, after, first, rfl, hfirst, hsecond⟩
    -- A failure ends both, so all that is seen is of the first.
    cases first with
    | ok value => exact .inr ⟨before, after, value, rfl, hfirst, hsecond⟩
    | error error =>
      obtain ⟨rfl, rfl⟩ := runs_done_iff.mp hsecond
      rw [List.append_nil]
      exact .inl ⟨error, rfl, hfirst⟩
  · rintro (⟨error, rfl, hfirst⟩ | ⟨before, after, value, rfl, hfirst, hsecond⟩)
    · exact ⟨trace, [], _, (List.append_nil _).symm, hfirst, .done _⟩
    · exact ⟨before, after, _, rfl, hfirst, hsecond⟩

/-- Something is made of the value of an attempt. -/
theorem runs_andThen_done_iff {ε : Type} {p : Program I (Except ε α)} {f : α → β} {outcome : Except ε β} :
    Runs (p.andThen fun value => .done (.ok (f value))) trace outcome ↔
      ∃ first, Runs p trace first ∧ outcome = first.map f := by
  rw [runs_andThen_iff]
  constructor
  · rintro (⟨error, rfl, hfirst⟩ | ⟨before, after, value, rfl, hfirst, hdone⟩)
    · exact ⟨_, hfirst, rfl⟩
    · obtain ⟨rfl, rfl⟩ := runs_done_iff.mp hdone
      rw [List.append_nil]
      exact ⟨_, hfirst, rfl⟩
  · rintro ⟨first, hfirst, rfl⟩
    cases first with
    | error error => exact .inl ⟨error, rfl, hfirst⟩
    | ok value => exact .inr ⟨trace, [], value, (List.append_nil _).symm, hfirst, .done _⟩

/-- Log entries are seen in their order, and then the rest of the program. -/
@[simp] theorem runs_logAll_iff {entries : List LogEntry} :
    Runs (logAll entries p) trace value ↔
      ∃ rest, trace = Trace.ofLog entries ++ rest ∧ Runs p rest value := by
  induction entries generalizing trace with
  | nil =>
    constructor
    · intro hruns
      exact ⟨trace, rfl, hruns⟩
    · rintro ⟨rest, rfl, hrest⟩
      exact hrest
  | cons entry entries ih =>
    constructor
    · intro hruns
      obtain ⟨tail, rfl, htail⟩ := runs_emit_iff.mp hruns
      obtain ⟨rest, rfl, hrest⟩ := ih.mp htail
      exact ⟨rest, rfl, hrest⟩
    · rintro ⟨rest, rfl, hrest⟩
      exact .emit (ih.mpr ⟨rest, rfl, hrest⟩)

/-- A program stops where it stops: no trace of a run goes on as another. -/
theorem Runs.unique_of_append {before before' after after' : Trace I} {other : α}
    (hruns : Runs p before value) (hother : Runs p before' other) (htrace : before ++ after = before' ++ after') :
    before = before' ∧ value = other := by
  -- On the one run. The other one shows the same sign first, and an answer fixes how both go on.
  induction hruns generalizing before' with
  | done ended =>
    obtain ⟨rfl, rfl⟩ := runs_done_iff.mp hother
    exact ⟨rfl, rfl⟩
  | emit hrest ih =>
    obtain ⟨rest, rfl, hrest⟩ := runs_emit_iff.mp hother
    obtain ⟨rfl, hsame⟩ := ih hrest (List.cons.inj htrace).2
    exact ⟨rfl, hsame⟩
  | call answer hnext ih =>
    obtain ⟨answer, rest, rfl, hnext⟩ := runs_call_iff.mp hother
    obtain ⟨hanswer, hrest⟩ := List.cons.inj htrace
    cases hanswer
    obtain ⟨rfl, hsame⟩ := ih hnext hrest
    exact ⟨rfl, hsame⟩

/-- The run in which every request gets the answer that it is due. -/
def follow (answers : (request : I.Call) → I.Answer request) : Program I α → Trace I × α
  | .done value => ([], value)
  | .emit event rest =>
    let (trace, value) := follow answers rest
    (.said event :: trace, value)
  | .call request next =>
    let (trace, value) := follow answers (next (answers request))
    (.asked request (answers request) :: trace, value)

/-- A program never gets stuck. -/
theorem runs_follow (answers : (request : I.Call) → I.Answer request) (p : Program I α) :
    Runs p (follow answers p).1 (follow answers p).2 := by
  induction p with
  | done value => exact .done value
  | emit event rest ih => exact .emit ih
  | call request next ih => exact .call (answers request) (ih (answers request))

/-- In the run that follows some answers every request has got its answer. -/
theorem answer_of_mem_follow {answers : (request : I.Call) → I.Answer request} {p : Program I α} {request : I.Call}
    {answer : I.Answer request} (hmem : .asked request answer ∈ (follow answers p).1) : answer = answers request := by
  induction p with
  | done => cases hmem
  | emit event rest ih =>
    rcases List.mem_cons.mp hmem with hmem | hmem
    · cases hmem
    · exact ih hmem
  | call other next ih =>
    rcases List.mem_cons.mp hmem with hmem | hmem
    · cases hmem
      rfl
    · exact ih _ hmem

/-! ## Environments -/

/-- The run in an environment that was asked for `before` already. -/
def play (environment : Environment I) (before : List I.Call) : Program I α → Trace I × α
  | .done value => ([], value)
  | .emit event rest =>
    let (trace, value) := play environment before rest
    (.said event :: trace, value)
  | .call request next =>
    let (trace, value) := play environment (before ++ [request]) (next (environment before request))
    (.asked request (environment before request) :: trace, value)

/-- There is a run in every environment. -/
theorem runs_play (environment : Environment I) (before : List I.Call) (p : Program I α) :
    Runs p (play environment before p).1 (play environment before p).2 := by
  induction p generalizing before with
  | done value => exact .done value
  | emit event rest ih => exact .emit (ih before)
  | call request next ih => exact .call _ (ih _ _)

end Program

end HciTransport
