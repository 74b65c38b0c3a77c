import HciTransport.Log

/-!
# Programs

A program is a tree: it ends with a value, says something, or puts a request to its environment and
goes on with the answer. An `Interface` fixes the requests and the type of answer each one takes.
Every path through the tree is one run, so a statement about all answers is one about all paths.
`Program.bind_assoc` and its neighbours say that programs compose as one expects.
-/

namespace HciTransport

/-- The requests that a program may put, and what answers each of them. -/
structure Interface where
  Call : Type
  Answer : Call → Type

/-- What a program says without waiting for an answer. -/
inductive Event where
  | log (entry : LogEntry)
  /-- A line on standard output. -/
  | line (text : String)
  deriving DecidableEq, Repr

/-- A program over the requests of an interface. -/
inductive Program (I : Interface) (α : Type) where
  | done (value : α)
  | emit (event : Event) (rest : Program I α)
  | call (request : I.Call) (next : I.Answer request → Program I α)

namespace Program

variable {I : Interface} {α β γ ε : Type}

/-- Goes on with the value that a program ends with. -/
def bind : Program I α → (α → Program I β) → Program I β
  | .done value, f => f value
  | .emit event rest, f => .emit event (bind rest f)
  | .call request next, f => .call request fun answer => bind (next answer) f

instance : Monad (Program I) where
  pure := .done
  bind := bind

def log (entry : LogEntry) : Program I Unit := .emit (.log entry) (.done ())

def logAll (entries : List LogEntry) (rest : Program I α) : Program I α :=
  entries.foldr (fun entry rest => .emit (.log entry) rest) rest

/-- Goes on with the value of a program that succeeded; a failure ends both. -/
def andThen (p : Program I (Except ε α)) (f : α → Program I (Except ε β)) :
    Program I (Except ε β) :=
  p.bind fun
    | .ok value => f value
    | .error error => .done (.error error)

/-! ### Composition -/

@[simp] theorem bind_done (p : Program I α) : p.bind .done = p := by
  induction p with
  | done => rfl
  | emit event rest ih => simp [bind, ih]
  | call request next ih => simp [bind, ih]

@[simp] theorem done_bind (value : α) (f : α → Program I β) : (done value).bind f = f value := rfl

theorem bind_assoc (p : Program I α) (f : α → Program I β) (g : β → Program I γ) :
    (p.bind f).bind g = p.bind fun value => (f value).bind g := by
  induction p with
  | done => rfl
  | emit event rest ih => simp [bind, ih]
  | call request next ih => simp [bind, ih]

end Program

end HciTransport
