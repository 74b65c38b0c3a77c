import HciTransport.Channel.Step

/-!
# Operations at the same time

A system is a gate and the points of all operations that were ever started on it. In each step of a
run one operation takes one step, or a new one starts. A request in progress may be answered in any
way and at any time, or be abandoned. Nothing is said about which operation goes next.
-/

namespace HciTransport.Channel

structure System where
  gate : Gate
  points : List Point

/-- A channel that was just opened, and no operation yet. -/
def System.opened : System := ⟨.opened, []⟩

/-- What happens in one step; operations are numbered in the order of their start. -/
inductive Occurrence where
  | started (operation : Nat) (point : Point)
  | stepped (operation : Nat) (log : List LogEntry)
  | began (operation : Nat) (pending : Pending)
  | answered (operation : Nat) (pending : Pending) (answer : pending.call.Answer) (log : List LogEntry)
  | abandoned (operation : Nat) (pending : Pending)

/-- What callers ask for; the end of the channel is not among it. -/
inductive Asked : Point → Prop where
  | read (length : Nat) : Asked (.read length)
  | write (frame : Bytes) : Asked (.write frame)
  | close : Asked .close

inductive Step (devId : UInt16) : System → Occurrence → System → Prop where
  | start {system : System} {point : Point} (asked : Asked point) :
      Step devId system (.started system.points.length point)
        ⟨system.gate, system.points ++ [point]⟩
  | go {system : System} {operation : Nat} {point next : Point} {gate : Gate} {log : List LogEntry}
      (here : system.points[operation]? = some point)
      (moves : advance devId system.gate point = .step gate log next) :
      Step devId system (.stepped operation log) ⟨gate, system.points.set operation next⟩
  | begin {system : System} {operation : Nat} {point : Point} {pending : Pending}
      (here : system.points[operation]? = some point)
      (moves : advance devId system.gate point = .begin pending) :
      Step devId system (.began operation pending)
        ⟨system.gate, system.points.set operation (.inside pending)⟩
  | answer {system : System} {operation : Nat} {pending : Pending} (answer : pending.call.Answer)
      (here : system.points[operation]? = some (.inside pending)) :
      Step devId system (.answered operation pending answer (resume devId pending answer).2)
        ⟨system.gate, system.points.set operation (resume devId pending answer).1⟩
  | abandon {system : System} {operation : Nat} {pending : Pending}
      (here : system.points[operation]? = some (.inside pending)) :
      Step devId system (.abandoned operation pending)
        ⟨system.gate, system.points.set operation (.unwinding pending)⟩

/-- What may have happened on a channel since it was opened, and how it stands now. -/
inductive Run (devId : UInt16) : List Occurrence → System → Prop where
  | opened : Run devId [] .opened
  | step {history : List Occurrence} {system next : System} {occurrence : Occurrence}
      (before : Run devId history system) (step : Step devId system occurrence next) :
      Run devId (history ++ [occurrence]) next

end HciTransport.Channel
