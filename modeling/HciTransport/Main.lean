import HciTransport.CommandLine.Run
import HciTransport.RawSocket

/-!
# The command line

Runs a command and prints what it says. The runtime has no sockets of the controllers' family, so
making one fails here as it does on a system that does not know the family; every command then ends
as it would there.
-/

namespace HciTransport.CommandLine

/-- A system without sockets for controllers: none can be made, and there is none to use. -/
def withoutSockets : (call : KernelCall) → call.Answer
  | .socket _ _ _ => ⟨-1, SystemError.addressFamilyNotSupported⟩
  | .control _ _ _ | .bind _ _ | .write _ _ | .close _ => ⟨-1, SystemError.badDescriptor⟩
  | .deviceInfo _ _ record => (⟨-1, SystemError.badDescriptor⟩, record)
  | .deviceList _ _ request => (⟨-1, SystemError.badDescriptor⟩, request)
  | .poll _ _ _ _ => (⟨-1, SystemError.badDescriptor⟩, 0)
  | .read _ _ => (⟨-1, SystemError.badDescriptor⟩, [])

/-- Performs a program, saying what it says as it goes. -/
def perform {α : Type} (limit : LogLevel) : Program Kernel α → IO α
  | .done value => pure value
  | .emit (.log entry) rest => do
    if entry.level.passes limit then IO.eprintln entry.text
    perform limit rest
  | .emit (.line text) rest => do
    IO.println text
    perform limit rest
  | .call request next => perform limit (next (withoutSockets request))

/-- More frames than any run will see. -/
def frameBudget : Nat := UInt64.size

end HciTransport.CommandLine

open HciTransport HciTransport.CommandLine in
def main (words : List String) : IO UInt32 := do
  match Arguments.parse words with
  | .error error =>
    IO.eprintln error.message
    return UInt32.ofNat usageStatus
  | .ok arguments =>
    let program := RawSocket.lower (arguments.command.run frameBudget) .absent
    let (_, outcome) ← perform arguments.logLimit program
    outcome.report.forM IO.eprintln
    return UInt32.ofNat (outcome.status?.getD 1)
