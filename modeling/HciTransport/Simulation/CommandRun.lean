import HciTransport.CommandLine.Run
import HciTransport.Simulation.World

/-!
# Command lines in a world

Runs a command line over the played kernel and collects all that it leaves behind.
-/

namespace HciTransport.Simulation

open HciTransport.CommandLine (Arguments Outcome)

/-- What a command left behind. -/
structure CommandReport where
  status : Option Nat
  stdout : String
  stderr : List String
  log : List LogEntry
  calls : List String

/-- Runs a command line; `none` if it makes no sense. A script can bring a dump no more frames than
it has replies. -/
def runCommand (words : List String) (script : Script) : Option CommandReport :=
  match Arguments.parse words with
  | .error _ => none
  | .ok arguments =>
    let world : World := { level := .kernel, script := script }
    let (world, _, _, ended) := world.run .absent (arguments.command.run (script.size + 1))
    let outcome := ended.getD .unfinished
    some
      { status := outcome.status?
        stdout := String.join (world.lines.toList.map (· ++ "\n"))
        stderr := outcome.report
        log := world.log.toList.filter fun entry => entry.level.passes arguments.logLimit
        calls := world.calls.toList }

end HciTransport.Simulation
