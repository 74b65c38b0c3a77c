import HciTransport.Error.System

/-!
# Input and output errors

An error is a number of the system, a bare kind, or a kind with a text of its own.
-/

namespace HciTransport

inductive IoError where
  /-- Reported by the system. -/
  | system (number : Int)
  /-- Nothing but a kind. -/
  | bare (kind : ErrorKind)
  /-- Made by a program. -/
  | custom (kind : ErrorKind) (text : String)
  deriving DecidableEq, Repr

namespace IoError

def text : IoError → String
  | .system number => (SystemError.entry number).text ++ " (os error " ++ toString number ++ ")"
  | .bare kind => kind.description
  | .custom _ text => text

def errorKind : IoError → ErrorKind
  | .system number => (SystemError.entry number).kind
  | .bare kind => kind
  | .custom kind _ => kind

/-- Only errors of the system have a number. -/
def number? : IoError → Option Int
  | .system number => some number
  | _ => none

end IoError

end HciTransport
