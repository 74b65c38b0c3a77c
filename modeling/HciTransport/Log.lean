import HciTransport.Error.Hci

/-!
# Log entries

What the transport tells about its work, one constructor for each thing it has to say.
-/

namespace HciTransport

/-- How much an entry matters, most important first. -/
inductive LogLevel where
  | warn
  | info
  | debug
  | trace
  deriving DecidableEq, Repr

namespace LogLevel

def name : LogLevel → String
  | .warn => "WARN"
  | .info => "INFO"
  | .debug => "DEBUG"
  | .trace => "TRACE"

def rank : LogLevel → Nat
  | .warn => 0
  | .info => 1
  | .debug => 2
  | .trace => 3

/-- An entry of this level passes a filter set to `limit`. -/
def passes (level limit : LogLevel) : Bool := level.rank ≤ limit.rank

end LogLevel

inductive LogEntry where
  /-- A control operation is about to be issued. -/
  | control (devId : UInt16) (op : ControlOp)
  | bound (devId : UInt16)
  /-- Stale input was thrown away after binding. -/
  | drained (devId : UInt16) (count : Nat)
  | drainReadFailed (devId : UInt16) (cause : IoError)
  | drainPollFailed (devId : UInt16) (cause : IoError)
  | probing (candidates : List UInt16)
  | notAvailable (devId : UInt16) (error : HciError)
  | frameRead (devId : UInt16) (count : Nat)
  | frameWritten (devId : UInt16) (count : Nat)
  | alreadyClosed (devId : UInt16)
  | closeFrameFailed (devId : UInt16) (cause : IoError)
  | closing (devId : UInt16)
  /-- A read holds the descriptor, and gives it back when it returns. -/
  | releaseDeferred (devId : UInt16)
  /-- The descriptor could not be given back and nobody else will be told. -/
  | closeFailed (devId : UInt16) (error : HciError)
  | opened (devId : UInt16)
  deriving DecidableEq, Repr

namespace LogEntry

def level : LogEntry → LogLevel
  | .closeFrameFailed .. | .closeFailed .. => .warn
  | .opened .. => .info
  | .drained .. | .frameRead .. | .frameWritten .. => .trace
  | _ => .debug

/-- An entry that begins with the name of its controller. -/
def about (devId : UInt16) (text : String) : String := hciName devId ++ ": " ++ text

def message : LogEntry → String
  | .control devId op => about devId op.text
  | .bound devId => about devId "bound to user channel"
  | .drained devId count => about devId ("discarded " ++ toString count ++ " stale bytes")
  | .drainReadFailed devId cause => about devId ("drain read failed: " ++ cause.text)
  | .drainPollFailed devId cause => about devId ("drain poll failed: " ++ cause.text)
  | .probing candidates =>
    "probing " ++ toString candidates.length ++ " controller(s): ["
      ++ ", ".intercalate (candidates.map fun devId => toString devId.toNat) ++ "]"
  | .notAvailable devId error => about devId ("not available: " ++ error.message)
  | .frameRead devId count => about devId ("read " ++ toString count ++ " bytes")
  | .frameWritten devId count => about devId ("wrote " ++ toString count ++ " bytes")
  | .alreadyClosed devId => about devId "already closed"
  | .closeFrameFailed devId cause => about devId ("failed to send close frame: " ++ cause.text)
  | .closing devId => about devId "closing user channel"
  | .releaseDeferred devId => about devId "read in flight, release deferred"
  | .closeFailed devId error => about devId error.message
  | .opened devId => "opened user channel on " ++ hciName devId

/-- The level and the message. -/
def text (entry : LogEntry) : String := entry.level.name ++ " " ++ entry.message

end LogEntry

end HciTransport
