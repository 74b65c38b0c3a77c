import HciTransport.Error.Hci
import HciTransport.Bytes

/-!
# Byte streams

A channel read or written as a stream reports stream errors. Two loops fill a buffer or send a whole
text through calls that may do less than was asked for: a call that was interrupted is made again,
and one that does nothing ends the loop. The loops know nothing of channels; they go through any
state by any reading or writing step.
-/

namespace HciTransport.Stream

/-- How one step of a loop went; `none` if it did not return. -/
abbrev Tried := Option (Except IoError Nat)

/-- The stream ended before the buffer was full. -/
def endOfStream : IoError := .custom .unexpectedEof "failed to fill whole buffer"

/-- The stream takes nothing more, though there is more to send. -/
def takesNothing : IoError := .custom .writeZero "failed to write whole buffer"

/-- The call was interrupted and may be made again. -/
def isInterrupted (error : IoError) : Bool := error.errorKind = .interrupted

/-- Reads until the buffer is full. `filled` is done and `room` is still to be filled; a step is given
the room that is left and says what it stored there. A step that counts more bytes than there was
room for ends the loop as one that does not return. `fuel` bounds the steps. -/
def readExact {σ : Type} (read : σ → Nat → σ × Bytes × Tried) :
    (fuel : Nat) → σ → (filled room : Bytes) → σ × Option (Except IoError Bytes)
  | 0, state, _, _ => (state, none)
  | fuel + 1, state, filled, room =>
    if room.isEmpty then (state, some (.ok filled))
    else
      let (state, stored, tried) := read state room.length
      let room := Bytes.overlay stored room
      match tried with
      | none => (state, none)
      | some (.ok 0) => (state, some (.error endOfStream))
      | some (.ok count) =>
        if room.length < count then (state, none)
        else readExact read fuel state (filled ++ room.take count) (room.drop count)
      | some (.error error) =>
        if isInterrupted error then readExact read fuel state filled room
        else (state, some (.error error))

/-- Writes until nothing is left; ends as `readExact` does. -/
def writeAll {σ : Type} (write : σ → Bytes → σ × Tried) :
    (fuel : Nat) → σ → (rest : Bytes) → σ × Option (Except IoError Unit)
  | 0, state, _ => (state, none)
  | fuel + 1, state, rest =>
    if rest.isEmpty then (state, some (.ok ()))
    else
      let (state, tried) := write state rest
      match tried with
      | none => (state, none)
      | some (.ok 0) => (state, some (.error takesNothing))
      | some (.ok count) =>
        if rest.length < count then (state, none) else writeAll write fuel state (rest.drop count)
      | some (.error error) =>
        if isInterrupted error then writeAll write fuel state rest else (state, some (.error error))

end HciTransport.Stream
