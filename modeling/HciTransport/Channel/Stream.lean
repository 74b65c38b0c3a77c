import HciTransport.Channel.Point

/-!
# A channel as a byte stream

A stream reads and writes by the channel's own calls, one for each of its own, and reports what they
return; only an error takes the form that streams know. It holds nothing back, so a flush has nothing
to do. How a call of the channel is run, and in what company, is left to `own`.
-/

namespace HciTransport

/-- A count or an error, as a stream reports it. -/
def streamed (outcome : Except HciError Nat) : Except IoError Nat := outcome.mapError HciError.toIoError

namespace Channel

/-- How a call of a stream ends. -/
inductive StreamEnd (α : Type) where
  | returned (value : α)
  /-- The channel's own call has not returned; it rests at this point. -/
  | resting (point : Point)

variable {σ : Type}

/-- Reads through a stream: the channel's own read, and its error as a stream reports it. -/
def streamRead (own : σ → Point → σ × Point) (state : σ) (length : Nat) :
    σ × StreamEnd (Receipt IoError) :=
  match own state (.read length) with
  | (state, .ended (.returned (.read receipt))) =>
    (state, .returned ⟨receipt.stored, streamed receipt.outcome⟩)
  | (state, point) => (state, .resting point)

/-- Writes through a stream, in the same way. -/
def streamWrite (own : σ → Point → σ × Point) (state : σ) (frame : Bytes) :
    σ × StreamEnd (Except IoError Nat) :=
  match own state (.write frame) with
  | (state, .ended (.returned (.write outcome))) => (state, .returned (streamed outcome))
  | (state, point) => (state, .resting point)

/-- Flushes a stream; the channel is asked for nothing. -/
def streamFlush (state : σ) : σ × StreamEnd (Except IoError Unit) := (state, .returned (.ok ()))

end Channel

end HciTransport
