import HciTransport.Bytes

/-!
# Reading UTF-8 that may be broken

Every byte string is read as some text: a well-formed sequence is its character, and each maximal
part of a sequence that breaks off, like each byte that starts none, becomes one replacement
character. Reading goes byte by byte and carries at most one unfinished sequence.
-/

namespace HciTransport.Utf8

/-- Stands for each part that is not well formed. -/
def replacement : Char := Char.ofNat 0xFFFD

/-- A sequence that has begun: the value of its bits so far, the range its next byte has to be in,
and how many bytes follow that one. -/
structure Unfinished where
  value : Nat
  low : Nat
  high : Nat
  more : Nat
  deriving DecidableEq, Repr

/-- What a byte at the start of a sequence means. -/
inductive Lead where
  | whole (c : Char)
  | start (sequence : Unfinished)
  | invalid
  deriving DecidableEq, Repr

/-- The ranges of the second byte leave out what would be written longer than necessary, the
surrogates, and everything past the last code point. -/
def lead (b : Nat) : Lead :=
  if b < 0x80 then .whole (Char.ofNat b)
  else if b < 0xC2 then .invalid
  else if b < 0xE0 then .start ⟨b - 0xC0, 0x80, 0xBF, 0⟩
  else if b < 0xF0 then
    .start ⟨b - 0xE0, if b = 0xE0 then 0xA0 else 0x80, if b = 0xED then 0x9F else 0xBF, 1⟩
  else if b < 0xF5 then
    .start ⟨b - 0xF0, if b = 0xF0 then 0x90 else 0x80, if b = 0xF4 then 0x8F else 0xBF, 2⟩
  else .invalid

/-- Reads on from where a sequence may be unfinished. -/
def decodeFrom : Option Unfinished → Bytes → List Char
  | none, [] => []
  | some _, [] => [replacement]
  | none, b :: rest =>
    match lead b.toNat with
    | .whole c => c :: decodeFrom none rest
    | .start sequence => decodeFrom (some sequence) rest
    | .invalid => replacement :: decodeFrom none rest
  | some sequence, b :: rest =>
    if sequence.low ≤ b.toNat ∧ b.toNat ≤ sequence.high then
      let value := sequence.value * 64 + (b.toNat - 0x80)
      match sequence.more with
      | 0 => Char.ofNat value :: decodeFrom none rest
      | more + 1 => decodeFrom (some ⟨value, 0x80, 0xBF, more⟩) rest
    else
      -- The broken part counts once, and this byte may start a sequence of its own.
      match lead b.toNat with
      | .whole c => replacement :: c :: decodeFrom none rest
      | .start next => replacement :: decodeFrom (some next) rest
      | .invalid => replacement :: replacement :: decodeFrom none rest

def decode (bytes : Bytes) : String := String.ofList (decodeFrom none bytes)

/-- The bytes of a text. -/
def encode (text : String) : Bytes := text.toByteArray.toList

example : decodeFrom none [0xE6, 0x97, 0xA5, 0xE6, 0x97] = [Char.ofNat 0x65E5, replacement] := by decide
example : decodeFrom none [0xE0, 0x80, 0x80] = [replacement, replacement, replacement] := by decide
example : decodeFrom none [0xF0, 0x9F, 0x98, 0x80, 0xFF] = [Char.ofNat 0x1F600, replacement] := by decide

end HciTransport.Utf8
