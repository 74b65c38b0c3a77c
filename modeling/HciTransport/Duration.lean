/-!
# Durations

A span of time as whole seconds and nanoseconds below one second. The kernel is told how long to wait in
milliseconds, in a signed word of 32 bits, which is a small part of what a duration can hold. So the milliseconds
are counted in a word wide enough for all of them, and cut to the longest wait there is before they are narrowed;
narrowed first, a long wait would come out short or, as a negative number, without end.
-/

namespace HciTransport

structure Duration where
  seconds : UInt64
  nanos : Fin 1000000000
  deriving DecidableEq, Repr

namespace Duration

def inNanos (d : Duration) : Nat := d.seconds.toNat * 1000000000 + d.nanos

/-- Whole milliseconds, rounded down. -/
def inMillis (d : Duration) : BitVec 128 :=
  d.seconds.toBitVec.setWidth 128 * 1000#128 + BitVec.ofNat 128 (d.nanos / 1000000)

def ofMillis (millis : UInt64) : Duration :=
  ⟨millis / 1000, ⟨millis.toNat % 1000 * 1000000, by omega⟩⟩

/-- The longest wait that the kernel can be told, in milliseconds. -/
def longestWait : BitVec 128 := 2147483647#128

/-- The wait that the kernel is told. -/
def pollMillis (d : Duration) : Int32 :=
  .ofBitVec ((if d.inMillis ≤ longestWait then d.inMillis else longestWait).setWidth 32)

/-- No duration has more milliseconds than the word holds. -/
theorem toNat_inMillis (d : Duration) : d.inMillis.toNat = d.inNanos / 1000000 := by
  have hseconds : d.seconds.toNat < 2 ^ 64 := d.seconds.toNat_lt
  have hnanos : d.nanos.val < 1000000000 := d.nanos.isLt
  simp only [inMillis, inNanos, BitVec.toNat_add, BitVec.toNat_mul, BitVec.toNat_setWidth, BitVec.toNat_ofNat,
    UInt64.toNat_toBitVec]
  omega

/-- What is narrowed fits the narrow word, with its sign. -/
theorem toInt_pollMillis (d : Duration) : d.pollMillis.toInt = min (d.inNanos / 1000000 : Nat) 2147483647 := by
  rw [← toNat_inMillis, pollMillis, Int32.toInt_ofBitVec]
  have hlongest : longestWait.toNat = 2147483647 := rfl
  split
  · next hfits =>
    rw [BitVec.le_def, hlongest] at hfits
    rw [BitVec.toInt_eq_toNat_of_lt] <;> rw [BitVec.toNat_setWidth] <;> omega
  · next hlong =>
    rw [BitVec.le_def, hlongest] at hlong
    have hcut : (longestWait.setWidth 32).toInt = 2147483647 := by decide
    omega

theorem inNanos_ofMillis (millis : UInt64) : (ofMillis millis).inNanos = millis.toNat * 1000000 := by
  simp only [ofMillis, inNanos, UInt64.toNat_div, UInt64.reduceToNat]
  omega

end Duration

end HciTransport
