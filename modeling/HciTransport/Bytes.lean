/-!
# Bytes: little-endian fields and partly filled buffers

A field is read out of a record at an offset and written as a string of bytes. The kernel lays a
record out in the byte order of the machine, and the machine is taken to be little-endian: this is an
assumption about the target, and on a machine of the other order the wide fields would come out
reversed. `overlay` is what a buffer holds after a call stored some bytes at its start: the length
never changes.
-/

namespace HciTransport

/-- A string of bytes: a frame, a record, the contents of a buffer. -/
abbrev Bytes := List UInt8

namespace Bytes

/-- The byte at an offset; past the end everything reads as zero. -/
def byteAt (record : Bytes) (offset : Nat) : UInt8 := record.getD offset 0

/-- The two bytes at an offset as one number, in the byte order of the machine. That is taken to be
little-endian, so the lower byte comes first. -/
def u16At (record : Bytes) (offset : Nat) : UInt16 :=
  UInt16.ofNat ((byteAt record offset).toNat + 256 * (byteAt record (offset + 1)).toNat)

/-- Four bytes as one number, in the same order. -/
def u32At (record : Bytes) (offset : Nat) : UInt32 :=
  UInt32.ofNat ((u16At record offset).toNat + 65536 * (u16At record (offset + 2)).toNat)

/-- The `size` bytes from an offset on. -/
def bytesAt (record : Bytes) (offset size : Nat) : Vector UInt8 size :=
  Vector.ofFn fun i => byteAt record (offset + i)

/-- A number as it stands in a record, in the byte order of the machine: little-endian, as for
`u16At`. -/
def ofU16 (x : UInt16) : Bytes := [UInt8.ofNat x.toNat, UInt8.ofNat (x.toNat / 256)]

/-- Four bytes in the same order, the lower half first. -/
def ofU32 (x : UInt32) : Bytes := ofU16 (UInt16.ofNat x.toNat) ++ ofU16 (UInt16.ofNat (x.toNat / 65536))

def zeros (size : Nat) : Bytes := List.replicate size 0

/-- A buffer after `stored` was put at its start; what does not fit is lost. -/
def overlay (stored buffer : Bytes) : Bytes := stored.take buffer.length ++ buffer.drop stored.length

@[simp] theorem length_zeros (size : Nat) : (zeros size).length = size := List.length_replicate ..

@[simp] theorem length_ofU16 (x : UInt16) : (ofU16 x).length = 2 := rfl

@[simp] theorem length_ofU32 (x : UInt32) : (ofU32 x).length = 4 := rfl

@[simp] theorem length_overlay (stored buffer : Bytes) :
    (overlay stored buffer).length = buffer.length := by
  simp [overlay]; omega

/-- A store that fits shows whole, followed by what was there. -/
theorem overlay_of_le {stored buffer : Bytes} (fits : stored.length ≤ buffer.length) :
    overlay stored buffer = stored ++ buffer.drop stored.length := by
  simp [overlay, List.take_of_length_le fits]

/-- A record starts over as zeroes, so a byte past its end and a fresh byte read the same. -/
@[simp] theorem byteAt_zeros (size offset : Nat) : byteAt (zeros size) offset = 0 := by
  simp only [byteAt, zeros, List.getD_eq_getElem?_getD, List.getElem?_replicate]
  split <;> rfl

/-- A field written behind `before` reads back at that offset, whatever follows. -/
theorem u16At_append (before after : Bytes) (x : UInt16) :
    u16At (before ++ (ofU16 x ++ after)) before.length = x := by
  have small : x.toNat < 65536 := x.toNat_lt
  have low : byteAt (before ++ (ofU16 x ++ after)) before.length = UInt8.ofNat x.toNat := by
    simp [byteAt, ofU16]
  have high : byteAt (before ++ (ofU16 x ++ after)) (before.length + 1) = UInt8.ofNat (x.toNat / 256) := by
    simp [byteAt, ofU16]
  apply UInt16.toNat_inj.1
  simp only [u16At, low, high, UInt16.toNat_ofNat', UInt8.toNat_ofNat']
  omega

end Bytes

end HciTransport
