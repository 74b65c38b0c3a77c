import HciTransport.Bytes

/-!
# Fields of a record

A field is some bytes and the place where they start. Whether a record has a field is a matter of the bytes
there and of no others (`RecordField.In`), and for a number or a string of bytes it is the same as reading it
there (`in_u16_iff` and its like). Fields that lie one behind the other leave nothing out and do not touch
each other (`Abutting`): a record that joins them has each of them, and it is what comes of storing them in
turn.
-/

namespace HciTransport

/-! ## Bytes of a record -/

namespace Bytes

variable {record other before after : Bytes} {i : Nat}

theorem byteAt_append_left (hi : i < before.length) : byteAt (before ++ after) i = byteAt before i := by
  simp [byteAt, List.getElem?_append_left hi]

theorem byteAt_append_right : byteAt (before ++ after) (before.length + i) = byteAt after i := by
  simp only [byteAt, List.getD_eq_getElem?_getD, List.getElem?_append_right (Nat.le_add_right ..),
    Nat.add_sub_cancel_left]

/-- Zeroes behind the bytes make no difference, since that is what is read there anyway. -/
theorem byteAt_append_zeros (bytes : Bytes) (size : Nat) : byteAt (bytes ++ zeros size) i = byteAt bytes i := by
  rcases Nat.lt_or_ge i bytes.length with hlow | hhigh
  · exact byteAt_append_left hlow
  · obtain ⟨j, rfl⟩ := Nat.exists_eq_add_of_le hhigh
    rw [byteAt_append_right, byteAt_zeros]
    simp [byteAt]

/-- Records of one length have the byte in common if it is read alike. -/
theorem getElem?_eq_of_byteAt (hlength : record.length = other.length)
    (hsame : i < other.length → byteAt record i = byteAt other i) : record[i]? = other[i]? := by
  rcases Nat.lt_or_ge i other.length with hi | hbehind
  · have hrecord : i < record.length := Nat.lt_of_lt_of_eq hi hlength.symm
    have hbyte := hsame hi
    rw [byteAt, byteAt, List.getD_eq_getElem?_getD, List.getD_eq_getElem?_getD, List.getElem?_eq_getElem hrecord,
      List.getElem?_eq_getElem hi] at hbyte
    rw [List.getElem?_eq_getElem hrecord, List.getElem?_eq_getElem hi]
    exact congrArg some hbyte
  · rw [List.getElem?_eq_none hbehind, List.getElem?_eq_none (Nat.le_trans (Nat.le_of_eq hlength) hbehind)]

end Bytes

open Bytes

/-! ## Fields -/

/-- Bytes of a record, and where they start. -/
structure RecordField where
  start : Nat
  bytes : Bytes

namespace RecordField

variable {record before gap : Bytes} {start i : Nat} {field : RecordField} {fields : List RecordField}

/-- The record has these bytes there. -/
def In (field : RecordField) (record : Bytes) : Prop :=
  ∀ i < field.bytes.length, byteAt record (field.start + i) = byteAt field.bytes i

/-- Puts the bytes there; the rest stays. -/
def store (record : Bytes) (field : RecordField) : Bytes :=
  record.take field.start ++ overlay field.bytes (record.drop field.start)

/-! ## What a field reads as -/

theorem in_byte_iff {b : UInt8} : In ⟨start, [b]⟩ record ↔ byteAt record start = b := by
  constructor
  · intro hin
    exact hin 0 Nat.zero_lt_one
  · rintro rfl i hi
    obtain rfl : i = 0 := Nat.lt_one_iff.mp hi
    rfl

/-- A field of several parts is there if the parts are. -/
theorem in_append_iff {bytes more : Bytes} :
    In ⟨start, bytes ++ more⟩ record ↔ In ⟨start, bytes⟩ record ∧ In ⟨start + bytes.length, more⟩ record := by
  constructor
  · intro hin
    refine ⟨fun i hi => ?_, fun i hi => ?_⟩
    · have hsame := hin i (by simp at hi ⊢; omega)
      exact hsame.trans (byteAt_append_left hi)
    · have hsame := hin (bytes.length + i) (by simp at hi ⊢; omega)
      rw [Nat.add_assoc]
      exact hsame.trans byteAt_append_right
  · rintro ⟨hfirst, hsecond⟩ i hi
    -- A place is in the one part or in the other.
    rcases Nat.lt_or_ge i bytes.length with hlow | hhigh
    · exact (hfirst i hlow).trans (byteAt_append_left hlow).symm
    · obtain ⟨j, rfl⟩ := Nat.exists_eq_add_of_le hhigh
      have hsame := hsecond j (by simp at hi ⊢; omega)
      rw [Nat.add_assoc] at hsame
      exact hsame.trans byteAt_append_right.symm

/-- A number of two bytes is there if it is read there. -/
theorem in_u16_iff {x : UInt16} : In ⟨start, ofU16 x⟩ record ↔ u16At record start = x := by
  have hx := x.toNat_lt
  have hlow := (byteAt record start).toNat_lt
  have hhigh := (byteAt record (start + 1)).toNat_lt
  rw [show ofU16 x = [UInt8.ofNat x.toNat] ++ [UInt8.ofNat (x.toNat / 256)] from rfl, in_append_iff, in_byte_iff,
    in_byte_iff, List.length_singleton, u16At]
  simp only [← UInt8.toNat_inj, ← UInt16.toNat_inj, UInt8.toNat_ofNat', UInt16.toNat_ofNat']
  omega

theorem in_u32_iff {x : UInt32} : In ⟨start, ofU32 x⟩ record ↔ u32At record start = x := by
  have hx := x.toNat_lt
  have hlow := (u16At record start).toNat_lt
  have hhigh := (u16At record (start + 2)).toNat_lt
  -- Four bytes are two numbers of two.
  rw [ofU32, in_append_iff, in_u16_iff, in_u16_iff, length_ofU16, u32At]
  simp only [← UInt16.toNat_inj, ← UInt32.toNat_inj, UInt16.toNat_ofNat', UInt32.toNat_ofNat']
  omega

/-- A string of bytes is there if it is read there. -/
theorem in_bytes_iff {size : Nat} {bytes : Vector UInt8 size} :
    In ⟨start, bytes.toList⟩ record ↔ bytesAt record start size = bytes := by
  constructor
  · intro hin
    ext i hi
    have hsame := hin i (by simpa using hi)
    rw [bytesAt, Vector.getElem_ofFn, hsame]
    simp [byteAt, hi]
  · rintro rfl i hi
    have hi : i < size := by simpa using hi
    simp [byteAt, bytesAt, hi]

/-- What is there is what is read. -/
theorem toList_bytesAt {bytes : Bytes} {size : Nat} (hin : In ⟨start, bytes⟩ record) (hlength : bytes.length = size) :
    (bytesAt record start size).toList = bytes := by
  have hsame : bytesAt record start size = ⟨bytes.toArray, hlength⟩ := in_bytes_iff.mp hin
  rw [hsame]
  rfl

/-! ## Fields one behind the other -/

/-- From here on the fields lie one behind the other. -/
def Abutting : Nat → List RecordField → Prop
  | _, [] => True
  | start, field :: fields => field.start = start ∧ Abutting (start + field.bytes.length) fields

/-- The bytes of all fields, in order. -/
def joined (fields : List RecordField) : Bytes := fields.flatMap (·.bytes)

theorem joined_cons (field : RecordField) (fields : List RecordField) :
    joined (field :: fields) = field.bytes ++ joined fields := List.flatMap_cons

/-- A record that joins fields has each of them. -/
theorem in_joined (before : Bytes) (habutting : Abutting before.length fields) (hmem : field ∈ fields) (after : Bytes) :
    field.In (before ++ (joined fields ++ after)) := by
  -- Field by field; those that were passed are part of what stands before.
  induction fields generalizing before with
  | nil => cases hmem
  | cons first fields ih =>
    obtain ⟨hstart, hrest⟩ := habutting
    rw [joined_cons, List.append_assoc]
    rcases List.mem_cons.mp hmem with rfl | hmem
    · intro i hi
      rw [hstart, byteAt_append_right, byteAt_append_left hi]
    · rw [← List.length_append] at hrest
      rw [← List.append_assoc]
      exact ih _ hrest hmem

/-- They leave nothing out. -/
theorem exists_of_abutting (habutting : Abutting start fields) (hlow : start ≤ i)
    (hhigh : i < start + (joined fields).length) :
    ∃ field ∈ fields, field.start ≤ i ∧ i < field.start + field.bytes.length := by
  induction fields generalizing start with
  | nil => exact absurd hhigh (Nat.not_lt.mpr hlow)
  | cons first fields ih =>
    obtain ⟨rfl, hrest⟩ := habutting
    -- In this field, or behind it and so in one of the others.
    rcases Nat.lt_or_ge i (first.start + first.bytes.length) with hinside | hbehind
    · exact ⟨first, List.mem_cons_self, hlow, hinside⟩
    · rw [joined_cons, List.length_append, ← Nat.add_assoc] at hhigh
      obtain ⟨field, hmem, hfield⟩ := ih hrest hbehind hhigh
      exact ⟨field, List.mem_cons_of_mem _ hmem, hfield⟩

/-- What is there is replaced by the fields that are stored. -/
theorem foldl_store (before : Bytes) (habutting : Abutting before.length fields)
    (hlength : gap.length = (joined fields).length) (after : Bytes) :
    fields.foldl store (before ++ (gap ++ after)) = before ++ (joined fields ++ after) := by
  induction fields generalizing before gap with
  | nil =>
    obtain rfl := List.length_eq_zero_iff.mp hlength
    rfl
  | cons first fields ih =>
    obtain ⟨hstart, hrest⟩ := habutting
    rw [joined_cons, List.length_append] at hlength
    have hfits : first.bytes.length ≤ (gap ++ after).length := by
      rw [List.length_append]
      omega
    -- The first field takes the place of as many bytes of the gap.
    have hstored : store (before ++ (gap ++ after)) first =
        (before ++ first.bytes) ++ (gap.drop first.bytes.length ++ after) := by
      rw [store, hstart, List.take_left, List.drop_left, overlay_of_le hfits,
        List.drop_append_of_le_length (by omega), List.append_assoc]
    have hleft : (gap.drop first.bytes.length).length = (joined fields).length := by
      rw [List.length_drop]
      omega
    rw [← List.length_append] at hrest
    rw [List.foldl_cons, hstored, ih _ hrest hleft, joined_cons, List.append_assoc, List.append_assoc]

end RecordField

end HciTransport
