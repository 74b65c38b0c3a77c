import HciTransport.Proofs.Device.Record
import HciTransport.Proofs.Text.Lossy

/-!
# The name of a controller

A record holds a name of at most eight bytes, and these may be anything. What stands before the first zero is the
name's own (`exists_nameBytes`); it is read as the one text that it stands for, so the name is bounded by it and is
it byte for byte if it is valid (`FaithfulName`). What stands behind the zero, or elsewhere in the record, makes no
difference (`nameBytes_congr`).
-/

namespace HciTransport.DeviceInfo

open Bytes

variable {record other : Bytes}

/-! ## The bytes of a name -/

theorem toList_bytesAt_eq {offset size : Nat} (hfits : offset + size ≤ record.length) :
    (bytesAt record offset size).toList = (record.drop offset).take size := by
  refine List.ext_getElem (by simp; omega) fun i hi hi' => ?_
  have hsize : i < size := by simpa using hi
  simp [bytesAt, byteAt, List.getElem?_eq_getElem (show offset + i < record.length by omega)]

/-- The name ends at the first zero, or it fills its field. -/
theorem exists_nameBytes (hlength : record.length = Layout.size) :
    ∃ behind, (record.drop Layout.name).take Layout.nameSize = nameBytes record ++ behind ∧
      (behind = [] ∨ ∃ stale, behind = 0 :: stale) := by
  have hfits : Layout.name + Layout.nameSize ≤ record.length := by
    rw [hlength]
    decide
  refine ⟨(bytesAt record Layout.name Layout.nameSize).toList.dropWhile (· ≠ 0), ?_, ?_⟩
  · rw [← toList_bytesAt_eq hfits, nameBytes, List.takeWhile_append_dropWhile]
  · generalize (bytesAt record Layout.name Layout.nameSize).toList = field
    cases hbehind : field.dropWhile (· ≠ 0) with
    | nil => exact .inl rfl
    | cons b stale =>
      have hzero := List.head?_dropWhile_not (· ≠ 0) field
      rw [hbehind] at hzero
      exact .inr ⟨stale, by simpa using hzero⟩

theorem zero_notMem_nameBytes (record : Bytes) : 0 ∉ nameBytes record := by
  intro hmem
  have hne := List.all_eq_true.mp List.all_takeWhile 0 hmem
  exact absurd hne (by decide)

/-- The bytes before the first that fails, and that one, decide where it is. -/
theorem takeWhile_congr {α : Type} {p : α → Bool} {bytes other : List α}
    (hsame : ∀ i ≤ (bytes.takeWhile p).length, other[i]? = bytes[i]?) : other.takeWhile p = bytes.takeWhile p := by
  induction bytes generalizing other with
  | nil =>
    -- The other cannot go on, as the place behind the last counts too.
    have hnone := hsame 0 (Nat.le_refl 0)
    cases other with
    | nil => rfl
    | cons => simp at hnone
  | cons b bytes ih =>
    have hhead := hsame 0 (Nat.zero_le _)
    cases other with
    | nil => simp at hhead
    | cons b' other =>
      obtain rfl : b' = b := by simpa using hhead
      cases hb : p b' with
      | false => rw [List.takeWhile_cons_of_neg (by simp [hb]), List.takeWhile_cons_of_neg (by simp [hb])]
      | true =>
        rw [List.takeWhile_cons_of_pos hb] at hsame ⊢
        rw [List.takeWhile_cons_of_pos hb, ih fun i hi => hsame (i + 1) (Nat.succ_le_succ hi)]

/-- Only the name's own bytes matter, and the zero behind them. -/
theorem nameBytes_congr (hlength : record.length = Layout.size) (hother : other.length = Layout.size)
    (hsame : ∀ i ≤ (nameBytes record).length, i < Layout.nameSize →
      other[Layout.name + i]? = record[Layout.name + i]?) : nameBytes other = nameBytes record := by
  have hfits : Layout.name + Layout.nameSize ≤ Layout.size := by decide
  refine takeWhile_congr fun i hi => ?_
  rw [toList_bytesAt_eq (by rwa [hother]), toList_bytesAt_eq (by rwa [hlength]), List.getElem?_take, List.getElem?_take,
    List.getElem?_drop, List.getElem?_drop]
  split
  · exact hsame i hi ‹_›
  · rfl

/-! ## The main result -/

/-- What the name that is read from a record has to do with the bytes there. -/
structure FaithfulName (record : Bytes) : Prop where
  /-- The bytes are those of the field up to the first zero, or all eight. -/
  bytes : ∃ behind, (record.drop Layout.name).take Layout.nameSize = nameBytes record ++ behind ∧
    (behind = [] ∨ ∃ stale, behind = 0 :: stale)
  no_zero : 0 ∉ nameBytes record
  /-- They are read as the one text that they stand for, broken parts included. -/
  lossy : ∀ text, Utf8.Lossy (nameBytes record) text ↔ text = (decode record).name.toList
  no_nul : '\x00' ∉ (decode record).name.toList
  length : (decode record).name.length ≤ (nameBytes record).length ∧ (nameBytes record).length ≤ Layout.nameSize
  exact : (nameBytes record).toByteArray.IsValidUTF8 → Utf8.encode (decode record).name = nameBytes record
  size : (decode record).name.utf8ByteSize ≤ 3 * (nameBytes record).length
  replaced : ¬ (nameBytes record).toByteArray.IsValidUTF8 → Utf8.replacement ∈ (decode record).name.toList
  /-- A name that was read is a name that can be written and read. -/
  again : Utf8.decode (Utf8.encode (decode record).name) = (decode record).name
  /-- No byte but these and the zero behind them matters. -/
  local_bytes : ∀ other : Bytes, other.length = Layout.size →
    (∀ i ≤ (nameBytes record).length, i < Layout.nameSize → other[Layout.name + i]? = record[Layout.name + i]?) →
      (decode other).name = (decode record).name

/-- **The name of a controller is bounded by its bytes and faithful to them.** -/
theorem faithfulName (record : Bytes) (hlength : record.length = Layout.size) : FaithfulName record := by
  have hname : (decode record).name.toList = Utf8.decodeFrom none (nameBytes record) := String.toList_ofList
  -- All that is said of the name follows from its being the one text of its bytes.
  have hlossy : Utf8.Lossy (nameBytes record) (decode record).name.toList := Utf8.lossy_iff.mpr hname
  refine
    { bytes := exists_nameBytes hlength
      no_zero := zero_notMem_nameBytes record
      lossy := fun text => ?_
      no_nul := fun hmem => zero_notMem_nameBytes record (hlossy.nul_mem hmem)
      length := ⟨?_, length_nameBytes_le record⟩
      exact := Utf8.encode_decode
      size := ?_
      replaced := fun hinvalid => ?_
      again := Utf8.decode_encode _
      local_bytes := fun other hother hsame => ?_ }
  · rw [hname]
    exact Utf8.lossy_iff
  · exact hlossy.length_le
  · rw [← Utf8.length_encode, Utf8.encode_eq]
    exact hlossy.length_encode_le
  · -- Without a replacement the bytes would be those of a text, and so valid.
    refine Decidable.byContradiction fun hnone => hinvalid ⟨(decode record).name.toList, ?_⟩
    rw [List.utf8Encode, ← hlossy.encoded hnone]
  · have hbytes := nameBytes_congr hlength hother hsame
    exact congrArg Utf8.decode hbytes

/-- A record with a name that its zero cuts short within a character. -/
def tornRecord : Bytes := [1, 0, 0x61, 0xF0, 0x9F, 0x98, 0, 0x80, 0x7A, 0x7A] ++ zeros 82

/-- What is left of the character is one replacement, and what stands behind the zero makes no difference. -/
theorem faithfulName_tornRecord :
    tornRecord.length = Layout.size ∧ nameBytes tornRecord = [0x61, 0xF0, 0x9F, 0x98] ∧
      ¬ (nameBytes tornRecord).toByteArray.IsValidUTF8 ∧
      Utf8.Lossy (nameBytes tornRecord) ['a', Utf8.replacement] ∧
      Utf8.replacement ∈ (decode tornRecord).name.toList := by
  have hlength : tornRecord.length = Layout.size := by decide
  have hfaithful := faithfulName tornRecord hlength
  have hinvalid : ¬ (nameBytes tornRecord).toByteArray.IsValidUTF8 := by
    intro hvalid
    have hencode := hfaithful.exact hvalid
    rw [Utf8.encode_eq] at hencode
    exact absurd hencode (by decide)
  refine ⟨hlength, by decide, hinvalid, ?_, hfaithful.replaced hinvalid⟩
  exact (hfaithful.lossy _).mpr (by decide)

end HciTransport.DeviceInfo
