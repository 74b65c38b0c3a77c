import HciTransport.Device.Info
import HciTransport.Proofs.Device.Field
import HciTransport.Proofs.Text.Utf8

/-!
# Device records are exact

`DeviceInfo.fields` lists the fields of a record with the bytes that describe a controller, each where the
layout has it. They lie one behind the other, but for the padding (`abutting_leading`, `abutting_trailing`).
So a record that is written has all of them, and reading them gives the description back; and a record that
is read has all of them before it is written, so that it is written as it was, but for what belongs to no
field: the padding, and whatever stands behind the end of the name.
-/

namespace HciTransport.DeviceInfo

open Bytes RecordField

variable {record : Bytes} {info : DeviceInfo} {field : RecordField} {i : Nat}

/-! ## The fields -/

/-- The name, padded with zeroes. -/
def nameField (info : DeviceInfo) : RecordField :=
  ⟨Layout.name, overlay (Utf8.encode info.name) (zeros Layout.nameSize)⟩

/-- The fields before the padding. -/
def leading (info : DeviceInfo) : List RecordField :=
  [⟨Layout.devId, ofU16 info.devId⟩, info.nameField, ⟨Layout.address, info.address.bytes.toList⟩,
    ⟨Layout.flags, ofU32 info.flags.bits⟩, ⟨Layout.devType, [info.devType]⟩, ⟨Layout.features, info.features.toList⟩]

/-- The fields after the padding. -/
def trailing (info : DeviceInfo) : List RecordField :=
  [⟨Layout.pktType, ofU32 info.pktType⟩, ⟨Layout.linkPolicy, ofU32 info.linkPolicy⟩,
    ⟨Layout.linkMode, ofU32 info.linkMode⟩, ⟨Layout.aclMtu, ofU16 info.aclMtu⟩, ⟨Layout.aclPkts, ofU16 info.aclPkts⟩,
    ⟨Layout.scoMtu, ofU16 info.scoMtu⟩, ⟨Layout.scoPkts, ofU16 info.scoPkts⟩] ++
  info.stats.toList.zipIdx.map fun (count, index) => ⟨Layout.stat index, ofU32 count⟩

/-- All fields of a record. -/
def fields (info : DeviceInfo) : List RecordField := info.leading ++ info.trailing

/-- The fields before the padding lie one behind the other, from the start of the record. -/
theorem abutting_leading (info : DeviceInfo) : Abutting 0 info.leading := by
  simp [leading, nameField, Abutting, Layout.devId, Layout.name, Layout.nameSize, Layout.address, Layout.flags,
    Layout.devType, Layout.features]

theorem length_leading (info : DeviceInfo) : (joined info.leading).length = Layout.padding := by
  simp [leading, nameField, joined, Layout.nameSize, Layout.padding]

/-- The fields after the padding lie one behind the other, from its end. -/
theorem abutting_trailing (info : DeviceInfo) : Abutting (Layout.padding + Layout.paddingSize) info.trailing := by
  simp [trailing, DeviceStats.toList, Abutting, Layout.padding, Layout.paddingSize, Layout.pktType, Layout.linkPolicy,
    Layout.linkMode, Layout.aclMtu, Layout.aclPkts, Layout.scoMtu, Layout.scoPkts, Layout.stat, Layout.stats]

theorem length_trailing (info : DeviceInfo) :
    Layout.padding + Layout.paddingSize + (joined info.trailing).length = Layout.size := by
  simp [trailing, DeviceStats.toList, joined, Layout.padding, Layout.paddingSize, Layout.size]

/-- A record is made of the fields, with the padding between. -/
theorem encode_eq_joined (info : DeviceInfo) :
    encode info = joined info.leading ++ (zeros Layout.paddingSize ++ joined info.trailing) := by
  simp [encode, leading, nameField, trailing, DeviceStats.toList, joined]

/-- What comes behind the padding starts where it should. -/
theorem abutting_behind (info : DeviceInfo) :
    Abutting (joined info.leading ++ zeros Layout.paddingSize).length info.trailing := by
  rw [List.length_append, length_leading, length_zeros]
  exact abutting_trailing info

/-- A record is what comes of storing the fields in zeroes. -/
theorem encode_eq_foldl (info : DeviceInfo) : encode info = info.fields.foldl store (zeros Layout.size) := by
  -- The zeroes are split as the fields are, so that each part can be replaced by itself.
  have hzeros : zeros Layout.size = [] ++ (zeros Layout.padding ++
      (zeros Layout.paddingSize ++ zeros (joined info.trailing).length)) := by
    simp only [zeros, List.nil_append, List.replicate_append_replicate, ← Nat.add_assoc, length_trailing]
  have hlength : (zeros Layout.padding).length = (joined info.leading).length := by
    rw [length_zeros, length_leading]
  have hleading := foldl_store [] (abutting_leading info) hlength
    (zeros Layout.paddingSize ++ zeros (joined info.trailing).length)
  have htrailing := foldl_store _ (abutting_behind info) (length_zeros _) []
  rw [List.append_nil, List.append_nil, List.append_assoc, List.append_assoc] at htrailing
  rw [encode_eq_joined, fields, List.foldl_append, hzeros, hleading, List.nil_append, htrailing]

/-- A record that is written has all fields. -/
theorem in_encode (hmem : field ∈ info.fields) : field.In (encode info) := by
  rw [encode_eq_joined]
  rcases List.mem_append.mp hmem with hmem | hmem
  · exact in_joined [] (abutting_leading info) hmem _
  · have hin := in_joined _ (abutting_behind info) hmem []
    rwa [List.append_nil, List.append_assoc] at hin

/-- Every byte but the padding is part of a field. -/
theorem exists_field (info : DeviceInfo) (hi : i < Layout.size)
    (hpadding : i < Layout.padding ∨ Layout.padding + Layout.paddingSize ≤ i) :
    ∃ field ∈ info.fields, field.start ≤ i ∧ i < field.start + field.bytes.length := by
  -- The fields lie in two rows, and the place is in one of them.
  rcases hpadding with hbefore | hafter
  · obtain ⟨field, hmem, hfield⟩ := exists_of_abutting (abutting_leading info) (Nat.zero_le i)
      (by rwa [length_leading, Nat.zero_add])
    exact ⟨field, List.mem_append_left _ hmem, hfield⟩
  · obtain ⟨field, hmem, hfield⟩ := exists_of_abutting (abutting_trailing info) hafter
      (by rwa [length_trailing])
    exact ⟨field, List.mem_append_right _ hmem, hfield⟩

/-! ## The name -/

/-- A name that fits, without a zero in it, is read as it was written. -/
theorem nameBytes_of_in (hin : info.nameField.In record) (hnul : '\x00' ∉ info.name.toList)
    (hsize : info.name.utf8ByteSize ≤ Layout.nameSize) : nameBytes record = Utf8.encode info.name := by
  have hfits : (Utf8.encode info.name).length ≤ (zeros Layout.nameSize).length := by
    rwa [Utf8.length_encode, length_zeros]
  have hnone : ∀ b ∈ Utf8.encode info.name, decide (b ≠ 0) = true := fun b hmem =>
    decide_eq_true (Utf8.ne_zero_of_mem_encode hnul hmem)
  rw [nameBytes, toList_bytesAt hin (by rw [length_overlay, length_zeros]), overlay_of_le hfits,
    List.takeWhile_append_of_pos hnone, zeros, List.drop_replicate, List.takeWhile_replicate]
  simp

/-- The bytes before the first zero, and that zero. -/
theorem byteAt_takeWhile {bytes : Bytes} (hi : i ≤ (bytes.takeWhile (· ≠ 0)).length) :
    byteAt (bytes.takeWhile (· ≠ 0)) i = byteAt bytes i := by
  induction bytes generalizing i with
  | nil => rfl
  | cons b bytes ih =>
    -- At the first zero nothing is left, and reading past the end gives a zero too.
    by_cases hzero : b = 0
    · subst hzero
      obtain rfl : i = 0 := Nat.le_zero.mp hi
      rfl
    · have hmore : (b :: bytes).takeWhile (· ≠ 0) = b :: bytes.takeWhile (· ≠ 0) := by simp [hzero]
      rw [hmore] at hi ⊢
      cases i with
      | zero => rfl
      | succ i => exact ih (Nat.le_of_succ_le_succ hi)

/-! ## Reading and writing -/

/-- A record has all fields but perhaps the name, exactly if they are read from it. -/
theorem in_fields_iff : (∀ field ∈ info.fields, field.start ≠ Layout.name → field.In record) ↔
    { decode record with name := info.name } = info := by
  obtain ⟨devId, name, ⟨address⟩, ⟨flags⟩, devType, features, pktType, linkPolicy, linkMode, aclMtu, aclPkts, scoMtu,
    scoPkts, ⟨errRx, errTx, cmdTx, evtRx, aclTx, aclRx, scoTx, scoRx, byteRx, byteTx⟩⟩ := info
  -- Field by field both sides say what is read at one place.
  simp [fields, leading, nameField, trailing, DeviceStats.toList, decode, DeviceStats.decode, in_u16_iff, in_u32_iff,
    in_bytes_iff, in_byte_iff, Layout.devId, Layout.name, Layout.address, Layout.flags, Layout.devType,
    Layout.features, Layout.pktType, Layout.linkPolicy, Layout.linkMode, Layout.aclMtu, Layout.aclPkts,
    Layout.scoMtu, Layout.scoPkts, Layout.stat, Layout.stats]

theorem nameField_mem (info : DeviceInfo) : info.nameField ∈ info.fields :=
  List.mem_append_left _ (List.mem_cons_of_mem _ List.mem_cons_self)

/-- No other field starts there. -/
theorem eq_nameField (hmem : field ∈ info.fields) (hstart : field.start = Layout.name) : field = info.nameField := by
  -- The starts are numbers of the layout, and no two are the same.
  have hnames : ∀ field ∈ info.fields, field.start = Layout.name → field = info.nameField := by
    simp [fields, leading, nameField, trailing, DeviceStats.toList, Layout.devId, Layout.name, Layout.address,
      Layout.flags, Layout.devType, Layout.features, Layout.pktType, Layout.linkPolicy, Layout.linkMode, Layout.aclMtu,
      Layout.aclPkts, Layout.scoMtu, Layout.scoPkts, Layout.stat, Layout.stats]
  exact hnames field hmem hstart

theorem decode_with_name (record : Bytes) :
    { decode record with name := Utf8.decode (nameBytes record) } = decode record := rfl

/-- What was written is read back. -/
theorem decode_encode (hnul : '\x00' ∉ info.name.toList) (hsize : info.name.utf8ByteSize ≤ Layout.nameSize) :
    decode (encode info) = info := by
  -- The name has gone through its bytes, every other field through its own place.
  have hname : Utf8.decode (nameBytes (encode info)) = info.name := by
    rw [nameBytes_of_in (in_encode (nameField_mem info)) hnul hsize, Utf8.decode_encode]
  rw [← decode_with_name, hname]
  exact in_fields_iff.mp fun field hmem _ => in_encode hmem

/-- A controller of which nothing is known but its index. -/
def blank (devId : UInt16) : DeviceInfo where
  devId := devId
  name := ""
  address := ⟨.replicate 6 0⟩
  flags := ⟨0⟩
  devType := 0
  features := .replicate 8 0
  pktType := 0
  linkPolicy := 0
  linkMode := 0
  aclMtu := 0
  aclPkts := 0
  scoMtu := 0
  scoPkts := 0
  stats := ⟨0, 0, 0, 0, 0, 0, 0, 0, 0, 0⟩

/-- Who asks for a controller describes one of which nothing else is known. -/
theorem request_eq (devId : UInt16) : request devId = encode (blank devId) := by
  have hfits : (ofU16 devId).length ≤ (zeros Layout.size).length := by
    rw [length_ofU16, length_zeros]
    decide
  have hname : Utf8.encode "" = [] := Utf8.encode_eq ""
  rw [request, overlay_of_le hfits, length_ofU16, encode, blank, hname]
  simp only [List.append_assoc]
  exact congrArg (ofU16 devId ++ ·) (by decide)

/-! ## The main result -/

/-- A name has no more bytes than the layout gives it. -/
theorem length_nameBytes_le (record : Bytes) : (nameBytes record).length ≤ Layout.nameSize := by
  refine Nat.le_trans (List.takeWhile_sublist _).length_le ?_
  exact Nat.le_of_eq Vector.length_toList

/-- A name that is valid UTF-8 is written as it was, up to its end. -/
theorem byteAt_nameField (hvalid : (nameBytes record).toByteArray.IsValidUTF8) (hi : i ≤ (nameBytes record).length)
    (hsize : i < Layout.nameSize) :
    byteAt (decode record).nameField.bytes i = byteAt record (Layout.name + i) := by
  have hbytes : (decode record).nameField.bytes = overlay (nameBytes record) (zeros Layout.nameSize) := by
    rw [nameField, decode, Utf8.encode_decode hvalid]
  have hfits : (nameBytes record).length ≤ (zeros Layout.nameSize).length := by
    rw [length_zeros]
    exact length_nameBytes_le record
  rw [hbytes, overlay_of_le hfits, zeros, List.drop_replicate, ← zeros, byteAt_append_zeros]
  have hin : In ⟨Layout.name, (bytesAt record Layout.name Layout.nameSize).toList⟩ record := in_bytes_iff.mpr rfl
  rw [hin i (by rwa [Vector.length_toList])]
  exact byteAt_takeWhile hi

/-- What was read is written back, but for the padding and what stands behind the name. -/
theorem byteAt_encode_decode (hvalid : (nameBytes record).toByteArray.IsValidUTF8) (hi : i < Layout.size)
    (hpadding : i < Layout.padding ∨ Layout.padding + Layout.paddingSize ≤ i)
    (hname : i ≤ Layout.name + (nameBytes record).length ∨ Layout.name + Layout.nameSize ≤ i) :
    byteAt (encode (decode record)) i = byteAt record i := by
  obtain ⟨field, hmem, hlow, hhigh⟩ := exists_field (decode record) hi hpadding
  obtain ⟨j, rfl⟩ := Nat.exists_eq_add_of_le hlow
  have hj : j < field.bytes.length := Nat.lt_of_add_lt_add_left hhigh
  rw [in_encode hmem j hj]
  -- The name is the only field that may be written otherwise than it was read.
  by_cases hstart : field.start = Layout.name
  · obtain rfl := eq_nameField hmem hstart
    have hsize : j < Layout.nameSize := by simpa [nameField] using hj
    rw [byteAt_nameField hvalid (by omega) hsize, hstart]
  · exact (in_fields_iff.mpr rfl field hmem hstart j hj).symm

/-- Who asks for a controller sends a blank description of it. -/
theorem decode_request (devId : UInt16) : decode (request devId) = blank devId := by
  rw [request_eq]
  exact decode_encode (by simp [blank]) (Nat.zero_le _)

/-- What is read from records agrees with what is written to them. -/
structure ExactRecords : Prop where
  /-- A record is written by storing the fields in zeroes, each where the layout has it. -/
  written : ∀ info, encode info = info.fields.foldl store (zeros Layout.size)
  /-- What was written is read back, if the name fits and has no zero in it. -/
  read_back : ∀ info : DeviceInfo, '\x00' ∉ info.name.toList → info.name.utf8ByteSize ≤ Layout.nameSize →
    decode (encode info) = info
  /-- What was read is written back, if the name is valid UTF-8: every byte but the padding and the bytes behind
  the first zero of the name. -/
  written_back : ∀ record : Bytes, record.length = Layout.size → (nameBytes record).toByteArray.IsValidUTF8 →
    ∀ i, i < Layout.padding ∨ Layout.padding + Layout.paddingSize ≤ i →
      i ≤ Layout.name + (nameBytes record).length ∨ Layout.name + Layout.nameSize ≤ i →
        (encode (decode record))[i]? = record[i]?
  /-- A record that asks for a controller describes one of which nothing else is known. -/
  request_blank : ∀ devId, decode (request devId) = blank devId

/-- **Records are exact.** -/
theorem exactRecords : ExactRecords where
  written := encode_eq_foldl
  read_back _ := decode_encode
  written_back record hlength hvalid i hpadding hname := by
    have hsize : (encode (decode record)).length = record.length := (length_encode _).trans hlength.symm
    refine getElem?_eq_of_byteAt hsize fun hi => ?_
    exact byteAt_encode_decode hvalid (Nat.lt_of_lt_of_eq hi hlength) hpadding hname
  request_blank := decode_request

/-- A record with stale bytes behind the name and in the padding, and with unknown flags. -/
def staleRecord : Bytes :=
  [2, 0, 0x68, 0x63, 0x69, 0x32, 0, 0x7A, 0x7A, 0x7A] ++ (List.range 82).map fun i => UInt8.ofNat (i + 10)

/-- But for these bytes the record is written as it was read, unknown flags and all. -/
theorem exactRecords_staleRecord :
    nameBytes staleRecord = [0x68, 0x63, 0x69, 0x32] ∧ (decode staleRecord).flags = ⟨0x13121110⟩ ∧
      decode (encode (decode staleRecord)) = decode staleRecord ∧
      ∀ i, i < 7 ∨ 10 ≤ i → i < 29 ∨ 32 ≤ i → (encode (decode staleRecord))[i]? = staleRecord[i]? := by
  have hvalid : (nameBytes staleRecord).toByteArray.IsValidUTF8 := ⟨['h', 'c', 'i', '2'], by decide⟩
  have hname : (decode staleRecord).name = "hci2" := by decide
  refine ⟨by decide, by decide, ?_, fun i hi hpadding => ?_⟩
  · exact exactRecords.read_back _ (by rw [hname]; decide) (by rw [hname]; decide)
  · exact exactRecords.written_back _ (by decide) hvalid i hpadding (hi.imp Nat.le_of_lt_succ id)

end HciTransport.DeviceInfo
