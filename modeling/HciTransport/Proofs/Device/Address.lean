import HciTransport.Proofs.Device.Field
import HciTransport.Proofs.Text.Hex
import HciTransport.Proofs.Text.Pieces
import HciTransport.Device.Info

/-!
# What the text of a device address tells

The text has a group of two digits for each byte, the last byte first. A digit is no colon, so the groups are found
again where the text is split (`groups_text`), and each of them is read as its byte (`value?_pair`). So an address is
known from its text (`text_inj`), and two records have addresses of one text exactly if they have the same bytes where
the address stands (`ReversibleText`).
-/

namespace HciTransport

namespace Hex

/-- The text is made of digits in upper case. -/
def IsUpper (text : String) : Prop := ∀ c ∈ text.toList, c ∈ "0123456789ABCDEF".toList

theorem upperDigit_mem {n : Nat} (small : n < 16) : upperDigit n ∈ "0123456789ABCDEF".toList := by
  rcases n with _ | _ | _ | _ | _ | _ | _ | _ | _ | _ | _ | _ | _ | _ | _ | _ | n
  all_goals first | decide | omega

/-- A byte is written in two digits. -/
theorem isUpper_pair (b : UInt8) : IsUpper (String.ofList (pair upperDigit b)) := by
  have hbyte : b.toNat < 256 := b.toNat_lt
  intro c hmem
  simp only [pair, String.toList_ofList, List.mem_cons, List.not_mem_nil, or_false] at hmem
  rcases hmem with rfl | rfl
  · exact upperDigit_mem (by omega)
  · exact upperDigit_mem (by omega)

theorem IsUpper.not_mem {text : String} {c : Char} (hupper : IsUpper text) (hc : c ∉ "0123456789ABCDEF".toList) :
    c ∉ text.toList := fun hmem => hc (hupper c hmem)

/-- Two digits are read as the byte that they were written for. -/
theorem value?_pair (b : UInt8) : value? (pair upperDigit b) = some b.toNat := by
  have hbyte : b.toNat < 256 := b.toNat_lt
  have hhigh : b.toNat / 16 < 16 := by omega
  have hlow : b.toNat % 16 < 16 := by omega
  -- The first digit stands for sixteens, and the second for what is left.
  have hfirst : value? ([] ++ [upperDigit (b.toNat / 16)]) = some (16 * 0 + b.toNat / 16) :=
    value?_concat rfl (digitValue?_upperDigit hhigh)
  have hboth := value?_concat hfirst (digitValue?_upperDigit hlow)
  rw [Nat.mul_zero, Nat.zero_add, Nat.div_add_mod] at hboth
  exact hboth

end Hex

namespace DeviceAddress

variable {address other : DeviceAddress}

/-- The groups of a text between colons. -/
def groups (text : String) : List String := Text.pieces ':' text

/-- **There is a group for each byte, from the last one to the first.** -/
theorem groups_text (address : DeviceAddress) :
    groups address.text =
      address.bytes.toList.reverse.map fun b => String.ofList (Hex.pair Hex.upperDigit b) := by
  refine @Text.pieces_intercalate ':' _ ?_ fun group hmem => ?_
  -- There are six bytes, so there is a group.
  · have hlength : address.bytes.toList.length = 6 := address.bytes.length_toList
    intro hnone
    rw [List.map_eq_nil_iff, List.reverse_eq_nil_iff] at hnone
    rw [hnone] at hlength
    cases hlength
  · obtain ⟨b, -, rfl⟩ := List.mem_map.mp hmem
    exact (Hex.isUpper_pair b).not_mem (by decide)

/-- The numbers that the groups spell, from the last group to the first, are the bytes. -/
theorem values_groups (address : DeviceAddress) :
    (groups address.text).reverse.map (fun group => Hex.value? group.toList) =
      address.bytes.toList.map fun b => some b.toNat := by
  rw [groups_text, ← List.map_reverse, List.reverse_reverse, List.map_map]
  refine List.map_congr_left fun b _ => ?_
  show Hex.value? (String.ofList _).toList = _
  rw [String.toList_ofList, Hex.value?_pair]

/-- An address is known from its text. -/
theorem text_inj : address.text = other.text ↔ address = other := by
  constructor
  · intro htext
    -- The groups of one text spell one row of numbers.
    have hvalues := values_groups address
    rw [htext, values_groups other] at hvalues
    have hbytes : other.bytes.toList = address.bytes.toList :=
      (List.map_inj_right fun b b' hsame => UInt8.toNat_inj.mp (Option.some.inj hsame)).mp hvalues
    obtain ⟨bytes⟩ := address
    obtain ⟨bytes'⟩ := other
    exact congrArg mk (Vector.toList_inj.mp hbytes).symm
  · rintro rfl
    rfl

/-! ## Addresses of records -/

variable {record record' : Bytes}

/-- Two records have the same bytes somewhere if each byte is read alike. -/
theorem bytesAt_eq_iff {start size : Nat} : Bytes.bytesAt record start size = Bytes.bytesAt record' start size ↔
    ∀ i < size, Bytes.byteAt record (start + i) = Bytes.byteAt record' (start + i) := by
  rw [Vector.ext_iff]
  simp only [Bytes.bytesAt, Vector.getElem_ofFn]

/-- Whole records have one address exactly if they have the bytes of the address in common. -/
theorem decode_address_eq_iff (hlength : record.length = Layout.size) (hlength' : record'.length = Layout.size) :
    (DeviceInfo.decode record).address = (DeviceInfo.decode record').address ↔
      ∀ i, 10 ≤ i → i < 16 → record[i]? = record'[i]? := by
  have haddress : (DeviceInfo.decode record).address = (DeviceInfo.decode record').address ↔
      ∀ i < 6, Bytes.byteAt record (10 + i) = Bytes.byteAt record' (10 + i) := by
    rw [← bytesAt_eq_iff]
    exact Iff.of_eq (DeviceAddress.mk.injEq _ _)
  rw [haddress]
  constructor
  · intro hsame i hlow hhigh
    obtain ⟨j, rfl⟩ := Nat.exists_eq_add_of_le hlow
    exact Bytes.getElem?_eq_of_byteAt (hlength.trans hlength'.symm) fun _ => hsame j (by omega)
  · intro hsame i hi
    simp only [Bytes.byteAt, List.getD_eq_getElem?_getD]
    rw [hsame (10 + i) (by omega) (by omega)]

/-! ## The main result -/

/-- What the text of an address has to do with its bytes. -/
structure ReversibleText : Prop where
  /-- It is six groups with a colon between them, each of two digits in upper case. -/
  six : ∀ address : DeviceAddress, (groups address.text).length = 6 ∧
    ":".intercalate (groups address.text) = address.text ∧
      ∀ group ∈ groups address.text, group.length = 2 ∧ Hex.IsUpper group
  /-- The groups read as numbers are the bytes, the last group being the first byte. -/
  reversed : ∀ address : DeviceAddress,
    (groups address.text).reverse.map (fun group => Hex.value? group.toList) =
      address.bytes.toList.map fun b => some b.toNat
  /-- Two records have addresses of one text exactly if they agree on the bytes 10 to 15. -/
  same : ∀ record record' : Bytes, record.length = Layout.size → record'.length = Layout.size →
    ((DeviceInfo.decode record).address.text = (DeviceInfo.decode record').address.text ↔
      ∀ i, 10 ≤ i → i < 16 → record[i]? = record'[i]?)

/-- **The text of an address is exact, and its bytes are read back from it.** -/
theorem reversibleText : ReversibleText where
  six address := by
    refine ⟨?_, ?_, fun group hmem => ?_⟩
    · rw [groups_text, List.length_map, List.length_reverse]
      exact address.bytes.length_toList
    · rw [groups_text]
      rfl
    · rw [groups_text] at hmem
      obtain ⟨b, -, rfl⟩ := List.mem_map.mp hmem
      exact ⟨String.length_ofList, Hex.isUpper_pair b⟩
  reversed := values_groups
  same _ _ hlength hlength' := text_inj.trans (decode_address_eq_iff hlength hlength')

/-- A record of zeroes but for the bytes of the address. -/
def recordAt (bytes : Bytes) : Bytes := Bytes.zeros 10 ++ bytes ++ Bytes.zeros 76

/-- An address with a byte of one digit, and the same with two bytes swapped. -/
theorem reversibleText_swapped :
    (recordAt [0x05, 0, 0, 0, 0, 0x50]).length = Layout.size ∧
      (recordAt [0x50, 0, 0, 0, 0, 0x05]).length = Layout.size ∧
      (DeviceInfo.decode (recordAt [0x05, 0, 0, 0, 0, 0x50])).address.text = "50:00:00:00:00:05" ∧
      (DeviceInfo.decode (recordAt [0x05, 0, 0, 0, 0, 0x50])).address.text ≠
        (DeviceInfo.decode (recordAt [0x50, 0, 0, 0, 0, 0x05])).address.text := by
  have hlength : (recordAt [0x05, 0, 0, 0, 0, 0x50]).length = Layout.size := by decide
  have hlength' : (recordAt [0x50, 0, 0, 0, 0, 0x05]).length = Layout.size := by decide
  refine ⟨hlength, hlength', by decide, fun htext => ?_⟩
  have hbytes := (reversibleText.same _ _ hlength hlength').mp htext 10 (by decide) (by decide)
  exact absurd hbytes (by decide)

end DeviceAddress

end HciTransport
