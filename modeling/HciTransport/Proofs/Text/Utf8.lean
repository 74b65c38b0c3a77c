import HciTransport.Text.Utf8

/-!
# Text that was written is read back

The bytes of a character are one lead byte, which tells how many bytes follow and where the first of them
has to lie, and then bytes of six bits each; `Written` lists the four lengths. Reading these bytes gives the
character, whatever follows (`decodeFrom_char`). So a text is read back from its bytes (`decode_encode`), and
bytes that are valid UTF-8 are the bytes of the text that is read from them (`encode_decode`).
-/

namespace HciTransport.Utf8

/-! ## The bytes of a text -/

/-- Listing the bytes one by one collects them in reverse. -/
theorem collected (bytes : ByteArray) (i : Nat) (done : Bytes) :
    ByteArray.toList.loop bytes i done = done.reverse ++ bytes.data.toList.drop i := by
  fun_induction ByteArray.toList.loop bytes i done with
  | case1 i done hmore ih =>
    have hlength : i < bytes.data.toList.length := by simpa using hmore
    rw [ih, List.drop_eq_getElem_cons hlength]
    simp [ByteArray.get!, hmore]
  | case2 i done hover =>
    rw [List.drop_eq_nil_of_le (by simpa using Nat.le_of_not_lt hover), List.append_nil]

theorem toList_byteArray (bytes : ByteArray) : bytes.toList = bytes.data.toList := collected bytes 0 []

/-- The bytes of a text are those of its characters. -/
theorem encode_eq (text : String) : encode text = text.toList.flatMap String.utf8EncodeChar := by
  rw [encode, toList_byteArray, ← String.utf8Encode_toList, List.utf8Encode, List.toList_data_toByteArray]

/-- A text has as many bytes as it says. -/
theorem length_encode (text : String) : (encode text).length = text.utf8ByteSize := by
  rw [encode, toList_byteArray, Array.length_toList]
  rfl

/-! ## The bytes of a character -/

/-- A byte that carries the lowest six bits. -/
def tail (n : Nat) : UInt8 := UInt8.ofNat (n % 64 + 0x80)

theorem toNat_ofNat {n : Nat} (hn : n < 256) : (UInt8.ofNat n).toNat = n := by
  rw [UInt8.toNat_ofNat', Nat.mod_eq_of_lt hn]

theorem toNat_tail (n : Nat) : (tail n).toNat = n % 64 + 0x80 := toNat_ofNat (by omega)

/-- A lead byte carries what is left of the bits. -/
inductive Written (c : Char) : Bytes → Prop where
  | one (hhigh : c.toNat < 0x80) : Written c [UInt8.ofNat c.toNat]
  | two (hlow : 0x80 ≤ c.toNat) (hhigh : c.toNat < 0x800) :
      Written c [UInt8.ofNat (c.toNat / 64 + 0xC0), tail c.toNat]
  | three (hlow : 0x800 ≤ c.toNat) (hhigh : c.toNat < 0x10000) :
      Written c [UInt8.ofNat (c.toNat / 4096 + 0xE0), tail (c.toNat / 64), tail c.toNat]
  | four (hlow : 0x10000 ≤ c.toNat) :
      Written c [UInt8.ofNat (c.toNat / 262144 + 0xF0), tail (c.toNat / 4096), tail (c.toNat / 64), tail c.toNat]

theorem toNat_lt (c : Char) : c.toNat < 0x110000 := by
  rcases c.valid with hlow | ⟨-, hhigh⟩
  · exact Nat.lt_trans hlow (by decide)
  · exact hhigh

/-- The bytes of every character are of one of the four lengths. -/
theorem written (c : Char) : Written c (String.utf8EncodeChar c) := by
  have hlast := toNat_lt c
  fun_cases String.utf8EncodeChar c with
  | case1 v hone => exact .one (Nat.lt_succ_of_le hone)
  | case2 v hone htwo =>
    -- The remainder cuts nothing off, as the bits that are left fit the lead byte.
    have hlead : c.toNat / 64 % 32 = c.toNat / 64 := by
      change ¬ c.toNat ≤ 0x7F at hone
      change c.toNat ≤ 0x7FF at htwo
      omega
    have hwritten := Written.two (c := c) (Nat.lt_of_not_le hone) (Nat.lt_succ_of_le htwo)
    rwa [← hlead] at hwritten
  | case3 v hone htwo hthree =>
    have hlead : c.toNat / 4096 % 16 = c.toNat / 4096 := by
      change c.toNat ≤ 0xFFFF at hthree
      omega
    have hwritten := Written.three (c := c) (Nat.lt_of_not_le htwo) (Nat.lt_succ_of_le hthree)
    rwa [← hlead] at hwritten
  | case4 v hone htwo hthree =>
    have hlead : c.toNat / 262144 % 8 = c.toNat / 262144 := by omega
    have hwritten := Written.four (c := c) (Nat.lt_of_not_le hthree)
    rwa [← hlead] at hwritten

/-- Only the character zero has a byte that is zero. -/
theorem ne_zero_of_mem_char {c : Char} (hc : c ≠ '\x00') {b : UInt8} (hmem : b ∈ String.utf8EncodeChar c) :
    b ≠ 0 := by
  have hlast := toNat_lt c
  have hpositive : 0 < c.toNat := Nat.pos_of_ne_zero fun hzero => hc (Char.toNat_inj.mp hzero)
  -- Lead bytes and tails carry marks of their own, so none of them is zero.
  have hlead : ∀ n < 256, 0 < n → UInt8.ofNat n ≠ 0 := by
    intro n hn hne hzero
    have hsame := toNat_ofNat hn
    rw [hzero] at hsame
    exact Nat.ne_of_lt hne hsame
  have htail : ∀ n, tail n ≠ 0 := fun n => hlead _ (by omega) (by omega)
  have hwritten := written c
  generalize String.utf8EncodeChar c = bytes at hwritten hmem
  cases hwritten with
  | one hhigh =>
    obtain rfl := List.mem_singleton.mp hmem
    exact hlead _ (by omega) hpositive
  | two | three | four =>
    simp only [List.mem_cons, List.not_mem_nil, or_false] at hmem
    rcases hmem with rfl | hmem
    · exact hlead _ (by omega) (by omega)
    · rcases hmem with rfl | rfl | rfl <;> exact htail _

/-- A text without the character zero has no byte that is zero. -/
theorem ne_zero_of_mem_encode {text : String} (hnul : '\x00' ∉ text.toList) {b : UInt8} (hmem : b ∈ encode text) :
    b ≠ 0 := by
  rw [encode_eq] at hmem
  obtain ⟨c, hc, hmem⟩ := List.mem_flatMap.mp hmem
  refine ne_zero_of_mem_char ?_ hmem
  rintro rfl
  exact hnul hc

/-! ## Reading them -/

/-- A lead byte below 0x80 is a character by itself. -/
theorem lead_one {n : Nat} (hn : n < 0x80) : lead n = .whole (Char.ofNat n) := by
  rw [lead, if_pos hn]

/-- The lead byte of two carries five bits. -/
theorem lead_two : ∀ n < 32, 2 ≤ n → lead (n + 0xC0) = .start ⟨n, 0x80, 0xBF, 0⟩ := by decide

/-- The lead byte of three carries four bits; the second byte may not make the sequence longer than it need be, nor a
surrogate. -/
theorem lead_three : ∀ n < 16, lead (n + 0xE0) =
    .start ⟨n, if n = 0 then 0xA0 else 0x80, if n = 13 then 0x9F else 0xBF, 1⟩ := by decide

/-- The lead byte of four carries three bits; the second byte may not lead past the last character. -/
theorem lead_four : ∀ n < 5, lead (n + 0xF0) =
    .start ⟨n, if n = 0 then 0x90 else 0x80, if n = 4 then 0x8F else 0xBF, 2⟩ := by decide

/-- The byte begins a sequence. -/
theorem decodeFrom_start {n : Nat} {sequence : Unfinished} (hbyte : n < 256) (hlead : lead n = .start sequence)
    (rest : Bytes) : decodeFrom none (UInt8.ofNat n :: rest) = decodeFrom (some sequence) rest := by
  rw [decodeFrom, toNat_ofNat hbyte, hlead]

/-- The byte goes on with a sequence. -/
theorem decodeFrom_next {value low high more n : Nat} (hlow : low ≤ n % 64 + 0x80) (hhigh : n % 64 + 0x80 ≤ high)
    (rest : Bytes) : decodeFrom (some ⟨value, low, high, more + 1⟩) (tail n :: rest) =
      decodeFrom (some ⟨value * 64 + n % 64, 0x80, 0xBF, more⟩) rest := by
  simp [decodeFrom, toNat_tail, hlow, hhigh]

/-- The byte ends a sequence. -/
theorem decodeFrom_last {value low high n : Nat} (hlow : low ≤ n % 64 + 0x80) (hhigh : n % 64 + 0x80 ≤ high)
    (rest : Bytes) : decodeFrom (some ⟨value, low, high, 0⟩) (tail n :: rest) =
      Char.ofNat (value * 64 + n % 64) :: decodeFrom none rest := by
  simp [decodeFrom, toNat_tail, hlow, hhigh]

/-- **The bytes of a character are read as this character.** -/
theorem decodeFrom_char (c : Char) (rest : Bytes) :
    decodeFrom none (String.utf8EncodeChar c ++ rest) = c :: decodeFrom none rest := by
  have hlast := toNat_lt c
  have hchar : ∀ n, n = c.toNat → Char.ofNat n = c := by
    rintro _ rfl
    exact Char.ofNat_toNat c
  have hwritten := written c
  generalize String.utf8EncodeChar c = bytes at hwritten
  -- By length: the lead byte opens the sequence, and the tails bring it to its end.
  cases hwritten with
  | one hhigh =>
    rw [List.singleton_append, decodeFrom, toNat_ofNat (by omega), lead_one hhigh, hchar _ rfl]
  | two hlow hhigh =>
    have hlead := lead_two (c.toNat / 64) (by omega) (by omega)
    change decodeFrom none (_ :: tail c.toNat :: rest) = _
    rw [decodeFrom_start (by omega) hlead, decodeFrom_last (by omega) (by omega), hchar _ (by omega)]
  | three hlow hhigh =>
    have hlead := lead_three (c.toNat / 4096) (by omega)
    -- The second byte may not lie where it would make a surrogate, and there is no such character.
    have hsurrogate : c.toNat < 0xD800 ∨ 0xDFFF < c.toNat := c.valid.imp_right And.left
    change decodeFrom none (_ :: tail (c.toNat / 64) :: tail c.toNat :: rest) = _
    rw [decodeFrom_start (by omega) hlead, decodeFrom_next (by split <;> omega) (by split <;> omega),
      decodeFrom_last (by omega) (by omega), hchar _ (by omega)]
  | four hlow =>
    have hlead := lead_four (c.toNat / 262144) (by omega)
    change decodeFrom none (_ :: tail (c.toNat / 4096) :: tail (c.toNat / 64) :: tail c.toNat :: rest) = _
    rw [decodeFrom_start (by omega) hlead, decodeFrom_next (by split <;> omega) (by split <;> omega),
      decodeFrom_next (by omega) (by omega), decodeFrom_last (by omega) (by omega), hchar _ (by omega)]

/-! ## Reading a text -/

/-- Characters are read one after the other. -/
theorem decodeFrom_flatMap (text : List Char) : decodeFrom none (text.flatMap String.utf8EncodeChar) = text := by
  induction text with
  | nil => rfl
  | cons c text ih => rw [List.flatMap_cons, decodeFrom_char, ih]

/-- **A text is read back from its bytes.** -/
theorem decode_encode (text : String) : decode (encode text) = text := by
  rw [decode, encode_eq, decodeFrom_flatMap, String.ofList_toList]

/-- Bytes that are valid UTF-8 are written again as they were read. -/
theorem encode_decode {bytes : Bytes} (hvalid : bytes.toByteArray.IsValidUTF8) : encode (decode bytes) = bytes := by
  obtain ⟨text, htext⟩ := hvalid
  have hbytes : bytes = text.flatMap String.utf8EncodeChar := by
    rw [← List.toList_data_toByteArray (l := bytes), htext, List.utf8Encode, List.toList_data_toByteArray]
  rw [hbytes, decode, decodeFrom_flatMap, encode_eq, String.toList_ofList]

end HciTransport.Utf8
