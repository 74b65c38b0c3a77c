import Mathlib.Algebra.Group.Nat.Defs
import HciTransport.ControlCode
import HciTransport.Proofs.Text.Hex

/-!
# The fields of a control code

A code is made as a sum, and since every field fits its place the sum is the same as putting the bits side by side
(`toNat_eq_or`), which shifts and a mask do on words of 32 bits (`raw_eq_masked`). So each field is read back from its
place whatever stands at the others, a size that is too large is cut and disturbs nothing, and two codes are equal
only if all four fields agree (`ofFields_eq_iff`). The text of a code spells its number (`FieldsApart`).
-/

namespace HciTransport.ControlCode

variable {direction other : Direction} {tag number tag' number' : UInt8} {size size' : UInt32}

/-! ## The bits of a code -/

/-- The fields do not overlap, so adding them up is putting them together. -/
theorem toNat_eq_or (direction : Direction) (tag number : UInt8) (size : UInt32) :
    (ofFields direction tag number size).raw.toNat =
      direction.bits <<< 30 ||| (size.toNat % 2 ^ 14) <<< 16 ||| tag.toNat <<< 8 ||| number.toNat := by
  have hsize : size.toNat % 2 ^ 14 < 2 ^ 14 := Nat.mod_lt _ (by decide)
  -- The sum is nested as in a number with digits, and each digit is smaller than its place.
  calc (ofFields direction tag number size).raw.toNat
      = ((direction.bits <<< 14 + size.toNat % 2 ^ 14) <<< 8 + tag.toNat) <<< 8 + number.toNat := by
        simp only [toNat_ofFields, Nat.shiftLeft_eq, Nat.reducePow]
    _ = ((direction.bits <<< 14 ||| size.toNat % 2 ^ 14) <<< 8 ||| tag.toNat) <<< 8 ||| number.toNat := by
        rw [Nat.shiftLeft_add_eq_or_of_lt hsize, Nat.shiftLeft_add_eq_or_of_lt tag.toNat_lt,
          Nat.shiftLeft_add_eq_or_of_lt number.toNat_lt]
    _ = direction.bits <<< 30 ||| (size.toNat % 2 ^ 14) <<< 16 ||| tag.toNat <<< 8 ||| number.toNat := by
        simp only [Nat.shiftLeft_or_distrib, ← Nat.shiftLeft_add]

/-- The bits of a code from one place on, as a number. -/
theorem toNat_extract (code : ControlCode) (start width : Nat) :
    (code.raw.toBitVec.extractLsb' start width).toNat = code.raw.toNat / 2 ^ start % 2 ^ width := by
  rw [BitVec.extractLsb'_toNat, Nat.shiftRight_eq_div_pow]
  rfl

theorem extract_number (direction : Direction) (tag number : UInt8) (size : UInt32) :
    (ofFields direction tag number size).raw.toBitVec.extractLsb' 0 8 = number.toBitVec := by
  have hnumber : number.toNat < 256 := number.toNat_lt
  refine BitVec.eq_of_toNat_eq ?_
  rw [toNat_extract, toNat_ofFields, UInt8.toNat_toBitVec]
  omega

theorem extract_tag (direction : Direction) (tag number : UInt8) (size : UInt32) :
    (ofFields direction tag number size).raw.toBitVec.extractLsb' 8 8 = tag.toBitVec := by
  have htag : tag.toNat < 256 := tag.toNat_lt
  have hnumber : number.toNat < 256 := number.toNat_lt
  refine BitVec.eq_of_toNat_eq ?_
  rw [toNat_extract, toNat_ofFields, UInt8.toNat_toBitVec]
  omega

/-- Of a size only fourteen bits are there. -/
theorem extract_size (direction : Direction) (tag number : UInt8) (size : UInt32) :
    (ofFields direction tag number size).raw.toBitVec.extractLsb' 16 14 = size.toBitVec.setWidth 14 := by
  have htag : tag.toNat < 256 := tag.toNat_lt
  have hnumber : number.toNat < 256 := number.toNat_lt
  refine BitVec.eq_of_toNat_eq ?_
  rw [toNat_extract, toNat_ofFields, BitVec.toNat_setWidth, UInt32.toNat_toBitVec]
  omega

theorem extract_direction (direction : Direction) (tag number : UInt8) (size : UInt32) :
    (ofFields direction tag number size).raw.toBitVec.extractLsb' 30 2 = BitVec.ofNat 2 direction.bits := by
  have htag : tag.toNat < 256 := tag.toNat_lt
  have hnumber : number.toNat < 256 := number.toNat_lt
  refine BitVec.eq_of_toNat_eq ?_
  rw [toNat_extract, toNat_ofFields, BitVec.toNat_ofNat]
  omega

/-! ## Codes that differ -/

/-- The same operation in both directions: all of the two top bits differ, and no others. -/
theorem xor_directions (tag number : UInt8) (size : UInt32) :
    (ofFields .read tag number size).raw ^^^ (ofFields .write tag number size).raw = 0xC0000000 := by
  have htag : tag.toNat < 256 := tag.toNat_lt
  have hnumber : number.toNat < 256 := number.toNat_lt
  have hread := toNat_ofFields .read tag number size
  have hwrite := toNat_ofFields .write tag number size
  simp only [Direction.bits] at hread hwrite
  -- Nothing of the two codes matters but the two numbers.
  generalize (ofFields .read tag number size).raw = reading at hread ⊢
  generalize (ofFields .write tag number size).raw = writing at hwrite ⊢
  refine UInt32.toNat_inj.mp ?_
  rw [UInt32.toNat_xor]
  -- Below the direction the two are the same, and the directions are 10 and 01 in binary.
  have hlow : (reading.toNat ^^^ writing.toNat) % 2 ^ 30 = 0 := by
    have hsame : reading.toNat % 2 ^ 30 = writing.toNat % 2 ^ 30 := by omega
    rw [Nat.xor_mod_two_pow, hsame, Nat.xor_self]
  have hhigh : (reading.toNat ^^^ writing.toNat) / 2 ^ 30 = 3 := by
    have htwo : reading.toNat / 2 ^ 30 = 2 := by omega
    have hone : writing.toNat / 2 ^ 30 = 1 := by omega
    rw [Nat.xor_div_two_pow, htwo, hone]
    decide
  have hwhole := Nat.div_add_mod (reading.toNat ^^^ writing.toNat) (2 ^ 30)
  rw [hlow, hhigh] at hwhole
  exact hwhole.symm

/-- Two codes are equal exactly if the directions, the tags and the numbers are, and the sizes but for what is cut. -/
theorem ofFields_eq_iff : ofFields direction tag number size = ofFields other tag' number' size' ↔
    direction = other ∧ tag = tag' ∧ number = number' ∧ size.toNat % 2 ^ 14 = size'.toNat % 2 ^ 14 := by
  constructor
  -- Each field is read back from its place in the one code and in the other.
  · intro hsame
    have htag : tag.toBitVec = tag'.toBitVec := by
      rw [← extract_tag direction tag number size, hsame, extract_tag]
    have hnumber : number.toBitVec = number'.toBitVec := by
      rw [← extract_number direction tag number size, hsame, extract_number]
    have hsize : size.toBitVec.setWidth 14 = size'.toBitVec.setWidth 14 := by
      rw [← extract_size direction tag number size, hsame, extract_size]
    have hdirection : direction.bits = other.bits := by
      rw [← direction_ofFields direction tag number size, hsame, direction_ofFields]
    refine ⟨?_, UInt8.toBitVec_inj.mp htag, UInt8.toBitVec_inj.mp hnumber, ?_⟩
    · cases direction <;> cases other <;> first | rfl | cases hdirection
    · exact congrArg BitVec.toNat hsize
  · rintro ⟨rfl, rfl, rfl, hsize⟩
    rw [ControlCode.mk.injEq, ← UInt32.toNat_inj, toNat_eq_or, toNat_eq_or, hsize]

/-- Nothing is lost of a word that is shifted if its bits have room in front of them. -/
theorem toNat_shiftLeft {word places : UInt32} (width : Nat) (hword : word.toNat < 2 ^ width)
    (hfits : width + places.toNat ≤ 32) (hplaces : places.toNat < 32) :
    (word <<< places).toNat = word.toNat <<< places.toNat := by
  have hshifted : word.toNat <<< places.toNat < 2 ^ 32 := by
    rw [Nat.shiftLeft_eq]
    calc word.toNat * 2 ^ places.toNat
        < 2 ^ width * 2 ^ places.toNat := Nat.mul_lt_mul_of_pos_right hword (Nat.two_pow_pos _)
      _ = 2 ^ (width + places.toNat) := (Nat.pow_add ..).symm
      _ ≤ 2 ^ 32 := Nat.pow_le_pow_right (by decide) hfits
  rw [UInt32.toNat_shiftLeft, Nat.mod_eq_of_lt hplaces, Nat.mod_eq_of_lt hshifted]

/-- The mask of a size keeps its lower fourteen bits. -/
theorem toNat_mask (size : UInt32) : (size &&& 0x3FFF).toNat = size.toNat % 2 ^ 14 := by
  rw [UInt32.toNat_and]
  exact Nat.and_two_pow_sub_one_eq_mod _ 14

/-- **A code is what shifts put together**, of a size so much as the mask leaves. -/
theorem raw_eq_masked (direction : Direction) (tag number : UInt8) (size : UInt32) :
    (ofFields direction tag number size).raw =
      UInt32.ofNat direction.bits <<< 30 ||| tag.toUInt32 <<< 8 ||| number.toUInt32 <<< 0 |||
        (size &&& 0x3FFF) <<< 16 := by
  have hbits : (UInt32.ofNat direction.bits).toNat = direction.bits := by cases direction <;> rfl
  -- No field is shifted out of the word, so the shifts are those of natural numbers.
  have hdirection : (UInt32.ofNat direction.bits <<< 30).toNat = direction.bits <<< 30 := by
    rw [toNat_shiftLeft 2 (by cases direction <;> decide) (by decide) (by decide), hbits]
    rfl
  have htag : (tag.toUInt32 <<< 8).toNat = tag.toNat <<< 8 :=
    toNat_shiftLeft 8 tag.toNat_lt (by decide) (by decide)
  have hnumber : (number.toUInt32 <<< 0).toNat = number.toNat :=
    toNat_shiftLeft 8 number.toNat_lt (by decide) (by decide)
  have hsize : ((size &&& 0x3FFF) <<< 16).toNat = (size.toNat % 2 ^ 14) <<< 16 := by
    have hmasked : (size &&& 0x3FFF).toNat < 2 ^ 14 := by
      rw [toNat_mask]
      exact Nat.mod_lt _ (by decide)
    rw [toNat_shiftLeft 14 hmasked (by decide) (by decide), toNat_mask]
    rfl
  refine UInt32.toNat_inj.mp ?_
  rw [toNat_eq_or, UInt32.toNat_or, UInt32.toNat_or, UInt32.toNat_or, hdirection, htag, hnumber, hsize]
  -- The size comes last here.
  simp only [Nat.or_assoc]
  rw [Nat.or_comm (_ <<< 16), Nat.or_assoc]

/-- Where the size fits, the mask takes nothing away. -/
theorem raw_eq_or (direction : Direction) (tag number : UInt8) (hsize : size.toNat < 2 ^ 14) :
    (ofFields direction tag number size).raw =
      UInt32.ofNat direction.bits <<< 30 ||| size <<< 16 ||| tag.toUInt32 <<< 8 ||| number.toUInt32 := by
  have hmask : size &&& 0x3FFF = size := by
    refine UInt32.toNat_inj.mp ?_
    rw [toNat_mask, Nat.mod_eq_of_lt hsize]
  have hnumber : number.toUInt32 <<< 0 = number.toUInt32 := UInt32.shiftLeft_zero
  rw [raw_eq_masked, hmask, hnumber]
  simp only [UInt32.or_assoc]
  rw [UInt32.or_comm (size <<< 16), UInt32.or_assoc]

/-! ## The main result -/

/-- Codes keep their four fields apart, and their text spells them. -/
structure FieldsApart : Prop where
  /-- What is read carries a two in the top bits, and what is written a one. -/
  bits : Direction.read.bits = 2 ∧ Direction.write.bits = 1
  number : ∀ direction tag number size,
    (ofFields direction tag number size).raw.toBitVec.extractLsb' 0 8 = number.toBitVec
  tag : ∀ direction tag number size,
    (ofFields direction tag number size).raw.toBitVec.extractLsb' 8 8 = tag.toBitVec
  size : ∀ direction tag number size,
    (ofFields direction tag number size).raw.toBitVec.extractLsb' 16 14 = size.toBitVec.setWidth 14
  top : ∀ direction tag number size,
    (ofFields direction tag number size).raw.toBitVec.extractLsb' 30 2 = BitVec.ofNat 2 direction.bits
  /-- No size disturbs the direction. -/
  direction : ∀ direction tag number size, (ofFields direction tag number size).direction = direction.bits
  /-- The two directions of an operation differ in both top bits and in no other. -/
  opposite : ∀ tag number size,
    (ofFields .read tag number size).raw ^^^ (ofFields .write tag number size).raw = 0xC0000000
  /-- The fields are shifted to their places and put together, whatever the size; a mask of fourteen bits cuts it. -/
  masked : ∀ (direction : Direction) (tag number : UInt8) (size : UInt32),
    (ofFields direction tag number size).raw =
      UInt32.ofNat direction.bits <<< 30 ||| tag.toUInt32 <<< 8 ||| number.toUInt32 <<< 0 |||
        (size &&& 0x3FFF) <<< 16
  /-- So a size that fits is shifted as it is. -/
  together : ∀ (direction : Direction) (tag number : UInt8) (size : UInt32), size.toNat < 2 ^ 14 →
    (ofFields direction tag number size).raw =
      UInt32.ofNat direction.bits <<< 30 ||| size <<< 16 ||| tag.toUInt32 <<< 8 ||| number.toUInt32
  equal : ∀ direction tag number size other tag' number' size',
    ofFields direction tag number size = ofFields other tag' number' size' ↔
      direction = other ∧ tag = tag' ∧ number = number' ∧ size.toNat % 2 ^ 14 = size'.toNat % 2 ^ 14
  /-- The marker and eight digits in lower case, which are read back as the number. -/
  text : ∀ code : ControlCode, ∃ digits : List Char, code.text = "0x" ++ String.ofList digits ∧ digits.length = 8 ∧
    Hex.IsLower (String.ofList digits) ∧ Hex.value? digits = some code.raw.toNat

/-- **The fields of a code are kept apart.** -/
theorem fieldsApart : FieldsApart where
  bits := ⟨rfl, rfl⟩
  number := extract_number
  tag := extract_tag
  size := extract_size
  top := extract_direction
  direction := direction_ofFields
  opposite := xor_directions
  masked := raw_eq_masked
  together direction tag number _ := raw_eq_or direction tag number
  equal _ _ _ _ _ _ _ _ := ofFields_eq_iff
  text code := by
    refine ⟨Hex.fixed 8 code.raw.toNat, ?_, Hex.length_fixed 8 _, Hex.isLower_fixed 8 _, ?_⟩
    · rw [ControlCode.text, Hex.padded, ← String.ofList_append]
      rfl
    · exact Hex.value?_fixed code.raw.toNat_lt

/-- A size of one bit too many makes the code of no size at all, and one that fits is put in its place. -/
theorem fieldsApart_oversized :
    ofFields .read 0x48 1 0x4000 = ofFields .read 0x48 1 0 ∧ (4 : UInt32).toNat < 2 ^ 14 ∧
      (ofFields .write 0x48 201 4).raw = 0x400448C9 := by
  refine ⟨(fieldsApart.equal ..).mpr ⟨rfl, rfl, rfl, by decide⟩, by decide, ?_⟩
  exact (fieldsApart.together .write 0x48 201 4 (by decide)).trans (by decide)

end HciTransport.ControlCode
