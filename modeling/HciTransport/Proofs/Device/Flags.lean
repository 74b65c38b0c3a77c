import Mathlib.Data.List.Nodup
import HciTransport.Proofs.Device.Field
import HciTransport.Proofs.Text.Pieces
import HciTransport.Device.Info

/-!
# What the text of device flags tells

The text has a word for each named bit that is set, or one word that names no bit (`words_text`). The names differ
from each other and from that word, and none of them has a blank in it, so the words can be told apart again and each
of them stands for its bit (`name_mem_words_iff`). Hence two texts are equal exactly if the named bits are
(`FaithfulText`). What is not named is not shown, and not lost either.
-/

namespace HciTransport

namespace DeviceFlag

variable {flag other : DeviceFlag}

/-- The names of the bits 0 to 8, in this order. -/
def names : List String := ["UP", "INIT", "RUNNING", "PSCAN", "ISCAN", "AUTH", "ENCRYPT", "INQUIRY", "RAW"]

/-- The names in a word of which the bit is set, lowest bit first. -/
def namesIn (bits : UInt32) : List String :=
  (names.zipIdx.filter fun (_, i) => bits.toNat.testBit i).map (·.1)

theorem mem_all (flag : DeviceFlag) : flag ∈ all := by
  cases flag <;> decide

/-- The table of names goes by the positions of the bits. -/
theorem zipIdx_names : names.zipIdx = all.map fun flag => (flag.name, flag.position) := rfl

/-- No two bits have one name. -/
theorem name_inj (hname : flag.name = other.name) : flag = other := by
  have hall : ∀ flag ∈ all, ∀ other ∈ all, flag.name = other.name → flag = other := by decide
  exact hall flag flag.mem_all other other.mem_all hname

/-- A name is not taken for two, nor for that of no bit at all. -/
theorem name_plain (flag : DeviceFlag) : ' ' ∉ flag.name.toList ∧ flag.name ≠ "DOWN" := by
  cases flag <;> decide

theorem position_lt (flag : DeviceFlag) : flag.position < 9 := by
  cases flag <;> decide

/-- Each of the lowest nine bits has a name. -/
theorem exists_position {i : Nat} (hi : i < 9) : ∃ flag : DeviceFlag, flag.position = i := by
  have hall : ∀ i < 9, ∃ flag ∈ all, flag.position = i := by decide
  obtain ⟨flag, -, hposition⟩ := hall i hi
  exact ⟨flag, hposition⟩

end DeviceFlag

namespace DeviceFlags

open DeviceFlag (names namesIn)

variable {flags other : DeviceFlags} {flag : DeviceFlag}

/-- The words of a text of flags. -/
def words (text : String) : List String := Text.pieces ' ' text

/-- The names of the bits that are set are those of the table, in its order. -/
theorem map_name_set (flags : DeviceFlags) : flags.set.map DeviceFlag.name = namesIn flags.bits := by
  rw [namesIn, DeviceFlag.zipIdx_names, List.filter_map, List.map_map]
  rfl

/-- **The text falls into the names of the bits that are set**, or into one word where there is none. -/
theorem words_text (flags : DeviceFlags) :
    words flags.text = if flags.set = [] then ["DOWN"] else flags.set.map DeviceFlag.name := by
  -- Words without a blank are found again between blanks.
  have hpieces : ∀ parts : List String, parts ≠ [] → (∀ part ∈ parts, ' ' ∉ part.toList) →
      words (" ".intercalate parts) = parts := fun parts => @Text.pieces_intercalate ' ' parts
  -- The text is put together differently where there is no bit to name.
  cases hset : flags.set with
  | nil =>
    have hdown : flags.text = " ".intercalate ["DOWN"] := by rw [text, hset, String.intercalate_singleton]
    rw [hdown, if_pos rfl]
    exact hpieces _ nofun (by decide)
  | cons first more =>
    have hnamed : flags.text = " ".intercalate ((first :: more).map DeviceFlag.name) := by rw [text, hset]
    rw [hnamed, if_neg nofun]
    refine hpieces _ nofun fun part hmem => ?_
    obtain ⟨flag, -, rfl⟩ := List.mem_map.mp hmem
    exact flag.name_plain.1

/-- A bit that is set is shown by its name, and one that is not is not. -/
theorem name_mem_words_iff : flag.name ∈ words flags.text ↔ flags.contains flag := by
  rw [words_text, ← mem_set]
  split
  · next hnone =>
    rw [hnone, List.mem_singleton]
    exact iff_of_false flag.name_plain.2 List.not_mem_nil
  · rw [List.mem_map]
    constructor
    · rintro ⟨shown, hmem, hname⟩
      exact DeviceFlag.name_inj hname ▸ hmem
    · intro hmem
      exact ⟨flag, hmem, rfl⟩

/-- No named bit is set if none of the lowest nine is. -/
theorem set_eq_nil_iff : flags.set = [] ↔ ∀ i < 9, flags.bits.toNat.testBit i = false := by
  rw [List.eq_nil_iff_forall_not_mem]
  constructor
  · intro hnone i hi
    obtain ⟨flag, rfl⟩ := DeviceFlag.exists_position hi
    exact Bool.eq_false_iff.mpr fun hset => hnone flag ((mem_set flags flag).mpr hset)
  · intro hclear flag hmem
    have hset : flags.bits.toNat.testBit flag.position = true := (mem_set flags flag).mp hmem
    rw [hclear _ flag.position_lt] at hset
    cases hset

/-- The word for no bit is there exactly if there is no bit to name. -/
theorem down_iff : "DOWN" ∈ words flags.text ↔ flags.set = [] := by
  rw [words_text]
  split
  · next hnone => exact iff_of_true List.mem_cons_self hnone
  · next hsome =>
    refine iff_of_false (fun hmem => ?_) hsome
    obtain ⟨flag, -, hname⟩ := List.mem_map.mp hmem
    exact flag.name_plain.2 hname

/-- Texts are equal exactly if the named bits are. -/
theorem text_eq_iff : flags.text = other.text ↔
    ∀ i < 9, flags.bits.toNat.testBit i = other.bits.toNat.testBit i := by
  constructor
  · intro htext i hi
    -- The bit is one with a name, and the name is a word of both texts or of none.
    obtain ⟨flag, rfl⟩ := DeviceFlag.exists_position hi
    refine Bool.eq_iff_iff.mpr ?_
    show flags.contains flag ↔ other.contains flag
    rw [← name_mem_words_iff, ← name_mem_words_iff, htext]
  · intro hbits
    have hset : flags.set = other.set := List.filter_congr fun flag _ => hbits _ flag.position_lt
    rw [text, text, hset]

/-- No word comes twice. -/
theorem nodup_words (flags : DeviceFlags) : (words flags.text).Nodup := by
  rw [words_text]
  split
  · exact List.nodup_singleton _
  · have hset : flags.set.Nodup := List.Nodup.filter _ (by decide)
    exact hset.map fun _ _ => DeviceFlag.name_inj

/-- Each name has its place in the table at the position of its bit. -/
theorem eq_name_of_names {i : Nat} {name : String} (hname : DeviceFlag.names[i]? = some name) :
    ∃ flag : DeviceFlag, name = flag.name ∧ flag.position = i := by
  have hi : i < 9 := (List.getElem?_eq_some_iff.mp hname).1
  obtain ⟨flag, rfl⟩ := DeviceFlag.exists_position hi
  refine ⟨flag, Option.some.inj (hname.symm.trans ?_), rfl⟩
  cases flag <;> rfl

/-! ## The main result -/

/-- What the text of flags has to do with the word of bits. -/
structure FaithfulText : Prop where
  /-- Split at its blanks the text is the names of the named bits that are set, lowest first. -/
  named : ∀ flags : DeviceFlags, (∃ i < 9, flags.bits.toNat.testBit i = true) →
    words flags.text = namesIn flags.bits
  /-- It is the one word for none exactly if none is set, and that word is never among others. -/
  down : ∀ flags : DeviceFlags,
    (words flags.text = ["DOWN"] ↔ ∀ i < 9, flags.bits.toNat.testBit i = false) ∧
      ("DOWN" ∈ words flags.text ↔ ∀ i < 9, flags.bits.toNat.testBit i = false)
  /-- No name stands for two bits, so each is shown by a word of its own, once. -/
  bit : ∀ (flags : DeviceFlags) (i : Nat) (name : String), names[i]? = some name →
    (words flags.text).count name = if flags.bits.toNat.testBit i then 1 else 0
  /-- Two words of bits have one text exactly if they agree on the bits 0 to 8. -/
  same : ∀ flags other : DeviceFlags, flags.text = other.text ↔
    ∀ i < 9, flags.bits.toNat.testBit i = other.bits.toNat.testBit i
  /-- Bits without a name may be set in any way: they are not shown. -/
  unnamed : ∀ bits extra : UInt32, (∀ i < 9, extra.toNat.testBit i = false) →
    text ⟨bits ||| extra⟩ = text ⟨bits⟩
  /-- The word itself is kept with all of its bits, as it stands in a record. -/
  kept : (∀ bits, (DeviceFlags.mk bits).bits = bits) ∧
    ∀ record : Bytes, RecordField.In ⟨Layout.flags, Bytes.ofU32 (DeviceInfo.decode record).flags.bits⟩ record
  /-- A controller is up if the text says so; that the text does not say it is down is not enough. -/
  up : ∀ info : DeviceInfo, info.isUp ↔ "UP" ∈ words info.flags.text

/-- **The text of flags shows which of the named bits are set, and nothing else.** -/
theorem faithfulText : FaithfulText where
  named flags hsome := by
    -- A bit that is set has its name in the set.
    have hset : flags.set ≠ [] := by
      obtain ⟨i, hi, hbit⟩ := hsome
      intro hnone
      rw [set_eq_nil_iff.mp hnone i hi] at hbit
      cases hbit
    rw [words_text, if_neg hset, map_name_set]
  down flags := by
    rw [← set_eq_nil_iff, down_iff, and_iff_left Iff.rfl, words_text]
    constructor
    · intro hdown
      refine down_iff.mp ?_
      rw [words_text, hdown]
      exact List.mem_cons_self
    · intro hnone
      rw [if_pos hnone]
  bit flags i name hname := by
    obtain ⟨flag, rfl, rfl⟩ := eq_name_of_names hname
    rw [(nodup_words flags).count]
    exact if_congr name_mem_words_iff rfl rfl
  same _ _ := text_eq_iff
  unnamed bits extra hextra := by
    refine text_eq_iff.mpr fun i hi => ?_
    show (bits ||| extra).toNat.testBit i = bits.toNat.testBit i
    rw [UInt32.toNat_or, Nat.testBit_or, hextra i hi, Bool.or_false]
  kept := ⟨fun _ => rfl, fun _ => RecordField.in_u32_iff.mpr rfl⟩
  up info := (@name_mem_words_iff info.flags .up).symm

/-- A controller that is running and not up, with every bit set that has no name: it is neither said to be up nor to
be down, and its text is that of the one named bit. -/
theorem faithfulText_running :
    (∃ i < 9, (0xFFFFFE04 : UInt32).toNat.testBit i = true) ∧ words (text ⟨0xFFFFFE04⟩) = ["RUNNING"] ∧
      "DOWN" ∉ words (text ⟨0xFFFFFE04⟩) ∧ text ⟨0xFFFFFE04⟩ = text ⟨0x00000004⟩ := by
  have hsome : ∃ i < 9, (0xFFFFFE04 : UInt32).toNat.testBit i = true := ⟨2, by decide, by decide⟩
  refine ⟨hsome, (faithfulText.named ⟨0xFFFFFE04⟩ hsome).trans (by decide), ?_, ?_⟩
  · rw [(faithfulText.down _).2]
    decide
  · exact (faithfulText.same _ _).mpr (by decide)

end DeviceFlags

end HciTransport
