import Mathlib.Algebra.Group.Nat.Defs
import HciTransport.Proofs.Text.Utf8

/-!
# Text that is read from any bytes

`Lossy` says what bytes are read as, with no word on how: the bytes of a character are read as it, and where none
begins, the longest beginning of one, or else a single byte, is read as one replacement character (`Broken`). There
is one such text for all bytes (`Lossy.unique`), and the decoder reads it (`lossy_iff`).

The decoder knows of an unfinished sequence the value of its bits so far and the range of its next byte. `Reached`
ties that to the bytes it has read: the sequence is the beginning of exactly those characters that have this value
in front and whose next byte is in range (`Reached.of_starts`, `Reached.exists_of_admits`). So a byte out of range
ends the longest beginning there is (`Reached.broken`).
-/

namespace HciTransport.Utf8

variable {bytes part rest : Bytes} {text : List Char} {c : Char} {b : UInt8} {sequence : Unfinished} {n : Nat}

/-! ## What bytes are read as -/

/-- The bytes are the beginning of a character, or all of it. -/
def Opens (part : Bytes) : Prop := part ≠ [] ∧ ∃ c, part <+: String.utf8EncodeChar c

/-- A part of which nothing can be made, as it stands before the rest of the bytes. -/
structure Broken (part rest : Bytes) : Prop where
  nonempty : part ≠ []
  no_char : ∀ c, ¬ String.utf8EncodeChar c <+: part ++ rest
  opens : Opens part ∨ part.length = 1
  /-- Nothing longer is the beginning of a character. -/
  longest : ∀ longer, longer <+: part ++ rest → Opens longer → longer.length ≤ part.length

/-- The text that bytes stand for, broken parts included. -/
inductive Lossy : Bytes → List Char → Prop where
  | nil : Lossy [] []
  | char (c : Char) {rest : Bytes} {text : List Char} (hrest : Lossy rest text) :
    Lossy (String.utf8EncodeChar c ++ rest) (c :: text)
  | broken {part rest : Bytes} {text : List Char} (hbroken : Broken part rest) (hrest : Lossy rest text) :
    Lossy (part ++ rest) (replacement :: text)

/-! ## Characters in front -/

/-- No character's bytes begin another's. -/
theorem char_eq_of_starts {c' : Char} (hstarts : String.utf8EncodeChar c <+: String.utf8EncodeChar c') : c = c' := by
  obtain ⟨behind, hbehind⟩ := hstarts
  -- The bytes are read as the one character and as the other.
  have hread := decodeFrom_char c behind
  rw [hbehind, ← List.append_nil (String.utf8EncodeChar c'), decodeFrom_char] at hread
  exact (List.cons.inj hread).1.symm

theorem char_eq_of_append {c' : Char} {rest' : Bytes}
    (hsame : String.utf8EncodeChar c ++ rest = String.utf8EncodeChar c' ++ rest') : c = c' := by
  obtain hstarts | hstarts := List.prefix_or_prefix_of_prefix ⟨rest, rfl⟩ ⟨rest', hsame.symm⟩
  · exact char_eq_of_starts hstarts
  · exact (char_eq_of_starts hstarts).symm

theorem encodeChar_ne_nil (c : Char) : String.utf8EncodeChar c ≠ [] := by
  have hwritten := written c
  generalize String.utf8EncodeChar c = bytes at hwritten
  cases hwritten <;> exact List.cons_ne_nil _ _

/-- Of two broken parts in front of the same bytes neither is longer than the other. -/
theorem Broken.length_le {part' rest' : Bytes} (hbroken : Broken part rest) (hother : Broken part' rest')
    (hsame : part ++ rest = part' ++ rest') : part.length ≤ part'.length := by
  obtain hopens | hone := hbroken.opens
  · exact hother.longest part (hsame ▸ List.prefix_append part rest) hopens
  · rw [hone]
    exact List.length_pos_iff.mpr hother.nonempty

/-- **Bytes are read as one text only.** -/
theorem Lossy.unique {other : List Char} (hlossy : Lossy bytes text) (hother : Lossy bytes other) : text = other := by
  -- Along the first reading; the second has to read the same bytes in front.
  induction hlossy generalizing other with
  | nil =>
    generalize hbytes : ([] : Bytes) = bytes at hother
    cases hother with
    | nil => rfl
    | char c => exact absurd (List.append_eq_nil_iff.mp hbytes.symm).1 (encodeChar_ne_nil c)
    | broken hbroken => exact absurd (List.append_eq_nil_iff.mp hbytes.symm).1 hbroken.nonempty
  | @char c rest text hrest ih =>
    generalize hbytes : String.utf8EncodeChar c ++ rest = bytes at hother
    cases hother with
    | nil => exact absurd (List.append_eq_nil_iff.mp hbytes).1 (encodeChar_ne_nil c)
    | char c' hrest' =>
      obtain rfl := char_eq_of_append hbytes
      obtain rfl := List.append_cancel_left hbytes
      rw [ih hrest']
    | broken hbroken => exact absurd ⟨rest, hbytes⟩ (hbroken.no_char c)
  | @broken part rest text hbroken hrest ih =>
    -- Of two broken parts neither can be longer, since each is as long as can be.
    generalize hbytes : part ++ rest = bytes at hother
    cases hother with
    | nil => exact absurd (List.append_eq_nil_iff.mp hbytes).1 hbroken.nonempty
    | char c => exact absurd ⟨_, hbytes.symm⟩ (hbroken.no_char c)
    | broken hbroken' hrest' =>
      have hlength := Nat.le_antisymm (hbroken.length_le hbroken' hbytes) (hbroken'.length_le hbroken hbytes.symm)
      obtain ⟨-, rfl⟩ := List.append_inj hbytes hlength
      rw [ih hrest']

/-! ## Sequences that have begun -/

/-- The bytes that are left of a character, when as many as given follow the next one. -/
def owed : Nat → Nat → Bytes
  | 0, n => [tail n]
  | more + 1, n => tail (n / 64 ^ (more + 1)) :: owed more n

/-- What the decoder holds of the bytes of a sequence. -/
inductive Reached : Bytes → Unfinished → Prop where
  | start {b : UInt8} {sequence : Unfinished} (hlead : lead b.toNat = .start sequence) : Reached [b] sequence
  | next {part : Bytes} {value low high more : Nat} {b : UInt8} (hreached : Reached part ⟨value, low, high, more + 1⟩)
    (hlow : low ≤ b.toNat) (hhigh : b.toNat ≤ high) :
    Reached (part ++ [b]) ⟨value * 64 + (b.toNat - 0x80), 0x80, 0xBF, more⟩

/-- The number has the bits read so far in front, and then a byte that may come next. -/
structure Unfinished.Admits (sequence : Unfinished) (n : Nat) : Prop where
  value : n / 64 ^ (sequence.more + 1) = sequence.value
  low : sequence.low ≤ n / 64 ^ sequence.more % 64 + 0x80
  high : n / 64 ^ sequence.more % 64 + 0x80 ≤ sequence.high

theorem div_pow_succ (n more : Nat) : n / 64 ^ (more + 1) = n / 64 ^ more / 64 := by
  rw [Nat.div_div_eq_div_mul, ← Nat.pow_succ]

/-- The next byte is the one that the number has behind the bits read so far. -/
theorem owed_cons (more n : Nat) : ∃ behind, owed more n = tail (n / 64 ^ more) :: behind := by
  cases more with
  | zero => exact ⟨[], by rw [owed, Nat.pow_zero, Nat.div_one]⟩
  | succ more => exact ⟨owed more n, rfl⟩

/-- What a lead byte tells of the sequence, by the length of the sequence. -/
theorem of_lead_start (hlead : lead n = .start sequence) :
    (0xC2 ≤ n ∧ n < 0xE0 ∧ sequence = ⟨n - 0xC0, 0x80, 0xBF, 0⟩) ∨
      (0xE0 ≤ n ∧ n < 0xF0 ∧
        sequence = ⟨n - 0xE0, if n = 0xE0 then 0xA0 else 0x80, if n = 0xED then 0x9F else 0xBF, 1⟩) ∨
      0xF0 ≤ n ∧ n < 0xF5 ∧
        sequence = ⟨n - 0xF0, if n = 0xF0 then 0x90 else 0x80, if n = 0xF4 then 0x8F else 0xBF, 2⟩ := by
  revert hlead
  fun_cases lead n with
  | case1 | case2 | case6 => exact fun hlead => nomatch hlead
  | case3 hone hlow htwo => exact fun hlead => .inl ⟨by omega, htwo, (Lead.start.inj hlead).symm⟩
  | case4 hone hlow htwo hthree => exact fun hlead => .inr (.inl ⟨by omega, hthree, (Lead.start.inj hlead).symm⟩)
  | case5 hone hlow htwo hthree hfour =>
    exact fun hlead => .inr (.inr ⟨by omega, hfour, (Lead.start.inj hlead).symm⟩)

/-- The next byte is asked to be a tail. -/
theorem Reached.bounds (hreached : Reached part sequence) :
    0x80 ≤ sequence.low ∧ sequence.low ≤ sequence.high ∧ sequence.high ≤ 0xBF := by
  cases hreached with
  | start hlead =>
    obtain ⟨-, -, rfl⟩ | ⟨-, -, rfl⟩ | ⟨-, -, rfl⟩ := of_lead_start hlead <;> dsimp only <;> (repeat' split) <;> omega
  | next => exact ⟨Nat.le_refl _, Nat.le_of_ble_eq_true rfl, Nat.le_refl _⟩

/-- A character that begins as the bytes read is one that the sequence admits, and the rest of it is owed. -/
theorem Reached.of_starts (hreached : Reached part sequence) (hstarts : part <+: String.utf8EncodeChar c) :
    sequence.Admits c.toNat ∧ String.utf8EncodeChar c = part ++ owed sequence.more c.toNat := by
  have hlast := toNat_lt c
  -- Over the bytes read so far: the lead byte fixes the length, and each byte after it fixes six bits.
  induction hreached with
  | @start b sequence hlead =>
    obtain ⟨behind, hbehind⟩ := hstarts
    have hwritten := written c
    rw [← hbehind] at hwritten ⊢
    change Written c (b :: behind) at hwritten
    cases hwritten with
    | one hhigh =>
      rw [toNat_ofNat (by omega), lead_one hhigh] at hlead
      cases hlead
    | two hlow hhigh =>
      rw [toNat_ofNat (by omega), lead_two _ (by omega) (by omega)] at hlead
      cases hlead
      exact ⟨⟨rfl, by dsimp only; omega, by dsimp only; omega⟩, rfl⟩
    | three hlow hhigh =>
      have hsurrogate : c.toNat < 0xD800 ∨ 0xDFFF < c.toNat := c.valid.imp_right And.left
      rw [toNat_ofNat (by omega), lead_three _ (by omega)] at hlead
      cases hlead
      exact ⟨⟨rfl, by dsimp only; split <;> omega, by dsimp only; split <;> omega⟩, rfl⟩
    | four hlow =>
      rw [toNat_ofNat (by omega), lead_four _ (by omega)] at hlead
      cases hlead
      exact ⟨⟨rfl, by dsimp only; split <;> omega, by dsimp only; split <;> omega⟩, rfl⟩
  | @next part value low high more b hreached hlow hhigh ih =>
    obtain ⟨hadmits, hencode⟩ := ih ((List.prefix_append part [b]).trans hstarts)
    have hbyte : b = tail (c.toNat / 64 ^ (more + 1)) := by
      rw [hencode, List.prefix_append_right_inj, owed, List.cons_prefix_cons] at hstarts
      exact hstarts.1
    have hvalue : c.toNat / 64 ^ (more + 1) / 64 = value := (div_pow_succ c.toNat (more + 1)).symm.trans hadmits.value
    refine ⟨⟨?_, by dsimp only; omega, by dsimp only; omega⟩, ?_⟩
    · dsimp only
      rw [hbyte, toNat_tail]
      omega
    · rw [hencode, owed, hbyte, List.append_assoc]
      rfl

/-- The byte in front of a character tells how many there are. -/
def headByte (n : Nat) : Nat :=
  if n < 0x80 then n
  else if n < 0x800 then n / 64 + 0xC0
  else if n < 0x10000 then n / 4096 + 0xE0
  else n / 262144 + 0xF0

/-- Every character begins with this byte. -/
theorem headByte_starts (c : Char) : [UInt8.ofNat (headByte c.toNat)] <+: String.utf8EncodeChar c := by
  have hwritten := written c
  generalize String.utf8EncodeChar c = bytes at hwritten
  have hhead : ∀ n behind, headByte c.toNat = n → [UInt8.ofNat (headByte c.toNat)] <+: UInt8.ofNat n :: behind := by
    rintro _ behind rfl
    exact ⟨behind, rfl⟩
  cases hwritten with
  | one hhigh => exact hhead _ _ (by rw [headByte, if_pos hhigh])
  | two hlow hhigh => exact hhead _ _ (by rw [headByte, if_neg (by omega), if_pos hhigh])
  | three hlow hhigh => exact hhead _ _ (by rw [headByte, if_neg (by omega), if_neg (by omega), if_pos hhigh])
  | four hlow => exact hhead _ _ (by rw [headByte, if_neg (by omega), if_neg (by omega), if_neg (by omega)])

theorem exists_char (hvalid : n.isValidChar) : ∃ c : Char, c.toNat = n := ⟨Char.ofNatAux n hvalid, rfl⟩

/-- What is admitted behind the byte that starts a sequence is a character, and this is its first byte. -/
theorem of_admits_start (hlead : lead b.toNat = .start sequence) (hadmits : sequence.Admits n) :
    n.isValidChar ∧ headByte n = b.toNat := by
  obtain ⟨hlow, hhigh, rfl⟩ | ⟨hlow, hhigh, rfl⟩ | ⟨hlow, hhigh, rfl⟩ := of_lead_start hlead
  · obtain ⟨hvalue, -, -⟩ := hadmits
    change n / 64 = b.toNat - 0xC0 at hvalue
    refine ⟨.inl (by omega), ?_⟩
    rw [headByte, if_neg (by omega), if_pos (by omega)]
    omega
  · obtain ⟨hvalue, hfrom, hto⟩ := hadmits
    change n / 4096 = b.toNat - 0xE0 at hvalue
    change (if b.toNat = 0xE0 then 0xA0 else 0x80) ≤ n / 64 % 64 + 0x80 at hfrom
    change n / 64 % 64 + 0x80 ≤ if b.toNat = 0xED then 0x9F else 0xBF at hto
    -- Neither what two bytes could hold nor a surrogate is in range.
    have hlong : 0x800 ≤ n := by split at hfrom <;> omega
    have hscalar : n < 0xD800 ∨ 0xDFFF < n := by split at hto <;> omega
    refine ⟨hscalar.imp_right fun hover => ⟨hover, by omega⟩, ?_⟩
    rw [headByte, if_neg (by omega), if_neg (by omega), if_pos (by omega)]
    omega
  · obtain ⟨hvalue, hfrom, hto⟩ := hadmits
    change n / 262144 = b.toNat - 0xF0 at hvalue
    change (if b.toNat = 0xF0 then 0x90 else 0x80) ≤ n / 4096 % 64 + 0x80 at hfrom
    change n / 4096 % 64 + 0x80 ≤ if b.toNat = 0xF4 then 0x8F else 0xBF at hto
    -- Neither what three bytes could hold nor anything past the last character is in range.
    have hlong : 0x10000 ≤ n := by split at hfrom <;> omega
    have hlast : n < 0x110000 := by split at hto <;> omega
    refine ⟨.inr ⟨by omega, hlast⟩, ?_⟩
    rw [headByte, if_neg (by omega), if_neg (by omega), if_neg (by omega)]
    omega

/-- Every number that the sequence admits is a character that begins as the bytes read. -/
theorem Reached.exists_of_admits (hreached : Reached part sequence) (hadmits : sequence.Admits n) :
    ∃ c : Char, c.toNat = n ∧ part <+: String.utf8EncodeChar c := by
  induction hreached with
  | @start b sequence hlead =>
    obtain ⟨hvalid, hhead⟩ := of_admits_start hlead hadmits
    obtain ⟨c, rfl⟩ := exists_char hvalid
    have hstarts := headByte_starts c
    rw [hhead, UInt8.ofNat_toNat] at hstarts
    exact ⟨c, rfl, hstarts⟩
  | @next part value low high more b hreached hlow hhigh ih =>
    obtain ⟨hfrom, -, hto⟩ := hreached.bounds
    obtain ⟨hvalue, -, -⟩ := hadmits
    dsimp only at hvalue hfrom hto
    have hhigher := div_pow_succ n (more + 1)
    -- What is admitted now was admitted before this byte, which only narrows it down.
    obtain ⟨c, rfl, hstarts⟩ := ih ⟨by dsimp only; omega, by dsimp only; omega, by dsimp only; omega⟩
    have hbyte : tail (c.toNat / 64 ^ (more + 1)) = b := by
      rw [← UInt8.toNat_inj, toNat_tail]
      omega
    refine ⟨c, rfl, owed more c.toNat, ?_⟩
    rw [(hreached.of_starts hstarts).2, owed, hbyte, List.append_assoc]
    rfl

/-- A byte in range ends the sequence, if none is to follow. -/
theorem Reached.encodeChar_eq {value low high : Nat} (hreached : Reached part ⟨value, low, high, 0⟩)
    (hlow : low ≤ b.toNat) (hhigh : b.toNat ≤ high) :
    String.utf8EncodeChar (Char.ofNat (value * 64 + (b.toNat - 0x80))) = part ++ [b] := by
  obtain ⟨hfrom, -, hto⟩ := hreached.bounds
  dsimp only at hfrom hto
  have hvalue : (value * 64 + (b.toNat - 0x80)) / 64 = value := by omega
  have hbits : (value * 64 + (b.toNat - 0x80)) / 64 ^ 0 % 64 + 0x80 = b.toNat := by
    rw [Nat.pow_zero, Nat.div_one]
    omega
  obtain ⟨c, hc, hstarts⟩ := hreached.exists_of_admits
    ⟨hvalue, Nat.le_trans hlow (Nat.le_of_eq hbits.symm), Nat.le_trans (Nat.le_of_eq hbits) hhigh⟩
  have hbyte : tail c.toNat = b := by
    rw [← UInt8.toNat_inj, toNat_tail, hc]
    omega
  rw [← hc, Char.ofNat_toNat, (hreached.of_starts hstarts).2, owed, hbyte]

/-- There is a character that begins as the bytes read, and it goes on. -/
theorem Reached.opens (hreached : Reached part sequence) :
    ∃ c, part <+: String.utf8EncodeChar c ∧ part.length < (String.utf8EncodeChar c).length := by
  obtain ⟨hfrom, hthrough, hto⟩ := hreached.bounds
  -- The number that has the lowest byte next, and zeroes from there on.
  let n := (sequence.value * 64 + (sequence.low - 0x80)) * 64 ^ sequence.more
  have hshift : n / 64 ^ sequence.more = sequence.value * 64 + (sequence.low - 0x80) :=
    Nat.mul_div_cancel _ (Nat.pow_pos (by decide))
  have hvalue : n / 64 ^ (sequence.more + 1) = sequence.value := by
    rw [div_pow_succ, hshift]
    omega
  have hadmits : sequence.Admits n := ⟨hvalue, by rw [hshift]; omega, by rw [hshift]; omega⟩
  obtain ⟨c, -, hstarts⟩ := hreached.exists_of_admits hadmits
  refine ⟨c, hstarts, ?_⟩
  obtain ⟨behind, hbehind⟩ := owed_cons sequence.more c.toNat
  rw [(hreached.of_starts hstarts).2, hbehind, List.length_append, List.length_cons]
  omega

/-! ## Where a sequence breaks off -/

theorem Reached.ne_nil (hreached : Reached part sequence) : part ≠ [] := by
  cases hreached with
  | start => exact List.cons_ne_nil _ _
  | next => exact List.append_ne_nil_of_right_ne_nil _ (List.cons_ne_nil _ _)

/-- The next byte of a character is in range. -/
theorem Reached.in_range (hreached : Reached part sequence) (hstarts : part ++ [b] <+: String.utf8EncodeChar c) :
    sequence.low ≤ b.toNat ∧ b.toNat ≤ sequence.high := by
  obtain ⟨hadmits, hencode⟩ := hreached.of_starts ((List.prefix_append part [b]).trans hstarts)
  obtain ⟨behind, hbehind⟩ := owed_cons sequence.more c.toNat
  rw [hencode, hbehind, List.prefix_append_right_inj, List.cons_prefix_cons] at hstarts
  rw [hstarts.1, toNat_tail]
  exact ⟨hadmits.low, hadmits.high⟩

/-- What is longer than the bytes read and begins a character has a byte behind them that may come next. -/
theorem Reached.length_le {longer : Bytes} (hreached : Reached part sequence)
    (hrest : ∀ b ∈ rest.head?, ¬ (sequence.low ≤ b.toNat ∧ b.toNat ≤ sequence.high))
    (hlonger : longer <+: part ++ rest) (hopens : longer <+: String.utf8EncodeChar c) :
    longer.length ≤ part.length := by
  refine Nat.le_of_not_lt fun hmore => ?_
  obtain ⟨behind, rfl⟩ := List.prefix_of_prefix_length_le (List.prefix_append part rest) hlonger (Nat.le_of_lt hmore)
  cases behind with
  | nil => exact Nat.lt_irrefl _ (List.append_nil part ▸ hmore)
  | cons b behind =>
    -- The byte behind the part is the first of the rest, and that one is out of range.
    have hhead : b ∈ rest.head? := by
      obtain ⟨others, hothers⟩ := (List.prefix_append_right_inj part).mp hlonger
      rw [← hothers]
      rfl
    have hone : part ++ [b] <+: part ++ b :: behind := (List.prefix_append_right_inj part).mpr ⟨behind, rfl⟩
    exact hrest b hhead (hreached.in_range (hone.trans hopens))

/-- A sequence that no byte in range follows is a broken part. -/
theorem Reached.broken (hreached : Reached part sequence)
    (hrest : ∀ b ∈ rest.head?, ¬ (sequence.low ≤ b.toNat ∧ b.toNat ≤ sequence.high)) : Broken part rest := by
  obtain ⟨c, hstarts, hlength⟩ := hreached.opens
  refine
    { nonempty := hreached.ne_nil
      no_char := fun c' hchar => ?_
      opens := .inl ⟨hreached.ne_nil, c, hstarts⟩
      longest := fun longer hlonger ⟨_, c', hopens⟩ => hreached.length_le hrest hlonger hopens }
  -- A character that is all there would be shorter than the part, and so be the one that the part begins.
  have hshort := hreached.length_le hrest hchar (List.prefix_refl _)
  have hwithin := List.prefix_of_prefix_length_le hchar (List.prefix_append part rest) hshort
  obtain rfl : c' = c := char_eq_of_starts (hwithin.trans hstarts)
  exact Nat.not_le_of_lt hlength hshort

/-! ## Bytes that start nothing -/

/-- A lead byte that is whole is a character below 0x80. -/
theorem of_lead_whole (hlead : lead n = .whole c) : n < 0x80 ∧ c = Char.ofNat n := by
  revert hlead
  fun_cases lead n with
  | case1 hone => exact fun hlead => ⟨hone, (Lead.whole.inj hlead).symm⟩
  | case2 | case3 | case4 | case5 | case6 => exact fun hlead => nomatch hlead

/-- A character that takes one byte is written as that byte. -/
theorem encodeChar_of_lead_whole (hlead : lead b.toNat = .whole c) : String.utf8EncodeChar c = [b] := by
  obtain ⟨hone, rfl⟩ := of_lead_whole hlead
  obtain ⟨c, hc⟩ := exists_char (n := b.toNat) (.inl (by omega))
  have hwritten := written c
  rw [← hc, Char.ofNat_toNat]
  generalize String.utf8EncodeChar c = bytes at hwritten
  cases hwritten with
  | one => rw [hc, UInt8.ofNat_toNat]
  | two | three | four => omega

/-- Bytes that start nothing are tails, or would start a sequence longer than it need be or past the last character.
-/
theorem of_lead_invalid (hlead : lead n = .invalid) : 0x80 ≤ n ∧ (n < 0xC2 ∨ 0xF5 ≤ n) := by
  revert hlead
  fun_cases lead n with
  | case2 | case6 => omega
  | case1 | case3 | case4 | case5 => exact fun hlead => nomatch hlead

/-- No character begins with one of those. -/
theorem headByte_range (hlast : n < 0x110000) : headByte n < 0x80 ∨ 0xC2 ≤ headByte n ∧ headByte n < 0xF5 := by
  fun_cases headByte n <;> omega

/-- No character begins with a byte that starts nothing. -/
theorem lead_ne_invalid (hstarts : [b] <+: String.utf8EncodeChar c) : lead b.toNat ≠ .invalid := by
  intro hlead
  have hinvalid := of_lead_invalid hlead
  have hrange := headByte_range (toNat_lt c)
  have hsame := List.prefix_of_prefix_length_le hstarts (headByte_starts c) (Nat.le_refl 1)
  rw [(List.cons_prefix_cons.mp hsame).1, toNat_ofNat (by omega)] at hinvalid
  omega

/-- A byte that starts nothing is broken by itself. -/
theorem broken_of_lead_invalid (hlead : lead b.toNat = .invalid) (rest : Bytes) : Broken [b] rest := by
  have hnone : ∀ part c, part ≠ [] → part <+: b :: rest → ¬ part <+: String.utf8EncodeChar c := by
    intro part c hne hpart hstarts
    obtain ⟨head, behind, rfl⟩ := List.exists_cons_of_ne_nil hne
    obtain ⟨rfl, -⟩ := List.cons_prefix_cons.mp hpart
    exact lead_ne_invalid (List.IsPrefix.trans ⟨behind, rfl⟩ hstarts) hlead
  refine ⟨List.cons_ne_nil _ _, fun c hchar => ?_, .inr rfl, fun longer hlonger ⟨hne, c, hopens⟩ => ?_⟩
  · exact hnone _ c (encodeChar_ne_nil c) hchar (List.prefix_refl _)
  · exact absurd hopens (hnone longer c hne hlonger)

/-! ## The main result -/

/-- What is read behind a sequence that breaks off. -/
theorem decodeFrom_broken (hrange : ¬ (sequence.low ≤ b.toNat ∧ b.toNat ≤ sequence.high)) (rest : Bytes) :
    decodeFrom (some sequence) (b :: rest) = replacement :: decodeFrom none (b :: rest) := by
  simp only [decodeFrom, if_neg hrange]
  cases lead b.toNat <;> rfl

/-- What is read is the text of the bytes, those of the unfinished sequence included. -/
theorem lossy_decodeFrom (bytes : Bytes) : Lossy bytes (decodeFrom none bytes) ∧
    ∀ part sequence, Reached part sequence → Lossy (part ++ bytes) (decodeFrom (some sequence) bytes) := by
  -- Both at once, since a byte out of range is read again as a fresh one.
  induction bytes with
  | nil =>
    refine ⟨.nil, fun part sequence hreached => ?_⟩
    exact .broken (hreached.broken fun b hmem => nomatch hmem) .nil
  | cons b rest ih =>
    obtain ⟨hnone, hsome⟩ := ih
    have hfresh : Lossy (b :: rest) (decodeFrom none (b :: rest)) := by
      rw [decodeFrom]
      cases hlead : lead b.toNat with
      | whole c =>
        have hchar := Lossy.char c hnone
        rwa [encodeChar_of_lead_whole hlead] at hchar
      | start sequence => exact hsome [b] sequence (.start hlead)
      | invalid => exact .broken (broken_of_lead_invalid hlead rest) hnone
    refine ⟨hfresh, fun part sequence hreached => ?_⟩
    -- In range the sequence grows or ends, and out of range it breaks off in front of the byte.
    by_cases hrange : sequence.low ≤ b.toNat ∧ b.toNat ≤ sequence.high
    · obtain ⟨value, low, high, more⟩ := sequence
      have happend : part ++ b :: rest = (part ++ [b]) ++ rest := by rw [List.append_assoc, List.singleton_append]
      rw [decodeFrom, if_pos hrange, happend]
      cases more with
      | zero =>
        have hchar := Lossy.char (Char.ofNat (value * 64 + (b.toNat - 0x80))) hnone
        rwa [hreached.encodeChar_eq hrange.1 hrange.2] at hchar
      | succ more => exact hsome _ _ (hreached.next hrange.1 hrange.2)
    · rw [decodeFrom_broken hrange]
      exact .broken (hreached.broken fun b' hmem => by cases hmem; exact hrange) hfresh

/-- **The decoder reads the one text that the bytes stand for.** -/
theorem lossy_iff : Lossy bytes text ↔ text = decodeFrom none bytes := by
  constructor
  · exact fun hlossy => hlossy.unique (lossy_decodeFrom bytes).1
  · rintro rfl
    exact (lossy_decodeFrom bytes).1

/-! ## What it takes -/

/-- Every character takes a byte, and every replacement character one that could not be read. -/
theorem Lossy.length_le (hlossy : Lossy bytes text) : text.length ≤ bytes.length := by
  induction hlossy with
  | nil => exact Nat.le_refl 0
  | char c hrest ih =>
    have hpositive := List.length_pos_iff.mpr (encodeChar_ne_nil c)
    rw [List.length_cons, List.length_append]
    omega
  | broken hbroken hrest ih =>
    have hpositive := List.length_pos_iff.mpr hbroken.nonempty
    rw [List.length_cons, List.length_append]
    omega

/-- A replacement character takes three bytes, where there was at least one. -/
theorem Lossy.length_encode_le (hlossy : Lossy bytes text) :
    (text.flatMap String.utf8EncodeChar).length ≤ 3 * bytes.length := by
  induction hlossy with
  | nil => exact Nat.le_refl 0
  | char c hrest ih =>
    rw [List.flatMap_cons, List.length_append, List.length_append]
    omega
  | broken hbroken hrest ih =>
    have hpositive := List.length_pos_iff.mpr hbroken.nonempty
    have hthree : (String.utf8EncodeChar replacement).length = 3 := by decide
    rw [List.flatMap_cons, List.length_append, List.length_append, hthree]
    omega

/-- Only a zero byte is read as the character zero. -/
theorem Lossy.nul_mem (hlossy : Lossy bytes text) (hmem : '\x00' ∈ text) : 0 ∈ bytes := by
  induction hlossy with
  | nil => exact nomatch hmem
  | @char c rest text hrest ih =>
    rcases List.mem_cons.mp hmem with rfl | hmem
    · exact List.mem_append_left _ (by decide)
    · exact List.mem_append_right _ (ih hmem)
  | broken hbroken hrest ih =>
    rcases List.mem_cons.mp hmem with hnul | hmem
    · exact absurd hnul (by decide)
    · exact List.mem_append_right _ (ih hmem)

/-- Bytes that are read without a replacement are the bytes of what is read. -/
theorem Lossy.encoded (hlossy : Lossy bytes text) (hnone : replacement ∉ text) :
    bytes = text.flatMap String.utf8EncodeChar := by
  induction hlossy with
  | nil => rfl
  | char c hrest ih => rw [List.flatMap_cons, ← ih (List.not_mem_of_not_mem_cons hnone)]
  | broken hbroken hrest ih => exact absurd List.mem_cons_self hnone

end HciTransport.Utf8
