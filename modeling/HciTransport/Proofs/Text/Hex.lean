import Mathlib.Algebra.Group.Nat.Defs
import HciTransport.Text.Hex

/-!
# Digits

What is written in hexadecimal is made of digits in lower case, and a number of a fixed count of digits is read
back from them if it fits (`value?_fixed`).
-/

namespace HciTransport.Hex

variable {width n : Nat}

/-- The text is made of digits in lower case. -/
def IsLower (text : String) : Prop := ∀ c ∈ text.toList, c ∈ "0123456789abcdef".toList

theorem lowerDigit_mem {n : Nat} (small : n < 16) : lowerDigit n ∈ "0123456789abcdef".toList := by
  rcases n with _ | _ | _ | _ | _ | _ | _ | _ | _ | _ | _ | _ | _ | _ | _ | _ | n
  all_goals first | decide | omega

/-- Bytes are written in digits. -/
theorem isLower_encode (bytes : Bytes) : IsLower (encode bytes) := by
  intro c hmem
  rw [encode, String.toList_ofList] at hmem
  obtain ⟨byte, -, hmem⟩ := List.mem_flatMap.mp hmem
  have hbyte : byte.toNat < 256 := byte.toNat_lt
  simp only [pair, List.mem_cons, List.not_mem_nil, or_false] at hmem
  rcases hmem with rfl | rfl
  · exact lowerDigit_mem (by omega)
  · exact lowerDigit_mem (by omega)

/-! ## Numbers -/

theorem length_fixed (width n : Nat) : (fixed width n).length = width := by
  induction width generalizing n with
  | zero => rfl
  | succ width ih => rw [fixed, List.length_append, ih, List.length_singleton]

theorem isLower_fixed (width n : Nat) : IsLower (String.ofList (fixed width n)) := by
  rw [IsLower, String.toList_ofList]
  induction width generalizing n with
  | zero => exact List.forall_mem_nil _
  | succ width ih =>
    intro c hmem
    rcases List.mem_append.mp hmem with hmem | hmem
    · exact ih _ c hmem
    · rw [List.mem_singleton.mp hmem]
      exact lowerDigit_mem (Nat.mod_lt _ (by decide))

/-- One digit more makes sixteen times the number, and the digit. -/
theorem value?_concat {digits : List Char} {c : Char} {total digit : Nat} (htotal : value? digits = some total)
    (hdigit : digitValue? c = some digit) : value? (digits ++ [c]) = some (16 * total + digit) := by
  rw [value?] at htotal
  rw [value?, List.foldl_append, htotal, List.foldl_cons, hdigit]
  rfl

/-- **A number that fits is read back from its digits.** -/
theorem value?_fixed (hfits : n < 16 ^ width) : value? (fixed width n) = some n := by
  -- Digit by digit from the last one: the others spell the sixteenth part.
  induction width generalizing n with
  | zero =>
    obtain rfl : n = 0 := Nat.lt_one_iff.mp hfits
    rfl
  | succ width ih =>
    have hhigh : n / 16 < 16 ^ width := Nat.div_lt_of_lt_mul (by rwa [Nat.pow_succ'] at hfits)
    have hlow := digitValue?_lowerDigit (Nat.mod_lt n (show 0 < 16 by decide))
    rw [fixed, value?_concat (ih hhigh) hlow, Nat.div_add_mod]

/-! ## As few digits as it takes -/

theorem lowerDigit_eq_digitChar (hsmall : n < 16) : lowerDigit n = n.digitChar := by
  have hall : ∀ n < 16, lowerDigit n = n.digitChar := by decide
  exact hall n hsmall

/-- Without leading zeroes a number is written in digits too. -/
theorem isLower_toDigits (n : Nat) : IsLower (String.ofList (Nat.toDigits 16 n)) := by
  rw [IsLower, String.toList_ofList]
  -- A sixteenth of the number has one digit less.
  induction n using Nat.strongRecOn with
  | ind n ih =>
    intro c hmem
    rw [Nat.toDigits_eq_if (by decide)] at hmem
    split at hmem
    · next hsmall =>
      rw [List.mem_singleton.mp hmem, ← lowerDigit_eq_digitChar hsmall]
      exact lowerDigit_mem hsmall
    · next hlarge =>
      have hlow : n % 16 < 16 := Nat.mod_lt _ (by decide)
      rcases List.mem_append.mp hmem with hmem | hmem
      · exact ih (n / 16) (by omega) c hmem
      · rw [List.mem_singleton.mp hmem, ← lowerDigit_eq_digitChar hlow]
        exact lowerDigit_mem hlow

/-- A number is read back from as few digits as it takes. -/
theorem value?_toDigits (n : Nat) : value? (Nat.toDigits 16 n) = some n := by
  induction n using Nat.strongRecOn with
  | ind n ih =>
    rw [Nat.toDigits_eq_if (by decide)]
    split
    -- One digit is read behind no digits.
    · next hsmall =>
      rw [← lowerDigit_eq_digitChar hsmall]
      have hnone : value? [] = some 0 := rfl
      rw [← List.nil_append [lowerDigit n], value?_concat hnone (digitValue?_lowerDigit hsmall), Nat.mul_zero,
        Nat.zero_add]
    · next hlarge =>
      have hlow : n % 16 < 16 := Nat.mod_lt _ (by decide)
      rw [← lowerDigit_eq_digitChar hlow, value?_concat (ih (n / 16) (by omega)) (digitValue?_lowerDigit hlow),
        Nat.div_add_mod]

/-- A number is known from its digits. -/
theorem minimal_inj {other : Nat} : minimal n = minimal other ↔ n = other := by
  constructor
  · intro hsame
    -- The prefix of two characters is the same in both.
    have hdigits : Nat.toDigits 16 n = Nat.toDigits 16 other := by
      have hchars := String.ofList_inj.mp hsame
      exact (List.cons.inj (List.cons.inj hchars).2).2
    have hvalue := congrArg value? hdigits
    rw [value?_toDigits, value?_toDigits] at hvalue
    exact Option.some.inj hvalue
  · rintro rfl
    rfl

/-- Bytes are known from their digits. -/
theorem encode_inj {bytes bytes' : Bytes} : encode bytes = encode bytes' ↔ bytes = bytes' := by
  constructor
  · intro hsame
    have hback := congrArg decode hsame
    rw [decode_encode, decode_encode] at hback
    exact Option.some.inj hback
  · rintro rfl
    rfl

end HciTransport.Hex
