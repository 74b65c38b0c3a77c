import HciTransport.Bytes

/-!
# Hexadecimal text

Bytes are written as two digits each, high half first; numbers as a fixed count of digits or as few
digits as possible. `decode_encode` says that reading what was written gives the bytes back, in
either case of the letters.
-/

namespace HciTransport.Hex

/-- The lower-case digit of a number below sixteen. -/
def lowerDigit (n : Nat) : Char := if n < 10 then Char.ofNat (48 + n) else Char.ofNat (87 + n)

/-- The upper-case digit of a number below sixteen. -/
def upperDigit (n : Nat) : Char := if n < 10 then Char.ofNat (48 + n) else Char.ofNat (55 + n)

/-- The value of a digit, of either case. -/
def digitValue? (c : Char) : Option Nat :=
  if 48 ≤ c.toNat ∧ c.toNat ≤ 57 then some (c.toNat - 48)
  else if 97 ≤ c.toNat ∧ c.toNat ≤ 102 then some (c.toNat - 87)
  else if 65 ≤ c.toNat ∧ c.toNat ≤ 70 then some (c.toNat - 55)
  else none

/-- The two digits of a byte. -/
def pair (digit : Nat → Char) (b : UInt8) : List Char := [digit (b.toNat / 16), digit (b.toNat % 16)]

/-- Bytes in lower case, nothing between them. -/
def encode (bytes : Bytes) : String := String.ofList (bytes.flatMap (pair lowerDigit))

/-- Reads pairs of digits; an odd digit or any other character is refused. -/
def decodeChars : List Char → Option Bytes
  | [] => some []
  | [_] => none
  | high :: low :: rest =>
    match digitValue? high, digitValue? low, decodeChars rest with
    | some h, some l, some bytes => some (UInt8.ofNat (16 * h + l) :: bytes)
    | _, _, _ => none

def decode (text : String) : Option Bytes := decodeChars text.toList

/-- Exactly `width` digits of `n`, most significant first; higher digits are cut off. -/
def fixed : Nat → Nat → List Char
  | 0, _ => []
  | width + 1, n => fixed width (n / 16) ++ [lowerDigit (n % 16)]

/-- A number with its marker and at least `width` digits, for `n` below `16 ^ width`. -/
def padded (width n : Nat) : String := String.ofList ('0' :: 'x' :: fixed width n)

/-- A number with its marker and as few digits as it takes. -/
def minimal (n : Nat) : String := String.ofList ('0' :: 'x' :: Nat.toDigits 16 n)

/-- The number that a list of digits spells, most significant first. -/
def value? (digits : List Char) : Option Nat :=
  digits.foldl (fun total c => do return 16 * (← total) + (← digitValue? c)) (some 0)

/-! ### Reading back -/

theorem digitValue?_lowerDigit {n : Nat} (small : n < 16) : digitValue? (lowerDigit n) = some n := by
  rcases n with _ | _ | _ | _ | _ | _ | _ | _ | _ | _ | _ | _ | _ | _ | _ | _ | n
  all_goals first | rfl | omega

theorem digitValue?_upperDigit {n : Nat} (small : n < 16) : digitValue? (upperDigit n) = some n := by
  rcases n with _ | _ | _ | _ | _ | _ | _ | _ | _ | _ | _ | _ | _ | _ | _ | _ | n
  all_goals first | rfl | omega

/-- Either digit function reads back, so either may write the pairs. -/
theorem decodeChars_pairs {digit : Nat → Char}
    (reads : ∀ n, n < 16 → digitValue? (digit n) = some n) (bytes : Bytes) :
    decodeChars (bytes.flatMap (pair digit)) = some bytes := by
  induction bytes with
  | nil => rfl
  | cons b rest ih =>
    have small : b.toNat < 256 := b.toNat_lt
    have high := reads (b.toNat / 16) (by omega)
    have low := reads (b.toNat % 16) (by omega)
    have whole : 16 * (b.toNat / 16) + b.toNat % 16 = b.toNat := by omega
    simp [pair, decodeChars, high, low, ih, whole]

theorem decode_encode (bytes : Bytes) : decode (encode bytes) = some bytes := by
  simp [decode, encode, decodeChars_pairs fun _ => digitValue?_lowerDigit]

end HciTransport.Hex
