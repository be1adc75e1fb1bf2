import MiniRtsp.Lib.Base64Format

/-!
# Base64

`sdp/base64.c`: groups of three bytes become four characters, as long as the output has room for them and for the NUL
behind them. What is written is the encoding of RFC 4648 (`base64Encode_eq`).
-/

namespace MiniRtsp.Sdp

open Text

def base64Table : Bytes := ascii "ABCDEFGHIJKLMNOPQRSTUVWXYZabcdefghijklmnopqrstuvwxyz0123456789+/"

/-- `base64_table[(value >> shift) & 0x3f]`. -/
def base64Char (value : UInt32) (shift : UInt32) : UInt8 := base64Table.getD ((value >>> shift) &&& 0x3f).toNat 0

/-- The four characters of a group; the second and the third byte may be missing. -/
def base64Group (a : UInt8) (b c : Option UInt8) : Bytes :=
  let value := a.toUInt32 <<< 16 ||| (b.getD 0).toUInt32 <<< 8 ||| (c.getD 0).toUInt32
  [base64Char value 18, base64Char value 12, if b.isSome then base64Char value 6 else 0x3d,
    if c.isSome then base64Char value 0 else 0x3d]

/-- The loop of `base64_encode` over the rest of the input and the output so far; `none` for `-1`. -/
def base64Loop (outputSize : Int) : Bytes → Bytes → Option Bytes
  | [], out => some out
  | [a], out => if (out.length : Int) + 4 ≥ outputSize then none else some (out ++ base64Group a none none)
  | [a, b], out => if (out.length : Int) + 4 ≥ outputSize then none else some (out ++ base64Group a (some b) none)
  | a :: b :: c :: rest, out =>
    if (out.length : Int) + 4 ≥ outputSize then none
    else base64Loop outputSize rest (out ++ base64Group a (some b) (some c))

/-- `base64_encode`: the characters before the NUL. -/
def base64Encode (input : Bytes) (outputSize : Int) : Option Bytes := base64Loop outputSize input []

/-! ## Against RFC 4648 -/

theorem base64Char_eq (value shift : UInt32) (h : shift.toNat < 32) :
    base64Char value shift = Base64Format.digit (value.toNat >>> shift.toNat) := by
  have hindex : ((value >>> shift) &&& 0x3f).toNat = (value.toNat >>> shift.toNat) % 64 := by
    rw [UInt32.toNat_and, UInt32.toNat_shiftRight, Nat.mod_eq_of_lt h]
    exact Nat.and_two_pow_sub_one_eq_mod _ 6
  rw [base64Char, hindex]
  rfl

/-- The 24 bits of a group. -/
theorem toNat_group (a b c : UInt8) :
    (a.toUInt32 <<< 16 ||| b.toUInt32 <<< 8 ||| c.toUInt32).toNat = a.toNat * 65536 + b.toNat * 256 + c.toNat := by
  have ha := a.toNat_lt
  have hb := b.toNat_lt
  have hc := c.toNat_lt
  have hhigh : (a.toUInt32 <<< 16).toNat = 2 ^ 16 * a.toNat := by
    rw [UInt32.toNat_shiftLeft, UInt8.toNat_toUInt32]
    simp only [UInt32.reduceToNat, Nat.reduceMod, Nat.shiftLeft_eq]
    omega
  have hmiddle : (b.toUInt32 <<< 8).toNat = 2 ^ 8 * b.toNat := by
    rw [UInt32.toNat_shiftLeft, UInt8.toNat_toUInt32]
    simp only [UInt32.reduceToNat, Nat.reduceMod, Nat.shiftLeft_eq]
    omega
  have hjoined : 2 ^ 16 * a.toNat + 2 ^ 8 * b.toNat = 2 ^ 8 * (256 * a.toNat + b.toNat) := by omega
  rw [UInt32.toNat_or, UInt32.toNat_or, hhigh, hmiddle, UInt8.toNat_toUInt32,
    ← Nat.two_pow_add_eq_or_of_lt (by omega), hjoined, ← Nat.two_pow_add_eq_or_of_lt (by omega)]
  omega

theorem base64Group_eq (a : UInt8) (b c : Option UInt8) : base64Group a b c = Base64Format.encodeGroup a b c := by
  have h18 : (18 : UInt32).toNat = 18 := rfl
  have h12 : (12 : UInt32).toNat = 12 := rfl
  have h6 : (6 : UInt32).toNat = 6 := rfl
  have h0 : (0 : UInt32).toNat = 0 := rfl
  simp only [base64Group, Base64Format.encodeGroup]
  rw [base64Char_eq _ 18 (by decide), base64Char_eq _ 12 (by decide), base64Char_eq _ 6 (by decide),
    base64Char_eq _ 0 (by decide), toNat_group, h18, h12, h6, h0]
  simp only [Nat.shiftRight_eq_div_pow, Nat.reducePow, Nat.pow_zero, Nat.div_one]
  rfl

/-- The loop goes through when there is room for all groups and the NUL. -/
theorem base64Loop_fits {outputSize : Int} : ∀ {input out : Bytes},
    (input ≠ [] → (out.length : Int) + 4 * ((input.length + 2) / 3 : Nat) < outputSize) →
      base64Loop outputSize input out = some (out ++ Base64Format.encode input)
  | [], out, _ => by simp [base64Loop, Base64Format.encode]
  | [a], out, h => by
    have hroom := h (by simp)
    simp only [List.length_cons, List.length_nil] at hroom
    rw [base64Loop, if_neg (by omega), base64Group_eq, Base64Format.encode]
  | [a, b], out, h => by
    have hroom := h (by simp)
    simp only [List.length_cons, List.length_nil] at hroom
    rw [base64Loop, if_neg (by omega), base64Group_eq, Base64Format.encode]
  | a :: b :: c :: rest, out, h => by
    have hroom := h (by simp)
    have hgroup : (Base64Format.encodeGroup a (some b) (some c)).length = 4 := rfl
    simp only [List.length_cons] at hroom
    rw [base64Loop, if_neg (by omega), base64Group_eq, Base64Format.encode, base64Loop_fits, List.append_assoc]
    intro _
    rw [List.length_append, hgroup]
    push_cast
    omega

/-- The loop fails when there is not. -/
theorem base64Loop_full {outputSize : Int} : ∀ {input out : Bytes}, input ≠ [] →
    outputSize ≤ (out.length : Int) + 4 * ((input.length + 2) / 3 : Nat) → base64Loop outputSize input out = none
  | [], out, h, _ => absurd rfl h
  | [a], out, _, hfull => by
    simp only [List.length_cons, List.length_nil] at hfull
    rw [base64Loop, if_pos (by omega)]
  | [a, b], out, _, hfull => by
    simp only [List.length_cons, List.length_nil] at hfull
    rw [base64Loop, if_pos (by omega)]
  | a :: b :: c :: rest, out, _, hfull => by
    simp only [List.length_cons] at hfull
    rw [base64Loop]
    split
    · rfl
    · rename_i hroom
      have hgroup : (base64Group a (some b) (some c)).length = 4 := rfl
      apply base64Loop_full
      · rintro rfl
        simp only [List.length_nil] at hfull
        omega
      · rw [List.length_append, hgroup]
        push_cast
        omega

/-- **`base64_encode`** of a non-empty input: the encoding if it fits together with the NUL, and `-1` otherwise. -/
theorem base64Encode_eq {input : Bytes} (h : input ≠ []) (outputSize : Int) :
    base64Encode input outputSize =
      if (4 * ((input.length + 2) / 3 : Nat) : Int) < outputSize then some (Base64Format.encode input) else none := by
  unfold base64Encode
  split
  · rename_i hroom
    apply base64Loop_fits
    intro _
    simpa using hroom
  · rename_i hfull
    apply base64Loop_full h
    simpa using hfull

end MiniRtsp.Sdp
