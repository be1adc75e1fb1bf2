import Mathlib.Data.List.Basic
import Mathlib.Tactic.Common

/-!
# Big-endian words

Machine words as big-endian byte strings (`be16`, `be32`) and the number a byte string stands for (`beNat`); reading
back what was written gives the word (`beNat_be16`, `beNat_be32`).
-/

namespace MiniRtsp

abbrev Bytes := List UInt8

namespace Wire

/-- The conversion of a 32-bit word to `int`. -/
def asInt (x : UInt32) : Int := if x.toNat < 2147483648 then x.toNat else x.toNat - 4294967296

theorem asInt_pos {x : UInt32} (h : 0 < asInt x) : asInt x = x.toNat ∧ x.toNat ≤ 2147483647 := by
  have hlt := x.toNat_lt
  unfold asInt at h ⊢
  split
  · exact ⟨rfl, by omega⟩
  · omega

/-- The two bytes of a word, most significant first. -/
def be16 (x : UInt16) : List UInt8 := [(x >>> 8).toUInt8, x.toUInt8]

/-- The four bytes of a double word, most significant first. -/
def be32 (x : UInt32) : List UInt8 := [(x >>> 24).toUInt8, (x >>> 16).toUInt8, (x >>> 8).toUInt8, x.toUInt8]

/-- The number a big-endian byte string stands for. -/
def beNat (bytes : List UInt8) : Nat := bytes.foldl (fun n b => n * 256 + b.toNat) 0

@[simp] theorem length_be16 (x : UInt16) : (be16 x).length = 2 := rfl

@[simp] theorem length_be32 (x : UInt32) : (be32 x).length = 4 := rfl

theorem beNat_be16 (x : UInt16) : beNat (be16 x) = x.toNat := by
  have h := x.toNat_lt
  simp only [beNat, be16, List.foldl_cons, List.foldl_nil, UInt16.toNat_toUInt8, UInt16.toNat_shiftRight,
    Nat.shiftRight_eq_div_pow]
  simp
  omega

theorem beNat_be32 (x : UInt32) : beNat (be32 x) = x.toNat := by
  have h := x.toNat_lt
  simp only [beNat, be32, List.foldl_cons, List.foldl_nil, UInt32.toNat_toUInt8, UInt32.toNat_shiftRight,
    Nat.shiftRight_eq_div_pow]
  simp
  omega

/-- A property of bytes is checked on the 256 of them. -/
theorem forall_byte {P : UInt8 → Prop} (h : ∀ n : Fin UInt8.size, P (.ofFin n)) (b : UInt8) : P b := h b.toFin

theorem ofNat_beNat_be16 (x : UInt16) : UInt16.ofNat (beNat (be16 x)) = x := by
  rw [beNat_be16, UInt16.ofNat_toNat]

theorem ofNat_beNat_be32 (x : UInt32) : UInt32.ofNat (beNat (be32 x)) = x := by
  rw [beNat_be32, UInt32.ofNat_toNat]

end Wire

end MiniRtsp
