import MiniRtsp.Lib.Wire
import Mathlib.Data.List.TakeWhile

/-!
# Bytes of text

ASCII text as bytes (`ascii`), and the decimal digits of a number (`decimal`) as `%d` and `%u` print them.
-/

namespace MiniRtsp.Text

/-- The bytes of an ASCII text. -/
def ascii (s : String) : List UInt8 := s.toList.map fun c => UInt8.ofNat c.toNat

/-- `%u`: the decimal digits of a number. -/
def decimal (n : Nat) : List UInt8 := (Nat.toDigits 10 n).map fun c => UInt8.ofNat c.toNat

/-- `%d`. -/
def decimalInt : Int → List UInt8
  | .ofNat n => decimal n
  | .negSucc n => ascii "-" ++ decimal (n + 1)

/-- `isdigit`. -/
def isDigit (b : UInt8) : Bool := 0x30 ≤ b && b ≤ 0x39

/-- The value of a digit. -/
def digitVal (b : UInt8) : Nat := b.toNat - 0x30

/-- The C string in a buffer: the bytes before the first NUL. -/
def cString (buffer : List UInt8) : List UInt8 := buffer.takeWhile (· ≠ 0)

theorem cString_of_noNul {buffer : List UInt8} (h : 0 ∉ buffer) : cString buffer = buffer := by
  unfold cString
  rw [List.takeWhile_eq_self_iff]
  intro b hb
  have hne : b ≠ 0 := fun h0 => h (h0 ▸ hb)
  simpa using hne

end MiniRtsp.Text
