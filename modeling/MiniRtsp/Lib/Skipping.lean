import Mathlib.Algebra.BigOperators.Group.Finset.Basic

/-!
# A counter that skips values

The values of a 32-bit counter that skips some values after each (`value`). As long as it does not wrap among the
values that it skips, the next value lies ahead by their number (`value_succ_gt`); where it wraps there, the next value
lies behind (`value_succ_lt`).
-/

namespace MiniRtsp.Skipping

/-- The `k`-th value, when `d k` values are skipped behind the `k`-th. -/
def value (first : UInt32) (d : Nat → Nat) : Nat → UInt32
  | 0 => first
  | k + 1 => value first d k + 1 + UInt32.ofNat (d k)

/-- The counter wraps among the values that it skips behind the `k`-th. -/
def Wraps (first : UInt32) (d : Nat → Nat) (k : Nat) : Prop := 2 ^ 32 ≤ (value first d k + 1).toNat + d k

instance (first : UInt32) (d : Nat → Nat) : DecidablePred (Wraps first d) := fun _ => Nat.decLe _ _

/-- How many values have been skipped before the `n`-th. -/
def skipped (d : Nat → Nat) (n : Nat) : Nat := ∑ k ∈ Finset.range n, d k

/-- How many of them where the counter wrapped. -/
def skippedWrapping (first : UInt32) (d : Nat → Nat) (n : Nat) : Nat :=
  ∑ k ∈ Finset.range n with Wraps first d k, d k

/-- How many of them where it did not. -/
def skippedAhead (first : UInt32) (d : Nat → Nat) (n : Nat) : Nat :=
  ∑ k ∈ Finset.range n with ¬Wraps first d k, d k

theorem skipped_eq (first : UInt32) (d : Nat → Nat) (n : Nat) :
    skippedWrapping first d n + skippedAhead first d n = skipped d n :=
  Finset.sum_filter_add_sum_filter_not _ _ _

theorem skippedAhead_succ (first : UInt32) (d : Nat → Nat) (n : Nat) :
    skippedAhead first d (n + 1) = skippedAhead first d n + if Wraps first d n then 0 else d n := by
  simp only [skippedAhead, Finset.sum_filter, Finset.sum_range_succ, ite_not]

variable {first : UInt32} {d : Nat → Nat} {k : Nat}

theorem toNat_value_succ (h : d k < 2 ^ 32) :
    (value first d (k + 1)).toNat = ((value first d k + 1).toNat + d k) % 2 ^ 32 := by
  rw [value, UInt32.toNat_add, UInt32.toNat_ofNat_of_lt' h]

/-- The next value lies ahead by the number of values skipped. -/
theorem value_succ_sub (first : UInt32) (d : Nat → Nat) (k : Nat) :
    value first d (k + 1) - (value first d k + 1) = UInt32.ofNat (d k) := by
  rw [value, UInt32.add_comm, UInt32.add_sub_cancel]

/-- **Without wrapping** the next value compares as it should. -/
theorem value_succ_gt (h : d k < 2 ^ 32) (hwraps : ¬Wraps first d k) :
    value first d (k + 1) > value first d k + 1 ↔ 0 < d k := by
  rw [Wraps, Nat.not_le] at hwraps
  rw [gt_iff_lt, UInt32.lt_iff_toNat_lt, toNat_value_succ h, Nat.mod_eq_of_lt hwraps]
  omega

/-- **Where the counter wraps** the next value lies behind. -/
theorem value_succ_lt (h : d k < 2 ^ 32) (hwraps : Wraps first d k) :
    value first d (k + 1) < value first d k + 1 := by
  have hlt := (value first d k + 1).toNat_lt
  rw [Wraps] at hwraps
  rw [UInt32.lt_iff_toNat_lt, toNat_value_succ h]
  omega

end MiniRtsp.Skipping
