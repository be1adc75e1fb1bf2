import Mathlib.Algebra.Order.Ring.Int
import Mathlib.Data.List.Infix
import Mathlib.Tactic.Linarith
import Mathlib.Tactic.Ring

/-!
# Pacing by an accumulator

An accumulator gains `gain` with every item; an item with which it reaches `cost` is taken and paid for. Over the items
so far it has gained what it paid and still holds (`Paced.balance`), and it always holds less than `cost`
(`Paced.bounds`); so the number of items taken is a quotient (`Paced.count_take`). A window of `cost` items has `gain`
taken ones (`Paced.window`), and two neighbours among them are `cost / gain` apart, rounded down or up
(`Paced.distance`).
-/

namespace MiniRtsp

/-- `marks` tells of each item, oldest first, whether it was taken; the accumulator went from `start` to `acc`. -/
inductive Paced (cost gain start : ℤ) : List Bool → ℤ → Prop
  | start : Paced cost gain start [] start
  | pass {marks acc} : Paced cost gain start marks acc → acc + gain < cost →
      Paced cost gain start (marks ++ [false]) (acc + gain)
  | pay {marks acc} : Paced cost gain start marks acc → cost ≤ acc + gain →
      Paced cost gain start (marks ++ [true]) (acc + gain - cost)

namespace Paced

variable {cost gain start acc : ℤ} {marks : List Bool}

theorem bounds (hgain : 0 ≤ gain ∧ gain ≤ cost) (hstart : 0 ≤ start ∧ start < cost)
    (h : Paced cost gain start marks acc) : 0 ≤ acc ∧ acc < cost := by
  induction h with
  | start => exact hstart
  | pass h hlt ih => exact ⟨Int.add_nonneg ih.1 hgain.1, hlt⟩
  | pay h hle ih => exact ⟨by omega, by omega⟩

/-- **What was gained is paid or held.** -/
theorem balance (h : Paced cost gain start marks acc) :
    start + marks.length * gain = cost * marks.count true + acc := by
  induction h with
  | start => simp
  | pass h hlt ih =>
    rw [List.length_append, List.count_append, List.length_singleton, List.count_singleton]
    push_cast
    rw [add_mul, ← add_assoc, ih]
    simp
    ring
  | pay h hle ih =>
    rw [List.length_append, List.count_append, List.length_singleton, List.count_singleton]
    push_cast
    rw [add_mul, ← add_assoc, ih]
    simp
    ring

theorem of_append {later : List Bool} (h : Paced cost gain start (marks ++ later) acc) :
    ∃ acc', Paced cost gain start marks acc' := by
  induction later using List.reverseRecOn generalizing acc with
  | nil => exact ⟨acc, by simpa using h⟩
  | append_singleton later mark ih =>
    rw [← List.append_assoc] at h
    generalize hall : marks ++ later ++ [mark] = all at h
    cases h with
    | start => simp at hall
    | pass h hlt =>
      obtain ⟨rfl, -⟩ := List.append_inj' hall rfl
      exact ih h
    | pay h hle =>
      obtain ⟨rfl, -⟩ := List.append_inj' hall rfl
      exact ih h

/-- **The number of items taken**, of the first `n`. -/
theorem count_take (hgain : 0 ≤ gain ∧ gain ≤ cost) (hstart : 0 ≤ start ∧ start < cost)
    (h : Paced cost gain start marks acc) {n : Nat} (hn : n ≤ marks.length) :
    ((marks.take n).count true : ℤ) = (start + n * gain) / cost := by
  rw [← List.take_append_drop n marks] at h
  obtain ⟨acc', hpast⟩ := h.of_append
  have hbalance := hpast.balance
  rw [List.length_take_of_le hn] at hbalance
  obtain ⟨hnonneg, hlt⟩ := hpast.bounds hgain hstart
  have hcost : cost ≠ 0 := by omega
  rw [hbalance, Int.add_comm, Int.add_mul_ediv_left _ _ hcost, Int.ediv_eq_zero_of_lt hnonneg hlt, Int.zero_add]

/-- **A window** of `cost` items has `gain` taken ones. -/
theorem window (hgain : 0 ≤ gain ∧ gain ≤ cost) (hstart : 0 ≤ start ∧ start < cost)
    (h : Paced cost gain start marks acc) {k n : Nat} (hn : (n : ℤ) = cost) (hk : k + n ≤ marks.length) :
    (((marks.drop k).take n).count true : ℤ) = gain := by
  have hsplit : (marks.take (k + n)).count true = (marks.take k).count true + ((marks.drop k).take n).count true := by
    rw [List.take_add, List.count_append]
  have hlong := h.count_take hgain hstart hk
  have hshort := h.count_take hgain hstart (Nat.le_trans (Nat.le_add_right k n) hk)
  have hcost : cost ≠ 0 := by omega
  have hmore : start + ((k + n : Nat) : ℤ) * gain = start + k * gain + cost * gain := by
    push_cast
    rw [hn]
    ring
  rw [hsplit, hmore, Int.add_mul_ediv_left _ _ hcost, ← hshort] at hlong
  push_cast at hlong
  omega

theorem count_take_taken {i : Nat} (hi : marks[i]? = some true) :
    (marks.take (i + 1)).count true = (marks.take i).count true + 1 := by
  obtain ⟨hlt, hmark⟩ := List.getElem?_eq_some_iff.mp hi
  rw [List.take_succ_eq_append_getElem hlt, hmark, List.count_append, List.count_singleton_self]

/-- Items that are passed do not count. -/
theorem count_take_passed {i j : Nat} (hij : i ≤ j) (h : ∀ m, i ≤ m → m < j → marks[m]? = some false) :
    (marks.take j).count true = (marks.take i).count true := by
  induction j, hij using Nat.le_induction with
  | base => rfl
  | succ j hij ih =>
    obtain ⟨hlt, hmark⟩ := List.getElem?_eq_some_iff.mp (h j hij (Nat.lt_succ_self j))
    have hsame := ih fun m him hmj => h m him (Nat.lt_succ_of_lt hmj)
    rw [List.take_succ_eq_append_getElem hlt, hmark, List.count_append, hsame]
    rfl

/-- A taken item pays with what it gains. -/
theorem at_taken (hgain : 0 ≤ gain ∧ gain ≤ cost) (hstart : 0 ≤ start ∧ start < cost)
    (h : Paced cost gain start marks acc) {i : Nat} (hi : marks[i]? = some true) :
    start + i * gain < cost * ((marks.take i).count true + 1) ∧
      cost * ((marks.take i).count true + 1) ≤ start + (i + 1) * gain := by
  obtain ⟨hlt, -⟩ := List.getElem?_eq_some_iff.mp hi
  have hcost : 0 < cost := by omega
  have hbefore := h.count_take hgain hstart (Nat.le_of_lt hlt)
  have hafter := h.count_take hgain hstart (show i + 1 ≤ marks.length from hlt)
  rw [count_take_taken hi] at hafter
  push_cast at hafter
  constructor
  · rw [hbefore, mul_add, mul_one, mul_comm]
    exact Int.lt_ediv_add_one_mul_self _ hcost |>.trans_eq (by ring)
  · rw [hafter]
    exact Int.mul_ediv_self_le hcost.ne'

/-- **Neighbours among the taken items** are `cost / gain` apart, rounded down or up. -/
theorem distance (hgain : 0 < gain ∧ gain ≤ cost) (hstart : 0 ≤ start ∧ start < cost)
    (h : Paced cost gain start marks acc) {i j : Nat} (hij : i < j) (hi : marks[i]? = some true)
    (hj : marks[j]? = some true) (hbetween : ∀ m, i < m → m < j → marks[m]? = some false) :
    (j - i : ℤ) = cost / gain ∨ (j - i : ℤ) = (cost + gain - 1) / gain := by
  have hgain' : 0 ≤ gain ∧ gain ≤ cost := ⟨hgain.1.le, hgain.2⟩
  have hcount : (marks.take j).count true = (marks.take i).count true + 1 :=
    (count_take_passed hij hbetween).trans (count_take_taken hi)
  obtain ⟨hlow, hpaid⟩ := h.at_taken hgain' hstart hi
  obtain ⟨hlow', hpaid'⟩ := h.at_taken hgain' hstart hj
  rw [hcount] at hlow' hpaid'
  push_cast at hlow' hpaid'
  -- one item more than the distance pays for one, one item less does not
  have hmore : cost < (j - i + 1) * gain := by linarith
  have hless : (j - i) * gain ≤ cost + gain - 1 := by
    have hshort : (j - i - 1) * gain < cost := by linarith
    rw [sub_mul, one_mul] at hshort
    omega
  have hfloor : cost / gain < j - i + 1 := Int.ediv_lt_of_lt_mul hgain.1 hmore
  have hceil : (j - i : ℤ) ≤ (cost + gain - 1) / gain := Int.le_ediv_of_mul_le hgain.1 hless
  have hround : (cost + gain - 1) / gain ≤ (cost + gain) / gain := Int.ediv_le_ediv hgain.1 (by omega)
  rw [Int.add_ediv_of_dvd_right (dvd_refl gain), Int.ediv_self hgain.1.ne'] at hround
  omega

end Paced

end MiniRtsp
