import Mathlib.Algebra.Order.BigOperators.Group.List
import Mathlib.Algebra.Order.Ring.Nat
import Mathlib.Tactic.Common

/-!
# Circular windows

A window of the last `w` samples of a history, kept in a circular array: the sample pushed at time `t` is stored in
cell `t % w`. Histories are listed newest first, so that the window is `h.take w` and a push is `x :: h`.

`Holds w cells pos count h` says that the array holds the window of `h`. Pushing keeps it (`Holds.push`); once the
window is full, the cell about to be overwritten holds the sample that leaves the window (`Holds.evicted`), and the
number of samples satisfying `p` changes by the newest and the evicted one (`countP_window_push`,
`countP_window_full`). A total over the cells changes by the new and the old value of the cell that is overwritten
(`total_set`). Samples that lie across the end of the array are read in two runs (`cellRuns_eq`).
-/

namespace MiniRtsp.Ring

variable {α : Type*}

/-- The next position of a circular array of `w` cells. -/
def next (w pos : Nat) : Nat := if w ≤ pos + 1 then 0 else pos + 1

/-- `cells` holds the last `w` samples of `h` (newest first), `pos` is the cell of the next sample and `count` the
number of samples held. -/
structure Holds (w : Nat) (cells : List α) (pos count : Nat) (h : List α) : Prop where
  pos_eq : pos = h.length % w
  count_eq : count = min h.length w
  cell : ∀ i < min h.length w, cells[(h.length - 1 - i) % w]? = h[i]?

section Push

variable {w pos count : Nat} {cells h : List α}

/-- An array with nothing in it holds the empty history. -/
theorem holds_nil (w : Nat) (cells : List α) : Holds w cells 0 0 [] :=
  ⟨by simp, by simp, fun i hi => by simp at hi⟩

theorem Holds.pos_lt (hw : 0 < w) (hh : Holds w cells pos count h) : pos < w := by
  rw [hh.pos_eq]
  exact Nat.mod_lt _ hw

/-- The successor position is the position of the longer history. -/
theorem next_mod (hw : 0 < w) (n : Nat) : next w (n % w) = (n + 1) % w := by
  have hlt := Nat.mod_lt n hw
  unfold next
  split
  · have hn : n % w = w - 1 := by omega
    rw [Nat.add_mod, hn]
    by_cases h1 : w = 1
    · subst h1; simp
    · rw [Nat.mod_eq_of_lt (show 1 < w by omega), Nat.sub_add_cancel hw, Nat.mod_self]
  · rw [Nat.add_mod, Nat.mod_eq_of_lt (show 1 < w by omega), Nat.mod_eq_of_lt (show n % w + 1 < w by omega)]

/-- Different samples of one window are in different cells. -/
theorem cell_ne {n i : Nat} (hi : i < w) (hpos : 0 < i) (hin : i ≤ n) : (n - i) % w ≠ n % w := by
  intro he
  have h0 : (n - (n - i)) % w = 0 := Nat.sub_mod_eq_zero_of_mod_eq he.symm
  rw [Nat.sub_sub_self hin, Nat.mod_eq_of_lt hi] at h0
  omega

/-- **Pushing a sample** overwrites the cell at the position and advances it. -/
theorem Holds.push (hw : 0 < w) (hlen : w ≤ cells.length) (hh : Holds w cells pos count h) (x : α) :
    Holds w (cells.set pos x) (next w pos) (if count < w then count + 1 else count) (x :: h) := by
  have hposw := hh.pos_lt hw
  refine ⟨?_, ?_, ?_⟩
  · rw [hh.pos_eq, next_mod hw, List.length_cons]
  · have := hh.count_eq
    rw [List.length_cons]
    split <;> omega
  · intro i hi
    rw [List.length_cons] at hi ⊢
    cases i with
    | zero =>
      have hp : (h.length + 1 - 1 - 0) % w = pos := by rw [hh.pos_eq]; simp
      rw [hp, List.getElem?_set_self (by omega)]
      simp
    | succ i =>
      have hne : pos ≠ (h.length + 1 - 1 - (i + 1)) % w := by
        rw [hh.pos_eq]
        exact (cell_ne (by omega) (by omega) (by omega)).symm
      rw [List.getElem?_set_ne hne, List.getElem?_cons_succ]
      have hi' : h.length + 1 - 1 - (i + 1) = h.length - 1 - i := by omega
      rw [hi']
      exact hh.cell i (by omega)

/-- In a full window the next cell holds the oldest sample of the window. -/
theorem Holds.evicted (hw : 0 < w) (hfull : w ≤ h.length) (hh : Holds w cells pos count h) :
    cells[pos]? = h[w - 1]? := by
  have hc := hh.cell (w - 1) (by omega)
  rw [← hc, hh.pos_eq]
  congr 1
  rw [show h.length - 1 - (w - 1) = h.length - w by omega, Nat.mod_eq_sub_mod hfull]

end Push

/-! ## Counting in the window -/

section Count

variable (p : α → Bool)

/-- While the window is filling, a push only adds a sample. -/
theorem countP_window_push {w : Nat} {h : List α} (hlt : h.length < w) (x : α) :
    ((x :: h).take w).countP p = (h.take w).countP p + if p x then 1 else 0 := by
  rw [List.take_of_length_le (by simp; omega), List.take_of_length_le (by omega), List.countP_cons]

/-- In a full window a push adds the new sample and drops the oldest one. -/
theorem countP_window_full {w : Nat} {h : List α} {y : α} (hw : 0 < w) (hy : h[w - 1]? = some y) (x : α) :
    ((x :: h).take w).countP p + (if p y then 1 else 0) = (h.take w).countP p + if p x then 1 else 0 := by
  obtain ⟨n, rfl⟩ : ∃ n, w = n + 1 := ⟨w - 1, by omega⟩
  simp only [Nat.add_sub_cancel] at hy
  have hsplit : h.take (n + 1) = h.take n ++ [y] := by rw [List.take_add_one, hy]; rfl
  rw [hsplit, List.take_succ_cons, List.countP_cons, List.countP_append, List.countP_singleton]
  omega

/-- A window never counts more samples than it has. -/
theorem countP_window_le {w : Nat} {h : List α} : (h.take w).countP p ≤ min h.length w := by
  have h1 := List.countP_le_length (p := p) (l := h.take w)
  rw [List.length_take] at h1
  omega

end Count

/-! ## A total over the cells -/

section Total

variable (f : α → Nat)

/-- The total of a value over all cells. -/
def total (cells : List α) : Nat := (cells.map f).sum

/-- **Overwriting a cell** takes its old value out of the total and adds the new one. -/
theorem total_set {cells : List α} {i : Nat} {old : α} (h : cells[i]? = some old) (x : α) :
    total f (cells.set i x) + f old = total f cells + f x := by
  obtain ⟨hi, rfl⟩ := List.getElem?_eq_some_iff.mp h
  have hsplit := List.take_append_drop i cells
  rw [List.drop_eq_getElem_cons hi] at hsplit
  unfold total
  rw [List.set_eq_take_append_cons_drop, if_pos hi]
  conv_rhs => rw [← hsplit]
  simp only [List.map_append, List.map_cons, List.sum_append, List.sum_cons]
  omega

/-- Cells without value do not count. -/
theorem total_take {cells : List α} {n : Nat} (h : ∀ a ∈ cells.drop n, f a = 0) :
    total f (cells.take n) = total f cells := by
  have hzero : total f (cells.drop n) = 0 := by
    apply List.sum_eq_zero
    intro v hv
    obtain ⟨a, ha, rfl⟩ := List.mem_map.mp hv
    exact h a ha
  have hsplit : total f (cells.take n) + total f (cells.drop n) = total f cells := by
    unfold total
    rw [← List.sum_append, ← List.map_append, List.take_append_drop]
  omega

theorem le_total {cells : List α} {a : α} (h : a ∈ cells) : f a ≤ total f cells :=
  List.le_sum_of_mem (List.mem_map_of_mem h)

theorem total_le_length {cells : List α} (h : ∀ a ∈ cells, f a ≤ 1) : total f cells ≤ cells.length := by
  have hle := List.sum_le_card_nsmul (cells.map f) 1 (by simpa using h)
  rw [List.length_map, nsmul_one, Nat.cast_id] at hle
  exact hle

end Total

/-! ## Reading across the end -/

/-- The cells of `n` consecutive samples from cell `start` on, as two runs: up to the end of the array, and on from its
beginning. -/
def cellRuns (w start n : Nat) : List Nat :=
  let first := min n (w - start)
  List.range' start first ++ List.range' 0 (n - first)

/-- **Reading in two runs** goes round the array. -/
theorem cellRuns_eq {w start n : Nat} (hstart : start < w) (hn : n ≤ w) :
    cellRuns w start n = (List.range n).map fun i => (start + i) % w := by
  have hsplit : n = min n (w - start) + (n - min n (w - start)) := by omega
  have hrest : n - min n (w - start) = 0 ∨ min n (w - start) = w - start := by omega
  have hfirst : min n (w - start) ≤ w - start := by omega
  unfold cellRuns
  dsimp only
  generalize min n (w - start) = a at *
  generalize n - a = b at *
  subst hsplit
  rw [List.range_add, List.map_append, List.map_map]
  congr 1
  · rw [List.range'_eq_map_range]
    refine List.map_congr_left fun i hi => ?_
    have := List.mem_range.mp hi
    rw [Nat.mod_eq_of_lt]
    omega
  · rw [List.range'_eq_map_range]
    refine List.map_congr_left fun i hi => ?_
    have := List.mem_range.mp hi
    rw [Function.comp_apply, show start + (a + i) = i + w by omega, Nat.add_mod_right, Nat.mod_eq_of_lt (by omega)]
    omega

end MiniRtsp.Ring
