import Mathlib.Data.List.Basic
import Mathlib.Tactic.Common

/-!
# Memory that is filled piece by piece

A block of memory whose cells hold `none` until they are written. Copying a list to the place where the written part ends
extends the written part (`Written.store`); a block of which nothing is left blank holds what was written
(`Written.eq_map`). A block that is read cell by cell and compared with a word answers whether the word stands there,
when the block is long enough (`compareAt_eq`); outside the block there is no answer. A word that is written cell by
cell replaces what stood there, when the block has room for it (`writeAll_eq`, `writeAll_eq_none`).
-/

namespace MiniRtsp.Memory

variable {α : Type*}

/-- A block of `n` cells that have not been written. -/
def blank (n : Nat) : List (Option α) := List.replicate n none

/-- Copies `src` into the block, from cell `offset` on. -/
def store (cells : List (Option α)) (offset : Nat) (src : List α) : List (Option α) :=
  cells.take offset ++ src.map some ++ cells.drop (offset + src.length)

/-- The block holds `done`, and then `room` cells that are still blank. -/
def Written (cells : List (Option α)) (done : List α) (room : Nat) : Prop := cells = done.map some ++ blank room

theorem written_blank (n : Nat) : Written (blank n : List (Option α)) [] n := rfl

/-- **Copying behind what is written** stays in the block and writes on. -/
theorem Written.store {cells : List (Option α)} {done : List α} {room : Nat} (h : Written cells done room)
    (offset : Nat) (src : List α) (rest : Nat) (hoffset : offset = done.length) (hroom : room = src.length + rest) :
    Written (store cells offset src) (done ++ src) rest := by
  subst hoffset
  subst hroom
  unfold Written at h
  subst h
  have hlen : (done.map some : List (Option α)).length = done.length := List.length_map _
  unfold Written Memory.store blank
  rw [List.take_left' hlen, ← List.drop_drop, List.drop_left' hlen, List.drop_replicate, Nat.add_sub_cancel_left,
    List.map_append]

theorem Written.eq_map {cells : List (Option α)} {done : List α} (h : Written cells done 0) : cells = done.map some := by
  simpa [Written, blank] using h

/-! ## Reading -/

/-- Compares a word with the cells from `i` on, up to the first difference; `none` when a cell outside is read. -/
def compareAt [DecidableEq α] (cells : List α) : Nat → List α → Option Bool
  | _, [] => some true
  | i, a :: word =>
    match cells[i]? with
    | none => none
    | some cell => if cell = a then compareAt cells (i + 1) word else some false

theorem compareAt_eq [DecidableEq α] {cells : List α} : ∀ {word : List α} {i : Nat}, i + word.length ≤ cells.length →
    compareAt cells i word = some (decide (word <+: cells.drop i))
  | [], i, _ => by simp [compareAt]
  | a :: word, i, h => by
    rw [List.length_cons] at h
    have hi : i < cells.length := by omega
    have ih : compareAt cells (i + 1) word = some (decide (word <+: cells.drop (i + 1))) := compareAt_eq (by omega)
    rw [compareAt, List.getElem?_eq_getElem hi, List.drop_eq_getElem_cons hi]
    dsimp only
    split
    · rename_i ha
      have hcons : a :: word <+: cells[i] :: cells.drop (i + 1) ↔ word <+: cells.drop (i + 1) := by
        rw [ha, List.cons_prefix_cons]
        exact and_iff_right rfl
      rw [ih, decide_eq_decide.mpr hcons]
    · rename_i ha
      rw [decide_eq_false fun h => ha (List.cons_prefix_cons.mp h).1.symm]

/-! ## Writing -/

/-- Writes a cell; `none` when it is outside. -/
def write (cells : List α) (i : Nat) (a : α) : Option (List α) := if i < cells.length then some (cells.set i a) else none

/-- Writes a word into the cells from `i` on. -/
def writeAll (cells : List α) : Nat → List α → Option (List α)
  | _, [] => some cells
  | i, a :: word => do writeAll (← write cells i a) (i + 1) word

/-- **A word inside the block** replaces the cells from `i` on. -/
theorem writeAll_eq : ∀ {word cells : List α} {i : Nat}, i + word.length ≤ cells.length →
    writeAll cells i word = some (cells.take i ++ word ++ cells.drop (i + word.length))
  | [], cells, i, _ => by simp [writeAll]
  | a :: word, cells, i, h => by
    rw [List.length_cons] at h
    have hi : i < cells.length := by omega
    have hset : cells.set i a = cells.take i ++ a :: cells.drop (i + 1) := by
      rw [List.set_eq_take_append_cons_drop, if_pos hi]
    have hlen : (cells.take i).length = i := List.length_take_of_le (Nat.le_of_lt hi)
    have ih : writeAll (cells.set i a) (i + 1) word = some ((cells.set i a).take (i + 1) ++ word ++
        (cells.set i a).drop (i + 1 + word.length)) := writeAll_eq (by rw [List.length_set]; omega)
    have htake : (cells.set i a).take (i + 1) = cells.take i ++ [a] := by
      rw [hset, ← List.singleton_append, ← List.append_assoc]
      exact List.take_left' (by simp [hlen])
    have hrest : i + 1 + word.length = i + (word.length + 1) := by omega
    rw [writeAll, write, if_pos hi, Option.bind_eq_bind, Option.bind_some, ih, htake,
      List.drop_set_of_lt (by omega), List.length_cons, hrest, List.append_assoc (cells.take i), List.singleton_append]

/-- A word that goes beyond the block is not written. -/
theorem writeAll_eq_none : ∀ {word cells : List α} {i : Nat}, word ≠ [] → cells.length < i + word.length →
    writeAll cells i word = none
  | [], _, _, hne, _ => absurd rfl hne
  | a :: word, cells, i, _, h => by
    rw [List.length_cons] at h
    by_cases hi : i < cells.length
    · have hne : word ≠ [] := by
        rintro rfl
        rw [List.length_nil] at h
        omega
      have ih : writeAll (cells.set i a) (i + 1) word = none := writeAll_eq_none hne (by rw [List.length_set]; omega)
      rw [writeAll, write, if_pos hi, Option.bind_eq_bind, Option.bind_some, ih]
    · rw [writeAll, write, if_neg hi]
      rfl

end MiniRtsp.Memory
