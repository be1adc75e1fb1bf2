import MiniRtsp.Lib.Trace
import Mathlib.Data.Set.Basic
import Mathlib.Order.WellFounded

/-!
# Unending runs

An unending run is given by its inputs, one for each time; `runTo` is what has happened up to a time. Every agent moves
again and again (`Fair`), or some do (`FairAmong`). A phase in which no step raises a rank, and in which the agent that
can get on lowers it, comes to its end (`FairAmong.reaches`).
-/

namespace MiniRtsp.Trace

variable {σ ι ε κ : Type*}

/-- The history of the first `n` inputs. -/
def runTo (step : ι → σ → σ × List ε) (s : σ) (inputs : ℕ → ι) (n : ℕ) : History σ ε :=
  run step s ((List.range n).map inputs)

section Runs

variable {step : ι → σ → σ × List ε} {s : σ} {inputs : ℕ → ι}

theorem runTo_succ (n : ℕ) :
    runTo step s inputs (n + 1) = advance step (runTo step s inputs n) (inputs n) := by
  simp [runTo, List.range_succ, run_concat]

/-- **Run rule** for unending runs. -/
theorem runTo_induction {P : History σ ε → Prop} (hstart : P ⟨s, []⟩)
    (hstep : ∀ n, P (runTo step s inputs n) → P (advance step (runTo step s inputs n) (inputs n))) (n : ℕ) :
    P (runTo step s inputs n) := by
  induction n with
  | zero => exact hstart
  | succ n ih =>
    rw [runTo_succ]
    exact hstep n ih

end Runs

/-- Every agent moves again and again. -/
def Fair (mover : ℕ → κ) : Prop := ∀ k n, ∃ m, n ≤ m ∧ mover m = k

/-- The agents of `K` move again and again; the others may. -/
def FairAmong (K : Set κ) (mover : ℕ → κ) : Prop := ∀ k ∈ K, ∀ n, ∃ m, n ≤ m ∧ mover m = k

theorem Fair.among {mover : ℕ → κ} (hfair : Fair mover) (K : Set κ) : FairAmong K mover := fun k _ => hfair k

/-- **Progress rule**: every step of the phase `P` ends it or keeps it. A step that keeps it lowers the rank, unless it
is of another agent than the helper, and then rank and helper stay. The helper is one of the agents that move again and
again. -/
theorem FairAmong.reaches {α ω : Type*} [LT ω] [WellFoundedLT ω] {K : Set κ} {mover : ℕ → κ}
    (hfair : FairAmong K mover) {x : ℕ → α} (P goal : α → Prop) (helper : α → κ) (rank : α → ω)
    (hhelper : ∀ n, helper (x n) ∈ K)
    (hstep : ∀ n, P (x n) → goal (x (n + 1)) ∨ P (x (n + 1)) ∧
      (rank (x (n + 1)) < rank (x n) ∨
        mover n ≠ helper (x n) ∧ rank (x (n + 1)) = rank (x n) ∧ helper (x (n + 1)) = helper (x n)))
    {n : ℕ} (hn : P (x n)) : ∃ m, n ≤ m ∧ goal (x m) := by
  -- outer induction on the rank, inner induction on the time to the helper's next move
  suffices h : ∀ r n, rank (x n) = r → P (x n) → ∃ m, n ≤ m ∧ goal (x m) from h _ n rfl hn
  intro r
  induction r using WellFoundedLT.induction with
  | ind r ih =>
    intro n hr hn
    obtain ⟨m, hnm, hm⟩ := hfair (helper (x n)) (hhelper n) n
    obtain ⟨d, rfl⟩ := Nat.exists_eq_add_of_le hnm
    clear hnm
    induction d generalizing n with
    | zero =>
      rcases hstep n hn with hgoal | ⟨hP, hlower | ⟨hother, -⟩⟩
      · exact ⟨n + 1, by omega, hgoal⟩
      · obtain ⟨m, hnm, hgoal⟩ := ih _ (hr ▸ hlower) (n + 1) rfl hP
        exact ⟨m, by omega, hgoal⟩
      · exact absurd hm hother
    | succ d ihd =>
      rcases hstep n hn with hgoal | ⟨hP, hlower | ⟨-, hsame, hhelper⟩⟩
      · exact ⟨n + 1, by omega, hgoal⟩
      · obtain ⟨m, hnm, hgoal⟩ := ih _ (hr ▸ hlower) (n + 1) rfl hP
        exact ⟨m, by omega, hgoal⟩
      · have hlater : mover (n + 1 + d) = helper (x (n + 1)) := by
          rw [hhelper, ← hm]
          congr 1
          omega
        obtain ⟨m, hnm, hgoal⟩ := ihd (n + 1) (hsame.trans hr) hP hlater
        exact ⟨m, by omega, hgoal⟩

/-- The progress rule where every agent moves again and again. -/
theorem Fair.reaches {α ω : Type*} [LT ω] [WellFoundedLT ω] {mover : ℕ → κ} (hfair : Fair mover) {x : ℕ → α}
    (P goal : α → Prop) (helper : α → κ) (rank : α → ω)
    (hstep : ∀ n, P (x n) → goal (x (n + 1)) ∨ P (x (n + 1)) ∧
      (rank (x (n + 1)) < rank (x n) ∨
        mover n ≠ helper (x n) ∧ rank (x (n + 1)) = rank (x n) ∧ helper (x (n + 1)) = helper (x n)))
    {n : ℕ} (hn : P (x n)) : ∃ m, n ≤ m ∧ goal (x m) :=
  (hfair.among Set.univ).reaches P goal helper rank (fun _ => Set.mem_univ _) hstep hn

end MiniRtsp.Trace
