import MiniRtsp.Lib.Ledger
import Mathlib.Data.List.Monad

/-!
# Calls in order, and what is held

A program calls a component that has phases, where a call that is out of place has no next phase, and it takes and gives
back resources on the way. `Brings` says what a list of events makes of the phase and of the holdings; it is put
together event by event, and list by list (`Brings.append`).
-/

namespace MiniRtsp.Conduct

open Ledger

/-- The calls of the component, and the uses of resources, among the events. -/
structure View (ε κ ρ : Type*) where
  call : ε → Option κ
  use : ε → Option (Use ρ)

variable {ε κ φ ρ : Type*} [DecidableEq ρ]

/-- The events bring the component from one phase to another, and the holdings from `m` to `m'`. -/
structure Brings (v : View ε κ ρ) (next : φ → κ → Option φ) (es : List ε) (p p' : φ) (m m' : Multiset ρ) : Prop where
  phase : (es.filterMap v.call).foldlM next p = some p'
  uses : Moves (es.filterMap v.use) m m'

variable {v : View ε κ ρ} {next : φ → κ → Option φ} {es fs : List ε} {e : ε} {p p' p'' : φ} {m m' m'' : Multiset ρ}

theorem brings_nil : Brings v next [] p p m m := ⟨rfl, moves_nil m⟩

theorem Brings.append (h : Brings v next es p p' m m') (h' : Brings v next fs p' p'' m' m'') :
    Brings v next (es ++ fs) p p'' m m'' := by
  refine ⟨?_, ?_⟩
  · rw [List.filterMap_append, List.foldlM_append, h.phase]
    exact h'.phase
  · rw [List.filterMap_append]
    exact h.uses.append h'.uses

/-! ## One event in front -/

/-- An event that is neither a call nor a use. -/
theorem Brings.silent (hcall : v.call e = none) (huse : v.use e = none) (h : Brings v next es p p' m m') :
    Brings v next (e :: es) p p' m m' := by
  refine ⟨?_, ?_⟩
  · rw [List.filterMap_cons_none hcall]
    exact h.phase
  · rw [List.filterMap_cons_none huse]
    exact h.uses

theorem Brings.called {k : κ} (hcall : v.call e = some k) (huse : v.use e = none) (hnext : next p k = some p')
    (h : Brings v next es p' p'' m m') : Brings v next (e :: es) p p'' m m' := by
  refine ⟨?_, ?_⟩
  · rw [List.filterMap_cons_some hcall, List.foldlM_cons, hnext]
    exact h.phase
  · rw [List.filterMap_cons_none huse]
    exact h.uses

theorem Brings.acquired {r : ρ} (hcall : v.call e = none) (huse : v.use e = some (.acquire r))
    (h : Brings v next es p p' (r ::ₘ m) m') : Brings v next (e :: es) p p' m m' := by
  refine ⟨?_, ?_⟩
  · rw [List.filterMap_cons_none hcall]
    exact h.phase
  · rw [List.filterMap_cons_some huse]
    exact (moves_acquire r m).cons h.uses

theorem Brings.released {r : ρ} (hcall : v.call e = none) (huse : v.use e = some (.release r))
    (h : Brings v next es p p' m m') : Brings v next (e :: es) p p' (r ::ₘ m) m' := by
  refine ⟨?_, ?_⟩
  · rw [List.filterMap_cons_none hcall]
    exact h.phase
  · rw [List.filterMap_cons_some huse]
    exact (moves_release r m).cons h.uses

/-! ## From the beginning -/

/-- Events from the beginning, with nothing held. -/
theorem Brings.holds (h : Brings v next es p p' 0 m) : Holds (es.filterMap v.use) m := by
  simpa using h.uses [] holds_nil

theorem Brings.has {r : ρ} (h : Brings v next es p p' 0 m) (hr : r ∈ m) :
    (es.filterMap v.use).count (.release r) < (es.filterMap v.use).count (.acquire r) := by
  have hheld := h.holds.held r
  have hpos := Multiset.count_pos.mpr hr
  omega

end MiniRtsp.Conduct
