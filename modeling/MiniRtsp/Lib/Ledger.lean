import Mathlib.Data.Multiset.AddSub
import Mathlib.Data.Multiset.Count

/-!
# Acquired and released

A run acquires and releases resources (`Use`). `Holds us m` says that the uses `us` never released what was not held
and leave exactly the multiset `m` held. The rules `Holds.acquire` and `Holds.release` follow the uses one by one; a
run that leaves nothing held is `Sound` and `Settled`: every acquisition has its one release.
-/

namespace MiniRtsp.Ledger

variable {ρ : Type*}

inductive Use (ρ : Type*) where
  | acquire (r : ρ)
  | release (r : ρ)
  deriving DecidableEq, Repr

/-! ## One at a time -/

def Use.isAcquire : Use ρ → Bool
  | .acquire _ => true
  | .release _ => false

@[simp] theorem isAcquire_acquire (r : ρ) : (Use.acquire r).isAcquire = true := rfl

@[simp] theorem isAcquire_release (r : ρ) : (Use.release r).isAcquire = false := rfl

/-- There are never more than `n` things held. -/
def Within (n : Nat) (us : List (Use ρ)) : Prop :=
  ∀ p, p <+: us → p.countP Use.isAcquire ≤ p.countP (!·.isAcquire) + n

/-- Everything is released before the next is acquired. -/
inductive Bracketed : List (Use ρ) → Prop where
  | nil : Bracketed []
  | cons (r : ρ) {us : List (Use ρ)} (rest : Bracketed us) : Bracketed (.acquire r :: .release r :: us)

theorem bracketed_single (r : ρ) : Bracketed [Use.acquire r, .release r] := .cons r .nil

theorem Bracketed.append {us vs : List (Use ρ)} (h : Bracketed us) (h' : Bracketed vs) : Bracketed (us ++ vs) := by
  induction h with
  | nil => exact h'
  | cons r _ ih => exact .cons r ih

/-- **Brackets** hold one thing at most. -/
theorem Bracketed.within {us : List (Use ρ)} (h : Bracketed us) : Within 1 us := by
  induction h with
  | nil =>
    intro p hp
    rw [List.prefix_nil.mp hp]
    simp
  | cons r _ ih =>
    intro p hp
    rcases List.prefix_cons_iff.mp hp with rfl | ⟨q, rfl, hq⟩
    · simp
    · rcases List.prefix_cons_iff.mp hq with rfl | ⟨rest, rfl, hrest⟩
      · simp
      · have hwithin := ih rest hrest
        simp only [List.countP_cons, isAcquire_acquire, isAcquire_release, if_true, Bool.not_true, Bool.not_false,
          Bool.false_eq_true, if_false]
        omega

/-! ## Balance -/

variable [DecidableEq ρ]

/-- Nothing is released that is not held at that moment. -/
def Sound (us : List (Use ρ)) : Prop := ∀ p, p <+: us → ∀ r, p.count (.release r) ≤ p.count (.acquire r)

/-- Everything has been released as often as it was acquired. -/
def Settled (us : List (Use ρ)) : Prop := ∀ r, us.count (.release r) = us.count (.acquire r)

/-- `us` is sound and leaves `m` held. -/
structure Holds (us : List (Use ρ)) (m : Multiset ρ) : Prop where
  sound : Sound us
  held : ∀ r, us.count (.acquire r) = us.count (.release r) + m.count r

variable {us : List (Use ρ)} {m : Multiset ρ} {r : ρ}

theorem holds_nil : Holds ([] : List (Use ρ)) 0 :=
  ⟨fun p hp r => by simp [List.prefix_nil.mp hp], fun r => by simp⟩

/-- A sound run stays sound when its last use is covered. -/
theorem Sound.concat {u : Use ρ} (h : Sound us)
    (hu : ∀ r, (us ++ [u]).count (Use.release r) ≤ (us ++ [u]).count (Use.acquire r)) : Sound (us ++ [u]) := by
  intro p hp r
  rcases List.prefix_concat_iff.mp hp with rfl | hp
  · exact hu r
  · exact h p hp r

theorem Holds.acquire (h : Holds us m) (r : ρ) : Holds (us ++ [Use.acquire r]) (r ::ₘ m) := by
  have hheld : ∀ x, (us ++ [Use.acquire r]).count (Use.acquire x) =
      (us ++ [Use.acquire r]).count (Use.release x) + (r ::ₘ m).count x := by
    intro x
    have hx := h.held x
    by_cases hrx : r = x
    · subst hrx; simp; omega
    · simp [hrx, Ne.symm hrx]; omega
  exact ⟨h.sound.concat fun x => by rw [hheld x]; omega, hheld⟩

theorem Holds.release (h : Holds us (r ::ₘ m)) : Holds (us ++ [Use.release r]) m := by
  have hheld : ∀ x, (us ++ [Use.release r]).count (Use.acquire x) =
      (us ++ [Use.release r]).count (Use.release x) + m.count x := by
    intro x
    have hx := h.held x
    by_cases hrx : r = x
    · subst hrx; simp at hx ⊢; omega
    · simp [hrx, Ne.symm hrx] at hx ⊢; omega
  exact ⟨h.sound.concat fun x => by rw [hheld x]; omega, hheld⟩

/-- **Nothing held**: every acquisition has been released. -/
theorem Holds.settled (h : Holds us 0) : Settled us := fun r => by simpa using (h.held r).symm

/-! ## What a list of uses does to the holdings -/

/-- The uses take the holdings `m` to `m'`, whatever went before. -/
def Moves (us : List (Use ρ)) (m m' : Multiset ρ) : Prop := ∀ past, Holds past m → Holds (past ++ us) m'

section Moves

variable {vs : List (Use ρ)} {m' m'' : Multiset ρ}

theorem moves_nil (m : Multiset ρ) : Moves [] m m := fun past h => by simpa using h

theorem Moves.append (h : Moves us m m') (h' : Moves vs m' m'') : Moves (us ++ vs) m m'' := fun past hp => by
  rw [← List.append_assoc]
  exact h' _ (h _ hp)

theorem moves_acquire (r : ρ) (m : Multiset ρ) : Moves [.acquire r] m (r ::ₘ m) := fun _ h => h.acquire r

theorem moves_release (r : ρ) (m : Multiset ρ) : Moves [.release r] (r ::ₘ m) m := fun _ h => h.release

theorem Moves.cons {u : Use ρ} (h : Moves [u] m m') (h' : Moves us m' m'') : Moves (u :: us) m m'' := h.append h'

/-- Taken if a condition holds. -/
theorem moves_acquire_if (b : Bool) (r : ρ) (m : Multiset ρ) :
    Moves (if b then [.acquire r] else []) m ((if b then {r} else 0) + m) := by
  cases b with
  | false => simpa using moves_nil m
  | true => exact moves_acquire r m

/-- Given back if a condition holds. -/
theorem moves_release_if (b : Bool) (r : ρ) (m : Multiset ρ) :
    Moves (if b then [.release r] else []) ((if b then {r} else 0) + m) m := by
  cases b with
  | false => simpa using moves_nil m
  | true => exact moves_release r m

/-- Taken and given back at once. -/
theorem moves_bracket (r : ρ) (h : Moves us (r ::ₘ m) (r ::ₘ m')) : Moves (.acquire r :: us ++ [.release r]) m m' :=
  ((moves_acquire r m).cons h).append (moves_release r m')

end Moves

/-! ## Brackets -/

/-- **Brackets** hold nothing in the end. -/
theorem Bracketed.moves (h : Bracketed us) : Moves us m m := by
  induction h with
  | nil => exact moves_nil m
  | cons r _ ih => exact (moves_acquire r m).cons ((moves_release r m).cons ih)

theorem Bracketed.holds (h : Bracketed us) : Holds us 0 := by
  simpa using h.moves [] holds_nil

end MiniRtsp.Ledger
