import Mathlib.Data.List.Basic
import Mathlib.Data.List.Infix
import Mathlib.Tactic.Common

/-!
# First occurrences of a word

`FirstSplit w l a b` says that `l = a ++ w ++ b` where this is the first occurrence of `w` in `l`. A word that occurs
has a first occurrence (`exists_firstSplit`) and only one (`FirstSplit.unique`). `seek w l` is the suffix of `l` that
starts at the first occurrence (C's `strstr`), `pieces w l` are the runs between consecutive occurrences.
-/

namespace MiniRtsp.Occurrence

variable {α : Type*}

/-- `a` and `b` are what precedes and what follows the first occurrence of `w` in `l`. -/
structure FirstSplit (w l a b : List α) : Prop where
  eq : l = a ++ (w ++ b)
  first : ∀ i < a.length, ¬w <+: l.drop i

section First

variable {w l a b : List α}

theorem FirstSplit.infix (h : FirstSplit w l a b) : w <:+: l :=
  ⟨a, b, by rw [h.eq, List.append_assoc]⟩

/-- An occurrence at the head is the first one. -/
theorem firstSplit_head (h : w <+: l) : ∃ b, FirstSplit w l [] b := by
  obtain ⟨b, rfl⟩ := h
  exact ⟨b, rfl, fun i hi => by simp at hi⟩

/-- A first occurrence in the tail, when the word does not start at the head. -/
theorem FirstSplit.cons {x : α} (hn : ¬w <+: x :: l) (h : FirstSplit w l a b) : FirstSplit w (x :: l) (x :: a) b := by
  refine ⟨by rw [h.eq]; rfl, ?_⟩
  intro i hi
  cases i with
  | zero => exact hn
  | succ i => exact h.first i (by simpa using hi)

theorem firstSplit_self (w b : List α) : FirstSplit w (w ++ b) [] b :=
  ⟨rfl, fun i hi => by simp at hi⟩

/-- What does not contain the first element of the word does not matter in front of it. -/
theorem FirstSplit.append_left {x : α} {w p : List α} (h : FirstSplit (x :: w) l a b) (hp : x ∉ p) :
    FirstSplit (x :: w) (p ++ l) (p ++ a) b := by
  induction p with
  | nil => exact h
  | cons y p ih =>
    rw [List.mem_cons, not_or] at hp
    apply (ih hp.2).cons
    intro hhere
    exact hp.1 (List.cons_prefix_cons.mp hhere).1

/-- What follows a text does not matter for its first occurrence. -/
theorem FirstSplit.append_right (h : FirstSplit w l a b) (rest : List α) : FirstSplit w (l ++ rest) a (b ++ rest) := by
  refine ⟨by rw [h.eq]; simp, fun i hi hprefix => h.first i hi ?_⟩
  have hlen := congrArg List.length h.eq
  simp only [List.length_append] at hlen
  rw [List.drop_append_of_le_length (by omega)] at hprefix
  exact List.prefix_of_prefix_length_le hprefix (List.prefix_append _ _) (by rw [List.length_drop]; omega)

/-- A word is not found across the end of a text whose last element it lacks. -/
theorem firstSplit_behind {x : α} (hx : x ∉ w) (hnot : ¬ w <:+: a ++ [x]) (rest : List α) :
    FirstSplit w (a ++ [x] ++ (w ++ rest)) (a ++ [x]) rest := by
  refine ⟨rfl, fun i hi hprefix => ?_⟩
  rw [List.drop_append_of_le_length (by omega)] at hprefix
  have hlast : x ∈ (a ++ [x]).drop i := by
    rw [List.length_append, List.length_singleton] at hi
    rw [List.drop_append_of_le_length (by omega)]
    simp
  rcases Nat.le_total w.length ((a ++ [x]).drop i).length with hle | hle
  · have hin : w <+: (a ++ [x]).drop i := List.prefix_of_prefix_length_le hprefix (List.prefix_append _ _) hle
    exact hnot (hin.isInfix.trans (List.drop_suffix i _).isInfix)
  · have hin : (a ++ [x]).drop i <+: w := List.prefix_of_prefix_length_le (List.prefix_append _ _) hprefix hle
    exact hx (hin.subset hlast)

/-- **Every word that occurs has a first occurrence.** -/
theorem exists_firstSplit (h : w <:+: l) : ∃ a b, FirstSplit w l a b := by
  induction l with
  | nil =>
    have hw := List.eq_nil_of_infix_nil h
    exact ⟨[], [], by simp [hw], fun i hi => by simp at hi⟩
  | cons x l ih =>
    by_cases hp : w <+: x :: l
    · obtain ⟨b, hb⟩ := firstSplit_head hp
      exact ⟨[], b, hb⟩
    · have htail : w <:+: l := (List.infix_cons_iff.mp h).resolve_left hp
      obtain ⟨a, b, hab⟩ := ih htail
      exact ⟨x :: a, b, hab.cons hp⟩

/-- **The first occurrence is unique.** -/
theorem FirstSplit.unique {a' b' : List α} (h : FirstSplit w l a b) (h' : FirstSplit w l a' b') : a = a' ∧ b = b' := by
  have key : ∀ {a b a' b' : List α}, FirstSplit w l a b → FirstSplit w l a' b' → a.length ≤ a'.length := by
    intro a b a' b' h h'
    by_contra hlt
    apply h.first a'.length (by omega)
    rw [h'.eq, List.drop_left]
    exact List.prefix_append w b'
  have hlen : a.length = a'.length := Nat.le_antisymm (key h h') (key h' h)
  have heq := h.eq.symm.trans h'.eq
  obtain ⟨ha, hb⟩ := List.append_inj heq hlen
  exact ⟨ha, List.append_cancel_left hb⟩

end First

/-! ## The suffix from the first occurrence -/

section Seek

variable [DecidableEq α]

/-- The suffix of the list that starts at the first occurrence of `w`. -/
def seek (w : List α) : List α → Option (List α)
  | [] => if w = [] then some [] else none
  | x :: l => if w <+: x :: l then some (x :: l) else seek w l

theorem seek_eq_some {w l s : List α} (h : seek w l = some s) : ∃ a b, FirstSplit w l a b ∧ s = w ++ b := by
  induction l with
  | nil =>
    simp only [seek] at h
    split at h
    · rename_i hw
      simp only [Option.some.injEq] at h
      exact ⟨[], [], ⟨by simp [hw], fun i hi => by simp at hi⟩, by simp [hw, ← h]⟩
    · cases h
  | cons x l ih =>
    simp only [seek] at h
    split at h
    · rename_i hp
      simp only [Option.some.injEq] at h
      obtain ⟨b, hb⟩ := firstSplit_head hp
      exact ⟨[], b, hb, by rw [← h, hb.eq, List.nil_append]⟩
    · rename_i hp
      obtain ⟨a, b, hab, hs⟩ := ih h
      exact ⟨x :: a, b, hab.cons hp, hs⟩

theorem seek_eq_none {w l : List α} (h : seek w l = none) : ¬w <:+: l := by
  intro hi
  induction l with
  | nil =>
    rw [seek, if_pos (List.eq_nil_of_infix_nil hi)] at h
    cases h
  | cons x l ih =>
    simp only [seek] at h
    split at h
    · cases h
    · rename_i hp
      exact ih h ((List.infix_cons_iff.mp hi).resolve_left hp)

/-- The search succeeds exactly on the words that occur. -/
theorem seek_isSome {w l : List α} : (seek w l).isSome = true ↔ w <:+: l := by
  cases hs : seek w l with
  | none => simpa using seek_eq_none hs
  | some s =>
    obtain ⟨a, b, hab, -⟩ := seek_eq_some hs
    simpa using hab.infix

/-- The search finds the first occurrence. -/
theorem FirstSplit.seek_eq {w l a b : List α} (h : FirstSplit w l a b) : seek w l = some (w ++ b) := by
  cases hs : seek w l with
  | none => exact absurd h.infix (seek_eq_none hs)
  | some s =>
    obtain ⟨a', b', hab, rfl⟩ := seek_eq_some hs
    rw [(h.unique hab).2]

end Seek

/-! ## The runs between occurrences -/

section Pieces

variable [DecidableEq α]

/-- `pieces` with `k` elements of an occurrence still to be passed over. -/
def piecesFrom (w : List α) : Nat → List α → List (List α)
  | _, [] => [[]]
  | k + 1, _ :: l => piecesFrom w k l
  | 0, x :: l => if w <+: x :: l then [] :: piecesFrom w (w.length - 1) l else (piecesFrom w 0 l).modifyHead (x :: ·)

/-- The runs between consecutive occurrences of `w`, scanning from the left: the first one precedes the first
occurrence, the last one runs to the end. -/
def pieces (w l : List α) : List (List α) := piecesFrom w 0 l

variable {w : List α}

theorem piecesFrom_ne_nil : ∀ (k : Nat) (l : List α), piecesFrom w k l ≠ []
  | _, [] => by simp [piecesFrom]
  | k + 1, _ :: l => piecesFrom_ne_nil k l
  | 0, x :: l => by
    simp only [piecesFrom]
    split
    · simp
    · simpa using piecesFrom_ne_nil 0 l

@[simp] theorem pieces_nil : pieces w [] = [[]] := rfl

theorem pieces_ne_nil (l : List α) : pieces w l ≠ [] := piecesFrom_ne_nil 0 l

theorem piecesFrom_drop : ∀ (k : Nat) (l : List α), piecesFrom w k l = pieces w (l.drop k)
  | _, [] => by cases ‹Nat› <;> simp [piecesFrom, pieces]
  | k + 1, _ :: l => by simp only [piecesFrom, List.drop_succ_cons]; exact piecesFrom_drop k l
  | 0, _ :: _ => rfl

/-- Without an occurrence there is one piece. -/
theorem pieces_no_code {l : List α} (h : ¬w <:+: l) : pieces w l = [l] := by
  induction l with
  | nil => rfl
  | cons x l ih =>
    have hp : ¬w <+: x :: l := fun hp => h hp.isInfix
    have hl : ¬w <:+: l := fun hi => h (List.infix_cons hi)
    unfold pieces piecesFrom
    rw [if_neg hp, show piecesFrom w 0 l = [l] from ih hl]
    rfl

/-- An element at which no occurrence starts belongs to the first piece. -/
theorem pieces_cons {x : α} {l : List α} (h : ¬w <+: x :: l) :
    pieces w (x :: l) = (pieces w l).modifyHead (x :: ·) := by
  unfold pieces
  rw [piecesFrom, if_neg h]

/-- **At the first occurrence** the first piece ends. -/
theorem FirstSplit.pieces_eq (hw : w ≠ []) : ∀ {l a b : List α}, FirstSplit w l a b → pieces w l = a :: pieces w b
  | l, [], b, h => by
    have hl : l = w ++ b := h.eq
    obtain ⟨x, v, rfl⟩ := List.exists_cons_of_ne_nil hw
    subst hl
    unfold pieces
    rw [List.cons_append, piecesFrom, if_pos (by exact List.prefix_append _ _), piecesFrom_drop]
    simp [pieces]
  | l, x :: a, b, h => by
    have hl := h.eq
    rw [List.cons_append] at hl
    subst hl
    have hn : ¬w <+: x :: (a ++ (w ++ b)) := h.first 0 (by simp)
    have htail : FirstSplit w (a ++ (w ++ b)) a b :=
      ⟨rfl, fun i hi => h.first (i + 1) (by simpa using hi)⟩
    have ih := FirstSplit.pieces_eq hw htail
    unfold pieces at ih ⊢
    rw [piecesFrom, if_neg hn, ih]
    rfl

/-- What does not contain the separator is one piece. -/
theorem pieces_append {x : α} {p : List α} (hp : x ∉ p) (rest : List α) :
    pieces (x :: w) (p ++ (x :: w ++ rest)) = p :: pieces (x :: w) rest := by
  have hsplit := (firstSplit_self (x :: w) rest).append_left hp
  rw [List.append_nil] at hsplit
  exact hsplit.pieces_eq (by simp)

theorem pieces_single {x : α} {p : List α} (hp : x ∉ p) : pieces (x :: w) p = [p] :=
  pieces_no_code fun hi => hp (hi.subset (by simp))

/-- **No piece contains the word.** -/
theorem not_infix_of_mem_pieces (hw : w ≠ []) {l p : List α} (h : p ∈ pieces w l) : ¬w <:+: p := by
  induction hn : l.length using Nat.strong_induction_on generalizing l with
  | _ n ih =>
    by_cases hi : w <:+: l
    · obtain ⟨a, b, hab⟩ := exists_firstSplit hi
      rw [hab.pieces_eq hw] at h
      rcases List.mem_cons.mp h with rfl | h
      · rintro ⟨c, d, hcd⟩
        have hlen := congrArg List.length hcd
        have hwlen := List.length_pos_iff.mpr hw
        simp only [List.length_append] at hlen
        refine hab.first c.length (by omega) ⟨d ++ (w ++ b), ?_⟩
        rw [hab.eq, ← hcd]
        simp
      · have hlen := congrArg List.length hab.eq
        have hwlen := List.length_pos_iff.mpr hw
        simp only [List.length_append] at hlen
        exact ih b.length (by omega) h rfl
    · rw [pieces_no_code hi, List.mem_singleton] at h
      rw [h]
      exact hi

end Pieces

end MiniRtsp.Occurrence
