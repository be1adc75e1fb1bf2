import Mathlib.Data.List.Infix

/-!
# First in, first out

A queue from which elements are taken at the head while others join at the tail. Whatever the order of the two, what was
in the queue comes out before what joins it (`Flows.drained`).
-/

namespace MiniRtsp.Fifo

variable {α : Type*} {P : α → Prop} {before taken after : List α}

/-- `taken` left the queue at its head, while elements with `P` joined at its tail. -/
def Flows (P : α → Prop) (before taken after : List α) : Prop :=
  ∃ joined, (∀ a ∈ joined, P a) ∧ before ++ joined = taken ++ after

theorem Flows.refl (q : List α) : Flows P q [] q := ⟨[], by simp, by simp⟩

theorem flows_join {a : α} (h : P a) (q : List α) : Flows P q [] (q ++ [a]) := ⟨[a], by simpa using h, rfl⟩

theorem flows_take (a : α) (q : List α) : Flows P (a :: q) [a] q := ⟨[], by simp, by simp⟩

theorem Flows.trans {taken' last : List α} (h : Flows P before taken after) (h' : Flows P after taken' last) :
    Flows P before (taken ++ taken') last := by
  obtain ⟨joined, hjoined, heq⟩ := h
  obtain ⟨joined', hjoined', heq'⟩ := h'
  refine ⟨joined ++ joined', fun a ha => ?_, ?_⟩
  · exact (List.mem_append.mp ha).elim (hjoined a) (hjoined' a)
  · calc before ++ (joined ++ joined')
      _ = taken ++ (after ++ joined') := by rw [← List.append_assoc, heq, List.append_assoc]
      _ = taken ++ taken' ++ last := by rw [heq', List.append_assoc]

/-- What has `P` from the start, or joins with it, keeps it. -/
theorem Flows.forall_mem (h : Flows P before taken after) (hbefore : ∀ a ∈ before, P a) :
    (∀ a ∈ taken, P a) ∧ ∀ a ∈ after, P a := by
  obtain ⟨joined, hjoined, heq⟩ := h
  have hall : ∀ a ∈ taken ++ after, P a := by
    rw [← heq]
    exact fun a ha => (List.mem_append.mp ha).elim (hbefore a) (hjoined a)
  exact ⟨fun a ha => hall a (by simp [ha]), fun a ha => hall a (by simp [ha])⟩

/-- **A drained queue**: once as many elements are out as there were, or nothing is left, the old ones are out first and
only new ones are in. -/
theorem Flows.drained (h : Flows P before taken after) (hall : before.length ≤ taken.length ∨ after = []) :
    before <+: taken ∧ ∀ a ∈ after, P a := by
  obtain ⟨joined, hjoined, heq⟩ := h
  have hlength := congrArg List.length heq
  simp only [List.length_append] at hlength
  have hout : before <+: taken := by
    rcases hall with hlong | rfl
    · exact List.prefix_of_prefix_length_le (heq ▸ List.prefix_append before joined) (List.prefix_append taken after)
        hlong
    · exact ⟨joined, by simpa using heq⟩
  refine ⟨hout, fun a ha => ?_⟩
  obtain ⟨rest, rfl⟩ := hout
  rw [List.append_assoc, List.append_cancel_left_eq] at heq
  exact hjoined a (by simp [heq, ha])

end MiniRtsp.Fifo
