import Mathlib.Data.List.Basic

/-!
# Attempts in order

A list of commands is attempted in order on a state until one of them fails (`attempt`). Attempting a list and then
another is attempting the two joined (`attempt_append`); the last success count tells the two cases apart
(`Outcome.done_eq_length`). Writing down every command with its success (`logging`) changes nothing else
(`attempt_logging`); what is written down is the part that succeeded and the command that failed (`tried_cases`).
-/

namespace MiniRtsp.Attempt

variable {σ α : Type*}

/-- The state in which the attempts stopped, how many succeeded, and whether none failed. -/
structure Outcome (σ : Type*) where
  state : σ
  done : Nat
  ok : Bool

/-- Attempts the commands in order; the first failure stops. -/
def attempt (step : σ → α → σ × Bool) : List α → σ → Outcome σ
  | [], s => ⟨s, 0, true⟩
  | a :: as, s =>
    if (step s a).2 then
      let r := attempt step as (step s a).1
      ⟨r.state, r.done + 1, r.ok⟩
    else ⟨(step s a).1, 0, false⟩

section

variable {step : σ → α → σ × Bool}

@[simp] theorem attempt_nil (s : σ) : attempt step [] s = ⟨s, 0, true⟩ := rfl

theorem attempt_cons_ok {a : α} {s : σ} (h : (step s a).2 = true) (as : List α) :
    attempt step (a :: as) s =
      ⟨(attempt step as (step s a).1).state, (attempt step as (step s a).1).done + 1,
        (attempt step as (step s a).1).ok⟩ := by
  simp [attempt, h]

theorem attempt_cons_fail {a : α} {s : σ} (h : (step s a).2 = false) (as : List α) :
    attempt step (a :: as) s = ⟨(step s a).1, 0, false⟩ := by
  simp [attempt, h]

/-- **Joined lists**: the second list is attempted where the first one left off, if it was not stopped. -/
theorem attempt_append (as bs : List α) (s : σ) :
    attempt step (as ++ bs) s =
      if (attempt step as s).ok then
        ⟨(attempt step bs (attempt step as s).state).state,
          (attempt step as s).done + (attempt step bs (attempt step as s).state).done,
          (attempt step bs (attempt step as s).state).ok⟩
      else attempt step as s := by
  induction as generalizing s with
  | nil => simp
  | cons a as ih =>
    cases ha : (step s a).2 with
    | false => simp [attempt_cons_fail ha]
    | true =>
      rw [List.cons_append, attempt_cons_ok ha, attempt_cons_ok ha, ih]
      cases hok : (attempt step as (step s a).1).ok with
      | false => simp [hok]
      | true => simp [Nat.add_right_comm]

theorem Outcome.done_eq_length {as : List α} {s : σ} (h : (attempt step as s).ok = true) :
    (attempt step as s).done = as.length := by
  induction as generalizing s with
  | nil => rfl
  | cons a as ih =>
    cases ha : (step s a).2 with
    | false => simp [attempt_cons_fail ha] at h
    | true =>
      rw [attempt_cons_ok ha] at h ⊢
      simpa using ih h

end

/-! ## Writing the attempts down -/

/-- The commands that are attempted, each with whether it succeeded. -/
def tried (step : σ → α → σ × Bool) : List α → σ → List (α × Bool)
  | [], _ => []
  | a :: as, s => (a, (step s a).2) :: if (step s a).2 then tried step as (step s a).1 else []

/-- The same command, written down. -/
def logging (step : σ → α → σ × Bool) (s : σ × List (α × Bool)) (a : α) : (σ × List (α × Bool)) × Bool :=
  (((step s.1 a).1, s.2 ++ [(a, (step s.1 a).2)]), (step s.1 a).2)

variable {step : σ → α → σ × Bool}

/-- **Logging** changes nothing but the log. -/
theorem attempt_logging (as : List α) (s : σ) (log : List (α × Bool)) :
    attempt (logging step) as (s, log) =
      ⟨((attempt step as s).state, log ++ tried step as s), (attempt step as s).done, (attempt step as s).ok⟩ := by
  induction as generalizing s log with
  | nil => simp [tried]
  | cons a as ih =>
    cases ha : (step s a).2 with
    | false =>
      have hlog : (logging step (s, log) a).2 = false := ha
      rw [attempt_cons_fail hlog, attempt_cons_fail ha]
      simp [logging, tried, ha]
    | true =>
      have hlog : (logging step (s, log) a).2 = true := ha
      rw [attempt_cons_ok hlog, attempt_cons_ok ha]
      simp [logging, tried, ha, ih]

/-- **The log**: the commands that succeeded, and then the one that failed. -/
theorem tried_cases (as : List α) (s : σ) :
    ((attempt step as s).ok = true ∧ tried step as s = as.map (·, true)) ∨
      (attempt step as s).ok = false ∧ ∃ a, as[(attempt step as s).done]? = some a ∧
        tried step as s = (as.take (attempt step as s).done).map (·, true) ++ [(a, false)] := by
  induction as generalizing s with
  | nil => exact .inl ⟨rfl, rfl⟩
  | cons a as ih =>
    cases ha : (step s a).2 with
    | false =>
      rw [attempt_cons_fail ha]
      exact .inr ⟨rfl, a, rfl, by simp [tried, ha]⟩
    | true =>
      rw [attempt_cons_ok ha]
      rcases ih (step s a).1 with ⟨hok, htried⟩ | ⟨hok, b, hb, htried⟩
      · exact .inl ⟨hok, by simp [tried, ha, htried]⟩
      · exact .inr ⟨hok, b, by simpa using hb, by simp [tried, ha, htried]⟩

end MiniRtsp.Attempt
