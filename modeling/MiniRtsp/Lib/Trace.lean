import Mathlib.Data.List.Infix

/-!
# Runs and their events

A machine takes inputs one by one and emits events (`step`). A history is a state with all that has happened before it;
`run` is the history after a list of inputs. What holds at the start and is kept by every step of the run holds after
the run (`run_induction`). A law about every event and the events before it (`Monitored`) holds of a run when it holds
of the events of every step (`run_monitored`).
-/

namespace MiniRtsp.Trace

variable {σ ι ε : Type*}

/-- A state and the events that led to it, oldest first. -/
structure History (σ ε : Type*) where
  state : σ
  events : List ε

variable (step : ι → σ → σ × List ε)

/-- One more step. -/
def advance (h : History σ ε) (i : ι) : History σ ε := ⟨(step i h.state).1, h.events ++ (step i h.state).2⟩

/-- The history of a list of inputs. -/
def run (s : σ) (inputs : List ι) : History σ ε := inputs.foldl (advance step) ⟨s, []⟩

@[simp] theorem run_nil (s : σ) : run step s [] = ⟨s, []⟩ := rfl

theorem run_concat (s : σ) (inputs : List ι) (i : ι) :
    run step s (inputs ++ [i]) = advance step (run step s inputs) i := by
  simp [run]

/-- The events of a longer run go on from those of a shorter one. -/
theorem run_events_prefix_le {s : σ} {past inputs : List ι} (h : past <+: inputs) :
    (run step s past).events <+: (run step s inputs).events := by
  obtain ⟨rest, rfl⟩ := h
  induction rest using List.reverseRecOn with
  | nil => rw [List.append_nil]
  | append_singleton rest i ih =>
    rw [← List.append_assoc, run_concat]
    exact ih.trans (List.prefix_append _ _)

/-- **Run rule**: what holds at the start and is kept by every step of the run holds after it. -/
theorem run_induction {P : History σ ε → Prop} {s : σ} {inputs : List ι} (hstart : P ⟨s, []⟩)
    (hstep : ∀ past i, past ++ [i] <+: inputs → P (run step s past) → P (advance step (run step s past) i)) :
    P (run step s inputs) := by
  have key : ∀ past, past <+: inputs → P (run step s past) := by
    intro past
    induction past using List.reverseRecOn with
    | nil => exact fun _ => hstart
    | append_singleton past i ih =>
      intro hp
      rw [run_concat]
      exact hstep past i hp (ih ((List.prefix_append past [i]).trans hp))
  exact key inputs (List.prefix_refl inputs)

/-- The run rule from a later history on, for what every step keeps. -/
theorem advance_induction {P : History σ ε → Prop} (hstep : ∀ h i, P h → P (advance step h i)) {h : History σ ε}
    (hstart : P h) (inputs : List ι) : P (inputs.foldl (advance step) h) := by
  induction inputs generalizing h with
  | nil => exact hstart
  | cons i inputs ih => exact ih (hstep h i hstart)

/-- An input of a prefix is an input. -/
theorem mem_of_concat {past inputs : List ι} {i : ι} (h : past ++ [i] <+: inputs) : i ∈ inputs :=
  h.subset (by simp)

/-- **Whatever is observed** in a run, by `f`, was made by one of its steps. -/
theorem run_observed {β : Type*} (f : ε → Option β) {s : σ} {inputs : List ι} {n : Nat} {x : β}
    (h : ((run step s inputs).events.filterMap f)[n]? = some x) :
    ∃ past i k, past ++ [i] <+: inputs ∧ n = ((run step s past).events.filterMap f).length + k ∧
      ((step i (run step s past).state).2.filterMap f)[k]? = some x := by
  induction inputs using List.reverseRecOn with
  | nil => simp at h
  | append_singleton inputs i ih =>
    rw [run_concat, advance, List.filterMap_append] at h
    rcases Nat.lt_or_ge n ((run step s inputs).events.filterMap f).length with hlt | hge
    · rw [List.getElem?_append_left hlt] at h
      obtain ⟨past, j, k, hpast, hn, hx⟩ := ih h
      exact ⟨past, j, k, hpast.trans (List.prefix_append _ _), hn, hx⟩
    · rw [List.getElem?_append_right hge] at h
      exact ⟨inputs, i, _, List.prefix_refl _, (Nat.add_sub_cancel' hge).symm, h⟩

/-- Every step of the run from `h` on meets the condition. -/
def Along (cond : History σ ε → ι → Prop) : History σ ε → List ι → Prop
  | _, [] => True
  | h, i :: inputs => cond h i ∧ Along cond (advance step h i) inputs

instance decidableAlong {cond : History σ ε → ι → Prop} [∀ h i, Decidable (cond h i)] :
    ∀ h inputs, Decidable (Along step cond h inputs)
  | _, [] => .isTrue trivial
  | h, i :: inputs => @instDecidableAnd _ _ _ (decidableAlong (advance step h i) inputs)

/-- The condition at a step of the run. -/
theorem Along.here {cond : History σ ε → ι → Prop} {past inputs : List ι} {i : ι} (hp : past ++ [i] <+: inputs)
    {h : History σ ε} (hall : Along step cond h inputs) : cond (past.foldl (advance step) h) i := by
  induction past generalizing h inputs with
  | nil =>
    obtain ⟨rest, rfl⟩ := hp
    exact hall.1
  | cons j past ih =>
    obtain ⟨rest, rfl⟩ := hp
    exact ih (List.prefix_append _ _) hall.2

/-- **Two regimes**: a run is good as long as every step meets the condition, and bad from the first step on that does
not. -/
theorem along_or {cond : History σ ε → ι → Prop} {good bad : History σ ε → Prop}
    (keep : ∀ h i, good h → cond h i → good (advance step h i))
    (lose : ∀ h i, good h → ¬cond h i → bad (advance step h i)) (stay : ∀ h i, bad h → bad (advance step h i))
    {h : History σ ε} (hgood : good h) (inputs : List ι) :
    Along step cond h inputs ∧ good (inputs.foldl (advance step) h) ∨
      ¬Along step cond h inputs ∧ bad (inputs.foldl (advance step) h) := by
  induction inputs generalizing h with
  | nil => exact .inl ⟨trivial, hgood⟩
  | cons i inputs ih =>
    by_cases hc : cond h i
    · simpa only [Along, hc, true_and, List.foldl_cons] using ih (keep h i hgood hc)
    · refine .inr ⟨fun hall => hc hall.1, ?_⟩
      exact advance_induction step stay (lose h i hgood hc) inputs

/-! ## Lists of events -/

/-- A place in a list with one more element. -/
theorem getElem?_concat_cases {l : List ε} {a x : ε} {n : Nat} (h : (l ++ [a])[n]? = some x) :
    (n < l.length ∧ l[n]? = some x) ∨ n = l.length ∧ x = a := by
  by_cases hlt : n < l.length
  · rw [List.getElem?_append_left hlt] at h
    exact .inl ⟨hlt, h⟩
  · obtain ⟨hle, hx⟩ := List.getElem?_eq_some_iff.mp h
    have hn : n = l.length := by simp at hle; omega
    subst hn
    exact .inr ⟨rfl, by simpa using hx.symm⟩

/-- An element of two lists put together is one of the first or one of the second. -/
theorem append_eq_append_cons_cases {l es before after : List ε} {e : ε} (h : l ++ es = before ++ e :: after) :
    (∃ rest, l = before ++ e :: rest ∧ after = rest ++ es) ∨ ∃ rest, before = l ++ rest ∧ es = rest ++ e :: after := by
  rcases List.append_eq_append_iff.mp h with ⟨rest, rfl, hrest⟩ | ⟨rest, rfl, hrest⟩
  · exact .inr ⟨rest, rfl, hrest⟩
  · cases rest with
    | nil => exact .inr ⟨[], by simp, by simpa using hrest.symm⟩
    | cons x rest =>
      obtain ⟨rfl, rfl⟩ := List.cons.inj hrest
      exact .inl ⟨rest, rfl, rfl⟩

/-- An observation of events does not see those of some kinds. -/
theorem filterMap_unseen {α β : Type*} {f : ε → Option β} {g : α → ε} (h : ∀ a, f (g a) = none) (l : List α) :
    (l.map g).filterMap f = [] := by
  rw [List.filterMap_map]
  exact List.filterMap_eq_nil_iff.mpr fun a _ => h a

/-! ## Laws about events -/

/-- Every event is in order, given the events before it. -/
def Monitored (ok : List ε → ε → Prop) (events : List ε) : Prop :=
  ∀ before e after, events = before ++ e :: after → ok before e

variable {ok : List ε → ε → Prop}

theorem monitored_nil : Monitored ok [] := fun before e after h => by simp at h

/-- **Joined events**: the second ones come after all the first ones. -/
theorem monitored_append {es fs : List ε} :
    Monitored ok (es ++ fs) ↔ Monitored ok es ∧ Monitored (fun before => ok (es ++ before)) fs := by
  constructor
  · intro h
    refine ⟨fun before e after heq => h before e (after ++ fs) (by simp [heq]), ?_⟩
    intro before e after heq
    exact h (es ++ before) e after (by simp [heq])
  · rintro ⟨hes, hfs⟩ before e after heq
    rcases List.append_eq_append_iff.mp heq with ⟨past, rfl, hrest⟩ | ⟨past, rfl, hrest⟩
    · exact hfs past e after hrest
    · cases past with
      | nil =>
        have hhere := hfs [] e after (by simpa using hrest.symm)
        simpa using hhere
      | cons x past =>
        rw [List.cons_append, List.cons.injEq] at hrest
        obtain ⟨rfl, rfl⟩ := hrest
        exact hes before e past rfl

theorem monitored_cons {e : ε} {es : List ε} :
    Monitored ok (e :: es) ↔ ok [] e ∧ Monitored (fun before => ok (e :: before)) es := by
  rw [← List.singleton_append, monitored_append]
  refine and_congr_left' ⟨fun h => h [] e [] rfl, ?_⟩
  intro h before x after heq
  obtain ⟨rfl, rfl, -⟩ : before = [] ∧ e = x ∧ after = [] := by
    cases before with
    | nil => simpa using heq
    | cons => simp at heq
  exact h

/-- Events that are in order whatever came before them. -/
theorem monitored_of_forall {es : List ε} (h : ∀ e ∈ es, ∀ before, ok before e) : Monitored ok es :=
  fun before e after heq => h e (by simp [heq]) before

/-- The `n`-th event and the events before it. -/
theorem Monitored.at {es : List ε} (h : Monitored ok es) {n : Nat} {e : ε} (hn : es[n]? = some e) :
    ok (es.take n) e := by
  obtain ⟨hlt, rfl⟩ := List.getElem?_eq_some_iff.mp hn
  apply h _ _ (es.drop (n + 1))
  rw [← List.drop_eq_getElem_cons hlt, List.take_append_drop]

/-- **Monitor rule**: an invariant of the steps that puts the events of every step in order puts those of the run in
order. -/
theorem run_monitored {P : History σ ε → Prop} {s : σ} {inputs : List ι} (hstart : P ⟨s, []⟩)
    (hstep : ∀ past i, past ++ [i] <+: inputs → P (run step s past) →
      P (advance step (run step s past) i) ∧
        Monitored (fun before => ok ((run step s past).events ++ before)) (step i (run step s past).state).2) :
    Monitored ok (run step s inputs).events := by
  have hboth : P (run step s inputs) ∧ Monitored ok (run step s inputs).events :=
    run_induction step (P := fun h => P h ∧ Monitored ok h.events) ⟨hstart, monitored_nil⟩ fun past i hp h =>
      have hnext := hstep past i hp h.1
      ⟨hnext.1, monitored_append.mpr ⟨h.2, hnext.2⟩⟩
  exact hboth.2

/-- **Two laws** that agree on the events of every step agree on the run. -/
theorem run_monitored_iff {ok' : List ε → ε → Prop} {P : History σ ε → Prop} {s : σ} {inputs : List ι}
    (hstart : P ⟨s, []⟩)
    (hstep : ∀ h i, P h → P (advance step h i) ∧
      (Monitored (fun before => ok (h.events ++ before)) (step i h.state).2 ↔
        Monitored (fun before => ok' (h.events ++ before)) (step i h.state).2)) :
    Monitored ok (run step s inputs).events ↔ Monitored ok' (run step s inputs).events := by
  have hboth : P (run step s inputs) ∧
      (Monitored ok (run step s inputs).events ↔ Monitored ok' (run step s inputs).events) :=
    run_induction step (P := fun h => P h ∧ (Monitored ok h.events ↔ Monitored ok' h.events))
      ⟨hstart, iff_of_true monitored_nil monitored_nil⟩ fun past i _ h => by
        obtain ⟨hnext, hiff⟩ := hstep _ i h.1
        exact ⟨hnext, monitored_append.trans ((and_congr h.2 hiff).trans monitored_append.symm)⟩
  exact hboth.2

end MiniRtsp.Trace
