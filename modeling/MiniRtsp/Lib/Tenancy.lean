import MiniRtsp.Lib.Trace
import Mathlib.Data.Nat.ModEq

/-!
# Places and their tenants

Something stands after a list of events when an event has begun it and no later event has ended it (`Since`). A place
is taken under a name and freed again (`Occupied`). Names that are given out in turn come back after a round of `n`; as
long as nobody stays in a place for a whole round (`NotStale`), no two places are occupied under one name
(`Occupied.unique`).
-/

namespace MiniRtsp.Trace

variable {ε : Type*}

/-! ## What stands -/

/-- Some event begins it, and no later event ends it. -/
def Since (begins ends : ε → Prop) (es : List ε) : Prop :=
  ∃ before e after, es = before ++ e :: after ∧ begins e ∧ ∀ x ∈ after, ¬ends x

variable {begins ends : ε → Prop} {es : List ε}

theorem not_since_nil : ¬Since begins ends [] := by
  rintro ⟨before, e, after, h, -⟩
  simp at h

/-- **One more event**: it begins it, or it stood and the event does not end it. -/
theorem since_concat {e : ε} : Since begins ends (es ++ [e]) ↔ begins e ∨ Since begins ends es ∧ ¬ends e := by
  constructor
  · rintro ⟨before, b, after, h, hb, hends⟩
    rcases List.eq_nil_or_concat after with rfl | ⟨rest, x, rfl⟩
    · obtain ⟨-, hlast⟩ := List.append_inj' h rfl
      obtain rfl := List.singleton_inj.mp hlast
      exact .inl hb
    · have hsplit : es ++ [e] = (before ++ b :: rest) ++ [x] := by simpa using h
      obtain ⟨rfl, hlast⟩ := List.append_inj' hsplit rfl
      obtain rfl := List.singleton_inj.mp hlast
      exact .inr ⟨⟨before, b, rest, rfl, hb, fun y hy => hends y (by simp [hy])⟩, hends e (by simp)⟩
  · rintro (hb | ⟨⟨before, b, after, rfl, hb, hends⟩, he⟩)
    · exact ⟨es, e, [], rfl, hb, by simp⟩
    · refine ⟨before, b, after ++ [e], by simp, hb, ?_⟩
      intro x hx
      rcases List.mem_append.mp hx with hx | hx
      · exact hends x hx
      · rw [List.mem_singleton.mp hx]
        exact he

/-- Events that neither begin nor end it. -/
theorem since_append {fs : List ε} (h : ∀ e ∈ fs, ¬begins e ∧ ¬ends e) :
    Since begins ends (es ++ fs) ↔ Since begins ends es := by
  induction fs using List.reverseRecOn with
  | nil => rw [List.append_nil]
  | append_singleton fs e ih =>
    rw [← List.append_assoc, since_concat, ih fun x hx => h x (by simp [hx])]
    obtain ⟨hbegins, hends⟩ := h e (by simp)
    simp [hbegins, hends]

/-- Events that do not end it. -/
theorem Since.append {fs : List ε} (h : Since begins ends es) (hfs : ∀ e ∈ fs, ¬ends e) :
    Since begins ends (es ++ fs) := by
  obtain ⟨before, e, after, rfl, he, hafter⟩ := h
  refine ⟨before, e, after ++ fs, by simp, he, fun x hx => ?_⟩
  rcases List.mem_append.mp hx with hx | hx
  · exact hafter x hx
  · exact hfs x hx

/-- Events of which one ends it, and none begins it. -/
theorem not_since_append {fs : List ε} (hbegins : ∀ e ∈ fs, ¬begins e) (hends : ∃ e ∈ fs, ends e) :
    ¬Since begins ends (es ++ fs) := by
  rintro ⟨before, e, after, heq, he, hafter⟩
  rcases append_eq_append_cons_cases heq with ⟨rest, -, rfl⟩ | ⟨rest, -, rfl⟩
  · obtain ⟨x, hx, hend⟩ := hends
    exact hafter x (by simp [hx]) hend
  · exact hbegins e (by simp) he

/-- One more event in order. -/
theorem Monitored.concat {ok : List ε → ε → Prop} {e : ε} (h : Monitored ok es) (he : ok es e) :
    Monitored ok (es ++ [e]) := by
  have hlast : Monitored (fun before => ok (es ++ before)) [e] :=
    monitored_cons.mpr ⟨by simpa using he, monitored_nil⟩
  exact monitored_append.mpr ⟨h, hlast⟩

/-! ## Places -/

section Places

variable {ι κ : Type*} (takes : ε → Option (ι × κ)) (frees : ι → ε → Prop)

/-- The place `i` has been taken under the name `k` and not been freed. -/
def Occupied (es : List ε) (i : ι) (k : κ) : Prop := Since (fun e => takes e = some (i, k)) (frees i) es

/-- How often a place has been taken. -/
def takings (es : List ε) : Nat := es.countP fun e => (takes e).isSome

/-- Nobody stays in a place while places are taken `n` more times. -/
def NotStale (n : Nat) (es : List ε) : Prop :=
  ∀ before e during after i k, es = before ++ e :: during ++ after → takes e = some (i, k) →
    (∀ x ∈ during, ¬frees i x) → takings takes during < n

variable {takes frees}

theorem NotStale.prefix_of {n : Nat} {fs : List ε} (h : NotStale takes frees n (es ++ fs)) :
    NotStale takes frees n es := by
  intro before e during after i k heq
  apply h before e during (after ++ fs) i k
  rw [heq, List.append_assoc]

/-- A short run has no time for it. -/
theorem notStale_of_length {n : Nat} (h : es.length < n) : NotStale takes frees n es := by
  rintro before e during after i k rfl - -
  have hcount : takings takes during ≤ during.length := List.countP_le_length
  simp at h
  omega

/-- The taking of a given number. -/
theorem taking_unique {before before' after after' : List ε} {e e' : ε} {p p' : ι × κ}
    (h : before ++ e :: after = before' ++ e' :: after') (he : takes e = some p) (he' : takes e' = some p')
    (hcount : takings takes before = takings takes before') : p = p' := by
  -- the earlier of two takings is counted before the later one
  have earlier : ∀ {early late : List ε} {x : ε} {rest : List ε}, late = early ++ x :: rest → (takes x).isSome →
      takings takes early < takings takes late := by
    rintro early late x rest rfl hx
    simp [takings, hx]
  rcases List.append_eq_append_iff.mp h with ⟨past, rfl, hrest⟩ | ⟨past, rfl, hrest⟩
  · cases past with
    | nil =>
      obtain ⟨rfl, -⟩ := List.cons.inj hrest
      exact Option.some.inj (he.symm.trans he')
    | cons x past =>
      obtain ⟨rfl, rfl⟩ := List.cons.inj hrest
      exact absurd hcount (earlier rfl (by simp [he])).ne
  · cases past with
    | nil =>
      obtain ⟨rfl, -⟩ := List.cons.inj hrest
      exact Option.some.inj (he.symm.trans he')
    | cons x past =>
      obtain ⟨rfl, rfl⟩ := List.cons.inj hrest
      exact absurd hcount (earlier rfl (by simp [he'])).ne'

/-- **One name, one place**, where the names are given in turn with a round of `n`. -/
theorem Occupied.unique {name : Nat → κ} {n : Nat} (hround : ∀ a b, name a = name b → a ≡ b [MOD n])
    (hnamed : Monitored (fun before e => ∀ i k, takes e = some (i, k) → k = name (takings takes before)) es)
    (hstale : NotStale takes frees n es) {i j : ι} {k : κ} (hi : Occupied takes frees es i k)
    (hj : Occupied takes frees es j k) : i = j := by
  obtain ⟨before, e, after, heq, he, hafter⟩ := hi
  obtain ⟨before', e', after', heq', he', hafter'⟩ := hj
  -- the number of a taking, and how many there have been since
  have hsince : takings takes after < n := hstale before e after [] i k (by simpa using heq) he hafter
  have hsince' : takings takes after' < n := hstale before' e' after' [] j k (by simpa using heq') he' hafter'
  have htotal : takings takes es = takings takes before + 1 + takings takes after := by
    simp [heq, takings, he]
    omega
  have htotal' : takings takes es = takings takes before' + 1 + takings takes after' := by
    simp [heq', takings, he']
    omega
  have hturn : name (takings takes before) = name (takings takes before') :=
    (hnamed before e after heq i k he).symm.trans (hnamed before' e' after' heq' j k he')
  have hsame : takings takes before = takings takes before' := by
    apply (hround _ _ hturn).eq_of_abs_lt
    rw [abs_lt]
    omega
  have hplace := taking_unique (heq.symm.trans heq') he he' hsame
  exact (Prod.mk.inj hplace).1

end Places

end MiniRtsp.Trace
