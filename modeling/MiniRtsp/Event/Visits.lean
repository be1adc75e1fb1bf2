import MiniRtsp.Event.Refinement

/-!
# The ids of visits

A visit is an ENTER with the PRESENTs and the LEAVE that follow it. Its results carry one id, which counts the visits
since `person_event_init` or `person_event_reset` from 1 on and, after `2^64 - 1` of them, from 1 again
(`visits_labelled`).
-/

namespace MiniRtsp.Event

open Trace

/-! ## Visits in a list of results -/

/-- The number of ENTERs. -/
def enters (rs : List PersonEventResult) : Nat := rs.countP fun r => r.event = .enter

/-- The id of the `k`-th visit. -/
def visitId (k : Nat) : Nat := if k = 0 then 0 else (k - 1) % (2 ^ 64 - 1) + 1

/-- Result `m` belongs to the visit that result `n` enters: between them are PRESENTs only, and `m` is a PRESENT or the
LEAVE, if it is not the ENTER itself. -/
def InVisit (rs : List PersonEventResult) (n m : Nat) : Prop :=
  (∃ r, rs[n]? = some r ∧ r.event = .enter) ∧ n ≤ m ∧
    (∀ k r, n < k → k < m → rs[k]? = some r → r.event = .present) ∧
    (n < m → ∃ r, rs[m]? = some r ∧ (r.event = .present ∨ r.event = .leave))

/-- The visit that result `n` enters lasts up to the end. -/
def Lasts (rs : List PersonEventResult) (n : Nat) : Prop :=
  (∃ r, rs[n]? = some r ∧ r.event = .enter) ∧ ∀ k r, n < k → rs[k]? = some r → r.event = .present

theorem enters_concat (rs : List PersonEventResult) (r : PersonEventResult) :
    enters (rs ++ [r]) = enters rs + if r.event = .enter then 1 else 0 := by
  simp [enters, List.countP_singleton]

/-- Results without an ENTER among them have the same number of ENTERs before them. -/
theorem enters_take {rs : List PersonEventResult} {n m : Nat} (hle : n ≤ m)
    (hnone : ∀ k r, n < k → k ≤ m → rs[k]? = some r → r.event ≠ .enter) :
    enters (rs.take (m + 1)) = enters (rs.take (n + 1)) := by
  induction m, hle using Nat.le_induction with
  | base => rfl
  | succ m hle ih =>
    have ih := ih fun k r hn hk => hnone k r hn (by omega)
    rw [List.take_add_one]
    cases hr : rs[m + 1]? with
    | none => simpa using ih
    | some r =>
      rw [Option.toList_some, enters_concat, if_neg (hnone (m + 1) r (by omega) (Nat.le_refl _) hr), ih,
        Nat.add_zero]

theorem enters_take_pos {rs : List PersonEventResult} {n : Nat} {r : PersonEventResult} (hr : rs[n]? = some r)
    (henter : r.event = .enter) : enters (rs.take (n + 1)) = enters (rs.take n) + 1 := by
  rw [List.take_add_one, hr, Option.toList_some, enters_concat, if_pos henter]

/-- Different visits have different ids, if they are less than `2^64 - 1` apart. -/
theorem visitId_ne {j k : Nat} (hj : 0 < j) (hlt : j < k) (hnear : k < j + (2 ^ 64 - 1)) : visitId j ≠ visitId k := by
  rw [visitId, visitId, if_neg (by omega), if_neg (by omega)]
  omega

theorem visitId_pos {k : Nat} (hk : 0 < k) : 0 < visitId k := by
  rw [visitId, if_neg (by omega)]
  omega

/-! ## One update -/

/-- `event_id` behind the ENTER of the next visit. -/
theorem enterTracker_eventId {t : PersonEventTracker} {k : Nat} (h : t.eventId.toNat = visitId k) :
    (enterTracker t).eventId.toNat = visitId (k + 1) := by
  have hid : (enterTracker t).eventId = if t.eventId + 1 = 0 then 1 else t.eventId + 1 := rfl
  have hlt := t.eventId.toNat_lt
  have hnext : visitId (k + 1) = k % (2 ^ 64 - 1) + 1 := by
    rw [visitId, if_neg (Nat.succ_ne_zero k), Nat.add_sub_cancel]
  have hbefore : visitId k = if k = 0 then 0 else (k - 1) % (2 ^ 64 - 1) + 1 := rfl
  have hsum : (t.eventId + 1).toNat = (visitId k + 1) % 2 ^ 64 := by
    rw [UInt64.toNat_add, h]
    rfl
  have hzero : t.eventId + 1 = 0 ↔ (visitId k + 1) % 2 ^ 64 = 0 := by
    rw [← UInt64.toNat_inj, hsum]
    rfl
  rw [hid, hnext]
  split
  · rename_i hwrap
    have hlast := hzero.mp hwrap
    rw [UInt64.toNat_one]
    split at hbefore <;> omega
  · rename_i hwrap
    have hroom := mt hzero.mpr hwrap
    rw [hsum]
    split at hbefore <;> omega

/-- **What an update does** to the visit. -/
inductive VisitStep (t : PersonEventTracker) : PersonEventTracker → PersonEventType → Prop where
  | enters {t' : PersonEventTracker} (before : t.active = false) (after : t'.active = true)
      (id : ∀ k, t.eventId.toNat = visitId k → t'.eventId.toNat = visitId (k + 1)) : VisitStep t t' .enter
  | stays {t' : PersonEventTracker} (before : t.active = true) (after : t'.active = true)
      (id : t'.eventId = t.eventId) : VisitStep t t' .present
  | leaves {t' : PersonEventTracker} (before : t.active = true) (after : t'.active = false)
      (id : t'.eventId = t.eventId) : VisitStep t t' .leave
  | absent {t' : PersonEventTracker} (after : t'.active = false) (id : t'.eventId = t.eventId) : VisitStep t t' .none

theorem updateTracker_visit (t : PersonEventTracker) (d : Bool) :
    VisitStep t (updateTracker t d).1 (updateTracker t d).2 := by
  obtain ⟨-, hactive, -, hid⟩ := addEntrySample_frame t d
  unfold updateTracker
  cases hphase : t.active with
  | false =>
    simp only [Bool.not_false, if_true]
    split
    · exact .enters hphase rfl fun k hk => enterTracker_eventId (hid ▸ hk)
    · exact .absent (hactive.trans hphase) hid
  | true =>
    simp only [Bool.not_true, Bool.false_eq_true, if_false]
    split
    · exact .stays hphase rfl rfl
    · split
      · exact .leaves hphase rfl rfl
      · exact .stays hphase rfl rfl

/-! ## The labels of a run -/

/-- What a run keeps: `rs` are the results since the last `person_event_init` or `person_event_reset`. -/
structure Labelled (t : PersonEventTracker) (rs : List PersonEventResult) : Prop where
  id : t.eventId.toNat = visitId (enters rs)
  labels : ∀ n r, rs[n]? = some r → r.eventId.toNat = visitId (enters (rs.take (n + 1)))
  visits : ∀ m r, rs[m]? = some r → r.event = .present ∨ r.event = .leave → ∃ n, n < m ∧ InVisit rs n m
  present : t.active = true → ∃ n, Lasts rs n

theorem labelled_fresh (c : PersonEventConfig) : Labelled (freshTracker c) [] :=
  ⟨rfl, by simp, by simp, fun h => by cases h⟩

/-- One more result, in a longer list. -/
theorem InVisit.concat {rs : List PersonEventResult} {n m : Nat} (h : InVisit rs n m) (hm : m < rs.length)
    (r : PersonEventResult) : InVisit (rs ++ [r]) n m := by
  obtain ⟨⟨e, he, henter⟩, hle, hbetween, hhere⟩ := h
  have hsame : ∀ k, k ≤ m → (rs ++ [r])[k]? = rs[k]? := fun k hk => List.getElem?_append_left (by omega)
  refine ⟨⟨e, by rw [hsame n hle, he], henter⟩, hle, fun k r' hn hk hr' => ?_, fun hlt => ?_⟩
  · rw [hsame k (by omega)] at hr'
    exact hbetween k r' hn hk hr'
  · rw [hsame m (Nat.le_refl m)]
    exact hhere hlt

/-- A PRESENT or a LEAVE goes on with the visit that lasts. -/
theorem Lasts.inVisit {rs : List PersonEventResult} {n : Nat} (h : Lasts rs n) {r : PersonEventResult}
    (hr : r.event = .present ∨ r.event = .leave) : n < rs.length ∧ InVisit (rs ++ [r]) n rs.length := by
  obtain ⟨⟨e, he, henter⟩, hbetween⟩ := h
  have hn := (List.getElem?_eq_some_iff.mp he).1
  refine ⟨hn, ⟨e, by rw [List.getElem?_append_left hn, he], henter⟩, hn.le, fun k r' hnk hk hr' => ?_, fun _ => ?_⟩
  · rw [List.getElem?_append_left hk] at hr'
    exact hbetween k r' hnk hr'
  · exact ⟨r, List.getElem?_concat_length, hr⟩

/-- While a person is present, the visit lasts. -/
theorem Labelled.lasts {t t' : PersonEventTracker} {rs : List PersonEventResult} {r : PersonEventResult}
    (h : Labelled t rs) (hstep : VisitStep t t' r.event) (hactive : t'.active = true) :
    ∃ n, Lasts (rs ++ [r]) n := by
  generalize hevent : r.event = event at hstep
  cases hstep with
  | enters before after id =>
    refine ⟨rs.length, ⟨r, List.getElem?_concat_length, hevent⟩, fun k r' hk hr' => ?_⟩
    rcases getElem?_concat_cases hr' with ⟨hlt, -⟩ | ⟨heq, -⟩ <;> omega
  | stays before after id =>
    obtain ⟨n, ⟨e, he, henter⟩, hbetween⟩ := h.present before
    have hn := (List.getElem?_eq_some_iff.mp he).1
    refine ⟨n, ⟨e, by rw [List.getElem?_append_left hn, he], henter⟩, fun k r' hk hr' => ?_⟩
    rcases getElem?_concat_cases hr' with ⟨-, hr'⟩ | ⟨-, rfl⟩
    · exact hbetween k r' hk hr'
    · exact hevent
  | leaves before after id =>
    rw [after] at hactive
    cases hactive
  | absent after id =>
    rw [after] at hactive
    cases hactive

/-- **An accepted update** labels its result. -/
theorem Labelled.update {t t' : PersonEventTracker} {rs : List PersonEventResult} {r : PersonEventResult}
    (h : Labelled t rs) (hstep : VisitStep t t' r.event) (hid : r.eventId = t'.eventId) :
    Labelled t' (rs ++ [r]) := by
  have hentersId : t'.eventId.toNat = visitId (enters (rs ++ [r])) := by
    rw [enters_concat]
    generalize r.event = event at hstep
    cases hstep with
    | enters before after id => exact id _ h.id
    | stays before after id => simpa [id] using h.id
    | leaves before after id => simpa [id] using h.id
    | absent after id => simpa [id] using h.id
  have hvisit : r.event = .present ∨ r.event = .leave → ∃ n, n < rs.length ∧ InVisit (rs ++ [r]) n rs.length := by
    intro hr
    have hactive : t.active = true := by
      generalize r.event = event at hstep hr
      cases hstep with
      | stays before after id => exact before
      | leaves before after id => exact before
      | _ => simp at hr
    obtain ⟨n, hlasts⟩ := h.present hactive
    exact ⟨n, hlasts.inVisit hr⟩
  refine ⟨hentersId, fun n r' hr' => ?_, fun m r' hr' hevent => ?_, fun hactive => ?_⟩
  · rcases getElem?_concat_cases hr' with ⟨hn, hr'⟩ | ⟨rfl, rfl⟩
    · rw [List.take_append_of_le_length hn]
      exact h.labels n r' hr'
    · rw [List.take_of_length_le (by simp), hid]
      exact hentersId
  · rcases getElem?_concat_cases hr' with ⟨hm, hr'⟩ | ⟨rfl, rfl⟩
    · obtain ⟨n, hlt, hin⟩ := h.visits m r' hr' hevent
      exact ⟨n, hlt, hin.concat hm r⟩
    · exact hvisit hevent
  · exact h.lasts hstep hactive

/-- **A call** keeps the labels. -/
theorem trackerStep_labelled {h : History PersonEventTracker TrackerEvent} (hl : Labelled h.state (results h.events))
    (call : TrackerCall) :
    Labelled (advance trackerStep h call).state (results (advance trackerStep h call).events) := by
  have hstep := trackerStep_cases call h.state
  simp only [advance, results_append]
  generalize (trackerStep call h.state).1 = t', (trackerStep call h.state).2 = events at hstep ⊢
  cases hstep with
  | rejected quiet =>
    rw [quiet]
    exact hl
  | started valid => exact labelled_fresh _
  | restarted => exact labelled_fresh _
  | updated i valid => exact hl.update (updateTracker_visit h.state (detected i)) rfl

/-- The results of a visit have the same number of ENTERs before them, and at least one. -/
theorem InVisit.enters_eq {rs : List PersonEventResult} {n m : Nat} (h : InVisit rs n m) :
    enters (rs.take (m + 1)) = enters (rs.take (n + 1)) ∧ 0 < enters (rs.take (n + 1)) := by
  obtain ⟨⟨e, he, henter⟩, hle, hbetween, hhere⟩ := h
  constructor
  · apply enters_take hle
    intro k r hn hk hr
    rcases Nat.lt_or_eq_of_le hk with hlt | rfl
    · rw [hbetween k r hn hlt hr]
      simp
    · obtain ⟨r', hr', hevent⟩ := hhere hn
      rw [hr, Option.some.injEq] at hr'
      rcases hevent with hevent | hevent <;> simp [hr', hevent]
  · rw [enters_take_pos he henter]
    exact Nat.succ_pos _

/-- **Visits are labelled consistently.** After `person_event_init` with a valid configuration and any calls, every
result since the last `person_event_init` or `person_event_reset` has id 0 before the first ENTER and then the id of the
latest ENTER, where the `k`-th one has `(k - 1) mod (2^64 - 1) + 1`. Every PRESENT and every LEAVE belongs to a visit,
the results of a visit share one id, which is not 0, and visits less than `2^64 - 1` apart have different ids. A
rejected call changes nothing. -/
theorem visits_labelled {c : PersonEventConfig} (hc : configIsValid c = true) (t₀ : PersonEventTracker)
    (calls : List TrackerCall) :
    let rs := results (run trackerStep t₀ (.init true (some c) :: calls)).events
    (∀ n r, rs[n]? = some r → r.eventId.toNat = visitId (enters (rs.take (n + 1)))) ∧
    (∀ m r, rs[m]? = some r → r.event = .present ∨ r.event = .leave → ∃ n, n < m ∧ InVisit rs n m) ∧
    (∀ n m r s, InVisit rs n m → rs[n]? = some r → rs[m]? = some s → s.eventId = r.eventId ∧ r.eventId ≠ 0) ∧
    (∀ n m r s, rs[n]? = some r → rs[m]? = some s → r.event = .enter → s.event = .enter →
      enters (rs.take (n + 1)) < enters (rs.take (m + 1)) →
      enters (rs.take (m + 1)) < enters (rs.take (n + 1)) + (2 ^ 64 - 1) → r.eventId ≠ s.eventId) ∧
    (∀ tracker input result, (tracker = none ∨ input = none ∨ result = none ∨
        ∃ t, tracker = some t ∧ configIsValid t.config = false) →
      personEventUpdate tracker input result = (-1, tracker, result)) := by
  intro rs
  have hlabelled : Labelled (run trackerStep t₀ (.init true (some c) :: calls)).state rs := by
    change Labelled (run trackerStep t₀ (.init true (some c) :: calls)).state
      (results (run trackerStep t₀ (.init true (some c) :: calls)).events)
    rw [run_init hc]
    apply advance_induction trackerStep (P := fun h => Labelled h.state (results h.events))
    · exact fun h call hl => trackerStep_labelled hl call
    · exact labelled_fresh c
  refine ⟨hlabelled.labels, hlabelled.visits, ?_, ?_, ?_⟩
  · intro n m r s hvisit hr hs
    obtain ⟨heq, hpos⟩ := hvisit.enters_eq
    have hrid := hlabelled.labels n r hr
    have hsid := hlabelled.labels m s hs
    constructor
    · rw [← UInt64.toNat_inj, hrid, hsid, heq]
    · intro hzero
      rw [hzero] at hrid
      exact absurd hrid (visitId_pos hpos).ne
  · intro n m r s hr hs henter _ hlt hnear heq
    have hpos : 0 < enters (rs.take (n + 1)) := by
      rw [enters_take_pos hr henter]
      exact Nat.succ_pos _
    apply visitId_ne hpos hlt hnear
    rw [← hlabelled.labels n r hr, ← hlabelled.labels m s hs, heq]
  · intro tracker input result hrejected
    rcases personEventUpdate_cases tracker input result with h | ⟨t, i, r, rfl, rfl, rfl, hvalid, -⟩
    · exact h
    · rcases hrejected with h | h | h | ⟨t', ht, hinvalid⟩
      · cases h
      · cases h
      · cases h
      · obtain rfl := Option.some.inj ht
        rw [hvalid] at hinvalid
        cases hinvalid

/-- Two frames with a person make the first visit, and the third one belongs to it. -/
theorem visits_labelled_default :
    let rs := results (run trackerStep (freshTracker personEventDefaultConfig)
      (.init true (some personEventDefaultConfig) :: [frameCall 1, frameCall 1, frameCall 1])).events
    rs.map (·.event) = [.none, .enter, .present] ∧ ∀ r, rs[2]? = some r → r.eventId.toNat = 1 := by
  intro rs
  have hlabels := (@visits_labelled personEventDefaultConfig (by decide) (freshTracker personEventDefaultConfig)
    [frameCall 1, frameCall 1, frameCall 1]).1
  have hevents : rs.map (·.event) = [.none, .enter, .present] := by decide +kernel
  have henters : enters (rs.take 3) = 1 := by decide +kernel
  refine ⟨hevents, fun r hr => ?_⟩
  rw [hlabels 2 r hr]
  change visitId (enters (rs.take 3)) = 1
  rw [henters]
  rfl

end MiniRtsp.Event
