import Mathlib.Data.List.Induction
import MiniRtsp.Event.Presence

/-!
# The tracker refines the N-of-M rule

`EntryHistory t e` says that the ring buffer of the tracker holds the window of the epoch `e` and that `history_hits`
counts its positive samples; `add_entry_sample` keeps it (`addEntrySample_history`). `Simulates c t h` relates a
tracker to the samples `h` it was fed (newest first): while a person is absent the ring holds the current epoch, while
a person is present it is empty. Every update keeps the relation and emits the event of the rule
(`updateTracker_simulates`); from the initial tracker this covers every sequence of calls (`session_simulates`).
-/

namespace MiniRtsp.Event

/-- The rule that a configuration stands for. -/
def rule (c : PersonEventConfig) : PresenceRule := ⟨c.enterWindow.toNat, c.enterRequired.toNat, c.leaveCount.toNat⟩

/-- What `config_is_valid` accepts. -/
theorem configIsValid_iff (c : PersonEventConfig) : configIsValid c = true ↔
    0 < (rule c).required ∧ (rule c).required ≤ (rule c).window ∧ (rule c).window ≤ 32 ∧ 0 < (rule c).leave := by
  simp only [configIsValid, rule, maxEnterWindow, ← UInt32.toNat_inj, UInt32.lt_iff_toNat_lt, gt_iff_lt]
  simp only [UInt32.toNat_zero]
  split
  · simp; omega
  · split
    · simp; omega
    · split
      · simp; omega
      · simp; omega

/-! ## The ring buffer -/

/-- The ring buffer of `t` holds the window of the epoch `e` (newest first). -/
structure EntryHistory (t : PersonEventTracker) (e : List Bool) : Prop where
  size : t.enterHistory.length = maxEnterWindow
  ring :
    Ring.Holds t.config.enterWindow.toNat t.enterHistory t.historyPos.toNat t.historyCount.toNat (e.map sampleValue)
  hits_eq : t.historyHits.toNat = hits (rule t.config) e

/-- The hits of an epoch, counted on the stored values. -/
theorem hits_eq_countP (r : PresenceRule) (e : List Bool) :
    hits r e = ((e.map sampleValue).take r.window).countP (· == 1) := by
  unfold hits
  rw [← List.map_take, List.countP_map]
  congr 1
  funext b
  cases b <;> rfl

theorem sampleValue_toNat (b : Bool) : (sampleValue b).toNat = if sampleValue b == 1 then 1 else 0 := by
  cases b <;> rfl

theorem hits_le (r : PresenceRule) (e : List Bool) : hits r e ≤ r.window := by
  have := Ring.countP_window_le id (w := r.window) (h := e)
  unfold hits
  omega

/-- A cleared history is the history of the empty epoch. -/
theorem clearEntryHistory_history (t : PersonEventTracker) : EntryHistory (clearEntryHistory t) [] :=
  ⟨rfl, Ring.holds_nil _ _, by simp [clearEntryHistory, hits]⟩

section Add

variable {t : PersonEventTracker} {e : List Bool} {w : Nat}

theorem storeEntrySample_frame (t : PersonEventTracker) (d : Bool) :
    (storeEntrySample t d).config = t.config ∧ (storeEntrySample t d).active = t.active ∧
      (storeEntrySample t d).consecutiveMisses = t.consecutiveMisses ∧ (storeEntrySample t d).eventId = t.eventId := by
  unfold storeEntrySample
  split <;> exact ⟨rfl, rfl, rfl, rfl⟩

/-- `add_entry_sample` touches the ring buffer only. -/
theorem addEntrySample_frame (t : PersonEventTracker) (d : Bool) :
    (addEntrySample t d).config = t.config ∧ (addEntrySample t d).active = t.active ∧
      (addEntrySample t d).consecutiveMisses = t.consecutiveMisses ∧ (addEntrySample t d).eventId = t.eventId := by
  have h := storeEntrySample_frame t d
  unfold addEntrySample
  simp only
  split <;> exact h

/-- What `add_entry_sample` stores, before it advances the position. -/
theorem addEntrySample_stored (t : PersonEventTracker) (d : Bool) :
    (addEntrySample t d).enterHistory = (storeEntrySample t d).enterHistory ∧
      (addEntrySample t d).historyCount = (storeEntrySample t d).historyCount ∧
      (addEntrySample t d).historyHits = (storeEntrySample t d).historyHits := by
  unfold addEntrySample
  simp only
  split <;> exact ⟨rfl, rfl, rfl⟩

/-- The three fields that both branches of `add_entry_sample` write. -/
theorem storeEntrySample_history (hw0 : 0 < t.config.enterWindow.toNat) (hw : t.config.enterWindow.toNat ≤ 32)
    (hh : EntryHistory t e) (d : Bool) :
    (storeEntrySample t d).enterHistory = t.enterHistory.set t.historyPos.toNat (sampleValue d) ∧
      (storeEntrySample t d).historyPos = t.historyPos ∧
      (storeEntrySample t d).historyCount.toNat = (if t.historyCount.toNat < t.config.enterWindow.toNat then
        t.historyCount.toNat + 1 else t.historyCount.toNat) ∧
      (storeEntrySample t d).historyHits.toNat = hits (rule t.config) (d :: e) := by
  have hcount := hh.ring.count_eq
  have hhits := hh.hits_eq
  have hle := hits_le (rule t.config) e
  rw [List.length_map] at hcount
  rw [hits_eq_countP] at hhits hle ⊢
  have hwin : (rule t.config).window = t.config.enterWindow.toNat := rfl
  rw [hwin] at hhits hle ⊢
  have hval := sampleValue_toNat d
  unfold storeEntrySample
  by_cases hfill : t.historyCount < t.config.enterWindow
  · -- the window is still filling
    rw [if_pos hfill]
    rw [UInt32.lt_iff_toNat_lt] at hfill
    have hpush := Ring.countP_window_push (· == 1) (w := t.config.enterWindow.toNat) (h := e.map sampleValue)
      (by rw [List.length_map]; omega) (sampleValue d)
    refine ⟨rfl, rfl, ?_, ?_⟩
    · rw [if_pos hfill, UInt32.toNat_add]
      simp; omega
    · rw [List.map_cons, hpush, UInt32.toNat_add, UInt8.toNat_toUInt32]
      have h1 : (if sampleValue d == 1 then 1 else 0) ≤ 1 := by split <;> omega
      omega
  · -- the window is full: the oldest sample leaves it
    rw [if_neg hfill]
    rw [UInt32.lt_iff_toNat_lt] at hfill
    have hfull : t.config.enterWindow.toNat ≤ (e.map sampleValue).length := by rw [List.length_map]; omega
    obtain ⟨y, hy⟩ : ∃ y, (e.map sampleValue)[t.config.enterWindow.toNat - 1]? = some y :=
      ⟨_, List.getElem?_eq_getElem (by omega)⟩
    have hevict := hh.ring.evicted hw0 hfull
    have hold : t.enterHistory.getD t.historyPos.toNat 0 = y := by
      rw [List.getD_eq_getElem?_getD, hevict, hy]; rfl
    obtain ⟨b, -, hb⟩ := List.mem_map.mp (List.mem_of_getElem? hy)
    have hpush := Ring.countP_window_full (· == 1) hw0 hy (sampleValue d)
    have hyval := sampleValue_toNat b
    rw [hb] at hyval
    refine ⟨rfl, rfl, ?_, ?_⟩
    · rw [if_neg hfill]
    · rw [List.map_cons]
      simp only [hold, UInt32.toNat_add, UInt32.toNat_sub, UInt8.toNat_toUInt32]
      -- the evicted sample was counted, so the subtraction does not wrap
      have h1 : (if sampleValue d == 1 then 1 else 0) ≤ 1 := by split <;> omega
      have h2 : (if y == 1 then 1 else 0) ≤ 1 := by split <;> omega
      have h3 : (if y == 1 then 1 else 0) ≤ ((e.map sampleValue).take t.config.enterWindow.toNat).countP (· == 1) := by
        split
        · rename_i hy1
          refine List.countP_pos_iff.mpr ⟨y, List.mem_of_getElem? (i := t.config.enterWindow.toNat - 1) ?_, hy1⟩
          rw [List.getElem?_take_of_lt (by omega)]
          exact hy
        · omega
      omega

/-- **`add_entry_sample`** pushes one sample: the ring holds the window of the longer epoch. -/
theorem addEntrySample_history (hw0 : 0 < t.config.enterWindow.toNat) (hw : t.config.enterWindow.toNat ≤ 32)
    (hh : EntryHistory t e) (d : Bool) : EntryHistory (addEntrySample t d) (d :: e) := by
  obtain ⟨hcells, hpos, hcount, hhits⟩ := storeEntrySample_history hw0 hw hh d
  have hcfg := (storeEntrySample_frame t d).1
  have hposlt := hh.ring.pos_lt hw0
  have hring := hh.ring.push hw0 (by rw [hh.size]; exact hw) (sampleValue d)
  have hnext : (addEntrySample t d).historyPos.toNat = Ring.next t.config.enterWindow.toNat t.historyPos.toNat := by
    unfold addEntrySample Ring.next
    have h1 : (t.historyPos + 1).toNat = t.historyPos.toNat + 1 := by rw [UInt32.toNat_add]; simp; omega
    simp only [hpos, hcfg, ge_iff_le, UInt32.le_iff_toNat_le, h1]
    split
    · rfl
    · exact h1
  obtain ⟨hr1, hr2, hr3⟩ := addEntrySample_stored t d
  refine ⟨?_, ?_, ?_⟩
  · rw [hr1, hcells, List.length_set, hh.size]
  · rw [(addEntrySample_frame t d).1, hnext, hr1, hr2, hcells, hcount]
    exact hring
  · rw [(addEntrySample_frame t d).1, hr3, hhits]

end Add

/-! ## The simulation -/

/-- The samples the ring buffer stands for: the epoch while nobody is present, nothing afterwards. -/
def heldSamples (p : Presence) : List Bool := if p.present then [] else p.epoch

/-- The tracker after the samples `h` (newest first). -/
structure Simulates (c : PersonEventConfig) (t : PersonEventTracker) (h : List Bool) : Prop where
  config_eq : t.config = c
  active_eq : t.active = (presence (rule c) h).present
  history : EntryHistory t (heldSamples (presence (rule c) h))
  few_hits : hits (rule c) (heldSamples (presence (rule c) h)) < (rule c).required
  misses_eq : t.consecutiveMisses.toNat = specMisses (rule c) h
  misses_lt : specMisses (rule c) h < (rule c).leave

/-- The tracker of `person_event_init`. -/
theorem freshTracker_simulates {c : PersonEventConfig} (hc : configIsValid c = true) :
    Simulates c (freshTracker c) [] := by
  obtain ⟨hreq, -, -, hleave⟩ := (configIsValid_iff c).mp hc
  refine ⟨rfl, rfl, ⟨rfl, Ring.holds_nil _ _, by simp [freshTracker, heldSamples, presence, hits]⟩, ?_, rfl, ?_⟩
  · simpa [heldSamples, presence, hits] using hreq
  · simpa [specMisses, presence] using hleave

section Update

variable {c : PersonEventConfig} {t : PersonEventTracker} {h : List Bool}

/-- One update while nobody is present. -/
theorem updateTracker_absent (hc : configIsValid c = true) (hs : Simulates c t h)
    (habs : (presence (rule c) h).present = false) (d : Bool) :
    (updateTracker t d).2 = specEvent (rule c) h d ∧ Simulates c (updateTracker t d).1 (d :: h) := by
  obtain ⟨hreq, hrw, hw32, hleave⟩ := (configIsValid_iff c).mp hc
  have hcfg := hs.config_eq
  have hact : t.active = false := by rw [hs.active_eq, habs]
  have hheld : heldSamples (presence (rule c) h) = (presence (rule c) h).epoch := by simp [heldSamples, habs]
  have hhist := hs.history
  rw [hheld] at hhist
  have hwin : t.config.enterWindow.toNat = (rule c).window := by rw [hcfg]; rfl
  have hadd := addEntrySample_history (by omega) (by omega) hhist d
  obtain ⟨hf1, hf2, hf3, -⟩ := addEntrySample_frame t d
  have hmiss : t.consecutiveMisses.toNat = 0 := by rw [hs.misses_eq, specMisses, habs]; rfl
  have hhits : (addEntrySample t d).historyHits.toNat = hits (rule c) (d :: (presence (rule c) h).epoch) := by
    rw [hadd.hits_eq, hf1, hcfg]
  have hguard : (addEntrySample t d).historyHits ≥ (addEntrySample t d).config.enterRequired ↔
      (rule c).required ≤ hits (rule c) (d :: (presence (rule c) h).epoch) := by
    rw [ge_iff_le, UInt32.le_iff_toNat_le, hhits, hf1, hcfg]; rfl
  unfold updateTracker
  simp only [hact, Bool.not_false, ↓reduceIte]
  by_cases henter : (rule c).required ≤ hits (rule c) (d :: (presence (rule c) h).epoch)
  · rw [if_pos (hguard.mpr henter)]
    have hev : specEvent (rule c) h d = .enter := by rw [specEvent_absent habs, if_pos henter]
    have hp : presence (rule c) (d :: h) = ⟨true, d :: (presence (rule c) h).epoch⟩ := by rw [presence_cons, hev]
    -- the sample that completes the count is positive: a negative one adds no hit
    have hd : d = true := by
      cases d with
      | true => rfl
      | false =>
        have h1 := hits_false_le (by omega : 0 < (rule c).window) (presence (rule c) h).epoch
        have h2 := hs.few_hits
        rw [hheld] at h2
        omega
    have hm0 : specMisses (rule c) (d :: h) = 0 := by rw [specMisses, hp, hd]; rfl
    have hheld' : heldSamples (presence (rule c) (d :: h)) = [] := by rw [hp]; rfl
    refine ⟨hev.symm, ?_, ?_, ?_, ?_, ?_, ?_⟩
    · exact hf1.trans hcfg
    · rw [hp]; rfl
    · rw [hheld']; exact clearEntryHistory_history _
    · rw [hheld']; simp only [hits, List.take_nil, List.countP_nil]; omega
    · rw [hm0]; rfl
    · rw [hm0]; omega
  · rw [if_neg (fun hg => henter (hguard.mp hg))]
    have hev : specEvent (rule c) h d = .none := by rw [specEvent_absent habs, if_neg henter]
    have hp : presence (rule c) (d :: h) = ⟨false, d :: (presence (rule c) h).epoch⟩ := by rw [presence_cons, hev]
    have hm0 : specMisses (rule c) (d :: h) = 0 := by rw [specMisses, hp]; rfl
    have hheld' : heldSamples (presence (rule c) (d :: h)) = d :: (presence (rule c) h).epoch := by rw [hp]; rfl
    refine ⟨hev.symm, ?_, ?_, ?_, ?_, ?_, ?_⟩
    · exact hf1.trans hcfg
    · rw [hp]; exact hf2.trans hact
    · rw [hheld']; exact hadd
    · rw [hheld']; omega
    · rw [hm0]; simp only [hf3]; exact hmiss
    · rw [hm0]; omega

/-- One update while a person is present. -/
theorem updateTracker_present (hc : configIsValid c = true) (hs : Simulates c t h)
    (hpres : (presence (rule c) h).present = true) (d : Bool) :
    (updateTracker t d).2 = specEvent (rule c) h d ∧ Simulates c (updateTracker t d).1 (d :: h) := by
  obtain ⟨hreq, -, -, hleave⟩ := (configIsValid_iff c).mp hc
  have hcfg := hs.config_eq
  have hact : t.active = true := by rw [hs.active_eq, hpres]
  have hheld : heldSamples (presence (rule c) h) = [] := by simp [heldSamples, hpres]
  have hhist := hs.history
  have hfew := hs.few_hits
  rw [hheld] at hhist hfew
  have hmiss : t.consecutiveMisses.toNat = misses h := by rw [hs.misses_eq, specMisses, if_pos hpres]
  have hmlt : misses h < (rule c).leave := by have := hs.misses_lt; rwa [specMisses, if_pos hpres] at this
  have hl32 : (rule c).leave < 2 ^ 32 := c.leaveCount.toNat_lt
  unfold updateTracker
  simp only [hact, Bool.not_true, Bool.false_eq_true, ↓reduceIte]
  -- what the presence keeps when the event is PRESENT
  have hstay : ∀ e : List Bool, presence (rule c) (d :: h) = ⟨true, e⟩ → misses (d :: h) < (rule c).leave →
      ∀ t' : PersonEventTracker, t'.config = t.config → t'.active = true → EntryHistory t' [] →
        t'.consecutiveMisses.toNat = misses (d :: h) → Simulates c t' (d :: h) := by
    intro e hp hlt t' h1 h2 h3 h4
    have hheld' : heldSamples (presence (rule c) (d :: h)) = [] := by rw [hp]; rfl
    have hm : specMisses (rule c) (d :: h) = misses (d :: h) := by rw [specMisses, hp]; rfl
    refine ⟨h1.trans hcfg, ?_, ?_, ?_, ?_, ?_⟩
    · rw [hp]; exact h2
    · rw [hheld']; exact h3
    · rw [hheld']; exact hfew
    · rw [hm]; exact h4
    · rw [hm]; exact hlt
  cases d with
  | true =>
    have hev : specEvent (rule c) h true = .present := by
      rw [specEvent_present hpres, if_neg (by simp; omega)]
    refine ⟨hev.symm, hstay _ (by rw [presence_cons, hev]) (by simp; omega) _ rfl rfl
      ⟨hhist.size, hhist.ring, hhist.hits_eq⟩ rfl⟩
  | false =>
    have hinc : (t.consecutiveMisses + 1).toNat = misses h + 1 := by
      rw [UInt32.toNat_add, hmiss]; simp; omega
    have hguard : t.consecutiveMisses + 1 ≥ t.config.leaveCount ↔ (rule c).leave ≤ misses h + 1 := by
      rw [ge_iff_le, UInt32.le_iff_toNat_le, hinc, hcfg]; rfl
    simp only [Bool.false_eq_true, ↓reduceIte]
    by_cases hl : (rule c).leave ≤ misses h + 1
    · rw [if_pos (hguard.mpr hl)]
      have hev : specEvent (rule c) h false = .leave := by
        rw [specEvent_present hpres, if_pos (by simp; omega)]
      have hp : presence (rule c) (false :: h) = ⟨false, []⟩ := by rw [presence_cons, hev]
      have hm0 : specMisses (rule c) (false :: h) = 0 := by rw [specMisses, hp]; rfl
      have hheld' : heldSamples (presence (rule c) (false :: h)) = [] := by rw [hp]; rfl
      refine ⟨hev.symm, hcfg, ?_, ?_, ?_, ?_, ?_⟩
      · rw [hp]; rfl
      · rw [hheld']; exact clearEntryHistory_history _
      · rw [hheld']; exact hfew
      · rw [hm0]; rfl
      · rw [hm0]; omega
    · rw [if_neg (fun hg => hl (hguard.mp hg))]
      have hev : specEvent (rule c) h false = .present := by
        rw [specEvent_present hpres, if_neg (by simp; omega)]
      refine ⟨hev.symm, hstay _ (by rw [presence_cons, hev]) (by simp; omega) _ rfl rfl
        ⟨hhist.size, hhist.ring, hhist.hits_eq⟩ ?_⟩
      rw [hinc]; rfl

/-- **One update** emits the event of the rule and keeps the simulation. -/
theorem updateTracker_simulates (hc : configIsValid c = true) (hs : Simulates c t h) (d : Bool) :
    (updateTracker t d).2 = specEvent (rule c) h d ∧ Simulates c (updateTracker t d).1 (d :: h) := by
  cases hp : (presence (rule c) h).present with
  | true => exact updateTracker_present hc hs hp d
  | false => exact updateTracker_absent hc hs hp d

/-- The state that a tracker reports is the state of the rule. -/
theorem currentState_eq (hs : Simulates c t h) : currentState t = specState (rule c) h := by
  have hmiss := hs.misses_eq
  have hhits := hs.history.hits_eq
  rw [hs.config_eq] at hhits
  unfold currentState specState
  simp only [hs.active_eq, gt_iff_lt, UInt32.lt_iff_toNat_lt, UInt32.toNat_zero, hmiss, hhits]
  cases hp : (presence (rule c) h).present <;> simp [specMisses, heldSamples, hp]

end Update

/-! ## Sequences of calls -/

/-- What the tracker and the result point to after `person_event_init` and one `person_event_update` per input. -/
def session (c : PersonEventConfig) (t₀ : PersonEventTracker) (out : PersonEventResult)
    (inputs : List PersonEventInput) : Option PersonEventTracker × Option PersonEventResult :=
  inputs.foldl (fun s i => (personEventUpdate s.1 (some i) s.2).2) ((personEventInit (some t₀) (some c)).2, some out)

/-- The samples of a sequence of inputs, newest first. -/
def samples (inputs : List PersonEventInput) : List Bool := (inputs.map detected).reverse

theorem samples_snoc (inputs : List PersonEventInput) (i : PersonEventInput) :
    samples (inputs ++ [i]) = detected i :: samples inputs := by
  simp [samples]

section Calls

variable {c : PersonEventConfig} {t₀ : PersonEventTracker} {out : PersonEventResult}

theorem session_snoc (inputs : List PersonEventInput) (i : PersonEventInput) :
    session c t₀ out (inputs ++ [i]) =
      (personEventUpdate (session c t₀ out inputs).1 (some i) (session c t₀ out inputs).2).2 := by
  simp [session]

/-- An accepted call. -/
theorem personEventUpdate_some {t : PersonEventTracker} (hc : configIsValid t.config = true) (i : PersonEventInput)
    (out : PersonEventResult) : personEventUpdate (some t) (some i) (some out) =
      (0, some (updateTracker t (detected i)).1,
        some (fillResult (updateTracker t (detected i)).1 i (updateTracker t (detected i)).2)) := by
  simp [personEventUpdate, hc]

/-- **Every sequence of calls** keeps the simulation. -/
theorem session_simulates (hc : configIsValid c = true) (inputs : List PersonEventInput) :
    ∃ t out', session c t₀ out inputs = (some t, some out') ∧ Simulates c t (samples inputs) := by
  induction inputs using List.reverseRecOn with
  | nil => exact ⟨freshTracker c, out, by simp [session, personEventInit, hc], freshTracker_simulates hc⟩
  | append_singleton inputs i ih =>
    obtain ⟨t, out', hses, hsim⟩ := ih
    have hcfg : configIsValid t.config = true := by rw [hsim.config_eq, hc]
    rw [session_snoc, hses, personEventUpdate_some hcfg, samples_snoc]
    exact ⟨_, _, rfl, (updateTracker_simulates hc hsim (detected i)).2⟩

end Calls

/-- **The tracker refines the N-of-M rule**: for every valid configuration and every sequence of calls, the next call
succeeds and reports the event, the presence, the misses and the state recomputed from the samples alone. -/
theorem personEventUpdate_refines (c : PersonEventConfig) (t₀ : PersonEventTracker) (out : PersonEventResult)
    (hreq : 1 ≤ c.enterRequired) (hwin : c.enterRequired ≤ c.enterWindow) (hmax : c.enterWindow ≤ 32)
    (hleave : 1 ≤ c.leaveCount) (past : List PersonEventInput) (i : PersonEventInput) :
    (personEventInit (some t₀) (some c)).1 = 0 ∧
      ∃ t' res, personEventUpdate (session c t₀ out past).1 (some i) (session c t₀ out past).2 =
          (0, some t', some res) ∧
        res.event = specEvent (rule c) (samples past) (detected i) ∧
        res.personPresent = (presence (rule c) (samples (past ++ [i]))).present ∧
        res.consecutiveMisses.toNat = specMisses (rule c) (samples (past ++ [i])) ∧
        res.state = specState (rule c) (samples (past ++ [i])) := by
  have hc : configIsValid c = true := by
    simp only [UInt32.le_iff_toNat_le] at hreq hwin hmax hleave
    exact (configIsValid_iff c).mpr ⟨hreq, hwin, hmax, hleave⟩
  obtain ⟨t, out', hses, hsim⟩ : ∃ t out', session c t₀ out past = (some t, some out') ∧ Simulates c t (samples past) :=
    session_simulates hc past
  have hcfg : configIsValid t.config = true := by rw [hsim.config_eq, hc]
  obtain ⟨hev, hsim'⟩ := updateTracker_simulates hc hsim (detected i)
  rw [← samples_snoc] at hsim'
  refine ⟨by simp [personEventInit, hc], _, _, by rw [hses, personEventUpdate_some hcfg], hev, ?_, ?_, ?_⟩
  · exact hsim'.active_eq
  · exact hsim'.misses_eq
  · exact currentState_eq hsim'

/-- One frame of the sample sequence. -/
def sampleInput (personCount : UInt32) : PersonEventInput := ⟨0, 0, personCount, 0⟩

/-- An accepted call with a frame. -/
def frameCall (personCount : UInt32) : TrackerCall :=
  .update true (some (sampleInput personCount))
    (some (fillResult (freshTracker personEventDefaultConfig) (sampleInput 0) .none))

/-- The default 2-of-3 rule: the third sample `1, 0, 1` enters. -/
theorem personEventUpdate_refines_default :
    ∃ t' res, personEventUpdate
        (session personEventDefaultConfig (freshTracker personEventDefaultConfig)
          (fillResult (freshTracker personEventDefaultConfig) (sampleInput 0) .none) [sampleInput 1, sampleInput 0]).1
        (some (sampleInput 1))
        (session personEventDefaultConfig (freshTracker personEventDefaultConfig)
          (fillResult (freshTracker personEventDefaultConfig) (sampleInput 0) .none) [sampleInput 1, sampleInput 0]).2 =
          (0, some t', some res) ∧
      res.event = .enter ∧ res.personPresent = true ∧ res.state = .present := by
  obtain ⟨-, t', res, hcall, hev, hp, -, hst⟩ := personEventUpdate_refines personEventDefaultConfig
    (freshTracker personEventDefaultConfig)
    (fillResult (freshTracker personEventDefaultConfig) (sampleInput 0) .none) (by decide) (by decide) (by decide)
    (by decide) [sampleInput 1, sampleInput 0] (sampleInput 1)
  exact ⟨t', res, hcall, hev.trans (by decide), hp.trans (by decide), hst.trans (by decide)⟩

end MiniRtsp.Event
