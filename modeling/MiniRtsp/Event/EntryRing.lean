import MiniRtsp.Event.Refinement

/-!
# The entry history under every sequence of calls

`history_hits` is kept up incrementally while `history_pos` goes round the array and the window fills up, slides and is
cleared. `EntryRing` says what the three counters are of the stored samples; `add_entry_sample` keeps it for every
window size (`addEntrySample_ring`), and with the phases of the tracker it is an invariant of every sequence of calls
(`entry_history_invariant`).
-/

namespace MiniRtsp.Event

open MiniRtsp.Ring Trace

/-! ## The ring -/

/-- The position and the counters of the entry history, of whatever samples it was given. -/
structure EntryRing (t : PersonEventTracker) : Prop where
  size : t.enterHistory.length = maxEnterWindow
  pos_lt : t.historyPos < t.config.enterWindow
  count_le : t.historyCount ≤ t.config.enterWindow
  /-- While the window fills up, the next cell is the first unused one. -/
  filling : t.historyCount < t.config.enterWindow → t.historyPos = t.historyCount
  binary : ∀ v ∈ t.enterHistory, v = 0 ∨ v = 1
  unused : ∀ v ∈ t.enterHistory.drop t.historyCount.toNat, v = 0
  /-- The hits are the sum of the stored samples. -/
  hits_eq : t.historyHits.toNat = total UInt8.toNat (t.enterHistory.take t.historyCount.toNat)

section Ring

variable {t : PersonEventTracker}

/-- As the unused cells are 0, the hits are the sum of the whole array. -/
theorem EntryRing.hits_total (h : EntryRing t) : t.historyHits.toNat = total UInt8.toNat t.enterHistory := by
  rw [h.hits_eq]
  apply total_take
  intro v hv
  rw [h.unused v hv]
  rfl

theorem EntryRing.pos_bound (h : EntryRing t) (hvalid : configIsValid t.config = true) :
    t.historyPos.toNat < maxEnterWindow := by
  obtain ⟨-, -, hmax, -⟩ := (configIsValid_iff t.config).mp hvalid
  have hpos := UInt32.lt_iff_toNat_lt.mp h.pos_lt
  have hmax' : t.config.enterWindow.toNat ≤ 32 := hmax
  unfold maxEnterWindow
  omega

/-- The sample in the next cell is part of the sum. -/
theorem EntryRing.evicted_le (h : EntryRing t) (hvalid : configIsValid t.config = true) :
    ∃ old, t.enterHistory[t.historyPos.toNat]? = some old ∧ old.toUInt32 ≤ t.historyHits := by
  have hpos : t.historyPos.toNat < t.enterHistory.length := by
    rw [h.size]
    exact h.pos_bound hvalid
  refine ⟨t.enterHistory[t.historyPos.toNat], List.getElem?_eq_getElem hpos, ?_⟩
  rw [UInt32.le_iff_toNat_le, UInt8.toNat_toUInt32, h.hits_total]
  exact le_total _ (List.getElem_mem hpos)

theorem EntryRing.hits_le (h : EntryRing t) : t.historyHits.toNat ≤ 32 := by
  have hle : total UInt8.toNat t.enterHistory ≤ t.enterHistory.length := by
    apply total_le_length
    intro v hv
    rcases h.binary v hv with rfl | rfl
    · exact Nat.zero_le 1
    · exact Nat.le_refl 1
  rw [h.hits_total]
  rw [h.size] at hle
  exact hle

/-- A history in which nothing is stored. -/
theorem entryRing_empty (hwindow : 0 < t.config.enterWindow) (hcells : t.enterHistory = emptyHistory)
    (hpos : t.historyPos = 0) (hcount : t.historyCount = 0) (hhits : t.historyHits = 0) : EntryRing t := by
  have hzero : ∀ v ∈ t.enterHistory, v = 0 := by
    intro v hv
    rw [hcells] at hv
    exact List.eq_of_mem_replicate hv
  refine ⟨?_, ?_, ?_, fun _ => hpos.trans hcount.symm, fun v hv => .inl (hzero v hv),
    fun v hv => hzero v (List.mem_of_mem_drop hv), ?_⟩
  · rw [hcells]
    rfl
  · rw [hpos]
    exact hwindow
  · rw [hcount]
    exact UInt32.le_of_lt hwindow
  · rw [hhits, hcount]
    rfl

/-- **Storing a sample** overwrites one cell of the sum: the evicted sample, or one that is still 0. -/
theorem storeEntrySample_total (h : EntryRing t) (hvalid : configIsValid t.config = true) (d : Bool) :
    (storeEntrySample t d).enterHistory = t.enterHistory.set t.historyPos.toNat (sampleValue d) ∧
      (storeEntrySample t d).historyPos = t.historyPos ∧
      (storeEntrySample t d).historyHits.toNat = total UInt8.toNat (storeEntrySample t d).enterHistory := by
  obtain ⟨old, hold, hle⟩ := h.evicted_le hvalid
  have hset := total_set UInt8.toNat hold (sampleValue d)
  rw [← h.hits_total] at hset
  have hvalue : (sampleValue d).toUInt32.toNat = (sampleValue d).toNat := UInt8.toNat_toUInt32 _
  have hone : (sampleValue d).toNat ≤ 1 := by cases d <;> decide
  have hbound := h.hits_le
  unfold storeEntrySample
  split
  · rename_i hfill
    refine ⟨rfl, rfl, ?_⟩
    have hunused : old = 0 := by
      apply h.unused
      rw [← h.filling hfill]
      exact List.mem_of_getElem? (i := 0) (by rw [List.getElem?_drop, Nat.add_zero]; exact hold)
    rw [hunused] at hset
    dsimp only
    rw [UInt32.toNat_add, hvalue, ← hset]
    simp only [UInt8.toNat_zero]
    omega
  · refine ⟨rfl, rfl, ?_⟩
    have hcell : t.enterHistory.getD t.historyPos.toNat 0 = old := by
      rw [List.getD_eq_getElem?_getD, hold, Option.getD_some]
    dsimp only
    rw [hcell, UInt32.toNat_add, UInt32.toNat_sub_of_le _ _ hle, hvalue, UInt8.toNat_toUInt32]
    rw [UInt32.le_iff_toNat_le, UInt8.toNat_toUInt32] at hle
    omega

theorem addEntrySample_count (t : PersonEventTracker) (d : Bool) : (addEntrySample t d).historyCount =
    if t.historyCount < t.config.enterWindow then t.historyCount + 1 else t.historyCount := by
  rw [(addEntrySample_stored t d).2.1]
  unfold storeEntrySample
  split <;> rfl

theorem addEntrySample_pos (h : EntryRing t) (hvalid : configIsValid t.config = true) (d : Bool) :
    (addEntrySample t d).historyPos = if t.historyPos + 1 ≥ t.config.enterWindow then 0 else t.historyPos + 1 := by
  unfold addEntrySample
  simp only [(storeEntrySample_total h hvalid d).2.1, (storeEntrySample_frame t d).1]
  split <;> rfl

/-- A counter that is at most the size of the array does not wrap. -/
theorem toNat_succ_of_le {n : UInt32} (hn : n.toNat ≤ 32) : (n + 1).toNat = n.toNat + 1 := by
  rw [UInt32.toNat_add, UInt32.toNat_one]
  omega

/-- The cell that is overwritten is one of those counted afterwards. -/
theorem EntryRing.counted (h : EntryRing t) (hvalid : configIsValid t.config = true) (d : Bool) :
    t.historyPos.toNat < (addEntrySample t d).historyCount.toNat ∧
      t.historyCount.toNat ≤ (addEntrySample t d).historyCount.toNat := by
  have hposlt := UInt32.lt_iff_toNat_lt.mp h.pos_lt
  have hcountle := UInt32.le_iff_toNat_le.mp h.count_le
  have hwindow : t.config.enterWindow.toNat ≤ 32 := ((configIsValid_iff t.config).mp hvalid).2.2.1
  rw [addEntrySample_count]
  split
  · rename_i hfill
    rw [h.filling hfill, toNat_succ_of_le (by omega)]
    exact ⟨Nat.lt_succ_self _, Nat.le_succ _⟩
  · rename_i hfull
    rw [UInt32.lt_iff_toNat_lt] at hfull
    exact ⟨by omega, Nat.le_refl _⟩

/-- **`add_entry_sample`** keeps the ring. -/
theorem addEntrySample_ring (h : EntryRing t) (hvalid : configIsValid t.config = true) (d : Bool) :
    EntryRing (addEntrySample t d) := by
  obtain ⟨hcells, -, htotal⟩ := storeEntrySample_total h hvalid d
  obtain ⟨hcells', -, hhits'⟩ := addEntrySample_stored t d
  obtain ⟨hinside, hgrows⟩ := h.counted hvalid d
  have hcount := addEntrySample_count t d
  have hconfig := (addEntrySample_frame t d).1
  have hposlt := UInt32.lt_iff_toNat_lt.mp h.pos_lt
  have hcountle := UInt32.le_iff_toNat_le.mp h.count_le
  have hwindow : t.config.enterWindow.toNat ≤ 32 := ((configIsValid_iff t.config).mp hvalid).2.2.1
  have hunused : ∀ v ∈ (addEntrySample t d).enterHistory.drop (addEntrySample t d).historyCount.toNat, v = 0 := by
    intro v hv
    rw [hcells', hcells, List.drop_set_of_lt hinside] at hv
    exact h.unused v ((List.drop_subset_drop_left _ hgrows) hv)
  refine ⟨?_, ?_, ?_, ?_, ?_, hunused, ?_⟩
  · rw [hcells', hcells, List.length_set, h.size]
  · rw [addEntrySample_pos h hvalid, hconfig, UInt32.lt_iff_toNat_lt]
    split
    · rw [UInt32.toNat_zero]
      omega
    · rename_i hmore
      rw [ge_iff_le, UInt32.le_iff_toNat_le] at hmore
      omega
  · rw [hcount, hconfig, UInt32.le_iff_toNat_le]
    split
    · rename_i hfill
      rw [UInt32.lt_iff_toNat_lt] at hfill
      rw [toNat_succ_of_le (by omega)]
      exact hfill
    · exact hcountle
  · rw [hcount, hconfig, addEntrySample_pos h hvalid]
    split
    · rename_i hfill
      intro hstill
      rw [h.filling hfill, if_neg]
      rw [ge_iff_le, UInt32.le_iff_toNat_le]
      exact Nat.not_le.mpr (UInt32.lt_iff_toNat_lt.mp hstill)
    · rename_i hfull
      exact fun hstill => absurd hstill hfull
  · intro v hv
    rw [hcells', hcells] at hv
    rcases List.mem_or_eq_of_mem_set hv with hv | rfl
    · exact h.binary v hv
    · cases d
      · exact .inl rfl
      · exact .inr rfl
  · rw [hhits', htotal, ← hcells', total_take]
    intro v hv
    rw [hunused v hv]
    rfl

end Ring

/-! ## The phases -/

/-- What holds of the tracker between two calls. -/
structure TrackerInv (t : PersonEventTracker) : Prop where
  valid : configIsValid t.config = true
  ring : EntryRing t
  inactive : t.active = false → t.historyHits < t.config.enterRequired ∧ t.consecutiveMisses = 0
  active : t.active = true →
    (t.enterHistory = emptyHistory ∧ t.historyPos = 0 ∧ t.historyCount = 0 ∧ t.historyHits = 0) ∧
      t.consecutiveMisses < t.config.leaveCount

/-- The tracker after `person_event_init` and `person_event_reset`. -/
theorem freshTracker_inv {c : PersonEventConfig} (hc : configIsValid c = true) : TrackerInv (freshTracker c) := by
  obtain ⟨hrequired, hle, -, -⟩ := (configIsValid_iff c).mp hc
  have hwindow : 0 < c.enterWindow := UInt32.lt_iff_toNat_lt.mpr (Nat.lt_of_lt_of_le hrequired hle)
  exact ⟨hc, entryRing_empty hwindow rfl rfl rfl rfl, fun _ => ⟨UInt32.lt_iff_toNat_lt.mpr hrequired, rfl⟩,
    fun h => by cases h⟩

/-- **An update** keeps the invariant. -/
theorem updateTracker_inv {t : PersonEventTracker} (h : TrackerInv t) (d : Bool) :
    TrackerInv (updateTracker t d).1 := by
  have hring := addEntrySample_ring h.ring h.valid d
  obtain ⟨hconfig, hactive, hmisses, -⟩ := addEntrySample_frame t d
  obtain ⟨hrequired, hle, -, hleave⟩ := (configIsValid_iff t.config).mp h.valid
  have hwindow : 0 < t.config.enterWindow := UInt32.lt_iff_toNat_lt.mpr (Nat.lt_of_lt_of_le hrequired hle)
  have hleave' : 0 < t.config.leaveCount := UInt32.lt_iff_toNat_lt.mpr hleave
  unfold updateTracker
  cases hphase : t.active with
  | false =>
    obtain ⟨-, hnone⟩ := h.inactive hphase
    simp only [Bool.not_false, if_true]
    split
    · -- ENTER
      refine ⟨?_, entryRing_empty ?_ rfl rfl rfl rfl, fun hoff => (by cases hoff), fun _ => ⟨⟨rfl, rfl, rfl, rfl⟩, ?_⟩⟩
      · exact hconfig ▸ h.valid
      · exact hconfig ▸ hwindow
      · exact hconfig ▸ hleave'
    · rename_i hfew
      refine ⟨hconfig ▸ h.valid, hring, fun _ => ⟨UInt32.not_le.mp hfew, hmisses.trans hnone⟩, fun hon => ?_⟩
      rw [hactive, hphase] at hon
      cases hon
  | true =>
    obtain ⟨⟨hcells, hpos, hcount, hhits⟩, hlt⟩ := h.active hphase
    simp only [Bool.not_true, Bool.false_eq_true, if_false]
    split
    · exact ⟨h.valid, entryRing_empty hwindow hcells hpos hcount hhits, fun hoff => (by cases hoff), fun _ =>
         ⟨⟨hcells, hpos, hcount, hhits⟩, hleave'⟩⟩
    · split
      · -- LEAVE
        exact ⟨h.valid, entryRing_empty hwindow rfl rfl rfl rfl, fun _ => ⟨UInt32.lt_iff_toNat_lt.mpr hrequired, rfl⟩,
          fun hon => (by cases hon)⟩
      · rename_i hstay
        exact ⟨h.valid, entryRing_empty hwindow hcells hpos hcount hhits, fun hoff => (by cases hoff), fun _ =>
          ⟨⟨hcells, hpos, hcount, hhits⟩, UInt32.not_le.mp hstay⟩⟩

/-- **A call** keeps the invariant. -/
theorem trackerStep_inv {t : PersonEventTracker} (h : TrackerInv t) (call : TrackerCall) :
    TrackerInv (trackerStep call t).1 := by
  have hstep := trackerStep_cases call t
  generalize (trackerStep call t).1 = t', (trackerStep call t).2 = events at hstep ⊢
  cases hstep with
  | rejected quiet => exact h
  | started valid => exact freshTracker_inv valid
  | restarted => exact freshTracker_inv h.valid
  | updated i valid => exact updateTracker_inv h (detected i)

/-! ## Every sequence of calls -/

/-- **The invariant of the entry history.** After `person_event_init` with a valid configuration and any calls of
`person_event_init`, `person_event_update` and `person_event_reset`, the position and the counters are those of the
samples stored, the next cell is in the array and the hits hold the sample in it, so that taking it out never
underflows; while nobody is present the hits are below the threshold and there are no misses, while a person is present
the history is empty and the misses are below the limit. -/
theorem entry_history_invariant {c : PersonEventConfig} (hc : configIsValid c = true) (t₀ : PersonEventTracker)
    (calls : List TrackerCall) :
    let t := (run trackerStep t₀ (.init true (some c) :: calls)).state
    EntryRing t ∧ t.historyPos.toNat < maxEnterWindow ∧
      (∃ old, t.enterHistory[t.historyPos.toNat]? = some old ∧ old.toUInt32 ≤ t.historyHits) ∧
      (t.active = false → t.historyHits < t.config.enterRequired ∧ t.consecutiveMisses = 0) ∧
      (t.active = true →
        (t.enterHistory = emptyHistory ∧ t.historyPos = 0 ∧ t.historyCount = 0 ∧ t.historyHits = 0) ∧
          t.consecutiveMisses < t.config.leaveCount) := by
  intro t
  have hinv : TrackerInv t := by
    change TrackerInv (run trackerStep t₀ (.init true (some c) :: calls)).state
    rw [run_init hc]
    apply advance_induction trackerStep (P := fun h => TrackerInv h.state)
    · exact fun h call hinv => trackerStep_inv hinv call
    · exact freshTracker_inv hc
  exact ⟨hinv.ring, hinv.ring.pos_bound hinv.valid, hinv.ring.evicted_le hinv.valid, hinv.inactive, hinv.active⟩

/-- Four samples go through the window of three: the first one is evicted. -/
theorem entry_history_invariant_default :
    let t := (run trackerStep (freshTracker personEventDefaultConfig)
      (.init true (some personEventDefaultConfig) :: [frameCall 1, frameCall 0, frameCall 0, frameCall 0])).state
    EntryRing t ∧ t.historyPos = 1 ∧ t.historyCount = 3 ∧ t.historyHits = 0 ∧ t.consecutiveMisses = 0 := by
  intro t
  obtain ⟨hring, -, -, hinactive, -⟩ := @entry_history_invariant personEventDefaultConfig (by decide)
    (freshTracker personEventDefaultConfig) [frameCall 1, frameCall 0, frameCall 0, frameCall 0]
  have hoff : t.active = false := by decide +kernel
  exact ⟨hring, by decide +kernel, by decide +kernel, by decide +kernel, (hinactive hoff).2⟩

end MiniRtsp.Event
