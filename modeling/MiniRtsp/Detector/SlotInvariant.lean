import MiniRtsp.Detector.SlotProtocol

/-!
# Slots, frame ids and what RockIVA holds

The invariant ties the slots to the events (`Inv`): the submitting thread has at most one slot, what RockIVA holds lies
in other slots, and RockIVA holds a frame id at most once (`HeldOnce`). Every step keeps it, as long as RockIVA keeps
its promises (`Contract`); `slot_protocol` reads it off.
-/

namespace MiniRtsp.Detector

open Event Ledger Trace Wire

/-- The slot and frame of the submitting thread. -/
def Submitter.own : Submitter → Option (Nat × UInt32)
  | .copying slot frameId _ | .pushing slot frameId | .rejected slot frameId => some (slot, frameId)
  | _ => none

/-- The frame ids are given in turn. -/
def NamedInTurn (before : List SlotEvent) (e : SlotEvent) : Prop :=
  ∀ slot frameId, e.takes = some (slot, frameId) → frameId = frameIdAt (takings SlotEvent.takes before)

/-- RockIVA gives back only what it has, and no slot is in use for a whole round of frame ids. -/
structure Contract (es : List SlotEvent) : Prop where
  sound : Sound (sdkUses es)
  fresh : NoStaleSlot es

theorem Contract.of_append {es fs : List SlotEvent} (h : Contract (es ++ fs)) : Contract es := by
  refine ⟨?_, NotStale.prefix_of h.fresh⟩
  intro p hp
  apply h.sound p
  rw [sdkUses_append]
  exact hp.trans (List.prefix_append _ _)

/-- RockIVA has the frame id as often as it has accepted and not released it, and that is once at most. -/
def HeldOnce (es : List SlotEvent) (x : UInt32) : Prop :=
  (sdkUses es).count (.acquire x) ≤ (sdkUses es).count (.release x) ∨
    (sdkUses es).count (.acquire x) = (sdkUses es).count (.release x) + 1 ∧ ∃ i, Held es i x

section HeldOnce

variable {es : List SlotEvent} {x y : UInt32}

/-- A frame id that RockIVA does not have may be accepted. -/
theorem HeldOnce.accepted (h : HeldOnce es y) {i : Nat} (hnew : x = y → ∀ j, ¬Held es j y) :
    HeldOnce (es ++ [.accepted i x]) y := by
  unfold HeldOnce at h ⊢
  rw [sdkUses_append, sdkUses_single, List.count_append, List.count_append]
  by_cases hxy : x = y
  · subst hxy
    rcases h with hle | ⟨-, j, hj⟩
    · rcases hle.eq_or_lt with heq | hlt
      · exact .inr ⟨by simp [SlotEvent.sdkUse, heq], i, held_accepted.mpr (.inl ⟨rfl, rfl⟩)⟩
      · exact .inl (by simp [SlotEvent.sdkUse]; omega)
    · exact absurd hj (hnew rfl j)
  · rcases h with hle | ⟨heq, j, hj⟩
    · exact .inl (by simp [SlotEvent.sdkUse, hxy]; omega)
    · exact .inr ⟨by simp [SlotEvent.sdkUse, hxy]; omega, j, held_accepted.mpr (.inr hj)⟩

theorem HeldOnce.released (h : HeldOnce es y) {freed : Option Nat} : HeldOnce (es ++ [.released x freed]) y := by
  unfold HeldOnce at h ⊢
  rw [sdkUses_append, sdkUses_single, List.count_append, List.count_append]
  by_cases hxy : x = y
  · subst hxy
    exact .inl (by simp [SlotEvent.sdkUse]; omega)
  · rcases h with hle | ⟨heq, j, hj⟩
    · exact .inl (by simp [SlotEvent.sdkUse, hxy]; omega)
    · exact .inr ⟨by simp [SlotEvent.sdkUse, hxy]; omega, j, held_released.mpr ⟨hj, hxy⟩⟩

/-- **What is released** has been held. -/
theorem HeldOnce.held (h : HeldOnce es x) {freed : Option Nat} (hcontract : Contract (es ++ [.released x freed])) :
    ∃ i, Held es i x := by
  have hsound := hcontract.sound _ (List.prefix_refl _) x
  rw [sdkUses_append, sdkUses_single, List.count_append, List.count_append] at hsound
  rcases h with hle | ⟨-, hheld⟩
  · simp [SlotEvent.sdkUse] at hsound
    omega
  · exact hheld

end HeldOnce

structure Inv (slotCount : Nat) (s : System) (es : List SlotEvent) : Prop where
  length : s.detector.slots.length = slotCount
  occupied : ∀ i x, s.detector.InUse i x ↔ SlotOccupied es i x
  next : s.detector.nextFrameId = frameIdAt (takings SlotEvent.takes es)
  named : Monitored NamedInTurn es
  own : ∀ i x, s.submitter.own = some (i, x) → s.detector.InUse i x ∧ s.detector.imageFrameId i = x
  held : ∀ i x, Held es i x → s.detector.InUse i x ∧ ∀ y, s.submitter.own ≠ some (i, y)
  once : ∀ x, HeldOnce es x
  counted : s.detector.stats.submittedFrames = s.detector.stats.releasedFrames + .ofNat s.detector.inUseCount
  released : Monitored ReleaseFreesItsSlot es
  skips : s.detector.stats.busySkips = .ofNat (es.count (.returned 1))
  busy : Monitored (BusyFindsAllInUse slotCount) es

variable {n : Nat} {s : System} {es : List SlotEvent}

/-- **One frame id, one slot.** -/
theorem Inv.unique (h : Inv n s es) (hfresh : NoStaleSlot es) {i j : Nat} {x : UInt32} (hi : s.detector.InUse i x)
    (hj : s.detector.InUse j x) : i = j :=
  Occupied.unique frameIdAt_round h.named hfresh ((h.occupied i x).mp hi) ((h.occupied j x).mp hj)

/-! ## Steps that leave the slots alone -/

/-- What a result callback leaves alone. -/
structure Quiet (detector detector' : LivePersonDetector) : Prop where
  slots : detector'.slots = detector.slots
  nextFrameId : detector'.nextFrameId = detector.nextFrameId
  submittedFrames : detector'.stats.submittedFrames = detector.stats.submittedFrames
  releasedFrames : detector'.stats.releasedFrames = detector.stats.releasedFrames
  busySkips : detector'.stats.busySkips = detector.stats.busySkips

theorem detectResultCallback_quiet (detector : LivePersonDetector) (success : Bool)
    (result : Option RockIvaDetectResult) (callbackMs : Int) :
    Quiet detector (detectResultCallback detector success result callbackMs).1 := by
  unfold detectResultCallback
  dsimp only
  repeat' split
  all_goals exact ⟨rfl, rfl, rfl, rfl, rfl⟩

theorem countEvent_quiet (detector : LivePersonDetector) (event : PersonEventType) :
    Quiet detector (countEvent detector event) := by
  unfold countEvent
  split <;> exact ⟨rfl, rfl, rfl, rfl, rfl⟩

theorem Inv.quiet (h : Inv n s es) {s' : System} (hquiet : Quiet s.detector s'.detector)
    (hsubmitter : s'.submitter.own = s.submitter.own) : Inv n s' es := by
  have hinUse : ∀ i x, s'.detector.InUse i x ↔ s.detector.InUse i x := by
    intro i x
    unfold LivePersonDetector.InUse
    rw [hquiet.slots]
  constructor
  · rw [hquiet.slots]
    exact h.length
  · intro i x
    rw [hinUse]
    exact h.occupied i x
  · rw [hquiet.nextFrameId]
    exact h.next
  · exact h.named
  · intro i x hown
    rw [hsubmitter] at hown
    unfold LivePersonDetector.imageFrameId
    rw [hinUse, hquiet.slots]
    exact h.own i x hown
  · intro i x hheld
    rw [hinUse, hsubmitter]
    exact h.held i x hheld
  · exact h.once
  · unfold LivePersonDetector.inUseCount
    rw [hquiet.submittedFrames, hquiet.releasedFrames, hquiet.slots]
    exact h.counted
  · exact h.released
  · rw [hquiet.busySkips]
    exact h.skips
  · exact h.busy

/-! ## The submitting thread -/

/-- A call that returns, and the number of skips behind it. -/
theorem Inv.answered (h : Inv n s es) {ret : Int} {busySkips : UInt64}
    (hskips : busySkips = .ofNat ((es ++ [SlotEvent.returned ret]).count (.returned 1)))
    (hbusy : BusyFindsAllInUse n es (.returned ret)) :
    Inv n { s with detector := { s.detector with stats.busySkips := busySkips } } (es ++ [.returned ret]) where
  length := h.length
  occupied i x := (h.occupied i x).trans occupied_returned.symm
  next := by simpa [SlotEvent.takes] using h.next
  named := h.named.concat (by simp [NamedInTurn, SlotEvent.takes])
  own := h.own
  held i x hheld := h.held i x (held_returned.mp hheld)
  once := by simpa [HeldOnce, SlotEvent.sdkUse] using h.once
  counted := h.counted
  released := h.released.concat trivial
  skips := hskips
  busy := h.busy.concat hbusy

/-- A call that returns something else than 1. -/
theorem Inv.returned (h : Inv n s es) {ret : Int} (hret : ret ≠ 1) : Inv n s (es ++ [.returned ret]) := by
  have hskips : s.detector.stats.busySkips = .ofNat ((es ++ [SlotEvent.returned ret]).count (.returned 1)) := by
    simpa [hret] using h.skips
  exact h.answered hskips fun heq => absurd (SlotEvent.returned.inj heq) hret

/-- A call that finds no free slot. -/
theorem Inv.skipped (h : Inv n s es) (hfull : findFreeSlot s.detector.slots = none) :
    Inv n { s with detector := { s.detector with stats.busySkips := s.detector.stats.busySkips + 1 } }
      (es ++ [.returned 1]) := by
  apply h.answered
  · rw [h.skips]
    simp [UInt64.ofNat_add]
  · rintro - i hi
    rw [← h.length] at hi
    obtain ⟨x, hx⟩ := findFree_none hfull hi
    exact ⟨x, (h.occupied i x).mp hx⟩

/-- The thread goes on with its slot, or lets go of it. -/
theorem Inv.moved (h : Inv n s es) {submitter : Submitter}
    (hown : ∀ p, submitter.own = some p → s.submitter.own = some p) : Inv n { s with submitter } es where
  length := h.length
  occupied := h.occupied
  next := h.next
  named := h.named
  own i x hx := h.own i x (hown _ hx)
  held i x hheld := ⟨(h.held i x hheld).1, fun y hy => (h.held i x hheld).2 y (hown _ hy)⟩
  once := h.once
  counted := h.counted
  released := h.released
  skips := h.skips
  busy := h.busy

/-- **A free slot is reserved** under the next frame id. -/
theorem Inv.reserved (h : Inv n s es) {i : Nat}
    (hfree : findFreeSlot s.detector.slots = some i) (cameraSequence : UInt32) (cameraTimestampUs submitMs : Int)
    (nv12 : Bytes) :
    let frameId := s.detector.nextFrameId
    Inv n
      { s with
        detector :=
          { s.detector with
            nextFrameId := followingFrameId frameId
            slots := s.detector.slots.modify i (reserveSlot frameId cameraSequence cameraTimestampUs submitMs)
            stats.submittedFrames := s.detector.stats.submittedFrames + 1 }
        submitter := .copying i frameId nv12 }
      (es ++ [.reserved i frameId]) := by
  intro frameId
  obtain ⟨slot, hslot, hunused⟩ := findFree_some hfree
  have hnone : ∀ x, ¬s.detector.InUse i x := by
    rintro x ⟨slot', hslot', huse, -⟩
    rw [hslot] at hslot'
    obtain rfl := Option.some.inj hslot'
    rw [hunused] at huse
    cases huse
  -- the reserved slot is in use under the new id, and the others are as they were
  have hinUse : ∀ detector : LivePersonDetector, detector.slots = s.detector.slots.modify i
      (reserveSlot frameId cameraSequence cameraTimestampUs submitMs) →
      ∀ j x, detector.InUse j x ↔ i = j ∧ frameId = x ∨ s.detector.InUse j x := by
    intro detector hslots j x
    rw [inUse_modify hslots]
    split
    · rename_i hij
      subst hij
      simp [hslot, hnone, reserveSlot]
    · rename_i hij
      simp [hij]
  constructor
  · show (s.detector.slots.modify i _).length = n
    rw [List.length_modify]
    exact h.length
  · intro j x
    rw [hinUse _ rfl, occupied_reserved, h.occupied]
  · show followingFrameId s.detector.nextFrameId = _
    rw [h.next, takings_concat]
    exact (frameIdAt_succ _).symm
  · apply h.named.concat
    intro j x htakes
    obtain ⟨rfl, rfl⟩ := Prod.mk.inj (Option.some.inj htakes)
    exact h.next
  · intro j x hown
    obtain ⟨rfl, rfl⟩ := Prod.mk.inj (Option.some.inj hown)
    refine ⟨(hinUse _ rfl i frameId).mpr (.inl ⟨rfl, rfl⟩), ?_⟩
    simp [LivePersonDetector.imageFrameId, hslot, reserveSlot]
  · intro j x hheld
    have hj := (h.held j x (held_reserved.mp hheld)).1
    refine ⟨(hinUse _ rfl j x).mpr (.inr hj), ?_⟩
    intro y hown
    obtain ⟨rfl, -⟩ := Prod.mk.inj (Option.some.inj hown)
    exact hnone x hj
  · simpa [HeldOnce, SlotEvent.sdkUse] using h.once
  · rw [inUseCount_reserved rfl (fun slot => rfl) hslot hunused]
    show s.detector.stats.submittedFrames + 1 = s.detector.stats.releasedFrames + .ofNat (s.detector.inUseCount + 1)
    rw [h.counted, UInt64.ofNat_add, UInt64.add_assoc]
    rfl
  · exact h.released.concat trivial
  · simpa using h.skips
  · exact h.busy.concat fun heq => by cases heq

/-- The frame is copied. -/
theorem Inv.copied (h : Inv n s es) (i : Nat) (nv12 : Bytes) :
    Inv n { s with detector := copyFrame s.detector i nv12 } es := by
  have hinUse : ∀ j x, (copyFrame s.detector i nv12).InUse j x ↔ s.detector.InUse j x := fun j x =>
    inUse_kept rfl fun slot => ⟨rfl, rfl⟩
  constructor
  · show (s.detector.slots.modify i _).length = n
    rw [List.length_modify]
    exact h.length
  · intro j x
    rw [hinUse]
    exact h.occupied j x
  · exact h.next
  · exact h.named
  · intro j x hown
    obtain ⟨huse, himage⟩ := h.own j x hown
    refine ⟨(hinUse j x).mpr huse, ?_⟩
    rw [← himage]
    exact imageFrameId_modify rfl fun slot => rfl
  · intro j x hheld
    rw [hinUse]
    exact h.held j x hheld
  · exact h.once
  · have hcount : (copyFrame s.detector i nv12).inUseCount = s.detector.inUseCount :=
      inUseCount_kept rfl fun slot => rfl
    rw [hcount]
    exact h.counted
  · exact h.released
  · exact h.skips
  · exact h.busy

/-- **RockIVA accepts** a frame: it does not have the frame id yet. -/
theorem Inv.accepted (h : Inv n s es) (hfresh : NoStaleSlot es) {i : Nat} {x : UInt32}
    (hown : s.submitter.own = some (i, x)) :
    Inv n { s with submitter := .accepted } (es ++ [.accepted i (s.detector.imageFrameId i)]) := by
  obtain ⟨huse, himage⟩ := h.own i x hown
  rw [himage]
  have hnew : ∀ y, x = y → ∀ j, ¬Held es j y := by
    rintro _ rfl j hheld
    obtain ⟨hj, hfree⟩ := h.held j x hheld
    obtain rfl := h.unique hfresh huse hj
    exact hfree x hown
  constructor
  · exact h.length
  · exact fun j y => (h.occupied j y).trans occupied_accepted.symm
  · simpa [SlotEvent.takes] using h.next
  · exact h.named.concat (by simp [NamedInTurn, SlotEvent.takes])
  · exact fun j y hj => by cases hj
  · intro j y hheld
    refine ⟨?_, fun z hz => by cases hz⟩
    rcases held_accepted.mp hheld with ⟨rfl, rfl⟩ | hold
    · exact huse
    · exact (h.held j y hold).1
  · exact fun y => (h.once y).accepted (hnew y)
  · exact h.counted
  · exact h.released.concat trivial
  · simpa using h.skips
  · exact h.busy.concat fun heq => by cases heq

/-- **A rejected frame** gives its slot back. -/
theorem Inv.undone (h : Inv n s es) {i : Nat} {x : UInt32} (hown : s.submitter.own = some (i, x)) :
    Inv n { s with detector := undoReservation s.detector i, submitter := .idle } (es ++ [.undone i]) := by
  obtain ⟨huse, -⟩ := h.own i x hown
  have hinUse : ∀ j y, (undoReservation s.detector i).InUse j y ↔ s.detector.InUse j y ∧ i ≠ j := fun j y =>
    inUse_freed rfl fun slot => rfl
  constructor
  · show (s.detector.slots.modify i _).length = n
    rw [List.length_modify]
    exact h.length
  · intro j y
    rw [hinUse, occupied_undone, h.occupied]
  · show s.detector.nextFrameId = _
    simpa [SlotEvent.takes] using h.next
  · exact h.named.concat (by simp [NamedInTurn, SlotEvent.takes])
  · exact fun j y hj => by cases hj
  · intro j y hheld
    obtain ⟨hj, hfree⟩ := h.held j y (held_undone.mp hheld)
    refine ⟨(hinUse j y).mpr ⟨hj, ?_⟩, fun z hz => by cases hz⟩
    rintro rfl
    exact hfree x hown
  · simpa [HeldOnce, SlotEvent.sdkUse] using h.once
  · have hcount : (undoReservation s.detector i).inUseCount + 1 = s.detector.inUseCount :=
      inUseCount_freed rfl (fun slot => rfl) huse
    show s.detector.stats.submittedFrames - 1 = s.detector.stats.releasedFrames +
      .ofNat (undoReservation s.detector i).inUseCount
    rw [h.counted, ← hcount, UInt64.ofNat_add, ← UInt64.add_assoc]
    exact UInt64.add_sub_cancel _ _
  · exact h.released.concat trivial
  · show s.detector.stats.busySkips = _
    simpa using h.skips
  · exact h.busy.concat fun heq => by cases heq

/-! ## Releases -/

/-- **A release** frees the slot of its frame. -/
theorem Inv.frameReleased (h : Inv n s es) {x : UInt32}
    (hcontract : Contract (es ++ [.released x (releaseFrame s.detector x).2])) :
    Inv n { s with detector := (releaseFrame s.detector x).1 }
      (es ++ [.released x (releaseFrame s.detector x).2]) := by
  -- RockIVA has the frame
  obtain ⟨i, hi⟩ := (h.once x).held hcontract
  obtain ⟨huse, hother⟩ := h.held i x hi
  -- and the callback finds its slot
  have hfind : findSlotByFrameId s.detector.slots x = some i := by
    obtain ⟨j, hj⟩ := findSlot_isSome huse
    rw [hj, h.unique hcontract.of_append.fresh huse (findSlot_some hj)]
  have hrelease : releaseFrame s.detector x =
      ({ s.detector with
          slots := s.detector.slots.modify i releasedSlot
          stats.releasedFrames := s.detector.stats.releasedFrames + 1 }, some i) := by
    unfold releaseFrame
    rw [hfind]
  rw [hrelease]
  have hinUse : ∀ detector : LivePersonDetector, detector.slots = s.detector.slots.modify i releasedSlot →
      ∀ j y, detector.InUse j y ↔ s.detector.InUse j y ∧ i ≠ j := fun detector hslots j y =>
    inUse_freed hslots fun slot => rfl
  constructor
  · show (s.detector.slots.modify i _).length = n
    rw [List.length_modify]
    exact h.length
  · intro j y
    rw [hinUse _ rfl, occupied_released, h.occupied, ne_eq, ne_eq, Option.some.injEq]
  · simpa [SlotEvent.takes] using h.next
  · exact h.named.concat (by simp [NamedInTurn, SlotEvent.takes])
  · intro j y hown
    obtain ⟨hj, himage⟩ := h.own j y hown
    refine ⟨(hinUse _ rfl j y).mpr ⟨hj, ?_⟩, ?_⟩
    · rintro rfl
      exact hother y hown
    · rw [← himage]
      exact imageFrameId_modify rfl fun slot => rfl
  · intro j y hheld
    obtain ⟨hold, hxy⟩ := held_released.mp hheld
    obtain ⟨hj, hfree⟩ := h.held j y hold
    refine ⟨(hinUse _ rfl j y).mpr ⟨hj, ?_⟩, hfree⟩
    rintro rfl
    exact hxy (inUse_unique huse hj)
  · exact fun y => (h.once y).released
  · have hcount := @inUseCount_freed s.detector
      { s.detector with
        slots := s.detector.slots.modify i releasedSlot
        stats.releasedFrames := s.detector.stats.releasedFrames + 1 } i x releasedSlot rfl (fun slot => rfl) huse
    show s.detector.stats.submittedFrames = s.detector.stats.releasedFrames + 1 + _
    rw [h.counted, ← hcount, UInt64.ofNat_add, UInt64.add_assoc, UInt64.add_comm 1]
    rfl
  · exact h.released.concat ⟨i, rfl, hi⟩
  · simpa using h.skips
  · exact h.busy.concat fun heq => by cases heq

theorem Inv.framesReleased {frames : List UInt32} :
    ∀ {s : System} {es : List SlotEvent}, Inv n s es → Contract (es ++ (frameReleaseCallback frames s.detector).2) →
      Inv n { s with detector := (frameReleaseCallback frames s.detector).1 }
        (es ++ (frameReleaseCallback frames s.detector).2) := by
  induction frames with
  | nil =>
    intro s es h _
    simpa [frameReleaseCallback] using h
  | cons x frames ih =>
    intro s es h hcontract
    have hevents : es ++ (frameReleaseCallback (x :: frames) s.detector).2 =
        (es ++ [.released x (releaseFrame s.detector x).2]) ++
          (frameReleaseCallback frames (releaseFrame s.detector x).1).2 := by
      simp [frameReleaseCallback]
    rw [hevents] at hcontract ⊢
    exact ih (h.frameReleased hcontract.of_append) hcontract

/-! ## Runs -/

theorem Inv.submitCalled (h : Inv n s es) (call : SubmitCall) :
    Inv n (submitCalled call s).1 (es ++ (submitCalled call s).2) := by
  have hsubmitted := submitCalled_submitted call s
  generalize Detector.submitCalled call s = r at hsubmitted ⊢
  cases hsubmitted with
  | refused => exact h.returned (by decide)
  | busy full => exact h.skipped full
  | reserved free _ => exact h.reserved free _ _ _ _

theorem Inv.submitProceeds (h : Inv n s es) (accepts : Bool)
    (hcontract : Contract (es ++ (submitProceeds accepts s).2)) :
    Inv n (submitProceeds accepts s).1 (es ++ (submitProceeds accepts s).2) := by
  have hfresh := hcontract.of_append.fresh
  clear hcontract
  unfold Detector.submitProceeds
  split
  · rw [List.append_nil]
    exact h
  · rename_i i x nv12 hpc
    rw [List.append_nil]
    apply (h.copied i nv12).moved
    rw [hpc]
    exact fun _ => id
  · rename_i i x hpc
    split
    · exact h.accepted hfresh (by rw [hpc]; rfl)
    · rw [List.append_nil]
      apply h.moved
      rw [hpc]
      exact fun _ => id
  · exact (h.moved fun p hp => by cases hp).returned (by decide)
  · rename_i i x hpc
    have hundone := h.undone (i := i) (x := x) (by rw [hpc]; rfl)
    simpa using @Inv.returned _ _ _ hundone (-1) (by decide)

/-- **A step** keeps the invariant, where RockIVA keeps its promises. -/
theorem Inv.step (h : Inv n s es) (move : Move) (hcontract : Contract (es ++ (step move s).2)) :
    Inv n (step move s).1 (es ++ (step move s).2) := by
  cases move with
  | submit call =>
    unfold Detector.step
    dsimp only
    split
    · exact h.submitCalled call
    · rw [List.append_nil]
      exact h
  | proceed accepts => exact h.submitProceeds accepts hcontract
  | release frames => exact h.framesReleased hcontract
  | result success result callbackMs =>
    rw [show (Detector.step (.result success result callbackMs) s).2 = [] from rfl, List.append_nil]
    exact h.quiet (detectResultCallback_quiet s.detector success result callbackMs) rfl
  | countResult i =>
    unfold Detector.step
    dsimp only
    split
    · rename_i event _
      rw [List.append_nil]
      exact h.quiet (countEvent_quiet s.detector event) rfl
    · rw [List.append_nil]
      exact h
  | shutDown =>
    rw [show (Detector.step .shutDown s).2 = [] from rfl, List.append_nil]
    exact h.quiet ⟨rfl, rfl, rfl, rfl, rfl⟩ rfl

/-- **A new detector** has no slot in use. -/
theorem create_inv {config : LivePersonDetectorConfig} {answers : CreateAnswers} {detector : LivePersonDetector}
    (h : livePersonDetectorCreate config answers = some detector) :
    Inv config.bufferCount.toNat (.start detector) [] := by
  have hnew : detector.slots = (List.range config.bufferCount.toNat).map (fun i => idleSlot (answers.memory i)) ∧
      detector.nextFrameId = 1 ∧ detector.stats = ⟨0, 0, 0, 0, 0, 0, 0, 0⟩ := by
    unfold livePersonDetectorCreate at h
    dsimp only at h
    repeat' split at h
    all_goals cases h
    exact ⟨rfl, rfl, rfl⟩
  obtain ⟨hslots, hnext, hstats⟩ := hnew
  have hidle : ∀ slot ∈ detector.slots, slot.inUse = false := by
    rw [hslots]
    intro slot hslot
    obtain ⟨i, -, rfl⟩ := List.mem_map.mp hslot
    rfl
  have hunused : ∀ i x, ¬detector.InUse i x := by
    rintro i x ⟨slot, hslot, huse, -⟩
    rw [hidle slot (List.mem_of_getElem? hslot)] at huse
    cases huse
  have hcount : detector.inUseCount = 0 :=
    List.countP_eq_zero.mpr fun slot hslot => by simp [hidle slot hslot]
  constructor
  · show detector.slots.length = _
    rw [hslots, List.length_map, List.length_range]
  · exact fun i x => iff_of_false (hunused i x) not_since_nil
  · exact hnext
  · exact monitored_nil
  · exact fun i x hown => by cases hown
  · exact fun i x hheld => absurd hheld not_since_nil
  · exact fun x => .inl le_rfl
  · show detector.stats.submittedFrames = detector.stats.releasedFrames + .ofNat detector.inUseCount
    rw [hstats, hcount]
    rfl
  · exact monitored_nil
  · show detector.stats.busySkips = _
    rw [hstats]
    rfl
  · exact monitored_nil

theorem run_inv {config : LivePersonDetectorConfig} {answers : CreateAnswers} {detector : LivePersonDetector}
    (hcreate : livePersonDetectorCreate config answers = some detector) {moves : List Move}
    (hcontract : Contract (run step (.start detector) moves).events) :
    Inv config.bufferCount.toNat (run step (.start detector) moves).state
      (run step (.start detector) moves).events := by
  apply run_induction step (P := fun h => Inv config.bufferCount.toNat h.state h.events)
  · exact create_inv hcreate
  · intro past move hpast h
    apply h.step move
    -- the promises hold of what has happened up to here
    obtain ⟨rest, hrest⟩ := run_events_prefix_le step (s := .start detector) hpast
    rw [run_concat] at hrest
    rw [← hrest] at hcontract
    exact hcontract.of_append

/-- **The slots of the detector**, whatever the order of the threads. -/
theorem slot_protocol {config : LivePersonDetectorConfig} {answers : CreateAnswers} {detector : LivePersonDetector}
    (hcreate : livePersonDetectorCreate config answers = some detector) (moves : List Move)
    (hsound : Sound (sdkUses (run step (.start detector) moves).events))
    (hfresh : NoStaleSlot (run step (.start detector) moves).events) :
    let h := run step (.start detector) moves
    let now := h.state.detector
    (∀ i x, now.InUse i x ↔ SlotOccupied h.events i x) ∧
    (∀ i j x, now.InUse i x → now.InUse j x → i = j) ∧ (∀ i x, now.InUse i x → x ≠ 0) ∧
    now.stats.submittedFrames = now.stats.releasedFrames + .ofNat now.inUseCount ∧
    Monitored ReleaseFreesItsSlot h.events ∧
    now.stats.busySkips = .ofNat (h.events.count (.returned 1)) ∧
    Monitored (BusyFindsAllInUse now.slots.length) h.events ∧
    ∀ i x nv12, h.state.submitter = .copying i x nv12 → ∀ y, ¬Held h.events i y := by
  intro h now
  have hinv : Inv config.bufferCount.toNat h.state h.events := run_inv hcreate ⟨hsound, hfresh⟩
  refine ⟨hinv.occupied, fun i j x => hinv.unique hfresh, ?_, hinv.counted, hinv.released, hinv.skips, ?_, ?_⟩
  · intro i x huse
    obtain ⟨before, e, after, heq, htakes, -⟩ := (hinv.occupied i x).mp huse
    rw [hinv.named before e after heq i x htakes]
    exact frameIdAt_ne_zero _
  · rw [hinv.length]
    exact hinv.busy
  · intro i x nv12 hcopying y hheld
    apply (hinv.held i y hheld).2 x
    rw [hcopying]
    rfl

/-- A detector with one slot: a frame is released before `ROCKIVA_PushFrame` has returned, the next one is in use when a
third is submitted. -/
theorem slot_protocol_skip :
    ∃ detector, livePersonDetectorCreate ⟨some "models", 2, 2, 1⟩
        ⟨true, true, true, true, true, fun _ => [], true, true, true, true⟩ = some detector ∧
      let submit := Move.submit ⟨some [1, 2, 3, 4, 5, 6], 0, 0, 0⟩
      let h := run step (.start detector) [submit, .proceed true, .proceed true, .release (some [1]), .proceed true,
        submit, .proceed true, .proceed true, .proceed true, submit]
      h.events = [.reserved 0 1, .accepted 0 1, .released 1 (some 0), .returned 0, .reserved 0 2, .accepted 0 2,
        .returned 0, .returned 1] ∧
      ReleaseFreesItsSlot [.reserved 0 1, .accepted 0 1] (.released 1 (some 0)) ∧
      h.state.detector.stats.busySkips = 1 ∧ ∃ x, SlotOccupied (h.events.take 7) 0 x := by
  refine ⟨_, rfl, ?_⟩
  intro submit h
  have hevents : h.events = [.reserved 0 1, .accepted 0 1, .released 1 (some 0), .returned 0, .reserved 0 2,
      .accepted 0 2, .returned 0, .returned 1] := by
    decide
  have hsound : Sound (sdkUses h.events) := by
    rw [hevents]
    exact (((holds_nil.acquire (1 : UInt32)).release).acquire 2).sound
  have hfresh : NoStaleSlot h.events := by
    apply notStale_of_length
    rw [hevents]
    decide
  obtain ⟨-, -, -, -, hreleased, hskips, hbusy, -⟩ := @slot_protocol ⟨some "models", 2, 2, 1⟩
    ⟨true, true, true, true, true, fun _ => [], true, true, true, true⟩ _ rfl _ hsound hfresh
  rw [hevents] at hreleased hskips hbusy
  refine ⟨hevents, ?_, hskips, ?_⟩
  · exact hreleased [_, _] _ _ rfl
  · rw [hevents]
    exact hbusy [_, _, _, _, _, _, _] _ [] rfl rfl 0 (by decide)

end MiniRtsp.Detector
