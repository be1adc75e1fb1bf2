import MiniRtsp.Detector.LifeRuns

/-!
# What RockIVA has left

A wait of `live_person_detector_wait_idle` that returns 0 has seen every slot idle. From then on until the next
submission no slot is in use (`QuietInv`), so that RockIVA has no frame; and it is stopped only then, or behind a wait
that has failed (`lifeRun_quiet`).
-/

namespace MiniRtsp.Detector

open Event Ledger Trace Wire

variable {h : History (Option Living) LifeEvent}

/-! ## Nothing with RockIVA -/

/-- A new detector, or a new submission. -/
def LifeEvent.Begins : LifeEvent → Prop
  | .created 0 | .slot (.reserved _ _) => True
  | _ => False

/-- A wait has returned 0, and nothing has been submitted since. -/
def Quiesced (events : List LifeEvent) : Prop := Since (· = .waited 0) LifeEvent.Begins events

/-- A wait has failed, and nothing has been submitted since. -/
def Unfinished (events : List LifeEvent) : Prop := Since (· = .waited (-1)) LifeEvent.Begins events

/-- RockIVA has no frame of the detector, as far as it keeps its promises. -/
def Emptied (slots : List SlotEvent) : Prop := Contract slots → ∀ i x, ¬Held slots i x

theorem plain_unbegun {e : LifeEvent} (h : e.Plain) (ret : Int) : ¬e = .waited ret ∧ ¬e.Begins := by
  cases e with
  | use u => exact ⟨by simp, id⟩
  | rockiva call => exact ⟨by simp, id⟩
  | _ => exact h.elim

theorem pushCall_unbegun (s : System) (move : Move) (ret : Int) :
    ∀ e ∈ pushCall s move, ¬e = .waited ret ∧ ¬e.Begins := by
  unfold pushCall
  split
  · split
    · simp [LifeEvent.Begins]
    · simp
  · simp

/-- The release callback takes no slot. -/
theorem frameReleaseCallback_inUse (frames : List UInt32) {detector : LivePersonDetector} {i : Nat} {x : UInt32}
    (h : (frameReleaseCallback frames detector).1.InUse i x) : detector.InUse i x := by
  induction frames generalizing detector with
  | nil => exact h
  | cons y frames ih =>
    rw [frameReleaseCallback] at h
    have hnext := ih h
    unfold releaseFrame at hnext
    split at hnext
    · exact ((inUse_freed rfl fun _ => rfl).mp hnext).1
    · exact hnext

theorem inUse_of_slots {detector detector' : LivePersonDetector} (h : detector'.slots = detector.slots) {i : Nat}
    {x : UInt32} : detector'.InUse i x ↔ detector.InUse i x := by
  unfold LivePersonDetector.InUse
  rw [h]

/-- Without a submission no slot comes into use. -/
theorem step_unreserved {s : System} (hidle : s.submitter = .idle) (move : Move)
    (hnone : ∀ i x, .reserved i x ∉ (step move s).2) :
    (step move s).1.submitter = .idle ∧ ∀ i x, (step move s).1.detector.InUse i x → s.detector.InUse i x := by
  cases move with
  | submit call =>
    simp only [step, if_pos hidle] at hnone ⊢
    have hsubmitted := submitCalled_submitted call s
    generalize submitCalled call s = r at hsubmitted hnone ⊢
    cases hsubmitted with
    | refused => exact ⟨hidle, fun _ _ => id⟩
    | busy => exact ⟨hidle, fun i x => (inUse_of_slots rfl).mp⟩
    | reserved => exact absurd (List.mem_singleton.mpr rfl) (hnone _ _)
  | proceed accepts =>
    simp only [step, submitProceeds, hidle]
    exact ⟨trivial, fun _ _ => id⟩
  | release frames => exact ⟨hidle, fun i x => frameReleaseCallback_inUse _⟩
  | result success result callbackMs =>
    have hquiet := detectResultCallback_quiet s.detector success result callbackMs
    exact ⟨hidle, fun i x => (inUse_of_slots hquiet.slots).mp⟩
  | countResult i =>
    simp only [step]
    split
    · rename_i event _
      exact ⟨hidle, fun i x => (inUse_of_slots (countEvent_quiet s.detector event).slots).mp⟩
    · exact ⟨hidle, fun _ _ => id⟩
  | shutDown => exact ⟨hidle, fun i x => (inUse_of_slots rfl).mp⟩

/-- Only the owner of a detector submits, and only outside of its other calls. -/
theorem permits_unreserved {owner : Owner} {move : Move} (howner : owner ≠ .ready)
    (hpermits : owner.permits move = true) (s : System) (i : Nat) (x : UInt32) :
    .reserved i x ∉ (step move s).2 := by
  cases move with
  | submit call => cases owner <;> simp [Owner.permits] at hpermits howner
  | proceed accepts => cases owner <;> simp [Owner.permits] at hpermits howner
  | release frames =>
    simp only [step]
    generalize frames.getD [] = frames
    generalize s.detector = detector
    induction frames generalizing detector with
    | nil => simp [frameReleaseCallback]
    | cons y frames ih => simp [frameReleaseCallback, ih]
  | result success result callbackMs => simp [step]
  | countResult i =>
    simp only [step]
    split <;> simp
  | shutDown => simp [step]

/-- Where no slot is in use, RockIVA has no frame. -/
theorem Lived.emptied {l : Living} {slots : List SlotEvent} (hl : Lived l slots)
    (hunused : ∀ i x, ¬l.system.detector.InUse i x) : Emptied slots := by
  intro hcontract i x hheld
  obtain ⟨config, answers, detector, moves, hcreate, hrun, -⟩ := hl.created
  have hinv : Inv config.bufferCount.toNat (run step (.start detector) moves).state
      (run step (.start detector) moves).events := run_inv hcreate (by rw [hrun]; exact hcontract)
  rw [hrun] at hinv
  exact hunused i x (hinv.held i x hheld).1

theorem allSlotsIdle_inUse {detector : LivePersonDetector} (h : allSlotsIdle detector = true) (i : Nat) (x : UInt32) :
    ¬detector.InUse i x := by
  rintro ⟨slot, hslot, huse, -⟩
  have hfree := List.all_eq_true.mp h slot (List.mem_of_getElem? hslot)
  simp [huse] at hfree

structure QuietInv (h : History (Option Living) LifeEvent) : Prop where
  unused : Quiesced h.events → ∀ l, h.state = some l →
    l.system.submitter = .idle ∧ ∀ i x, ¬l.system.detector.InUse i x
  emptied : Quiesced h.events → Emptied (currentSlots h.events)
  waited : ∀ l, h.state = some l → l.owner = .releasingDetect → Quiesced h.events ∨ Unfinished h.events

theorem quietInv_start : QuietInv ⟨none, []⟩ :=
  ⟨fun hwaited => absurd hwaited not_since_nil, fun hwaited => absurd hwaited not_since_nil, by simp⟩

/-- RockIVA is told to stop only when it has nothing, or when a wait has failed. -/
def ReleasedQuiet (before : List LifeEvent) : LifeEvent → Prop
  | .rockiva (.detectRelease _) => Emptied (currentSlots before) ∨ Unfinished before
  | _ => True

theorem releasedQuiet_of_ne {e : LifeEvent} (h : ∀ ok, e ≠ .rockiva (.detectRelease ok)) (before : List LifeEvent) :
    ReleasedQuiet before e := by
  unfold ReleasedQuiet
  split
  · rename_i ok
    exact absurd rfl (h ok)
  · trivial

theorem releasedQuiet_plain {e : LifeEvent} (h : e.Plain) (before : List LifeEvent) : ReleasedQuiet before e := by
  refine releasedQuiet_of_ne (fun ok => ?_) before
  rintro rfl
  exact h

theorem monitored_released {es fs : List LifeEvent} {e : LifeEvent} (h : ∀ x ∈ fs, x.Plain)
    (he : ∀ ok, e ≠ .rockiva (.detectRelease ok)) :
    Monitored (fun before => ReleasedQuiet (es ++ before)) (fs ++ [e]) := by
  refine monitored_append.mpr ⟨monitored_of_forall fun x hx before => releasedQuiet_plain (h x hx) _, ?_⟩
  exact monitored_cons.mpr ⟨releasedQuiet_of_ne he _, monitored_nil⟩

/-- **Every step** keeps what is quiet quiet, until something is submitted. -/
theorem lifeStep_quiet (move : LifeMove) (hi : LifeInv h) (hq : QuietInv h) :
    QuietInv (advance lifeStep h move) ∧
      Monitored (fun before => ReleasedQuiet (h.events ++ before)) (lifeStep move h.state).2 := by
  unfold advance
  have hcase := lifeStep_cases move h.state
  generalize hl : h.state = l at hcase
  generalize lifeStep move l = r at hcase ⊢
  obtain ⟨l', events⟩ := r
  dsimp only at hcase ⊢
  cases hcase with
  | nothing =>
    rw [List.append_nil, ← hl]
    exact ⟨hq, monitored_nil⟩
  | failed es hes =>
    have hsame : Quiesced (h.events ++ (es ++ [.created (-1)])) ↔ Quiesced h.events := by
      refine since_append fun e he => ?_
      rcases List.mem_append.mp he with he | he
      · exact plain_unbegun (hes.plain e he) 0
      · rw [List.mem_singleton.mp he]
        exact ⟨by simp, id⟩
    refine ⟨⟨by simp, fun hquiet => ?_, by simp⟩, monitored_released hes.plain (by simp)⟩
    rw [← List.append_assoc, currentSlots_concat, currentSlots_plain hes.plain]
    exact hq.emptied (hsame.mp hquiet)
  | created config answers detector es hcreate hes =>
    have hnot : ¬Quiesced (h.events ++ (es ++ [.created 0])) := by
      refine not_since_append (fun e he => ?_) ⟨.created 0, by simp, trivial⟩
      rcases List.mem_append.mp he with he | he
      · exact (plain_unbegun (hes.plain e he) 0).1
      · simp [List.mem_singleton.mp he]
    refine ⟨⟨fun hquiet => absurd hquiet hnot, fun hquiet => absurd hquiet hnot, ?_⟩,
      monitored_released hes.plain (by simp)⟩
    rintro l ⟨⟩ howner
    cases howner
  | slot l move hpermits =>
    have hnever : ∀ e ∈ pushCall l.system move ++ (step move l.system).2.map .slot, ∀ ret, ¬e = .waited ret := by
      intro e he ret
      rcases List.mem_append.mp he with he | he
      · exact (pushCall_unbegun l.system move ret e he).1
      · obtain ⟨x, -, rfl⟩ := List.mem_map.mp he
        simp
    have hreleased : Monitored (fun before => ReleasedQuiet (h.events ++ before))
        (pushCall l.system move ++ (step move l.system).2.map .slot) := by
      refine monitored_of_forall fun e he before => releasedQuiet_of_ne (fun ok => ?_) _
      rcases List.mem_append.mp he with he | he
      · unfold pushCall at he
        split at he
        · split at he
          · simp [List.mem_singleton.mp he]
          · simp at he
        · simp at he
      · obtain ⟨x, -, rfl⟩ := List.mem_map.mp he
        simp
    refine ⟨?_, hreleased⟩
    by_cases hreserved : ∃ i x, .reserved i x ∈ (step move l.system).2
    · obtain ⟨i, x, hmem⟩ := hreserved
      have hready : l.owner = .ready := by
        by_contra howner
        exact permits_unreserved howner hpermits l.system i x hmem
      have hnot : ¬Quiesced (h.events ++ (pushCall l.system move ++ (step move l.system).2.map .slot)) := by
        refine not_since_append (fun e he => hnever e he 0) ⟨.slot (.reserved i x), ?_, trivial⟩
        exact List.mem_append.mpr (.inr (List.mem_map.mpr ⟨_, hmem, rfl⟩))
      refine ⟨fun hquiet => absurd hquiet hnot, fun hquiet => absurd hquiet hnot, ?_⟩
      rintro l' ⟨⟩ howner
      dsimp only at howner
      rw [hready] at howner
      cases howner
    · have hnone : ∀ i x, .reserved i x ∉ (step move l.system).2 := fun i x hmem => hreserved ⟨i, x, hmem⟩
      have hsame : ∀ ret, Since (· = .waited ret) LifeEvent.Begins
          (h.events ++ (pushCall l.system move ++ (step move l.system).2.map .slot)) ↔
            Since (· = .waited ret) LifeEvent.Begins h.events := by
        refine fun ret => since_append fun e he => ⟨hnever e he ret, ?_⟩
        rcases List.mem_append.mp he with he | he
        · exact (pushCall_unbegun l.system move ret e he).2
        · obtain ⟨x, hx, rfl⟩ := List.mem_map.mp he
          cases x with
          | reserved i y => exact absurd hx (hnone i y)
          | _ => exact id
      have hunused : Quiesced h.events → (step move l.system).1.submitter = .idle ∧
          ∀ i x, ¬(step move l.system).1.detector.InUse i x := by
        intro hquiet
        obtain ⟨hidle, hunused⟩ := hq.unused hquiet l hl
        obtain ⟨hstill, hin⟩ := step_unreserved hidle move hnone
        exact ⟨hstill, fun i x huse => hunused i x (hin i x huse)⟩
      refine ⟨?_, fun hquiet => ?_, ?_⟩
      · rintro hquiet l' ⟨⟩
        exact hunused ((hsame 0).mp hquiet)
      · rw [currentSlots_push]
        exact ((hi.lived l hl).slot hpermits).emptied (hunused ((hsame 0).mp hquiet)).2
      · rintro l' ⟨⟩ howner
        exact (hq.waited l hl howner).imp (hsame 0).mpr (hsame (-1)).mpr
  | shuts l howner hidle =>
    rw [List.append_nil]
    refine ⟨⟨?_, hq.emptied, ?_⟩, monitored_nil⟩
    · rintro hquiet l' ⟨⟩
      exact ⟨hidle, fun i x huse => (hq.unused hquiet l hl).2 i x ((inUse_of_slots rfl).mp huse)⟩
    · rintro l' ⟨⟩ howner'
      cases howner'
  | calls l owner _ hidle hes howner =>
    have hsame : Quiesced (h.events ++ events) ↔ Quiesced h.events :=
      since_append fun e he => plain_unbegun (hes.plain e he) 0
    refine ⟨⟨?_, fun hquiet => ?_, ?_⟩, ?_⟩
    · rintro hquiet l' ⟨⟩
      exact hq.unused (hsame.mp hquiet) l hl
    · rw [currentSlots_plain hes.plain]
      exact hq.emptied (hsame.mp hquiet)
    · rintro l' ⟨⟩ howner'
      exact absurd howner' howner
    · exact monitored_of_forall fun e he before => releasedQuiet_plain (hes.plain e he) _
  | returns l owner es ret hidle hes hret =>
    have hslots : currentSlots (h.events ++ (es ++ [.waited ret])) = currentSlots h.events := by
      rw [← List.append_assoc, currentSlots_concat, currentSlots_plain hes.plain]
    have hstill : l.system.submitter = .idle := by
      by_cases hready : l.owner = .ready
      · exact hidle hready
      · exact (hi.lived l hl).idle hready
    refine ⟨?_, monitored_released hes.plain (by simp)⟩
    rcases hret with ⟨rfl, hall⟩ | rfl
    · have hnow : Quiesced (h.events ++ (es ++ [.waited 0])) := by
        rw [← List.append_assoc]
        exact since_concat.mpr (.inl rfl)
      refine ⟨?_, fun _ => ?_, fun _ _ _ => .inl hnow⟩
      · rintro - l' ⟨⟩
        exact ⟨hstill, allSlotsIdle_inUse hall⟩
      · rw [hslots]
        exact (hi.lived l hl).emptied (allSlotsIdle_inUse hall)
    · have hnow : Unfinished (h.events ++ (es ++ [.waited (-1)])) := by
        rw [← List.append_assoc]
        exact since_concat.mpr (.inl rfl)
      have hsame : Quiesced (h.events ++ (es ++ [.waited (-1)])) ↔ Quiesced h.events := by
        refine since_append fun e he => ?_
        rcases List.mem_append.mp he with he | he
        · exact plain_unbegun (hes.plain e he) 0
        · rw [List.mem_singleton.mp he]
          exact ⟨by simp, id⟩
      refine ⟨?_, fun hquiet => ?_, fun _ _ _ => .inr hnow⟩
      · rintro hquiet l' ⟨⟩
        exact hq.unused (hsame.mp hquiet) l hl
      · rw [hslots]
        exact hq.emptied (hsame.mp hquiet)
  | stops l howner ok =>
    have hsame : Quiesced (h.events ++ [.rockiva (.detectRelease ok)]) ↔ Quiesced h.events :=
      since_append fun e he => by
        rw [List.mem_singleton.mp he]
        exact ⟨by simp, id⟩
    refine ⟨⟨?_, fun hquiet => ?_, ?_⟩, monitored_cons.mpr ⟨?_, monitored_nil⟩⟩
    · rintro hquiet l' ⟨⟩
      exact hq.unused (hsame.mp hquiet) l hl
    · rw [currentSlots_concat]
      exact hq.emptied (hsame.mp hquiet)
    · rintro l' ⟨⟩ howner'
      cases howner'
    · rw [List.append_nil]
      exact (hq.waited l hl howner).imp hq.emptied id
  | frees l howner freeMem =>
    have hplain := (freeDetector_brings freeMem l.allocated).plain
    have hsame : Quiesced (h.events ++ (freeDetector freeMem l.allocated ++ [.destroyed])) ↔ Quiesced h.events := by
      refine since_append fun e he => ?_
      rcases List.mem_append.mp he with he | he
      · exact plain_unbegun (hplain e he) 0
      · rw [List.mem_singleton.mp he]
        exact ⟨by simp, id⟩
    refine ⟨⟨by simp, fun hquiet => ?_, by simp⟩, monitored_released hplain (by simp)⟩
    rw [← List.append_assoc, currentSlots_concat, currentSlots_plain hplain]
    exact hq.emptied (hsame.mp hquiet)

/-- **RockIVA is stopped with nothing left**: from a wait that returns 0 until the next submission RockIVA has no frame,
and `ROCKIVA_DETECT_Release` is called when it has none, or behind a wait that has failed. -/
theorem lifeRun_quiet (moves : List LifeMove) :
    (Quiesced (lifeRun moves).events → Emptied (currentSlots (lifeRun moves).events)) ∧
      Monitored ReleasedQuiet (lifeRun moves).events := by
  have hstep : ∀ past move, LifeInv (run lifeStep none past) ∧ QuietInv (run lifeStep none past) →
      (LifeInv (advance lifeStep (run lifeStep none past) move) ∧
        QuietInv (advance lifeStep (run lifeStep none past) move)) ∧
      Monitored (fun before => ReleasedQuiet ((run lifeStep none past).events ++ before))
        (lifeStep move (run lifeStep none past).state).2 := by
    rintro past move ⟨hi, hq⟩
    obtain ⟨hnext, hok⟩ := lifeStep_quiet move hi hq
    exact ⟨⟨(lifeStep_inv move hi).1, hnext⟩, hok⟩
  have hboth : LifeInv (lifeRun moves) ∧ QuietInv (lifeRun moves) :=
    run_induction lifeStep (P := fun h => LifeInv h ∧ QuietInv h) ⟨lifeInv_start, quietInv_start⟩
      fun past move _ h => (hstep past move h).1
  refine ⟨hboth.2.emptied, ?_⟩
  exact run_monitored lifeStep (P := fun h => LifeInv h ∧ QuietInv h) ⟨lifeInv_start, quietInv_start⟩
    fun past move _ h => hstep past move h

/-- Everything succeeds. -/
def ownerSucceeds : OwnerAnswers := ⟨true, some ⟨0, 0⟩, 0, fun _ => true⟩

/-- A frame is submitted, and released while the owner waits; then the detector is destroyed. -/
def livesOnce : List LifeMove :=
  [.create (some ⟨some "models", 2, 2, 1⟩) ⟨true, true, true, true, true, fun _ => [], true, true, true, true⟩
      (fun _ => .usable []) ⟨true, true, fun _ => true⟩,
    .slot (.submit ⟨some [1, 2, 3, 4, 5, 6], 0, 0, 0⟩), .slot (.proceed true), .slot (.proceed true),
    .slot (.proceed true), .destroy, .goOn ownerSucceeds, .goOn ownerSucceeds, .slot (.release (some [1])),
    .goOn ownerSucceeds, .goOn ownerSucceeds, .goOn ownerSucceeds, .goOn ownerSucceeds]

theorem lifeRun_quiet_once : ∃ before after,
    (lifeRun livesOnce).events = before ++ .rockiva (.detectRelease true) :: after ∧
      .slot (.accepted 0 1) ∈ before ∧ ∀ i x, ¬Held (currentSlots before) i x := by
  have hevents : (lifeRun livesOnce).events = (lifeRun livesOnce).events.take 16 ++
      .rockiva (.detectRelease true) :: (lifeRun livesOnce).events.drop 17 := by
    decide +kernel
  refine ⟨_, _, hevents, by decide +kernel, ?_⟩
  have hslots : currentSlots ((lifeRun livesOnce).events.take 16) =
      [.reserved 0 1, .accepted 0 1, .returned 0, .released 1 (some 0)] := by
    decide +kernel
  have hcontract : Contract (currentSlots ((lifeRun livesOnce).events.take 16)) := by
    rw [hslots]
    exact ⟨((holds_nil.acquire (1 : UInt32)).release).sound, notStale_of_length (by decide)⟩
  rcases (lifeRun_quiet livesOnce).2 _ _ _ hevents with hempty | ⟨before, e, after, heq, rfl, -⟩
  · exact hempty hcontract
  · -- no wait has failed
    have hmem : .waited (-1) ∈ (lifeRun livesOnce).events.take 16 := by simp [heq]
    exact absurd hmem (by decide +kernel)

end MiniRtsp.Detector
