import MiniRtsp.Detector.DetectorLife

/-!
# Runs of a detector's life

What a step of the owner or of RockIVA can do (`LifeCase`), and the law of every run: the calls of RockIVA come in
order, and memory is touched and pushed only while it is there (`lifeRun_orderly`).
-/

namespace MiniRtsp.Detector

open Event Ledger Trace Wire

/-! ## Slots have their places -/

/-- There are `n` slots, and the submitting thread has one of them if any. -/
structure Placed (n : Nat) (s : System) : Prop where
  length : s.detector.slots.length = n
  own : ∀ i x, s.submitter.own = some (i, x) → i < n

theorem findIdx?_lt {α : Type*} {p : α → Bool} {l : List α} {i : Nat} (h : l.findIdx? p = some i) : i < l.length :=
  (List.findIdx?_eq_some_iff_getElem.mp h).1

theorem frameReleaseCallback_placed {n : Nat} (frames : List UInt32) {detector : LivePersonDetector}
    (hlength : detector.slots.length = n) :
    (frameReleaseCallback frames detector).1.slots.length = n ∧
      ∀ e ∈ (frameReleaseCallback frames detector).2, ∀ i, e.place = some i → i < n := by
  induction frames generalizing detector with
  | nil => exact ⟨hlength, by simp [frameReleaseCallback]⟩
  | cons x frames ih =>
    have hfreed : (releaseFrame detector x).1.slots.length = n ∧
        ∀ i, (releaseFrame detector x).2 = some i → i < n := by
      unfold releaseFrame
      split
      · rename_i j hfind
        refine ⟨by simpa using hlength, ?_⟩
        rintro i ⟨⟩
        rw [← hlength]
        exact findIdx?_lt hfind
      · exact ⟨hlength, by simp⟩
    rw [frameReleaseCallback]
    obtain ⟨hrest, hevents⟩ := ih hfreed.1
    refine ⟨hrest, fun e he i hi => ?_⟩
    rcases List.mem_cons.mp he with rfl | he
    · exact hfreed.2 i hi
    · exact hevents e he i hi

/-- **Every step** stays with the slots that there are. -/
theorem step_placed {n : Nat} {s : System} (h : Placed n s) (move : Move) :
    Placed n (step move s).1 ∧ ∀ e ∈ (step move s).2, ∀ i, e.place = some i → i < n := by
  cases move with
  | submit call =>
    simp only [step]
    split
    · have hsubmitted := submitCalled_submitted call s
      generalize submitCalled call s = r at hsubmitted ⊢
      cases hsubmitted with
      | refused => exact ⟨h, by simp [SlotEvent.place]⟩
      | busy => exact ⟨⟨h.length, h.own⟩, by simp [SlotEvent.place]⟩
      | reserved free =>
        have hi := h.length ▸ findIdx?_lt free
        refine ⟨⟨by simpa using h.length, ?_⟩, by simp [SlotEvent.place, hi]⟩
        rintro j x ⟨⟩
        exact hi
    · exact ⟨h, by simp⟩
  | proceed accepts =>
    simp only [step]
    unfold submitProceeds
    cases hpc : s.submitter with
    | idle => exact ⟨h, by simp⟩
    | copying i x nv12 =>
      have hi : i < n := h.own i x (by rw [hpc]; rfl)
      refine ⟨⟨by simpa [copyFrame] using h.length, ?_⟩, by simp⟩
      rintro j y ⟨⟩
      exact hi
    | pushing i x =>
      have hi : i < n := h.own i x (by rw [hpc]; rfl)
      cases accepts with
      | true => exact ⟨⟨h.length, by simp [Submitter.own]⟩, by simp [SlotEvent.place, hi]⟩
      | false =>
        refine ⟨⟨h.length, ?_⟩, by simp⟩
        rintro j y ⟨⟩
        exact hi
    | accepted => exact ⟨⟨h.length, by simp [Submitter.own]⟩, by simp [SlotEvent.place]⟩
    | rejected i x =>
      have hi : i < n := h.own i x (by rw [hpc]; rfl)
      exact ⟨⟨by simpa [undoReservation] using h.length, by simp [Submitter.own]⟩, by simp [SlotEvent.place, hi]⟩
  | release frames =>
    obtain ⟨hlength, hevents⟩ := frameReleaseCallback_placed (frames.getD []) h.length
    exact ⟨⟨hlength, h.own⟩, hevents⟩
  | result success result callbackMs =>
    have hquiet := detectResultCallback_quiet s.detector success result callbackMs
    exact ⟨⟨by rw [← h.length, ← hquiet.slots]; rfl, h.own⟩, by simp [step]⟩
  | countResult i =>
    simp only [step]
    split
    · rename_i event _
      have hquiet := countEvent_quiet s.detector event
      exact ⟨⟨by rw [← h.length, ← hquiet.slots], h.own⟩, by simp⟩
    · exact ⟨h, by simp⟩
  | shutDown => exact ⟨⟨h.length, h.own⟩, by simp [step]⟩

theorem create_placed {config : LivePersonDetectorConfig} {answers : CreateAnswers} {detector : LivePersonDetector}
    (h : livePersonDetectorCreate config answers = some detector) :
    Placed config.bufferCount.toNat (.start detector) :=
  ⟨(create_inv h).length, fun _ _ hown => by cases hown⟩

/-! ## What a step can do -/

def Owner.phase : Owner → RockivaPhase
  | .ready | .finishing _ _ | .waiting _ _ _ | .releasingDetect => .detecting
  | .releasing => .announced
  | .freeing => .off

/-- How far RockIVA is, and what is held. -/
def lifePhase : Option Living → RockivaPhase
  | none => .off
  | some l => l.owner.phase

def lifeHeld : Option Living → Multiset DetectorResource
  | none => 0
  | some l => detectorHeld l.allocated

/-- What a step can do; in all cases but `slot` the submitting thread does not move. -/
inductive LifeCase : Option Living → Option Living → List LifeEvent → Prop
  | nothing (l : Option Living) : LifeCase l l []
  | failed (es : List LifeEvent) (hes : Brings es .off .off 0 0) : LifeCase none none (es ++ [.created (-1)])
  | created (config : LivePersonDetectorConfig) (answers : CreateAnswers) (detector : LivePersonDetector)
      (es : List LifeEvent) (hcreate : livePersonDetectorCreate config answers = some detector)
      (hes : Brings es .off .detecting 0 (detectorHeld (List.replicate config.bufferCount.toNat true))) :
      LifeCase none (some ⟨.start detector, List.replicate config.bufferCount.toNat true, .ready⟩)
        (es ++ [.created 0])
  | slot (l : Living) (move : Move) (hpermits : l.owner.permits move = true) :
      LifeCase (some l) (some { l with system := (step move l.system).1 })
        (pushCall l.system move ++ (step move l.system).2.map .slot)
  | shuts (l : Living) (howner : l.owner = .ready) (hidle : l.system.submitter = .idle) :
      LifeCase (some l) (some { l with system := (step .shutDown l.system).1, owner := .finishing 5000 true }) []
  | calls (l : Living) (owner : Owner) (es : List LifeEvent) (hidle : l.owner = .ready → l.system.submitter = .idle)
      (hes : Brings es l.owner.phase owner.phase (detectorHeld l.allocated) (detectorHeld l.allocated))
      (howner : owner ≠ .releasingDetect) : LifeCase (some l) (some { l with owner }) es
  | returns (l : Living) (owner : Owner) (es : List LifeEvent) (ret : Int)
      (hidle : l.owner = .ready → l.system.submitter = .idle)
      (hes : Brings es l.owner.phase owner.phase (detectorHeld l.allocated) (detectorHeld l.allocated))
      (hret : ret = 0 ∧ allSlotsIdle l.system.detector = true ∨ ret = -1) :
      LifeCase (some l) (some { l with owner }) (es ++ [.waited ret])
  | stops (l : Living) (howner : l.owner = .releasingDetect) (ok : Bool) :
      LifeCase (some l) (some { l with owner := .releasing }) [.rockiva (.detectRelease ok)]
  | frees (l : Living) (howner : l.owner = .freeing) (freeMem : Nat → Bool) :
      LifeCase (some l) none (freeDetector freeMem l.allocated ++ [.destroyed])

theorem phase_returned (destroying : Bool) :
    (if destroying then Owner.releasingDetect else .ready).phase = .detecting := by
  cases destroying <;> rfl

theorem ownerStep_cases (answers : OwnerAnswers) (l : Living) :
    LifeCase (some l) (ownerStep answers l).1 (ownerStep answers l).2 := by
  unfold ownerStep
  cases howner : l.owner with
  | ready => exact .nothing _
  | finishing timeoutMs destroying =>
    have hcalled : ∀ owner : Owner, owner.phase = .detecting →
        Brings [.rockiva (.waitFinish answers.ok)] l.owner.phase owner.phase (detectorHeld l.allocated)
          (detectorHeld l.allocated) := by
      intro owner hphase
      rw [howner, hphase]
      exact brings_call trivial rfl brings_nil
    dsimp only
    split
    · exact .calls l _ _ (by simp [howner]) (hcalled _ rfl) (by simp)
    · exact .returns l _ [_] (-1) (by simp [howner]) (hcalled _ (phase_returned destroying)) (.inr rfl)
  | waiting waitRet deadline destroying =>
    have hnothing : ∀ owner : Owner, owner.phase = .detecting →
        Brings [] l.owner.phase owner.phase (detectorHeld l.allocated) (detectorHeld l.allocated) := by
      intro owner hphase
      rw [howner, hphase]
      exact brings_nil
    dsimp only
    split
    · rename_i hall
      exact .returns l _ [] 0 (by simp [howner]) (hnothing _ (phase_returned destroying)) (.inl ⟨rfl, hall⟩)
    · split
      · exact .returns l _ [] (-1) (by simp [howner]) (hnothing _ (phase_returned destroying)) (.inr rfl)
      · exact .calls l _ [] (by simp [howner]) (hnothing _ rfl) (by simp)
  | releasingDetect => exact .stops l howner answers.ok
  | releasing =>
    refine .calls l _ _ (by simp [howner]) ?_ (by simp)
    rw [howner]
    exact brings_call trivial rfl brings_nil
  | freeing => exact .frees l howner answers.freeMem

theorem lifeStep_cases (move : LifeMove) (l : Option Living) : LifeCase l (lifeStep move l).1 (lifeStep move l).2 := by
  cases l with
  | none =>
    cases move with
    | create config answers dma cleanup =>
      cases config with
      | none => exact .failed [] brings_nil
      | some config =>
        have hbrings := createEvents_brings config answers dma cleanup
        simp only [lifeStep]
        cases hcreate : livePersonDetectorCreate config (answers.withDma dma config.bufferCount.toNat) with
        | none =>
          rw [hcreate] at hbrings
          exact .failed _ hbrings
        | some detector =>
          have hsome := livePersonDetectorCreate_isSome config (answers.withDma dma config.bufferCount.toNat)
          rw [hcreate] at hbrings hsome
          have hall : (allocateDmaSlots dma config.bufferCount.toNat 0).2.2 = true := by
            simp only [Option.isSome_some, CreateAnswers.complete, CreateAnswers.withDma, Bool.true_eq,
              Bool.and_eq_true] at hsome
            exact hsome.2.1.1.1.1
          dsimp only at hbrings ⊢
          rw [allocateDmaSlots_all hall] at hbrings ⊢
          exact .created config _ detector _ hcreate hbrings
    | _ => exact .nothing none
  | some l =>
    cases move with
    | create config answers dma cleanup =>
      cases config with
      | none => exact .nothing _
      | some config => exact .nothing _
    | slot move =>
      simp only [lifeStep]
      split
      · rename_i hpermits
        exact .slot l move hpermits
      · exact .nothing _
    | waitIdle timeoutMs =>
      simp only [lifeStep]
      obtain ⟨system, allocated, owner⟩ := l
      split
      · rename_i hready
        obtain ⟨rfl, hidle⟩ := hready
        split
        · exact .returns ⟨system, allocated, .ready⟩ .ready [] (-1) (fun _ => hidle) brings_nil (.inr rfl)
        · exact .calls ⟨system, allocated, .ready⟩ _ [] (fun _ => hidle) brings_nil (by simp)
      · exact .nothing _
    | destroy =>
      simp only [lifeStep]
      split
      · rename_i hready
        exact .shuts l hready.1 hready.2
      · exact .nothing _
    | goOn answers => exact ownerStep_cases answers l

/-! ## Events without slots -/

theorem currentSlots_plain {es fs : List LifeEvent} (h : ∀ e ∈ fs, e.Plain) :
    currentSlots (es ++ fs) = currentSlots es := by
  induction fs using List.reverseRecOn with
  | nil => rw [List.append_nil]
  | append_singleton fs e ih =>
    rw [← List.append_assoc, currentSlots_concat, ih fun x hx => h x (by simp [hx])]
    have hplain := h e (by simp)
    cases e with
    | use u => rfl
    | rockiva call => rfl
    | slot e => exact hplain.elim
    | created ret => exact hplain.elim
    | waited ret => rfl
    | destroyed => rfl

theorem currentSlots_slots (es : List LifeEvent) (fs : List SlotEvent) :
    currentSlots (es ++ fs.map .slot) = currentSlots es ++ fs := by
  induction fs using List.reverseRecOn with
  | nil => simp
  | append_singleton fs e ih =>
    rw [List.map_append, ← List.append_assoc, List.map_singleton, currentSlots_concat, ih]
    exact List.append_assoc _ _ _

theorem currentSlots_push (es : List LifeEvent) (s : System) (move : Move) (fs : List SlotEvent) :
    currentSlots (es ++ (pushCall s move ++ fs.map .slot)) = currentSlots es ++ fs := by
  have hpush : currentSlots (es ++ pushCall s move) = currentSlots es := by
    unfold pushCall
    split
    · split
      · rw [currentSlots_concat]
      · rw [List.append_nil]
    · rw [List.append_nil]
  rw [← List.append_assoc, currentSlots_slots, hpush]

theorem lifeUses_slots (fs : List SlotEvent) : lifeUses (fs.map .slot) = [] := filterMap_unseen (fun _ => rfl) fs

theorem lifeUses_concat {es : List LifeEvent} {e : LifeEvent} (h : lifeUses [e] = []) :
    lifeUses (es ++ [e]) = lifeUses es := by
  rw [lifeUses_append, h, List.append_nil]

theorem lifeUses_push (s : System) (move : Move) : lifeUses (pushCall s move) = [] := by
  unfold pushCall
  split
  · split <;> rfl
  · rfl

/-- The owner submits only while RockIVA detects. -/
theorem rockivaPhase_push {es : List LifeEvent} {owner : Owner} {move : Move} (hpermits : owner.permits move = true)
    (h : rockivaPhase es = some owner.phase) (s : System) :
    rockivaPhase (es ++ pushCall s move) = some owner.phase := by
  unfold pushCall
  split
  · split
    · cases owner with
      | ready =>
        rw [rockivaPhase_append, h]
        rfl
      | _ => simp [Owner.permits] at hpermits
    · rwa [List.append_nil]
  · rwa [List.append_nil]

theorem rockivaPhase_concat {es : List LifeEvent} {e : LifeEvent} (h : rockivaCalls [e] = []) :
    rockivaPhase (es ++ [e]) = rockivaPhase es := by
  rw [rockivaPhase_append, h]
  cases rockivaPhase es <;> rfl

theorem rockivaPhase_slots {es : List LifeEvent} (fs : List SlotEvent) :
    rockivaPhase (es ++ fs.map .slot) = rockivaPhase es := by
  have hnone : rockivaCalls (fs.map .slot) = [] := filterMap_unseen (fun _ => rfl) fs
  rw [rockivaPhase_append, hnone]
  cases rockivaPhase es <;> rfl

theorem has_of_mem {es : List LifeEvent} {m : Multiset DetectorResource} {r : DetectorResource}
    (h : Holds (lifeUses es) m) (hr : r ∈ m) : Has es r := by
  have hcount := h.held r
  have hpos := Multiset.count_pos.mpr hr
  unfold Has
  omega

/-- Plain events need nothing. -/
theorem plain_ok {e : LifeEvent} (h : e.Plain) (before : List LifeEvent) : LifeOk before e := by
  cases e with
  | use u => trivial
  | rockiva call =>
    cases call with
    | pushFrame i x ok => exact h.elim
    | detectRelease ok => exact h.elim
    | _ => trivial
  | _ => exact h.elim

theorem monitored_plain {es fs : List LifeEvent} {e : LifeEvent} (h : ∀ x ∈ fs, x.Plain) (he : LifeOk (es ++ fs) e) :
    Monitored (fun before => LifeOk (es ++ before)) (fs ++ [e]) := by
  refine monitored_append.mpr ⟨monitored_of_forall fun x hx before => plain_ok (h x hx) _, ?_⟩
  exact monitored_cons.mpr ⟨by simpa using he, monitored_nil⟩

/-! ## The invariant -/

/-- A detector of the life is a detector of the slot protocol, whose slots all have memory. -/
structure Lived (l : Living) (slots : List SlotEvent) : Prop where
  idle : l.owner ≠ .ready → l.system.submitter = .idle
  created : ∃ config answers detector moves, livePersonDetectorCreate config answers = some detector ∧
    run step (.start detector) moves = ⟨l.system, slots⟩ ∧
    l.allocated = List.replicate config.bufferCount.toNat true

structure LifeInv (h : History (Option Living) LifeEvent) : Prop where
  phase : rockivaPhase h.events = some (lifePhase h.state)
  held : Holds (lifeUses h.events) (lifeHeld h.state)
  lived : ∀ l, h.state = some l → Lived l (currentSlots h.events)

variable {h : History (Option Living) LifeEvent}

theorem lifeInv_start : LifeInv ⟨none, []⟩ := ⟨rfl, holds_nil, by simp⟩

theorem LifeInv.brings {es : List LifeEvent} {p : RockivaPhase} {m : Multiset DetectorResource} (hi : LifeInv h)
    (hes : Brings es (lifePhase h.state) p (lifeHeld h.state) m) :
    rockivaPhase (h.events ++ es) = some p ∧ Holds (lifeUses (h.events ++ es)) m := by
  rw [rockivaPhase_append, hi.phase, lifeUses_append]
  exact ⟨hes.phase, hes.uses _ hi.held⟩

theorem Lived.placed {l : Living} {slots : List SlotEvent} (hl : Lived l slots) :
    Placed l.allocated.length l.system ∧ l.allocated = List.replicate l.allocated.length true := by
  obtain ⟨config, answers, detector, moves, hcreate, hrun, hall⟩ := hl.created
  have hplaced : Placed config.bufferCount.toNat (run step (.start detector) moves).state :=
    run_induction step (P := fun h => Placed config.bufferCount.toNat h.state) (create_placed hcreate)
      fun _ move _ hp => (step_placed hp move).1
  rw [hrun] at hplaced
  have hlength : l.allocated.length = config.bufferCount.toNat := by rw [hall, List.length_replicate]
  rw [hlength]
  exact ⟨hplaced, hall⟩

/-- While the owner is in a call of its own, its submission does not move. -/
theorem permits_idle {owner : Owner} {move : Move} (howner : owner ≠ .ready) (hpermits : owner.permits move = true)
    (s : System) : (step move s).1.submitter = s.submitter := by
  cases move with
  | submit call => cases owner <;> simp [Owner.permits] at hpermits howner
  | proceed accepts => cases owner <;> simp [Owner.permits] at hpermits howner
  | release frames => rfl
  | result success result callbackMs => rfl
  | countResult i =>
    simp only [step]
    split <;> rfl
  | shutDown => cases owner <;> simp [Owner.permits] at hpermits

/-- A step of the slots is one of the slot protocol. -/
theorem Lived.slot {l : Living} {slots : List SlotEvent} (hl : Lived l slots) {move : Move}
    (hpermits : l.owner.permits move = true) :
    Lived { l with system := (step move l.system).1 } (slots ++ (step move l.system).2) := by
  refine ⟨fun howner => ?_, ?_⟩
  · rw [permits_idle howner hpermits]
    exact hl.idle howner
  · obtain ⟨config, answers, detector, moves, hcreate, hrun, hall⟩ := hl.created
    refine ⟨config, answers, detector, moves ++ [move], hcreate, ?_, hall⟩
    rw [run_concat, hrun]
    rfl

/-- The slots that a step touches have their memory, and so has a frame that is pushed. -/
theorem LifeInv.slotsOk {l : Living} (hi : LifeInv h) (hl : h.state = some l) (move : Move) :
    Monitored (fun before => LifeOk (h.events ++ before))
      (pushCall l.system move ++ (step move l.system).2.map .slot) := by
  obtain ⟨hplaced, hall⟩ := (hi.lived l hl).placed
  have hheld : Holds (lifeUses h.events) (detectorHeld (List.replicate l.allocated.length true)) := by
    have hheld := hi.held
    rw [hl, lifeHeld, hall] at hheld
    exact hheld
  have hdma : ∀ i, i < l.allocated.length → Has h.events (.dma i) := by
    intro i hlt
    have hmem := mem_dmaHeld (i := 0) hlt
    rw [Nat.zero_add] at hmem
    exact has_of_mem hheld (Multiset.mem_add.mpr (.inl hmem))
  have hother : ∀ r ∈ [DetectorResource.condition, .mutex], Has h.events r := by
    intro r hr
    refine has_of_mem hheld (Multiset.mem_add.mpr (.inr ?_))
    simp only [List.mem_cons, List.not_mem_nil, or_false] at hr
    rcases hr with rfl | rfl <;> simp
  refine monitored_append.mpr ⟨?_, ?_⟩
  · unfold pushCall
    split
    · split
      · rename_i i x hpc
        refine monitored_cons.mpr ⟨?_, monitored_nil⟩
        rw [List.append_nil]
        exact hdma i (hplaced.own i x (by rw [hpc]; rfl))
      · exact monitored_nil
    · exact monitored_nil
  · intro before e after heq
    -- nothing is taken or given back in between
    have huses : lifeUses (h.events ++ (pushCall l.system move ++ before)) = lifeUses h.events := by
      have hbefore : lifeUses before = [] := by
        have hnone := lifeUses_slots (step move l.system).2
        rw [heq, lifeUses_append, List.append_eq_nil_iff] at hnone
        exact hnone.1
      rw [lifeUses_append, lifeUses_append, lifeUses_push, hbefore, List.append_nil, List.append_nil]
    have hhas : ∀ r, Has h.events r → Has (h.events ++ (pushCall l.system move ++ before)) r := by
      intro r hr
      unfold Has
      rwa [huses]
    have hmem : e ∈ (step move l.system).2.map .slot := by simp [heq]
    obtain ⟨x, hx, rfl⟩ := List.mem_map.mp hmem
    refine ⟨hhas _ (hother _ (by simp)), hhas _ (hother _ (by simp)), fun i hplace => hhas _ (hdma i ?_)⟩
    exact (step_placed hplaced move).2 x hx i hplace

/-- **Every step** keeps the calls of RockIVA in order. -/
theorem lifeStep_inv (move : LifeMove) (hi : LifeInv h) :
    LifeInv (advance lifeStep h move) ∧
      Monitored (fun before => LifeOk (h.events ++ before)) (lifeStep move h.state).2 := by
  unfold advance
  have hcase := lifeStep_cases move h.state
  generalize hl : h.state = l at hcase
  generalize lifeStep move l = r at hcase ⊢
  obtain ⟨l', events⟩ := r
  dsimp only at hcase ⊢
  cases hcase with
  | nothing =>
    rw [List.append_nil, ← hl]
    exact ⟨hi, monitored_nil⟩
  | failed es hes =>
    obtain ⟨hphase, hheld⟩ := hi.brings (by rw [hl]; exact hes)
    refine ⟨⟨?_, ?_, by simp⟩, monitored_plain hes.plain (.inr ⟨hheld.settled, hphase⟩)⟩
    · rw [← List.append_assoc, rockivaPhase_concat rfl]
      exact hphase
    · rw [← List.append_assoc, lifeUses_concat rfl]
      exact hheld
  | created config answers detector es hcreate hes =>
    obtain ⟨hphase, hheld⟩ := hi.brings (by rw [hl]; exact hes)
    refine ⟨⟨?_, ?_, ?_⟩, monitored_plain hes.plain (.inl rfl)⟩
    · rw [← List.append_assoc, rockivaPhase_concat rfl]
      exact hphase
    · rw [← List.append_assoc, lifeUses_concat rfl]
      exact hheld
    · rintro l ⟨⟩
      rw [← List.append_assoc, currentSlots_concat]
      exact ⟨fun _ => rfl, config, answers, detector, [], hcreate, rfl, rfl⟩
  | slot l move hpermits =>
    refine ⟨⟨?_, ?_, ?_⟩, hi.slotsOk hl move⟩
    · have hphase := hi.phase
      rw [hl] at hphase
      rw [← List.append_assoc, rockivaPhase_slots]
      exact rockivaPhase_push hpermits hphase _
    · rw [lifeUses_append, lifeUses_append, lifeUses_push, lifeUses_slots, List.append_nil, List.append_nil]
      have hheld := hi.held
      rw [hl] at hheld
      exact hheld
    · rintro l' ⟨⟩
      rw [currentSlots_push]
      exact (hi.lived l hl).slot hpermits
  | shuts l howner hidle =>
    have hphase := hi.phase
    have hheld := hi.held
    obtain ⟨config, answers, detector, moves, hcreate, hrun, hall⟩ := (hi.lived l hl).created
    rw [hl, lifePhase, howner] at hphase
    rw [hl] at hheld
    rw [List.append_nil]
    refine ⟨⟨hphase, hheld, ?_⟩, monitored_nil⟩
    rintro l' ⟨⟩
    refine ⟨fun _ => hidle, config, answers, detector, moves ++ [.shutDown], hcreate, ?_, hall⟩
    rw [run_concat, hrun, advance]
    simp [step]
  | calls l owner _ hidle hes howner =>
    obtain ⟨hphase, hheld⟩ := hi.brings (by rw [hl]; exact hes)
    have hstill : l.system.submitter = .idle := by
      by_cases hready : l.owner = .ready
      · exact hidle hready
      · exact (hi.lived l hl).idle hready
    refine ⟨⟨hphase, hheld, ?_⟩, monitored_of_forall fun e he before => plain_ok (hes.plain e he) _⟩
    rintro l' ⟨⟩
    rw [currentSlots_plain hes.plain]
    exact ⟨fun _ => hstill, (hi.lived l hl).created⟩
  | returns l owner es ret hidle hes hret =>
    obtain ⟨hphase, hheld⟩ := hi.brings (by rw [hl]; exact hes)
    have hstill : l.system.submitter = .idle := by
      by_cases hready : l.owner = .ready
      · exact hidle hready
      · exact (hi.lived l hl).idle hready
    refine ⟨⟨?_, ?_, ?_⟩, monitored_plain hes.plain trivial⟩
    · rw [← List.append_assoc, rockivaPhase_concat rfl]
      exact hphase
    · rw [← List.append_assoc, lifeUses_concat rfl]
      exact hheld
    · rintro l' ⟨⟩
      rw [← List.append_assoc, currentSlots_concat, currentSlots_plain hes.plain]
      exact ⟨fun _ => hstill, (hi.lived l hl).created⟩
  | stops l howner ok =>
    have hphase := hi.phase
    have hheld := hi.held
    rw [hl, lifePhase, howner] at hphase
    rw [hl] at hheld
    refine ⟨⟨?_, ?_, ?_⟩, monitored_of_forall fun e he before => by rw [List.mem_singleton.mp he]; trivial⟩
    · rw [rockivaPhase_append, hphase]
      rfl
    · rw [lifeUses_concat rfl]
      exact hheld
    · rintro l' ⟨⟩
      rw [currentSlots_concat]
      exact ⟨fun _ => (hi.lived l hl).idle (by simp [howner]), (hi.lived l hl).created⟩
  | frees l howner freeMem =>
    have hbrings := freeDetector_brings freeMem l.allocated
    obtain ⟨hphase, hheld⟩ := hi.brings (p := .off) (m := 0) (by rw [hl, lifePhase, howner]; exact hbrings)
    refine ⟨⟨?_, ?_, by simp⟩, monitored_plain hbrings.plain ⟨hheld.settled, hphase⟩⟩
    · rw [← List.append_assoc, rockivaPhase_concat rfl]
      exact hphase
    · rw [← List.append_assoc, lifeUses_concat rfl]
      exact hheld

theorem lifeRun_inv (moves : List LifeMove) : LifeInv (lifeRun moves) :=
  run_induction lifeStep lifeInv_start fun _ move _ hi => (lifeStep_inv move hi).1

/-- **A detector lives in order**, whatever is called, whatever fails and whenever RockIVA calls back: RockIVA gets its
calls in order, DMA memory comes and goes only while it is off; what is pushed and touched has its memory; what is held
is what the detector holds, and nothing is left to be released or freed after a creation that fails and after a
destruction; and the slots of a detector are those of the slot protocol. A release that reports a failure counts as
made. -/
theorem lifeRun_orderly (moves : List LifeMove) :
    (rockivaPhase (lifeRun moves).events).isSome = true ∧
    Holds (lifeUses (lifeRun moves).events) (lifeHeld (lifeRun moves).state) ∧
    Monitored LifeOk (lifeRun moves).events ∧
    ∀ l, (lifeRun moves).state = some l → Lived l (currentSlots (lifeRun moves).events) := by
  have hinv := lifeRun_inv moves
  refine ⟨by rw [hinv.phase]; rfl, hinv.held, ?_, hinv.lived⟩
  exact run_monitored lifeStep lifeInv_start fun _ move _ hi => lifeStep_inv move hi

/-! ## Submissions -/

/-- A submission has begun and not returned. -/
def Submitting (slots : List SlotEvent) : Prop :=
  Since (fun e => ∃ i x, e = .reserved i x) (fun e => ∃ ret, e = .returned ret) slots

theorem not_submitting_nil : ¬Submitting [] := not_since_nil

/-- **A submission** goes on, or returns. -/
theorem step_submits {s : System} {move : Move}
    (hmove : (∃ call, move = .submit call) ∧ s.submitter = .idle ∨
      (∃ accepts, move = .proceed accepts) ∧ s.submitter ≠ .idle) :
    ((step move s).1.submitter = .idle ∧ ∃ ret, .returned ret ∈ (step move s).2) ∨
      (step move s).1.submitter ≠ .idle ∧ ∀ ret, .returned ret ∉ (step move s).2 := by
  rcases hmove with ⟨⟨call, rfl⟩, hidle⟩ | ⟨⟨accepts, rfl⟩, hbusy⟩
  · simp only [step, if_pos hidle]
    have hsubmitted := submitCalled_submitted call s
    generalize submitCalled call s = r at hsubmitted ⊢
    cases hsubmitted with
    | refused => exact .inl ⟨hidle, -1, by simp⟩
    | busy => exact .inl ⟨hidle, 1, by simp⟩
    | reserved => exact .inr ⟨by simp, by simp⟩
  · simp only [step]
    unfold submitProceeds
    cases hpc : s.submitter with
    | idle => exact absurd hpc hbusy
    | copying i x nv12 => exact .inr ⟨by simp, by simp⟩
    | pushing i x =>
      cases accepts with
      | true => exact .inr ⟨by simp, by simp⟩
      | false => exact .inr ⟨by simp, by simp⟩
    | accepted => exact .inl ⟨rfl, 0, by simp⟩
    | rejected i x => exact .inl ⟨rfl, -1, by simp⟩

/-- A step of RockIVA or of the end leaves the submission alone. -/
theorem step_callback {s : System} {move : Move} (hmove : (∀ call, move ≠ .submit call) ∧ ∀ b, move ≠ .proceed b) :
    (step move s).1.submitter = s.submitter ∧ ∀ e ∈ (step move s).2, ∃ x freed, e = .released x freed := by
  cases move with
  | submit call => exact absurd rfl (hmove.1 call)
  | proceed accepts => exact absurd rfl (hmove.2 accepts)
  | release frames =>
    refine ⟨rfl, ?_⟩
    simp only [step]
    generalize frames.getD [] = frames
    generalize s.detector = detector
    induction frames generalizing detector with
    | nil => simp [frameReleaseCallback]
    | cons y frames ih =>
      intro e he
      rw [frameReleaseCallback] at he
      rcases List.mem_cons.mp he with rfl | he
      · exact ⟨_, _, rfl⟩
      · exact ih _ e he
  | result success result callbackMs => exact ⟨rfl, by simp [step]⟩
  | countResult i =>
    simp only [step]
    split
    · exact ⟨rfl, by simp⟩
    · exact ⟨rfl, by simp⟩
  | shutDown => exact ⟨rfl, by simp [step]⟩

/-- The events of a step that neither begins nor ends a submission. -/
theorem submitting_append {slots es : List SlotEvent}
    (h : ∀ e ∈ es, (∀ i x, e ≠ .reserved i x) ∧ ∀ ret, e ≠ .returned ret) :
    Submitting (slots ++ es) ↔ Submitting slots :=
  since_append fun e he => by
    obtain ⟨hreserved, hreturned⟩ := h e he
    exact ⟨fun ⟨i, x, heq⟩ => hreserved i x heq, fun ⟨ret, heq⟩ => hreturned ret heq⟩

theorem not_submitting_returned {slots es : List SlotEvent} (hreserved : ∀ i x, .reserved i x ∉ es) {ret : Int}
    (hreturned : .returned ret ∈ es) : ¬Submitting (slots ++ es) :=
  not_since_append (fun _ he ⟨i, x, heq⟩ => hreserved i x (heq ▸ he)) ⟨_, hreturned, ret, rfl⟩

/-- **The submitting thread** is busy exactly between its reservation and its return. -/
theorem step_submitting {s : System} {slots : List SlotEvent} (h : Submitting slots ↔ s.submitter ≠ .idle)
    (move : Move) : Submitting (slots ++ (step move s).2) ↔ (step move s).1.submitter ≠ .idle := by
  by_cases hmove : (∀ call, move ≠ .submit call) ∧ ∀ b, move ≠ .proceed b
  · obtain ⟨hsame, hevents⟩ := step_callback (s := s) hmove
    rw [hsame, ← h]
    apply submitting_append
    intro e he
    obtain ⟨x, freed, rfl⟩ := hevents e he
    simp
  · cases move with
    | submit call =>
      simp only [step]
      split
      · rename_i hidle
        have hreturned : ∀ ret, Submitting (slots ++ [.returned ret]) ↔ s.submitter ≠ .idle := fun ret =>
          iff_of_false (not_submitting_returned (by simp) List.mem_cons_self) (by simp [hidle])
        have hsubmitted := submitCalled_submitted call s
        generalize submitCalled call s = r at hsubmitted ⊢
        cases hsubmitted with
        | refused => exact hreturned (-1)
        | busy => exact hreturned 1
        | reserved => exact iff_of_true (since_concat.mpr (.inl ⟨_, _, rfl⟩)) (by simp)
      · rw [List.append_nil]
        exact h
    | proceed accepts =>
      simp only [step]
      unfold submitProceeds
      cases hpc : s.submitter with
      | idle =>
        rw [List.append_nil, h, hpc]
      | copying i x nv12 =>
        rw [List.append_nil, h, hpc]
        simp
      | pushing i x =>
        have hbusy : Submitting slots := h.mpr (by rw [hpc]; simp)
        cases accepts with
        | true => exact iff_of_true ((submitting_append (by simp)).mpr hbusy) (by simp)
        | false =>
          simp only [Bool.false_eq_true, if_false, List.append_nil]
          exact iff_of_true hbusy (by simp)
      | accepted => exact iff_of_false (not_submitting_returned (by simp) List.mem_cons_self) (by simp)
      | rejected i x =>
        have hreturned : .returned (-1) ∈ [SlotEvent.undone i, .returned (-1)] := by simp
        exact iff_of_false (not_submitting_returned (by simp) hreturned) (by simp)
    | _ => exact absurd ⟨by simp, by simp⟩ hmove

/-- A submission goes on exactly while a detector's submitting thread is busy. -/
def SubmitOk (h : History (Option Living) LifeEvent) : Prop :=
  Submitting (currentSlots h.events) ↔ ∃ l, h.state = some l ∧ l.system.submitter ≠ .idle

theorem lifeStep_submitting (move : LifeMove) (hi : LifeInv h) (hs : SubmitOk h) :
    SubmitOk (advance lifeStep h move) := by
  have hsome : ∀ l, h.state = some l → (Submitting (currentSlots h.events) ↔ l.system.submitter ≠ .idle) := by
    intro l hl
    unfold SubmitOk at hs
    rw [hs, hl]
    simp
  unfold advance
  have hcase := lifeStep_cases move h.state
  generalize hl : h.state = l at hcase
  generalize lifeStep move l = r at hcase ⊢
  obtain ⟨l', events⟩ := r
  dsimp only at hcase ⊢
  cases hcase with
  | nothing =>
    rw [List.append_nil, ← hl]
    exact hs
  | failed es hes =>
    rw [SubmitOk, hl] at hs
    rw [SubmitOk, ← List.append_assoc, currentSlots_concat, currentSlots_plain hes.plain]
    exact hs
  | created config answers detector es hcreate hes =>
    rw [SubmitOk, ← List.append_assoc, currentSlots_concat]
    exact iff_of_false not_submitting_nil (by simp [System.start])
  | slot l move hpermits =>
    rw [SubmitOk, currentSlots_push, step_submitting (hsome l hl) move]
    simp
  | shuts l howner hidle =>
    rw [SubmitOk, List.append_nil, hsome l hl]
    simp [step]
  | calls l owner _ hidle hes howner =>
    rw [SubmitOk, currentSlots_plain hes.plain, hsome l hl]
    simp
  | returns l owner es ret hidle hes hret =>
    rw [SubmitOk, ← List.append_assoc, currentSlots_concat, currentSlots_plain hes.plain, hsome l hl]
    simp
  | stops l howner ok =>
    rw [SubmitOk, currentSlots_concat, hsome l hl]
    simp
  | frees l howner freeMem =>
    have hidle := (hi.lived l hl).idle (by simp [howner])
    rw [SubmitOk, ← List.append_assoc, currentSlots_concat, currentSlots_plain (freeDetector_brings _ _).plain,
      hsome l hl]
    simp [hidle]

theorem lifeRun_submitting (moves : List LifeMove) : SubmitOk (lifeRun moves) := by
  have hboth : LifeInv (lifeRun moves) ∧ SubmitOk (lifeRun moves) :=
    run_induction lifeStep (P := fun h => LifeInv h ∧ SubmitOk h)
      ⟨lifeInv_start, iff_of_false not_submitting_nil (by simp)⟩
      fun _ move _ h => ⟨(lifeStep_inv move h.1).1, lifeStep_submitting move h.1 h.2⟩
  exact hboth.2

end MiniRtsp.Detector
