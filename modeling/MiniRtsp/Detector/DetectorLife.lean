import MiniRtsp.Detector.SlotInvariant
import MiniRtsp.Lib.Conduct

/-!
# The life of a detector

`live_person_detector_create`, `live_person_detector_wait_idle` and `live_person_detector_destroy` around the slots of
`SlotProtocol`, with every call of RockIVA. One thread owns the detector and makes these calls one after the other;
RockIVA calls back at any time from the end of a creation, before which it has no frame, to the end of
`ROCKIVA_Release`. DMA memory comes and goes only while RockIVA is off (`RockivaPhase.next`), whatever fails
(`lifeRun_orderly`), and a wait that succeeds leaves nothing with RockIVA (`lifeRun_quiet`).

A call that releases or frees counts as made when it reports a failure, as the code goes on then. What RockIVA still
holds behind such a call is not said, and it is taken to call back no more behind `ROCKIVA_Release`.
-/

namespace MiniRtsp.Detector

open Event Ledger Trace Wire

/-! ## The calls of RockIVA -/

inductive RockivaCall where
  | allocMem (slot : Nat) (ok : Bool)
  | init (ok : Bool)
  | setFrameReleaseCallback (ok : Bool)
  | detectInit (ok : Bool)
  | pushFrame (slot : Nat) (frameId : UInt32) (ok : Bool)
  | waitFinish (ok : Bool)
  | detectRelease (ok : Bool)
  | release (ok : Bool)
  | freeMem (slot : Nat) (ok : Bool)
  deriving DecidableEq, Repr

inductive RockivaPhase where
  | off
  | initialized
  /-- The frame release callback is set. -/
  | announced
  | detecting
  deriving DecidableEq, Repr

/-- How far a call brings the life cycle of RockIVA; `none` where it is out of place. A release that reports a failure
counts as made. -/
def RockivaPhase.next : RockivaPhase → RockivaCall → Option RockivaPhase
  | .off, .allocMem _ _ | .off, .freeMem _ _ => some .off
  | .off, .init ok => some (if ok then .initialized else .off)
  | .initialized, .setFrameReleaseCallback ok => some (if ok then .announced else .initialized)
  | .announced, .detectInit ok => some (if ok then .detecting else .announced)
  | .detecting, .pushFrame _ _ _ | .detecting, .waitFinish _ => some .detecting
  | .detecting, .detectRelease _ => some .announced
  | .initialized, .release _ | .announced, .release _ => some .off
  | _, _ => none

inductive DetectorResource where
  | detector
  | mutex
  | condition
  | dma (slot : Nat)
  deriving DecidableEq, Repr

inductive LifeEvent where
  | use (u : Use DetectorResource)
  | rockiva (call : RockivaCall)
  | slot (e : SlotEvent)
  | created (ret : Int)
  /-- `live_person_detector_wait_idle` returns. -/
  | waited (ret : Int)
  | destroyed
  deriving DecidableEq, Repr

/-! ## The DMA slots -/

/-- What `ROCKIVA_IMAGE_AllocMem` gives for a slot. -/
inductive DmaAnswer where
  | refused
  /-- Memory without an address, or without a descriptor. -/
  | unusable
  | usable (memory : Bytes)

/-- `allocate_dma_slots` from slot `i` on: which slots are then marked as allocated, and whether it returns 0. -/
def allocateDmaSlots (dma : Nat → DmaAnswer) : (todo i : Nat) → List LifeEvent × List Bool × Bool
  | 0, _ => ([], [], true)
  | todo + 1, i =>
    match dma i with
    | .refused => ([.rockiva (.allocMem i false)], List.replicate (todo + 1) false, false)
    | .unusable =>
      ([.rockiva (.allocMem i true), .use (.acquire (.dma i))], true :: List.replicate todo false, false)
    | .usable _ =>
      let (events, allocated, ok) := allocateDmaSlots dma todo (i + 1)
      (.rockiva (.allocMem i true) :: .use (.acquire (.dma i)) :: events, true :: allocated, ok)

/-- `free_dma_slots` from slot `i` on. -/
def freeDmaSlots (freeMem : Nat → Bool) (i : Nat) : List Bool → List LifeEvent
  | [] => []
  | true :: allocated =>
    .rockiva (.freeMem i (freeMem i)) :: .use (.release (.dma i)) :: freeDmaSlots freeMem (i + 1) allocated
  | false :: allocated => freeDmaSlots freeMem (i + 1) allocated

/-! ## Creation -/

/-- What the calls of `cleanup_detector` report. -/
structure CleanupAnswers where
  detectRelease : Bool
  release : Bool
  freeMem : Nat → Bool

/-- The end of `cleanup_detector`, and the `free` behind it. -/
def freeDetector (freeMem : Nat → Bool) (allocated : List Bool) : List LifeEvent :=
  freeDmaSlots freeMem 0 allocated ++
    [.use (.release .condition), .use (.release .mutex), .use (.release .detector)]

/-- `cleanup_detector` and `free` in a creation that fails behind `pthread_cond_init`. -/
def cleanupDetector (cleanup : CleanupAnswers) (globalInitialized : Bool) (allocated : List Bool) : List LifeEvent :=
  (if globalInitialized then [.rockiva (.release cleanup.release)] else []) ++
    freeDetector cleanup.freeMem allocated

/-- The answers about the slots, seen by `livePersonDetectorCreate`. -/
def CreateAnswers.withDma (answers : CreateAnswers) (dma : Nat → DmaAnswer) (slotCount : Nat) : CreateAnswers :=
  { answers with
    allocDmaSlots := (allocateDmaSlots dma slotCount 0).2.2
    memory := fun i => match dma i with
      | .usable memory => memory
      | _ => [] }

/-- The calls of `live_person_detector_create` behind `pthread_cond_init`. -/
def createCalls (answers : CreateAnswers) (cleanup : CleanupAnswers) (allocated : List Bool) : List LifeEvent :=
  if !answers.allocDmaSlots || !answers.modelDirFits then cleanupDetector cleanup false allocated
  else if !answers.rockivaInit then .rockiva (.init false) :: cleanupDetector cleanup false allocated
  else if !answers.setFrameReleaseCallback then
    .rockiva (.init true) :: .rockiva (.setFrameReleaseCallback false) :: cleanupDetector cleanup true allocated
  else if !answers.detectInit then
    .rockiva (.init true) :: .rockiva (.setFrameReleaseCallback true) :: .rockiva (.detectInit false) ::
      cleanupDetector cleanup true allocated
  else [.rockiva (.init true), .rockiva (.setFrameReleaseCallback true), .rockiva (.detectInit true)]

/-- What `live_person_detector_create` takes and calls. -/
def createEvents (config : LivePersonDetectorConfig) (answers : CreateAnswers) (dma : Nat → DmaAnswer)
    (cleanup : CleanupAnswers) : List LifeEvent :=
  let pixels := config.width.toNat * config.height.toNat
  if configIsInvalid config || !answers.modelFilePath then []
  else if pixels + pixels / 2 > 4294967295 || !answers.calloc then []
  else if (personEventInit (some (freshTracker ⟨0, 0, 0⟩)) (some personEventDefaultConfig)).1 ≠ 0 ∨
      !answers.mutexInit then
    [.use (.acquire .detector), .use (.release .detector)]
  else if !answers.condInit then
    [.use (.acquire .detector), .use (.acquire .mutex), .use (.release .mutex), .use (.release .detector)]
  else
    let (allocations, allocated, _) := allocateDmaSlots dma config.bufferCount.toNat 0
    [.use (.acquire .detector), .use (.acquire .mutex), .use (.acquire .condition)] ++ allocations ++
      createCalls (answers.withDma dma config.bufferCount.toNat) cleanup allocated

/-! ## The owner -/

/-- `struct timespec`. -/
structure Timespec where
  sec : Int
  nsec : Int
  deriving DecidableEq, Repr

/-- `make_deadline`; `now` is what `clock_gettime` stores, if it succeeds. -/
def makeDeadline (now : Option Timespec) (timeoutMs : Int) : Option Timespec :=
  match now with
  | none => none
  | some now =>
    if timeoutMs ≤ 0 then none
    else
      let nanoseconds := now.nsec + timeoutMs.tmod 1000 * 1000000
      some ⟨now.sec + timeoutMs.tdiv 1000 + nanoseconds.tdiv 1000000000, nanoseconds.tmod 1000000000⟩

/-- Where the owner of a detector is. -/
inductive Owner where
  /-- Outside of the calls of this module; a submission may go on. -/
  | ready
  /-- In `ROCKIVA_WaitFinish`. -/
  | finishing (timeoutMs : Int) (destroying : Bool)
  /-- At the head of the loop of `live_person_detector_wait_idle`. -/
  | waiting (waitRet : Int) (deadline : Timespec) (destroying : Bool)
  | releasingDetect
  | releasing
  /-- RockIVA is off, and its memory is about to be freed. -/
  | freeing
  deriving DecidableEq, Repr

/-- A detector that has been created, with the marks of its slots. -/
structure Living where
  system : System
  allocated : List Bool
  owner : Owner

/-- What a call of the owner meets: whether the RockIVA call succeeds, what `clock_gettime` stores, what
`pthread_cond_timedwait` returns, and whether each slot is freed. -/
structure OwnerAnswers where
  ok : Bool
  now : Option Timespec
  waitRet : Int
  freeMem : Nat → Bool

inductive LifeMove where
  | create (config : Option LivePersonDetectorConfig) (answers : CreateAnswers) (dma : Nat → DmaAnswer)
      (cleanup : CleanupAnswers)
  /-- A submission of the owner, or a callback. -/
  | slot (move : Move)
  | waitIdle (timeoutMs : Int)
  | destroy
  /-- The call in which the owner is goes on. -/
  | goOn (answers : OwnerAnswers)

/-- The moves that are possible: the owner submits outside of its other calls, RockIVA calls back until `ROCKIVA_Release`
has returned, whatever this returns. -/
def Owner.permits : Owner → Move → Bool
  | .freeing, _ | _, .shutDown => false
  | .ready, _ => true
  | _, .submit _ | _, .proceed _ => false
  | _, _ => true

/-- `ROCKIVA_PushFrame`, if the submitting thread is there. -/
def pushCall (s : System) : Move → List LifeEvent
  | .proceed accepts =>
    match s.submitter with
    | .pushing i _ => [.rockiva (.pushFrame i (s.detector.imageFrameId i) accepts)]
    | _ => []
  | _ => []

/-- `all_slots_idle`. -/
def allSlotsIdle (detector : LivePersonDetector) : Bool := detector.slots.all fun slot => !slot.inUse

/-- `live_person_detector_wait_idle` returns, to its caller or to `live_person_detector_destroy`. -/
def Living.waitReturns (l : Living) (ret : Int) (destroying : Bool) : Option Living × List LifeEvent :=
  (some { l with owner := if destroying then .releasingDetect else .ready }, [.waited ret])

/-- The owner goes on with its call. -/
def ownerStep (answers : OwnerAnswers) (l : Living) : Option Living × List LifeEvent :=
  match l.owner with
  | .ready => (some l, [])
  | .finishing timeoutMs destroying =>
    let called : List LifeEvent := [.rockiva (.waitFinish answers.ok)]
    match answers.ok, makeDeadline answers.now timeoutMs with
    | true, some deadline => (some { l with owner := .waiting 0 deadline destroying }, called)
    | _, _ =>
      let (l, events) := l.waitReturns (-1) destroying
      (l, called ++ events)
  | .waiting waitRet deadline destroying =>
    if allSlotsIdle l.system.detector then l.waitReturns 0 destroying
    else if waitRet ≠ 0 then l.waitReturns (-1) destroying
    else (some { l with owner := .waiting answers.waitRet deadline destroying }, [])
  | .releasingDetect => (some { l with owner := .releasing }, [.rockiva (.detectRelease answers.ok)])
  | .releasing => (some { l with owner := .freeing }, [.rockiva (.release answers.ok)])
  | .freeing => (none, freeDetector answers.freeMem l.allocated ++ [.destroyed])

/-- A step of the owner or of RockIVA. There is one detector at a time. -/
def lifeStep : LifeMove → Option Living → Option Living × List LifeEvent
  | .create none _ _ _, none => (none, [.created (-1)])
  | .create (some config) answers dma cleanup, none =>
    let events := createEvents config answers dma cleanup
    match livePersonDetectorCreate config (answers.withDma dma config.bufferCount.toNat) with
    | none => (none, events ++ [.created (-1)])
    | some detector =>
      (some ⟨.start detector, (allocateDmaSlots dma config.bufferCount.toNat 0).2.1, .ready⟩, events ++ [.created 0])
  | .slot move, some l =>
    if l.owner.permits move then
      (some { l with system := (step move l.system).1 },
        pushCall l.system move ++ (step move l.system).2.map .slot)
    else (some l, [])
  | .waitIdle timeoutMs, some l =>
    if l.owner = .ready ∧ l.system.submitter = .idle then
      if timeoutMs ≤ 0 then (some l, [.waited (-1)]) else (some { l with owner := .finishing timeoutMs false }, [])
    else (some l, [])
  | .destroy, some l =>
    if l.owner = .ready ∧ l.system.submitter = .idle then
      (some { l with system := (step .shutDown l.system).1, owner := .finishing 5000 true }, [])
    else (some l, [])
  | .goOn answers, some l => ownerStep answers l
  | _, l => (l, [])

def lifeRun (moves : List LifeMove) : History (Option Living) LifeEvent := run lifeStep none moves

/-! ## What the events say -/

def rockivaCalls (events : List LifeEvent) : List RockivaCall :=
  events.filterMap fun e => match e with
    | .rockiva call => some call
    | _ => none

/-- How far RockIVA has come; `none` if a call was out of place. -/
def rockivaPhase (events : List LifeEvent) : Option RockivaPhase :=
  (rockivaCalls events).foldlM RockivaPhase.next .off

/-- What was allocated and freed. -/
def lifeUses (events : List LifeEvent) : List (Use DetectorResource) :=
  events.filterMap fun e => match e with
    | .use u => some u
    | _ => none

/-- The resource has been taken, and not been given back. -/
def Has (events : List LifeEvent) (r : DetectorResource) : Prop :=
  (lifeUses events).count (.release r) < (lifeUses events).count (.acquire r)

/-- What happens to the slots of a detector since its creation. -/
def currentSlots (events : List LifeEvent) : List SlotEvent :=
  events.foldl (fun slots e => match e with
    | .created 0 => []
    | .slot e => slots ++ [e]
    | _ => slots) []

/-- The slot to which something happens. -/
def SlotEvent.place : SlotEvent → Option Nat
  | .reserved i _ | .accepted i _ | .undone i => some i
  | .released _ freed => freed
  | .returned _ => none

/-- A frame is pushed, and a slot is touched, only while its memory is there; a creation that fails and a destruction
leave nothing behind. -/
def LifeOk (before : List LifeEvent) : LifeEvent → Prop
  | .rockiva (.pushFrame i _ _) => Has before (.dma i)
  | .slot e => Has before .mutex ∧ Has before .condition ∧ ∀ i, e.place = some i → Has before (.dma i)
  | .created ret => ret = 0 ∨ Settled (lifeUses before) ∧ rockivaPhase before = some .off
  | .destroyed => Settled (lifeUses before) ∧ rockivaPhase before = some .off
  | _ => True

theorem lifeUses_append (es fs : List LifeEvent) : lifeUses (es ++ fs) = lifeUses es ++ lifeUses fs :=
  List.filterMap_append

theorem rockivaPhase_append (es fs : List LifeEvent) :
    rockivaPhase (es ++ fs) = (rockivaPhase es).bind fun p => (rockivaCalls fs).foldlM RockivaPhase.next p := by
  simp [rockivaPhase, rockivaCalls, List.filterMap_append, List.foldlM_append]

theorem currentSlots_concat (es : List LifeEvent) (e : LifeEvent) :
    currentSlots (es ++ [e]) = match e with
      | .created 0 => []
      | .slot e => currentSlots es ++ [e]
      | _ => currentSlots es := by
  rw [currentSlots, List.foldl_append]
  rfl

/-! ## What taking and calling comes to -/

/-- A use of a resource, or a call of RockIVA that concerns no frame. -/
def LifeEvent.Plain : LifeEvent → Prop
  | .use _ => True
  | .rockiva (.pushFrame _ _ _) | .rockiva (.detectRelease _) => False
  | .rockiva _ => True
  | _ => False

def lifeView : Conduct.View LifeEvent RockivaCall DetectorResource where
  call e := match e with
    | .rockiva call => some call
    | _ => none
  use e := match e with
    | .use u => some u
    | _ => none

/-- The events bring RockIVA from one phase to another, and the holdings from `m` to `m'`. -/
structure Brings (events : List LifeEvent) (p p' : RockivaPhase) (m m' : Multiset DetectorResource) : Prop where
  plain : ∀ e ∈ events, e.Plain
  conduct : Conduct.Brings lifeView RockivaPhase.next events p p' m m'

section Brings

variable {es fs : List LifeEvent} {p p' p'' : RockivaPhase} {m m' m'' : Multiset DetectorResource}

theorem Brings.append (h : Brings es p p' m m') (h' : Brings fs p' p'' m' m'') : Brings (es ++ fs) p p'' m m'' := by
  refine ⟨fun e he => ?_, h.conduct.append h'.conduct⟩
  rcases List.mem_append.mp he with he | he
  · exact h.plain e he
  · exact h'.plain e he

theorem Brings.phase (h : Brings es p p' m m') : (rockivaCalls es).foldlM RockivaPhase.next p = some p' :=
  h.conduct.phase

theorem Brings.uses (h : Brings es p p' m m') : Moves (lifeUses es) m m' := h.conduct.uses

theorem brings_nil : Brings [] p p m m := ⟨by simp, Conduct.brings_nil⟩

theorem brings_call {call : RockivaCall} (hplain : (LifeEvent.rockiva call).Plain) (hnext : p.next call = some p')
    (h : Brings es p' p'' m m') : Brings (.rockiva call :: es) p p'' m m' :=
  ⟨List.forall_mem_cons.mpr ⟨hplain, h.plain⟩, h.conduct.called rfl rfl hnext⟩

theorem brings_acquire {r : DetectorResource} (h : Brings es p p' (r ::ₘ m) m') :
    Brings (.use (.acquire r) :: es) p p' m m' :=
  ⟨List.forall_mem_cons.mpr ⟨trivial, h.plain⟩, h.conduct.acquired rfl rfl⟩

theorem brings_release {r : DetectorResource} (h : Brings es p p' m m') :
    Brings (.use (.release r) :: es) p p' (r ::ₘ m) m' :=
  ⟨List.forall_mem_cons.mpr ⟨trivial, h.plain⟩, h.conduct.released rfl rfl⟩

end Brings

/-- The memory of the slots from `i` on that are marked as allocated. -/
def dmaHeld (i : Nat) : List Bool → Multiset DetectorResource
  | [] => 0
  | true :: allocated => .dma i ::ₘ dmaHeld (i + 1) allocated
  | false :: allocated => dmaHeld (i + 1) allocated

/-- What a detector holds whose slots are marked so. -/
def detectorHeld (allocated : List Bool) : Multiset DetectorResource :=
  dmaHeld 0 allocated + (.condition ::ₘ .mutex ::ₘ {.detector})

theorem dmaHeld_none (i n : Nat) : dmaHeld i (List.replicate n false) = 0 := by
  induction n generalizing i with
  | zero => rfl
  | succ n ih => exact ih (i + 1)

theorem mem_dmaHeld {i n j : Nat} (h : j < n) : .dma (i + j) ∈ dmaHeld i (List.replicate n true) := by
  induction n generalizing i j with
  | zero => simp at h
  | succ n ih =>
    rw [List.replicate_succ, dmaHeld, Multiset.mem_cons]
    cases j with
    | zero => exact .inl rfl
    | succ j =>
      right
      rw [show i + (j + 1) = i + 1 + j by omega]
      exact ih (by omega)

/-- **The marks** say which slots have memory, also where an allocation fails on the way. -/
theorem allocateDmaSlots_brings (dma : Nat → DmaAnswer) (todo i : Nat) (m : Multiset DetectorResource) :
    Brings (allocateDmaSlots dma todo i).1 .off .off m (dmaHeld i (allocateDmaSlots dma todo i).2.1 + m) := by
  induction todo generalizing i m with
  | zero =>
    rw [allocateDmaSlots, dmaHeld, Multiset.zero_add]
    exact brings_nil
  | succ todo ih =>
    rw [allocateDmaSlots]
    split
    · rw [dmaHeld_none, Multiset.zero_add]
      exact brings_call trivial rfl brings_nil
    · rw [dmaHeld, dmaHeld_none, Multiset.cons_add, Multiset.zero_add]
      exact brings_call trivial rfl (brings_acquire brings_nil)
    · rw [dmaHeld, Multiset.cons_add, ← Multiset.add_cons]
      exact brings_call trivial rfl (brings_acquire (ih (i + 1) _))

/-- An allocation that returns 0 has allocated every slot. -/
theorem allocateDmaSlots_all {dma : Nat → DmaAnswer} {todo i : Nat} (h : (allocateDmaSlots dma todo i).2.2 = true) :
    (allocateDmaSlots dma todo i).2.1 = List.replicate todo true := by
  induction todo generalizing i with
  | zero => rfl
  | succ todo ih =>
    rw [allocateDmaSlots] at h ⊢
    split at h
    · cases h
    · cases h
    · exact congrArg (true :: ·) (ih h)

theorem freeDmaSlots_brings (freeMem : Nat → Bool) (i : Nat) (allocated : List Bool) (m : Multiset DetectorResource) :
    Brings (freeDmaSlots freeMem i allocated) .off .off (dmaHeld i allocated + m) m := by
  induction allocated generalizing i with
  | nil =>
    rw [freeDmaSlots, dmaHeld, Multiset.zero_add]
    exact brings_nil
  | cons mark allocated ih =>
    cases mark with
    | true =>
      rw [freeDmaSlots, dmaHeld, Multiset.cons_add]
      exact brings_call trivial rfl (brings_release (ih (i + 1)))
    | false => exact ih (i + 1)

theorem freeDetector_brings (freeMem : Nat → Bool) (allocated : List Bool) :
    Brings (freeDetector freeMem allocated) .off .off (detectorHeld allocated) 0 :=
  (freeDmaSlots_brings freeMem 0 allocated _).append (brings_release (brings_release (brings_release brings_nil)))

/-- `ROCKIVA_Release` comes before the memory is freed, and only if RockIVA is on. -/
theorem cleanupDetector_brings (cleanup : CleanupAnswers) {globalInitialized : Bool} (allocated : List Bool)
    {p : RockivaPhase} (hp : if globalInitialized then p = .initialized ∨ p = .announced else p = .off) :
    Brings (cleanupDetector cleanup globalInitialized allocated) p .off (detectorHeld allocated) 0 := by
  unfold cleanupDetector
  cases globalInitialized with
  | false =>
    obtain rfl : p = .off := hp
    exact freeDetector_brings cleanup.freeMem allocated
  | true =>
    have hnext : p.next (.release cleanup.release) = some .off := by
      rcases hp with rfl | rfl <;> rfl
    exact brings_call trivial hnext (freeDetector_brings cleanup.freeMem allocated)

/-- The calls of a creation that succeeds behind `pthread_cond_init`. -/
def CreateAnswers.complete (answers : CreateAnswers) : Bool :=
  answers.allocDmaSlots && answers.modelDirFits && answers.rockivaInit && answers.setFrameReleaseCallback &&
    answers.detectInit

/-- **A creation** ends with RockIVA detecting, or off with everything given back. -/
theorem createCalls_brings (answers : CreateAnswers) (cleanup : CleanupAnswers) (allocated : List Bool) :
    Brings (createCalls answers cleanup allocated) .off (if answers.complete then .detecting else .off)
      (detectorHeld allocated) (if answers.complete then detectorHeld allocated else 0) := by
  unfold createCalls CreateAnswers.complete
  cases answers.allocDmaSlots with
  | false => exact cleanupDetector_brings cleanup allocated rfl
  | true =>
    cases answers.modelDirFits with
    | false => exact cleanupDetector_brings cleanup allocated rfl
    | true =>
      cases answers.rockivaInit with
      | false => exact brings_call trivial rfl (cleanupDetector_brings cleanup allocated rfl)
      | true =>
        cases answers.setFrameReleaseCallback with
        | false =>
          exact brings_call trivial rfl (brings_call trivial rfl (cleanupDetector_brings cleanup allocated (.inl rfl)))
        | true =>
          cases answers.detectInit with
          | false =>
            exact brings_call trivial rfl (brings_call trivial rfl (brings_call trivial rfl
              (cleanupDetector_brings cleanup allocated (.inr rfl))))
          | true => exact brings_call trivial rfl (brings_call trivial rfl (brings_call trivial rfl brings_nil))

/-- The tests before the first call that takes something. -/
def creationStarts (config : LivePersonDetectorConfig) (answers : CreateAnswers) : Bool :=
  let pixels := config.width.toNat * config.height.toNat
  !(configIsInvalid config || !answers.modelFilePath) && !(pixels + pixels / 2 > 4294967295 || !answers.calloc)

theorem livePersonDetectorCreate_isSome (config : LivePersonDetectorConfig) (answers : CreateAnswers) :
    (livePersonDetectorCreate config answers).isSome =
      (creationStarts config answers && answers.mutexInit && answers.condInit && answers.complete) := by
  have hinit : personEventInit (some (freshTracker ⟨0, 0, 0⟩)) (some personEventDefaultConfig) =
    (0, some (freshTracker personEventDefaultConfig)) := rfl
  have hsome : ∀ (b : Bool) (detector : LivePersonDetector), (if b then none else some detector).isSome = !b := by
    intro b detector
    cases b <;> rfl
  unfold livePersonDetectorCreate creationStarts CreateAnswers.complete
  rw [hinit]
  dsimp only
  cases hinvalid : configIsInvalid config || !answers.modelFilePath with
  | true => rfl
  | false =>
    rw [if_neg Bool.false_ne_true]
    cases hrefused : decide (config.width.toNat * config.height.toNat + config.width.toNat * config.height.toNat / 2 >
        4294967295) || !answers.calloc with
    | true => rfl
    | false =>
      rw [if_neg Bool.false_ne_true]
      refine (hsome _ _).trans ?_
      simp [Bool.not_or, Bool.and_assoc]

/-- What `live_person_detector_create` calls and what it returns fit together. -/
theorem createEvents_brings (config : LivePersonDetectorConfig) (answers : CreateAnswers) (dma : Nat → DmaAnswer)
    (cleanup : CleanupAnswers) :
    let created := (livePersonDetectorCreate config (answers.withDma dma config.bufferCount.toNat)).isSome
    let allocated := (allocateDmaSlots dma config.bufferCount.toNat 0).2.1
    Brings (createEvents config answers dma cleanup) .off (if created then .detecting else .off) 0
      (if created then detectorHeld allocated else 0) := by
  intro created allocated
  have hinit : (personEventInit (some (freshTracker ⟨0, 0, 0⟩)) (some personEventDefaultConfig)).1 = 0 := rfl
  unfold created createEvents
  rw [livePersonDetectorCreate_isSome]
  simp only [creationStarts, CreateAnswers.withDma, hinit]
  split
  · rename_i hinvalid
    simpa [hinvalid] using brings_nil
  · rename_i hvalid
    split
    · rename_i hrefused
      simpa [hrefused] using brings_nil
    · rename_i hstarts
      simp only [hvalid, hstarts]
      cases answers.mutexInit with
      | false => exact brings_acquire (brings_release brings_nil)
      | true =>
        cases answers.condInit with
        | false => exact brings_acquire (brings_acquire (brings_release (brings_release brings_nil)))
        | true =>
          have htaken : Brings ([.use (.acquire .detector), .use (.acquire .mutex), .use (.acquire .condition)] ++
              (allocateDmaSlots dma config.bufferCount.toNat 0).1) .off .off 0 (detectorHeld allocated) :=
            (brings_acquire (brings_acquire (brings_acquire brings_nil))).append (allocateDmaSlots_brings _ _ _ _)
          exact htaken.append (createCalls_brings _ cleanup allocated)

end MiniRtsp.Detector
