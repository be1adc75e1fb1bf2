import MiniRtsp.Detector.Slots
import MiniRtsp.Lib.Ledger
import MiniRtsp.Lib.Tenancy

/-!
# The slots of the detector

One thread submits frames; RockIVA takes a pushed frame or refuses it, and calls the result and release callbacks
whenever it likes, also before `ROCKIVA_PushFrame` has returned (`step`). As long as RockIVA gives back only what it has
taken, and that once, and no slot is in use for a whole round of frame ids, every slot in use has a frame id of its own
and every release finds the slot of its frame (`slot_protocol`).
-/

namespace MiniRtsp.Detector

open Event Ledger Trace Wire

/-! ## Threads and events -/

/-- Where the submitting thread is in `live_person_detector_submit`. -/
inductive Submitter where
  | idle
  /-- A slot is reserved, and the `memcpy` into it goes on. -/
  | copying (slot : Nat) (frameId : UInt32) (nv12 : Bytes)
  | pushing (slot : Nat) (frameId : UInt32)
  | accepted
  | rejected (slot : Nat) (frameId : UInt32)
  deriving DecidableEq, Repr

/-- The detector, the submitting thread, and the events that result callbacks have still to count. -/
structure System where
  detector : LivePersonDetector
  submitter : Submitter
  results : List PersonEventType
  deriving DecidableEq, Repr

/-- What happens to slots and frames. -/
inductive SlotEvent where
  | reserved (slot : Nat) (frameId : UInt32)
  | accepted (slot : Nat) (frameId : UInt32)
  | undone (slot : Nat)
  /-- RockIVA releases a frame, and the callback frees a slot. -/
  | released (frameId : UInt32) (freed : Option Nat)
  | returned (ret : Int)
  deriving DecidableEq, Repr

/-- The arguments of a call, and what `monotonic_ms` returns. -/
structure SubmitCall where
  nv12 : Option Bytes
  cameraSequence : UInt32
  cameraTimestampUs : Int
  submitMs : Int

/-- Who moves. -/
inductive Move where
  /-- `live_person_detector_submit` is called. -/
  | submit (call : SubmitCall)
  /-- The call goes on; RockIVA accepts or rejects a frame that is pushed. -/
  | proceed (accepts : Bool)
  | release (frames : Option (List UInt32))
  | result (success : Bool) (result : Option RockIvaDetectResult) (callbackMs : Int)
  /-- The second locked section of a result callback. -/
  | countResult (i : Nat)
  /-- `live_person_detector_destroy` sets `shutting_down`. -/
  | shutDown

/-! ## Steps -/

/-- `live_person_detector_submit` up to the end of its first locked section. -/
def submitCalled (call : SubmitCall) (s : System) : System × List SlotEvent :=
  match call.nv12 with
  | none => (s, [.returned (-1)])
  | some nv12 =>
    if nv12.length < s.detector.frameSize ∨ call.submitMs < 0 then (s, [.returned (-1)])
    else
      let (detector, reservation) := reserve s.detector call.cameraSequence call.cameraTimestampUs call.submitMs
      match reservation with
      | .shuttingDown => (s, [.returned (-1)])
      | .busy => ({ s with detector }, [.returned 1])
      | .reserved i frameId => ({ s with detector, submitter := .copying i frameId nv12 }, [.reserved i frameId])

/-- The submitting thread goes on. -/
def submitProceeds (accepts : Bool) (s : System) : System × List SlotEvent :=
  match s.submitter with
  | .idle => (s, [])
  | .copying i frameId nv12 => ({ s with detector := copyFrame s.detector i nv12, submitter := .pushing i frameId }, [])
  | .pushing i frameId =>
    if accepts then ({ s with submitter := .accepted }, [.accepted i (s.detector.imageFrameId i)])
    else ({ s with submitter := .rejected i frameId }, [])
  | .accepted => ({ s with submitter := .idle }, [.returned 0])
  | .rejected i _ =>
    ({ s with detector := undoReservation s.detector i, submitter := .idle }, [.undone i, .returned (-1)])

/-- The loop of `frame_release_callback`. -/
def frameReleaseCallback : List UInt32 → LivePersonDetector → LivePersonDetector × List SlotEvent
  | [], detector => (detector, [])
  | frameId :: frames, detector =>
    let (detector, freed) := releaseFrame detector frameId
    let (detector, events) := frameReleaseCallback frames detector
    (detector, .released frameId freed :: events)

/-- A step of one of the threads. -/
def step : Move → System → System × List SlotEvent
  | .submit call, s => if s.submitter = .idle then submitCalled call s else (s, [])
  | .proceed accepts, s => submitProceeds accepts s
  | .release frames, s =>
    let (detector, events) := frameReleaseCallback (frames.getD []) s.detector
    ({ s with detector }, events)
  | .result success result callbackMs, s =>
    let (detector, event) := detectResultCallback s.detector success result callbackMs
    ({ s with detector, results := s.results ++ event.toList }, [])
  | .countResult i, s =>
    match s.results[i]? with
    | some event => ({ s with detector := countEvent s.detector event, results := s.results.eraseIdx i }, [])
    | none => (s, [])
  | .shutDown, s => ({ s with detector := { s.detector with shuttingDown := true } }, [])

/-- A detector that has just been created. -/
def System.start (detector : LivePersonDetector) : System := ⟨detector, .idle, []⟩

/-- **What a call comes to** in the first locked section: it returns at once, or it has a slot. -/
inductive Submitted (call : SubmitCall) (s : System) : System × List SlotEvent → Prop
  | refused : Submitted call s (s, [.returned (-1)])
  | busy (full : findFreeSlot s.detector.slots = none) :
      Submitted call s
        ({ s with detector.stats.busySkips := s.detector.stats.busySkips + 1 }, [.returned 1])
  | reserved {i : Nat} {nv12 : Bytes} (free : findFreeSlot s.detector.slots = some i) (data : call.nv12 = some nv12) :
      Submitted call s
        ({ s with
            detector :=
              { s.detector with
                nextFrameId := followingFrameId s.detector.nextFrameId
                slots := s.detector.slots.modify i
                  (reserveSlot s.detector.nextFrameId call.cameraSequence call.cameraTimestampUs call.submitMs)
                stats.submittedFrames := s.detector.stats.submittedFrames + 1 }
            submitter := .copying i s.detector.nextFrameId nv12 },
          [.reserved i s.detector.nextFrameId])

theorem submitCalled_submitted (call : SubmitCall) (s : System) : Submitted call s (submitCalled call s) := by
  unfold submitCalled
  split
  · exact .refused
  · rename_i nv12 hnv12
    split
    · exact .refused
    · unfold reserve
      by_cases hshut : s.detector.shuttingDown
      · rw [if_pos hshut]
        exact .refused
      · rw [if_neg hshut]
        cases hfree : findFreeSlot s.detector.slots with
        | none => exact .busy hfree
        | some i => exact .reserved hfree hnv12

/-! ## What the events say -/

def SlotEvent.takes : SlotEvent → Option (Nat × UInt32)
  | .reserved slot frameId => some (slot, frameId)
  | _ => none

def SlotEvent.Frees (slot : Nat) : SlotEvent → Prop
  | .undone i => i = slot
  | .released _ freed => freed = some slot
  | _ => False

/-- The slot has been reserved for the frame, and not been freed. -/
def SlotOccupied (es : List SlotEvent) (slot : Nat) (frameId : UInt32) : Prop :=
  Occupied SlotEvent.takes SlotEvent.Frees es slot frameId

/-- No slot stays in use across 2^32 - 1 later submissions. -/
def NoStaleSlot (es : List SlotEvent) : Prop := NotStale SlotEvent.takes SlotEvent.Frees 4294967295 es

def SlotEvent.Releases (frameId : UInt32) : SlotEvent → Prop
  | .released x _ => x = frameId
  | _ => False

/-- RockIVA has accepted the frame in the slot, and not released it. -/
def Held (es : List SlotEvent) (slot : Nat) (frameId : UInt32) : Prop :=
  Since (· = .accepted slot frameId) (SlotEvent.Releases frameId) es

def SlotEvent.sdkUse : SlotEvent → Option (Use UInt32)
  | .accepted _ frameId => some (.acquire frameId)
  | .released frameId _ => some (.release frameId)
  | _ => none

/-- What RockIVA accepts and releases. -/
def sdkUses (es : List SlotEvent) : List (Use UInt32) := es.filterMap SlotEvent.sdkUse

/-- A release frees the slot of its frame. -/
def ReleaseFreesItsSlot (before : List SlotEvent) : SlotEvent → Prop
  | .released frameId freed => ∃ slot, freed = some slot ∧ Held before slot frameId
  | _ => True

/-- A call that returns 1 has found every slot in use. -/
def BusyFindsAllInUse (slotCount : Nat) (before : List SlotEvent) (e : SlotEvent) : Prop :=
  e = .returned 1 → ∀ i < slotCount, ∃ frameId, SlotOccupied before i frameId

/-! ## One more event -/

section Events

variable {es : List SlotEvent} {i j : Nat} {x y : UInt32}

@[simp] theorem occupied_reserved :
    SlotOccupied (es ++ [.reserved i x]) j y ↔ i = j ∧ x = y ∨ SlotOccupied es j y := by
  simp [SlotOccupied, Occupied, since_concat, SlotEvent.takes, SlotEvent.Frees]

@[simp] theorem occupied_accepted : SlotOccupied (es ++ [.accepted i x]) j y ↔ SlotOccupied es j y := by
  simp [SlotOccupied, Occupied, since_concat, SlotEvent.takes, SlotEvent.Frees]

@[simp] theorem occupied_undone : SlotOccupied (es ++ [.undone i]) j y ↔ SlotOccupied es j y ∧ i ≠ j := by
  simp [SlotOccupied, Occupied, since_concat, SlotEvent.takes, SlotEvent.Frees]

@[simp] theorem occupied_released {freed : Option Nat} :
    SlotOccupied (es ++ [.released x freed]) j y ↔ SlotOccupied es j y ∧ freed ≠ some j := by
  simp [SlotOccupied, Occupied, since_concat, SlotEvent.takes, SlotEvent.Frees]

@[simp] theorem occupied_returned {ret : Int} : SlotOccupied (es ++ [.returned ret]) j y ↔ SlotOccupied es j y := by
  simp [SlotOccupied, Occupied, since_concat, SlotEvent.takes, SlotEvent.Frees]

@[simp] theorem held_reserved : Held (es ++ [.reserved i x]) j y ↔ Held es j y := by
  simp [Held, since_concat, SlotEvent.Releases]

@[simp] theorem held_accepted : Held (es ++ [.accepted i x]) j y ↔ i = j ∧ x = y ∨ Held es j y := by
  simp [Held, since_concat, SlotEvent.Releases]

@[simp] theorem held_undone : Held (es ++ [.undone i]) j y ↔ Held es j y := by
  simp [Held, since_concat, SlotEvent.Releases]

@[simp] theorem held_released {freed : Option Nat} : Held (es ++ [.released x freed]) j y ↔ Held es j y ∧ x ≠ y := by
  simp [Held, since_concat, SlotEvent.Releases]

@[simp] theorem held_returned {ret : Int} : Held (es ++ [.returned ret]) j y ↔ Held es j y := by
  simp [Held, since_concat, SlotEvent.Releases]

@[simp] theorem sdkUses_append (fs : List SlotEvent) : sdkUses (es ++ fs) = sdkUses es ++ sdkUses fs := by
  simp [sdkUses]

@[simp] theorem sdkUses_single (e : SlotEvent) : sdkUses [e] = e.sdkUse.toList := by
  cases e <;> rfl

@[simp] theorem takings_concat (e : SlotEvent) :
    takings SlotEvent.takes (es ++ [e]) = takings SlotEvent.takes es + if e.takes.isSome then 1 else 0 := by
  simp [takings, List.countP_singleton]

end Events

end MiniRtsp.Detector
