import MiniRtsp.Event.PersonEvent
import MiniRtsp.Lib.Wire

/-!
# The live PERSON detector

`tools/live_person_detect_test/live_person_detector.c`: frames are copied into a few DMA slots and pushed to RockIVA,
which gives a slot back in a release callback. Each definition here is what one thread does while it holds
`detector->mutex`, or between two such sections; `SlotProtocol` puts them in any order.
-/

namespace MiniRtsp.Detector

open Event Wire

/-- `MAX_DMA_SLOTS`. -/
def maxDmaSlots : Nat := 4

/-- `ROCKIVA_CHANNEL_ID`. -/
def rockivaChannelId : UInt32 := 0

/-- `RockIvaImage`; `data` is the memory at `dataAddr`. -/
structure RockIvaImage where
  frameId : UInt32
  channelId : UInt32
  data : Bytes
  deriving DecidableEq, Repr

structure DetectorSlot where
  image : RockIvaImage
  inUse : Bool
  frameId : UInt32
  cameraSequence : UInt32
  cameraTimestampUs : Int
  submitMonotonicMs : Int
  deriving DecidableEq, Repr

structure LivePersonDetectorStats where
  submittedFrames : UInt64
  busySkips : UInt64
  resultCallbacks : UInt64
  personPositiveFrames : UInt64
  enterEvents : UInt64
  leaveEvents : UInt64
  releasedFrames : UInt64
  failedResults : UInt64
  deriving DecidableEq, Repr

structure LivePersonDetector where
  frameSize : Nat
  slots : List DetectorSlot
  nextFrameId : UInt32
  shuttingDown : Bool
  eventTracker : PersonEventTracker
  eventTrackerInitialized : Bool
  stats : LivePersonDetectorStats
  deriving DecidableEq, Repr

/-! ## Creation -/

structure LivePersonDetectorConfig where
  modelDir : Option String
  width : UInt32
  height : UInt32
  bufferCount : UInt32

/-- What `live_person_detector_create` meets: whether each call succeeds, and the memory of a new DMA slot. -/
structure CreateAnswers where
  modelFilePath : Bool
  calloc : Bool
  mutexInit : Bool
  condInit : Bool
  allocDmaSlots : Bool
  memory : Nat → Bytes
  modelDirFits : Bool
  rockivaInit : Bool
  setFrameReleaseCallback : Bool
  detectInit : Bool

/-- The test of the configuration. -/
def configIsInvalid (config : LivePersonDetectorConfig) : Bool :=
  config.modelDir = none || config.modelDir = some "" || config.width = 0 || config.height = 0 ||
    config.width &&& 1 ≠ 0 || config.height &&& 1 ≠ 0 || config.width.toNat > 65535 || config.height.toNat > 65535 ||
    config.bufferCount = 0 || config.bufferCount.toNat > maxDmaSlots

/-- A slot as `allocate_dma_slots` leaves it. -/
def idleSlot (memory : Bytes) : DetectorSlot := ⟨⟨0, rockivaChannelId, memory⟩, false, 0, 0, 0, 0⟩

/-- `live_person_detector_create`. -/
def livePersonDetectorCreate (config : LivePersonDetectorConfig) (answers : CreateAnswers) :
    Option LivePersonDetector :=
  if configIsInvalid config || !answers.modelFilePath then none
  else
    let pixels := config.width.toNat * config.height.toNat
    if pixels + pixels / 2 > 4294967295 || !answers.calloc then none
    else
      match personEventInit (some (freshTracker ⟨0, 0, 0⟩)) (some personEventDefaultConfig) with
      | (0, some tracker) =>
        if !answers.mutexInit || !answers.condInit || !answers.allocDmaSlots || !answers.modelDirFits ||
            !answers.rockivaInit || !answers.setFrameReleaseCallback || !answers.detectInit then none
        else
          some
            { frameSize := pixels + pixels / 2
              slots := (List.range config.bufferCount.toNat).map fun i => idleSlot (answers.memory i)
              nextFrameId := 1
              shuttingDown := false
              eventTracker := tracker
              eventTrackerInitialized := true
              stats := ⟨0, 0, 0, 0, 0, 0, 0, 0⟩ }
      | _ => none

/-! ## Slots -/

/-- `find_slot_by_frame_id`: the index of the slot. -/
def findSlotByFrameId (slots : List DetectorSlot) (frameId : UInt32) : Option Nat :=
  slots.findIdx? fun slot => slot.inUse && slot.frameId == frameId

/-- The scan of `live_person_detector_submit` for a slot. -/
def findFreeSlot (slots : List DetectorSlot) : Option Nat := slots.findIdx? fun slot => !slot.inUse

/-- What the locked part of `live_person_detector_submit` comes to. -/
inductive Reservation where
  | shuttingDown
  | busy
  | reserved (slot : Nat) (frameId : UInt32)
  deriving DecidableEq, Repr

/-- `next_frame_id++`, which skips zero. -/
def followingFrameId (frameId : UInt32) : UInt32 := if frameId + 1 = 0 then 1 else frameId + 1

/-- A slot that is reserved. -/
def reserveSlot (frameId cameraSequence : UInt32) (cameraTimestampUs submitMs : Int) (slot : DetectorSlot) :
    DetectorSlot :=
  { slot with
    inUse := true, frameId, cameraSequence, cameraTimestampUs, submitMonotonicMs := submitMs
    image := { slot.image with frameId, channelId := rockivaChannelId } }

/-- `live_person_detector_submit` while it holds the mutex. -/
def reserve (detector : LivePersonDetector) (cameraSequence : UInt32) (cameraTimestampUs submitMs : Int) :
    LivePersonDetector × Reservation :=
  if detector.shuttingDown then (detector, .shuttingDown)
  else
    match findFreeSlot detector.slots with
    | none => ({ detector with stats.busySkips := detector.stats.busySkips + 1 }, .busy)
    | some i =>
      let frameId := detector.nextFrameId
      ({ detector with
          nextFrameId := followingFrameId frameId
          slots := detector.slots.modify i (reserveSlot frameId cameraSequence cameraTimestampUs submitMs)
          stats.submittedFrames := detector.stats.submittedFrames + 1 },
        .reserved i frameId)

/-- The `memcpy` into slot `i`. -/
def copyFrame (detector : LivePersonDetector) (i : Nat) (nv12 : Bytes) : LivePersonDetector :=
  { detector with
    slots := detector.slots.modify i fun slot => { slot with image.data := nv12.take detector.frameSize } }

/-- A slot after a push that failed. -/
def undoneSlot (slot : DetectorSlot) : DetectorSlot := { slot with inUse := false, frameId := 0 }

/-- `live_person_detector_submit` with the mutex after `ROCKIVA_PushFrame` has failed. -/
def undoReservation (detector : LivePersonDetector) (i : Nat) : LivePersonDetector :=
  { detector with
    slots := detector.slots.modify i undoneSlot
    stats.submittedFrames := detector.stats.submittedFrames - 1
    stats.failedResults := detector.stats.failedResults + 1 }

/-- A slot that `frame_release_callback` clears. -/
def releasedSlot (slot : DetectorSlot) : DetectorSlot :=
  { slot with inUse := false, frameId := 0, cameraSequence := 0, cameraTimestampUs := 0, submitMonotonicMs := 0 }

/-- One round of the loop of `frame_release_callback`, with the slot that it frees. -/
def releaseFrame (detector : LivePersonDetector) (frameId : UInt32) : LivePersonDetector × Option Nat :=
  match findSlotByFrameId detector.slots frameId with
  | some i =>
    ({ detector with
        slots := detector.slots.modify i releasedSlot
        stats.releasedFrames := detector.stats.releasedFrames + 1 },
      some i)
  | none => (detector, none)

/-! ## Results -/

/-- `RockIvaObjectInfo`; `person` is `type == ROCKIVA_OBJECT_TYPE_PERSON`. -/
structure RockIvaObjectInfo where
  person : Bool
  score : UInt8
  deriving DecidableEq, Repr

structure RockIvaDetectResult where
  frameId : UInt32
  objInfo : List RockIvaObjectInfo
  deriving DecidableEq, Repr

/-- A zeroed `PersonEventResult`. -/
def zeroResult : PersonEventResult := ⟨.none, .idle, false, 0, 0, 0, 0, 0, 0, 0, 0⟩

/-- `detect_result_callback` up to its second locked section: the event that is counted there. -/
def detectResultCallback (detector : LivePersonDetector) (success : Bool) (result : Option RockIvaDetectResult)
    (callbackMs : Int) : LivePersonDetector × Option PersonEventType :=
  let detector := { detector with stats.resultCallbacks := detector.stats.resultCallbacks + 1 }
  match success, result with
  | true, some result =>
    let persons := result.objInfo.filter (·.person)
    let personCount := UInt32.ofNat persons.length
    let maxScore := persons.foldl (fun score object => if object.score > score then object.score else score) 0
    let detector :=
      if personCount > 0 then
        { detector with stats.personPositiveFrames := detector.stats.personPositiveFrames + 1 }
      else detector
    if detector.eventTrackerInitialized then
      let input : PersonEventInput := ⟨result.frameId, callbackMs, personCount, maxScore⟩
      match personEventUpdate (some detector.eventTracker) (some input) (some zeroResult) with
      | (0, some tracker, some update) =>
        ({ detector with eventTracker := tracker },
          if update.event = .enter ∨ update.event = .leave then some update.event else none)
      | _ => (detector, none)
    else (detector, none)
  | _, _ => ({ detector with stats.failedResults := detector.stats.failedResults + 1 }, none)

/-- The second locked section of `detect_result_callback`. -/
def countEvent (detector : LivePersonDetector) (event : PersonEventType) : LivePersonDetector :=
  if event = .enter then { detector with stats.enterEvents := detector.stats.enterEvents + 1 }
  else { detector with stats.leaveEvents := detector.stats.leaveEvents + 1 }

end MiniRtsp.Detector
