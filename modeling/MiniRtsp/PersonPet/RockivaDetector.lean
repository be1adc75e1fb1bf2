import MiniRtsp.Detector.DetectorLife
import MiniRtsp.Lib.Memory
import MiniRtsp.Lib.Text

/-!
# The offline detector

`tools/person_pet_detect_test/rockiva_detector.c`: a file with one NV12 picture is read into DMA memory and pushed to
RockIVA, and `rockiva_detect_nv12` waits for the result (`detectStep`). RockIVA calls back at any time between the end
of `ROCKIVA_Init` and the end of `ROCKIVA_Release`, and is taken to do so no more behind a release that reports a
failure. Whatever `fread` makes of the file, what is read whole is the file (`readFileIntoBuffer_whole`); writing behind
the memory is a state of its own (`DetectState.wild`).
-/

namespace MiniRtsp.PersonPet

open Detector (RockivaCall RockivaPhase DmaAnswer Timespec)
open Ledger Text Trace

/-! ## The picture -/

/-- `calculate_nv12_size`; `sizeMax` is `SIZE_MAX`. -/
def calculateNv12Size (sizeMax : Nat) (width height : UInt32) : Option Nat :=
  if width = 0 ∨ height = 0 ∨ width &&& 1 ≠ 0 ∨ height &&& 1 ≠ 0 then none
  else if width.toNat > sizeMax / height.toNat then none
  else
    let pixels := width.toNat * height.toNat
    if pixels > sizeMax - pixels / 2 then none else some (pixels + pixels / 2)

/-- `validate_file_size`; `stat` is `st_size`, if `stat` succeeds. -/
def validateFileSize (stat : Option Int) (expectedSize : Nat) : Bool :=
  match stat with
  | none => false
  | some size => !(size < 0 || size.toNat != expectedSize)

/-- The files, as the calls of the C library show them. `fopen` gives what is in a file, `chunk` how many bytes `fread`
gets at an offset. -/
structure Disk where
  access : Bytes → Bool
  stat : Bytes → Option Int
  fopen : Bytes → Option Bytes
  chunk : Nat → Nat

/-- `PFP_MODEL_FILENAME` -/
def pfpModelFilename : Bytes := ascii "object_detection_pfp.data"

/-- `build_model_file_path`, for a buffer of `PATH_MAX` bytes. -/
def buildModelFilePath (disk : Disk) (modelDir : Bytes) : Option Bytes :=
  let path := modelDir ++ ascii "/" ++ pfpModelFilename
  if path.length ≥ 4096 ∨ !disk.access path then none else some path

/-- `fread` of at most `size` bytes at offset `total`. -/
def fread (disk : Disk) (contents : Bytes) (total size : Nat) : Bytes :=
  (contents.drop total).take (min (disk.chunk total) size)

/-- The loop of `read_file_into_buffer`, in `todo` rounds at most; `none` where it writes behind the buffer. -/
def readLoop (disk : Disk) (contents : Bytes) (size : Nat) : (todo total : Nat) → Bytes → Option (Bytes × Bool)
  | 0, _, buffer => some (buffer, true)
  | todo + 1, total, buffer =>
    if total < size then
      let bytes := fread disk contents total (size - total)
      if bytes = [] then some (buffer, false)
      else do readLoop disk contents size todo (total + bytes.length) (← Memory.writeAll buffer total bytes)
    else some (buffer, true)

/-- `read_file_into_buffer`: what is then in the buffer, and whether it returns 0. -/
def readFileIntoBuffer (disk : Disk) (path : Bytes) (buffer : Bytes) (size : Nat) : Option (Bytes × Bool) :=
  if size = 0 then some (buffer, false)
  else
    match disk.fopen path with
    | none => some (buffer, false)
    | some contents => readLoop disk contents size size 0 buffer

/-- **The size of a picture** is three halves of its pixels, where that fits into a `size_t`. -/
theorem calculateNv12Size_iff {sizeMax size : Nat} {width height : UInt32} :
    calculateNv12Size sizeMax width height = some size ↔
      (0 < width.toNat ∧ 0 < height.toNat ∧ width.toNat % 2 = 0 ∧ height.toNat % 2 = 0) ∧
        2 * size = 3 * (width.toNat * height.toNat) ∧ size ≤ sizeMax := by
  have hzero : ∀ x : UInt32, x = 0 ↔ x.toNat = 0 := fun x => by simp [← UInt32.toNat_inj]
  have hodd : ∀ x : UInt32, x &&& 1 ≠ 0 ↔ x.toNat % 2 ≠ 0 := fun x => by
    rw [Ne, hzero, UInt32.toNat_and]
    exact not_congr (by rw [show (1 : UInt32).toNat = 1 from rfl, Nat.and_one_is_mod])
  unfold calculateNv12Size
  simp only [hzero, hodd]
  by_cases hsides : 0 < width.toNat ∧ 0 < height.toNat ∧ width.toNat % 2 = 0 ∧ height.toNat % 2 = 0
  · have heven : (width.toNat * height.toNat) % 2 = 0 := by simp [Nat.mul_mod, hsides.2.2.1]
    have hfits : width.toNat > sizeMax / height.toNat ↔ sizeMax < width.toNat * height.toNat :=
      Nat.div_lt_iff_lt_mul hsides.2.1
    rw [if_neg (by omega)]
    simp only [hsides, true_and, hfits, Option.ite_none_left_eq_some, Option.some.injEq]
    omega
  · rw [if_pos (by omega)]
    simp [hsides]

/-- The loop has read `total` bytes: it goes on with the file, and stays in the buffer if that is large enough. -/
theorem readLoop_spec {disk : Disk} {contents : Bytes} {size todo total : Nat} {buffer : Bytes}
    (hfuel : size ≤ total + todo) (htotal : total ≤ size) (hlength : total ≤ contents.length)
    (hdone : buffer.take total = contents.take total) (hinside : total ≤ buffer.length) :
    (readLoop disk contents size todo total buffer = none → buffer.length < size) ∧
      ∀ data, readLoop disk contents size todo total buffer = some (data, true) →
        size ≤ contents.length ∧ data.take size = contents.take size := by
  induction todo generalizing total buffer with
  | zero =>
    obtain rfl : total = size := by omega
    refine ⟨nofun, ?_⟩
    rintro data ⟨⟩
    exact ⟨hlength, hdone⟩
  | succ todo ih =>
    rw [readLoop]
    by_cases hmore : total < size
    · rw [if_pos hmore]
      have hbytes : (fread disk contents total (size - total)).length ≤ size - total := by
        rw [fread, List.length_take]
        omega
      have hrest : (fread disk contents total (size - total)) <+: contents.drop total := List.take_prefix _ _
      generalize fread disk contents total (size - total) = bytes at hbytes hrest
      dsimp only
      by_cases hend : bytes = []
      · rw [if_pos hend]
        exact ⟨nofun, nofun⟩
      · rw [if_neg hend]
        by_cases hroom : total + bytes.length ≤ buffer.length
        · have hpos : 0 < bytes.length := List.length_pos_iff.mpr hend
          have hdrop : bytes.length ≤ (contents.drop total).length := hrest.length_le
          rw [List.length_drop] at hdrop
          have hbuffer : (buffer.take total ++ bytes ++ buffer.drop (total + bytes.length)).length =
              buffer.length := by
            simp only [List.length_append, List.length_take, List.length_drop]
            omega
          have hfront : (buffer.take total ++ bytes).length = total + bytes.length := by
            rw [List.length_append, List.length_take_of_le (by omega)]
          have htaken : (buffer.take total ++ bytes ++ buffer.drop (total + bytes.length)).take (total + bytes.length) =
              contents.take (total + bytes.length) := by
            rw [List.take_left' hfront, hdone, List.prefix_iff_eq_take.mp hrest, List.take_add]
            simp
          rw [Memory.writeAll_eq hroom, Option.bind_eq_bind, Option.bind_some]
          have hnext := ih (by omega) (by omega) (by omega) htaken (by omega)
          rwa [hbuffer] at hnext
        · rw [Memory.writeAll_eq_none hend (by omega)]
          exact ⟨fun _ => by omega, nofun⟩
    · rw [if_neg hmore]
      obtain rfl : total = size := by omega
      refine ⟨nofun, ?_⟩
      rintro data ⟨⟩
      exact ⟨hlength, hdone⟩

theorem readFileIntoBuffer_spec (disk : Disk) (path buffer : Bytes) (size : Nat) :
    (readFileIntoBuffer disk path buffer size = none → buffer.length < size) ∧
      ∀ data, readFileIntoBuffer disk path buffer size = some (data, true) →
        ∃ contents, disk.fopen path = some contents ∧ size ≤ contents.length ∧ data.take size = contents.take size := by
  unfold readFileIntoBuffer
  split
  · exact ⟨nofun, nofun⟩
  · cases disk.fopen path with
    | none => exact ⟨nofun, nofun⟩
    | some contents =>
      have hnothing : buffer.take 0 = contents.take 0 := rfl
      obtain ⟨hover, hread⟩ :=
        readLoop_spec (Nat.zero_add size).ge size.zero_le contents.length.zero_le hnothing buffer.length.zero_le
      exact ⟨hover, fun data h => ⟨contents, rfl, hread data h⟩⟩

/-- **A file that is read whole** is what the memory begins with, however `fread` cuts it. -/
theorem readFileIntoBuffer_whole {disk : Disk} {path buffer data : Bytes} {size : Nat}
    (h : readFileIntoBuffer disk path buffer size = some (data, true)) :
    ∃ contents, disk.fopen path = some contents ∧ size ≤ contents.length ∧ data.take size = contents.take size :=
  (readFileIntoBuffer_spec disk path buffer size).2 data h

/-! ## The call -/

structure RockIvaDetectionSummary where
  frameId : UInt32
  objectCount : UInt32
  personCount : UInt32
  petCount : UInt32
  deriving DecidableEq, Repr

/-- A summary as `memset` leaves it. -/
def RockIvaDetectionSummary.zero : RockIvaDetectionSummary := ⟨0, 0, 0, 0⟩

/-- `RockIvaExecuteStatus`: `ROCKIVA_UNKNOWN`, `ROCKIVA_SUCCESS`, and the others. -/
inductive RockIvaExecuteStatus where
  | unknown
  | success
  | failed (status : Int)
  deriving DecidableEq, Repr

/-- `RockIvaObjectType`: the ones that are counted, and the others. -/
inductive RockIvaObjectType where
  | person
  | pet
  | other
  deriving DecidableEq, Repr

/-- `RockIvaDetectResult`, with the types of its objects. -/
structure RockIvaDetectResult where
  frameId : UInt32
  objInfo : List RockIvaObjectType
  deriving DecidableEq, Repr

/-- `RockIvaImage`; `data` is the memory at `dataAddr`. -/
structure RockIvaImage where
  width : UInt16
  height : UInt16
  size : UInt32
  frameId : UInt32
  channelId : UInt32
  data : Bytes
  deriving DecidableEq, Repr

structure DetectorContext where
  summary : RockIvaDetectionSummary
  executeStatus : RockIvaExecuteStatus
  expectedFrameId : UInt32
  callbackReceived : Bool
  frameReleased : Bool
  globalInitialized : Bool
  detectInitialized : Bool
  syncInitialized : Bool
  deriving DecidableEq, Repr

/-- The arguments of `rockiva_detect_nv12`; `none` is `NULL`. -/
structure DetectArgs where
  modelDir : Option Bytes
  nv12Path : Option Bytes
  width : UInt32
  height : UInt32
  personThreshold : UInt8
  petThreshold : UInt8
  timeoutMs : Int
  summary : Option RockIvaDetectionSummary

/-- What the call meets up to `ROCKIVA_Init`. `modelPathSize` is the size of `init_param.modelPath`; the memory is asked
for with `image.size`. -/
structure StartAnswers where
  disk : Disk
  allocMem : UInt32 → DmaAnswer
  mutexInit : Bool
  condInit : Bool
  modelPathSize : Nat
  rockivaInit : Bool
  freeMem : Bool

/-- Where the call is, behind `ROCKIVA_Init`. -/
inductive Stage where
  | initialized
  /-- The frame release callback is set. -/
  | announced
  | detecting
  | pushed
  /-- `ROCKIVA_WaitFinish` has succeeded. -/
  | finished
  /-- The head of the loop of `wait_for_result`. -/
  | waiting (waitRet : Int) (deadline : Timespec)
  | received
  /-- `detector_cleanup` and what comes behind it, with `result`. -/
  | releasingDetect (result : Int)
  | releasing (result : Int)
  | freeing (result : Int)
  deriving DecidableEq, Repr

/-- A call in which RockIVA has been initialised. -/
structure Call where
  args : DetectArgs
  image : RockIvaImage
  context : DetectorContext
  /-- `*summary` -/
  summary : RockIvaDetectionSummary
  stage : Stage

inductive DetectState where
  | idle
  | inCall (c : Call)
  /-- Memory behind the buffer has been written. -/
  | wild

inductive DetectResource where
  | file
  | dma
  | mutex
  | condition
  deriving DecidableEq, Repr

inductive DetectEvent where
  | called (args : DetectArgs) (answers : StartAnswers)
  | use (u : Use DetectResource)
  | rockiva (call : RockivaCall)
  /-- The scores that `ROCKIVA_DETECT_Init` gets. -/
  | thresholds (person pet : UInt8)
  /-- The image that `ROCKIVA_PushFrame` gets. -/
  | pushed (image : RockIvaImage)
  | overrun
  | resultCallback (result : Option RockIvaDetectResult) (status : RockIvaExecuteStatus)
  | releaseCallback (frames : Option (List UInt32))
  /-- `pthread_cond_timedwait`, with what it returns. -/
  | timedwait (deadline : Timespec) (waitRet : Int)
  /-- `*summary = context.summary`, with the status that is then tested. -/
  | read (summary : RockIvaDetectionSummary) (status : RockIvaExecuteStatus)
  | returned (ret : Int) (summary : Option RockIvaDetectionSummary)

/-! ## Callbacks -/

/-- One round of the loop of `detect_result_callback`. -/
def countObject (summary : RockIvaDetectionSummary) : RockIvaObjectType → RockIvaDetectionSummary
  | .person => { summary with personCount := summary.personCount + 1 }
  | .pet => { summary with petCount := summary.petCount + 1 }
  | .other => summary

/-- The summary that `detect_result_callback` makes of a result. -/
def summaryOf : Option RockIvaDetectResult → RockIvaDetectionSummary
  | none => .zero
  | some result => result.objInfo.foldl countObject ⟨result.frameId, .ofNat result.objInfo.length, 0, 0⟩

/-- `detect_result_callback`. -/
def detectResultCallback (context : DetectorContext) (result : Option RockIvaDetectResult)
    (status : RockIvaExecuteStatus) : DetectorContext :=
  { context with summary := summaryOf result, executeStatus := status, callbackReceived := true }

/-- `frame_release_callback`. -/
def frameReleaseCallback (context : DetectorContext) (frames : Option (List UInt32)) : DetectorContext :=
  if context.expectedFrameId ∈ frames.getD [] then { context with frameReleased := true } else context

theorem foldl_countObject (objects : List RockIvaObjectType) (summary : RockIvaDetectionSummary) :
    objects.foldl countObject summary =
      { summary with
        personCount := summary.personCount + .ofNat (objects.count .person)
        petCount := summary.petCount + .ofNat (objects.count .pet) } := by
  induction objects generalizing summary with
  | nil => simp
  | cons object objects ih =>
    have hnext : ∀ (x : UInt32) (n : Nat), x + 1 + .ofNat n = x + .ofNat (n + 1) := fun x n => by
      rw [UInt32.ofNat_add, UInt32.add_assoc, UInt32.add_comm 1]
      rfl
    rw [List.foldl_cons, ih]
    cases object <;> simp [countObject, hnext]

/-- What a summary says of a result: its frame, and how many objects there are, and persons and pets among them. -/
def countsOf : Option RockIvaDetectResult → RockIvaDetectionSummary
  | none => .zero
  | some result =>
    ⟨result.frameId, .ofNat result.objInfo.length, .ofNat (result.objInfo.count .person),
      .ofNat (result.objInfo.count .pet)⟩

/-- **The summary** counts the objects. -/
theorem summaryOf_eq (result : Option RockIvaDetectResult) : summaryOf result = countsOf result := by
  cases result with
  | none => rfl
  | some result =>
    rw [summaryOf, foldl_countObject]
    simp [countsOf]

/-! ## Steps -/

/-- `add_milliseconds`; `now` is what `clock_gettime` stores, if it succeeds. -/
def addMilliseconds (now : Option Timespec) (timeoutMs : Int) : Option Timespec :=
  match now with
  | none => none
  | some now =>
    let nanoseconds := now.nsec + timeoutMs.tmod 1000 * 1000000
    some ⟨now.sec + timeoutMs.tdiv 1000 + nanoseconds.tdiv 1000000000, nanoseconds.tmod 1000000000⟩

/-- `ROCKIVA_IMAGE_FreeMem` and the end of the call. -/
def freeImage (freeMem : Bool) (result : Int) (summary : RockIvaDetectionSummary) : List DetectEvent :=
  [.rockiva (.freeMem 0 freeMem), .use (.release .dma), .returned (if freeMem then result else -1) (some summary)]

/-- The call from `pthread_mutex_init` to `ROCKIVA_Init`. -/
def initializeRockiva (args : DetectArgs) (answers : StartAnswers) (modelDir : Bytes) (image : RockIvaImage) :
    DetectState × List DetectEvent :=
  let summary := RockIvaDetectionSummary.zero
  if !answers.mutexInit then (.idle, freeImage answers.freeMem (-1) summary)
  else if !answers.condInit then
    (.idle, [.use (.acquire .mutex), .use (.release .mutex)] ++ freeImage answers.freeMem (-1) summary)
  else
    let taken : List DetectEvent := [.use (.acquire .mutex), .use (.acquire .condition)]
    let given : List DetectEvent := [.use (.release .condition), .use (.release .mutex)]
    if modelDir.length ≥ answers.modelPathSize then (.idle, taken ++ given ++ freeImage answers.freeMem (-1) summary)
    else if !answers.rockivaInit then
      (.idle, taken ++ .rockiva (.init false) :: given ++ freeImage answers.freeMem (-1) summary)
    else
      let context : DetectorContext := ⟨summary, .unknown, image.frameId, false, false, true, false, true⟩
      (.inCall ⟨args, image, context, summary, .initialized⟩, taken ++ [.rockiva (.init true)])

/-- The call from `ROCKIVA_IMAGE_AllocMem` to `read_file_into_buffer`. -/
def loadImage (args : DetectArgs) (answers : StartAnswers) (modelDir nv12Path : Bytes) (size : Nat) :
    DetectState × List DetectEvent :=
  let summary := RockIvaDetectionSummary.zero
  let taken : List DetectEvent := [.rockiva (.allocMem 0 true), .use (.acquire .dma)]
  match answers.allocMem (.ofNat size) with
  | .refused => (.idle, [.rockiva (.allocMem 0 false), .returned (-1) (some summary)])
  | .unusable => (.idle, taken ++ freeImage answers.freeMem (-1) summary)
  | .usable memory =>
    let opened : List DetectEvent := if (answers.disk.fopen nv12Path).isSome then [.use (.acquire .file)] else []
    let closed : List DetectEvent := if (answers.disk.fopen nv12Path).isSome then [.use (.release .file)] else []
    match readFileIntoBuffer answers.disk nv12Path memory size with
    | none => (.wild, taken ++ opened ++ [.overrun])
    | some (_, false) => (.idle, taken ++ opened ++ closed ++ freeImage answers.freeMem (-1) summary)
    | some (data, true) =>
      let image : RockIvaImage := ⟨args.width.toUInt16, args.height.toUInt16, .ofNat size, 1, 0, data⟩
      let (state, events) := initializeRockiva args answers modelDir image
      (state, taken ++ opened ++ closed ++ events)

/-- `rockiva_detect_nv12` up to `ROCKIVA_Init`. -/
def rockivaDetectNv12 (sizeMax : Nat) (args : DetectArgs) (answers : StartAnswers) : DetectState × List DetectEvent :=
  match args.modelDir, args.nv12Path, args.summary with
  | some modelDir, some nv12Path, some _ =>
    if args.timeoutMs ≤ 0 ∨ args.width.toNat > 65535 ∨ args.height.toNat > 65535 then
      (.idle, [.returned (-1) args.summary])
    else
      match buildModelFilePath answers.disk modelDir, calculateNv12Size sizeMax args.width args.height with
      | some _, some size =>
        if !validateFileSize (answers.disk.stat nv12Path) size then (.idle, [.returned (-1) (some .zero)])
        else loadImage args answers modelDir nv12Path size
      | _, _ => (.idle, [.returned (-1) (some .zero)])
  | _, _, _ => (.idle, [.returned (-1) args.summary])

/-- What a call meets behind `ROCKIVA_Init`: whether the RockIVA call succeeds, what `clock_gettime` stores, and what
`pthread_cond_timedwait` returns. -/
structure CallAnswers where
  ok : Bool
  now : Option Timespec
  waitRet : Int

/-- `goto cleanup`, or the way there. -/
def Call.cleanup (c : Call) (result : Int) : DetectState := .inCall { c with stage := .releasingDetect result }

/-- The call goes on if RockIVA succeeds. -/
def Call.next (c : Call) (ok : Bool) (stage : Stage) : DetectState :=
  if ok then .inCall { c with stage } else c.cleanup (-1)

/-- `rockiva_detect_nv12` goes on behind `ROCKIVA_Init`. -/
def callStep (answers : CallAnswers) (c : Call) : DetectState × List DetectEvent :=
  match c.stage with
  | .initialized => (c.next answers.ok .announced, [.rockiva (.setFrameReleaseCallback answers.ok)])
  | .announced =>
    ({ c with context.detectInitialized := answers.ok }.next answers.ok .detecting,
      [.thresholds c.args.personThreshold c.args.petThreshold, .rockiva (.detectInit answers.ok)])
  | .detecting =>
    (c.next answers.ok .pushed, [.pushed c.image, .rockiva (.pushFrame 0 c.image.frameId answers.ok)])
  | .pushed => (c.next answers.ok .finished, [.rockiva (.waitFinish answers.ok)])
  | .finished =>
    match addMilliseconds answers.now c.args.timeoutMs with
    | none => (c.cleanup (-1), [])
    | some deadline => (.inCall { c with stage := .waiting 0 deadline }, [])
  | .waiting waitRet deadline =>
    if c.context.callbackReceived then (.inCall { c with stage := .received }, [])
    else if waitRet ≠ 0 then (c.cleanup (-1), [])
    else (.inCall { c with stage := .waiting answers.waitRet deadline }, [.timedwait deadline answers.waitRet])
  | .received =>
    let result : Int := if c.context.executeStatus = .success then 0 else -1
    ({ c with summary := c.context.summary }.cleanup result, [.read c.context.summary c.context.executeStatus])
  | .releasingDetect result =>
    if c.context.detectInitialized then
      (.inCall { c with context.detectInitialized := false, stage := .releasing result },
        [.rockiva (.detectRelease answers.ok)])
    else (.inCall { c with stage := .releasing result }, [])
  | .releasing result =>
    if c.context.globalInitialized then
      (.inCall { c with context.globalInitialized := false, stage := .freeing result },
        [.rockiva (.release answers.ok)])
    else (.inCall { c with stage := .freeing result }, [])
  | .freeing result =>
    let given : List DetectEvent :=
      if c.context.syncInitialized then [.use (.release .condition), .use (.release .mutex)] else []
    (.idle, given ++ freeImage answers.ok result c.summary)

inductive DetectMove where
  | call (args : DetectArgs) (answers : StartAnswers)
  /-- The call goes on. -/
  | goOn (answers : CallAnswers)
  /-- RockIVA calls `detect_result_callback`, or `frame_release_callback`. -/
  | result (result : Option RockIvaDetectResult) (status : RockIvaExecuteStatus)
  | release (frames : Option (List UInt32))

/-- **A step** of the call or of RockIVA, which calls back until `ROCKIVA_Release` has returned. -/
def detectStep (sizeMax : Nat) : DetectMove → DetectState → DetectState × List DetectEvent
  | .call args answers, .idle =>
    let (state, events) := rockivaDetectNv12 sizeMax args answers
    (state, .called args answers :: events)
  | .goOn answers, .inCall c => callStep answers c
  | .result result status, .inCall c =>
    if c.context.globalInitialized then
      (.inCall { c with context := detectResultCallback c.context result status }, [.resultCallback result status])
    else (.inCall c, [])
  | .release frames, .inCall c =>
    if c.context.globalInitialized then
      (.inCall { c with context := frameReleaseCallback c.context frames }, [.releaseCallback frames])
    else (.inCall c, [])
  | _, s => (s, [])

def detectRun (sizeMax : Nat) (moves : List DetectMove) : History DetectState DetectEvent :=
  run (detectStep sizeMax) .idle moves

end MiniRtsp.PersonPet
