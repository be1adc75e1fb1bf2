import MiniRtsp.Common.Resource
import MiniRtsp.Lib.Wire

/-!
# Camera capture

`capture/v4l2_capture.c` over the answers of the driver. `v4l2_capture_init` opens the device and negotiates format and
buffers step by step; whatever step fails, the device is closed again (`v4l2CaptureInit_moves`). A frame is a view into
a mapped buffer that the program holds between `VIDIOC_DQBUF` and `VIDIOC_QBUF`.
-/

namespace MiniRtsp.Capture

open Ledger Wire

def v4l2CaptureMaxBuffers : Nat := 4

def v4l2PixFmtNv12 : UInt32 := 0x3231564e
def v4l2CapVideoCaptureMplane : UInt32 := 0x00001000
def v4l2CapStreaming : UInt32 := 0x04000000
def v4l2CapDeviceCaps : UInt32 := 0x80000000

/-- A mapped buffer; `addr` is `false` for `NULL`. -/
structure V4L2CaptureBuffer where
  addr : Bool
  length : Nat
  deriving DecidableEq, Repr

/-- `V4L2Capture`; `fd` is `-1` when the device is not open. -/
structure V4L2Capture where
  fd : Int
  width : Int
  height : Int
  nplanes : Int
  bytesperline : Int
  sizeimage : Int
  pixelformat : UInt32
  streaming : Bool
  fpsNumerator : UInt32
  fpsDenominator : UInt32
  buffers : List V4L2CaptureBuffer
  deriving DecidableEq, Repr

/-- A capture as `memset` leaves it. -/
def V4L2Capture.zero : V4L2Capture := ⟨0, 0, 0, 0, 0, 0, 0, false, 0, 0, []⟩

/-- `cap->buffer_count`. -/
def V4L2Capture.bufferCount (cap : V4L2Capture) : Nat := cap.buffers.length

/-! ## Opening and closing -/

/-- `struct v4l2_capability`. -/
structure Capability where
  capabilities : UInt32
  deviceCaps : UInt32

/-- `struct v4l2_format` as the driver returns it. -/
structure Format where
  width : UInt32
  height : UInt32
  numPlanes : UInt32
  pixelformat : UInt32
  bytesperline : UInt32
  sizeimage : UInt32

/-- What the driver answers for one buffer: the plane length of `VIDIOC_QUERYBUF`, `mmap`, `VIDIOC_QBUF`. -/
structure BufferAnswers where
  querybuf : Option UInt32
  mmap : Bool
  qbuf : Bool

/-- What the driver answers to `v4l2_capture_init`; `none` and `false` are failures. -/
structure InitAnswers where
  device : Option Nat
  querycap : Option Capability
  setFormat : Option Format
  setParm : Option (UInt32 × UInt32)
  reqbufs : Option UInt32
  buffer : Nat → BufferAnswers
  streamon : Bool

/-- `v4l2_capture_close`. -/
def v4l2CaptureClose (cap : V4L2Capture) : V4L2Capture × List (Use Resource) :=
  ({ cap with fd := -1, streaming := if cap.fd ≥ 0 then false else cap.streaming, buffers := [] },
    if cap.fd ≥ 0 then [closed cap.fd] else [])

/-- The buffer loop of `v4l2_capture_init`, buffer `i` with `n` to go: the buffers as far as they were set up, and
whether all were. -/
def mapBuffers (answers : Nat → BufferAnswers) : Nat → Nat → List V4L2CaptureBuffer × Bool
  | 0, _ => ([], true)
  | n + 1, i =>
    let unmapped := List.replicate n ⟨false, 0⟩
    match (answers i).querybuf with
    | none => (⟨false, 0⟩ :: unmapped, false)
    | some length =>
      if !(answers i).mmap then (⟨false, length.toNat⟩ :: unmapped, false)
      else if !(answers i).qbuf then (⟨true, length.toNat⟩ :: unmapped, false)
      else
        let (rest, ok) := mapBuffers answers n (i + 1)
        (⟨true, length.toNat⟩ :: rest, ok)

/-- The capability test of `v4l2_capture_init`. -/
def canStream (capability : Capability) : Bool :=
  let caps :=
    if capability.capabilities &&& v4l2CapDeviceCaps ≠ 0 then capability.deviceCaps else capability.capabilities
  caps &&& v4l2CapVideoCaptureMplane ≠ 0 && caps &&& v4l2CapStreaming ≠ 0

/-- `v4l2_capture_init` from `VIDIOC_QUERYCAP` to the check of the planes; `false` for `FAIL`. -/
def negotiateFormat (answers : InitAnswers) (cap : V4L2Capture) : V4L2Capture × Bool :=
  if !(answers.querycap.any canStream) then (cap, false)
  else
    match answers.setFormat with
    | none => (cap, false)
    | some format =>
      ({ cap with width := asInt format.width, height := asInt format.height, nplanes := asInt format.numPlanes,
                  pixelformat := format.pixelformat, bytesperline := asInt format.bytesperline,
                  sizeimage := asInt format.sizeimage },
        format.pixelformat = v4l2PixFmtNv12 && asInt format.numPlanes = 1)

/-- `VIDIOC_S_PARM`: a refusal leaves the interval unknown. -/
def setInterval (answers : InitAnswers) (cap : V4L2Capture) : V4L2Capture :=
  match answers.setParm with
  | none => { cap with fpsNumerator := 0, fpsDenominator := 0 }
  | some (numerator, denominator) => { cap with fpsNumerator := numerator, fpsDenominator := denominator }

/-- `v4l2_capture_init` from `VIDIOC_REQBUFS` on; `false` for `FAIL`. -/
def startStreaming (answers : InitAnswers) (cap : V4L2Capture) : V4L2Capture × Bool :=
  match answers.reqbufs with
  | none => (cap, false)
  | some count =>
    if count.toNat < 2 ∨ count.toNat > v4l2CaptureMaxBuffers then (cap, false)
    else
      let mapped := mapBuffers answers.buffer count.toNat 0
      let started := mapped.2 && answers.streamon
      ({ cap with buffers := mapped.1, streaming := started }, started)

/-- `v4l2_capture_init` after the device has been opened. -/
def negotiate (answers : InitAnswers) (cap : V4L2Capture) : V4L2Capture × Bool :=
  let (cap, ok) := negotiateFormat answers cap
  if ok then startStreaming answers (setInterval answers cap) else (cap, false)

/-- `v4l2_capture_init`: the capture, what was opened and closed, and whether it succeeded. -/
def v4l2CaptureInit (answers : InitAnswers) (cap : V4L2Capture) (width height : Int) :
    V4L2Capture × List (Use Resource) × Bool :=
  if width ≤ 0 ∨ height ≤ 0 then (cap, [], false)
  else
    match answers.device with
    | none => ({ V4L2Capture.zero with fd := -1 }, [], false)
    | some fd =>
      let (cap, ok) := negotiate answers { V4L2Capture.zero with fd := fd }
      if ok then (cap, [opened fd], true)
      else
        let (cap, uses) := v4l2CaptureClose cap
        (cap, opened fd :: uses, false)

/-! ## Frames -/

inductive Errno where
  | einval
  | eagain
  | etimedout
  | eio
  | other
  deriving DecidableEq, Repr

/-- `V4L2Frame`; `data` is the offset of the frame in the mapping of buffer `index`. -/
structure V4L2Frame where
  data : Nat
  size : Nat
  index : Nat
  sequence : UInt32
  timestampUs : Int
  valid : Bool
  deriving DecidableEq, Repr

/-- `struct v4l2_buffer` with its plane, as `VIDIOC_DQBUF` returns it. -/
structure V4L2Buffer where
  index : Nat
  bytesused : Nat
  dataOffset : Nat
  sequence : UInt32
  timestampUs : Int

/-- One round of the loop of `v4l2_capture_acquire_frame`: how `select` and then `VIDIOC_DQBUF` answer. -/
inductive AcquireRound where
  | selectFailed (e : Errno)
  | dqbufFailed (e : Errno)
  | dequeued (b : V4L2Buffer)

/-- What happens to the buffers of the driver. -/
inductive BufferUse where
  | dequeued (index : Nat)
  | queued (index : Nat)
  | refused (index : Nat)
  deriving DecidableEq, Repr

/-- The loop of `v4l2_capture_acquire_frame`; after the last round `select` times out. -/
def acquireLoop : List AcquireRound → Except Errno V4L2Buffer
  | [] => .error .etimedout
  | .selectFailed e :: _ => .error e
  | .dqbufFailed e :: rounds => if e ≠ .eagain then .error e else acquireLoop rounds
  | .dequeued b :: _ => .ok b

/-- `v4l2_capture_release_frame`; `qbuf` answers `VIDIOC_QBUF`. -/
def v4l2CaptureReleaseFrame (cap : V4L2Capture) (frame : V4L2Frame) (qbuf : Bool) : Bool × List BufferUse :=
  if cap.fd < 0 ∨ !frame.valid then (false, [])
  else if frame.index ≥ cap.bufferCount then (false, [])
  else if qbuf then (true, [.queued frame.index])
  else (false, [.refused frame.index])

/-- `v4l2_capture_acquire_frame`; `qbuf` answers the `VIDIOC_QBUF` of a frame with invalid metadata. -/
def v4l2CaptureAcquireFrame (cap : V4L2Capture) (rounds : List AcquireRound) (qbuf : Bool) :
    Except Errno V4L2Frame × List BufferUse :=
  if cap.fd < 0 ∨ !cap.streaming then (.error .einval, [])
  else
    match acquireLoop rounds with
    | .error e => (.error e, [])
    | .ok buffer =>
      if buffer.index ≥ cap.bufferCount then (.error .eio, [.dequeued buffer.index])
      else
        let mapped := (cap.buffers.getD buffer.index ⟨false, 0⟩).length
        if buffer.dataOffset > mapped ∨ buffer.bytesused < buffer.dataOffset ∨ buffer.bytesused > mapped then
          let (_, uses) := v4l2CaptureReleaseFrame cap ⟨0, 0, buffer.index, 0, 0, true⟩ qbuf
          (.error .eio, .dequeued buffer.index :: uses)
        else
          (.ok { data := buffer.dataOffset, size := buffer.bytesused - buffer.dataOffset, index := buffer.index,
                 sequence := buffer.sequence, timestampUs := buffer.timestampUs, valid := true },
            [.dequeued buffer.index])

/-! ## Descriptors -/

/-- What an open device contributes to the holdings. -/
def V4L2Capture.held (cap : V4L2Capture) : Multiset Resource := if cap.fd ≥ 0 then {.descriptor cap.fd} else 0

theorem v4l2CaptureClose_moves (cap : V4L2Capture) (m : Multiset Resource) :
    Moves (v4l2CaptureClose cap).2 (cap.held + m) m ∧ (v4l2CaptureClose cap).1.fd = -1 := by
  unfold v4l2CaptureClose V4L2Capture.held
  split
  · exact ⟨moves_release _ m, rfl⟩
  · exact ⟨by simpa using moves_nil m, rfl⟩

theorem negotiate_fd (answers : InitAnswers) (cap : V4L2Capture) : (negotiate answers cap).1.fd = cap.fd := by
  have hformat : (negotiateFormat answers cap).1.fd = cap.fd := by
    unfold negotiateFormat
    split
    · rfl
    · split <;> rfl
  have hinterval : ∀ c, (setInterval answers c).fd = c.fd := fun c => by
    unfold setInterval
    split <;> rfl
  have hstart : ∀ c, (startStreaming answers c).1.fd = c.fd := fun c => by
    unfold startStreaming
    split
    · rfl
    · split <;> rfl
  unfold negotiate
  split
  rename_i hneg
  rw [hneg] at hformat
  split
  · rw [hstart, hinterval, hformat]
  · exact hformat

/-- **A failed initialisation leaves no descriptor open**, a successful one exactly the device's. -/
theorem v4l2CaptureInit_moves (answers : InitAnswers) (cap : V4L2Capture) {width height : Int} (hw : 0 < width)
    (hh : 0 < height) (m : Multiset Resource) :
    Moves (v4l2CaptureInit answers cap width height).2.1 m ((v4l2CaptureInit answers cap width height).1.held + m) ∧
      ((v4l2CaptureInit answers cap width height).2.2 = false →
        (v4l2CaptureInit answers cap width height).1.fd = -1) := by
  unfold v4l2CaptureInit
  rw [if_neg (by omega)]
  split
  · exact ⟨by simpa [V4L2Capture.held] using moves_nil m, fun _ => rfl⟩
  · rename_i fd _
    have hfd := negotiate_fd answers { V4L2Capture.zero with fd := fd }
    split
    rename_i c ok hneg
    rw [hneg] at hfd
    have hheld : c.held = {.descriptor fd} := by
      unfold V4L2Capture.held
      rw [hfd, if_pos (Int.natCast_nonneg fd)]
    split
    · exact ⟨by rw [hheld]; exact moves_acquire _ m, fun h => absurd h (by simp)⟩
    · obtain ⟨hclose, hclosed⟩ := v4l2CaptureClose_moves c m
      have hafter : (v4l2CaptureClose c).1.held = 0 := by simp [V4L2Capture.held, hclosed]
      rw [hheld] at hclose
      refine ⟨?_, fun _ => hclosed⟩
      rw [hafter, Multiset.zero_add]
      exact (moves_acquire _ m).cons hclose

end MiniRtsp.Capture
