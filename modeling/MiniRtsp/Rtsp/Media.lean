import MiniRtsp.Capture.V4L2Capture
import MiniRtsp.Encoder.MppEncoder
import MiniRtsp.Muxer.Mp4Muxer
import MiniRtsp.Rtp.H264Rtp
import MiniRtsp.Rtp.Sender

/-!
# The media pipeline

`rtsp/rtsp_media.c` without its thread: capturing and encoding one access unit, sending an access unit over RTP,
recording it, and opening and closing the pipeline. Calls into the driver, the vendor libraries and the allocator are
answered from outside; what a function opens and closes is listed for the ledger.
-/

namespace MiniRtsp.Rtsp

open Ledger Capture Encoder H264 Muxer Rtp Text

def rtspMediaWidth : Int := 2304
def rtspMediaHeight : Int := 1296
def rtspMediaFps : Nat := 30
def rtspMediaGop : Int := 30
def rtspMediaBitRate : Int := 4000000
def rtspMediaRtpClock : Nat := 90000
def rtspMediaDevicePathMax : Nat := 128
def rtspMediaRecordPathMax : Nat := 256
def liveMuxerId : Int := 0

def intMax : Nat := 2147483647

/-- `SIZE_MAX` on the target. -/
def sizeMax : Nat := 4294967295

/-- `g_annexb_start_code`. -/
def annexbStartCode : Bytes := [0x00, 0x00, 0x00, 0x01]

/-- `RTSPMedia`. Byte buffers are `none` for `NULL`; the camera path is only passed on to `open`. -/
structure RTSPMedia where
  capture : V4L2Capture
  encoder : MppEncoder
  sender : RTPSender
  sps : Option Bytes
  pps : Option Bytes
  bootstrapAu : Option Bytes
  bootstrapSequence : UInt32
  bootstrapConsumed : Bool
  recordPath : Bytes
  recordingEnabled : Bool
  warmupFrameCount : Int
  captureInitialized : Bool
  encoderInitialized : Bool
  initialized : Bool
  lockInitialized : Bool
  threadRunning : Bool
  stopRequested : Bool
  deriving DecidableEq, Repr

/-- A media record as `memset` leaves it. -/
def RTSPMedia.zero : RTSPMedia :=
  { capture := .zero, encoder := .zero, sender := .zero, sps := none, pps := none, bootstrapAu := none
    bootstrapSequence := 0, bootstrapConsumed := false, recordPath := [], recordingEnabled := false
    warmupFrameCount := 0, captureInitialized := false, encoderInitialized := false, initialized := false
    lockInitialized := false, threadRunning := false, stopRequested := false }

/-! ## Sending an access unit -/

/-- `media_rtp_send`. -/
def mediaRtpSend (sendto : List Datagram → Bytes → Int) (media : RTSPMedia) (network : List Datagram) (packet : Bytes) :
    List Datagram × Int :=
  rtpSenderSend sendto media.sender network packet

section Send

variable {σ : Type*} (send : σ → Bytes → σ × Int)

/-- `send_parameter_set`. -/
def sendParameterSet (nalu : Option Bytes) (timestamp : UInt32) (seq : UInt16) (context : σ) : SendResult σ :=
  match nalu with
  | none => ⟨context, seq, none⟩
  | some nalu =>
    if nalu.length = 0 ∨ nalu.length > intMax then ⟨context, seq, none⟩
    else h264RtpSendNaluCtx send nalu seq timestamp false context

/-- The loop of `send_access_unit` over the NALs; the marker goes with the last one. -/
def sendNalus (accessUnit : Bytes) (timestamp : UInt32) : List H264NaluView → UInt16 → σ → SendResult σ
  | [], seq, context => ⟨context, seq, some 0⟩
  | v :: vs, seq, context =>
    let marker := vs.isEmpty
    if v.size > intMax then ⟨context, seq, none⟩
    else
      (h264RtpSendNaluCtx send (v.bytes accessUnit) seq timestamp marker context).andThen fun seq context =>
        sendNalus accessUnit timestamp vs seq context

/-- `send_access_unit`; the callback stands for `media_rtp_send`. -/
def sendAccessUnit (media : RTSPMedia) (accessUnit : Bytes) (timestamp : UInt32) (prependParameterSets : Bool)
    (seq : UInt16) (context : σ) : SendResult σ :=
  match h264AnnexbCollect accessUnit annexbMaxNalus with
  | none => ⟨context, seq, none⟩
  | some nalus =>
    let hasSps := h264AnnexbContainsType accessUnit nalSps
    let hasPps := h264AnnexbContainsType accessUnit nalPps
    let sps := if prependParameterSets && !hasSps then sendParameterSet send media.sps timestamp seq context
      else ⟨context, seq, some 0⟩
    sps.andThen fun seq context =>
      let pps := if prependParameterSets && !hasPps then sendParameterSet send media.pps timestamp seq context
        else ⟨context, seq, some 0⟩
      pps.andThen fun seq context => sendNalus send accessUnit timestamp nalus seq context

end Send

/-! ## Capturing and encoding -/

/-- What the driver and the encoder answer to `capture_and_encode`. -/
structure CaptureAnswers where
  rounds : List AcquireRound
  requeue : Bool
  encode : EncodeAnswers
  release : Bool

/-- An encoded access unit. -/
structure Captured where
  data : Bytes
  sequence : UInt32
  timestampUs : Int
  deriving DecidableEq, Repr

/-- What `capture_and_encode` leaves: the pipeline, the access unit (`none` for `-1`), what was opened and closed, and
what happened to the camera buffers. -/
structure CaptureResult where
  media : RTSPMedia
  unit : Option Captured
  uses : List (Use Resource)
  buffers : List BufferUse

/-- The `expected_size` of `capture_and_encode`. -/
def expectedSize : Nat := rtspMediaWidth.toNat * rtspMediaHeight.toNat * 3 / 2

/-- `capture_and_encode`. -/
def captureAndEncode (answers : CaptureAnswers) (media : RTSPMedia) : CaptureResult :=
  let (acquired, buffers) := v4l2CaptureAcquireFrame media.capture answers.rounds answers.requeue
  match acquired with
  | .error _ => ⟨media, none, [], buffers⟩
  | .ok frame =>
    let (released, releaseUses) := v4l2CaptureReleaseFrame media.capture frame answers.release
    if frame.size < expectedSize then ⟨media, none, [], buffers ++ releaseUses⟩
    else
      let (encoder, len, out, uses) := mppEncoderEncode answers.encode media.encoder expectedSize
      let media := { media with encoder := encoder }
      match out with
      | none => ⟨media, none, uses, buffers ++ releaseUses⟩
      | some data =>
        if len ≤ 0 then ⟨media, none, uses, buffers ++ releaseUses⟩
        else if !released then ⟨media, none, uses, buffers ++ releaseUses⟩
        else ⟨media, some ⟨data, frame.sequence, frame.timestampUs⟩, uses, buffers ++ releaseUses⟩

/-- An access unit has at least one byte and at most `INT_MAX`. -/
theorem captureAndEncode_length {answers : CaptureAnswers} {media : RTSPMedia} {unit : Captured}
    (h : (captureAndEncode answers media).unit = some unit) : 0 < unit.data.length ∧ unit.data.length ≤ intMax := by
  unfold captureAndEncode at h
  dsimp only at h
  repeat' split at h
  all_goals cases h
  rename_i data hout hlen _
  obtain ⟨-, h1, h2⟩ := mppEncoderEncode_length hout (Int.not_le.mp hlen)
  exact ⟨h1, h2⟩

/-- One round of the draining loop: `v4l2_capture_acquire_frame` without waiting, then the release. -/
structure DrainRound where
  rounds : List AcquireRound
  requeue : Bool
  release : Bool

/-- `drain_stale_capture_buffers`: at most `buffer_count` frames are acquired and released; whether it succeeded. -/
def drainStaleCaptureBuffers (answers : Nat → DrainRound) (capture : V4L2Capture) : Nat → Nat → Bool × List BufferUse
  | 0, _ => (true, [])
  | n + 1, i =>
    let (acquired, buffers) := v4l2CaptureAcquireFrame capture (answers i).rounds (answers i).requeue
    match acquired with
    | .error e => (e = .eagain || e = .etimedout, buffers)
    | .ok frame =>
      let (released, releaseUses) := v4l2CaptureReleaseFrame capture frame (answers i).release
      if !released then (false, buffers ++ releaseUses)
      else
        let (ok, rest) := drainStaleCaptureBuffers answers capture n (i + 1)
        (ok, buffers ++ releaseUses ++ rest)

/-- `prepare_bootstrap_access_unit`; `allocs` answer the `malloc`s of `h264_annexb_copy_parameter_sets`. -/
def prepareBootstrapAccessUnit (answers : CaptureAnswers) (allocs : List Bool) (media : RTSPMedia) :
    RTSPMedia × List (Use Resource) × Bool :=
  let captured := captureAndEncode answers media
  let media := captured.media
  match captured.unit with
  | none => (media, captured.uses, false)
  | some unit =>
    if !h264AnnexbContainsType unit.data nalIdr then (media, captured.uses, false)
    else
      match h264AnnexbCopyParameterSets unit.data allocs with
      | none => (media, captured.uses, false)
      | some (sps, pps) =>
        ({ media with sps := some sps, pps := some pps, bootstrapAu := some unit.data,
                      bootstrapSequence := unit.sequence, bootstrapConsumed := false }, captured.uses, true)

/-! ## Recording an access unit -/

/-- What `build_complete_mp4_start_au` leaves: `*owned_buffer` and `*write_data`, or `none` for `-1`. -/
structure StartAu where
  ownedBuffer : Option Bytes
  writeData : Bytes
  deriving DecidableEq, Repr

/-- `build_complete_mp4_start_au`; `malloc` answers the allocation. -/
def buildCompleteMp4StartAu (malloc : Bool) (media : RTSPMedia) (accessUnit : Bytes) : Option StartAu :=
  if accessUnit.length = 0 then none
  else if !h264AnnexbContainsType accessUnit nalIdr then none
  else
    let hasSps := h264AnnexbContainsType accessUnit nalSps
    let hasPps := h264AnnexbContainsType accessUnit nalPps
    if hasSps && hasPps then some ⟨none, accessUnit⟩
    else
      match media.sps, media.pps with
      | some sps, some pps =>
        let code := annexbStartCode.length
        if sps.length = 0 ∨ pps.length = 0 then none
        else if sps.length > sizeMax - code ∨ pps.length > sizeMax - code then none
        else if code + sps.length > sizeMax - code - pps.length then none
        else if code + sps.length + (code + pps.length) > sizeMax - accessUnit.length then none
        else if !malloc then none
        else
          let buffer := annexbStartCode ++ sps ++ annexbStartCode ++ pps ++ accessUnit
          some ⟨some buffer, buffer⟩
      | _, _ => none

/-- `write_mp4_access_unit`: what `mp4_muxer_write_h264` left, or `none` when the access unit could not be completed. -/
def writeMp4AccessUnit (malloc : Bool) (rkmuxerWrite : Int) (media : RTSPMedia) (muxer : Mp4Muxer) (accessUnit : Bytes)
    (recordingFrameIndex : UInt64) : Option WriteResult :=
  let start :=
    if recordingFrameIndex = 0 then buildCompleteMp4StartAu malloc media accessUnit else some ⟨none, accessUnit⟩
  start.map fun start =>
    let ptsUs := (recordingFrameIndex * 1000000 / UInt64.ofNat rtspMediaFps).toInt64.toInt
    mp4MuxerWriteH264 rkmuxerWrite muxer start.writeData ptsUs

/-! ## Opening and closing the pipeline -/

/-- `record_path_disabled`. -/
def recordPathDisabled (recordPath : Option Bytes) : Bool :=
  match recordPath with
  | none => true
  | some path => path = [] || path = ascii "-"

/-- What the system answers to `rtsp_media_init`. -/
structure MediaInitAnswers where
  mutex : Bool
  capture : Capture.InitAnswers
  warmup : Nat → DrainRound
  encoder : Encoder.InitAnswers
  bootstrap : CaptureAnswers
  allocs : List Bool

/-- The warm-up loop of `rtsp_media_init`; whether it succeeded. -/
def warmupFrames (answers : Nat → DrainRound) (capture : V4L2Capture) : Nat → Nat → Bool
  | 0, _ => true
  | n + 1, i =>
    match (v4l2CaptureAcquireFrame capture (answers i).rounds (answers i).requeue).1 with
    | .error _ => false
    | .ok frame =>
      (v4l2CaptureReleaseFrame capture frame (answers i).release).1 && warmupFrames answers capture n (i + 1)

/-- The encoder in `rtsp_media_close`. -/
def closeEncoder (media : RTSPMedia) : RTSPMedia × List (Use Resource) :=
  if media.encoderInitialized then
    ({ media with encoder := (mppEncoderClose media.encoder).1, encoderInitialized := false },
      .release .encoder :: (mppEncoderClose media.encoder).2)
  else (media, [])

/-- The camera in `rtsp_media_close`. -/
def closeCapture (media : RTSPMedia) : RTSPMedia × List (Use Resource) :=
  if media.captureInitialized then
    ({ media with capture := (v4l2CaptureClose media.capture).1, captureInitialized := false },
      .release .camera :: (v4l2CaptureClose media.capture).2)
  else (media, [])

/-- The mutex in `rtsp_media_close`. -/
def destroyLock (media : RTSPMedia) : RTSPMedia × List (Use Resource) :=
  if media.lockInitialized then ({ media with lockInitialized := false }, [.release .mutex]) else (media, [])

/-- `rtsp_media_close` after its `rtsp_media_stop`. -/
def rtspMediaClose (media : RTSPMedia) : RTSPMedia × List (Use Resource) :=
  let (sender, senderUses) := rtpSenderClose media.sender
  let media := { media with sender := sender, bootstrapAu := none, sps := none, pps := none }
  let (media, encoderUses) := closeEncoder media
  let (media, captureUses) := closeCapture media
  let (media, lockUses) := destroyLock { media with initialized := false }
  (media, senderUses ++ encoderUses ++ captureUses ++ lockUses)

/-- `FAIL:` of `rtsp_media_init`; its `rtsp_media_stop` finds no thread. -/
def mediaInitFail (media : RTSPMedia) (uses : List (Use Resource)) : RTSPMedia × List (Use Resource) × Bool :=
  let (media, closing) := rtspMediaClose { media with stopRequested := true }
  (media, uses ++ closing, false)

/-- `rtsp_media_init` from the encoder on. -/
def initEncoder (answers : MediaInitAnswers) (media : RTSPMedia) (uses : List (Use Resource)) :
    RTSPMedia × List (Use Resource) × Bool :=
  let (encoder, encoderUses, ok) := mppEncoderInitEx answers.encoder media.encoder rtspMediaWidth rtspMediaHeight
    rtspMediaFps rtspMediaGop rtspMediaBitRate
  let media := { media with encoder := encoder }
  if !ok then mediaInitFail media (uses ++ encoderUses)
  else
    let media := { media with encoderInitialized := true }
    let uses := uses ++ encoderUses ++ [.acquire .encoder]
    let (media, bootstrapUses, ok) := prepareBootstrapAccessUnit answers.bootstrap answers.allocs media
    if !ok then mediaInitFail media (uses ++ bootstrapUses)
    else ({ media with initialized := true }, uses ++ bootstrapUses, true)

/-- `rtsp_media_init` from the mutex on. -/
def initPipeline (answers : MediaInitAnswers) (media : RTSPMedia) : RTSPMedia × List (Use Resource) × Bool :=
  if !answers.mutex then (media, [], false)
  else
    let media := { media with lockInitialized := true }
    let (capture, captureUses, ok) := v4l2CaptureInit answers.capture media.capture rtspMediaWidth rtspMediaHeight
    let media := { media with capture := capture }
    if !ok then mediaInitFail media (.acquire .mutex :: captureUses)
    else
      let media := { media with captureInitialized := true }
      let uses := .acquire .mutex :: captureUses ++ [.acquire .camera]
      if capture.width ≠ rtspMediaWidth ∨ capture.height ≠ rtspMediaHeight ∨ capture.bytesperline ≠ rtspMediaWidth then
        mediaInitFail media uses
      else if !warmupFrames answers.warmup capture media.warmupFrameCount.toNat 0 then mediaInitFail media uses
      else initEncoder answers media uses

/-- `rtsp_media_init`: the media record, what was taken and given back, and whether it succeeded. -/
def rtspMediaInit (answers : MediaInitAnswers) (media : RTSPMedia) (devicePath recordPath : Option Bytes)
    (warmupFrameCount : Int) : RTSPMedia × List (Use Resource) × Bool :=
  if warmupFrameCount < 0 then (media, [], false)
  else
    let media := { RTSPMedia.zero with
      capture := { V4L2Capture.zero with fd := -1 }, sender := { RTPSender.zero with sockfd := -1 },
      warmupFrameCount := warmupFrameCount }
    match devicePath with
    | none => (media, [], false)
    | some devicePath =>
      if devicePath = [] ∨ devicePath.length ≥ rtspMediaDevicePathMax then (media, [], false)
      else if recordPathDisabled recordPath then initPipeline answers media
      else
        let path := recordPath.getD []
        if path.length ≥ rtspMediaRecordPathMax then (media, [], false)
        else initPipeline answers { media with recordPath := path, recordingEnabled := true }

end MiniRtsp.Rtsp
