import MiniRtsp.Rtsp.Media
import MiniRtsp.Rtsp.Session

/-!
# The media thread

`media_thread` of `rtsp/rtsp_media.c` as a machine that makes one step between two points at which another thread can
interfere: opening the RTP socket and the recording, draining the camera, asking whether to go on, capturing and
recording an access unit, sending one of its packets, and the four steps behind `EXIT`. Every call to the outside is
answered by the step's `ThreadAnswers`; what the thread does is listed as events.
-/

namespace MiniRtsp.Rtsp

open Ledger Capture H264 Muxer Rtp

/-- Where the thread is. -/
inductive ThreadPc where
  | initSender
  | initMuxer
  | drain
  | consume
  | loopHead
  | capture
  /-- In `send_access_unit`: the packets still to go, and whether it returns a count after them. -/
  | sending (packets : List Bytes) (complete : Bool)
  /-- `EXIT:` -/
  | closeSender
  | closeMuxer
  | clearPlaying
  | summary
  | exited
  deriving DecidableEq, Repr

/-- The locals of `media_thread`, without the clock readings of its summary. -/
structure Thread where
  pc : ThreadPc
  muxer : Mp4Muxer
  muxerInitialized : Bool
  seq : UInt16
  timestamp : UInt32
  recordingFrameCount : UInt64
  frameCount : UInt32
  capturedFrameCount : UInt32
  sequenceGapCount : UInt32
  lastCaptureSequence : UInt32
  firstLiveSequence : UInt32
  lastLiveSequence : UInt32
  sequenceInitialized : Bool
  waitingForIdr : Bool
  deriving DecidableEq, Repr

/-- A thread that has just been created. -/
def Thread.start : Thread :=
  { pc := .initSender, muxer := .zero, muxerInitialized := false, seq := 100, timestamp := 0, recordingFrameCount := 0
    frameCount := 0, capturedFrameCount := 0, sequenceGapCount := 0, lastCaptureSequence := 0, firstLiveSequence := 0
    lastLiveSequence := 0, sequenceInitialized := false, waitingForIdr := true }

/-- `timestamp_step`. -/
def timestampStep : UInt32 := UInt32.ofNat (rtspMediaRtpClock / rtspMediaFps)

/-- What the outside answers to a step. -/
structure ThreadAnswers where
  sender : SenderAnswers
  rkmuxerInit : Int
  drain : Nat → DrainRound
  externalStop : Bool
  capture : CaptureAnswers
  malloc : Bool
  rkmuxerWrite : Int
  sendto : Bytes → Int
  rkmuxerDeinit : Int

/-- What the thread does. -/
inductive ThreadEvent where
  | use (u : Use Resource)
  /-- `capture_and_encode` returned an access unit. -/
  | returned (unit : Captured)
  /-- `write_mp4_access_unit` was called with an access unit. -/
  | recording (accessUnit : Bytes) (result : Option WriteResult)
  /-- `send_access_unit` was called with an access unit. -/
  | streaming (accessUnit : Bytes) (timestamp : UInt32) (prepend : Bool)
  /-- A packet left the socket. -/
  | sent (datagram : Datagram)
  /-- `send_access_unit` returned a count. -/
  | streamed
  /-- The thread returned: its frame, recording and gap counters. -/
  | summary (frames : UInt32) (recorded : UInt64) (gaps : UInt32)
  deriving DecidableEq

/-- What the thread and the server share, and the thread. -/
structure Live where
  media : RTSPMedia
  session : RTSPSession
  thread : Thread

/-- `media_should_run`; `externalStop` is the stop flag. -/
def mediaShouldRun (externalStop : Bool) (media : RTSPMedia) (session : RTSPSession) : Bool :=
  if externalStop then false else !media.stopRequested && session.playing

/-- The callback that notes the packets it is given. -/
def record (packets : List Bytes) (packet : Bytes) : List Bytes × Int := (packets ++ [packet], packet.length)

/-- `rtp_sender_init_ex` at the start of the thread. -/
def openSender (answers : ThreadAnswers) (live : Live) : Live × List ThreadEvent :=
  let (sender, uses, ok) := rtpSenderInitEx answers.sender live.media.sender live.session.serverRtpPort
    live.session.clientIp live.session.clientRtpPort
  let pc := if !ok then .closeSender else if live.media.recordingEnabled then .initMuxer else .drain
  ({ live with media := { live.media with sender := sender }, thread := { live.thread with pc := pc } }, uses.map .use)

/-- `mp4_muxer_init`. -/
def openMuxer (answers : ThreadAnswers) (live : Live) : Live :=
  let (muxer, ok) := mp4MuxerInit answers.rkmuxerInit live.thread.muxer liveMuxerId live.media.recordPath rtspMediaWidth
    rtspMediaHeight rtspMediaFps rtspMediaBitRate
  let pc := if ok then .drain else .closeSender
  { live with thread := { live.thread with muxer := muxer, muxerInitialized := ok, pc := pc } }

/-- The sequence numbers of the camera: the gap to the previous frame is counted. -/
def Thread.account (t : Thread) (captureSequence : UInt32) : Thread :=
  let t := { t with capturedFrameCount := t.capturedFrameCount + 1 }
  let t :=
    if !t.sequenceInitialized then { t with firstLiveSequence := captureSequence, sequenceInitialized := true }
    else
      let expected := t.lastCaptureSequence + 1
      if captureSequence ≠ expected ∧ captureSequence > expected then
        { t with sequenceGapCount := t.sequenceGapCount + (captureSequence - expected) }
      else t
  { t with lastCaptureSequence := captureSequence, lastLiveSequence := captureSequence }

/-- What follows `send_access_unit`. -/
def Thread.afterSend (t : Thread) (complete : Bool) : Thread × List ThreadEvent :=
  if complete then
    ({ t with
        frameCount := t.frameCount + 1
        recordingFrameCount := if t.muxerInitialized then t.recordingFrameCount + 1 else t.recordingFrameCount
        timestamp := t.timestamp + timestampStep
        pc := .loopHead }, [.streamed])
  else ({ t with pc := .closeSender }, [])

/-- The call of `send_access_unit`: its packets are those it hands to a callback that only notes them. -/
def beginSend (media : RTSPMedia) (t : Thread) (accessUnit : Bytes) (prepend : Bool) : Thread × List ThreadEvent :=
  let r := sendAccessUnit record media accessUnit t.timestamp prepend t.seq []
  let call := .streaming accessUnit t.timestamp prepend
  if r.context = [] then
    let (t, events) := t.afterSend r.ret.isSome
    (t, call :: events)
  else ({ t with pc := .sending r.context r.ret.isSome }, [call])

/-- The loop body from the IDR decision to the call of `send_access_unit`. -/
def deliver (answers : ThreadAnswers) (media : RTSPMedia) (t : Thread) (accessUnit : Bytes) :
    Thread × List ThreadEvent :=
  let isIdr := h264AnnexbContainsType accessUnit nalIdr
  if t.waitingForIdr && !isIdr then ({ t with pc := .loopHead }, [])
  else
    let prepend := t.waitingForIdr && isIdr
    let t := { t with waitingForIdr := false }
    if t.muxerInitialized then
      match writeMp4AccessUnit answers.malloc answers.rkmuxerWrite media t.muxer accessUnit t.recordingFrameCount with
      | none => ({ t with pc := .closeSender }, [.recording accessUnit none])
      | some r =>
        if r.error ≠ none then ({ t with muxer := r.muxer, pc := .closeSender }, [.recording accessUnit (some r)])
        else
          let (t, events) := beginSend media { t with muxer := r.muxer } accessUnit prepend
          (t, .recording accessUnit (some r) :: events)
    else beginSend media t accessUnit prepend

/-- The loop body up to the call of `send_access_unit`. -/
def captureStep (answers : ThreadAnswers) (live : Live) : Live × List ThreadEvent :=
  let captured := captureAndEncode answers.capture live.media
  match captured.unit with
  | none =>
    ({ live with media := captured.media, thread := { live.thread with pc := .closeSender } }, captured.uses.map .use)
  | some unit =>
    let (t, events) := deliver answers captured.media (live.thread.account unit.sequence) unit.data
    ({ live with media := captured.media, thread := t }, captured.uses.map .use ++ .returned unit :: events)

/-- One packet: `rtp_sender_send` in `send_access_unit`. -/
def sendStep (answers : ThreadAnswers) (live : Live) (packet : Bytes) (rest : List Bytes) (complete : Bool) :
    Live × List ThreadEvent :=
  let (network, ret) := rtpSenderSend (fun _ p => answers.sendto p) live.media.sender [] packet
  let sent := network.map .sent
  if ret < 0 then ({ live with thread := { live.thread with pc := .closeSender } }, sent)
  else
    let t := { live.thread with seq := live.thread.seq + 1 }
    if rest = [] then
      let (t, events) := t.afterSend complete
      ({ live with thread := t }, sent ++ events)
    else ({ live with thread := { t with pc := .sending rest complete } }, sent)

/-- A step of the media thread. -/
def threadStep (answers : ThreadAnswers) (live : Live) : Live × List ThreadEvent :=
  match live.thread.pc with
  | .initSender => openSender answers live
  | .initMuxer => (openMuxer answers live, [])
  | .drain =>
    let drained := (drainStaleCaptureBuffers answers.drain live.media.capture live.media.capture.bufferCount 0).1
    ({ live with thread := { live.thread with pc := if drained then .consume else .closeSender } }, [])
  | .consume =>
    ({ live with
        media := { live.media with bootstrapConsumed := true }, thread := { live.thread with pc := .loopHead } }, [])
  | .loopHead =>
    let shouldRun := mediaShouldRun answers.externalStop live.media live.session
    ({ live with thread := { live.thread with pc := if shouldRun then .capture else .closeSender } }, [])
  | .capture => captureStep answers live
  | .sending [] complete =>
    let (t, events) := live.thread.afterSend complete
    ({ live with thread := t }, events)
  | .sending (packet :: rest) complete => sendStep answers live packet rest complete
  | .closeSender =>
    let (sender, uses) := rtpSenderClose live.media.sender
    ({ live with media := { live.media with sender := sender }, thread := { live.thread with pc := .closeMuxer } },
      uses.map .use)
  | .closeMuxer =>
    let muxer :=
      if live.thread.muxerInitialized then (mp4MuxerClose answers.rkmuxerDeinit live.thread.muxer).1
      else live.thread.muxer
    ({ live with thread := { live.thread with muxer := muxer, pc := .clearPlaying } }, [])
  | .clearPlaying =>
    ({ live with session := { live.session with playing := false }, thread := { live.thread with pc := .summary } }, [])
  | .summary =>
    ({ live with thread := { live.thread with pc := .exited } },
      [.summary live.thread.frameCount live.thread.recordingFrameCount live.thread.sequenceGapCount])
  | .exited => (live, [])

/-- Who moves: the thread, or the server, which may change the stop request and the session under it. -/
inductive Turn where
  | thread (answers : ThreadAnswers)
  | server (stopRequested : Bool) (session : RTSPSession)

/-- A step of the media thread or of the server beside it. -/
def turnStep : Turn → Live → Live × List ThreadEvent
  | .thread answers, live => threadStep answers live
  | .server stopRequested session, live =>
    ({ live with media := { live.media with stopRequested := stopRequested }, session := session }, [])

end MiniRtsp.Rtsp
