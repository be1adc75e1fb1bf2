import MiniRtsp.Capture.Buffers
import MiniRtsp.Lib.Trace
import MiniRtsp.Rtsp.Media

/-!
# Calls to the camera

`capture_and_encode` with its output parameters as it sets them one by one (`captureAndEncodeCall`), of which the
pipeline sees the result (`captureAndEncode_eq`). Whatever is called in whatever order, and whatever fails, every camera
buffer that was taken has been given back when the call returns (`camera_conservation`).
-/

namespace MiniRtsp.Rtsp

open Capture Encoder Ledger Trace

/-! ## `capture_and_encode` with its outputs -/

/-- The return value and the output parameters; `sequence` and `captureTimestampUs` are `none` where they are not
written. -/
structure EncodeOutput where
  ret : Int
  h264Data : Option Bytes
  h264Len : Int
  sequence : Option UInt32
  captureTimestampUs : Option Int

/-- `CLEANUP:` with an acquired frame. -/
def releaseLiveFrame (answers : CaptureAnswers) (capture : V4L2Capture) (frame : V4L2Frame) (out : EncodeOutput) :
    EncodeOutput × List BufferUse :=
  let (released, back) := v4l2CaptureReleaseFrame capture frame answers.release
  (if released then out else { out with ret := -1, h264Data := none, h264Len := -1 }, back)

/-- What a call leaves. -/
structure EncodeCall where
  media : RTSPMedia
  out : EncodeOutput
  uses : List (Use Resource)
  buffers : List BufferUse

/-- `capture_and_encode` with its output parameters. -/
def captureAndEncodeCall (answers : CaptureAnswers) (media : RTSPMedia) : EncodeCall :=
  let out := ⟨-1, none, -1, none, none⟩
  let (acquired, buffers) := v4l2CaptureAcquireFrame media.capture answers.rounds answers.requeue
  match acquired with
  | .error _ => ⟨media, out, [], buffers⟩
  | .ok frame =>
    if frame.size < expectedSize then
      let (out, back) := releaseLiveFrame answers media.capture frame out
      ⟨media, out, [], buffers ++ back⟩
    else
      let (encoder, len, data, uses) := mppEncoderEncode answers.encode media.encoder expectedSize
      let out : EncodeOutput :=
        { ret := -1, h264Data := data, h264Len := len, sequence := some frame.sequence
          captureTimestampUs := some frame.timestampUs }
      let out := if len ≤ 0 ∨ data = none then { out with h264Data := none, h264Len := -1 } else { out with ret := 0 }
      let (out, back) := releaseLiveFrame answers media.capture frame out
      ⟨{ media with encoder := encoder }, out, uses, buffers ++ back⟩

/-- The access unit that the caller has when the call returned 0. -/
def EncodeOutput.unit (out : EncodeOutput) : Option Captured :=
  if out.ret = 0 then
    match out.h264Data, out.sequence, out.captureTimestampUs with
    | some data, some sequence, some timestampUs => some ⟨data, sequence, timestampUs⟩
    | _, _, _ => none
  else none

/-- **What the pipeline sees** of the call. -/
theorem captureAndEncode_eq (answers : CaptureAnswers) (media : RTSPMedia) :
    captureAndEncode answers media =
      ⟨(captureAndEncodeCall answers media).media, (captureAndEncodeCall answers media).out.unit,
        (captureAndEncodeCall answers media).uses, (captureAndEncodeCall answers media).buffers⟩ := by
  unfold captureAndEncode captureAndEncodeCall releaseLiveFrame
  rcases v4l2CaptureAcquireFrame media.capture answers.rounds answers.requeue with ⟨acquired, buffers⟩
  cases acquired with
  | error e => rfl
  | ok frame =>
    dsimp only
    rcases v4l2CaptureReleaseFrame media.capture frame answers.release with ⟨released, back⟩
    by_cases hshort : frame.size < expectedSize
    · rw [if_pos hshort, if_pos hshort]
      cases released <;> rfl
    · rw [if_neg hshort, if_neg hshort]
      rcases mppEncoderEncode answers.encode media.encoder expectedSize with ⟨encoder, len, data, uses⟩
      cases data with
      | none =>
        simp only [or_true, if_true]
        cases released <;> rfl
      | some data =>
        by_cases hlen : len ≤ 0
        · simp only [hlen, true_or, if_true]
          cases released <;> rfl
        · simp only [hlen, reduceCtorEq, or_self, if_false]
          cases released <;> rfl

/-- **The outputs**: a non-empty access unit with its length, or nothing. -/
inductive EncodeOutput.Settled (out : EncodeOutput) : Prop where
  | unit {data : Bytes} (ret : out.ret = 0) (h264Data : out.h264Data = some data) (nonempty : data ≠ [])
      (h264Len : out.h264Len = data.length)
  | nothing (ret : out.ret = -1) (h264Data : out.h264Data = none) (h264Len : out.h264Len = -1)

/-- Behind `CLEANUP:` nothing is left of an access unit whose frame could not be given back. -/
theorem releaseLiveFrame_settled (answers : CaptureAnswers) (capture : V4L2Capture) (frame : V4L2Frame)
    {out : EncodeOutput} (h : out.Settled) : (releaseLiveFrame answers capture frame out).1.Settled := by
  unfold releaseLiveFrame
  dsimp only
  split
  · exact h
  · exact .nothing rfl rfl rfl

theorem captureAndEncodeCall_settled (answers : CaptureAnswers) (media : RTSPMedia) :
    (captureAndEncodeCall answers media).out.Settled := by
  have hnothing : EncodeOutput.Settled ⟨-1, none, -1, none, none⟩ := .nothing rfl rfl rfl
  unfold captureAndEncodeCall
  rcases v4l2CaptureAcquireFrame media.capture answers.rounds answers.requeue with ⟨acquired, buffers⟩
  cases acquired with
  | error e => exact hnothing
  | ok frame =>
    dsimp only
    split
    · exact releaseLiveFrame_settled answers media.capture frame hnothing
    · rcases hencode : mppEncoderEncode answers.encode media.encoder expectedSize with ⟨encoder, len, data, uses⟩
      apply releaseLiveFrame_settled
      dsimp only
      split
      · exact .nothing rfl rfl rfl
      · rename_i hout
        rw [not_or] at hout
        obtain ⟨hpos, hdata⟩ := hout
        obtain ⟨bytes, rfl⟩ := Option.ne_none_iff_exists'.mp hdata
        have hlength := @mppEncoderEncode_length answers.encode media.encoder expectedSize bytes
        rw [hencode] at hlength
        obtain ⟨hlen, hnonempty, -⟩ := hlength rfl (by dsimp only; omega)
        exact .unit rfl rfl (List.ne_nil_of_length_pos hnonempty) hlen.symm

/-! ## Calls in any order -/

/-- The calls that take buffers of the camera. -/
inductive CameraCall where
  | encode (answers : CaptureAnswers)
  | drain (answers : Nat → DrainRound)
  | getFrame (answers : GetFrameAnswers)

/-- The pipeline and the copy of the legacy call. -/
structure Camera where
  media : RTSPMedia
  legacyCopy : Bytes

/-- A call: what it leaves, and what happened to the buffers. -/
def cameraCall : CameraCall → Camera → Camera × List BufferUse
  | .encode answers, s =>
    let call := captureAndEncodeCall answers s.media
    ({ s with media := call.media }, call.buffers)
  | .drain answers, s => (s, (drainStaleCaptureBuffers answers s.media.capture s.media.capture.bufferCount 0).2)
  | .getFrame answers, s =>
    let result := v4l2CaptureGetFrame answers s.media.capture s.legacyCopy
    ({ s with legacyCopy := result.legacyCopy }, result.buffers)

theorem captureAndEncodeCall_bracketed (answers : CaptureAnswers) (media : RTSPMedia) :
    (captureAndEncodeCall answers media).media.capture = media.capture ∧
      Bracketed (bufferUses media.capture.bufferCount (captureAndEncodeCall answers media).buffers) := by
  have hacquired := acquire_acquired media.capture answers.rounds answers.requeue
  unfold captureAndEncodeCall
  generalize v4l2CaptureAcquireFrame media.capture answers.rounds answers.requeue = acquired at hacquired
  cases hacquired with
  | failed e back => exact ⟨rfl, back⟩
  | @frame frame delivered =>
    have hback := delivered.bracketed answers.release
    dsimp only
    split
    · exact ⟨rfl, hback⟩
    · exact ⟨rfl, hback⟩

theorem drain_bracketed (answers : Nat → DrainRound) (capture : V4L2Capture) (n i : Nat) :
    Bracketed (bufferUses capture.bufferCount (drainStaleCaptureBuffers answers capture n i).2) := by
  induction n generalizing i with
  | zero => exact .nil
  | succ n ih =>
    have hacquired := acquire_acquired capture (answers i).rounds (answers i).requeue
    unfold drainStaleCaptureBuffers
    generalize v4l2CaptureAcquireFrame capture (answers i).rounds (answers i).requeue = acquired at hacquired
    cases hacquired with
    | failed e back => exact back
    | @frame frame delivered =>
      have hback := delivered.bracketed (answers i).release
      dsimp only
      split
      · exact hback
      · rw [bufferUses_append]
        exact hback.append (ih (i + 1))

/-- **A call** gives back what it takes, and leaves the camera as it is. -/
theorem cameraCall_bracketed (call : CameraCall) (s : Camera) :
    (cameraCall call s).1.media.capture = s.media.capture ∧
      Bracketed (bufferUses s.media.capture.bufferCount (cameraCall call s).2) := by
  cases call with
  | encode answers => exact captureAndEncodeCall_bracketed answers s.media
  | drain answers => exact ⟨rfl, drain_bracketed answers s.media.capture _ 0⟩
  | getFrame answers => exact ⟨rfl, getFrame_bracketed answers s.media.capture s.legacyCopy⟩

/-- **Camera buffers are conserved.** -/
theorem camera_conservation (media : RTSPMedia) (legacyCopy : Bytes) (calls : List CameraCall) :
    let h := run cameraCall ⟨media, legacyCopy⟩ calls
    let uses := bufferUses media.capture.bufferCount h.events
    (Sound uses ∧ Settled uses ∧ Within 1 uses) ∧
    (∀ rounds qbuf frame, (v4l2CaptureAcquireFrame h.state.media.capture rounds qbuf).1 = .ok frame →
      frame.index < media.capture.bufferCount ∧
        frame.data + frame.size ≤ (media.capture.buffers.getD frame.index ⟨false, 0⟩).length) ∧
    ∀ answers, (captureAndEncodeCall answers h.state.media).out.Settled := by
  intro h uses
  have hrun : h.state.media.capture = media.capture ∧ Bracketed uses := by
    apply run_induction cameraCall
      (P := fun h => h.state.media.capture = media.capture ∧ Bracketed (bufferUses media.capture.bufferCount h.events))
    · exact ⟨rfl, .nil⟩
    · intro past call _ hpast
      obtain ⟨hkept, hback⟩ := cameraCall_bracketed call (run cameraCall ⟨media, legacyCopy⟩ past).state
      rw [hpast.1] at hkept hback
      refine ⟨hkept, ?_⟩
      show Bracketed (bufferUses _ (_ ++ _))
      rw [bufferUses_append]
      exact hpast.2.append hback
  obtain ⟨hkept, hback⟩ := hrun
  refine ⟨⟨hback.holds.sound, hback.holds.settled, hback.within⟩, ?_, ?_⟩
  · intro rounds qbuf frame hframe
    rw [hkept] at hframe
    have hacquired := acquire_acquired media.capture rounds qbuf
    generalize v4l2CaptureAcquireFrame media.capture rounds qbuf = acquired at hacquired hframe
    cases hacquired with
    | failed e back => cases hframe
    | frame delivered =>
      obtain rfl : _ = frame := Except.ok.inj hframe
      exact ⟨delivered.index, delivered.inside⟩
  · intro answers
    exact captureAndEncodeCall_settled answers h.state.media

end MiniRtsp.Rtsp
