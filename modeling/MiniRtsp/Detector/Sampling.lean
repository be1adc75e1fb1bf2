import MiniRtsp.Capture.V4L2Capture
import MiniRtsp.Lib.Pacing
import MiniRtsp.Lib.Trace

/-!
# Sampling frames for the detector

The capture loop of `main` in `tools/live_person_detect_test/main.c`, from the choice of the rates to `cleanup`. Every
frame of full size adds `detect_fps` to an accumulator; when this reaches `camera_fps` the frame is submitted to the
detector. A short frame ends the loop before it gets there. So the loop offers full frames at the pace of `Paced`
(`run_sampled`). The status lines that the loop prints read its counters and change nothing; they are left out.
-/

namespace MiniRtsp.Detector

open Capture Trace

/-! ## The loop -/

/-- `rounded_camera_fps`. -/
def roundedCameraFps (capture : Option V4L2Capture) : Int :=
  match capture with
  | none => 30
  | some capture =>
    let numerator := capture.fpsNumerator
    let denominator := capture.fpsDenominator
    if numerator = 0 ∨ denominator = 0 then 30
    else
      let rounded := (denominator + numerator / 2) / numerator
      if rounded = 0 ∨ rounded > 60 then 30 else rounded.toNat

/-- What `main` has settled before its capture loop, and the loop only reads. -/
structure LoopConfig where
  capture : V4L2Capture
  expectedNv12Size : Nat
  durationSeconds : Int
  startMs : Int
  cameraFps : Int
  detectFps : Int

/-- The variables of the loop; `exitCode` is set when it has been left. -/
structure LoopState where
  aiAccumulator : Int
  capturedFrames : UInt64
  sequenceGaps : UInt64
  previousSequence : UInt32
  havePreviousSequence : Bool
  exitCode : Option Int
  deriving DecidableEq, Repr

/-- A captured frame, and whether `live_person_detector_submit` was called with it. -/
structure Captured where
  frame : V4L2Frame
  offered : Bool
  deriving DecidableEq, Repr

/-- What one round of the loop meets: the tests at its head, the clock, the driver, the detector. -/
structure RoundAnswers where
  stop : Bool
  shouldQuit : Bool
  nowMs : Int
  acquire : List AcquireRound
  requeue : Bool
  /-- After a capture that failed: `errno == EINTR && g_stop`. -/
  interrupted : Bool
  submitResult : Int
  release : Bool
  /-- `isp_control_should_quit` behind the loop. -/
  quitAfter : Bool

/-- The loop with `camera_fps` and the rate asked for: `detect_fps` never exceeds `camera_fps`. -/
def loopConfig (capture : V4L2Capture) (expectedNv12Size : Nat) (durationSeconds startMs cameraFps detectFps : Int) :
    LoopConfig :=
  { capture, expectedNv12Size, durationSeconds, startMs, cameraFps
    detectFps := if detectFps > cameraFps then cameraFps else detectFps }

/-- The variables before the loop. -/
def loopStart (config : LoopConfig) : LoopState :=
  { aiAccumulator := config.cameraFps - config.detectFps, capturedFrames := 0, sequenceGaps := 0
    previousSequence := 0, havePreviousSequence := false, exitCode := none }

/-- `goto cleanup`. -/
def LoopState.cleanup (s : LoopState) : LoopState := { s with exitCode := some 1 }

/-- `break`, or the end of the `while` loop, and what stands behind it. -/
def LoopState.leave (s : LoopState) (answers : RoundAnswers) : LoopState :=
  { s with exitCode := some (if answers.quitAfter then 1 else 0) }

/-- The frame is counted, and the frames that were lost before it. -/
def countCaptured (s : LoopState) (frame : V4L2Frame) : LoopState :=
  { s with
    capturedFrames := s.capturedFrames + 1
    sequenceGaps :=
      if s.havePreviousSequence ∧ frame.sequence > s.previousSequence + 1 then
        s.sequenceGaps + (frame.sequence - s.previousSequence - 1).toUInt64
      else s.sequenceGaps
    previousSequence := frame.sequence
    havePreviousSequence := true }

/-- The accumulator takes in a frame: whether it reaches `camera_fps`. -/
def accumulate (config : LoopConfig) (s : LoopState) : LoopState × Bool :=
  let aiAccumulator := s.aiAccumulator + config.detectFps
  if aiAccumulator ≥ config.cameraFps then ({ s with aiAccumulator := aiAccumulator - config.cameraFps }, true)
  else ({ s with aiAccumulator }, false)

/-- A round of the loop once a frame has been acquired. -/
def handleFrame (config : LoopConfig) (answers : RoundAnswers) (s : LoopState) (frame : V4L2Frame) :
    LoopState × List Captured :=
  let s := countCaptured s frame
  if frame.size < config.expectedNv12Size then (s.cleanup, [⟨frame, false⟩])
  else
    let (s, offered) := accumulate config s
    if offered ∧ answers.submitResult < 0 then (s.cleanup, [⟨frame, offered⟩])
    else if !(v4l2CaptureReleaseFrame config.capture frame answers.release).1 then (s.cleanup, [⟨frame, offered⟩])
    else (s, [⟨frame, offered⟩])

/-- One round of the loop; nothing happens once it has been left. -/
def loopStep (config : LoopConfig) (answers : RoundAnswers) (s : LoopState) : LoopState × List Captured :=
  if s.exitCode.isSome then (s, [])
  else if answers.stop ∨ answers.shouldQuit then (s.leave answers, [])
  else if config.durationSeconds > 0 ∧ answers.nowMs < 0 then (s.cleanup, [])
  else if config.durationSeconds > 0 ∧ answers.nowMs - config.startMs ≥ config.durationSeconds * 1000 then
    (s.leave answers, [])
  else
    match (v4l2CaptureAcquireFrame config.capture answers.acquire answers.requeue).1 with
    | .error _ => (if answers.interrupted then s.leave answers else s.cleanup, [])
    | .ok frame => handleFrame config answers s frame

/-- The camera rate that `main` computes is a positive one, and small: the accumulator stays far inside `int`. -/
theorem roundedCameraFps_bounds (capture : Option V4L2Capture) :
    1 ≤ roundedCameraFps capture ∧ roundedCameraFps capture ≤ 60 := by
  unfold roundedCameraFps
  split
  · decide
  · dsimp only
    split
    · decide
    · split
      · decide
      · rename_i hrounded
        rw [not_or] at hrounded
        obtain ⟨hpos, hle⟩ := hrounded
        have hne := mt UInt32.toNat_inj.mp hpos
        have hlt := UInt32.lt_iff_toNat_lt.not.mp hle
        simp only [UInt32.reduceToNat] at hne hlt
        omega

/-! ## One round -/

/-- The frame has the size of an NV12 image. -/
def Full (config : LoopConfig) (captured : Captured) : Prop := config.expectedNv12Size ≤ captured.frame.size

instance (config : LoopConfig) (captured : Captured) : Decidable (Full config captured) :=
  inferInstanceAs (Decidable (_ ≤ _))

/-- A round acquires a frame, or changes nothing but the exit code. -/
theorem loopStep_cases (config : LoopConfig) (answers : RoundAnswers) (s : LoopState) :
    (s.exitCode = none ∧ ∃ frame, loopStep config answers s = handleFrame config answers s frame) ∨
      ∃ exitCode, loopStep config answers s = ({ s with exitCode }, []) ∧ (s.exitCode.isSome → exitCode.isSome) := by
  unfold loopStep
  split
  · exact .inr ⟨s.exitCode, rfl, id⟩
  · rename_i hlooping
    split
    · exact .inr ⟨_, rfl, fun _ => rfl⟩
    · split
      · exact .inr ⟨_, rfl, fun _ => rfl⟩
      · split
        · exact .inr ⟨_, rfl, fun _ => rfl⟩
        · split
          · split
            · exact .inr ⟨_, rfl, fun _ => rfl⟩
            · exact .inr ⟨_, rfl, fun _ => rfl⟩
          · rename_i frame _
            exact .inl ⟨by simpa using hlooping, frame, rfl⟩

/-- What a captured frame does to the accumulator, and to the loop. -/
inductive Sampling (config : LoopConfig) (s s' : LoopState) (captured : Captured) : Prop
  | short : ¬Full config captured → captured.offered = false → s'.aiAccumulator = s.aiAccumulator →
      s'.exitCode.isSome → Sampling config s s' captured
  | passed : Full config captured → captured.offered = false →
      s.aiAccumulator + config.detectFps < config.cameraFps →
      s'.aiAccumulator = s.aiAccumulator + config.detectFps → Sampling config s s' captured
  | offered : Full config captured → captured.offered = true →
      config.cameraFps ≤ s.aiAccumulator + config.detectFps →
      s'.aiAccumulator = s.aiAccumulator + config.detectFps - config.cameraFps → Sampling config s s' captured

/-- **A captured frame** is counted, and taken in by the accumulator when it is full. -/
theorem handleFrame_sampling (config : LoopConfig) (answers : RoundAnswers) (s : LoopState) (frame : V4L2Frame) :
    ∃ s' captured, handleFrame config answers s frame = (s', [captured]) ∧
      s'.capturedFrames = s.capturedFrames + 1 ∧ Sampling config s s' captured := by
  unfold handleFrame accumulate
  dsimp only
  split
  · rename_i hshort
    exact ⟨_, _, rfl, rfl, .short (Nat.not_le.mpr hshort) rfl rfl rfl⟩
  · rename_i hfull
    by_cases hreach : s.aiAccumulator + config.detectFps ≥ config.cameraFps
    · rw [if_pos (show (countCaptured s frame).aiAccumulator + config.detectFps ≥ config.cameraFps from hreach)]
      dsimp only
      split
      · exact ⟨_, _, rfl, rfl, .offered (Nat.not_lt.mp hfull) rfl hreach rfl⟩
      · split
        · exact ⟨_, _, rfl, rfl, .offered (Nat.not_lt.mp hfull) rfl hreach rfl⟩
        · exact ⟨_, _, rfl, rfl, .offered (Nat.not_lt.mp hfull) rfl hreach rfl⟩
    · rw [if_neg (show ¬(countCaptured s frame).aiAccumulator + config.detectFps ≥ config.cameraFps from hreach)]
      dsimp only
      rw [if_neg (by simp)]
      split
      · exact ⟨_, _, rfl, rfl, .passed (Nat.not_lt.mp hfull) rfl (Int.not_le.mp hreach) rfl⟩
      · exact ⟨_, _, rfl, rfl, .passed (Nat.not_lt.mp hfull) rfl (Int.not_le.mp hreach) rfl⟩

/-! ## Runs -/

/-- Of each captured frame of full size, whether it was offered to the detector. -/
def offers (config : LoopConfig) (events : List Captured) : List Bool :=
  (events.filter fun captured => Full config captured).map (·.offered)

theorem offers_concat (config : LoopConfig) (events : List Captured) (captured : Captured) :
    offers config (events ++ [captured]) =
      offers config events ++ if Full config captured then [captured.offered] else [] := by
  rw [offers, List.filter_append, List.map_append, ← offers]
  split
  · rename_i hfull
    simp [hfull]
  · rename_i hshort
    simp [hshort]

/-- The loop so far: the frames are counted, the full ones are paced, and a short one is the last. -/
structure Sampled (config : LoopConfig) (h : History LoopState Captured) : Prop where
  counted : h.state.capturedFrames = UInt64.ofNat h.events.length
  paced : Paced config.cameraFps config.detectFps (config.cameraFps - config.detectFps) (offers config h.events)
    h.state.aiAccumulator
  short : ∀ past captured after, h.events = past ++ captured :: after → ¬Full config captured →
    captured.offered = false ∧ after = [] ∧ h.state.exitCode.isSome

theorem loopStart_sampled (config : LoopConfig) : Sampled config ⟨loopStart config, []⟩ where
  counted := rfl
  paced := .start
  short past captured after h := by simp at h

/-- A captured frame goes on with the pace. -/
theorem Sampling.paced {config : LoopConfig} {s s' : LoopState} {captured : Captured} {events : List Captured}
    {start : Int} (hmove : Sampling config s s' captured)
    (h : Paced config.cameraFps config.detectFps start (offers config events) s.aiAccumulator) :
    Paced config.cameraFps config.detectFps start (offers config (events ++ [captured])) s'.aiAccumulator := by
  rw [offers_concat]
  cases hmove with
  | short hshort hmark hacc hexit =>
    rw [if_neg hshort, List.append_nil, hacc]
    exact h
  | passed hfull hmark hlt hacc =>
    rw [if_pos hfull, hmark, hacc]
    exact h.pass hlt
  | offered hfull hmark hle hacc =>
    rw [if_pos hfull, hmark, hacc]
    exact h.pay hle

/-- **One round** keeps the pace. -/
theorem loopStep_sampled (config : LoopConfig) (answers : RoundAnswers) {h : History LoopState Captured}
    (hs : Sampled config h) : Sampled config (advance (loopStep config) h answers) := by
  unfold advance
  rcases loopStep_cases config answers h.state with ⟨hlooping, frame, heq⟩ | ⟨exitCode, heq, hended⟩
  · obtain ⟨s', captured, hframe, hcount, hmove⟩ := handleFrame_sampling config answers h.state frame
    rw [heq, hframe]
    refine ⟨?_, hmove.paced hs.paced, ?_⟩
    · rw [hcount, hs.counted, List.length_append]
      exact (UInt64.ofNat_add _ _).symm
    · intro past other after hsplit hshort
      rcases List.eq_nil_or_concat' after with rfl | ⟨before, last, rfl⟩
      · obtain ⟨-, hsame⟩ := List.append_inj' hsplit rfl
        obtain rfl := List.singleton_inj.mp hsame
        cases hmove with
        | short _ hmark _ hexit => exact ⟨hmark, rfl, hexit⟩
        | passed hfull => exact absurd hfull hshort
        | offered hfull => exact absurd hfull hshort
      · -- a short frame would have ended the loop before this round
        obtain ⟨hpast, -⟩ := List.append_inj' (show h.events ++ [captured] = (past ++ other :: before) ++ [last] by
          simpa using hsplit) rfl
        obtain ⟨-, -, hleft⟩ := hs.short past other before hpast hshort
        rw [hlooping] at hleft
        exact absurd hleft Bool.false_ne_true
  · rw [heq, List.append_nil]
    refine ⟨hs.counted, hs.paced, ?_⟩
    intro past captured after hsplit hshort
    obtain ⟨hmark, hlast, hleft⟩ := hs.short past captured after hsplit hshort
    exact ⟨hmark, hlast, hended hleft⟩

theorem run_sampled (config : LoopConfig) (inputs : List RoundAnswers) :
    Sampled config (run (loopStep config) (loopStart config) inputs) :=
  run_induction (loopStep config) (loopStart_sampled config) fun _ answers _ h => loopStep_sampled config answers h

/-- The rate is clamped. -/
theorem loopConfig_detectFps {capture : V4L2Capture} {size : Nat} {duration startMs C D : Int} (hC : 1 ≤ C)
    (hD : 1 ≤ D) : 1 ≤ (loopConfig capture size duration startMs C D).detectFps ∧
      (loopConfig capture size duration startMs C D).detectFps ≤ C := by
  dsimp only [loopConfig]
  split <;> omega

/-- **Sampling is exact and even.** For every camera rate and every rate of detection, in every state of every run: the
accumulator is below the camera rate. A captured frame that is short is not offered to the detector, and is the last
one. Of the first `n ≥ 1` full frames `1 + (n - 1) * D / C` are offered, of `C` consecutive ones `D`, and neighbours
among them are `C / D` frames apart, rounded down or up. -/
theorem sampling_even (capture : V4L2Capture) (expectedNv12Size : Nat) (durationSeconds startMs : Int) {C rate : Int}
    (hC : 1 ≤ C) (hrate : 1 ≤ rate) (inputs : List RoundAnswers) :
    let config := loopConfig capture expectedNv12Size durationSeconds startMs C rate
    let D := config.detectFps
    let h := run (loopStep config) (loopStart config) inputs
    let offered := offers config h.events
    (1 ≤ D ∧ D ≤ C) ∧ h.state.capturedFrames = UInt64.ofNat h.events.length ∧
      (0 ≤ h.state.aiAccumulator ∧ h.state.aiAccumulator < C) ∧
      (∀ past captured after, h.events = past ++ captured :: after → ¬Full config captured →
        captured.offered = false ∧ after = []) ∧
      (∀ n : Nat, 1 ≤ n → n ≤ offered.length → ((offered.take n).count true : ℤ) = 1 + (n - 1) * D / C) ∧
      (∀ k n : Nat, (n : ℤ) = C → k + n ≤ offered.length → (((offered.drop k).take n).count true : ℤ) = D) ∧
      (∀ i j : Nat, i < j → offered[i]? = some true → offered[j]? = some true →
        (∀ m, i < m → m < j → offered[m]? = some false) →
        (j - i : ℤ) = C / D ∨ (j - i : ℤ) = (C + D - 1) / D) := by
  intro config D h offered
  have hD : 1 ≤ D ∧ D ≤ C := loopConfig_detectFps hC hrate
  have hgain : 0 ≤ D ∧ D ≤ C := ⟨by omega, hD.2⟩
  have hstart : 0 ≤ C - D ∧ C - D < C := ⟨by omega, by omega⟩
  obtain ⟨hcounted, hpaced, hshort⟩ := run_sampled config inputs
  refine ⟨hD, hcounted, hpaced.bounds hgain hstart, ?_, ?_, ?_, ?_⟩
  · intro past captured after hsplit hnot
    obtain ⟨hmark, hlast, -⟩ := hshort past captured after hsplit hnot
    exact ⟨hmark, hlast⟩
  · intro n hpos hn
    have hsum : C - D + n * D = (n - 1) * D + C * 1 := by ring
    calc ((offered.take n).count true : ℤ)
        = (C - D + n * D) / C := hpaced.count_take hgain hstart hn
      _ = (n - 1) * D / C + 1 := by rw [hsum, Int.add_mul_ediv_left _ _ (by omega)]
      _ = 1 + (n - 1) * D / C := Int.add_comm _ _
  · intro k n hn hk
    exact hpaced.window hgain hstart hn hk
  · intro i j hij hi hj hbetween
    exact hpaced.distance ⟨by omega, hD.2⟩ hstart hij hi hj hbetween

/-- A camera with one buffer, for images of two by two pixels. -/
def smallCapture : V4L2Capture :=
  { V4L2Capture.zero with
    fd := 3, width := 2, height := 2, streaming := true, fpsNumerator := 1, fpsDenominator := 30
    buffers := [⟨true, 6⟩] }

/-- The camera delivers `size` bytes, and everything succeeds. -/
def delivers (size : Nat) : RoundAnswers :=
  { stop := false, shouldQuit := false, nowMs := 0, acquire := [.dequeued ⟨0, size, 0, 1, 0⟩], requeue := true
    interrupted := false, submitResult := 0, release := true, quitAfter := false }

/-- At 30 and 5 frames a second two of seven frames are offered. -/
theorem sampling_even_seven :
    let config := loopConfig smallCapture 6 0 0 (roundedCameraFps smallCapture) 5
    let offered := offers config (run (loopStep config) (loopStart config) (List.replicate 7 (delivers 6))).events
    offered.length = 7 ∧ (offered.count true : ℤ) = 1 + (7 - 1) * 5 / 30 := by
  intro config offered
  have hlength : offered.length = 7 := by decide +kernel
  obtain ⟨-, -, -, -, hcount, -⟩ :=
    sampling_even smallCapture 6 0 0 (roundedCameraFps_bounds smallCapture).1 (by decide : (1 : Int) ≤ 5)
      (List.replicate 7 (delivers 6))
  have hseven : ((offered.take 7).count true : ℤ) = 1 + (7 - 1) * 5 / 30 := hcount 7 (by decide) hlength.ge
  rw [List.take_of_length_le hlength.le] at hseven
  exact ⟨hlength, hseven⟩

/-- A short frame is captured and not offered, even if it is the first. -/
theorem short_frame_not_offered :
    let config := loopConfig smallCapture 6 0 0 (roundedCameraFps smallCapture) 5
    let h := run (loopStep config) (loopStart config) [delivers 5]
    h.state.capturedFrames = 1 ∧ h.events.length = 1 ∧
      (((h.events.map (·.offered)).take 1).count true : ℤ) ≠ 1 + (1 - 1) * 5 / 30 := by
  decide +kernel

end MiniRtsp.Detector
