import MiniRtsp.Capture.Buffers
import MiniRtsp.Detector.LifeQuiet
import MiniRtsp.Detector.Sampling
import MiniRtsp.Isp.IspControl

/-!
# The live detection tool

`main` of `tools/live_person_detect_test/main.c` behind its option loop: RKAIQ is started, the camera is opened, some
frames are dropped while it warms up, the detector is created, the capture loop of `Sampling` runs, and `cleanup` gives
everything back (`toolStep`). Signals, the callbacks of RKAIQ and those of RockIVA come in between. The camera gets a
frame back only when the detector has copied it, and what is taken first is given back last (`toolRun_orderly`). A
release that reports a failure counts as given back.
-/

namespace MiniRtsp.Detector

open Capture Isp Ledger Trace Wire

/-! ## States -/

/-- What the option loop leaves. -/
structure ToolSettings where
  iqDir : Bytes
  modelDir : String
  cameraId : Int
  width : Int
  height : Int
  warmupFrames : Nat
  detectFps : Int
  threshold : Nat
  durationSeconds : Int

inductive ToolPc where
  | createIsp
  | startIsp
  | initCapture
  /-- The head of the loop that drops frames, and the release in its body. -/
  | warmup (i : Nat)
  | warmupRelease (i : Nat)
  | warmed
  | createDetector
  | begin
  /-- The capture loop: its head, and what it does with a frame. -/
  | loop
  | acquire
  | submit
  | submitting
  | release
  /-- Behind the loop. -/
  | ended
  /-- From `cleanup` on. -/
  | cleanup
  | waitIdle
  | waiting
  | destroy
  | destroying
  | closeCapture
  | destroyIsp
  | exit
  | exited
  deriving DecidableEq, Repr

/-- `isp_created` and `detector_initialized` say whether `isp` and `detector` are there; `frame` is the acquired frame
while `frame_acquired` is set. `config` is what the capture loop reads. -/
structure Tool where
  pc : ToolPc
  /-- `g_stop` -/
  stop : Bool
  isps : Isps
  isp : Option Nat
  capture : V4L2Capture
  captureInitialized : Bool
  frame : Option V4L2Frame
  detector : Option Living
  config : LoopConfig
  loop : LoopState
  exitCode : Int

inductive ToolEvent where
  /-- A signal has set `g_stop`. -/
  | stopped
  | isp (e : IspEvent)
  | device (u : Use Resource)
  /-- The camera streams into so many buffers. -/
  | streaming (bufferCount : Nat)
  | buffer (u : BufferUse)
  | captured (c : Captured)
  | life (e : LifeEvent)
  | exited (code : Int)
  deriving DecidableEq

/-- What the outside answers to a step of `main`. -/
structure ToolAnswers where
  isp : IspAnswers
  init : InitAnswers
  acquire : List AcquireRound
  requeue : Bool
  /-- `errno == EINTR` behind a capture that failed. -/
  interrupted : Bool
  release : Bool
  /-- `monotonic_ms`, or -1. -/
  nowMs : Int
  create : CreateAnswers
  dma : Nat → DmaAnswer
  cleanup : CleanupAnswers
  /-- The mapped buffers of the camera. -/
  mapping : Nat → Nat → UInt8
  accepts : Bool
  owner : OwnerAnswers

inductive ToolMove where
  | control (answers : ToolAnswers)
  | signal
  | sof
  | error (bypass : Bool)
  /-- A callback of RockIVA. -/
  | rockiva (move : Move)

/-! ## Steps -/

/-- `goto cleanup`. -/
def Tool.fail (s : Tool) : Tool := { s with pc := .cleanup, loop := s.loop.cleanup }

/-- `isp_control_create`. -/
def toolCreateIsp (settings : ToolSettings) (answers : ToolAnswers) (s : Tool) : Tool × List ToolEvent :=
  let config : IspConfig := ⟨settings.cameraId, some settings.iqDir, 0, false⟩
  let (isps, events, isp) := ispControlCreate answers.isp (some config) s.isps
  ({ s with isps := isps, isp := isp, pc := if isp.isSome then .startIsp else .cleanup }, events.map .isp)

/-- `isp_control_start`. -/
def toolStartIsp (answers : ToolAnswers) (s : Tool) : Tool × List ToolEvent :=
  let result : Int := match s.isps.get s.isp with
    | none => -1
    | some c => (ispControlStart answers.isp c).2.2
  let (isps, events) := ispStep (.start answers.isp s.isp) s.isps
  ({ s with isps := isps, pc := if result = 0 then .initCapture else .cleanup }, events.map .isp)

/-- The tests behind `v4l2_capture_init`. -/
def captureFits (settings : ToolSettings) (capture : V4L2Capture) : Bool :=
  capture.width = settings.width && capture.height = settings.height && capture.pixelformat = v4l2PixFmtNv12 &&
    capture.bytesperline = settings.width

/-- `v4l2_capture_init` and the tests behind it. -/
def toolInitCapture (settings : ToolSettings) (answers : ToolAnswers) (s : Tool) : Tool × List ToolEvent :=
  let (capture, uses, ok) := v4l2CaptureInit answers.init s.capture settings.width settings.height
  let fits := ok && captureFits settings capture
  ({ s with capture := capture, captureInitialized := ok, pc := if fits then .warmup 0 else .cleanup },
    uses.map .device ++ if ok then [.streaming capture.bufferCount] else [])

/-- The head of the warm-up loop, with `v4l2_capture_acquire_frame`. -/
def toolWarmup (settings : ToolSettings) (answers : ToolAnswers) (i : Nat) (s : Tool) : Tool × List ToolEvent :=
  if i ≥ settings.warmupFrames ∨ s.stop then ({ s with pc := .warmed }, [])
  else
    let (acquired, buffers) := v4l2CaptureAcquireFrame s.capture answers.acquire answers.requeue
    match acquired with
    | .error _ => ({ s with pc := .cleanup }, buffers.map .buffer)
    | .ok frame => ({ s with frame := some frame, pc := .warmupRelease i }, buffers.map .buffer)

/-- `v4l2_capture_release_frame`, and where `main` goes on when it returns 0. -/
def toolRelease (answers : ToolAnswers) (next : ToolPc) (s : Tool) : Tool × List ToolEvent :=
  match s.frame with
  | none => (s, [])
  | some frame =>
    let (ok, buffers) := v4l2CaptureReleaseFrame s.capture frame answers.release
    (if ok then { s with frame := none, pc := next } else s.fail, buffers.map .buffer)

/-- A call of the detector's interface, or a callback. -/
def toolLife (move : LifeMove) (s : Tool) : Tool × List ToolEvent :=
  let (detector, events) := lifeStep move s.detector
  ({ s with detector := detector }, events.map .life)

def ToolSettings.detectorConfig (settings : ToolSettings) : LivePersonDetectorConfig :=
  ⟨some settings.modelDir, .ofInt settings.width, .ofInt settings.height, 2⟩

/-- `live_person_detector_create`. -/
def toolCreateDetector (settings : ToolSettings) (answers : ToolAnswers) (s : Tool) : Tool × List ToolEvent :=
  let (s, events) := toolLife (.create (some settings.detectorConfig) answers.create answers.dma answers.cleanup) s
  ({ s with pc := if s.detector.isSome then .begin else .cleanup }, events)

/-- The rates, and the variables of the capture loop. -/
def toolBegin (settings : ToolSettings) (answers : ToolAnswers) (s : Tool) : Tool :=
  let expected := settings.width.toNat * settings.height.toNat * 3 / 2
  let config := loopConfig s.capture expected settings.durationSeconds answers.nowMs
    (roundedCameraFps (some s.capture)) settings.detectFps
  { s with config := config, loop := loopStart config, pc := if answers.nowMs < 0 then .cleanup else .loop }

/-- The tests at the head of the capture loop. -/
def toolLoop (answers : ToolAnswers) (s : Tool) : Tool :=
  if s.stop ∨ ispControlShouldQuit s.isps s.isp then { s with pc := .ended }
  else if s.config.durationSeconds > 0 ∧ answers.nowMs < 0 then s.fail
  else if s.config.durationSeconds > 0 ∧ answers.nowMs - s.config.startMs ≥ s.config.durationSeconds * 1000 then
    { s with pc := .ended }
  else { s with pc := .acquire }

/-- `v4l2_capture_acquire_frame` in the capture loop, up to the decision whether the frame is submitted. -/
def toolAcquire (answers : ToolAnswers) (s : Tool) : Tool × List ToolEvent :=
  let (acquired, buffers) := v4l2CaptureAcquireFrame s.config.capture answers.acquire answers.requeue
  match acquired with
  | .error e =>
    (if e = .other ∧ answers.interrupted ∧ s.stop then { s with pc := .ended } else s.fail, buffers.map .buffer)
  | .ok frame =>
    let s := { s with frame := some frame, loop := countCaptured s.loop frame }
    if frame.size < s.config.expectedNv12Size then (s.fail, buffers.map .buffer ++ [.captured ⟨frame, false⟩])
    else
      let (loop, offered) := accumulate s.config s.loop
      ({ s with loop := loop, pc := if offered then .submit else .release },
        buffers.map .buffer ++ [.captured ⟨frame, offered⟩])

/-- What a submission has returned, if it has. -/
def submitResult (events : List ToolEvent) : Option Int :=
  events.findSome? fun e => match e with
    | .life (.slot (.returned ret)) => some ret
    | _ => none

/-- `live_person_detector_submit` goes on, until it returns. -/
def toolSubmits (move : Move) (s : Tool) : Tool × List ToolEvent :=
  let (s, events) := toolLife (.slot move) s
  match submitResult events with
  | none => ({ s with pc := .submitting }, events)
  | some ret => (if ret < 0 then s.fail else { s with pc := .release }, events)

/-- The arguments of `live_person_detector_submit`. -/
def submitCall (answers : ToolAnswers) (frame : V4L2Frame) : SubmitCall :=
  ⟨some ((List.range frame.size).map fun i => answers.mapping frame.index (frame.data + i)), frame.sequence,
    frame.timestampUs, answers.nowMs⟩

/-- The test behind the capture loop. -/
def toolEnded (s : Tool) : Tool :=
  if ispControlShouldQuit s.isps s.isp then s.fail else { s with pc := .cleanup, exitCode := 0 }

/-- The release of a frame that is still there, in `cleanup`. -/
def toolCleanup (answers : ToolAnswers) (s : Tool) : Tool × List ToolEvent :=
  let next : ToolPc := if s.detector.isSome then .waitIdle else .closeCapture
  match s.frame with
  | none => ({ s with pc := next }, [])
  | some frame =>
    ({ s with frame := none, pc := next },
      (v4l2CaptureReleaseFrame s.capture frame answers.release).2.map .buffer)

/-- `live_person_detector_wait_idle` or `live_person_detector_destroy` goes on, until it returns. -/
def toolWaits (answers : ToolAnswers) (next : ToolPc) (s : Tool) : Tool × List ToolEvent :=
  let (s, events) := toolLife (.goOn answers.owner) s
  let returned : Bool := match s.detector with
    | none => true
    | some l => l.owner = .ready
  (if returned then { s with pc := next } else s, events)

/-- `v4l2_capture_close`. -/
def toolCloseCapture (s : Tool) : Tool × List ToolEvent :=
  if s.captureInitialized then
    let (capture, uses) := v4l2CaptureClose s.capture
    ({ s with capture := capture, captureInitialized := false, pc := .destroyIsp }, uses.map .device)
  else ({ s with pc := .destroyIsp }, [])

/-- `isp_control_destroy`. -/
def toolDestroyIsp (answers : ToolAnswers) (s : Tool) : Tool × List ToolEvent :=
  let (isps, events) := ispStep (.destroy answers.isp s.isp) s.isps
  ({ s with isps := isps, isp := none, pc := .exit }, events.map .isp)

/-- A step of `main`. -/
def toolControl (settings : ToolSettings) (answers : ToolAnswers) (s : Tool) : Tool × List ToolEvent :=
  match s.pc with
  | .createIsp => toolCreateIsp settings answers s
  | .startIsp => toolStartIsp answers s
  | .initCapture => toolInitCapture settings answers s
  | .warmup i => toolWarmup settings answers i s
  | .warmupRelease i => toolRelease answers (.warmup (i + 1)) s
  | .warmed => (if s.stop then { s with pc := .cleanup, exitCode := 0 } else { s with pc := .createDetector }, [])
  | .createDetector => toolCreateDetector settings answers s
  | .begin => (toolBegin settings answers s, [])
  | .loop => (toolLoop answers s, [])
  | .acquire => toolAcquire answers s
  | .submit =>
    match s.frame with
    | none => (s, [])
    | some frame => toolSubmits (.submit (submitCall answers frame)) s
  | .submitting => toolSubmits (.proceed answers.accepts) s
  | .release => toolRelease answers .loop s
  | .ended => (toolEnded s, [])
  | .cleanup => toolCleanup answers s
  | .waitIdle =>
    let (s, events) := toolLife (.waitIdle 5000) s
    ({ s with pc := .waiting }, events)
  | .waiting => toolWaits answers .destroy s
  | .destroy =>
    let (s, events) := toolLife .destroy s
    ({ s with pc := .destroying }, events)
  | .destroying => toolWaits answers .closeCapture s
  | .closeCapture => toolCloseCapture s
  | .destroyIsp => toolDestroyIsp answers s
  | .exit => ({ s with pc := .exited }, [.exited s.exitCode])
  | .exited => (s, [])

/-- A callback of RockIVA is none of the owner's moves. -/
def isCallback : Move → Bool
  | .release _ | .result _ _ _ | .countResult _ => true
  | _ => false

/-- **A step of the tool.** -/
def toolStep (settings : ToolSettings) : ToolMove → Tool → Tool × List ToolEvent
  | .control answers, s => toolControl settings answers s
  | .signal, s => if s.pc = .exited then (s, []) else ({ s with stop := true }, [.stopped])
  | .sof, s =>
    if s.pc = .exited then (s, [])
    else
      let (isps, events) := ispStep .sof s.isps
      ({ s with isps := isps }, events.map .isp)
  | .error bypass, s =>
    if s.pc = .exited then (s, [])
    else
      let (isps, events) := ispStep (.error bypass) s.isps
      ({ s with isps := isps }, events.map .isp)
  | .rockiva move, s => if isCallback move then toolLife (.slot move) s else (s, [])

def Tool.start : Tool :=
  let capture := { V4L2Capture.zero with fd := -1 }
  let config := loopConfig capture 0 0 0 1 1
  { pc := .createIsp, stop := false, isps := .start, isp := none, capture := capture, captureInitialized := false
    frame := none, detector := none, config := config, loop := loopStart config, exitCode := 1 }

def toolRun (settings : ToolSettings) (moves : List ToolMove) : History Tool ToolEvent :=
  run (toolStep settings) .start moves

/-! ## What the events say -/

def toolIsp (events : List ToolEvent) : List IspEvent :=
  events.filterMap fun e => match e with
    | .isp e => some e
    | _ => none

def toolDevice (events : List ToolEvent) : List (Use Resource) :=
  events.filterMap fun e => match e with
    | .device u => some u
    | _ => none

def toolLives (events : List ToolEvent) : List LifeEvent :=
  events.filterMap fun e => match e with
    | .life e => some e
    | _ => none

/-- The frames that the capture loop has got, and whether each was to be submitted. -/
def toolCaptured (events : List ToolEvent) : List Captured :=
  events.filterMap fun e => match e with
    | .captured c => some c
    | _ => none

/-- The program has got a buffer from the driver, and has not given it back. -/
def FrameHeld (events : List ToolEvent) (i : Nat) : Prop :=
  Since (· = .buffer (.dequeued i)) (· = .buffer (.queued i)) events

/-- The driver has refused a buffer, or it is none of those it has been given. -/
def FrameLost (events : List ToolEvent) (i : Nat) : Prop :=
  .buffer (.refused i) ∈ events ∨ ∀ n, .streaming n ∈ events → n ≤ i

/-- RockIVA is off, and there is no detector. -/
def DetectorGone (events : List LifeEvent) : Prop :=
  rockivaPhase events = some .off ∧ Settled (lifeUses events)

def AiqRunning (events : List ToolEvent) : Prop := ∃ id, phaseOf id (toolIsp events) = some .running

/-- What must have happened before an event. -/
def ToolLaw (settings : ToolSettings) (before : List ToolEvent) : ToolEvent → Prop
  | .buffer (.dequeued _) => AiqRunning before ∧ ∀ j, ¬FrameHeld before j
  | .buffer (.queued i) | .buffer (.refused i) => FrameHeld before i ∧ ¬Submitting (currentSlots (toolLives before))
  | .life (.slot (.reserved _ _)) => AiqRunning before ∧ ∃ i, FrameHeld before i
  | .device (.release _) => DetectorGone (toolLives before) ∧ ∀ i, FrameHeld before i → FrameLost before i
  | .isp (.aiq _ (.stop _)) | .isp (.aiq _ .deinit) =>
    DetectorGone (toolLives before) ∧ Settled (toolDevice before)
  | .exited code => DetectorGone (toolLives before) ∧ Settled (toolDevice before) ∧
      Settled (ispUses (toolIsp before)) ∧ (code = 0 → .stopped ∈ before ∨ 0 < settings.durationSeconds)
  | _ => True

/-- **The order of the tool**: it takes frames from the camera one at a time, while RKAIQ runs; a frame goes back only
when it is not being submitted; the camera is closed when the detector is gone and no frame is left that the driver
would take; RKAIQ is stopped when the camera is closed; and when `main` returns everything has been given back, it
returns 0 only behind a signal or a given duration, and it does nothing more. -/
def ToolOk (settings : ToolSettings) (before : List ToolEvent) (e : ToolEvent) : Prop :=
  (∀ code, .exited code ∉ before) ∧ ToolLaw settings before e

end MiniRtsp.Detector
