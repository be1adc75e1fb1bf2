import MiniRtsp.Rtsp.Recording

/-!
# Opening and closing the pipeline

`rtsp_media_close` gives back exactly what the pipeline holds, at whatever step `rtsp_media_init` stopped
(`rtspMediaClose_moves`, `rtspMediaInit_opened`). A pipeline that has been opened also has the parameter sets of its
bootstrap access unit.
-/

namespace MiniRtsp.Rtsp

open Ledger Capture Encoder H264 Rtp

/-! ## What is held -/

def RTSPMedia.heldEncoder (media : RTSPMedia) : Multiset Resource :=
  if media.encoderInitialized then .encoder ::ₘ media.encoder.held else 0

def RTSPMedia.heldCapture (media : RTSPMedia) : Multiset Resource :=
  if media.captureInitialized then .camera ::ₘ media.capture.held else 0

def RTSPMedia.heldLock (media : RTSPMedia) : Multiset Resource := if media.lockInitialized then {.mutex} else 0

/-- What a pipeline holds: the socket, the encoder, the camera, the mutex. -/
def RTSPMedia.held (media : RTSPMedia) : Multiset Resource :=
  media.sender.held + (media.heldEncoder + (media.heldCapture + media.heldLock))

/-! ## Closing -/

theorem closeEncoder_moves (media : RTSPMedia) (m : Multiset Resource) :
    Moves (closeEncoder media).2 (media.heldEncoder + m) m ∧ (closeEncoder media).1 =
      { media with encoder := (closeEncoder media).1.encoder, encoderInitialized := false } := by
  unfold closeEncoder RTSPMedia.heldEncoder
  cases h : media.encoderInitialized with
  | false => exact ⟨by simpa using moves_nil m, by cases media; cases h; rfl⟩
  | true =>
    rw [if_pos rfl, if_pos rfl, Multiset.cons_add]
    exact ⟨(moves_release _ _).cons (mppEncoderClose_moves media.encoder m), rfl⟩

theorem closeCapture_moves (media : RTSPMedia) (m : Multiset Resource) :
    Moves (closeCapture media).2 (media.heldCapture + m) m ∧ (closeCapture media).1 =
      { media with capture := (closeCapture media).1.capture, captureInitialized := false } := by
  unfold closeCapture RTSPMedia.heldCapture
  cases h : media.captureInitialized with
  | false => exact ⟨by simpa using moves_nil m, by cases media; cases h; rfl⟩
  | true =>
    rw [if_pos rfl, if_pos rfl, Multiset.cons_add]
    exact ⟨(moves_release _ _).cons (v4l2CaptureClose_moves media.capture m).1, rfl⟩

theorem destroyLock_moves (media : RTSPMedia) (m : Multiset Resource) :
    Moves (destroyLock media).2 (media.heldLock + m) m ∧
      (destroyLock media).1 = { media with lockInitialized := false } := by
  unfold destroyLock RTSPMedia.heldLock
  cases h : media.lockInitialized with
  | false => exact ⟨by simpa using moves_nil m, by cases media; cases h; rfl⟩
  | true => exact ⟨moves_release _ m, rfl⟩

/-- **Closing gives back exactly what the pipeline holds**, and no thread flag changes. -/
theorem rtspMediaClose_moves (media : RTSPMedia) (m : Multiset Resource) :
    Moves (rtspMediaClose media).2 (media.held + m) m ∧ (rtspMediaClose media).1.held = 0 ∧
      (rtspMediaClose media).1.sender.sockfd = -1 ∧ (rtspMediaClose media).1.threadRunning = media.threadRunning := by
  unfold rtspMediaClose
  dsimp only
  obtain ⟨hencoder, hafterEncoder⟩ := closeEncoder_moves
    { media with sender := (rtpSenderClose media.sender).1, bootstrapAu := none, sps := none, pps := none }
    (media.heldCapture + (media.heldLock + m))
  generalize closeEncoder { media with
    sender := (rtpSenderClose media.sender).1, bootstrapAu := none, sps := none, pps := none } = r at *
  obtain ⟨afterEncoder, encoderUses⟩ := r
  dsimp only at hencoder hafterEncoder ⊢
  obtain ⟨hcapture, hafterCapture⟩ := closeCapture_moves afterEncoder (media.heldLock + m)
  generalize closeCapture afterEncoder = r at *
  obtain ⟨afterCapture, captureUses⟩ := r
  dsimp only at hcapture hafterCapture ⊢
  obtain ⟨hlock, hafterLock⟩ := destroyLock_moves { afterCapture with initialized := false } m
  generalize destroyLock { afterCapture with initialized := false } = r at *
  obtain ⟨afterLock, lockUses⟩ := r
  dsimp only at hlock hafterLock ⊢
  have hheldCapture : afterEncoder.heldCapture = media.heldCapture := by rw [hafterEncoder]; rfl
  have hheldLock : RTSPMedia.heldLock { afterCapture with initialized := false } = media.heldLock := by
    rw [hafterCapture, hafterEncoder]; rfl
  rw [hheldCapture] at hcapture
  rw [hheldLock] at hlock
  rw [hafterLock, hafterCapture, hafterEncoder]
  refine ⟨?_, ?_, rfl, rfl⟩
  · rw [RTSPMedia.held, Multiset.add_assoc, Multiset.add_assoc, Multiset.add_assoc]
    exact (((rtpSenderClose_moves media.sender _).append hencoder).append hcapture).append hlock
  · simp [RTSPMedia.held, RTSPMedia.heldEncoder, RTSPMedia.heldCapture, RTSPMedia.heldLock, RTPSender.held,
      rtpSenderClose]

/-! ## Opening -/

/-- What a step of `rtsp_media_init` leaves: the uses so far account for what the pipeline holds, a failure holds
nothing. -/
structure Opened (r : RTSPMedia × List (Use Resource) × Bool) : Prop where
  moves : ∀ m, Moves r.2.1 m (r.1.held + m)
  failed : r.2.2 = false → r.1.held = 0
  closed : r.1.sender.sockfd = -1
  noThread : r.1.threadRunning = false
  stored : r.2.2 = true → StoredSets r.1

theorem captureAndEncode_moves (answers : CaptureAnswers) (media : RTSPMedia) :
    (∀ m, Moves (captureAndEncode answers media).uses m m) ∧ (captureAndEncode answers media).media.held = media.held ∧
      (captureAndEncode answers media).media =
        { media with encoder := (captureAndEncode answers media).media.encoder } := by
  have hencode := mppEncoderEncode_moves answers.encode media.encoder expectedSize
  have hheld := mppEncoderEncode_held answers.encode media.encoder expectedSize
  have hsame : ∀ encoder, encoder.held = media.encoder.held →
      RTSPMedia.held { media with encoder := encoder } = media.held := by
    intro encoder h
    simp only [RTSPMedia.held, RTSPMedia.heldEncoder, h]
    rfl
  unfold captureAndEncode
  dsimp only
  repeat' split
  all_goals first
    | exact ⟨fun m => moves_nil m, rfl, rfl⟩
    | exact ⟨hencode, hsame _ hheld, rfl⟩

theorem mediaInitFail_opened {media : RTSPMedia} {uses : List (Use Resource)}
    (hmoves : ∀ m, Moves uses m (media.held + m)) (hthread : media.threadRunning = false) :
    Opened (mediaInitFail media uses) := by
  unfold mediaInitFail
  dsimp only
  have hclose := rtspMediaClose_moves { media with stopRequested := true }
  obtain ⟨-, hheld, hsock, hrunning⟩ := hclose 0
  refine ⟨?_, fun _ => hheld, hsock, hrunning.trans hthread, by simp⟩
  intro m
  rw [hheld, Multiset.zero_add]
  exact (hmoves m).append (hclose m).1

/-- The bootstrap access unit: its parameter sets are stored. -/
theorem prepareBootstrap_opened (answers : CaptureAnswers) (allocs : List Bool) {media : RTSPMedia}
    {uses : List (Use Resource)} (hmoves : ∀ m, Moves uses m (media.held + m)) (hthread : media.threadRunning = false)
    (hsock : media.sender.sockfd = -1) :
    let r := prepareBootstrapAccessUnit answers allocs media
    (∀ m, Moves (uses ++ r.2.1) m (r.1.held + m)) ∧ r.1.threadRunning = false ∧ r.1.sender.sockfd = -1 ∧
      (r.2.2 = true → StoredSets r.1) := by
  obtain ⟨huses, hheld, hmedia⟩ := captureAndEncode_moves answers media
  have hrunning : (captureAndEncode answers media).media.threadRunning = false := by rw [hmedia]; exact hthread
  have hclosed : (captureAndEncode answers media).media.sender.sockfd = -1 := by rw [hmedia]; exact hsock
  have hall : ∀ m, Moves (uses ++ (captureAndEncode answers media).uses) m
      ((captureAndEncode answers media).media.held + m) := fun m => by
    rw [hheld]
    exact (hmoves m).append (huses _)
  unfold prepareBootstrapAccessUnit
  dsimp only
  cases hunit : (captureAndEncode answers media).unit with
  | none => exact ⟨hall, hrunning, hclosed, by simp⟩
  | some unit =>
    have hlength := (captureAndEncode_length hunit).2
    dsimp only
    split
    · exact ⟨hall, hrunning, hclosed, by simp⟩
    · split
      · exact ⟨hall, hrunning, hclosed, by simp⟩
      · rename_i sps pps hcopy
        exact ⟨hall, hrunning, hclosed, fun _ => ⟨unit.data, allocs, sps, pps, hlength, hcopy, rfl, rfl⟩⟩

theorem initEncoder_opened (answers : MediaInitAnswers) {media : RTSPMedia} {uses : List (Use Resource)}
    (hmoves : ∀ m, Moves uses m (media.held + m)) (hthread : media.threadRunning = false)
    (hsock : media.sender.sockfd = -1) (hinit : media.encoderInitialized = false) (hencoder : media.encoder.held = 0) :
    Opened (initEncoder answers media uses) := by
  unfold initEncoder
  have hopen := fun m => mppEncoderInitEx_moves answers.encoder media.encoder rtspMediaWidth rtspMediaHeight
    rtspMediaFps rtspMediaGop rtspMediaBitRate hencoder m
  generalize mppEncoderInitEx answers.encoder media.encoder rtspMediaWidth rtspMediaHeight rtspMediaFps rtspMediaGop
    rtspMediaBitRate = r at hopen ⊢
  obtain ⟨encoder, encoderUses, ok⟩ := r
  dsimp only at hopen ⊢
  have hsame : RTSPMedia.held { media with encoder := encoder } = media.held := by
    simp only [RTSPMedia.held, RTSPMedia.heldEncoder, hinit]
    rfl
  cases ok with
  | false =>
    refine mediaInitFail_opened ?_ hthread
    intro m
    have hnothing := (hopen (media.held + m)).1
    rw [(hopen m).2 rfl, Multiset.zero_add] at hnothing
    rw [hsame]
    exact (hmoves m).append hnothing
  | true =>
    have hwith : ∀ m, Moves (uses ++ encoderUses ++ [.acquire .encoder]) m
        (RTSPMedia.held { media with encoder := encoder, encoderInitialized := true } + m) := by
      intro m
      have hsum : RTSPMedia.held { media with encoder := encoder, encoderInitialized := true } + m =
          .encoder ::ₘ (encoder.held + (media.held + m)) := by
        ext x
        simp only [RTSPMedia.held, RTSPMedia.heldEncoder, RTSPMedia.heldCapture, RTSPMedia.heldLock, hinit,
          Multiset.count_add, Multiset.count_cons, Multiset.count_zero, if_true, Bool.false_eq_true, if_false]
        omega
      rw [hsum]
      exact ((hmoves m).append (hopen _).1).append (moves_acquire _ _)
    obtain ⟨hboot, hrunning, hclosed, hstored⟩ := prepareBootstrap_opened answers.bootstrap answers.allocs
      hwith hthread hsock
    generalize prepareBootstrapAccessUnit answers.bootstrap answers.allocs
      { media with encoder := encoder, encoderInitialized := true } = r at hboot hrunning hclosed hstored ⊢
    obtain ⟨media', bootUses, ok⟩ := r
    dsimp only at hboot hrunning hclosed hstored ⊢
    cases ok with
    | false => exact mediaInitFail_opened hboot hrunning
    | true => exact ⟨hboot, by simp, hclosed, hrunning, hstored⟩

theorem initPipeline_opened (answers : MediaInitAnswers) {media : RTSPMedia} (hheld : media.held = 0)
    (hthread : media.threadRunning = false) (hsock : media.sender.sockfd = -1)
    (hencoderInit : media.encoderInitialized = false) (hcaptureInit : media.captureInitialized = false)
    (hlockInit : media.lockInitialized = false) (hencoder : media.encoder.held = 0) :
    Opened (initPipeline answers media) := by
  unfold initPipeline
  cases answers.mutex with
  | false => exact ⟨fun m => by simpa [hheld] using moves_nil m, fun _ => hheld, hsock, hthread, by simp⟩
  | true =>
    have hopen := fun m => @v4l2CaptureInit_moves answers.capture media.capture rtspMediaWidth rtspMediaHeight
      (by decide) (by decide) m
    dsimp only
    rw [if_neg (by simp)]
    generalize v4l2CaptureInit answers.capture media.capture rtspMediaWidth rtspMediaHeight = r at hopen ⊢
    obtain ⟨capture, captureUses, ok⟩ := r
    dsimp only at hopen ⊢
    have hlocked : ∀ m,
        RTSPMedia.held { media with lockInitialized := true, capture := capture } + m = .mutex ::ₘ m := by
      intro m
      have hcount := fun x => congrArg (Multiset.count x) hheld
      ext x
      have hx := hcount x
      simp only [RTSPMedia.held, RTSPMedia.heldEncoder, RTSPMedia.heldCapture, RTSPMedia.heldLock, hencoderInit,
        hcaptureInit, hlockInit, Multiset.count_add, Multiset.count_cons, Multiset.count_zero, if_true,
        Bool.false_eq_true, if_false, Multiset.count_singleton] at hx ⊢
      omega
    cases ok with
    | false =>
      refine mediaInitFail_opened ?_ hthread
      intro m
      have hfd := (hopen 0).2 rfl
      have hnothing := (hopen (.mutex ::ₘ m)).1
      rw [show capture.held = 0 by simp [V4L2Capture.held, hfd], Multiset.zero_add] at hnothing
      rw [hlocked]
      exact (moves_acquire _ _).cons hnothing
    | true =>
      have hwith : ∀ m, Moves (.acquire .mutex :: captureUses ++ [.acquire .camera]) m
          (RTSPMedia.held { media with
            lockInitialized := true, capture := capture, captureInitialized := true } + m) := by
        intro m
        have hsum : RTSPMedia.held { media with
            lockInitialized := true, capture := capture, captureInitialized := true } + m =
            .camera ::ₘ (capture.held + (.mutex ::ₘ m)) := by
          rw [← hlocked]
          ext x
          simp only [RTSPMedia.held, RTSPMedia.heldEncoder, RTSPMedia.heldCapture, RTSPMedia.heldLock, hencoderInit,
            hcaptureInit, Multiset.count_add, Multiset.count_cons, Multiset.count_zero, if_true, Bool.false_eq_true,
            if_false]
          omega
        rw [hsum]
        exact (((moves_acquire _ _).cons (hopen _).1).append (moves_acquire _ _))
      simp only [Bool.not_true, Bool.false_eq_true, if_false]
      split
      · exact mediaInitFail_opened hwith hthread
      · split
        · exact mediaInitFail_opened hwith hthread
        · exact initEncoder_opened answers hwith hthread hsock hencoderInit hencoder

/-- **Opening the pipeline** accounts for everything it holds; when it fails nothing is held. -/
theorem rtspMediaInit_opened (answers : MediaInitAnswers) (media : RTSPMedia) (devicePath recordPath : Option Bytes)
    {warmupFrameCount : Int} (hwarmup : 0 ≤ warmupFrameCount) :
    Opened (rtspMediaInit answers media devicePath recordPath warmupFrameCount) := by
  have hrefused : ∀ warmup, Opened ({ RTSPMedia.zero with
      capture := { V4L2Capture.zero with fd := -1 }, sender := { RTPSender.zero with sockfd := -1 },
      warmupFrameCount := warmup }, [], false) :=
    fun warmup => ⟨fun m => (Multiset.zero_add m).symm ▸ moves_nil m, fun _ => rfl, rfl, rfl, by simp⟩
  unfold rtspMediaInit
  rw [if_neg (by omega)]
  dsimp only
  split
  · exact hrefused _
  · split
    · exact hrefused _
    · split
      · exact initPipeline_opened answers rfl rfl rfl rfl rfl rfl rfl
      · split
        · exact hrefused _
        · exact initPipeline_opened answers rfl rfl rfl rfl rfl rfl rfl

end MiniRtsp.Rtsp
