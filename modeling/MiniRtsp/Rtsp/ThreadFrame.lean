import MiniRtsp.Rtsp.Stream

/-!
# What the server sees of the media thread

A step of the media thread leaves alone what the server relies on (`threadStep_frame`): the flags of the pipeline and
the addresses of the session. Its socket points to the address and port the session had when it was opened
(`threadStep_sender`), and packets leave through it only (`threadStep_sent`).
-/

namespace MiniRtsp.Rtsp

open Rtp

/-- What a step of the media thread leaves alone. -/
structure Frame (live live' : Live) : Prop where
  session : live'.session = live.session ∨ live'.session = { live.session with playing := false }
  threadRunning : live'.media.threadRunning = live.media.threadRunning
  stopRequested : live'.media.stopRequested = live.media.stopRequested
  initialized : live'.media.initialized = live.media.initialized
  lockInitialized : live'.media.lockInitialized = live.media.lockInitialized
  encoderInitialized : live'.media.encoderInitialized = live.media.encoderInitialized
  captureInitialized : live'.media.captureInitialized = live.media.captureInitialized
  capture : live'.media.capture = live.media.capture

theorem Frame.of_media {live live' : Live} (hsession : live'.session = live.session)
    (hmedia : live'.media = live.media) : Frame live live' :=
  ⟨.inl hsession, by rw [hmedia], by rw [hmedia], by rw [hmedia], by rw [hmedia], by rw [hmedia], by rw [hmedia],
    by rw [hmedia]⟩

theorem captureAndEncode_frame (answers : CaptureAnswers) (media : RTSPMedia) (session : RTSPSession)
    (t t' : Thread) : Frame ⟨media, session, t⟩ ⟨(captureAndEncode answers media).media, session, t'⟩ := by
  unfold captureAndEncode
  dsimp only
  repeat' split
  all_goals exact ⟨.inl rfl, rfl, rfl, rfl, rfl, rfl, rfl, rfl⟩

/-- **A step of the media thread** leaves the flags and the addresses alone. -/
theorem threadStep_frame (answers : ThreadAnswers) (live : Live) : Frame live (threadStep answers live).1 := by
  unfold threadStep
  cases live.thread.pc with
  | capture =>
    have hframe := captureAndEncode_frame answers.capture live.media live.session
    simp only [captureStep]
    split
    · exact hframe _ _
    · exact hframe _ _
  | sending packets complete =>
    cases packets with
    | nil => exact .of_media rfl rfl
    | cons packet rest =>
      simp only [sendStep]
      split
      · exact .of_media rfl rfl
      · split <;> exact .of_media rfl rfl
  | clearPlaying => exact ⟨.inr rfl, rfl, rfl, rfl, rfl, rfl, rfl, rfl⟩
  | _ => exact ⟨.inl rfl, rfl, rfl, rfl, rfl, rfl, rfl, rfl⟩

theorem Frame.clientIp {live live' : Live} (h : Frame live live') : live'.session.clientIp = live.session.clientIp := by
  rcases h.session with hs | hs <;> rw [hs]

theorem Frame.clientRtpPort {live live' : Live} (h : Frame live live') :
    live'.session.clientRtpPort = live.session.clientRtpPort := by
  rcases h.session with hs | hs <;> rw [hs]

/-- The socket has been opened towards the session's address and port. -/
def Aimed (session : RTSPSession) (sender : RTPSender) : Prop :=
  ∃ addr, inetPton session.clientIp = some addr ∧ sender.remoteAddr = ⟨addr, UInt16.ofNat session.clientRtpPort.toNat⟩

/-- **The socket of the thread**: it is opened in the first step, and is the same as long as there is one. -/
theorem threadStep_sender {answers : ThreadAnswers} {live : Live}
    (h : (threadStep answers live).1.thread.pc.hasSocket = true) :
    live.thread.pc = .initSender ∧ Aimed live.session (threadStep answers live).1.media.sender ∨
      live.thread.pc.hasSocket = true ∧ (threadStep answers live).1.media.sender = live.media.sender := by
  unfold threadStep at h ⊢
  cases hpc : live.thread.pc with
  | initSender =>
    rw [hpc] at h
    refine .inl ⟨rfl, ?_⟩
    dsimp only at h ⊢
    rcases hopen : rtpSenderInitEx answers.sender live.media.sender live.session.serverRtpPort live.session.clientIp
      live.session.clientRtpPort with ⟨sender, uses, ok⟩
    unfold openSender at h ⊢
    rw [hopen] at h ⊢
    rcases rtpSenderInitEx_cases hopen with ⟨rfl, fd, addr, -, -, haddr, -, -, hremote⟩ | ⟨rfl, -⟩
    · exact ⟨addr, haddr, hremote⟩
    · simp [ThreadPc.hasSocket] at h
  | capture =>
    refine .inr ⟨rfl, ?_⟩
    have hsender := (captureAndEncode_sets answers.capture live.media).2
    simp only [captureStep]
    split <;> exact hsender
  | sending packets complete =>
    refine .inr ⟨rfl, ?_⟩
    cases packets with
    | nil => rfl
    | cons packet rest =>
      simp only [sendStep]
      split
      · rfl
      · split <;> rfl
  | closeSender | closeMuxer | clearPlaying | summary => simp [hpc, ThreadPc.hasSocket] at h
  | exited => simp [hpc, ThreadPc.hasSocket] at h
  | _ => exact .inr ⟨rfl, rfl⟩

/-- **Packets leave** through the socket of the thread. -/
theorem threadStep_sent {answers : ThreadAnswers} {live : Live} (hready : Ready live) {d : Datagram}
    (h : .sent d ∈ (threadStep answers live).2) :
    live.thread.pc.hasSocket = true ∧ d.dest = live.media.sender.remoteAddr := by
  have heffect := turnStep_effect hready (.thread answers)
  simp only [turnStep] at heffect
  generalize (threadStep answers live).2 = events at h heffect
  cases heffect with
  | beside => cases h
  | quiet silent => exact absurd (silent _ h) (by simp [ThreadEvent.silent])
  | @delivered uses events unit silent pc length delivered =>
    rcases List.mem_append.mp h with h | h
    · exact absurd (silent _ h) (by simp [ThreadEvent.silent])
    · cases delivered with
      | skipped => simp at h
      | refused => simp at h
      | began _ records =>
        rcases records with ⟨-, r, rfl⟩ | ⟨-, rfl⟩ <;> simp at h
  | sent pc =>
    rw [List.mem_singleton, ThreadEvent.sent.injEq] at h
    exact ⟨by rw [pc]; rfl, by rw [h]⟩
  | finished pc =>
    simp only [List.mem_cons, ThreadEvent.sent.injEq, reduceCtorEq, List.not_mem_nil, or_false] at h
    exact ⟨by rw [pc]; rfl, by rw [h]⟩
  | broken pc =>
    rw [List.mem_singleton, ThreadEvent.sent.injEq] at h
    exact ⟨by rw [pc]; rfl, by rw [h]⟩
  | failed pc failure short =>
    rcases short with rfl | rfl
    · cases h
    · rw [List.mem_singleton, ThreadEvent.sent.injEq] at h
      exact ⟨by rw [pc]; rfl, by rw [h]⟩

theorem captureStep_not_exited (answers : ThreadAnswers) (live : Live) :
    (captureStep answers live).1.thread.pc ≠ .exited := by
  unfold captureStep
  dsimp only
  cases (captureAndEncode answers.capture live.media).unit with
  | none => simp
  | some unit =>
    have hdelivered := (deliver_delivered answers (captureAndEncode answers.capture live.media).media
      (live.thread.account unit.sequence) unit.data).1
    dsimp only
    generalize (deliver answers (captureAndEncode answers.capture live.media).media
      (live.thread.account unit.sequence) unit.data).2 = events at hdelivered
    cases hdelivered with
    | skipped _ _ _ _ next => simp [next]
    | refused _ _ _ next => simp [next]
    | began _ _ _ _ _ next =>
      rw [next]
      split <;> simp

/-- **The thread is over** after its last step only. -/
theorem threadStep_exited (answers : ThreadAnswers) (live : Live) :
    (threadStep answers live).1.thread.pc = .exited ↔ live.thread.pc = .summary ∨ live.thread.pc = .exited := by
  unfold threadStep
  cases hpc : live.thread.pc with
  | capture => simpa using captureStep_not_exited answers live
  | initSender =>
    simp only [openSender]
    split
    · simp
    · split <;> simp
  | initMuxer =>
    simp only [openMuxer]
    split <;> simp
  | drain =>
    dsimp only
    split <;> simp
  | loopHead =>
    dsimp only
    split <;> simp
  | sending packets complete =>
    cases packets with
    | nil => cases complete <;> simp [Thread.afterSend]
    | cons packet rest =>
      simp only [sendStep]
      split
      · simp
      · split
        · cases complete <;> simp [Thread.afterSend]
        · simp
  | exited => simp [hpc]
  | _ => simp

end MiniRtsp.Rtsp
