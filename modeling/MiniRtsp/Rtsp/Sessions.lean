import MiniRtsp.Rtsp.FreshStart
import MiniRtsp.Rtsp.MediaStart

/-!
# The media threads of a server

What a media thread does inside a server is a run of the media thread alone, from the pipeline that `rtsp_media_init`
opened and a session that has been set up, with the steps of the server as interference (`Tracked`): the server changes
nothing but the stop request and the session under a thread (`controlStep_turn`). So what holds of every run of a media
thread holds of every media thread of every run of the server (`serverRun_threads`).
-/

namespace MiniRtsp.Rtsp

open Ledger Rtp Trace

/-! ## What the media threads did -/

def noteThread : List (List ThreadEvent) → ServerEvent → List (List ThreadEvent)
  | past, .created => past ++ [[]]
  | past, .media e =>
    match past.getLast? with
    | some last => past.dropLast ++ [last ++ [e]]
    | none => [[e]]
  | past, _ => past

/-- What the media threads of a run did, one list for each thread that was created. -/
def threadRuns (events : List ServerEvent) : List (List ThreadEvent) := events.foldl noteThread []

/-- Neither the creation of a media thread nor what it does. -/
def ServerEvent.ofServer : ServerEvent → Bool
  | .created | .media _ => false
  | _ => true

theorem threadRuns_append (es fs : List ServerEvent) : threadRuns (es ++ fs) = fs.foldl noteThread (threadRuns es) := by
  simp [threadRuns]

theorem threadRuns_ofServer {es : List ServerEvent} (h : ∀ e ∈ es, e.ofServer = true) (past : List ServerEvent) :
    threadRuns (past ++ es) = threadRuns past := by
  rw [threadRuns_append]
  induction es with
  | nil => rfl
  | cons e es ih =>
    have he := h e (by simp)
    have hnote : noteThread (threadRuns past) e = threadRuns past := by
      cases e with
      | created | media _ => cases he
      | _ => rfl
    rw [List.foldl_cons, hnote]
    exact ih fun x hx => h x (by simp [hx])

/-- What a thread does joins its list. -/
theorem noteThread_media (past : List (List ThreadEvent)) (done events : List ThreadEvent) :
    (events.map ServerEvent.media).foldl noteThread (past ++ [done]) = past ++ [done ++ events] := by
  induction events generalizing done with
  | nil => simp
  | cons e events ih =>
    have hnote : noteThread (past ++ [done]) (.media e) = past ++ [done ++ [e]] := by simp [noteThread]
    rw [List.map_cons, List.foldl_cons, hnote, ih, List.append_assoc]
    rfl

/-! ## How a media thread starts -/

/-- The pipeline and the session that a media thread is created with. -/
structure Starts (config : RTSPServerConfig) (media : RTSPMedia) (session : RTSPSession) : Prop where
  initialized : media.initialized = true
  stored : StoredSets media
  recording : media.recordingEnabled = !recordPathDisabled config.recordPath
  playing : session.playing = true
  clientIp : session.clientIp ≠ []
  clientRtpPort : 0 < session.clientRtpPort

/-- What a media thread did is a run of the media thread that starts so. -/
def ThreadRun (config : RTSPServerConfig) (events : List ThreadEvent) : Prop :=
  ∃ media session, ∃ turns : List Turn, Starts config media session ∧
    (run turnStep ⟨media, session, .start⟩ turns).events = events

/-- **The media threads so far**: those that have been joined, and the one there is in the middle of its run. -/
inductive Tracked (config : RTSPServerConfig) (s : Server) : List (List ThreadEvent) → Prop where
  | idle {past : List (List ThreadEvent)} (none : s.thread = none) (joined : ∀ events ∈ past, ThreadRun config events) :
      Tracked config s past
  | running {past : List (List ThreadEvent)} {events : List ThreadEvent} {t : Thread} {media : RTSPMedia}
      {session : RTSPSession} (turns : List Turn) (some : s.thread = some t)
      (joined : ∀ events ∈ past, ThreadRun config events) (starts : Starts config media session)
      (hrun : run turnStep ⟨media, session, .start⟩ turns = ⟨⟨s.media, s.session, t⟩, events⟩) :
      Tracked config s (past ++ [events])

/-- Every one of them is a run, whether or not it is over. -/
theorem Tracked.threadRun {config : RTSPServerConfig} {s : Server} {past : List (List ThreadEvent)}
    (h : Tracked config s past) : ∀ events ∈ past, ThreadRun config events := by
  cases h with
  | idle _ joined => exact joined
  | running _ _ joined starts hrun =>
    intro events he
    rcases List.mem_append.mp he with he | he
    · exact joined events he
    · rw [List.mem_singleton.mp he]
      exact ⟨_, _, _, starts, by rw [hrun]⟩

/-- Without a thread, all that there were are over. -/
theorem Tracked.joined {config : RTSPServerConfig} {s s' : Server} {past : List (List ThreadEvent)}
    (h : Tracked config s past) (hnone : s'.thread = none) : Tracked config s' past := .idle hnone h.threadRun

/-- **What every step keeps.** -/
structure Sessions (config : RTSPServerConfig) (h : History Server ServerEvent) : Prop where
  /-- An opened pipeline has the parameter sets of its bootstrap access unit, and records if it was told to. -/
  pipeline : h.state.media.initialized = true →
    StoredSets h.state.media ∧ h.state.media.recordingEnabled = !recordPathDisabled config.recordPath
  starting : h.state.pc = .create → Starts config h.state.media h.state.session
  tracked : Tracked config h.state (threadRuns h.events)

theorem sessions_start (config : RTSPServerConfig) : Sessions config ⟨.start, []⟩ :=
  ⟨nofun, nofun, .idle rfl nofun⟩

/-! ## Opening the pipeline -/

theorem mediaInitFail_initialized (media : RTSPMedia) (uses : List (Use Resource)) :
    (mediaInitFail media uses).1.initialized = false := by
  simp only [mediaInitFail, rtspMediaClose, closeEncoder, closeCapture, destroyLock]
  repeat' split
  all_goals rfl

theorem prepareBootstrap_recording (answers : CaptureAnswers) (allocs : List Bool) (media : RTSPMedia) :
    (prepareBootstrapAccessUnit answers allocs media).1.recordingEnabled = media.recordingEnabled := by
  have hsets := (captureAndEncode_sets answers media).1.recording
  unfold prepareBootstrapAccessUnit
  dsimp only
  repeat' split
  all_goals exact hsets

theorem initEncoder_initialized {answers : MediaInitAnswers} {media : RTSPMedia} {uses : List (Use Resource)}
    (h : (initEncoder answers media uses).1.initialized = true) :
    (initEncoder answers media uses).2.2 = true ∧
      (initEncoder answers media uses).1.recordingEnabled = media.recordingEnabled := by
  have hrecording := fun media => prepareBootstrap_recording answers.bootstrap answers.allocs media
  unfold initEncoder at h ⊢
  dsimp only at h ⊢
  split at h
  · rw [mediaInitFail_initialized] at h
    cases h
  · rename_i hencoder
    rw [if_neg hencoder]
    split at h
    · rw [mediaInitFail_initialized] at h
      cases h
    · rename_i hbootstrap
      rw [if_neg hbootstrap]
      exact ⟨rfl, hrecording _⟩

theorem initPipeline_initialized {answers : MediaInitAnswers} {media : RTSPMedia} (hnot : media.initialized = false)
    (h : (initPipeline answers media).1.initialized = true) :
    (initPipeline answers media).2.2 = true ∧
      (initPipeline answers media).1.recordingEnabled = media.recordingEnabled := by
  unfold initPipeline at h ⊢
  split at h
  · rw [hnot] at h
    cases h
  · rename_i hmutex
    rw [if_neg hmutex]
    dsimp only at h ⊢
    split at h
    · rw [mediaInitFail_initialized] at h
      cases h
    · rename_i hcapture
      rw [if_neg hcapture]
      split at h
      · rw [mediaInitFail_initialized] at h
        cases h
      · rename_i hsize
        rw [if_neg hsize]
        split at h
        · rw [mediaInitFail_initialized] at h
          cases h
        · rename_i hwarmup
          rw [if_neg hwarmup]
          exact initEncoder_initialized h

/-- **An opened pipeline**: `rtsp_media_init` returned 0, and records exactly if it was given a path to record to. -/
theorem rtspMediaInit_initialized {answers : MediaInitAnswers} {media : RTSPMedia}
    {devicePath recordPath : Option Bytes} {warmupFrameCount : Int} (hnot : media.initialized = false)
    (h : (rtspMediaInit answers media devicePath recordPath warmupFrameCount).1.initialized = true) :
    (rtspMediaInit answers media devicePath recordPath warmupFrameCount).2.2 = true ∧
      (rtspMediaInit answers media devicePath recordPath warmupFrameCount).1.recordingEnabled =
        !recordPathDisabled recordPath := by
  unfold rtspMediaInit at h ⊢
  split at h
  · rw [hnot] at h
    cases h
  · rename_i hwarmup
    rw [if_neg hwarmup]
    dsimp only at h ⊢
    split at h
    · cases h
    · split at h
      · cases h
      · rename_i hpath
        rw [if_neg hpath]
        split at h
        · rename_i hdisabled
          rw [if_pos hdisabled, hdisabled]
          exact initPipeline_initialized rfl h
        · rename_i henabled
          rw [if_neg henabled, Bool.eq_false_iff.mpr henabled]
          split at h
          · cases h
          · rename_i hlength
            rw [if_neg hlength]
            exact initPipeline_initialized rfl h

/-! ## Steps of the server -/

section Step

variable {config : RTSPServerConfig} {h : History Server ServerEvent}

/-- Outside `pthread_create` the server neither creates a media thread nor acts for one. -/
theorem controlStep_ofServer (config : RTSPServerConfig) (answers : ServerAnswers) {s : Server}
    (hcreate : s.pc ≠ .create) : ∀ e ∈ (controlStep config answers s).2, e.ofServer = true := by
  intro e he
  have hat := controlStep_at config answers s e he
  cases e with
  | created => exact absurd hat hcreate
  | media e => exact hat.elim
  | _ => rfl

/-- **A step of the server beside a media thread** is a turn of the server. -/
theorem controlStep_turn (config : RTSPServerConfig) (answers : ServerAnswers) (hi : Inv False False h) {t : Thread}
    (ht : h.state.thread = some t) (ht' : (controlStep config answers h.state).1.thread = some t) :
    ∃ stop, turnStep (.server stop (controlStep config answers h.state).1.session)
      ⟨h.state.media, h.state.session, t⟩ =
        (⟨(controlStep config answers h.state).1.media, (controlStep config answers h.state).1.session, t⟩, []) := by
  have hnext := serverStep_inv config (.control answers) hi False.elim False.elim
  have hin := hi.inSession ht
  have hframe := controlStep_frame config answers (s := h.state) (fun hpc => by rw [hpc] at hin; cases hin)
    (fun hpc => by rw [hpc] at hin; cases hin)
  obtain ⟨stop, running, hmedia⟩ := hframe.media
  -- the flag is set as long as there is a thread
  have hset : ∀ {g : History Server ServerEvent}, Inv False False g → g.state.thread = some t →
      g.state.media.threadRunning = true := by
    intro g hg hthread
    have hflags := hg.flags
    rcases hflags.thread (by rw [hthread]; rfl) with hzone | hzone
    · rw [hzone, hthread] at hflags
      exact hflags
    · rw [hzone] at hflags
      exact hflags.1
  have hrunning : running = h.state.media.threadRunning := by
    have hafter := hset hnext ht'
    rw [hset hi ht]
    simpa only [advance, serverStep, hmedia] using hafter
  refine ⟨stop, ?_⟩
  rw [hmedia, hrunning]
  rfl

/-- Beside the opening and the closing of the pipeline a step of the server keeps it. -/
theorem controlStep_pipeline (config : RTSPServerConfig) (answers : ServerAnswers) (hs : Sessions config h)
    (hinit : (controlStep config answers h.state).1.media.initialized = true) :
    StoredSets (controlStep config answers h.state).1.media ∧
      (controlStep config answers h.state).1.media.recordingEnabled = !recordPathDisabled config.recordPath := by
  by_cases hboot : h.state.pc = .boot
  · simp only [controlStep, hboot] at hinit ⊢
    unfold boot at hinit ⊢
    split at hinit
    · rename_i hrefused
      rw [if_pos hrefused]
      exact hs.pipeline hinit
    · rename_i hconfig
      rw [if_neg hconfig]
      cases hsocket : answers.socket with
      | none =>
        rw [hsocket] at hinit
        exact hs.pipeline hinit
      | some fd =>
        rw [hsocket] at hinit
        dsimp only at hinit ⊢
        split at hinit
        · cases hinit
        · rename_i hlistens
          rw [if_neg hlistens]
          obtain ⟨hok, hrecording⟩ := rtspMediaInit_initialized rfl hinit
          have hopened := rtspMediaInit_opened answers.media .zero config.devicePath config.recordPath
            (Int.not_lt.mp fun hneg => hconfig (.inr (.inr (.inr hneg))))
          exact ⟨hopened.stored hok, hrecording⟩
  · by_cases hclose : h.state.pc = .closeMedia
    · simp only [controlStep, hclose, closeMedia, rtspMediaClose, closeEncoder, closeCapture, destroyLock] at hinit
      repeat' split at hinit
      all_goals cases hinit
    · obtain ⟨stop, running, hmedia⟩ := (controlStep_frame config answers hboot hclose).media
      rw [hmedia] at hinit ⊢
      exact hs.pipeline hinit

/-- **Where a media thread is created** the checks of `rtsp_media_start` have been passed. -/
theorem controlStep_starting (config : RTSPServerConfig) (answers : ServerAnswers) (hs : Sessions config h)
    (hpc : (controlStep config answers h.state).1.pc = .create) :
    Starts config (controlStep config answers h.state).1.media (controlStep config answers h.state).1.session := by
  have hcheck : h.state.pc = .startCheck := by
    unfold controlStep at hpc
    cases hwhere : h.state.pc with
    | startCheck => rfl
    | boot =>
      simp only [hwhere, boot] at hpc
      repeat' split at hpc
      all_goals cases hpc
    | waitCheck waiting =>
      cases waiting <;> simp only [hwhere, waitResult] at hpc <;> repeat' split at hpc
      all_goals cases hpc
    | waitPoll waiting =>
      cases waiting <;> simp only [hwhere, waitPoll, waitResult] at hpc <;> repeat' split at hpc
      all_goals cases hpc
    | accept =>
      simp only [hwhere, acceptClient] at hpc
      split at hpc <;> cases hpc
    | recv =>
      simp only [hwhere, receive] at hpc
      split at hpc <;> cases hpc
    | process request =>
      simp only [hwhere, process] at hpc
      split at hpc <;> cases hpc
    | respond response after =>
      cases after <;> simp only [hwhere, respond] at hpc <;> repeat' split at hpc
      all_goals cases hpc
    | create =>
      simp only [hwhere, createThread] at hpc
      split at hpc <;> cases hpc
    | stopFlags after =>
      obtain ⟨session, -, -, hstop⟩ := stopFlags_cases h.state after
      simp only [hwhere, hstop] at hpc
      split at hpc
      · cases hpc
      · cases after <;> cases hpc
    | join after =>
      simp only [hwhere, join] at hpc
      repeat' split at hpc
      all_goals first | cases hpc | (rw [hwhere] at hpc; cases hpc)
    | joined after => cases after <;> simp [hwhere, afterStop] at hpc
    | serverHead | clientHead | cleanup =>
      simp only [hwhere] at hpc
      split at hpc <;> cases hpc
    | startFail | closeClient | leave | closeMedia => simp [hwhere, startFail, closeMedia] at hpc
    | returned =>
      simp only [hwhere] at hpc
      cases hpc
  simp only [controlStep, hcheck] at hpc ⊢
  unfold startCheck at hpc ⊢
  split at hpc
  · cases hpc
  · rename_i hready
    rw [if_neg hready]
    split at hpc
    · cases hpc
    · rename_i hfree
      rw [if_neg hfree]
      have hinit : h.state.media.initialized = true := by
        by_contra hnot
        exact hready (.inl (by simpa using hnot))
      obtain ⟨hstored, hrecording⟩ := hs.pipeline hinit
      exact ⟨hinit, hstored, hrecording, rfl, fun hip => hready (.inr (.inl hip)),
        Int.not_le.mp fun hport => hready (.inr (.inr hport))⟩

/-- **A step of the server** keeps track of the media threads. -/
theorem controlStep_tracked (config : RTSPServerConfig) (answers : ServerAnswers) (hi : Inv False False h)
    (hs : Sessions config h) :
    Tracked config (controlStep config answers h.state).1
      (threadRuns (h.events ++ (controlStep config answers h.state).2)) := by
  by_cases hcreate : h.state.pc = .create
  · have hflags := hi.flags
    rw [hcreate] at hflags
    have hnone := no_thread hflags.2
    simp only [controlStep, hcreate]
    unfold createThread
    split
    · rw [List.append_nil]
      exact hs.tracked.joined hnone
    · have hnote : threadRuns (h.events ++
          [.created, .playAccepted h.state.session.clientIp h.state.session.clientRtpPort]) =
            threadRuns h.events ++ [[]] := by
        rw [threadRuns_append]
        rfl
      rw [hnote]
      exact .running [] rfl hs.tracked.threadRun (hs.starting hcreate) rfl
  · rw [threadRuns_ofServer (controlStep_ofServer config answers hcreate)]
    have htracked := hs.tracked
    cases hthread : (controlStep config answers h.state).1.thread with
    | none => exact htracked.joined hthread
    | some t =>
      have hbefore : h.state.thread = some t := by
        by_cases hidle : h.state.pc = .boot ∨ h.state.pc = .closeMedia
        · have hnext := serverStep_inv config (.control answers) hi False.elim False.elim
          have hin := hnext.inSession hthread
          rcases hidle with hidle | hidle
          · simp only [advance, serverStep, controlStep, hidle, boot] at hin
            repeat' split at hin
            all_goals cases hin
          · simp only [advance, serverStep, controlStep, hidle, closeMedia] at hin
            cases hin
        · obtain ⟨hboot, hclose⟩ := not_or.mp hidle
          rcases (controlStep_frame config answers hboot hclose).thread with hsame | hwhere | ⟨hnone, -⟩
          · rw [← hsame]
            exact hthread
          · exact absurd hwhere hcreate
          · rw [hthread] at hnone
            cases hnone
      obtain ⟨stop, hturn⟩ := controlStep_turn config answers hi hbefore hthread
      generalize threadRuns h.events = past at htracked ⊢
      cases htracked with
      | idle hnone => rw [hbefore] at hnone; cases hnone
      | @running past events t' media session turns hsome joined starts hrun =>
        rw [hbefore, Option.some.injEq] at hsome
        subst hsome
        refine .running (turns ++ [.server stop (controlStep config answers h.state).1.session]) hthread joined starts ?_
        rw [run_concat, hrun, advance, hturn, List.append_nil]

/-! ## Steps of the media thread -/

/-- **A step of the media thread** is its own turn. -/
theorem mediaStep_tracked (answers : ThreadAnswers) (hs : Sessions config h) :
    Tracked config (mediaStep answers h.state).1 (threadRuns (h.events ++ (mediaStep answers h.state).2)) := by
  have htracked := hs.tracked
  unfold mediaStep
  cases ht : h.state.thread with
  | none =>
    rw [List.append_nil]
    exact htracked.joined ht
  | some t =>
    dsimp only
    have hexit : ∀ e ∈ (if t.pc = .summary then [ServerEvent.threadExited] else []), e.ofServer = true := by
      intro e he
      split at he
      · rw [List.mem_singleton.mp he]
        rfl
      · cases he
    rw [← List.append_assoc, threadRuns_ofServer hexit, threadRuns_append]
    generalize threadRuns h.events = past at htracked ⊢
    cases htracked with
    | idle hnone => rw [ht] at hnone; cases hnone
    | @running past events t' media session turns hsome joined starts hrun =>
      rw [ht, Option.some.injEq] at hsome
      subst hsome
      rw [noteThread_media]
      refine .running (turns ++ [.thread answers]) rfl joined starts ?_
      rw [run_concat, hrun]
      rfl

theorem mediaStep_pipeline (answers : ThreadAnswers) (hi : Inv False False h) (hs : Sessions config h)
    (hinit : (mediaStep answers h.state).1.media.initialized = true) :
    StoredSets (mediaStep answers h.state).1.media ∧
      (mediaStep answers h.state).1.media.recordingEnabled = !recordPathDisabled config.recordPath := by
  unfold mediaStep at hinit ⊢
  cases ht : h.state.thread with
  | none =>
    rw [ht] at hinit
    exact hs.pipeline hinit
  | some t =>
    rw [ht] at hinit
    dsimp only at hinit ⊢
    have hframe := threadStep_frame answers ⟨h.state.media, h.state.session, t⟩
    have hsets := (turnStep_ready (hi.ready t ht) (.thread answers)).2
    rw [hframe.initialized] at hinit
    obtain ⟨⟨bootstrap, allocs, sps, pps, hlen, hcopy, hsps, hpps⟩, hrecording⟩ := hs.pipeline hinit
    exact ⟨⟨bootstrap, allocs, sps, pps, hlen, hcopy, hsets.sps.trans hsps, hsets.pps.trans hpps⟩,
      hsets.recording.trans hrecording⟩

/-- **Every step** keeps track of the media threads. -/
theorem serverStep_sessions (move : Move) (hi : Inv False False h) (hs : Sessions config h) :
    Sessions config (advance (serverStep config) h move) := by
  cases move with
  | control answers =>
    exact ⟨controlStep_pipeline config answers hs, controlStep_starting config answers hs,
      controlStep_tracked config answers hi hs⟩
  | media answers =>
    refine ⟨mediaStep_pipeline answers hi hs, ?_, mediaStep_tracked answers hs⟩
    intro hpc
    have hcreate : h.state.pc = .create := by
      simp only [advance, serverStep, mediaStep] at hpc
      split at hpc <;> exact hpc
    -- while a thread is created there is none that could move
    have hflags := hi.flags
    rw [hcreate] at hflags
    simp only [advance, serverStep, mediaStep, no_thread hflags.2]
    exact hs.starting hcreate

end Step

/-! ## Runs -/

theorem serverRun_sessions (config : RTSPServerConfig) (moves : List Move) :
    Inv False False (serverRun config moves) ∧ Sessions config (serverRun config moves) :=
  run_induction (serverStep config) (P := fun h => Inv False False h ∧ Sessions config h)
    ⟨inv_start False False, sessions_start config⟩ fun _ move _ hp =>
      ⟨serverStep_inv config move hp.1 False.elim False.elim, serverStep_sessions move hp.1 hp.2⟩

/-- **The media threads of a server** are runs of the media thread alone: in every run of the server, under every
interleaving of its steps, what each of them did is what a media thread does that starts with an opened pipeline and a
session after SETUP and PLAY, while the stop request and the session change under it. -/
theorem serverRun_threads (config : RTSPServerConfig) (moves : List Move) :
    ∀ events ∈ threadRuns (serverRun config moves).events, ∃ media session, ∃ turns : List Turn,
      Starts config media session ∧ (run turnStep ⟨media, session, .start⟩ turns).events = events :=
  (serverRun_sessions config moves).2.tracked.threadRun

/-- A client sets up a session, plays it, and gets an IDR slice. -/
def playsOnce : List Move :=
  serves (setupRequest "6000-6001") 11 ++ serves playRequest 8 ++ streams [0, 0, 0, 1, 0x65, 0x88] 9

theorem serverRun_threads_once : ∃ media session, ∃ turns : List Turn, Starts homeConfig media session ∧
    streamedCount (run turnStep ⟨media, session, .start⟩ turns).events = 1 := by
  have hcounts : (threadRuns (serverRun homeConfig playsOnce).events).map streamedCount = [1] := by decide +kernel
  obtain ⟨events, hevents, hcount⟩ := List.map_eq_singleton_iff.mp hcounts
  obtain ⟨media, session, turns, hstarts, hrun⟩ := serverRun_threads homeConfig playsOnce events (by simp [hevents])
  exact ⟨media, session, turns, hstarts, hrun ▸ hcount⟩

end MiniRtsp.Rtsp
