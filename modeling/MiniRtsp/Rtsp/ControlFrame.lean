import MiniRtsp.Rtsp.ServerRuns

/-!
# The events and the frame of a step of the server

Every event of a step has its place in the program (`controlStep_place`). A step that neither opens nor closes the
pipeline leaves the sockets, the pipeline and the media thread as they are, but for what `ControlFrame` excepts
(`controlStep_frame`).
-/

namespace MiniRtsp.Rtsp

/-! ## Events -/

/-- Where the server can be when it does something. -/
def ServerEvent.At (pc : ServerPc) : ServerEvent → Prop
  | .use _ => pc = .boot ∨ pc = .accept ∨ pc = .closeClient ∨ pc = .closeMedia
  | .connected _ => pc = .accept
  | .received _ => pc = .recv
  | .requested request => pc = .process request
  | .media _ | .threadExited => False
  | .examined | .alreadyRunning => pc = .startCheck
  | .created => pc = .create
  | .playAccepted _ _ => pc = .startCheck ∨ pc = .create
  | .sessionStopped => pc = .stopFlags .session ∨ pc = .joined .session
  | _ => True

/-- Which call of the server has returned when it does something. -/
def ServerEvent.Returns (pc : ServerPc) : ServerEvent → Prop
  | .responded _ => ∃ response after, pc = .respond response after
  | .joined => ∃ after, pc = .join after
  | .disconnected => pc = .closeClient
  | .shutdown => ∃ waiting, pc = .waitPoll waiting
  | .returned _ => pc = .boot ∨ pc = .closeMedia
  | _ => True

/-- **Every event of a step** has its place in the program. -/
theorem controlStep_place (config : RTSPServerConfig) (answers : ServerAnswers) (s : Server) :
    ∀ e ∈ (controlStep config answers s).2, e.At s.pc ∧ e.Returns s.pc := by
  have hafter : ∀ (s' : Server) after, s.pc = .stopFlags after ∨ s.pc = .joined after →
      ∀ e ∈ (afterStop s' after).2, e.At s.pc ∧ e.Returns s.pc := by
    intro s' after hpc
    cases after with
    | session => simpa [afterStop, ServerEvent.At, ServerEvent.Returns] using hpc
    | teardown | close => simp [afterStop]
  unfold controlStep
  cases hpc : s.pc with
  | boot =>
    simp only [boot]
    repeat' split
    all_goals simp [ServerEvent.At, ServerEvent.Returns]
  | waitCheck =>
    dsimp only
    split <;> simp
  | waitPoll =>
    simp only [waitPoll]
    repeat' split
    all_goals simp [ServerEvent.At, ServerEvent.Returns]
  | accept =>
    simp only [acceptClient]
    split <;> simp [ServerEvent.At, ServerEvent.Returns]
  | recv =>
    simp only [receive]
    split <;> split <;> simp [ServerEvent.At, ServerEvent.Returns]
  | process =>
    simp only [process]
    split <;> simp [ServerEvent.At, ServerEvent.Returns]
  | respond response after =>
    simp only [respond]
    cases after <;> dsimp only <;> split <;> simp [ServerEvent.At, ServerEvent.Returns]
  | startCheck =>
    simp only [startCheck]
    split
    · simp
    · split <;> simp [ServerEvent.At, ServerEvent.Returns]
  | create =>
    simp only [createThread]
    split <;> simp [ServerEvent.At, ServerEvent.Returns]
  | stopFlags after =>
    have hreturns := fun s' => hafter s' after (.inl hpc)
    rw [hpc] at hreturns
    obtain ⟨session, -, -, hstop⟩ := stopFlags_cases s after
    dsimp only
    rw [hstop]
    split
    · simp
    · exact hreturns _
  | join =>
    simp only [join]
    split
    · split <;> simp [ServerEvent.At, ServerEvent.Returns]
    · simp [ServerEvent.At, ServerEvent.Returns]
  | joined after =>
    have hreturns := fun s' => hafter s' after (.inr hpc)
    rw [hpc] at hreturns
    exact hreturns _
  | closeClient => simp [ServerEvent.At, ServerEvent.Returns]
  | closeMedia =>
    simp only [closeMedia]
    intro e he
    simp only [List.mem_append, List.mem_map, List.mem_singleton] at he
    rcases he with (⟨_, -, rfl⟩ | he) | rfl
    · exact ⟨.inr (.inr (.inr rfl)), trivial⟩
    · split at he
      · rw [List.mem_singleton.mp he]
        exact ⟨.inr (.inr (.inr rfl)), trivial⟩
      · cases he
    · exact ⟨trivial, .inr rfl⟩
  | _ => simp

theorem controlStep_at (config : RTSPServerConfig) (answers : ServerAnswers) (s : Server) :
    ∀ e ∈ (controlStep config answers s).2, e.At s.pc := fun e he =>
  (controlStep_place config answers s e he).1

/-! ## Frame -/

/-- What a step leaves alone: the listening socket, the socket of the client except in `accept`, all of the pipeline but
its two flags, and the media thread except in `pthread_create` and `pthread_join`. -/
structure ControlFrame (s s' : Server) : Prop where
  serverFd : s'.serverFd = s.serverFd
  clientFd : s'.clientFd = s.clientFd ∨ s.pc = .accept
  media : ∃ stop running, s'.media = { s.media with stopRequested := stop, threadRunning := running }
  thread : s'.thread = s.thread ∨ s.pc = .create ∨ s'.thread = none ∧ ∀ t ∈ s.thread, t.pc = .exited

theorem ControlFrame.of_same {s s' : Server} (hserver : s'.serverFd = s.serverFd) (hclient : s'.clientFd = s.clientFd)
    (hmedia : s'.media = s.media) (hthread : s'.thread = s.thread) : ControlFrame s s' :=
  ⟨hserver, .inl hclient, ⟨s.media.stopRequested, s.media.threadRunning, hmedia⟩, .inl hthread⟩

theorem ControlFrame.afterStop {s s' : Server} (hs : ControlFrame s s') (after : AfterStop) :
    ControlFrame s (afterStop s' after).1 := by
  cases after <;> exact ⟨hs.serverFd, hs.clientFd, hs.media, hs.thread⟩

theorem waitResult_frame (s : Server) (waiting : Waiting) (ret : Int) :
    ControlFrame s (waitResult s waiting ret) := by
  cases waiting <;> simp only [waitResult] <;> repeat' split
  all_goals exact .of_same rfl rfl rfl rfl

theorem join_frame (s : Server) (after : AfterStop) : ControlFrame s (join s after).1 := by
  unfold join
  split
  · rename_i t ht
    split
    · rename_i hexited
      refine ⟨rfl, .inl rfl, ⟨_, _, rfl⟩, .inr (.inr ⟨rfl, ?_⟩)⟩
      intro t' ht'
      rw [ht, Option.mem_some_iff] at ht'
      rw [← ht']
      exact hexited
    · exact .of_same rfl rfl rfl rfl
  · exact .of_same rfl rfl rfl rfl

/-- **The frame of a step** of the server. -/
theorem controlStep_frame (config : RTSPServerConfig) (answers : ServerAnswers) {s : Server} (hboot : s.pc ≠ .boot)
    (hclose : s.pc ≠ .closeMedia) : ControlFrame s (controlStep config answers s).1 := by
  unfold controlStep
  cases hpc : s.pc with
  | boot => exact absurd hpc hboot
  | closeMedia => exact absurd hpc hclose
  | waitCheck waiting =>
    dsimp only
    split
    · exact waitResult_frame s waiting 0
    · exact .of_same rfl rfl rfl rfl
  | waitPoll waiting =>
    simp only [waitPoll]
    repeat' split
    all_goals first | exact waitResult_frame s waiting _ | exact .of_same rfl rfl rfl rfl
  | accept =>
    simp only [acceptClient]
    split
    · exact .of_same rfl rfl rfl rfl
    · exact .of_same rfl rfl rfl rfl
    · exact ⟨rfl, .inr hpc, ⟨_, _, rfl⟩, .inl rfl⟩
  | recv =>
    simp only [receive]
    split <;> exact .of_same rfl rfl rfl rfl
  | process request =>
    simp only [process]
    split <;> exact .of_same rfl rfl rfl rfl
  | respond response after =>
    simp only [respond]
    cases after with
    | teardown | start => exact .of_same rfl rfl rfl rfl
    | done =>
      dsimp only
      split <;> exact .of_same rfl rfl rfl rfl
  | startCheck =>
    simp only [startCheck]
    split
    · exact .of_same rfl rfl rfl rfl
    · split <;> exact ⟨rfl, .inl rfl, ⟨_, _, rfl⟩, .inl rfl⟩
  | create =>
    simp only [createThread]
    split
    · exact .of_same rfl rfl rfl rfl
    · exact ⟨rfl, .inl rfl, ⟨_, _, rfl⟩, .inr (.inl hpc)⟩
  | stopFlags after =>
    obtain ⟨session, -, -, hstop⟩ := stopFlags_cases s after
    have hflag : ControlFrame s (s.stopping session) := ⟨rfl, .inl rfl, ⟨_, _, rfl⟩, .inl rfl⟩
    dsimp only
    rw [hstop]
    split
    · exact ⟨hflag.serverFd, hflag.clientFd, hflag.media, hflag.thread⟩
    · exact hflag.afterStop after
  | join after => exact join_frame s after
  | joined after =>
    have hflag : ControlFrame s { s with media := { s.media with threadRunning := false } } :=
      ⟨rfl, .inl rfl, ⟨_, _, rfl⟩, .inl rfl⟩
    exact hflag.afterStop after
  | startFail => exact ⟨rfl, .inl rfl, ⟨_, _, rfl⟩, .inl rfl⟩
  | serverHead | clientHead | closeClient | leave | cleanup | returned => exact .of_same rfl rfl rfl rfl

end MiniRtsp.Rtsp
