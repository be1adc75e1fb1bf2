import MiniRtsp.Rtsp.ControlFrame

/-!
# The client loop inside the server

The server runs its client loop step by step, with the media thread, `poll`, the responses and `rtsp_media_start` in
between. On every connection `process_request` is called with exactly the texts that the loop (`clientLoop`) takes from
the answers of `recv` (`serverRun_requests`).
-/

namespace MiniRtsp.Rtsp

open Trace

/-! ## What passes over a connection -/

/-- The answers of `recv` and the texts given to `process_request` on a connection. -/
structure Exchange where
  received : List Recv
  requested : List Bytes
  deriving DecidableEq, Repr

def observeExchange : Exchange → ServerEvent → Exchange
  | _, .connected _ => ⟨[], []⟩
  | x, .received answer => { x with received := x.received ++ [answer] }
  | x, .requested request => { x with requested := x.requested ++ [request] }
  | x, _ => x

/-- What has passed over the last connection. -/
def exchange (events : List ServerEvent) : Exchange := events.foldl observeExchange ⟨[], []⟩

/-- Events of which the connection shows nothing. -/
def ServerEvent.aside : ServerEvent → Bool
  | .connected _ | .received _ | .requested _ => false
  | _ => true

theorem exchange_aside {es : List ServerEvent} (h : ∀ e ∈ es, e.aside = true) (past : List ServerEvent) :
    exchange (past ++ es) = exchange past := by
  unfold exchange
  rw [List.foldl_append]
  generalize past.foldl observeExchange ⟨[], []⟩ = x
  induction es with
  | nil => rfl
  | cons e es ih =>
    have he := h e (by simp)
    have hx : observeExchange x e = x := by cases e <;> first | rfl | cases he
    rw [List.foldl_cons, hx]
    exact ih fun y hy => h y (by simp [hy])

theorem exchange_concat (past : List ServerEvent) (e : ServerEvent) :
    exchange (past ++ [e]) = observeExchange (exchange past) e := by
  simp [exchange]

/-! ## Where the loop is -/

/-- The loop over what `recv` has answered so far: a request that ends the session ends these answers, too. -/
def loopTexts (buffer : Bytes) (recvs : List Recv) : List Bytes :=
  clientLoop (fun (_ : Unit) _ => ((), .ok)) () buffer recvs

theorem loopTexts_nil (buffer : Bytes) : loopTexts buffer [] = [] := rfl

theorem loopTexts_cons (buffer : Bytes) (recv : Recv) (recvs : List Recv) :
    loopTexts buffer (recv :: recvs) =
      match clientRecv buffer recv with
      | .keep buffer => loopTexts buffer recvs
      | .leave => []
      | .process text => text :: loopTexts [] recvs := by
  cases hrecv : clientRecv buffer recv <;> simp only [loopTexts, clientLoop, hrecv]

/-- The text that `process_request` is about to be called with. -/
def ServerPc.calling : ServerPc → List Bytes
  | .process request => [request]
  | _ => []

/-- The bytes in the buffer when the loop calls `recv` the next time, unless the loop is over. -/
def Server.loopBuffer (s : Server) : Option Bytes :=
  match s.pc with
  | .clientHead | .waitCheck .client | .waitPoll .client | .recv => some s.buffer
  | .process _ | .respond _ _ | .startCheck | .create => some []
  | _ => none

/-- **The server is where the loop is** after the same answers of `recv`. -/
def InStep (s : Server) (x : Exchange) : Prop :=
  match s.loopBuffer with
  | some buffer => ∀ more, loopTexts [] (x.received ++ more) = x.requested ++ s.pc.calling ++ loopTexts buffer more
  | none => loopTexts [] x.received = x.requested ++ s.pc.calling

/-- Whether or not the loop is over, it has called `process_request` with these texts. -/
theorem InStep.requested {s : Server} {x : Exchange} (h : InStep s x) :
    loopTexts [] x.received = x.requested ++ s.pc.calling := by
  unfold InStep at h
  split at h
  · have hnow := h []
    rw [List.append_nil, loopTexts_nil, List.append_nil] at hnow
    exact hnow
  · exact h

/-- A step that leaves the connection alone: the loop goes on or is over. -/
def Stays (s s' : Server) : Prop :=
  s'.pc.calling = s.pc.calling ∧ (s'.loopBuffer = s.loopBuffer ∨ s'.loopBuffer = none)

theorem InStep.stays {s s' : Server} {x : Exchange} (h : InStep s x) (hstays : Stays s s') : InStep s' x := by
  obtain ⟨hcalling, hsame | hover⟩ := hstays
  · unfold InStep at h ⊢
    rw [hsame, hcalling]
    exact h
  · have hnow := h.requested
    unfold InStep
    rw [hover, hcalling]
    exact hnow

/-! ## Every step -/

theorem aside_of_at {pc : ServerPc} {e : ServerEvent} (h : e.At pc) (haccept : pc ≠ .accept) (hrecv : pc ≠ .recv)
    (hprocess : ∀ request, pc ≠ .process request) : e.aside = true := by
  cases e with
  | connected peer => exact absurd h haccept
  | received answer => exact absurd h hrecv
  | requested request => exact absurd h (hprocess request)
  | _ => rfl

theorem waitResult_stays {s : Server} {waiting : Waiting} (ret : Int)
    (hpc : s.pc = .waitCheck waiting ∨ s.pc = .waitPoll waiting) : Stays s (waitResult s waiting ret) := by
  cases waiting with
  | listener =>
    simp only [waitResult]
    repeat' split
    all_goals rcases hpc with hpc | hpc <;> simp [Stays, hpc, ServerPc.calling, Server.loopBuffer]
  | client =>
    simp only [waitResult]
    split <;> rcases hpc with hpc | hpc <;> simp [Stays, hpc, ServerPc.calling, Server.loopBuffer]

theorem waitPoll_stays (config : RTSPServerConfig) (answers : ServerAnswers) {s : Server} {waiting : Waiting}
    (hpc : s.pc = .waitPoll waiting) : Stays s (waitPoll config answers s waiting).1 := by
  have hresult := fun ret => waitResult_stays ret (.inr hpc)
  have hagain : Stays s { s with pc := .waitCheck waiting } := by
    cases waiting <;> simp [Stays, hpc, ServerPc.calling, Server.loopBuffer]
  unfold waitPoll
  split
  · exact hagain
  · exact hresult (-1)
  · split
    · exact hresult 0
    · split
      · exact hresult 1
      · split
        · exact hresult (-1)
        · exact hagain

theorem afterStop_stays {s : Server} (s' : Server) (after : AfterStop) (hcalling : s.pc.calling = []) :
    Stays s (afterStop s' after).1 := by
  unfold Stays
  rw [hcalling]
  cases after <;> simp [afterStop, ServerPc.calling, Server.loopBuffer]

/-- **A step of the server** other than `accept`, `recv` and the call of `process_request`. -/
theorem controlStep_stays (config : RTSPServerConfig) (answers : ServerAnswers) {s : Server}
    (haccept : s.pc ≠ .accept) (hrecv : s.pc ≠ .recv) (hprocess : ∀ request, s.pc ≠ .process request) :
    Stays s (controlStep config answers s).1 := by
  unfold controlStep
  cases hpc : s.pc with
  | accept => exact absurd hpc haccept
  | recv => exact absurd hpc hrecv
  | process request => exact absurd hpc (hprocess request)
  | boot =>
    simp only [boot]
    repeat' split
    all_goals simp [Stays, hpc, ServerPc.calling, Server.loopBuffer]
  | waitCheck waiting =>
    dsimp only
    split
    · exact waitResult_stays 0 (.inl hpc)
    · cases waiting <;> simp [Stays, hpc, ServerPc.calling, Server.loopBuffer]
  | waitPoll waiting => exact waitPoll_stays config answers hpc
  | respond response after =>
    simp only [respond]
    cases after with
    | teardown => simp [Stays, hpc, ServerPc.calling, Server.loopBuffer]
    | done | start =>
      dsimp only
      split <;> simp [Stays, hpc, requestDone, ServerPc.calling, Server.loopBuffer]
  | startCheck =>
    simp only [startCheck]
    split
    · simp [Stays, hpc, ServerPc.calling, Server.loopBuffer]
    · split <;> simp [Stays, hpc, requestDone, ServerPc.calling, Server.loopBuffer]
  | create =>
    simp only [createThread]
    split <;> simp [Stays, hpc, requestDone, ServerPc.calling, Server.loopBuffer]
  | stopFlags after =>
    obtain ⟨session, -, -, hstop⟩ := stopFlags_cases s after
    dsimp only
    rw [hstop]
    split
    · simp [Stays, hpc, ServerPc.calling, Server.loopBuffer]
    · exact afterStop_stays _ after (by rw [hpc]; rfl)
  | join after =>
    simp only [join]
    split
    · split <;> simp [Stays, hpc, ServerPc.calling, Server.loopBuffer]
    · simp [Stays, hpc, ServerPc.calling, Server.loopBuffer]
  | joined after => exact afterStop_stays _ after (by rw [hpc]; rfl)
  | serverHead | clientHead | cleanup =>
    dsimp only
    split <;> simp [Stays, hpc, ServerPc.calling, Server.loopBuffer]
  | startFail | closeClient | leave | closeMedia | returned =>
    simp [Stays, hpc, startFail, closeMedia, ServerPc.calling, Server.loopBuffer]

section Step

variable {h : History Server ServerEvent}

theorem acceptClient_exchange (answers : ServerAnswers) (hf : InStep h.state (exchange h.events))
    (hpc : h.state.pc = .accept) :
    InStep (acceptClient answers h.state).1 (exchange (h.events ++ (acceptClient answers h.state).2)) := by
  have hnow := hf.requested
  rw [hpc] at hnow
  unfold acceptClient
  cases answers.accept with
  | interrupted | failed =>
    rw [List.append_nil]
    exact hnow
  | accepted fd peer printed =>
    rw [List.append_cons, exchange_concat]
    intro more
    rfl

/-- `recv`: the loop takes the answer. -/
theorem receive_exchange (answers : ServerAnswers) (hf : InStep h.state (exchange h.events))
    (hpc : h.state.pc = .recv) :
    InStep (receive answers h.state).1 (exchange (h.events ++ (receive answers h.state).2)) := by
  have hnow := hf.requested
  have hloop : h.state.loopBuffer = some h.state.buffer := by simp [Server.loopBuffer, hpc]
  unfold InStep at hf
  rw [hloop] at hf
  rw [hpc] at hf hnow
  simp only [ServerPc.calling, List.append_nil] at hf hnow
  unfold receive
  by_cases hfull : h.state.buffer.length ≥ bufferSize - 1
  · -- no call; the session ends
    have hleave : clientRecv h.state.buffer answers.recv = .leave := if_pos hfull
    simp only [hfull, if_true, hleave, List.append_nil]
    simpa [InStep, Server.loopBuffer, ServerPc.calling] using hnow
  · have hmore : ∀ more, loopTexts [] ((exchange h.events).received ++ [answers.recv] ++ more) =
        (exchange h.events).requested ++ loopTexts h.state.buffer (answers.recv :: more) := by
      intro more
      rw [List.append_assoc]
      exact hf (answers.recv :: more)
    simp only [loopTexts_cons] at hmore
    have hshown := exchange_concat h.events (.received answers.recv)
    simp only [hfull, if_false]
    cases hrecv : clientRecv h.state.buffer answers.recv with
    | keep buffer =>
      simp only [hrecv] at hmore
      simpa [InStep, Server.loopBuffer, ServerPc.calling, hshown, observeExchange] using hmore
    | process request =>
      simp only [hrecv] at hmore
      simpa [InStep, Server.loopBuffer, ServerPc.calling, hshown, observeExchange] using hmore
    | leave =>
      have hover := hmore []
      simp only [hrecv, List.append_nil] at hover
      simpa [InStep, Server.loopBuffer, ServerPc.calling, hshown, observeExchange] using hover

/-- `process_request` is called with the text that the loop has taken. -/
theorem process_exchange (answers : ServerAnswers) (hf : InStep h.state (exchange h.events)) {request : Bytes}
    (hpc : h.state.pc = .process request) :
    InStep (process answers h.state request).1 (exchange (h.events ++ (process answers h.state request).2)) := by
  have hnow := hf.requested
  have hloop : h.state.loopBuffer = some [] := by simp [Server.loopBuffer, hpc]
  unfold InStep at hf
  rw [hloop] at hf
  rw [hpc] at hf hnow
  unfold process
  dsimp only
  split
  · rw [exchange_concat]
    simpa [InStep, Server.loopBuffer, ServerPc.calling, observeExchange] using hnow
  · rw [exchange_concat]
    simpa [InStep, Server.loopBuffer, ServerPc.calling, observeExchange] using hf

/-- **Every step** keeps the server where the loop is. -/
theorem serverStep_exchange (config : RTSPServerConfig) (move : Move) (hf : InStep h.state (exchange h.events)) :
    InStep (advance (serverStep config) h move).state (exchange (advance (serverStep config) h move).events) := by
  unfold advance
  cases move with
  | media answers =>
    cases ht : h.state.thread with
    | none => simpa [serverStep, mediaStep, ht] using hf
    | some t =>
      simp only [serverStep, mediaStep, ht]
      rw [exchange_aside]
      · exact hf.stays ⟨rfl, .inl rfl⟩
      · intro e he
        rcases List.mem_append.mp he with he | he
        · obtain ⟨_, -, rfl⟩ := List.mem_map.mp he
          rfl
        · split at he
          · rw [List.mem_singleton.mp he]; rfl
          · cases he
  | control answers =>
    have hat := controlStep_at config answers h.state
    have hstays := @controlStep_stays config answers h.state
    simp only [serverStep]
    cases hpc : h.state.pc with
    | accept =>
      simp only [controlStep, hpc]
      exact acceptClient_exchange answers hf hpc
    | recv =>
      simp only [controlStep, hpc]
      exact receive_exchange answers hf hpc
    | process request =>
      simp only [controlStep, hpc]
      exact process_exchange answers hf hpc
    | _ =>
      rw [hpc] at hat hstays
      rw [exchange_aside]
      · exact hf.stays (hstays (by simp) (by simp) (by simp))
      · intro e he
        exact aside_of_at (hat e he) (by simp) (by simp) (by simp)

end Step

/-- **On every connection** `process_request` has been called with the texts that the client loop takes from the answers
of `recv`; between the two there is at most one more. -/
theorem serverRun_requests (config : RTSPServerConfig) (moves : List Move) :
    clientLoop (fun (_ : Unit) _ => ((), .ok)) () [] (exchange (serverRun config moves).events).received =
      (exchange (serverRun config moves).events).requested ++ (serverRun config moves).state.pc.calling := by
  have hf : InStep (serverRun config moves).state (exchange (serverRun config moves).events) :=
    run_induction (serverStep config) (P := fun h => InStep h.state (exchange h.events)) rfl
      fun _ move _ hf => serverStep_exchange config move hf
  exact hf.requested

end MiniRtsp.Rtsp
