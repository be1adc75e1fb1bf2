import MiniRtsp.Process.Signals

/-!
# A signal ends the server

Once `handle_stop_signal` has set the flag, every step of the server leads towards its end (`haltRank`), but for two
calls that may wait: `poll`, which returns when the handler has written to the pipe, and the join of the media thread,
which has been asked to stop. A third, `send` to a client, is taken to come to an end; `send_all` does not read the
flag, and a client that reads nothing could keep the server there. So `rtsp_server_run` returns if server, media thread
and handlers move again and again, and it returns 0 if the signal found it in its outer loop or before
(`serveRun_halts`).
-/

namespace MiniRtsp.Process

open Rtsp Trace

/-! ## The way out -/

/-- How many steps of the server are left, at most, once the flag is set. -/
def haltRank : ServerPc → ℕ
  | .boot => 23
  | .waitPoll .client => 22
  | .recv => 21
  | .process _ => 20
  | .respond _ _ => 19
  | .startCheck => 18
  | .waitPoll .listener | .create => 17
  | .accept | .startFail => 16
  | .waitCheck .client | .clientHead => 15
  | .stopFlags .teardown => 14
  | .join .teardown => 13
  | .joined .teardown => 12
  | .stopFlags .session => 11
  | .join .session => 10
  | .joined .session => 9
  | .closeClient => 8
  | .waitCheck .listener | .serverHead => 7
  | .leave => 6
  | .cleanup => 5
  | .stopFlags .close => 4
  | .join .close => 3
  | .joined .close => 2
  | .closeMedia => 1
  | .returned => 0

/-- From the first test of the outer loop to the one behind it. -/
def inLoop : ServerPc → Bool
  | .boot | .cleanup | .stopFlags .close | .join .close | .joined .close | .closeMedia | .returned => false
  | _ => true

/-- **A step of the server**: the media thread is asked to stop before it is joined. Where the flag is set, the step
leads on unless it waits for the media thread, and out of the loop with the status 0 only. -/
structure HaltStep (set : Bool) (s s' : Server) : Prop where
  halted : ∀ after, s'.pc = .join after → s'.media.stopRequested = true ∨ s' = s
  nearer : set = true → s.pc = .returned ∧ s' = s ∨ haltRank s'.pc < haltRank s.pc ∨ s.awaited = .media ∧ s' = s
  leaves : set = true → inLoop s.pc = true → inLoop s'.pc = true ∨ s'.pc = .cleanup ∧ s'.status = 0

/-- A step to another place, that is no join. -/
theorem HaltStep.of_lt {set : Bool} {s s' : Server} (hlt : haltRank s'.pc < haltRank s.pc)
    (hjoin : ∀ after, s'.pc ≠ .join after) (hloop : inLoop s.pc = true → inLoop s'.pc = true) : HaltStep set s s' :=
  ⟨fun after hpc => absurd hpc (hjoin after), fun _ => .inr (.inl hlt), fun _ h => .inl (hloop h)⟩

/-- A step to such a place while the flag is not set. -/
theorem HaltStep.of_unset {set : Bool} {s s' : Server} (hset : set ≠ true) (hjoin : ∀ after, s'.pc ≠ .join after) :
    HaltStep set s s' :=
  ⟨fun after hpc => absurd hpc (hjoin after), fun h => absurd h hset, fun h => absurd h hset⟩

/-- `rtsp_media_stop` returns. -/
theorem afterStop_haltStep {set : Bool} {s : Server} (s' : Server) {after : AfterStop}
    (hpc : s.pc = .stopFlags after ∨ s.pc = .joined after) : HaltStep set s (afterStop s' after).1 := by
  cases after <;> rcases hpc with hpc | hpc <;>
    exact .of_lt (by simp [afterStop, hpc, haltRank]) (by simp [afterStop]) (by simp [afterStop, hpc, inLoop])

theorem join_haltStep {set : Bool} {s : Server} {after : AfterStop} (hpc : s.pc = .join after) :
    HaltStep set s (join s after).1 := by
  have hjoined : ∀ s' : Server, s'.pc = .joined after → HaltStep set s s' := by
    intro s' hpc'
    refine .of_lt ?_ (by simp [hpc']) ?_ <;> rw [hpc, hpc'] <;> cases after <;> simp [haltRank, inLoop]
  unfold join
  cases ht : s.thread with
  | none => exact hjoined _ rfl
  | some t =>
    by_cases hexited : t.pc = .exited
    · simp only [hexited, if_true]
      exact hjoined _ rfl
    · simp only [hexited, if_false]
      exact ⟨fun _ _ => .inr rfl, fun _ => .inr (.inr ⟨by simp [Server.awaited, hpc, ht, hexited], rfl⟩), fun _ => .inl⟩

theorem controlStep_halts (config : RTSPServerConfig) (answers : ServerAnswers) (s : Server) :
    HaltStep (stopRequested config answers) s (controlStep config answers s).1 := by
  unfold controlStep
  cases hpc : s.pc with
  | boot =>
    simp only [boot]
    repeat' split
    all_goals exact .of_lt (by simp [hpc, haltRank]) (by simp) (by simp [hpc, inLoop])
  | waitCheck waiting =>
    dsimp only
    split
    · cases waiting <;> exact .of_lt (by simp [hpc, haltRank, waitResult]) (by simp [waitResult])
        (by simp [inLoop, waitResult])
    · rename_i hset
      exact .of_unset hset (by simp)
  | waitPoll waiting =>
    cases waiting <;> simp only [waitPoll, waitResult] <;> repeat' split
    all_goals exact .of_lt (by simp [hpc, haltRank]) (by simp) (by simp [inLoop])
  | accept =>
    simp only [acceptClient]
    split <;> exact .of_lt (by simp [hpc, haltRank]) (by simp) (by simp [inLoop])
  | recv =>
    simp only [receive]
    split <;> exact .of_lt (by simp [hpc, haltRank]) (by simp) (by simp [inLoop])
  | process =>
    simp only [process]
    split <;> exact .of_lt (by simp [hpc, haltRank]) (by simp) (by simp [inLoop])
  | respond response after =>
    simp only [respond]
    cases after with
    | teardown => exact .of_lt (by simp [hpc, haltRank]) (by simp) (by simp [inLoop])
    | done | start =>
      dsimp only
      split <;>
        exact .of_lt (by simp [hpc, haltRank, requestDone]) (by simp [requestDone]) (by simp [inLoop, requestDone])
  | startCheck =>
    simp only [startCheck]
    repeat' split
    all_goals exact .of_lt (by simp [hpc, haltRank, requestDone]) (by simp [requestDone]) (by simp [inLoop, requestDone])
  | create =>
    simp only [createThread]
    split <;> exact .of_lt (by simp [hpc, haltRank, requestDone]) (by simp [requestDone]) (by simp [inLoop, requestDone])
  | startFail => exact .of_lt (by simp [hpc, haltRank, startFail]) (by simp [startFail]) (by simp [inLoop, startFail])
  | stopFlags after =>
    obtain ⟨session, -, -, hstop⟩ := stopFlags_cases s after
    dsimp only
    rw [hstop]
    split
    · refine ⟨fun _ _ => .inl rfl, fun _ => .inr (.inl ?_), fun _ hloop => .inl ?_⟩
      · cases after <;> simp [hpc, haltRank]
      · cases after <;> simp_all [inLoop]
    · exact afterStop_haltStep _ (.inl hpc)
  | join after => exact join_haltStep hpc
  | joined after => exact afterStop_haltStep _ (.inr hpc)
  | leave =>
    refine ⟨by simp, fun _ => .inr (.inl (by simp [hpc, haltRank])), fun hset _ => .inr ⟨rfl, ?_⟩⟩
    simp [hset]
  | cleanup =>
    dsimp only
    split <;> exact .of_lt (by simp [hpc, haltRank]) (by simp) (by simp [hpc, inLoop])
  | closeMedia => exact .of_lt (by simp [hpc, haltRank, closeMedia]) (by simp [closeMedia]) (by simp [hpc, inLoop])
  | returned => exact ⟨fun _ _ => .inr rfl, fun _ => .inl ⟨hpc, rfl⟩, fun _ => .inl⟩
  | serverHead | clientHead =>
    dsimp only
    split
    · exact .of_lt (by simp [hpc, haltRank]) (by simp) (by simp [inLoop])
    · rename_i hset
      exact .of_unset hset (by simp)
  | closeClient => exact .of_lt (by simp [hpc, haltRank]) (by simp) (by simp [inLoop])

/-! ## Who is waited for -/

/-- Who moves; the signals come from outside. -/
inductive Actor where
  | server
  | media
  | handler
  | outside
  deriving DecidableEq

def ServeMove.actor : ServeMove → Actor
  | .signal _ => .outside
  | .write _ => .handler
  | .control _ _ => .server
  | .media _ => .media

/-- `poll` waits, and there is nothing in the pipe. -/
def Serving.polling (p : Serving) : Bool :=
  match p.server.pc with
  | .waitPoll _ => p.signals.pipe = []
  | _ => false

/-- Whose step the server needs: at an empty pipe that of a handler, at the join that of the media thread. -/
def Serving.awaited (p : Serving) : Actor :=
  if p.polling then .handler
  else
    match p.server.awaited with
    | .media => .media
    | .control => .server

/-- How far the media thread is from its end where it is waited for. -/
def joinRank (s : Server) : ℕ ×ₗ ℕ :=
  match s.pc, s.thread with
  | .join _, some t => t.pc.stopRank
  | _, _ => toLex (0, 0)

/-- Elsewhere nobody is waited for. -/
theorem not_joining {s : Server} (h : ∀ after, s.pc ≠ .join after) :
    joinRank s = toLex (0, 0) ∧ s.awaited = .control := by
  refine ⟨?_, (Server.stopRank_elsewhere h).2⟩
  unfold joinRank
  split
  · rename_i hpc _
    exact absurd hpc (h _)
  · rfl

/-- The server's way, then the byte that wakes it, then the media thread's way. -/
def Serving.rank (p : Serving) : ℕ ×ₗ ℕ ×ₗ ℕ ×ₗ ℕ :=
  toLex (haltRank p.server.pc, toLex (if p.polling then 1 else 0, joinRank p.server))

/-- A join waits for a media thread that has been asked to stop. -/
def Halted (s : Server) : Prop := ∀ after, s.pc = .join after → s.media.stopRequested = true

/-- A step of the media thread: it comes nearer to its end where it is waited for, and changes nothing else that the
server waits for. -/
theorem mediaStep_nearer (answers : ThreadAnswers) {s : Server} (hhalted : Halted s) :
    (mediaStep answers s).1.pc = s.pc ∧ Halted (mediaStep answers s).1 ∧
      (joinRank (mediaStep answers s).1 < joinRank s ∨
        s.awaited = .control ∧ joinRank (mediaStep answers s).1 = joinRank s ∧
          (mediaStep answers s).1.awaited = .control) := by
  unfold mediaStep
  cases ht : s.thread with
  | none =>
    have hawaited : s.awaited = .control := by simp [Server.awaited, ht]
    exact ⟨rfl, hhalted, .inr ⟨hawaited, rfl, hawaited⟩⟩
  | some t =>
    refine ⟨rfl, fun after hpc => ?_, ?_⟩
    · exact (threadStep_frame answers _).stopRequested.trans (hhalted after hpc)
    · by_cases hjoins : ∃ after, s.pc = .join after
      · obtain ⟨after, hpc⟩ := hjoins
        by_cases hexited : t.pc = .exited
        · refine .inr ⟨?_, ?_, ?_⟩ <;> simp [Server.awaited, joinRank, hpc, ht, threadStep, hexited]
        · have hlower := @threadStep_stopRank answers ⟨s.media, s.session, t⟩ (hhalted after hpc) hexited
          exact .inl (by simpa only [joinRank, hpc, ht] using hlower)
      · have helsewhere : ∀ s' : Server, s'.pc = s.pc → joinRank s' = toLex (0, 0) ∧ s'.awaited = .control := by
          intro s' hpc
          exact not_joining fun after hjoin => hjoins ⟨after, hpc.symm.trans hjoin⟩
        obtain ⟨hrank, hawaited⟩ := helsewhere s rfl
        refine .inr ⟨hawaited, (helsewhere _ ?_).1.trans hrank.symm, (helsewhere _ ?_).2⟩ <;> rfl

/-! ## Steps of the process -/

section Step

variable {h : History Serving ServeEvent}

structure HaltInv (h : History Serving ServeEvent) : Prop where
  signals : SignalInv h
  halted : Halted h.state.server

theorem haltInv_start : HaltInv ⟨.start noSignal, []⟩ := ⟨signalInv_start, by simp [Halted, Serving.start, Server.start]⟩

theorem serveStep_haltInv (config : RTSPServerConfig) (hflag : config.stopFlag = true) (move : ServeMove)
    (hi : HaltInv h) : HaltInv (advance (serveStep config) h move) := by
  refine ⟨serveStep_signalInv config hflag move hi.signals, ?_⟩
  have hcase := serveStep_cases config move h.state
  unfold advance
  generalize serveStep config move h.state = r at hcase ⊢
  cases hcase with
  | signal | write | blocked => exact hi.halted
  | control answers _ _ hmoved =>
    intro after hpc
    rw [hmoved.server] at hpc ⊢
    rcases (controlStep_halts config (h.state.answers answers) h.state.server).halted after hpc with hstop | hsame
    · exact hstop
    · simp only [serverStep, hsame] at hpc ⊢
      exact hi.halted after hpc
  | media answers hmoved =>
    dsimp only
    rw [hmoved.server]
    exact (mediaStep_nearer answers hi.halted).2.1

/-- Nobody waits for a signal. -/
theorem Serving.awaited_ne_outside (p : Serving) : .outside ≠ p.awaited := by
  unfold awaited
  split
  · simp
  · split <;> simp

/-- The parts of a process that say who is waited for. -/
theorem Serving.same_rank {p p' : Serving} (hserver : p'.server.pc = p.server.pc)
    (hpipe : p'.polling = p.polling) (hjoin : joinRank p'.server = joinRank p.server)
    (hawaited : p'.server.awaited = p.server.awaited) : p'.rank = p.rank ∧ p'.awaited = p.awaited := by
  unfold rank awaited
  rw [hserver, hpipe, hjoin, hawaited]
  exact ⟨rfl, rfl⟩

/-- **No wake-up is lost**: while `poll` waits at an empty pipe with the flag set, a handler has yet to write. -/
theorem SignalInv.writing_of_polling (hi : SignalInv h) (hset : h.state.signals.stopSignal ≠ 0)
    (hpoll : h.state.polling = true) : h.state.signals.pipe = [] ∧ h.state.signals.writing ≠ [] := by
  unfold Serving.polling at hpoll
  split at hpoll
  · rename_i waiting hpc
    have hempty := of_decide_eq_true hpoll
    refine ⟨hempty, fun hwriting => ?_⟩
    rcases hi.woken hset hwriting with hpipe | hshutdown
    · exact hpipe hempty
    · -- a server that is stopping does not poll
      have hpc' : (serverHistory h).state.pc = .waitPoll waiting := hpc
      cases hi.stop.stopping hshutdown with
      | session hends => rw [hpc'] at hends; cases hends
      | server hends => rw [hpc'] at hends; cases hends
      | returned hends => rw [hpc'] at hends; cases hends
  · cases hpoll

/-- The write of a handler: it wakes `poll`, or changes nothing that is waited for. -/
theorem SignalInv.write_nearer (hi : SignalInv h) (hset : h.state.signals.stopSignal ≠ 0) (which : Nat) :
    let p' : Serving := { h.state with signals := h.state.signals.write which }
    p'.rank < h.state.rank ∨ .handler ≠ h.state.awaited ∧ p'.rank = h.state.rank ∧ p'.awaited = h.state.awaited := by
  intro p'
  cases hpoll : h.state.polling with
  | true =>
    obtain ⟨-, hwriting⟩ := hi.writing_of_polling hset hpoll
    have hpipe : p'.signals.pipe ≠ [] := (h.state.signals.write_pipe which).resolve_left fun hnone => hwriting hnone.1
    have hawake : p'.polling = false := by
      unfold Serving.polling
      split
      · exact decide_eq_false hpipe
      · rfl
    refine .inl (Prod.Lex.toLex_lt_toLex.mpr (.inr ⟨rfl, Prod.Lex.toLex_lt_toLex.mpr (.inl ?_)⟩))
    simp [hpoll, hawake]
  | false =>
    have hawake : p'.polling = false := by
      rcases h.state.signals.write_pipe which with ⟨-, hsame⟩ | hpipe
      · simpa only [p', Serving.polling, hsame] using hpoll
      · unfold Serving.polling
        split
        · exact decide_eq_false hpipe
        · rfl
    refine .inr ⟨?_, Serving.same_rank rfl (hawake.trans hpoll.symm) rfl rfl⟩
    unfold Serving.awaited
    rw [hpoll]
    simp only [Bool.false_eq_true, if_false]
    split <;> simp

/-- A step of the server whose flag is set. -/
theorem Moved.control_nearer {config : RTSPServerConfig} {answers : ServerAnswers} {p p' : Serving}
    {events : List ServeEvent} (hmoved : Moved config (.control answers) p p' events) (hpoll : p.polling = false)
    (hset : stopRequested config answers = true) (hrunning : p.server.pc ≠ .returned) :
    p'.rank < p.rank ∨ .server ≠ p.awaited ∧ p'.rank = p.rank ∧ p'.awaited = p.awaited := by
  rcases (controlStep_halts config answers p.server).nearer hset with ⟨hreturned, -⟩ | hlower | ⟨hawaited, hsame⟩
  · exact absurd hreturned hrunning
  · refine .inl (Prod.Lex.toLex_lt_toLex.mpr (.inl ?_))
    rw [hmoved.server]
    exact hlower
  · have hserver : p'.server = p.server := hmoved.server.trans hsame
    -- at the join nothing is drained
    have hpipe : p'.signals.pipe = p.signals.pipe := by
      refine hmoved.pipe.resolve_right fun hshutdown => ?_
      obtain ⟨waiting, hpc⟩ := (controlStep_place config answers p.server _ hshutdown).2
      simp [Server.awaited, hpc] at hawaited
    have hpoll' : p'.polling = p.polling := by
      unfold Serving.polling
      rw [hserver, hpipe]
    refine .inr ⟨?_, Serving.same_rank (by rw [hserver]) hpoll' (by rw [hserver]) (by rw [hserver])⟩
    simp [Serving.awaited, hpoll, hawaited]

/-- A step of the media thread. -/
theorem Moved.media_nearer {config : RTSPServerConfig} {answers : ThreadAnswers} {p p' : Serving}
    {events : List ServeEvent} (hmoved : Moved config (.media answers) p p' events) (hhalted : Halted p.server) :
    p'.rank < p.rank ∨ .media ≠ p.awaited ∧ p'.rank = p.rank ∧ p'.awaited = p.awaited := by
  obtain ⟨hpc, -, hnearer⟩ := mediaStep_nearer answers hhalted
  have hserver : p'.server = (mediaStep answers p.server).1 := hmoved.server
  have hpipe : p'.signals.pipe = p.signals.pipe := by
    refine hmoved.pipe.resolve_right fun hshutdown => ?_
    simp only [serverStep, mediaStep] at hshutdown
    split at hshutdown
    · cases hshutdown
    · split at hshutdown <;> simp at hshutdown
  have hpoll : p'.polling = p.polling := by
    unfold Serving.polling
    rw [hserver, hpc, hpipe]
  rw [← hserver] at hpc hnearer
  rcases hnearer with hlower | ⟨hawaited, hrank, hawaited'⟩
  · refine .inl (Prod.Lex.toLex_lt_toLex.mpr (.inr ⟨congrArg haltRank hpc, ?_⟩))
    refine Prod.Lex.toLex_lt_toLex.mpr (.inr ⟨?_, hlower⟩)
    simp only [hpoll]
  · refine .inr ⟨?_, Serving.same_rank hpc hpoll hrank (hawaited'.trans hawaited.symm)⟩
    unfold Serving.awaited
    rw [hawaited]
    split <;> simp

/-- The flag stays set. -/
theorem serveStep_set (config : RTSPServerConfig) (move : ServeMove) (hset : h.state.signals.stopSignal ≠ 0) :
    (advance (serveStep config) h move).state.signals.stopSignal ≠ 0 := by
  have hcase := serveStep_cases config move h.state
  unfold advance
  generalize serveStep config move h.state = r at hcase ⊢
  cases hcase with
  | signal signal => exact signal.number_ne_zero
  | write which =>
    dsimp only
    rwa [Signals.write_stopSignal]
  | blocked => exact hset
  | control _ _ _ hmoved | media _ hmoved =>
    dsimp only
    rwa [hmoved.stopSignal]

/-- A server that has returned does nothing any more. -/
theorem serveStep_returned (config : RTSPServerConfig) (move : ServeMove) (hpc : h.state.server.pc = .returned) :
    (advance (serveStep config) h move).state.server.pc = .returned := by
  have hcase := serveStep_cases config move h.state
  unfold advance
  generalize serveStep config move h.state = r at hcase ⊢
  cases hcase with
  | signal | write | blocked => exact hpc
  | control answers _ _ hmoved =>
    dsimp only
    rw [hmoved.server]
    simp only [serverStep, controlStep, hpc]
  | media answers hmoved =>
    dsimp only
    rw [hmoved.server, serverStep, (mediaStep_committed answers _).2, hpc]

/-- **Progress**: where the flag is set, the server returns or comes nearer to it, unless it waits for another one's
step. -/
theorem serveStep_progress (config : RTSPServerConfig) (hflag : config.stopFlag = true) (move : ServeMove)
    (hi : HaltInv h) (hset : h.state.signals.stopSignal ≠ 0) (hrunning : h.state.server.pc ≠ .returned) :
    let p' := (advance (serveStep config) h move).state
    p'.rank < h.state.rank ∨
      move.actor ≠ h.state.awaited ∧ p'.rank = h.state.rank ∧ p'.awaited = h.state.awaited := by
  intro p'
  have hcase := serveStep_cases config move h.state
  have hp' : p' = (serveStep config move h.state).1 := rfl
  clear_value p'
  generalize serveStep config move h.state = r at hcase hp'
  cases hcase with
  | signal signal =>
    subst hp'
    exact .inr ⟨h.state.awaited_ne_outside, Serving.same_rank rfl rfl rfl rfl⟩
  | write which =>
    subst hp'
    exact hi.signals.write_nearer hset which
  | blocked answers _ hblocked =>
    subst hp'
    refine .inr ⟨?_, rfl, rfl⟩
    have hpoll : h.state.polling = true := by
      unfold Serving.blocked at hblocked
      unfold Serving.polling
      split at hblocked
      · rename_i hpc _
        rw [hpc]
        exact hblocked
      · cases hblocked
    simp [ServeMove.actor, Serving.awaited, hpoll]
  | control answers _ hfree hmoved =>
    subst hp'
    have hstop : stopRequested config (h.state.answers answers) = true := by
      simp [stopRequested, hflag, Serving.answers, hset]
    cases hpoll : h.state.polling with
    | false => exact hmoved.control_nearer hpoll hstop hrunning
    | true =>
      -- `poll` returns for the sake of the socket, or because it was interrupted
      refine .inl (Prod.Lex.toLex_lt_toLex.mpr (.inl ?_))
      rw [hmoved.server]
      rcases (controlStep_halts config (h.state.answers answers) h.state.server).nearer hstop with
        ⟨hreturned, -⟩ | hlower | ⟨hawaited, -⟩
      · exact absurd hreturned hrunning
      · exact hlower
      · unfold Serving.polling at hpoll
        split at hpoll
        · rename_i hpc
          simp [Server.awaited, hpc] at hawaited
        · cases hpoll
  | media answers hmoved =>
    subst hp'
    exact hmoved.media_nearer hi.halted

/-- **On the way to the status 0**: the server is in its loop, or it is stopping. -/
def Dismissed (h : History Serving ServeEvent) : Prop :=
  inLoop h.state.server.pc = true ∨ Stopping (serverHistory h)

theorem serveStep_dismissed (config : RTSPServerConfig) (hflag : config.stopFlag = true) (move : ServeMove)
    (hi : HaltInv h) (hset : h.state.signals.stopSignal ≠ 0) (hd : Dismissed h) :
    Dismissed (advance (serveStep config) h move) := by
  have hcase := serveStep_cases config move h.state
  unfold advance
  generalize serveStep config move h.state = r at hcase ⊢
  cases hcase with
  | signal signal =>
    have hevents : serverEvents (h.events ++ [.raised signal]) = serverEvents h.events := by
      rw [serverEvents_append]
      exact List.append_nil _
    exact hd.imp id fun hs => by simpa only [serverHistory, hevents] using hs
  | write which => exact hd.imp id fun hs => by simpa only [serverHistory, List.append_nil] using hs
  | blocked => simpa using hd
  | control answers _ _ hmoved =>
    have hkept := hi.signals.flagKept hflag answers
    rw [Dismissed, hmoved.history]
    rcases hd with hloop | hs
    · have hstop : stopRequested config (h.state.answers answers) = true := by
        simp [stopRequested, hflag, Serving.answers, hset]
      dsimp only
      rw [hmoved.server]
      rcases (controlStep_halts config (h.state.answers answers) h.state.server).leaves hstop hloop with
        hloop' | ⟨hpc, hstatus⟩
      · exact .inl hloop'
      · exact .inr (.server (by simp only [advance, serverHistory, serverStep, hpc]; rfl) hstatus)
    · exact .inr (hs.step config _ hi.signals.stop.inv hkept).stopping
  | media answers hmoved =>
    rw [Dismissed, hmoved.history]
    refine hd.imp (fun hloop => ?_) fun hs => (hs.media config answers).1
    dsimp only
    rw [hmoved.server, serverStep, (mediaStep_nearer answers hi.halted).1]
    exact hloop

theorem Dismissed.returned (hd : Dismissed h) (hpc : h.state.server.pc = .returned) :
    .server (.returned 0) ∈ h.events := by
  have hpc' : (serverHistory h).state.pc = .returned := hpc
  rcases hd with hloop | hs
  · rw [hpc] at hloop
    cases hloop
  · cases hs with
    | session hends => rw [hpc'] at hends; cases hends
    | server hends => rw [hpc'] at hends; cases hends
    | returned _ hevent =>
      obtain ⟨e, he, hsome⟩ := List.mem_filterMap.mp hevent
      cases e with
      | raised _ => cases hsome
      | server e =>
        cases hsome
        exact he

end Step

/-! ## Unending runs -/

/-- **A signal ends the server**, in every unending run in which the server, its media thread and the handlers move
again and again, and every `send` to a client comes to an end (`sendAll`): `rtsp_server_run` returns, and it returns 0
if it is in its outer loop at any time from the signal on. -/
theorem serveRun_halts (config : RTSPServerConfig) (hflag : config.stopFlag = true) (moves : ℕ → ServeMove)
    (hfair : FairAmong {.server, .media, .handler} fun n => (moves n).actor) {n : ℕ} {signal : StopSignal}
    (hraised : .raised signal ∈ (runTo (serveStep config) (.start noSignal) moves n).events) :
    ∃ m, n ≤ m ∧ (runTo (serveStep config) (.start noSignal) moves m).state.server.pc = .returned ∧
      ((∃ k, n ≤ k ∧ inLoop (runTo (serveStep config) (.start noSignal) moves k).state.server.pc = true) →
        .server (.returned 0) ∈ (runTo (serveStep config) (.start noSignal) moves m).events) := by
  generalize hx : runTo (serveStep config) (.start noSignal) moves = x at hraised ⊢
  have hnext : ∀ n, x (n + 1) = advance (serveStep config) (x n) (moves n) := fun n => by
    rw [← hx, runTo_succ]
  have hinv : ∀ n, HaltInv (x n) := fun n => by
    rw [← hx]
    exact runTo_induction haltInv_start (fun k hi => serveStep_haltInv config hflag (moves k) hi) n
  have hset : ∀ d, (x (n + d)).state.signals.stopSignal ≠ 0 := by
    intro d
    induction d with
    | zero => exact (hinv n).signals.raised signal hraised
    | succ d ih =>
      rw [← Nat.add_assoc, hnext]
      exact serveStep_set config (moves (n + d)) ih
  -- the phase: the flag is set, and the server has not returned
  obtain ⟨m, hnm, hreturned⟩ : ∃ m, n ≤ m ∧ (x m).state.server.pc = .returned := by
    by_cases hpc : (x n).state.server.pc = .returned
    · exact ⟨n, le_refl n, hpc⟩
    · refine hfair.reaches
        (fun h => HaltInv h ∧ h.state.signals.stopSignal ≠ 0 ∧ h.state.server.pc ≠ .returned)
        (fun h => h.state.server.pc = .returned) (·.state.awaited) (·.state.rank) (fun k => ?_)
        (fun k ⟨hi, hk, hrunning⟩ => ?_) ⟨hinv n, hset 0, hpc⟩
      · unfold Serving.awaited
        split
        · simp
        · split <;> simp
      · rw [hnext]
        by_cases hover : (advance (serveStep config) (x k) (moves k)).state.server.pc = .returned
        · exact .inl hover
        · exact .inr ⟨⟨serveStep_haltInv config hflag (moves k) hi, serveStep_set config (moves k) hk, hover⟩,
            serveStep_progress config hflag (moves k) hi hk hrunning⟩
  refine ⟨m, hnm, hreturned, fun ⟨k, hnk, hloop⟩ => ?_⟩
  have hlater : ∀ d, (x (m + d)).state.server.pc = .returned := by
    intro d
    induction d with
    | zero => exact hreturned
    | succ d ih =>
      rw [← Nat.add_assoc, hnext]
      exact serveStep_returned config (moves (m + d)) ih
  have hkm : k ≤ m := by
    by_contra hlt
    obtain ⟨d, rfl⟩ := Nat.exists_eq_add_of_le (Nat.le_of_not_le hlt)
    rw [hlater d] at hloop
    cases hloop
  obtain ⟨d, rfl⟩ := Nat.exists_eq_add_of_le hkm
  have hdismissed : ∀ d, Dismissed (x (k + d)) := by
    intro d
    induction d with
    | zero => exact .inl hloop
    | succ d ih =>
      obtain ⟨d', hd'⟩ := Nat.exists_eq_add_of_le (Nat.le_add_right_of_le hnk : n ≤ k + d)
      rw [← Nat.add_assoc, hnext]
      exact serveStep_dismissed config hflag (moves (k + d)) (hinv (k + d)) (hd' ▸ hset d') ih
  exact (hdismissed d).returned hreturned

/-- All take turns; `SIGTERM` comes while a client is connected. -/
def signalledOnce (n : ℕ) : ServeMove :=
  if n = 22 then .signal .terminate
  else if n % 3 = 0 then .control (answering []) []
  else if n % 3 = 1 then .media (encodes [])
  else .write 0

theorem serveRun_halts_once :
    inLoop (runTo (serveStep (pipeConfig true)) (.start noSignal) signalledOnce 23).state.server.pc = true ∧
      ∃ m, .server (.returned 0) ∈ (runTo (serveStep (pipeConfig true)) (.start noSignal) signalledOnce m).events := by
  have hfair : FairAmong {.server, .media, .handler} fun n => (signalledOnce n).actor := by
    intro actor hactor n
    simp only [Set.mem_insert_iff, Set.mem_singleton_iff] at hactor
    rcases hactor with rfl | rfl | rfl
    · exact ⟨3 * n, by omega, by
        have hn : 3 * n ≠ 22 := by omega
        simp [signalledOnce, hn, ServeMove.actor]⟩
    · exact ⟨3 * (n + 8) + 1, by omega, by
        have hn : 3 * (n + 8) + 1 ≠ 22 := by omega
        simp [signalledOnce, hn, ServeMove.actor, Nat.add_mod]⟩
    · exact ⟨3 * n + 2, by omega, by
        have hn : 3 * n + 2 ≠ 22 := by omega
        simp [signalledOnce, hn, ServeMove.actor, Nat.add_mod]⟩
  have hloop : inLoop (runTo (serveStep (pipeConfig true)) (.start noSignal) signalledOnce 23).state.server.pc = true := by
    decide +kernel
  have hraised : .raised .terminate ∈
      (runTo (serveStep (pipeConfig true)) (.start noSignal) signalledOnce 23).events := by
    decide +kernel
  obtain ⟨m, -, -, hzero⟩ := serveRun_halts (pipeConfig true) rfl signalledOnce hfair hraised
  exact ⟨hloop, m, hzero ⟨23, le_refl 23, hloop⟩⟩

end MiniRtsp.Process
