import MiniRtsp.Lib.Fairness
import MiniRtsp.Rtsp.MediaStart
import Mathlib.Data.Prod.Lex

/-!
# A shutdown through the stop pipe

`wait_for_socket` reports a shutdown when it sees `stop_fd`, and empties the pipe. While listening that ends the server;
in a session it ends the session, and the outer loop decides from `stop_flag` alone whether the server goes on
(`shutdown_forgotten`). Where the flag is set by then, no client is accepted any more and `rtsp_server_run` returns 0
(`shutdown_kept`): every step of a server that is stopping keeps it so (`Stopping`), and the steps of the server and of
the media thread that is waited for lower a rank.
-/

namespace MiniRtsp.Rtsp

open Ledger Rtp Text Trace

/-! ## The law and its condition -/

/-- After a shutdown no client is accepted, and nothing but 0 is returned. -/
def AfterShutdown (before : List ServerEvent) (e : ServerEvent) : Prop :=
  .shutdown ∈ before → (∀ peer, e ≠ .connected peer) ∧ ∀ status, e = .returned status → status = 0

/-- `wait_for_socket` has seen `stop_fd` while a client was connected. -/
def SessionShutdown (events : List ServerEvent) : Prop :=
  ∃ n, n < events.length ∧ events[n]? = some .shutdown ∧ (connection (events.take n)).isSome = true

instance (events : List ServerEvent) : Decidable (SessionShutdown events) :=
  inferInstanceAs (Decidable (∃ n, n < events.length ∧ _))

/-- After such a shutdown, `stop_flag` is there and set whenever `rtsp_server_run` reads it in or behind its outer
loop. -/
def FlagKept (config : RTSPServerConfig) (h : History Server ServerEvent) : Move → Prop
  | .control answers => h.state.pc = .serverHead ∨ h.state.pc = .leave → SessionShutdown h.events →
      stopRequested config answers = true
  | .media _ => True

instance (config : RTSPServerConfig) (h : History Server ServerEvent) : ∀ move, Decidable (FlagKept config h move)
  | .control _ => inferInstanceAs (Decidable (_ ∨ _ → _ → _))
  | .media _ => inferInstanceAs (Decidable True)

theorem SessionShutdown.append {es : List ServerEvent} (h : SessionShutdown es) (fs : List ServerEvent) :
    SessionShutdown (es ++ fs) := by
  obtain ⟨n, hn, hevent, hconn⟩ := h
  refine ⟨n, ?_, ?_, ?_⟩
  · rw [List.length_append]
    omega
  · rw [List.getElem?_append_left hn]
    exact hevent
  · rw [List.take_append_of_le_length (Nat.le_of_lt hn)]
    exact hconn

theorem sessionShutdown_concat {es : List ServerEvent} (h : (connection es).isSome = true) :
    SessionShutdown (es ++ [.shutdown]) :=
  ⟨es.length, by simp, by simp, by simpa using h⟩

/-! ## A server that is stopping -/

/-- From the end of a session to the test of the outer loop, and out of it. -/
def ServerPc.endsSession : ServerPc → Bool
  | .stopFlags .session | .join .session | .joined .session | .closeClient | .serverHead | .leave => true
  | _ => false

/-- From the end of the outer loop on. -/
def ServerPc.endsServer : ServerPc → Bool
  | .leave | .cleanup | .stopFlags .close | .closeMedia => true
  | _ => false

/-- **What a shutdown leaves**: a session that ends, a server that will return 0, or one that has. -/
inductive Stopping (h : History Server ServerEvent) : Prop where
  | session (pc : h.state.pc.endsSession = true) (seen : SessionShutdown h.events)
      (halted : h.state.pc = .join .session → h.state.media.stopRequested = true)
  | server (pc : h.state.pc.endsServer = true) (status : h.state.status = 0)
  | returned (pc : h.state.pc = .returned) (event : .returned 0 ∈ h.events)

/-- Neither a client nor a failure. -/
def ServerEvent.quiet : ServerEvent → Prop
  | .connected _ => False
  | .returned status => status = 0
  | _ => True

/-- How many steps of the server are left, at most. -/
def ServerPc.stopRank : ServerPc → ℕ
  | .stopFlags .session => 9
  | .join .session => 8
  | .joined .session => 7
  | .closeClient => 6
  | .serverHead => 5
  | .leave => 4
  | .cleanup => 3
  | .stopFlags .close => 2
  | .closeMedia => 1
  | _ => 0

/-- How far a media thread is from its end once it has been asked to stop; the packets of an access unit count one by
one. -/
def ThreadPc.stopRank : ThreadPc → ℕ ×ₗ ℕ
  | .initSender => toLex (11, 0)
  | .initMuxer => toLex (10, 0)
  | .drain => toLex (9, 0)
  | .consume => toLex (8, 0)
  | .capture => toLex (7, 0)
  | .sending packets _ => toLex (6, packets.length)
  | .loopHead => toLex (5, 0)
  | .closeSender => toLex (4, 0)
  | .closeMuxer => toLex (3, 0)
  | .clearPlaying => toLex (2, 0)
  | .summary => toLex (1, 0)
  | .exited => toLex (0, 0)

inductive Agent where
  | control
  | media
  deriving DecidableEq

def Move.agent : Move → Agent
  | .control _ => .control
  | .media _ => .media

/-- Whose step the server needs: at the join that of a media thread that has not returned. -/
def Server.awaited (s : Server) : Agent :=
  match s.pc, s.thread with
  | .join _, some t => if t.pc = .exited then .control else .media
  | _, _ => .control

/-- The rank of a server that is stopping. The media thread counts while it is waited for. -/
def Server.stopRank (s : Server) : ℕ ×ₗ ℕ ×ₗ ℕ :=
  toLex (s.pc.stopRank,
    match s.pc, s.thread with
    | .join _, some t => t.pc.stopRank
    | _, _ => toLex (0, 0))

theorem Server.stopRank_lt {s s' : Server} (h : s'.pc.stopRank < s.pc.stopRank) : s'.stopRank < s.stopRank :=
  Prod.Lex.toLex_lt_toLex.mpr (.inl h)

/-- The media thread counts at the join only. -/
theorem Server.stopRank_elsewhere {s : Server} (h : ∀ after, s.pc ≠ .join after) :
    s.stopRank = toLex (s.pc.stopRank, toLex (0, 0)) ∧ s.awaited = .control := by
  unfold stopRank awaited
  split
  · rename_i hpc _
    exact absurd hpc (h _)
  · exact ⟨rfl, rfl⟩

section Step

variable {h : History Server ServerEvent}

/-! ## Steps of the server -/

/-- What a step does to a server that is stopping: it keeps on, it accepts nobody, and it gets on unless it waits for
the media thread. -/
structure StopStep (config : RTSPServerConfig) (answers : ServerAnswers) (h : History Server ServerEvent) : Prop where
  stopping : Stopping (advance (serverStep config) h (.control answers))
  quiet : ∀ e ∈ (controlStep config answers h.state).2, e.quiet
  nearer : h.state.pc = .returned ∨ (controlStep config answers h.state).1.pc.stopRank < h.state.pc.stopRank ∨
    h.state.awaited = .media ∧ (controlStep config answers h.state).1 = h.state

/-- Behind the outer loop, with the status 0. -/
theorem server_stopStep (config : RTSPServerConfig) (answers : ServerAnswers) (hi : Inv False False h)
    (hpc : h.state.pc.endsServer = true) (hstatus : h.state.status = 0) : StopStep config answers h := by
  cases hwhere : h.state.pc with
  | leave =>
    constructor <;> simp only [advance, serverStep, controlStep, hwhere]
    · refine .server rfl ?_
      dsimp only
      split
      · rfl
      · exact hstatus
    · simp
    · exact .inr (.inl (by simp [ServerPc.stopRank]))
  | cleanup =>
    constructor <;> simp only [advance, serverStep, controlStep, hwhere]
    · refine .server ?_ hstatus
      dsimp only
      split <;> rfl
    · simp
    · refine .inr (.inl ?_)
      split <;> simp [ServerPc.stopRank]
  | stopFlags after =>
    obtain rfl : after = .close := by
      cases after with
      | close => rfl
      | teardown | session => rw [hwhere] at hpc; cases hpc
    -- no media thread is left when `rtsp_media_close` is reached
    have hrunning : h.state.media.threadRunning = false := by
      have hflags := hi.flags
      rw [hwhere] at hflags
      exact hflags.1
    constructor <;> simp only [advance, serverStep, controlStep, hwhere, stopFlags, hrunning, afterStop, if_true]
    · exact .server rfl hstatus
    · simp
    · exact .inr (.inl (by simp [ServerPc.stopRank]))
  | closeMedia =>
    constructor <;> simp only [advance, serverStep, controlStep, hwhere, closeMedia]
    · exact .returned rfl (by simp [hstatus])
    · intro e he
      simp only [List.mem_append, List.mem_map, List.mem_singleton] at he
      rcases he with (⟨_, -, rfl⟩ | he) | rfl
      · trivial
      · split at he
        · rw [List.mem_singleton.mp he]
          trivial
        · cases he
      · exact hstatus
    · exact .inr (.inl (by simp [ServerPc.stopRank]))
  | _ => rw [hwhere] at hpc; cases hpc

/-- At the end of a session, up to the test behind the outer loop. -/
theorem session_stopStep (config : RTSPServerConfig) (answers : ServerAnswers)
    (hpc : h.state.pc.endsSession = true) (hseen : SessionShutdown h.events)
    (hhalted : h.state.pc = .join .session → h.state.media.stopRequested = true)
    (hkept : FlagKept config h (.control answers)) : StopStep config answers h := by
  have hafter : ∀ after, h.state.pc = .stopFlags after ∨ h.state.pc = .join after ∨ h.state.pc = .joined after →
      after = .session := by
    intro after hwhere
    cases after with
    | session => rfl
    | teardown | close => rcases hwhere with hwhere | hwhere | hwhere <;> rw [hwhere] at hpc <;> cases hpc
  cases hwhere : h.state.pc with
  | stopFlags after =>
    obtain rfl := hafter after (.inl hwhere)
    obtain ⟨session, -, -, hstop⟩ := stopFlags_cases h.state .session
    constructor <;> simp only [advance, serverStep, controlStep, hwhere, hstop, afterStop] <;> split
    · exact .session rfl (hseen.append _) fun _ => rfl
    · exact .session rfl (hseen.append _) (by simp)
    · simp
    · simp [ServerEvent.quiet]
    · exact .inr (.inl (by simp [ServerPc.stopRank]))
    · exact .inr (.inl (by simp [ServerPc.stopRank]))
  | join after =>
    obtain rfl := hafter after (.inr (.inl hwhere))
    by_cases hlive : ∃ t, h.state.thread = some t ∧ t.pc ≠ .exited
    · obtain ⟨t, ht, hlive⟩ := hlive
      constructor <;> simp only [advance, serverStep, controlStep, hwhere, join, ht, if_neg hlive]
      · exact .session (by rw [hwhere]; rfl) (hseen.append _) hhalted
      · simp
      · exact .inr (.inr ⟨by simp [Server.awaited, hwhere, ht, hlive], trivial⟩)
    · have hjoin : join h.state .session = ({ h.state with thread := none, pc := .joined .session }, [.joined]) := by
        unfold join
        cases ht : h.state.thread with
        | none => simp [← ht]
        | some t =>
          have hexited : t.pc = .exited := by
            by_contra hne
            exact hlive ⟨t, ht, hne⟩
          simp [hexited]
      constructor <;> simp only [advance, serverStep, controlStep, hwhere, hjoin]
      · exact .session rfl (hseen.append _) (by simp)
      · simp [ServerEvent.quiet]
      · exact .inr (.inl (by simp [ServerPc.stopRank]))
  | joined after =>
    obtain rfl := hafter after (.inr (.inr hwhere))
    constructor <;> simp only [advance, serverStep, controlStep, hwhere, afterStop]
    · exact .session rfl (hseen.append _) (by simp)
    · simp [ServerEvent.quiet]
    · exact .inr (.inl (by simp [ServerPc.stopRank]))
  | closeClient =>
    constructor <;> simp only [advance, serverStep, controlStep, hwhere]
    · exact .session rfl (hseen.append _) (by simp)
    · simp [ServerEvent.quiet]
    · exact .inr (.inl (by simp [ServerPc.stopRank]))
  | serverHead =>
    -- here the flag decides
    have hflag := hkept (.inl hwhere) hseen
    constructor <;> simp only [advance, serverStep, controlStep, hwhere, hflag, if_true]
    · exact .session rfl (hseen.append _) (by simp)
    · simp
    · exact .inr (.inl (by simp [ServerPc.stopRank]))
  | leave =>
    have hflag := hkept (.inr hwhere) hseen
    constructor <;> simp only [advance, serverStep, controlStep, hwhere, hflag, if_true]
    · exact .server rfl rfl
    · simp
    · exact .inr (.inl (by simp [ServerPc.stopRank]))
  | _ => rw [hwhere] at hpc; cases hpc

/-- **A step of the server** that is stopping. -/
theorem Stopping.step (config : RTSPServerConfig) (answers : ServerAnswers) (hi : Inv False False h)
    (hs : Stopping h) (hkept : FlagKept config h (.control answers)) : StopStep config answers h := by
  cases hs with
  | session hpc hseen hhalted => exact session_stopStep config answers hpc hseen hhalted hkept
  | server hpc hstatus => exact server_stopStep config answers hi hpc hstatus
  | returned hpc hevent =>
    constructor <;> simp only [advance, serverStep, controlStep, hpc]
    · exact .returned hpc (List.mem_append_left _ hevent)
    · simp
    · exact .inl trivial

/-- **The shutdown is reported** by `wait_for_socket`, alone, and the server stops from then on. -/
theorem controlStep_shutdown (config : RTSPServerConfig) (answers : ServerAnswers) (hi : Inv False False h)
    (he : .shutdown ∈ (controlStep config answers h.state).2) :
    (controlStep config answers h.state).2 = [.shutdown] ∧
      Stopping (advance (serverStep config) h (.control answers)) := by
  obtain ⟨waiting, hwhere⟩ := (controlStep_place config answers h.state _ he).2
  simp only [advance, serverStep]
  simp only [controlStep, hwhere] at he ⊢
  unfold waitPoll at he ⊢
  cases hpoll : answers.poll with
  | interrupted | failed => rw [hpoll] at he; cases he
  | ready socketIn socketError stop =>
    rw [hpoll] at he
    dsimp only at he ⊢
    split at he
    · rename_i hstop
      rw [if_pos hstop]
      refine ⟨rfl, ?_⟩
      cases waiting with
      | listener => exact .server rfl rfl
      | client =>
        have hconn : (connection h.events).isSome = true := by
          obtain ⟨c, hc, -⟩ := hi.conn.of_inSession (by rw [hwhere]; rfl)
          rw [hc]
          rfl
        exact .session rfl (sessionShutdown_concat hconn) (by simp [waitResult])
    · split at he
      · cases he
      · split at he <;> cases he

/-! ## Steps of the media thread -/

/-- **A media thread that has been asked to stop** comes nearer to its end with every step. -/
theorem threadStep_stopRank (answers : ThreadAnswers) {live : Live} (hstop : live.media.stopRequested = true)
    (hlive : live.thread.pc ≠ .exited) : (threadStep answers live).1.thread.pc.stopRank < live.thread.pc.stopRank := by
  have hlower : ∀ {m n k l : ℕ}, m < n → toLex (m, k) < toLex (n, l) :=
    fun hlt => Prod.Lex.toLex_lt_toLex.mpr (.inl hlt)
  have hshorter : ∀ {m k l : ℕ}, k < l → toLex (m, k) < toLex (m, l) :=
    fun hlt => Prod.Lex.toLex_lt_toLex.mpr (.inr ⟨rfl, hlt⟩)
  have hbehind : ∀ (t : Thread) complete k, (t.afterSend complete).1.pc.stopRank < toLex (6, k) := by
    intro t complete k
    cases complete <;> exact hlower (by omega)
  unfold threadStep
  cases hpc : live.thread.pc with
  | initSender =>
    simp only [openSender]
    split
    · exact hlower (by omega)
    · split <;> exact hlower (by omega)
  | initMuxer =>
    simp only [openMuxer]
    split <;> exact hlower (by omega)
  | drain =>
    dsimp only
    split <;> exact hlower (by omega)
  | consume => exact hlower (by omega)
  | loopHead =>
    have hrun : mediaShouldRun answers.externalStop live.media live.session = false := by
      unfold mediaShouldRun
      split
      · rfl
      · rw [hstop]
        rfl
    simp only [hrun, Bool.false_eq_true, if_false]
    exact hlower (by omega)
  | capture =>
    simp only [captureStep]
    split
    · exact hlower (by omega)
    · rename_i unit _
      have hdelivered := (deliver_delivered answers (captureAndEncode answers.capture live.media).media
        (live.thread.account unit.sequence) unit.data).1
      generalize (deliver answers (captureAndEncode answers.capture live.media).media
        (live.thread.account unit.sequence) unit.data).2 = events at hdelivered
      cases hdelivered with
      | skipped _ _ _ _ next | refused _ _ _ next =>
        simp only [next]
        exact hlower (by omega)
      | began _ _ _ _ _ next =>
        simp only [next]
        split <;> exact hlower (by omega)
  | sending packets complete =>
    cases packets with
    | nil => exact hbehind live.thread complete 0
    | cons packet rest =>
      simp only [sendStep]
      split
      · exact hlower (by omega)
      · split
        · exact hbehind _ complete _
        · exact hshorter (by simp)
  | closeSender | closeMuxer | clearPlaying | summary => exact hlower (by omega)
  | exited => exact absurd hpc hlive

/-- **A step of the media thread** beside a server that is stopping: it keeps on, and gets on where it is waited for. -/
theorem Stopping.media (config : RTSPServerConfig) (answers : ThreadAnswers) (hs : Stopping h) :
    Stopping (advance (serverStep config) h (.media answers)) ∧
      (∀ e ∈ (mediaStep answers h.state).2, e.quiet) ∧
      (h.state.pc = .returned ∨ (mediaStep answers h.state).1.stopRank < h.state.stopRank ∨
        h.state.awaited = .control ∧ (mediaStep answers h.state).1.stopRank = h.state.stopRank ∧
          (mediaStep answers h.state).1.awaited = .control) := by
  have hpc' : (mediaStep answers h.state).1.pc = h.state.pc := by
    unfold mediaStep
    split <;> rfl
  have hstatus' : (mediaStep answers h.state).1.status = h.state.status := by
    unfold mediaStep
    split <;> rfl
  have hstop' : (mediaStep answers h.state).1.media.stopRequested = h.state.media.stopRequested := by
    unfold mediaStep
    split
    · rfl
    · exact (threadStep_frame answers _).stopRequested
  refine ⟨?_, ?_, ?_⟩
  · simp only [advance, serverStep]
    cases hs with
    | session hpc hseen hhalted =>
      exact .session (hpc'.symm ▸ hpc) (hseen.append _) fun hjoin => hstop'.trans (hhalted (hpc'.symm.trans hjoin))
    | server hpc hstatus => exact .server (hpc'.symm ▸ hpc) (hstatus'.trans hstatus)
    | returned hpc hevent => exact .returned (hpc'.trans hpc) (List.mem_append_left _ hevent)
  · intro e he
    unfold mediaStep at he
    split at he
    · cases he
    · rcases List.mem_append.mp he with he | he
      · obtain ⟨_, -, rfl⟩ := List.mem_map.mp he
        trivial
      · split at he
        · rw [List.mem_singleton.mp he]
          trivial
        · cases he
  · by_cases hjoins : ∃ after, h.state.pc = .join after
    · obtain ⟨after, hpc⟩ := hjoins
      have hstop : h.state.media.stopRequested = true := by
        cases hs with
        | session hends hseen hhalted =>
          obtain rfl : after = .session := by
            cases after with
            | session => rfl
            | teardown | close => rw [hpc] at hends; cases hends
          exact hhalted hpc
        | server hends _ => rw [hpc] at hends; cases hends
        | returned hreturned _ => rw [hpc] at hreturned; cases hreturned
      cases ht : h.state.thread with
      | none =>
        have hstays : mediaStep answers h.state = (h.state, []) := by
          simp only [mediaStep, ht]
        have hawaited : h.state.awaited = .control := by
          simp [Server.awaited, ht]
        exact .inr (.inr ⟨hawaited, by rw [hstays], by rw [hstays]; exact hawaited⟩)
      | some t =>
        by_cases hexited : t.pc = .exited
        · have hstays : threadStep answers ⟨h.state.media, h.state.session, t⟩ =
              (⟨h.state.media, h.state.session, t⟩, []) := by
            simp [threadStep, hexited]
          refine .inr (.inr ⟨?_, ?_, ?_⟩)
          · simp [Server.awaited, hpc, ht, hexited]
          · simp [mediaStep, ht, hstays, Server.stopRank, hpc]
          · simp [mediaStep, ht, hstays, Server.awaited, hpc, hexited]
        · refine .inr (.inl ?_)
          have hlower := @threadStep_stopRank answers ⟨h.state.media, h.state.session, t⟩ hstop hexited
          simp only [mediaStep, ht, Server.stopRank, hpc]
          exact Prod.Lex.toLex_lt_toLex.mpr (.inr ⟨rfl, hlower⟩)
    · have helsewhere : ∀ after, h.state.pc ≠ .join after := fun after hpc => hjoins ⟨after, hpc⟩
      obtain ⟨hrank, hawaited⟩ := Server.stopRank_elsewhere helsewhere
      obtain ⟨hrank', hawaited'⟩ := Server.stopRank_elsewhere (s := (mediaStep answers h.state).1)
        (by rw [hpc']; exact helsewhere)
      exact .inr (.inr ⟨hawaited, by rw [hrank, hrank', hpc'], hawaited'⟩)

/-- **Progress**: a server that is stopping returns 0 or comes nearer to it, unless it waits for the other one's step. -/
theorem Stopping.progress (config : RTSPServerConfig) {move : Move} (hs : Stopping h) (hi : Inv False False h)
    (hkept : FlagKept config h move) :
    .returned 0 ∈ (advance (serverStep config) h move).events ∨
      Stopping (advance (serverStep config) h move) ∧
        ((advance (serverStep config) h move).state.stopRank < h.state.stopRank ∨
          move.agent ≠ h.state.awaited ∧ (advance (serverStep config) h move).state.stopRank = h.state.stopRank ∧
            (advance (serverStep config) h move).state.awaited = h.state.awaited) := by
  have hover : h.state.pc = .returned → .returned 0 ∈ (advance (serverStep config) h move).events := by
    intro hpc
    cases hs with
    | returned _ hevent => exact List.mem_append_left _ hevent
    | session hends => rw [hpc] at hends; cases hends
    | server hends => rw [hpc] at hends; cases hends
  cases move with
  | control answers =>
    have hstep := hs.step config answers hi hkept
    rcases hstep.nearer with hpc | hlower | ⟨hawaited, hstays⟩
    · exact .inl (hover hpc)
    · exact .inr ⟨hstep.stopping, .inl (Server.stopRank_lt hlower)⟩
    · refine .inr ⟨hstep.stopping, .inr ⟨?_, ?_, ?_⟩⟩
      · rw [hawaited]
        simp [Move.agent]
      · simp only [advance, serverStep, hstays]
      · simp only [advance, serverStep, hstays]
  | media answers =>
    obtain ⟨hstopping, -, hpc | hlower | ⟨hawaited, hrank, hawaited'⟩⟩ := hs.media config answers
    · exact .inl (hover hpc)
    · exact .inr ⟨hstopping, .inl hlower⟩
    · refine .inr ⟨hstopping, .inr ⟨?_, hrank, hawaited'.trans hawaited.symm⟩⟩
      rw [hawaited]
      simp [Move.agent]

end Step

/-! ## Runs -/

/-- A server that has reported a shutdown is stopping. -/
structure StopInv (h : History Server ServerEvent) : Prop where
  inv : Inv False False h
  stopping : .shutdown ∈ h.events → Stopping h

theorem stopInv_start : StopInv ⟨.start, []⟩ := ⟨inv_start False False, by simp⟩

/-- **Every step** keeps the law, as long as the flag is kept. -/
theorem serverStep_stopInv (config : RTSPServerConfig) {h : History Server ServerEvent} {move : Move}
    (hi : StopInv h) (hkept : FlagKept config h move) :
    StopInv (advance (serverStep config) h move) ∧
      Monitored (fun before => AfterShutdown (h.events ++ before)) (serverStep config move h.state).2 := by
  have hnext := serverStep_inv config move hi.inv False.elim False.elim
  by_cases hseen : .shutdown ∈ h.events
  · have hstep : Stopping (advance (serverStep config) h move) ∧ ∀ e ∈ (serverStep config move h.state).2, e.quiet := by
      cases move with
      | control answers =>
        have hstep := (hi.stopping hseen).step config answers hi.inv hkept
        exact ⟨hstep.stopping, hstep.quiet⟩
      | media answers =>
        obtain ⟨hstopping, hquiet, -⟩ := (hi.stopping hseen).media config answers
        exact ⟨hstopping, hquiet⟩
    refine ⟨⟨hnext, fun _ => hstep.1⟩, monitored_of_forall fun e he before _ => ⟨?_, ?_⟩⟩
    · rintro peer rfl
      exact hstep.2 _ he
    · rintro status rfl
      exact hstep.2 _ he
  · have hstep : .shutdown ∈ (serverStep config move h.state).2 → (serverStep config move h.state).2 = [.shutdown] ∧
        Stopping (advance (serverStep config) h move) := by
      intro he
      cases move with
      | control answers => exact controlStep_shutdown config answers hi.inv he
      | media answers =>
        simp only [serverStep, mediaStep] at he
        split at he
        · cases he
        · split at he <;> simp at he
    refine ⟨⟨hnext, fun he => ?_⟩, ?_⟩
    · simp only [advance, List.mem_append] at he
      exact (hstep (he.resolve_left hseen)).2
    · -- the step that reports the shutdown does nothing else
      intro before e after heq hbefore
      have hmem : .shutdown ∈ before := (List.mem_append.mp hbefore).resolve_left hseen
      have hsingle := (hstep (by rw [heq]; simp [hmem])).1
      rw [heq] at hsingle
      have hlength := congrArg List.length hsingle
      have hpos := List.length_pos_of_mem hmem
      simp only [List.length_append, List.length_cons, List.length_nil] at hlength
      omega

/-- **A stop request is not lost** where the flag is set when it has been reported in a session: no client is accepted
after it, and nothing but 0 is returned; and 0 is returned, in every unending run in which the server and its media
thread move again and again. -/
theorem shutdown_kept (config : RTSPServerConfig) :
    (∀ moves, Along (serverStep config) (FlagKept config) ⟨.start, []⟩ moves →
      Monitored AfterShutdown (serverRun config moves).events) ∧
    (∀ moves : ℕ → Move, Fair (fun n => (moves n).agent) →
      (∀ n, FlagKept config (runTo (serverStep config) .start moves n) (moves n)) →
      ∀ n, .shutdown ∈ (runTo (serverStep config) .start moves n).events →
        ∃ m, .returned 0 ∈ (runTo (serverStep config) .start moves m).events) := by
  constructor
  · intro moves hkept
    exact run_monitored (serverStep config) stopInv_start fun past move hp hi =>
      serverStep_stopInv config hi (hkept.here (serverStep config) hp)
  · intro moves hfair hkept n hseen
    have hinv : ∀ n, StopInv (runTo (serverStep config) .start moves n) :=
      runTo_induction stopInv_start fun n hi => (serverStep_stopInv config hi (hkept n)).1
    obtain ⟨m, -, hm⟩ := hfair.reaches Stopping (fun h => .returned 0 ∈ h.events) (·.state.awaited) (·.state.stopRank)
      (fun k hs => by
        rw [runTo_succ]
        exact hs.progress config (hinv k).inv (hkept k)) ((hinv n).stopping hseen)
    exact ⟨m, hm⟩

/-! ## With and without the flag -/

/-- The configuration with a stop pipe. -/
def pipeConfig (stopFlag : Bool) : RTSPServerConfig := { homeConfig with stopFlag := stopFlag, stopFd := true }

/-- The answers while `stop_fd` is readable or not, with what `*stop_flag` is then. -/
def polling (stop : Bool) : ServerAnswers :=
  { answering [] with flag := stop, poll := .ready (!stop) false stop }

/-- Server and media thread take turns; `stop_fd` becomes readable while the first client is connected, and the flag is
set from then on. -/
def stopsInSession (n : ℕ) : Move :=
  if n % 2 = 0 then .control (polling (decide (14 ≤ n))) else .media (encodes [])

/-- With the flag the server accepts nobody after the shutdown, and returns 0. -/
theorem shutdown_kept_flag :
    .shutdown ∈ (runTo (serverStep (pipeConfig true)) .start stopsInSession 15).events ∧
      Monitored AfterShutdown (serverRun (pipeConfig true) ((List.range 30).map stopsInSession)).events ∧
      ∃ m, .returned 0 ∈ (runTo (serverStep (pipeConfig true)) .start stopsInSession m).events := by
  have hseen : .shutdown ∈ (runTo (serverStep (pipeConfig true)) .start stopsInSession 15).events := by decide +kernel
  have hfair : Fair fun n => (stopsInSession n).agent := by
    intro agent n
    cases agent with
    | control => exact ⟨2 * n, by omega, by simp [stopsInSession, Move.agent]⟩
    | media => exact ⟨2 * n + 1, by omega, by simp [stopsInSession, Move.agent]⟩
  have hkept : ∀ n, FlagKept (pipeConfig true) (runTo (serverStep (pipeConfig true)) .start stopsInSession n)
      (stopsInSession n) := by
    intro n
    by_cases hn : n < 14
    · have hearly : ∀ n < 14, FlagKept (pipeConfig true)
          (runTo (serverStep (pipeConfig true)) .start stopsInSession n) (stopsInSession n) := by
        decide +kernel
      exact hearly n hn
    · unfold stopsInSession
      split
      · intro _ _
        simp [stopRequested, pipeConfig, polling, Nat.le_of_not_lt hn]
      · trivial
  exact ⟨hseen, (shutdown_kept (pipeConfig true)).1 _ (by decide +kernel),
    (shutdown_kept (pipeConfig true)).2 stopsInSession hfair hkept 15 hseen⟩

/-- A client is connected when `stop_fd` becomes readable, and `stop_flag` is `NULL`; the next client comes. -/
def stopsWithoutFlag : List Move :=
  List.replicate 7 (.control (polling false)) ++ [.control (polling true)] ++
    List.replicate 6 (.control (polling false))

/-- The shutdown is forgotten, and the next client is accepted. -/
theorem shutdown_forgotten : ¬(pipeConfig false).Refused ∧
    ¬Monitored AfterShutdown (serverRun (pipeConfig false) stopsWithoutFlag).events := by
  refine ⟨by decide, fun h => ?_⟩
  have hnext : (serverRun (pipeConfig false) stopsWithoutFlag).events[19]? = some (.connected ⟨10, 0, 0, 2⟩) := by
    decide +kernel
  have hseen : .shutdown ∈ (serverRun (pipeConfig false) stopsWithoutFlag).events.take 19 := by decide +kernel
  exact (h.at hnext hseen).1 _ rfl

end MiniRtsp.Rtsp
