import MiniRtsp.Rtsp.Pipeline
import MiniRtsp.Rtsp.ServerInvariant

/-!
# Every step of the server keeps the invariant

`serverStep_inv`, one lemma for each function of the server and one for the media thread (`mediaStep_inv`).
-/

namespace MiniRtsp.Rtsp

open Ledger Rtp Trace

variable {printed steady : Prop} {h : History Server ServerEvent}

/-! ## What a step must not do -/

/-- `inet_ntop` prints the address of the client. -/
def Move.Printed : Move → Prop
  | .control answers => ∀ fd peer printed, answers.accept = .accepted fd peer printed → printed = true
  | .media _ => True

/-- The server sends a PLAY response. -/
def ServerPc.answersPlay (answers : ServerAnswers) : ServerPc → Bool
  | .respond (.play cseq id) _ => sendAll answers.sends (Response.play cseq id).render.length
  | _ => false

/-- **The port of the socket is kept up with**: a media thread opens its socket while the session has the port of the
last PLAY response, and a PLAY response that is sent finds no socket with another port than the session's. -/
def PortKept (h : History Server ServerEvent) : Move → Prop
  | .control answers => h.state.pc.answersPlay answers = true → ∀ t ∈ h.state.thread, t.pc.hasSocket = true →
      (h.state.media.sender.remoteAddr.sinPort.toNat : Int) = h.state.session.clientRtpPort
  | .media _ => ∀ t ∈ h.state.thread, t.pc = .initSender →
      (connection h.events).bind (·.played) = some h.state.session.clientRtpPort

instance (h : History Server ServerEvent) : ∀ move, Decidable (PortKept h move)
  | .control _ => inferInstanceAs (Decidable (_ = true → ∀ t ∈ h.state.thread, _ → _))
  | .media _ => inferInstanceAs (Decidable (∀ t ∈ h.state.thread, _ → _))

/-! ## The media thread -/

theorem no_thread {thread : Option Thread} (h : thread.isSome = false) : thread = none :=
  Option.not_isSome_iff_eq_none.mp (by rw [h]; decide)

theorem Zone.Flags.thread {zone : Zone} {running thread : Bool} (h : zone.Flags running thread)
    (hthread : thread = true) : zone = .serving ∨ zone = .joining := by
  cases zone with
  | serving => exact .inl rfl
  | joining => exact .inr rfl
  | idle | pending => rw [h.2] at hthread; cases hthread
  | never => exact h.elim

/-- A thread runs in a session only. -/
theorem Inv.inSession {t : Thread} (hi : Inv printed steady h) (ht : h.state.thread = some t) :
    h.state.pc.inSession = true := by
  have hzone := hi.flags.thread (by rw [ht]; rfl)
  unfold ServerPc.inSession
  rcases hzone with hzone | hzone <;> simp [hzone]

theorem hidden_media (events : List ThreadEvent) : ∀ e ∈ events.map ServerEvent.media, e.hidden = true := by
  intro e he
  obtain ⟨_, -, rfl⟩ := List.mem_map.mp he
  rfl

/-- What a step of the media thread shows. -/
theorem observe_media (past : List ServerEvent) (events : List ThreadEvent) (exits : Prop) [Decidable exits] :
    connection (past ++ (events.map .media ++ if exits then [.threadExited] else [])) = connection past ∧
      threadOf (past ++ (events.map .media ++ if exits then [.threadExited] else [])) =
        if exits then .dead else threadOf past := by
  obtain ⟨hconn, hthread⟩ := observe_hidden (hidden_media events) past
  rw [← List.append_assoc]
  split
  · rw [connection_concat, threadOf_concat, hconn]
    exact ⟨by cases connection past <;> rfl, rfl⟩
  · rw [List.append_nil]
    exact ⟨hconn, hthread⟩

/-- **A step of the media thread** keeps the invariant. -/
theorem mediaStep_inv (config : RTSPServerConfig) (answers : ThreadAnswers) (hi : Inv printed steady h)
    (hkept : steady → PortKept h (.media answers)) :
    Inv printed steady (advance (serverStep config) h (.media answers)) := by
  obtain ⟨s, events⟩ := h
  cases ht : s.thread with
  | none =>
    have hstep : serverStep config (.media answers) s = (s, []) := by simp [serverStep, mediaStep, ht]
    simpa only [advance, hstep, List.append_nil] using hi
  | some t =>
    have hsession := hi.inSession ht
    obtain ⟨c, hc, hcon⟩ := hi.conn.of_inSession hsession
    have hready := hi.ready t ht
    have hframe := threadStep_frame answers ⟨s.media, s.session, t⟩
    have hnext := (turnStep_ready hready (.thread answers)).1
    have hexited := threadStep_exited answers ⟨s.media, s.session, t⟩
    have hsender := @threadStep_sender answers ⟨s.media, s.session, t⟩
    have hstep : serverStep config (.media answers) s =
        ({ s with
            media := (threadStep answers ⟨s.media, s.session, t⟩).1.media
            session := (threadStep answers ⟨s.media, s.session, t⟩).1.session
            thread := some (threadStep answers ⟨s.media, s.session, t⟩).1.thread },
          (threadStep answers ⟨s.media, s.session, t⟩).2.map .media ++
            if t.pc = .summary then [.threadExited] else []) := by
      simp [serverStep, mediaStep, ht]
    simp only [turnStep] at hnext
    unfold advance
    rw [hstep]
    generalize threadStep answers ⟨s.media, s.session, t⟩ = r at hframe hnext hexited hsender ⊢
    obtain ⟨⟨media, session, t'⟩, out⟩ := r
    dsimp only at hframe hnext hexited hsender ⊢
    obtain ⟨hconn, hstatus⟩ := observe_media events out (t.pc = .summary)
    have hip : session.clientIp = s.session.clientIp := hframe.clientIp
    have hport : session.clientRtpPort = s.session.clientRtpPort := hframe.clientRtpPort
    have hrunning : media.threadRunning = s.media.threadRunning := hframe.threadRunning
    constructor
    · have hflags := hi.flags
      rw [ht] at hflags
      rw [hrunning]
      exact hflags
    · rw [hstatus]
      have hwas := hi.status
      simp only [Server.threadStatus, ht] at hwas ⊢
      by_cases hclear : t.pc = .summary
      · rw [if_pos hclear, if_pos (hexited.mpr (.inl hclear))]
      · rw [if_neg hclear, hwas]
        simp [hexited, hclear]
    · intro _ h'
      cases h'
      exact hnext
    · rw [hconn, hc]
      refine ⟨hsession, fun hp => hip.trans (hcon.peer hp), hcon.stopped, ?_, ?_, hcon.setup, ?_, ?_, ?_⟩
      · rw [hport]; exact hcon.range
      · rw [hport]; exact hcon.ports
      · intro _
        exact hcon.played (by rw [ht]; rfl)
      · intro hp _ h' hsock
        cases h'
        rcases hsender hsock with ⟨-, addr, haddr, hremote⟩ | ⟨hold, hsame⟩
        · dsimp only at haddr hremote ⊢
          rw [hcon.peer hp, inetPton_inetNtop, Option.some.injEq] at haddr
          rw [hremote, haddr]
        · dsimp only at hsame ⊢
          rw [hsame]
          exact hcon.address hp t ht hold
      · intro hs _ h' hsock
        cases h'
        rcases hsender hsock with ⟨hinit, addr, haddr, hremote⟩ | ⟨hold, hsame⟩
        · have hplayed : c.played = some s.session.clientRtpPort := by
            have := hkept hs t ht hinit
            rw [hc] at this
            exact this
          have hrange : 0 ≤ s.session.clientRtpPort ∧ s.session.clientRtpPort ≤ 65535 := hcon.range
          have hnat : (UInt16.ofNat s.session.clientRtpPort.toNat).toNat = s.session.clientRtpPort.toNat := by
            rw [UInt16.toNat_ofNat']
            omega
          dsimp only at hremote ⊢
          rw [hremote, hplayed, hnat, Int.toNat_of_nonneg hrange.1]
        · dsimp only at hsame ⊢
          rw [hsame]
          exact hcon.port hs t ht hold

/-! ## The server -/

theorem hidden_use (uses : List (Use Resource)) : ∀ e ∈ uses.map ServerEvent.use, e.hidden = true := by
  intro e he
  obtain ⟨_, -, rfl⟩ := List.mem_map.mp he
  rfl

/-- The media thread is the same, and so is all that it relies on. -/
structure SameThread (s s' : Server) : Prop where
  thread : s'.thread = s.thread
  sender : s'.media.sender = s.media.sender
  recording : s'.media.recordingEnabled = s.media.recordingEnabled

/-- **A step beside the media thread**: what is left to show. -/
theorem Inv.beside {s' : Server} {events : List ServerEvent} (hi : Inv printed steady h) (same : SameThread h.state s')
    (hflags : s'.pc.zone.Flags s'.media.threadRunning s'.thread.isSome)
    (hstatus : threadOf (h.events ++ events) = threadOf h.events)
    (hconn : ConnOk printed steady s' (connection (h.events ++ events))) :
    Inv printed steady ⟨s', h.events ++ events⟩ := by
  refine ⟨hflags, ?_, ?_, hconn⟩
  · rw [hstatus, hi.status]
    simp only [Server.threadStatus, same.thread]
  · intro t ht
    have hready := hi.ready t (same.thread ▸ ht)
    exact ⟨fun hp => same.sender ▸ hready.socket hp, fun hp => same.recording ▸ hready.muxer hp, hready.fresh,
      fun hp => same.recording ▸ hready.recording hp, hready.pending⟩

/-- The connection after a step beside the media thread. -/
theorem Connected.beside {s s' : Server} {c : Connection} (hc : Connected printed steady s c) (same : SameThread s s')
    (hip : s'.session.clientIp = s.session.clientIp) (hopen : s.pc ≠ .closeClient) (hpc : s'.pc.inSession = true)
    (hrange : 0 ≤ s'.session.clientRtpPort ∧ s'.session.clientRtpPort ≤ 65535)
    (hports : PortsOk s'.pc s'.session.clientRtpPort c) : Connected printed steady s' c := by
  refine ⟨hpc, fun hp => hip.trans (hc.peer hp), fun hs => absurd (hc.stopped hs) hopen, hrange, hports, hc.setup, ?_,
    ?_, ?_⟩
  · rw [same.thread]; exact hc.played
  · rw [same.thread, same.sender]; exact hc.address
  · rw [same.thread, same.sender]; exact hc.port

/-- **A step within a session** that shows nothing of the connection. -/
theorem Inv.session {s' : Server} {events : List ServerEvent} (hi : Inv printed steady h)
    (same : SameThread h.state s') (hidden : ∀ e ∈ events, e.hidden = true)
    (hpc : h.state.pc.inSession = true) (hopen : h.state.pc ≠ .closeClient) (hpc' : s'.pc.inSession = true)
    (hflags : s'.pc.zone.Flags s'.media.threadRunning s'.thread.isSome)
    (hip : s'.session.clientIp = h.state.session.clientIp)
    (hrange : 0 ≤ h.state.session.clientRtpPort ∧ h.state.session.clientRtpPort ≤ 65535 →
      0 ≤ s'.session.clientRtpPort ∧ s'.session.clientRtpPort ≤ 65535)
    (hports : ∀ c, PortsOk h.state.pc h.state.session.clientRtpPort c → PortsOk s'.pc s'.session.clientRtpPort c) :
    Inv printed steady ⟨s', h.events ++ events⟩ := by
  obtain ⟨c, hc, hcon⟩ := hi.conn.of_inSession hpc
  obtain ⟨hconnection, hthread⟩ := observe_hidden hidden h.events
  apply hi.beside same hflags hthread
  rw [hconnection, hc]
  exact hcon.beside same hip hopen hpc' (hrange hcon.range) (hports c hcon.ports)

/-- **A step between two sessions.** -/
theorem Inv.idle {s' : Server} {events : List ServerEvent} (hi : Inv printed steady h)
    (hpc : h.state.pc.inSession = false) (hpc' : s'.pc.inSession = false) (hthread : s'.thread = h.state.thread)
    (hrunning : h.state.media.threadRunning = false → s'.media.threadRunning = false)
    (hidden : ∀ e ∈ events, e.hidden = true) : Inv printed steady ⟨s', h.events ++ events⟩ := by
  have hidle : ∀ {pc : ServerPc}, pc.inSession = false → pc.zone = .idle := by
    intro pc hp
    by_contra hzone
    simp [ServerPc.inSession, hzone] at hp
  have hflags := hi.flags
  rw [hidle hpc] at hflags
  obtain ⟨hconnection, hstatus⟩ := observe_hidden hidden h.events
  have hnone : s'.thread = none := by
    rw [hthread]
    exact no_thread hflags.2
  refine ⟨?_, ?_, ?_, ?_⟩
  · rw [hidle hpc', hnone]
    exact ⟨hrunning hflags.1, rfl⟩
  · rw [hstatus, hi.status]
    simp only [Server.threadStatus, hthread]
  · intro t ht
    rw [hnone] at ht; cases ht
  · rw [hconnection, hi.conn.of_idle hpc]
    exact hpc'

/-! ### Between two sessions -/

theorem boot_inv (config : RTSPServerConfig) (answers : ServerAnswers) (hi : Inv printed steady h)
    (hpc : h.state.pc = .boot) :
    Inv printed steady ⟨(boot config answers h.state).1, h.events ++ (boot config answers h.state).2⟩ := by
  have hidle : h.state.pc.inSession = false := by rw [hpc]; rfl
  unfold boot
  split
  · exact hi.idle hidle rfl rfl id (by simp [ServerEvent.hidden])
  · rename_i hconfig
    cases answers.socket with
    | none => exact hi.idle hidle rfl rfl id (by simp [ServerEvent.hidden])
    | some fd =>
      dsimp only
      split
      · exact hi.idle hidle rfl rfl (fun _ => rfl) (by simp [ServerEvent.hidden])
      · have hopened := (rtspMediaInit_opened answers.media .zero config.devicePath config.recordPath
          (Int.not_lt.mp fun hneg => hconfig (.inr (.inr (.inr hneg))))).noThread
        generalize rtspMediaInit answers.media .zero config.devicePath config.recordPath config.warmupFrameCount = r
          at hopened ⊢
        obtain ⟨media, uses, ok⟩ := r
        refine hi.idle hidle ?_ rfl (fun _ => hopened) ?_
        · cases ok <;> rfl
        · intro e he
          rcases List.mem_cons.mp he with rfl | he
          · rfl
          · exact hidden_use uses e he

theorem closeMedia_inv (hi : Inv printed steady h) (hpc : h.state.pc = .closeMedia) :
    Inv printed steady ⟨(closeMedia h.state).1, h.events ++ (closeMedia h.state).2⟩ := by
  have hclose := (rtspMediaClose_moves h.state.media 0).2.2.2
  refine hi.idle (by rw [hpc]; rfl) rfl rfl (fun hr => hclose.trans hr) ?_
  unfold closeMedia
  intro e he
  simp only [List.mem_append, List.mem_singleton] at he
  rcases he with (he | he) | rfl
  · exact hidden_use _ e he
  · split at he
    · rw [List.mem_singleton.mp he]; rfl
    · cases he
  · rfl

/-- A new connection. -/
theorem acceptClient_inv (answers : ServerAnswers) (hi : Inv printed steady h) (hpc : h.state.pc = .accept)
    (hprinted : printed → Move.Printed (.control answers)) :
    Inv printed steady ⟨(acceptClient answers h.state).1, h.events ++ (acceptClient answers h.state).2⟩ := by
  have hidle : h.state.pc.inSession = false := by rw [hpc]; rfl
  have hflags := hi.flags
  rw [hpc] at hflags
  unfold acceptClient
  cases haccept : answers.accept with
  | interrupted => exact hi.idle hidle rfl rfl id (by simp)
  | failed => exact hi.idle hidle rfl rfl id (by simp)
  | accepted fd peer wasPrinted =>
    have hconnection : ∀ o, observe o (.connected peer) = some ⟨peer, none, none, false⟩ := by
      intro o; cases o <;> rfl
    refine hi.beside ⟨rfl, rfl, rfl⟩ ?_ ?_ ?_
    · exact hflags.1.trans hflags.2.symm
    · simp [threadOf, observeThread]
    · have hopened : connection (h.events ++ [.use (opened fd), .connected peer]) = some ⟨peer, none, none, false⟩ := by
        rw [List.append_cons, connection_concat, hconnection]
      rw [hopened]
      have hnone : h.state.thread = none := no_thread hflags.2
      refine ⟨rfl, ?_, by simp, ⟨Int.le_refl 0, (by decide : (0 : Int) ≤ 65535)⟩, rfl, by simp, ?_, ?_, ?_⟩
      · intro hp
        dsimp only
        rw [hprinted hp fd peer wasPrinted haccept]
        rfl
      · intro ht; rw [hnone] at ht; cases ht
      · intro _ t ht; rw [hnone] at ht; cases ht
      · intro _ t ht; rw [hnone] at ht; cases ht

/-! ### Within a session -/

theorem receive_inv (answers : ServerAnswers) (hi : Inv printed steady h) (hpc : h.state.pc = .recv) :
    Inv printed steady ⟨(receive answers h.state).1, h.events ++ (receive answers h.state).2⟩ := by
  have hin : h.state.pc.inSession = true := by rw [hpc]; rfl
  have hopen : h.state.pc ≠ .closeClient := by rw [hpc]; simp
  have hflags := hi.flags
  rw [hpc] at hflags
  have hidden : ∀ e ∈ if h.state.buffer.length ≥ bufferSize - 1 then [] else [ServerEvent.received answers.recv],
      e.hidden = true := by
    split <;> simp [ServerEvent.hidden]
  unfold receive
  dsimp only
  cases clientRecv h.state.buffer answers.recv with
  | keep | process =>
    exact hi.session ⟨rfl, rfl, rfl⟩ hidden hin hopen rfl hflags rfl id fun c => by rw [hpc]; exact id
  | leave => exact hi.session ⟨rfl, rfl, rfl⟩ hidden hin hopen rfl hflags rfl id fun _ _ => trivial

theorem process_inv (answers : ServerAnswers) (hi : Inv printed steady h) {request : Bytes}
    (hpc : h.state.pc = .process request) :
    Inv printed steady ⟨(process answers h.state request).1, h.events ++ (process answers h.state request).2⟩ := by
  have hin : h.state.pc.inSession = true := by rw [hpc]; rfl
  have hopen : h.state.pc ≠ .closeClient := by rw [hpc]; simp
  have hflags := hi.flags
  rw [hpc] at hflags
  have hidden : ∀ e ∈ [ServerEvent.requested request], e.hidden = true := by simp [ServerEvent.hidden]
  have hhandling := processRequest_handling answers.reader h.state.media h.state.session request
  unfold process
  dsimp only
  generalize processRequest answers.reader h.state.media h.state.session request = handled at hhandling ⊢
  cases hhandling with
  | setup cseq rtp rtcp range =>
    exact hi.session ⟨rfl, rfl, rfl⟩ hidden hin hopen rfl hflags rfl (fun _ => ⟨Int.le_of_lt range.1, range.2⟩)
      fun c _ => ⟨rfl, rfl, range.1⟩
  | play cseq port =>
    refine hi.session ⟨rfl, rfl, rfl⟩ hidden hin hopen rfl hflags rfl id fun c hports => ⟨rfl, ?_, port⟩
    rw [hpc] at hports
    simp only [PortsOk, if_pos port] at hports
    exact hports
  | @plain response after plain noStart =>
    refine hi.session ⟨rfl, rfl, rfl⟩ hidden hin hopen rfl hflags rfl id ?_
    intro c hports
    rw [hpc] at hports
    cases response with
    | setup | play => cases plain
    | _ => exact ⟨noStart, hports⟩
  | refused => exact hi.session ⟨rfl, rfl, rfl⟩ hidden hin hopen rfl hflags rfl id fun _ _ => trivial

theorem startCheck_inv (hi : Inv printed steady h) (hpc : h.state.pc = .startCheck) :
    Inv printed steady ⟨(startCheck h.state).1, h.events ++ (startCheck h.state).2⟩ := by
  have hin : h.state.pc.inSession = true := by rw [hpc]; rfl
  have hopen : h.state.pc ≠ .closeClient := by rw [hpc]; simp
  have hflags := hi.flags
  rw [hpc] at hflags
  unfold startCheck
  split
  · exact hi.session ⟨rfl, rfl, rfl⟩ (by simp) hin hopen rfl hflags rfl id fun _ _ => trivial
  · split
    · refine hi.session ⟨rfl, rfl, rfl⟩ (by simp [ServerEvent.hidden]) hin hopen rfl hflags rfl id ?_
      intro c hports
      rw [hpc] at hports
      obtain ⟨hsetup, -, hpos⟩ := hports
      exact hsetup.trans (if_pos hpos).symm
    · rename_i hrunning
      refine hi.session ⟨rfl, rfl, rfl⟩ (by simp [ServerEvent.hidden]) hin hopen rfl ⟨rfl, ?_⟩ rfl id ?_
      · exact hflags.symm.trans (Bool.eq_false_iff.mpr hrunning)
      · intro c hports
        rw [hpc] at hports
        exact hports

/-- `rtsp_media_start` creates the media thread. -/
theorem createThread_inv (answers : ServerAnswers) (hi : Inv printed steady h) (hpc : h.state.pc = .create) :
    Inv printed steady ⟨(createThread answers h.state).1, h.events ++ (createThread answers h.state).2⟩ := by
  have hin : h.state.pc.inSession = true := by rw [hpc]; rfl
  have hopen : h.state.pc ≠ .closeClient := by rw [hpc]; simp
  have hflags := hi.flags
  rw [hpc] at hflags
  unfold createThread
  split
  · exact hi.session ⟨rfl, rfl, rfl⟩ (by simp) hin hopen rfl hflags rfl id fun _ _ => trivial
  · obtain ⟨c, hc, hcon⟩ := hi.conn.of_inSession hin
    have hports := hcon.ports
    rw [hpc] at hports
    obtain ⟨hsetup, hplayed, hpos⟩ := hports
    have hshown : ∀ ip port, connection (h.events ++ [.created, .playAccepted ip port]) = some c ∧
        threadOf (h.events ++ [.created, .playAccepted ip port]) = .live := by
      intro ip port
      simp only [connection, threadOf, List.foldl_append] at hc ⊢
      rw [hc]
      exact ⟨rfl, rfl⟩
    refine ⟨hflags.1, ?_, ?_, ?_⟩
    · rw [(hshown _ _).2]; rfl
    · intro t ht
      cases ht; exact ready_start _ _
    · rw [(hshown _ _).1]
      refine ⟨rfl, hcon.peer, fun hs => absurd (hcon.stopped hs) hopen, hcon.range, ?_, hcon.setup, ?_, ?_, ?_⟩
      · exact hsetup.trans (if_pos hpos).symm
      · intro _
        rw [hplayed]; rfl
      · intro _ t ht hsock
        cases ht
        cases hsock
      · intro _ t ht hsock
        cases ht
        cases hsock

theorem startFail_inv (hi : Inv printed steady h) (hpc : h.state.pc = .startFail) :
    Inv printed steady ⟨startFail h.state, h.events ++ []⟩ := by
  have hflags := hi.flags
  rw [hpc] at hflags
  exact hi.session ⟨rfl, rfl, rfl⟩ (by simp) (by rw [hpc]; rfl) (by rw [hpc]; simp) rfl hflags.2.symm rfl id
    fun _ _ => trivial

/-- The connection after a step that leaves the thread and the session alone and shows something of the connection. -/
theorem Inv.shows {s' : Server} {e : ServerEvent} (hi : Inv printed steady h) (same : SameThread h.state s')
    (hip : s'.session.clientIp = h.state.session.clientIp)
    (hport : s'.session.clientRtpPort = h.state.session.clientRtpPort) (hpc : h.state.pc.inSession = true)
    (hpc' : s'.pc.inSession = true) (hflags : s'.pc.zone.Flags s'.media.threadRunning s'.thread.isSome)
    (hstatus : observeThread h.state.threadStatus e = h.state.threadStatus)
    (hconn : ∀ c, Connected printed steady h.state c → ∃ c', observe (some c) e = some c' ∧ c'.peer = c.peer ∧
      (c'.stopped = true → s'.pc = .closeClient) ∧ PortsOk s'.pc h.state.session.clientRtpPort c' ∧
      (c'.played.isSome = true → c'.setup.isSome = true) ∧ (c.played.isSome = true → c'.played.isSome = true) ∧
      (steady → ∀ t, h.state.thread = some t → t.pc.hasSocket = true →
        c'.played = some (h.state.media.sender.remoteAddr.sinPort.toNat : Int))) :
    Inv printed steady ⟨s', h.events ++ [e]⟩ := by
  obtain ⟨c, hc, hcon⟩ := hi.conn.of_inSession hpc
  obtain ⟨c', hc', hpeer, hstopped, hports, hsetup, hplayed, hsock⟩ := hconn c hcon
  apply hi.beside same hflags
  · rw [threadOf_concat, hi.status, hstatus]
  · rw [connection_concat, hc, hc']
    refine ⟨hpc', ?_, hstopped, ?_, ?_, hsetup, ?_, ?_, ?_⟩
    · rw [hip, hpeer]; exact hcon.peer
    · rw [hport]; exact hcon.range
    · rw [hport]; exact hports
    · rw [same.thread]; exact fun ht => hplayed (hcon.played ht)
    · rw [same.thread, same.sender, hpeer]; exact hcon.address
    · rw [same.thread, same.sender]; exact hsock

/-- A response. -/
theorem respond_inv (answers : ServerAnswers) (hi : Inv printed steady h) {response : Response} {after : AfterResponse}
    (hpc : h.state.pc = .respond response after) (hkept : steady → PortKept h (.control answers)) :
    Inv printed steady
      ⟨(respond answers h.state response after).1, h.events ++ (respond answers h.state response after).2⟩ := by
  have hin : h.state.pc.inSession = true := by rw [hpc]; rfl
  have hopen : h.state.pc ≠ .closeClient := by rw [hpc]; simp
  have hflags := hi.flags
  rw [hpc] at hflags
  unfold respond
  cases hsent : sendAll answers.sends response.render.length with
  | false =>
    cases after <;>
      exact hi.session ⟨rfl, rfl, rfl⟩ (by simp) hin hopen rfl hflags rfl id fun _ _ => trivial
  | true =>
    have hstays : ∀ {s' : Server}, SameThread h.state s' → s'.session = h.state.session → s'.pc.zone = .serving →
        s'.media.threadRunning = h.state.media.threadRunning →
        (∀ c, PortsOk (.respond response after) h.state.session.clientRtpPort c →
          ∃ c', observe (some c) (.responded response) = some c' ∧ c'.peer = c.peer ∧ c'.stopped = c.stopped ∧
            PortsOk s'.pc h.state.session.clientRtpPort c' ∧ (c.setup.isSome = true → c'.setup.isSome = true) ∧
            (c'.played = c.played ∨ (∃ cseq id, response = .play cseq id) ∧ c'.setup.isSome = true ∧
              c'.played = some h.state.session.clientRtpPort)) →
        Inv printed steady ⟨s', h.events ++ [.responded response]⟩ := by
      intro s' same hsession hzone hrunning hshows
      refine hi.shows same (by rw [hsession]) (by rw [hsession]) hin (by simp [ServerPc.inSession, hzone]) ?_ rfl
        fun c hcon => ?_
      · rw [hzone, hrunning, same.thread]; exact hflags
      · obtain ⟨c', hc', hpeer, hstopped, hports, hsetup, hplayed⟩ := hshows c (hpc ▸ hcon.ports)
        refine ⟨c', hc', hpeer, fun hs => absurd (hcon.stopped (hstopped ▸ hs)) hopen, hports, ?_, ?_, ?_⟩
        · rcases hplayed with hplayed | ⟨-, hset, -⟩
          · rw [hplayed]; exact fun hp => hsetup (hcon.setup hp)
          · exact fun _ => hset
        · rcases hplayed with hplayed | ⟨-, -, hplayed⟩
          · rw [hplayed]; exact id
          · rw [hplayed]; exact fun _ => rfl
        · intro hs t ht hsock
          rcases hplayed with hplayed | ⟨⟨cseq, id, rfl⟩, -, hplayed⟩
          · rw [hplayed]; exact hcon.port hs t ht hsock
          · rw [hplayed, hkept hs (by rw [hpc]; exact hsent) t ht hsock]
    cases response with
    | setup cseq rtp rtcp serverRtp serverRtcp id =>
      cases after with
      | done =>
        refine hstays ⟨rfl, rfl, rfl⟩ rfl rfl rfl fun c hports => ⟨_, rfl, rfl, rfl, ?_, fun _ => rfl, .inl rfl⟩
        obtain ⟨-, hrtp, hpos⟩ := hports
        exact (congrArg some hrtp).trans (if_pos hpos).symm
      | start | teardown =>
        obtain ⟨c, -, hcon⟩ := hi.conn.of_inSession hin
        have hports := hcon.ports
        rw [hpc] at hports
        cases hports.1
    | play cseq id =>
      cases after with
      | start =>
        refine hstays ⟨rfl, rfl, rfl⟩ rfl rfl rfl ?_
        intro c hports
        obtain ⟨-, hsetup, hpos⟩ := hports
        exact ⟨_, rfl, rfl, rfl, ⟨hsetup, hsetup, hpos⟩, fun hset => hset,
          .inr ⟨⟨cseq, _, rfl⟩, by rw [hsetup]; rfl, hsetup⟩⟩
      | done | teardown =>
        obtain ⟨c, -, hcon⟩ := hi.conn.of_inSession hin
        have hports := hcon.ports
        rw [hpc] at hports
        cases hports.1
    | _ =>
      cases after with
      | done => exact hstays ⟨rfl, rfl, rfl⟩ rfl rfl rfl fun c hports => ⟨c, rfl, rfl, rfl, hports.2, id, .inl rfl⟩
      | teardown => exact hstays ⟨rfl, rfl, rfl⟩ rfl rfl rfl fun c _ => ⟨c, rfl, rfl, rfl, trivial, id, .inl rfl⟩
      | start =>
        obtain ⟨c, -, hcon⟩ := hi.conn.of_inSession hin
        have hports := hcon.ports
        rw [hpc] at hports
        exact absurd rfl hports.1

/-- The return of `rtsp_media_stop`. -/
theorem afterStop_inv (hi : Inv printed steady h) {s' : Server} {after : AfterStop}
    (hpc : h.state.pc = .stopFlags after ∨ h.state.pc = .joined after) (same : SameThread h.state s')
    (hip : s'.session.clientIp = h.state.session.clientIp)
    (hport : s'.session.clientRtpPort = h.state.session.clientRtpPort) (hthread : s'.thread = none)
    (hrunning : s'.media.threadRunning = false) :
    Inv printed steady ⟨(afterStop s' after).1, h.events ++ (afterStop s' after).2⟩ := by
  have hflags := hi.flags
  cases after with
  | teardown =>
    have hin : h.state.pc.inSession = true := by rcases hpc with hpc | hpc <;> rw [hpc] <;> rfl
    have hopen : h.state.pc ≠ .closeClient := by rcases hpc with hpc | hpc <;> simp [hpc]
    refine hi.session ⟨same.thread, same.sender, same.recording⟩ (by simp [afterStop]) hin hopen rfl ?_ hip ?_
      fun _ _ => trivial
    · exact hrunning.trans (by rw [afterStop, hthread]; rfl)
    · exact fun hr => by rw [afterStop, hport]; exact hr
  | session =>
    have hin : h.state.pc.inSession = true := by rcases hpc with hpc | hpc <;> rw [hpc] <;> rfl
    refine hi.shows ⟨same.thread, same.sender, same.recording⟩ hip hport hin rfl ?_ rfl ?_
    · exact ⟨hrunning, by rw [afterStop, hthread]; rfl⟩
    · intro c hcon
      exact ⟨_, rfl, rfl, fun _ => rfl, trivial, hcon.setup, id, hcon.port⟩
  | close =>
    rcases hpc with hpc | hpc
    · exact hi.idle (by rw [hpc]; rfl) rfl same.thread (fun _ => hrunning) (by simp [afterStop])
    · rw [hpc] at hflags
      exact hflags.elim

/-- The server after `rtsp_media_stop` has set the stop request. -/
def Server.stopping (s : Server) (session : RTSPSession) : Server :=
  { s with media := { s.media with stopRequested := true }, session := session }

/-- `rtsp_media_stop` sets the stop request and clears `playing`, then joins or returns. -/
theorem stopFlags_cases (s : Server) (after : AfterStop) : ∃ session : RTSPSession,
    session.clientIp = s.session.clientIp ∧ session.clientRtpPort = s.session.clientRtpPort ∧
    stopFlags s after =
      if s.media.threadRunning then ({ s.stopping session with pc := .join after }, [])
      else afterStop (s.stopping session) after := by
  refine ⟨if after = .close then s.session else { s.session with playing := false }, ?_⟩
  cases after <;> exact ⟨rfl, rfl, rfl⟩

theorem stopFlags_inv (hi : Inv printed steady h) {after : AfterStop} (hpc : h.state.pc = .stopFlags after) :
    Inv printed steady ⟨(stopFlags h.state after).1, h.events ++ (stopFlags h.state after).2⟩ := by
  have hflags := hi.flags
  rw [hpc] at hflags
  obtain ⟨session, hip, hport, hstop⟩ := stopFlags_cases h.state after
  rw [hstop]
  split
  · rename_i hrunning
    cases after with
    | close =>
      have hidle : h.state.media.threadRunning = false := hflags.1
      rw [hidle] at hrunning
      cases hrunning
    | teardown | session =>
      exact hi.session ⟨rfl, rfl, rfl⟩ (by simp) (by rw [hpc]; rfl) (by rw [hpc]; simp) rfl
        ⟨hrunning, hflags.symm.trans hrunning⟩ hip (fun hrange => by rw [← hport] at hrange; exact hrange)
        fun _ _ => trivial
  · rename_i hrunning
    have hnot : h.state.media.threadRunning = false := Bool.eq_false_iff.mpr hrunning
    have hnone : h.state.thread.isSome = false := by
      cases after with
      | close => exact hflags.2
      | teardown | session => exact hflags.symm.trans hnot
    exact afterStop_inv hi (.inl hpc) ⟨rfl, rfl, rfl⟩ hip hport
      (no_thread hnone) hnot

/-- `rtsp_media_stop` joins the media thread. -/
theorem join_inv (hi : Inv printed steady h) {after : AfterStop} (hpc : h.state.pc = .join after) :
    Inv printed steady ⟨(join h.state after).1, h.events ++ (join h.state after).2⟩ := by
  have hflags := hi.flags
  rw [hpc] at hflags
  obtain ⟨t, ht⟩ : ∃ t, h.state.thread = some t := by
    cases after with
    | close => exact hflags.elim
    | teardown | session => exact Option.isSome_iff_exists.mp hflags.2
  simp only [join, ht]
  split
  · have hin : h.state.pc.inSession = true := by cases after <;> first | exact hflags.elim | (rw [hpc]; rfl)
    obtain ⟨c, hc, hcon⟩ := hi.conn.of_inSession hin
    have hshown : connection (h.events ++ [.joined]) = some c := by rw [connection_concat, hc]; rfl
    have hopen : h.state.pc ≠ .closeClient := by rw [hpc]; simp
    refine ⟨?_, ?_, by simp, ?_⟩
    · cases after with
      | close => exact hflags.elim
      | teardown | session => exact ⟨hflags.1, rfl⟩
    · rw [threadOf_concat]; cases threadOf h.events <;> rfl
    · rw [hshown]
      refine ⟨?_, hcon.peer, fun hs => absurd (hcon.stopped hs) hopen, hcon.range, trivial, hcon.setup, by simp,
        by simp, by simp⟩
      cases after with
      | close => exact hflags.elim
      | teardown | session => rfl
  · simpa using hi

/-- `wait_for_socket`. -/
theorem waitPoll_inv (config : RTSPServerConfig) (answers : ServerAnswers) (hi : Inv printed steady h)
    {waiting : Waiting} (hpc : h.state.pc = .waitPoll waiting) :
    Inv printed steady
      ⟨(waitPoll config answers h.state waiting).1, h.events ++ (waitPoll config answers h.state waiting).2⟩ := by
  have hflags := hi.flags
  rw [hpc] at hflags
  have hresult : ∀ (ret : Int) (events : List ServerEvent), (∀ e ∈ events, e.hidden = true) →
      Inv printed steady ⟨waitResult h.state waiting ret, h.events ++ events⟩ := by
    intro ret events hidden
    cases waiting with
    | listener =>
      unfold waitResult
      dsimp only
      repeat' split
      all_goals exact hi.idle (by rw [hpc]; rfl) rfl rfl id hidden
    | client =>
      unfold waitResult
      dsimp only
      split
      · exact hi.session ⟨rfl, rfl, rfl⟩ hidden (by rw [hpc]; rfl) (by simp [hpc]) rfl hflags rfl id fun _ _ => trivial
      · exact hi.session ⟨rfl, rfl, rfl⟩ hidden (by rw [hpc]; rfl) (by simp [hpc]) rfl hflags rfl id
          fun c => by rw [hpc]; exact id
  have hagain : Inv printed steady ⟨{ h.state with pc := .waitCheck waiting }, h.events ++ []⟩ := by
    cases waiting with
    | listener => exact hi.idle (by rw [hpc]; rfl) rfl rfl id (by simp)
    | client =>
      exact hi.session ⟨rfl, rfl, rfl⟩ (by simp) (by rw [hpc]; rfl) (by simp [hpc]) rfl hflags rfl id
        fun c => by rw [hpc]; exact id
  unfold waitPoll
  cases answers.poll with
  | interrupted => exact hagain
  | failed => exact hresult (-1) [] (by simp)
  | ready socketIn socketError stop =>
    dsimp only
    split
    · exact hresult 0 [.shutdown] (by simp [ServerEvent.hidden])
    · split
      · exact hresult 1 [] (by simp)
      · split
        · exact hresult (-1) [] (by simp)
        · exact hagain

/-- The end of a connection. -/
theorem closeClient_inv (hi : Inv printed steady h) (hpc : h.state.pc = .closeClient) :
    Inv printed steady
      ⟨{ h.state with pc := .serverHead }, h.events ++ [.use (closed h.state.clientFd), .disconnected]⟩ := by
  have hflags := hi.flags
  rw [hpc] at hflags
  refine hi.beside ⟨rfl, rfl, rfl⟩ hflags ?_ ?_
  · simp [threadOf, observeThread]
  · have hshown : ∀ o, observe o .disconnected = none := by intro o; cases o <;> rfl
    rw [List.append_cons, connection_concat, hshown]
    rfl

/-! ### Every step -/

/-- **Every step** of the server and of the media thread keeps the invariant. -/
theorem serverStep_inv (config : RTSPServerConfig) (move : Move) (hi : Inv printed steady h)
    (hprinted : printed → move.Printed) (hkept : steady → PortKept h move) :
    Inv printed steady (advance (serverStep config) h move) := by
  cases move with
  | media answers => exact mediaStep_inv config answers hi hkept
  | control answers =>
    unfold advance
    simp only [serverStep, controlStep]
    have hflags := hi.flags
    have hstays : ∀ {s' : Server}, SameThread h.state s' → s'.session = h.state.session →
        s'.media.threadRunning = h.state.media.threadRunning → s'.pc.zone = .serving → h.state.pc.zone = .serving →
        (∀ c port, PortsOk h.state.pc port c → PortsOk s'.pc port c) → Inv printed steady ⟨s', h.events ++ []⟩ := by
      intro s' same hsession hrunning hzone hwas hports
      rw [hwas] at hflags
      refine hi.session same (by simp) (by simp [ServerPc.inSession, hwas]) ?_ (by simp [ServerPc.inSession, hzone]) ?_
        (by rw [hsession]) (by rw [hsession]; exact id) fun c => ?_
      · intro hclose; rw [hclose] at hwas; cases hwas
      · rw [hzone, hrunning, same.thread]; exact hflags
      · rw [hsession]; exact hports c _
    have hidles : ∀ {s' : Server}, h.state.pc.inSession = false → s'.pc.inSession = false →
        s'.thread = h.state.thread → s'.media = h.state.media → Inv printed steady ⟨s', h.events ++ []⟩ :=
      fun hpc hpc' hthread hmedia => hi.idle hpc hpc' hthread (fun hr => by rw [hmedia]; exact hr) (by simp)
    cases hpc : h.state.pc with
    | boot => exact boot_inv config answers hi hpc
    | serverHead => exact hidles (by rw [hpc]; rfl) (by dsimp only; split <;> rfl) rfl rfl
    | waitCheck waiting =>
      dsimp only
      split
      · cases waiting with
        | listener => exact hidles (by rw [hpc]; rfl) rfl rfl rfl
        | client => exact hstays ⟨rfl, rfl, rfl⟩ rfl rfl rfl (by rw [hpc]; rfl) fun _ _ _ => trivial
      · cases waiting with
        | listener => exact hidles (by rw [hpc]; rfl) rfl rfl rfl
        | client => exact hstays ⟨rfl, rfl, rfl⟩ rfl rfl rfl (by rw [hpc]; rfl) fun c port => by rw [hpc]; exact id
    | waitPoll waiting => exact waitPoll_inv config answers hi hpc
    | accept => exact acceptClient_inv answers hi hpc hprinted
    | clientHead =>
      dsimp only
      split
      · exact hstays ⟨rfl, rfl, rfl⟩ rfl rfl rfl (by rw [hpc]; rfl) fun _ _ _ => trivial
      · exact hstays ⟨rfl, rfl, rfl⟩ rfl rfl rfl (by rw [hpc]; rfl) fun c port => by rw [hpc]; exact id
    | recv => exact receive_inv answers hi hpc
    | process request => exact process_inv answers hi hpc
    | respond response after => exact respond_inv answers hi hpc hkept
    | startCheck => exact startCheck_inv hi hpc
    | create => exact createThread_inv answers hi hpc
    | startFail => exact startFail_inv hi hpc
    | stopFlags after => exact stopFlags_inv hi hpc
    | join after => exact join_inv hi hpc
    | joined after =>
      rw [hpc] at hflags
      have hnone : h.state.thread.isSome = false := by
        cases after with
        | close => exact hflags.elim
        | teardown | session => exact hflags.2
      exact afterStop_inv hi (.inr hpc) ⟨rfl, rfl, rfl⟩ rfl rfl
        (no_thread hnone) rfl
    | closeClient => exact closeClient_inv hi hpc
    | leave => exact hidles (by rw [hpc]; rfl) rfl rfl rfl
    | cleanup => exact hidles (by rw [hpc]; rfl) (by dsimp only; split <;> rfl) rfl rfl
    | closeMedia => exact closeMedia_inv hi hpc
    | returned => simpa using hi

/-- **Every run** keeps the invariant. -/
theorem serverRun_inv (config : RTSPServerConfig) {moves : List Move}
    (hprinted : printed → ∀ move ∈ moves, move.Printed)
    (hkept : steady → Along (serverStep config) PortKept ⟨.start, []⟩ moves) :
    Inv printed steady (serverRun config moves) :=
  run_induction (serverStep config) (inv_start printed steady) fun _ move hp hi =>
    serverStep_inv config move hi (fun hp' => hprinted hp' move (mem_of_concat hp)) fun hs =>
      (hkept hs).here (serverStep config) hp

end MiniRtsp.Rtsp
