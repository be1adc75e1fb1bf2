import MiniRtsp.Rtsp.MediaStart

/-!
# Where packets go

While a packet leaves, the connection is open, has had its SETUP and its PLAY answered, and the packet goes to the
address of its peer (`packets_gated`). The port is the one the media thread read when it opened its socket: it is that
of the last PLAY as long as no SETUP gets between the two (`destination_follows`).
-/

namespace MiniRtsp.Rtsp

open Ledger Rtp Text Trace

/-- A packet leaves only beside a running media thread, on an open connection with a SETUP response, a PLAY response
behind it and no `rtsp_media_stop` behind the client loop, and to the peer's address; that `rtsp_media_stop` returns
when there is no media thread any more. -/
def Gated (before : List ServerEvent) (e : ServerEvent) : Prop :=
  (∀ d, e = .media (.sent d) → threadOf before = .live ∧ ∃ c, connection before = some c ∧ c.setup.isSome = true ∧
    c.played.isSome = true ∧ c.stopped = false ∧ d.dest.sinAddr = c.peer) ∧
  (e = .sessionStopped → threadOf before = .none)

/-- A packet goes to the port of the SETUP response that the last PLAY response came after, and that is the port
`handle_play` logs. -/
def Follows (before : List ServerEvent) (e : ServerEvent) : Prop :=
  (∀ d, e = .media (.sent d) → (connection before).bind (·.played) = some (d.dest.sinPort.toNat : Int)) ∧
  (∀ clientIp clientRtpPort, e = .playAccepted clientIp clientRtpPort →
    (connection before).bind (·.played) = some clientRtpPort)

section Step

variable {printed steady : Prop} {h : History Server ServerEvent}

/-- A law about packets, at a step of the media thread: the connection and the thread are those before the step. -/
theorem mediaStep_monitored {ok : List ServerEvent → ServerEvent → Prop} (answers : ThreadAnswers)
    (hi : Inv printed steady h)
    (hquiet : ∀ before e, (∀ d, e ≠ .media (.sent d)) → e ≠ .sessionStopped →
      (∀ clientIp clientRtpPort, e ≠ .playAccepted clientIp clientRtpPort) → ok before e)
    (hsent : ∀ t d before, h.state.thread = some t → t.pc.hasSocket = true →
      d.dest = h.state.media.sender.remoteAddr → connection before = connection h.events →
      threadOf before = threadOf h.events → ok before (.media (.sent d))) :
    Monitored (fun before => ok (h.events ++ before)) (mediaStep answers h.state).2 := by
  unfold mediaStep
  cases ht : h.state.thread with
  | none => exact monitored_nil
  | some t =>
    have hpackets := fun d hd => @threadStep_sent answers ⟨h.state.media, h.state.session, t⟩ (hi.ready t ht) d hd
    dsimp only
    generalize threadStep answers ⟨h.state.media, h.state.session, t⟩ = r at hpackets ⊢
    obtain ⟨live, out⟩ := r
    dsimp only at hpackets ⊢
    refine monitored_append.mpr ⟨?_, monitored_of_forall ?_⟩
    · intro before e after heq
      have hmem : ∀ y ∈ before ++ e :: after, y ∈ out.map ServerEvent.media := by rw [heq]; exact fun _ hy => hy
      obtain ⟨x, hx, rfl⟩ := List.mem_map.mp (hmem e (by simp))
      obtain ⟨hconnection, hthread⟩ :=
        observe_hidden (fun y hy => hidden_media out y (hmem y (List.mem_append_left _ hy))) h.events
      cases x with
      | sent d =>
        obtain ⟨hsock, hdest⟩ := hpackets d hx
        exact hsent t d _ ht hsock hdest hconnection hthread
      | _ => exact hquiet _ _ (by simp) (by simp) (by simp)
    · intro e he _
      split at he
      · rw [List.mem_singleton.mp he]
        exact hquiet _ _ (by simp) (by simp) (by simp)
      · cases he

/-- `rtsp_media_stop` behind the client loop returns without a media thread. -/
theorem controlStep_gated (config : RTSPServerConfig) (answers : ServerAnswers) (hi : Inv printed steady h) :
    Monitored (fun before => Gated (h.events ++ before)) (controlStep config answers h.state).2 := by
  have hat := controlStep_at config answers h.state
  have hpackets : ∀ e ∈ (controlStep config answers h.state).2, ∀ d, e ≠ .media (.sent d) := by
    rintro e he d rfl
    exact hat _ he
  have hstops : ∀ s' : Server, h.state.thread = none →
      Monitored (fun before => Gated (h.events ++ before)) (afterStop s' .session).2 := by
    intro s' hnone
    refine monitored_cons.mpr ⟨⟨by simp, ?_⟩, monitored_nil⟩
    intro _
    rw [List.append_nil, hi.status]
    simp only [Server.threadStatus, hnone]
  have hflags := hi.flags
  by_cases hstop : h.state.pc = .stopFlags .session
  · obtain ⟨session, -, -, hstep⟩ := stopFlags_cases h.state .session
    rw [hstop] at hflags
    have hcontrol : controlStep config answers h.state = stopFlags h.state .session := by
      simp only [controlStep, hstop]
    rw [hcontrol, hstep]
    split
    · exact monitored_nil
    · rename_i hrunning
      have hserving : h.state.media.threadRunning = h.state.thread.isSome := hflags
      exact hstops _ (no_thread (hserving.symm.trans (Bool.eq_false_iff.mpr hrunning)))
  · by_cases hjoined : h.state.pc = .joined .session
    · rw [hjoined] at hflags
      have hcontrol : controlStep config answers h.state =
          afterStop { h.state with media := { h.state.media with threadRunning := false } } .session := by
        simp only [controlStep, hjoined]
      rw [hcontrol]
      exact hstops _ (no_thread hflags.2)
    · refine monitored_of_forall fun e he before => ⟨fun d heq => absurd heq (hpackets e he d), ?_⟩
      rintro rfl
      exact ((hat _ he).elim hstop hjoined).elim

/-- **A step** sends packets of a connection that has been played to only. -/
theorem serverStep_gated (config : RTSPServerConfig) (move : Move) (hi : Inv True steady h) :
    Monitored (fun before => Gated (h.events ++ before)) (serverStep config move h.state).2 := by
  cases move with
  | control answers => exact controlStep_gated config answers hi
  | media answers =>
    refine mediaStep_monitored answers hi (fun before e hsent hstopped _ => ?_)
      fun t d before ht hsock hdest hc hs => ?_
    · exact ⟨fun d heq => absurd heq (hsent d), fun heq => absurd heq hstopped⟩
    · refine ⟨?_, by simp⟩
      intro d' heq
      cases heq
      have hin := hi.inSession ht
      obtain ⟨c, hconnection, hcon⟩ := hi.conn.of_inSession hin
      have hplayed := hcon.played (by rw [ht]; rfl)
      refine ⟨?_, c, hc.trans hconnection, hcon.setup hplayed, hplayed, ?_, ?_⟩
      · rw [hs, hi.status]
        simp only [Server.threadStatus, ht]
        rw [if_neg]
        intro hexited
        rw [hexited] at hsock
        cases hsock
      · apply Bool.eq_false_iff.mpr
        intro hstopped
        have hzone := hi.flags.thread (by rw [ht]; rfl)
        rw [hcon.stopped hstopped] at hzone
        rcases hzone with hzone | hzone <;> cases hzone
      · rw [hdest]
        exact hcon.address trivial t ht hsock

/-- The port that `handle_play` logs is that of the last PLAY response. -/
theorem controlStep_follows (config : RTSPServerConfig) (answers : ServerAnswers) (hi : Inv printed steady h) :
    Monitored (fun before => Follows (h.events ++ before)) (controlStep config answers h.state).2 := by
  have hat := controlStep_at config answers h.state
  have hother : ∀ e, (∀ d, e ≠ .media (.sent d)) → (∀ ip port, e ≠ .playAccepted ip port) →
      ∀ before, Follows before e :=
    fun e hsent hplay before => ⟨fun d heq => absurd heq (hsent d), fun ip port heq => absurd heq (hplay ip port)⟩
  have hlogged : ∀ c es, connection h.events = some c → c.played = some h.state.session.clientRtpPort →
      es.foldl observe (some c) = some c →
      Follows (h.events ++ es) (.playAccepted h.state.session.clientIp h.state.session.clientRtpPort) := by
    intro c es hc hplayed hes
    refine ⟨by simp, ?_⟩
    intro ip port heq
    cases heq
    unfold connection at hc ⊢
    rw [List.foldl_append, hc, hes]
    exact hplayed
  by_cases hstart : h.state.pc = .startCheck
  · obtain ⟨c, hc, hcon⟩ := hi.conn.of_inSession (by rw [hstart]; rfl)
    have hports := hcon.ports
    rw [hstart] at hports
    have hcontrol : controlStep config answers h.state = startCheck h.state := by simp only [controlStep, hstart]
    rw [hcontrol, startCheck]
    split
    · exact monitored_nil
    · split
      · exact monitored_cons.mpr ⟨hother _ (by simp) (by simp) _, monitored_cons.mpr ⟨hother _ (by simp) (by simp) _,
          monitored_cons.mpr ⟨hlogged c _ hc hports.2.1 rfl, monitored_nil⟩⟩⟩
      · exact monitored_cons.mpr ⟨hother _ (by simp) (by simp) _, monitored_nil⟩
  · by_cases hcreate : h.state.pc = .create
    · obtain ⟨c, hc, hcon⟩ := hi.conn.of_inSession (by rw [hcreate]; rfl)
      have hports := hcon.ports
      rw [hcreate] at hports
      have hcontrol : controlStep config answers h.state = createThread answers h.state := by
        simp only [controlStep, hcreate]
      rw [hcontrol, createThread]
      split
      · exact monitored_nil
      · exact monitored_cons.mpr ⟨hother _ (by simp) (by simp) _,
          monitored_cons.mpr ⟨hlogged c _ hc hports.2.1 rfl, monitored_nil⟩⟩
    · refine monitored_of_forall fun e he before => hother e ?_ ?_ _
      · rintro d rfl
        exact hat _ he
      · rintro ip port rfl
        exact (hat _ he).elim hstart hcreate

/-- **A step** sends packets to the port of the last PLAY response, as long as the socket keeps up with it. -/
theorem serverStep_follows (config : RTSPServerConfig) (move : Move) (hi : Inv printed True h) :
    Monitored (fun before => Follows (h.events ++ before)) (serverStep config move h.state).2 := by
  cases move with
  | control answers => exact controlStep_follows config answers hi
  | media answers =>
    apply mediaStep_monitored answers hi
    · intro before e hsent _ hplay
      exact ⟨fun d heq => absurd heq (hsent d), fun ip port heq => absurd heq (hplay ip port)⟩
    · intro t d before ht hsock hdest hc _
      refine ⟨fun d' heq => ?_, by simp⟩
      cases heq
      obtain ⟨c, hconnection, hcon⟩ := hi.conn.of_inSession (hi.inSession ht)
      rw [hc, hconnection, hdest]
      exact hcon.port trivial t ht hsock

end Step

/-- **Peer gating**: in every run in which `inet_ntop` succeeds, packets leave only on an open connection that has been
set up and played, only to its peer, and none after `rtsp_media_stop` behind the client loop. -/
theorem packets_gated (config : RTSPServerConfig) {moves : List Move} (hprinted : ∀ move ∈ moves, move.Printed) :
    Monitored Gated (serverRun config moves).events :=
  run_monitored (serverStep config) (P := Inv True False) (inv_start True False) fun _ move hp hi =>
    ⟨serverStep_inv config move hi (fun _ => hprinted move (mem_of_concat hp)) False.elim,
      serverStep_gated config move hi⟩

/-- A client sets up, plays and is sent an IDR slice. -/
def playOnce : List Move :=
  serves (setupRequest "6000-6001") 11 ++ serves playRequest 8 ++ streams [0, 0, 0, 1, 0x65, 0x88] 8

/-- Three packets: SPS, PPS and the slice. -/
theorem packets_gated_idr :
    (sentPackets ((serverRun homeConfig playOnce).events.filterMap ServerEvent.media?)).length = 3 ∧
      Monitored Gated (serverRun homeConfig playOnce).events :=
  ⟨by decide +kernel, packets_gated homeConfig fun move hmove => by
    simp only [playOnce, serves, streams, List.mem_append, List.mem_replicate] at hmove
    rcases hmove with (⟨-, rfl⟩ | ⟨-, rfl⟩) | ⟨-, rfl⟩
    · intro fd peer printed haccept; cases haccept; rfl
    · intro fd peer printed haccept; cases haccept; rfl
    · trivial⟩

/-- **The port of the packets**: in every run in which the socket keeps up with the port, packets go to the port of the
last SETUP response before the last PLAY response, which is the port `handle_play` logs. -/
theorem destination_follows (config : RTSPServerConfig) {moves : List Move}
    (hkept : Along (serverStep config) PortKept ⟨.start, []⟩ moves) :
    Monitored Follows (serverRun config moves).events :=
  run_monitored (serverStep config) (P := Inv False True) (inv_start False True) fun _ move hp hi =>
    ⟨serverStep_inv config move hi False.elim fun _ => hkept.here (serverStep config) hp,
      serverStep_follows config move hi⟩

theorem destination_follows_idr : Monitored Follows (serverRun homeConfig playOnce).events :=
  destination_follows homeConfig (by decide +kernel)

/-- The client sets up another port and plays again while the media thread streams. -/
def playMoved : List Move :=
  serves (setupRequest "6000-6001") 11 ++ serves playRequest 8 ++ streams [0, 0, 0, 1, 0x65, 0x88] 5 ++
    serves (setupRequest "7000-7001") 6 ++ serves playRequest 7 ++ streams [0, 0, 0, 1, 0x65, 0x88] 1

/-- The packet behind the second PLAY goes to the first port. -/
theorem playMoved_old_port : ¬ Monitored Follows (serverRun homeConfig playMoved).events := by
  intro h
  have hpacket : (serverRun homeConfig playMoved).events[39]? = some (.media (.sent
      ⟨⟨⟨10, 0, 0, 2⟩, 6000⟩, [0x80, 0x60, 0, 100, 0, 0, 0, 0, 0x12, 0x34, 0x56, 0x78, 0x67, 0x64]⟩)) := by
    decide +kernel
  have hplayed : (connection ((serverRun homeConfig playMoved).events.take 39)).bind (·.played) = some 7000 := by
    decide +kernel
  have hport := (h.at hpacket).1 _ rfl
  rw [hplayed] at hport
  cases hport

end MiniRtsp.Rtsp
