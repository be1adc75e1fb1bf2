import MiniRtsp.Rtsp.MediaStart

/-!
# What a run of the server leaves open

Descriptors, camera, encoder and mutex are accounted for by the state of the server (`Server.held`), from the opening of
the pipeline to the return of `rtsp_server_run`. When `bind` or `listen` fails the pipeline has not been opened and its
socket is descriptor 0, which is closed although nobody opened it (`resources_settled_iff`).
-/

namespace MiniRtsp.Rtsp

open Ledger Rtp Trace

/-! ## The media thread -/

/-- The media thread has no socket: it has not opened it yet or has closed it. -/
def ThreadPc.noSocket : ThreadPc → Bool
  | .initSender | .closeMuxer | .clearPlaying | .summary | .exited => true
  | _ => false

/-- What the media thread took and gave back. -/
def threadUses (events : List ThreadEvent) : List (Use Resource) :=
  events.filterMap fun e => match e with
    | .use u => some u
    | _ => none

theorem threadUses_use (uses : List (Use Resource)) : threadUses (uses.map .use) = uses := by
  unfold threadUses
  rw [List.filterMap_map]
  exact List.filterMap_some

theorem threadUses_append (es fs : List ThreadEvent) : threadUses (es ++ fs) = threadUses es ++ threadUses fs :=
  List.filterMap_append

theorem threadUses_sent (network : List Datagram) : threadUses (network.map .sent) = [] :=
  filterMap_unseen (fun _ => rfl) network

/-- An access unit is recorded and sent without taking anything. -/
theorem deliver_uses (answers : ThreadAnswers) (media : RTSPMedia) (t : Thread) (u : Bytes) :
    threadUses (deliver answers media t u).2 = [] ∧ (deliver answers media t u).1.pc.noSocket = false := by
  have hdelivered := (deliver_delivered answers media t u).1
  generalize deliver answers media t u = r at hdelivered ⊢
  obtain ⟨t', events⟩ := r
  dsimp only at hdelivered ⊢
  cases hdelivered with
  | skipped _ _ _ _ next => exact ⟨rfl, by rw [next]; rfl⟩
  | refused _ _ _ next => exact ⟨rfl, by rw [next]; rfl⟩
  | began _ records _ _ _ next =>
    constructor
    · rcases records with ⟨-, r, rfl⟩ | ⟨-, rfl⟩ <;> rfl
    · rw [next]
      split <;> rfl

/-- What the opening of the socket takes. -/
theorem openSender_moves (answers : ThreadAnswers) {live : Live} (hsock : live.media.sender.sockfd < 0)
    (m : Multiset Resource) :
    Moves (threadUses (openSender answers live).2) (live.media.held + m)
      ((openSender answers live).1.media.held + m) := by
  rcases hopen : rtpSenderInitEx answers.sender live.media.sender live.session.serverRtpPort live.session.clientIp
    live.session.clientRtpPort with ⟨sender, uses, ok⟩
  simp only [openSender, hopen]
  rw [threadUses_use]
  have hmoves := rtpSenderInitEx_moves hsock hopen (live.media.held + m)
  have hnone : live.media.sender.held = 0 := by rw [RTPSender.held, if_neg (by omega)]
  have hheld : RTSPMedia.held { live.media with sender := sender } + m = sender.held + (live.media.held + m) := by
    simp only [RTSPMedia.held, hnone, Multiset.zero_add]
    exact Multiset.add_assoc _ _ _
  rw [hheld]
  exact hmoves

/-- What the closing of the socket gives back. -/
theorem closeSender_moves (media : RTSPMedia) (m : Multiset Resource) :
    Moves (rtpSenderClose media.sender).2 (media.held + m)
      (RTSPMedia.held { media with sender := (rtpSenderClose media.sender).1 } + m) := by
  have hmoves := rtpSenderClose_moves media.sender (media.heldEncoder + (media.heldCapture + media.heldLock) + m)
  have hafter : RTSPMedia.held { media with sender := (rtpSenderClose media.sender).1 } + m =
      media.heldEncoder + (media.heldCapture + media.heldLock) + m := by
    have hnone : (rtpSenderClose media.sender).1.held = 0 := by simp [rtpSenderClose, RTPSender.held]
    simp only [RTSPMedia.held, hnone, Multiset.zero_add]
    rfl
  rw [hafter, RTSPMedia.held, Multiset.add_assoc]
  exact hmoves

/-- **A step of the media thread** takes and gives back what its pipeline holds more or less; without a socket, none is
held. -/
theorem threadStep_moves (answers : ThreadAnswers) {live : Live}
    (hclosed : live.thread.pc.noSocket = true → live.media.sender.sockfd < 0) :
    (∀ m, Moves (threadUses (threadStep answers live).2) (live.media.held + m)
      ((threadStep answers live).1.media.held + m)) ∧
    ((threadStep answers live).1.thread.pc.noSocket = true → (threadStep answers live).1.media.sender.sockfd < 0) := by
  unfold threadStep
  cases hpc : live.thread.pc with
  | initSender =>
    have hsock := hclosed (by rw [hpc]; rfl)
    refine ⟨openSender_moves answers hsock, ?_⟩
    show (openSender answers live).1.thread.pc.noSocket = true → _
    simp only [openSender]
    cases (rtpSenderInitEx answers.sender live.media.sender live.session.serverRtpPort live.session.clientIp
        live.session.clientRtpPort).2.2 with
    | false => exact fun h => by cases h
    | true => cases live.media.recordingEnabled <;> exact fun h => by cases h
  | initMuxer =>
    refine ⟨fun m => moves_nil _, ?_⟩
    simp only [openMuxer]
    split <;> exact fun h => by cases h
  | drain =>
    refine ⟨fun m => moves_nil _, ?_⟩
    dsimp only
    split <;> exact fun h => by cases h
  | consume => exact ⟨fun m => moves_nil _, fun h => by cases h⟩
  | loopHead =>
    refine ⟨fun m => moves_nil _, ?_⟩
    dsimp only
    split <;> exact fun h => by cases h
  | capture =>
    obtain ⟨huses, hheld, -⟩ := captureAndEncode_moves answers.capture live.media
    simp only [captureStep]
    split
    · refine ⟨?_, fun h => by cases h⟩
      intro m
      rw [threadUses_use, hheld]
      exact huses _
    · rename_i unit hunit
      obtain ⟨hnone, hnext⟩ := deliver_uses answers (captureAndEncode answers.capture live.media).media
        (live.thread.account unit.sequence) unit.data
      dsimp only
      refine ⟨?_, fun h => by rw [hnext] at h; cases h⟩
      intro m
      rw [threadUses_append, threadUses_use, hheld, threadUses, List.filterMap_cons]
      dsimp only
      rw [← threadUses, hnone, List.append_nil]
      exact huses _
  | sending packets complete =>
    cases packets with
    | nil => cases complete <;> exact ⟨fun m => moves_nil _, fun h => by cases h⟩
    | cons packet rest =>
      simp only [sendStep]
      split
      · exact ⟨fun m => by rw [threadUses_sent]; exact moves_nil _, fun h => by cases h⟩
      · split
        · cases complete with
          | true => exact ⟨fun m => by rw [threadUses_append, threadUses_sent]; exact moves_nil _, fun h => by cases h⟩
          | false => exact ⟨fun m => by rw [threadUses_append, threadUses_sent]; exact moves_nil _, fun h => by cases h⟩
        · exact ⟨fun m => by rw [threadUses_sent]; exact moves_nil _, fun h => by cases h⟩
  | closeSender =>
    refine ⟨?_, fun _ => (by decide : (-1 : Int) < 0)⟩
    intro m
    rw [threadUses_use]
    exact closeSender_moves live.media m
  | closeMuxer | clearPlaying | summary => exact ⟨fun m => moves_nil _, fun _ => hclosed (by rw [hpc]; rfl)⟩
  | exited => exact ⟨fun m => moves_nil _, fun _ => hclosed (by rw [hpc]; rfl)⟩

/-! ## The server -/

/-- What is open between the opening of the pipeline and the return of `rtsp_server_run`. -/
def Server.held (s : Server) : Multiset Resource :=
  {.descriptor s.serverFd} + ((if s.pc.inSession then {.descriptor s.clientFd} else 0) + s.media.held)

/-- All media threads that there are have no socket. -/
def Server.noSocket (s : Server) : Prop := ∀ t ∈ s.thread, t.pc.noSocket = true

/-- **The books of a run**, once the pipeline has been opened or has failed to. -/
structure Open (h : History Server ServerEvent) : Prop where
  booted : h.state.pc ≠ .boot
  running : h.state.pc ≠ .returned
  held : Holds (resourceUses h.events) h.state.held
  closed : h.state.noSocket → h.state.media.sender.sockfd < 0
  serverFd : 0 ≤ h.state.serverFd

/-- The books are open, or the server has returned and holds nothing. -/
def Books (h : History Server ServerEvent) : Prop :=
  Open h ∨ h.state.pc = .returned ∧ Holds (resourceUses h.events) 0

theorem resourceUses_append (es fs : List ServerEvent) : resourceUses (es ++ fs) = resourceUses es ++ resourceUses fs :=
  List.filterMap_append

theorem resourceUses_use (uses : List (Use Resource)) : resourceUses (uses.map .use) = uses := by
  unfold resourceUses
  rw [List.filterMap_map]
  exact List.filterMap_some

theorem resourceUses_media (events : List ThreadEvent) : resourceUses (events.map .media) = threadUses events := by
  unfold resourceUses threadUses
  rw [List.filterMap_map]
  congr 1
  funext e
  cases e <;> rfl

/-- What a step of the server leaves alone that neither opens nor closes anything. -/
structure SameHeld (s s' : Server) : Prop where
  booted : s'.pc ≠ .boot
  running : s'.pc ≠ .returned
  serverFd : s'.serverFd = s.serverFd
  clientFd : s'.clientFd = s.clientFd
  inSession : s'.pc.inSession = s.pc.inSession
  media : s'.media.held = s.media.held
  sender : s'.media.sender = s.media.sender
  noSocket : s'.noSocket → s.noSocket

section Step

variable {h : History Server ServerEvent}

theorem Open.same {s' : Server} {events : List ServerEvent} (ho : Open h) (same : SameHeld h.state s')
    (huses : resourceUses events = []) : Open ⟨s', h.events ++ events⟩ := by
  refine ⟨same.booted, same.running, ?_, ?_, ?_⟩
  · have hheld : s'.held = h.state.held := by
      rw [Server.held, same.serverFd, same.clientFd, same.inSession, same.media, Server.held]
    dsimp only
    rw [resourceUses_append, huses, List.append_nil, hheld]
    exact ho.held
  · intro hn
    rw [same.sender]
    exact ho.closed (same.noSocket hn)
  · rw [same.serverFd]
    exact ho.serverFd

/-- The place behind a step that neither opens nor closes anything. -/
def ServerPc.Beside (pc pc' : ServerPc) : Prop := pc' ≠ .boot ∧ pc' ≠ .returned ∧ pc'.inSession = pc.inSession

theorem afterStop_beside (s' : Server) {pc : ServerPc} {after : AfterStop}
    (hpc : pc = .stopFlags after ∨ pc = .joined after ∧ after ≠ .close) : pc.Beside (afterStop s' after).1.pc := by
  cases after with
  | teardown | session => rcases hpc with rfl | ⟨rfl, -⟩ <;> exact ⟨by simp [afterStop], by simp [afterStop], rfl⟩
  | close =>
    rcases hpc with rfl | ⟨-, hne⟩
    · exact ⟨by simp [afterStop], by simp [afterStop], rfl⟩
    · exact absurd rfl hne

theorem waitResult_beside (s : Server) (waiting : Waiting) (ret : Int) :
    (ServerPc.waitPoll waiting).Beside (waitResult s waiting ret).pc := by
  cases waiting <;> simp only [waitResult] <;> repeat' split
  all_goals exact ⟨by simp, by simp, rfl⟩

theorem controlStep_beside (config : RTSPServerConfig) (answers : ServerAnswers) (hi : Inv False False h)
    (hquiet : h.state.pc ≠ .boot ∧ h.state.pc ≠ .accept ∧ h.state.pc ≠ .closeClient ∧ h.state.pc ≠ .closeMedia)
    (hrunning : h.state.pc ≠ .returned) : h.state.pc.Beside (controlStep config answers h.state).1.pc := by
  obtain ⟨hboot, haccept, hcloseClient, hcloseMedia⟩ := hquiet
  have hflags := hi.flags
  unfold controlStep
  cases hpc : h.state.pc with
  | boot => exact absurd hpc hboot
  | accept => exact absurd hpc haccept
  | closeClient => exact absurd hpc hcloseClient
  | closeMedia => exact absurd hpc hcloseMedia
  | returned => exact absurd hpc hrunning
  | serverHead | clientHead | cleanup =>
    dsimp only
    split <;> exact ⟨by simp, by simp, rfl⟩
  | waitCheck waiting =>
    dsimp only
    split
    · cases waiting <;> exact ⟨by simp [waitResult], by simp [waitResult], rfl⟩
    · cases waiting <;> exact ⟨by simp, by simp, rfl⟩
  | waitPoll waiting =>
    have hagain : (ServerPc.waitPoll waiting).Beside (.waitCheck waiting) := by
      cases waiting <;> exact ⟨by simp, by simp, rfl⟩
    simp only [waitPoll]
    repeat' split
    all_goals first | exact waitResult_beside h.state waiting _ | exact hagain
  | recv =>
    simp only [receive]
    split <;> exact ⟨by simp, by simp, rfl⟩
  | process request =>
    simp only [process]
    split <;> exact ⟨by simp, by simp, rfl⟩
  | respond response after =>
    simp only [respond]
    cases after with
    | teardown => exact ⟨by simp, by simp, rfl⟩
    | done | start =>
      dsimp only
      split <;> exact ⟨by simp [requestDone], by simp [requestDone], rfl⟩
  | startCheck =>
    simp only [startCheck]
    split
    · exact ⟨by simp, by simp, rfl⟩
    · split <;> exact ⟨by simp [requestDone], by simp [requestDone], rfl⟩
  | create =>
    simp only [createThread]
    split <;> exact ⟨by simp [requestDone], by simp [requestDone], rfl⟩
  | startFail => exact ⟨by simp [startFail], by simp [startFail], rfl⟩
  | stopFlags after =>
    rw [hpc] at hflags
    obtain ⟨session, -, -, hstop⟩ := stopFlags_cases h.state after
    dsimp only
    rw [hstop]
    split
    · rename_i hrun
      refine ⟨by simp, by simp, ?_⟩
      cases after with
      | close =>
        have hidle : h.state.media.threadRunning = false := hflags.1
        rw [hidle] at hrun
        cases hrun
      | teardown | session => rfl
    · exact afterStop_beside _ (.inl rfl)
  | join after =>
    rw [hpc] at hflags
    have hjoined : (ServerPc.join after).Beside (.joined after) := by
      cases after with
      | close => exact hflags.elim
      | teardown | session => exact ⟨by simp, by simp, rfl⟩
    simp only [join]
    split
    · split
      · exact hjoined
      · rw [hpc]
        exact ⟨by simp, by simp, rfl⟩
    · exact hjoined
  | joined after =>
    rw [hpc] at hflags
    apply afterStop_beside
    refine .inr ⟨rfl, ?_⟩
    rintro rfl
    exact hflags.elim
  | leave => exact ⟨by simp, by simp, rfl⟩

/-- **A step of the server** that neither opens nor closes anything. -/
theorem controlStep_same (config : RTSPServerConfig) (answers : ServerAnswers) (hi : Inv False False h)
    (hquiet : h.state.pc ≠ .boot ∧ h.state.pc ≠ .accept ∧ h.state.pc ≠ .closeClient ∧ h.state.pc ≠ .closeMedia)
    (hrunning : h.state.pc ≠ .returned) : SameHeld h.state (controlStep config answers h.state).1 := by
  obtain ⟨hbooted, hstill, hsession⟩ := controlStep_beside config answers hi hquiet hrunning
  have hframe := controlStep_frame config answers hquiet.1 hquiet.2.2.2
  obtain ⟨stop, running, hmedia⟩ := hframe.media
  refine ⟨hbooted, hstill, hframe.serverFd, hframe.clientFd.resolve_right hquiet.2.1, hsession, ?_, ?_, ?_⟩
  · rw [hmedia]
    rfl
  · rw [hmedia]
  · intro hno t ht
    rcases hframe.thread with hsame | hcreate | ⟨-, hexited⟩
    · exact hno t (hsame ▸ ht)
    · -- while a thread is created there is none
      have hflags := hi.flags
      rw [hcreate] at hflags
      rw [no_thread hflags.2] at ht
      cases ht
    · rw [hexited t ht]
      rfl

/-! ### Opening and closing -/

theorem held_client (s : Server) : s.held =
    (if s.pc.inSession then {.descriptor s.clientFd} else 0) + ({.descriptor s.serverFd} + s.media.held) := by
  rw [Server.held, ← Multiset.add_assoc, Multiset.add_comm {Resource.descriptor s.serverFd}, Multiset.add_assoc]

theorem held_media (s : Server) : s.held =
    s.media.held + ({.descriptor s.serverFd} + if s.pc.inSession then {.descriptor s.clientFd} else 0) := by
  rw [Server.held, ← Multiset.add_assoc, Multiset.add_comm]

theorem acceptClient_open (answers : ServerAnswers) (ho : Open h) (hpc : h.state.pc = .accept) :
    Open ⟨(acceptClient answers h.state).1, h.events ++ (acceptClient answers h.state).2⟩ := by
  unfold acceptClient
  cases answers.accept with
  | interrupted => exact ho.same ⟨by simp, by simp, rfl, rfl, by rw [hpc]; rfl, rfl, rfl, id⟩ rfl
  | failed => exact ho.same ⟨by simp, by simp, rfl, rfl, by rw [hpc]; rfl, rfl, rfl, id⟩ rfl
  | accepted fd peer printed =>
    refine ⟨by simp, by simp, ?_, ho.closed, ho.serverFd⟩
    have hbefore := ho.held
    rw [held_client, hpc, if_neg (by decide), Multiset.zero_add] at hbefore
    rw [resourceUses_append, held_client, if_pos (by rfl), Multiset.singleton_add]
    exact moves_acquire _ _ _ hbefore

theorem closeClient_open (ho : Open h) (hpc : h.state.pc = .closeClient) :
    Open ⟨{ h.state with pc := .serverHead }, h.events ++ [.use (closed h.state.clientFd), .disconnected]⟩ := by
  refine ⟨by simp, by simp, ?_, ho.closed, ho.serverFd⟩
  have hbefore := ho.held
  rw [held_client, hpc, if_pos (by rfl), Multiset.singleton_add] at hbefore
  have hidle : ServerPc.serverHead.inSession = false := rfl
  rw [resourceUses_append, held_client]
  simp only [hidle, Bool.false_eq_true, if_false, Multiset.zero_add]
  exact moves_release _ _ _ hbefore

/-- **The return of `rtsp_server_run`**: everything is given back. -/
theorem closeMedia_settles (ho : Open h) (hpc : h.state.pc = .closeMedia) :
    Holds (resourceUses (h.events ++ (closeMedia h.state).2)) 0 := by
  have hbefore := ho.held
  rw [held_media, hpc, if_neg (by decide), Multiset.add_zero] at hbefore
  unfold closeMedia
  dsimp only
  rw [if_pos ho.serverFd, resourceUses_append, resourceUses_append, resourceUses_append, resourceUses_use]
  have hmedia := (rtspMediaClose_moves h.state.media {Resource.descriptor h.state.serverFd}).1 _ hbefore
  have hserver := moves_release (Resource.descriptor h.state.serverFd) 0 _ hmedia
  rw [show resourceUses [ServerEvent.returned h.state.status] = [] from rfl, List.append_nil, ← List.append_assoc]
  exact hserver

/-- **A step of the media thread** keeps the books. -/
theorem mediaStep_open (answers : ThreadAnswers) (ho : Open h) :
    Open ⟨(mediaStep answers h.state).1, h.events ++ (mediaStep answers h.state).2⟩ := by
  unfold mediaStep
  cases ht : h.state.thread with
  | none => simpa using ho
  | some t =>
    have hclosed : t.pc.noSocket = true → h.state.media.sender.sockfd < 0 := by
      intro hno
      apply ho.closed
      intro t' ht'
      rw [ht] at ht'
      cases ht'
      exact hno
    obtain ⟨hmoves, hafter⟩ := @threadStep_moves answers ⟨h.state.media, h.state.session, t⟩ hclosed
    dsimp only at hmoves hafter ⊢
    generalize threadStep answers ⟨h.state.media, h.state.session, t⟩ = r at hmoves hafter ⊢
    obtain ⟨live, out⟩ := r
    dsimp only at hmoves hafter ⊢
    refine ⟨ho.booted, ho.running, ?_, fun hn => hafter (hn _ rfl), ho.serverFd⟩
    have hbefore := ho.held
    rw [held_media] at hbefore
    have hexit : resourceUses (if t.pc = .summary then [.threadExited] else []) = [] := by split <;> rfl
    rw [resourceUses_append, resourceUses_append, resourceUses_media, hexit, List.append_nil, held_media]
    exact hmoves _ _ hbefore

/-- **Every step** keeps the books. -/
theorem serverStep_books (config : RTSPServerConfig) (move : Move) (hi : Inv False False h) (hb : Books h) :
    Books (advance (serverStep config) h move) := by
  rcases hb with ho | ⟨hreturned, hsettled⟩
  · cases move with
    | media answers => exact .inl (mediaStep_open answers ho)
    | control answers =>
      unfold advance
      by_cases haccept : h.state.pc = .accept
      · simp only [serverStep, controlStep, haccept]
        exact .inl (acceptClient_open answers ho haccept)
      · by_cases hclient : h.state.pc = .closeClient
        · simp only [serverStep, controlStep, hclient]
          exact .inl (closeClient_open ho hclient)
        · by_cases hmedia : h.state.pc = .closeMedia
          · simp only [serverStep, controlStep, hmedia]
            exact .inr ⟨rfl, closeMedia_settles ho hmedia⟩
          · have hsame := controlStep_same config answers hi ⟨ho.booted, haccept, hclient, hmedia⟩ ho.running
            refine .inl (ho.same hsame ?_)
            have hat := controlStep_at config answers h.state
            apply List.filterMap_eq_nil_iff.mpr
            intro e he
            cases e with
            | use u => exact absurd (hat _ he) (by simp [ServerEvent.At, ho.booted, haccept, hclient, hmedia])
            | media e => exact (hat _ he).elim
            | _ => rfl
  · have hsame : serverStep config move h.state = (h.state, []) := by
      cases move with
      | control answers => simp only [serverStep, controlStep, hreturned]
      | media answers =>
        have hflags := hi.flags
        rw [hreturned] at hflags
        simp only [serverStep, mediaStep, no_thread hflags.2]
    right
    simp only [advance, hsame, List.append_nil]
    exact ⟨hreturned, hsettled⟩

end Step

/-! ## Whole runs -/

/-- The answers to the first step of the server. -/
def firstAnswers : List Move → Option ServerAnswers
  | [] => none
  | .control answers :: _ => some answers
  | .media _ :: moves => firstAnswers moves

/-- The listening socket is opened, but `bind` or `listen` fails. -/
def ListenerFails (config : RTSPServerConfig) (moves : List Move) : Prop :=
  ∃ answers, firstAnswers moves = some answers ∧ ¬ config.Refused ∧ answers.socket.isSome = true ∧
    (answers.bind = false ∨ answers.listen = false)

/-- A run begins with the first step of the server. -/
theorem serverRun_cases (config : RTSPServerConfig) (moves : List Move) :
    (firstAnswers moves = none ∧ serverRun config moves = ⟨.start, []⟩) ∨
    ∃ answers, ∃ rest : List Move, firstAnswers moves = some answers ∧ serverRun config moves =
      rest.foldl (advance (serverStep config)) ⟨(boot config answers .start).1, (boot config answers .start).2⟩ := by
  induction moves with
  | nil => exact .inl ⟨rfl, rfl⟩
  | cons move moves ih =>
    cases move with
    | control answers => exact .inr ⟨answers, moves, rfl, rfl⟩
    | media answers => exact ih

/-- **A server that can listen**, or fails before, opens its books in order. -/
theorem boot_books (config : RTSPServerConfig) (answers : ServerAnswers)
    (hlistens : ¬ config.Refused → answers.socket.isSome = true → answers.bind = true ∧ answers.listen = true) :
    Books ⟨(boot config answers .start).1, (boot config answers .start).2⟩ := by
  unfold boot
  split
  · exact .inr ⟨rfl, holds_nil⟩
  · rename_i hconfig
    cases hsocket : answers.socket with
    | none => exact .inr ⟨rfl, holds_nil⟩
    | some fd =>
      obtain ⟨hbind, hlisten⟩ := hlistens hconfig (by rw [hsocket]; rfl)
      dsimp only
      rw [if_neg (by simp [hbind, hlisten])]
      have hopened := rtspMediaInit_opened answers.media .zero config.devicePath config.recordPath
        (Int.not_lt.mp fun hneg => hconfig (.inr (.inr (.inr hneg))))
      generalize rtspMediaInit answers.media .zero config.devicePath config.recordPath config.warmupFrameCount = r
        at hopened ⊢
      obtain ⟨media, uses, ok⟩ := r
      have hclosed : media.sender.sockfd = -1 := hopened.closed
      refine .inl ⟨by cases ok <;> simp, by cases ok <;> simp, ?_, ?_, Int.natCast_nonneg fd⟩
      · have hopen := (moves_acquire (Resource.descriptor fd) 0).cons (hopened.moves _) _ holds_nil
        have huses : resourceUses (.use (opened fd) :: uses.map .use) = opened fd :: uses :=
          congrArg (opened fd :: ·) (resourceUses_use uses)
        have hidle : ServerPc.inSession (if ok then .serverHead else .cleanup) = false := by cases ok <;> rfl
        rw [held_media]
        simp only [hidle, huses, Bool.false_eq_true, if_false, Multiset.add_zero]
        exact hopen
      · intro _
        dsimp only
        omega

/-- After `bind` or `listen` has failed: `fd` is open, and the pipeline is as `memset` left it. -/
def Broken (fd : Nat) (h : History Server ServerEvent) : Prop :=
  ((h.state.pc = .cleanup ∨ h.state.pc = .closeMedia) ∧ h.state.media = .zero ∧ h.state.serverFd = fd ∧
    resourceUses h.events = [opened fd]) ∨
  h.state.pc = .returned ∧ resourceUses h.events = [opened fd, closed 0, closed fd]

theorem serverStep_broken (config : RTSPServerConfig) {fd : Nat} (move : Move) {h : History Server ServerEvent}
    (hthread : h.state.thread = none) (hb : Broken fd h) :
    (advance (serverStep config) h move).state.thread = none ∧ Broken fd (advance (serverStep config) h move) := by
  cases move with
  | media answers =>
    have hsame : serverStep config (.media answers) h.state = (h.state, []) := by
      simp only [serverStep, mediaStep, hthread]
    simp only [advance, hsame, List.append_nil]
    exact ⟨hthread, hb⟩
  | control answers =>
    unfold advance
    rcases hb with ⟨hpc | hpc, hmedia, hserver, huses⟩ | ⟨hpc, huses⟩
    · simp only [serverStep, controlStep, hpc, hmedia]
      exact ⟨hthread, .inl ⟨.inr rfl, rfl, hserver, by rw [List.append_nil, huses]⟩⟩
    · have hstep : serverStep config (.control answers) h.state =
          ({ h.state with media := (rtspMediaClose .zero).1, pc := .returned },
            [.use (closed 0), .use (closed fd), .returned h.state.status]) := by
        simp only [serverStep, controlStep, hpc, closeMedia, hmedia, hserver]
        rw [if_pos (Int.natCast_nonneg fd)]
        rfl
      rw [hstep]
      refine ⟨hthread, .inr ⟨rfl, ?_⟩⟩
      rw [resourceUses_append, huses]
      rfl
    · simp only [serverStep, controlStep, hpc]
      exact ⟨hthread, .inr ⟨hpc, by rw [List.append_nil, huses]⟩⟩

/-- Descriptor 0 is closed once more than it was opened. -/
theorem broken_not_settled {fd : Nat} : ¬ Settled [opened fd, closed 0, closed fd] := by
  intro h
  have hzero := h (.descriptor 0)
  simp only [List.count_cons, List.count_nil, beq_iff_eq, reduceCtorEq, if_false, Use.release.injEq, Use.acquire.injEq,
    Resource.descriptor.injEq, if_true] at hzero
  omega

/-- **Everything is given back exactly once** in exactly the runs in which the listening socket can be bound and
listened on, or none was opened. -/
theorem resources_settled_iff (config : RTSPServerConfig) {moves : List Move}
    (hreturned : (serverRun config moves).state.pc = .returned) :
    (Sound (resourceUses (serverRun config moves).events) ∧ Settled (resourceUses (serverRun config moves).events)) ↔
      ¬ ListenerFails config moves := by
  rcases serverRun_cases config moves with ⟨-, hnothing⟩ | ⟨answers, rest, hfirst, hrun⟩
  · rw [hnothing] at hreturned
    cases hreturned
  · by_cases hlistens : ¬ config.Refused → answers.socket.isSome = true → answers.bind = true ∧ answers.listen = true
    · have hbooks : Inv False False (serverRun config moves) ∧ Books (serverRun config moves) := by
        rw [hrun]
        refine List.foldlRecOn (motive := fun h => Inv False False h ∧ Books h) rest _
          ⟨?_, boot_books config answers hlistens⟩ fun h hh move _ => ?_
        · exact serverStep_inv config (.control answers) (inv_start False False) False.elim False.elim
        · exact ⟨serverStep_inv config move hh.1 False.elim False.elim, serverStep_books config move hh.1 hh.2⟩
      have hsettled : Holds (resourceUses (serverRun config moves).events) 0 := by
        rcases hbooks.2 with ho | ⟨-, hsettled⟩
        · exact absurd hreturned ho.running
        · exact hsettled
      refine iff_of_true ⟨hsettled.sound, hsettled.settled⟩ ?_
      rintro ⟨answers', hfirst', hconfig, hsocket, hfails⟩
      rw [hfirst, Option.some.injEq] at hfirst'
      subst hfirst'
      obtain ⟨hbind, hlisten⟩ := hlistens hconfig hsocket
      rcases hfails with hfails | hfails
      · rw [hbind] at hfails; cases hfails
      · rw [hlisten] at hfails; cases hfails
    · obtain ⟨hconfig, hrest⟩ := Classical.not_imp.mp hlistens
      obtain ⟨hsocket, hfails⟩ := Classical.not_imp.mp hrest
      obtain ⟨fd, hfd⟩ := Option.isSome_iff_exists.mp hsocket
      have hfails' : answers.bind = false ∨ answers.listen = false := by
        cases hbind : answers.bind with
        | false => exact .inl rfl
        | true => exact .inr (Bool.eq_false_iff.mpr fun hlisten => hfails ⟨hbind, hlisten⟩)
      have hbroken : (serverRun config moves).state.thread = none ∧ Broken fd (serverRun config moves) := by
        rw [hrun]
        refine List.foldlRecOn (motive := fun h => h.state.thread = none ∧ Broken fd h) rest _ ?_
          fun h hh move _ => serverStep_broken config move hh.1 hh.2
        have hboot : boot config answers .start =
            ({ Server.start with serverFd := fd, media := .zero, pc := .cleanup }, [.use (opened fd)]) := by
          rw [boot, if_neg hconfig, hfd]
          dsimp only
          rw [if_pos (by rcases hfails' with hf | hf <;> simp [hf])]
        rw [hboot]
        exact ⟨rfl, .inl ⟨.inl rfl, rfl, rfl, rfl⟩⟩
      have huses : resourceUses (serverRun config moves).events = [opened fd, closed 0, closed fd] := by
        rcases hbroken.2 with ⟨hpc | hpc, -⟩ | ⟨-, huses⟩
        · rw [hreturned] at hpc; cases hpc
        · rw [hreturned] at hpc; cases hpc
        · exact huses
      refine iff_of_false ?_ (not_not_intro ⟨answers, hfirst, hconfig, hsocket, hfails'⟩)
      intro h
      rw [huses] at h
      exact broken_not_settled h.2

/-- A client is streamed to and leaves; the stop flag ends the server. -/
def servesOnce : List Move :=
  serves (setupRequest "6000-6001") 11 ++ serves playRequest 8 ++ streams [0, 0, 0, 1, 0x65, 0x88] 8 ++
    List.replicate 5 (.control { answering [] with recv := .failed }) ++ streams [] 5 ++
    List.replicate 8 (.control { answering [] with flag := true })

theorem resources_settled_once :
    let events := (serverRun { homeConfig with stopFlag := true } servesOnce).events
    Sound (resourceUses events) ∧ Settled (resourceUses events) := by
  apply (resources_settled_iff { homeConfig with stopFlag := true } (by decide +kernel)).mpr
  have hfirst : firstAnswers servesOnce = some (answering (setupRequest "6000-6001")) := rfl
  rintro ⟨answers, hanswers, -, -, hfails⟩
  rw [hfirst, Option.some.injEq] at hanswers
  subst hanswers
  rcases hfails with h | h <;> cases h

/-- `bind` fails. -/
def failsToBind : List Move := List.replicate 3 (.control { answering [] with bind := false })

/-- The server returns, and descriptor 0 has been closed. -/
theorem failsToBind_closes_zero : (serverRun homeConfig failsToBind).state.pc = .returned ∧
    ¬ (Sound (resourceUses (serverRun homeConfig failsToBind).events) ∧
      Settled (resourceUses (serverRun homeConfig failsToBind).events)) := by
  have hzero : (resourceUses (serverRun homeConfig failsToBind).events).count (closed 0) ≠
      (resourceUses (serverRun homeConfig failsToBind).events).count (opened 0) := by decide +kernel
  exact ⟨by decide +kernel, fun h => hzero (h.2 (.descriptor 0))⟩

end MiniRtsp.Rtsp
