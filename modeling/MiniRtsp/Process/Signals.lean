import MiniRtsp.Rtsp.Shutdown

/-!
# The stop signals and the server

`main` gives the server `g_stop_signal` as its `stop_flag` and the read end of `g_signal_pipe` as its `stop_fd`.
`handle_stop_signal` sets the one and then writes to the other; it may run beside the server, and several times at once
(`serveStep`). The flag is set before there is a byte in the pipe, so a shutdown is never forgotten here
(`serveRun_shutdown`), and from the signal on the server takes up one thing at most (`serveRun_prompt`).
-/

namespace MiniRtsp.Process

open Rtsp Trace

/-! ## The handler -/

/-- The signals that `handle_stop_signal` is installed for. -/
inductive StopSignal where
  | interrupt
  | terminate
  deriving DecidableEq, Repr

/-- `SIGINT` and `SIGTERM`. -/
def StopSignal.number : StopSignal → UInt8
  | .interrupt => 2
  | .terminate => 15

/-- How many bytes there is room for in a pipe. -/
def pipeCapacity : Nat := 65536

/-- `g_stop_signal`, the bytes in `g_signal_pipe`, and what the handlers that are running have yet to write. -/
structure Signals where
  stopSignal : Nat
  pipe : Bytes
  writing : List UInt8

/-- `handle_stop_signal` up to its `write`. -/
def Signals.handle (s : Signals) (signal : StopSignal) : Signals :=
  { s with stopSignal := signal.number.toNat, writing := signal.number :: s.writing }

/-- The `write` of one of the handlers that are running, if there is any. A full pipe does not take the byte. -/
def Signals.write (s : Signals) (which : Nat) : Signals :=
  let slot := which % s.writing.length
  match s.writing[slot]? with
  | none => s
  | some value =>
    { s with
      pipe := if s.pipe.length < pipeCapacity then s.pipe ++ [value] else s.pipe
      writing := s.writing.eraseIdx slot }

/-- `drain_stop_fd`. The list says which calls of `read` fail; those behind it empty the pipe. -/
def drainStopFd : List Bool → Bytes → Bytes
  | [], _ => []
  | true :: _, pipe => pipe
  | false :: reads, pipe => drainStopFd reads (pipe.drop 32)

/-! ## The server beside it -/

/-- The process while `rtsp_server_run` runs. -/
structure Serving where
  signals : Signals
  server : Server

inductive ServeEvent where
  /-- `handle_stop_signal` has set `g_stop_signal`. -/
  | raised (signal : StopSignal)
  | server (e : ServerEvent)
  deriving DecidableEq

def ServeEvent.server? : ServeEvent → Option ServerEvent
  | .raised _ => none
  | .server e => some e

/-- What the server did. -/
def serverEvents (events : List ServeEvent) : List ServerEvent := events.filterMap ServeEvent.server?

/-- The answers that the server gets: `*stop_flag` and the events of `stop_fd` are those of the process. -/
def Serving.answers (p : Serving) (answers : ServerAnswers) : ServerAnswers :=
  { answers with
    flag := p.signals.stopSignal ≠ 0
    poll := match answers.poll with
      | .ready socketIn socketError _ => .ready socketIn socketError (p.signals.pipe ≠ [])
      | poll => poll }

/-- `poll` does not return: nothing has happened at the socket, and the pipe is empty. -/
def Serving.blocked (p : Serving) (answers : ServerAnswers) : Bool :=
  match p.server.pc, answers.poll with
  | .waitPoll _, .ready false false _ => p.signals.pipe = []
  | _, _ => false

/-- The process when `rtsp_server_run` is called, with what has been signalled by then. -/
def Serving.start (signals : Signals) : Serving := ⟨signals, .start⟩

inductive ServeMove where
  | signal (signal : StopSignal)
  | write (which : Nat)
  /-- A step of the server; in `drain_stop_fd`, `reads` says which calls of `read` fail. -/
  | control (answers : ServerAnswers) (reads : List Bool)
  | media (answers : ThreadAnswers)

/-- The pipe after a step of the server: a reported shutdown has drained it. -/
def Signals.after (s : Signals) (reads : List Bool) (events : List ServerEvent) : Signals :=
  if .shutdown ∈ events then { s with pipe := drainStopFd reads s.pipe } else s

/-- **A step** of a handler, of the server or of its media thread. -/
def serveStep (config : RTSPServerConfig) : ServeMove → Serving → Serving × List ServeEvent
  | .signal signal, p => ({ p with signals := p.signals.handle signal }, [.raised signal])
  | .write which, p => ({ p with signals := p.signals.write which }, [])
  | .control answers reads, p =>
    if p.blocked answers then (p, [])
    else
      let (server, events) := controlStep config (p.answers answers) p.server
      (⟨p.signals.after reads events, server⟩, events.map .server)
  | .media answers, p =>
    let (server, events) := mediaStep answers p.server
    ({ p with server := server }, events.map .server)

/-- No signal has come yet. -/
def noSignal : Signals := ⟨0, [], []⟩

/-- A run of the process, from the call of `rtsp_server_run` on. -/
def serveRun (config : RTSPServerConfig) (moves : List ServeMove) : History Serving ServeEvent :=
  run (serveStep config) (.start noSignal) moves

/-! ## What a step does to the server -/

/-- The server's part of a history. -/
def serverHistory (h : History Serving ServeEvent) : History Server ServerEvent :=
  ⟨h.state.server, serverEvents h.events⟩

theorem serverEvents_append (es fs : List ServeEvent) : serverEvents (es ++ fs) = serverEvents es ++ serverEvents fs :=
  List.filterMap_append

@[simp] theorem serverEvents_server (es : List ServerEvent) : serverEvents (es.map .server) = es := by
  unfold serverEvents
  rw [List.filterMap_map]
  exact List.filterMap_some

/-- A step of the server or its media thread, and what the others see of it. -/
structure Moved (config : RTSPServerConfig) (move : Move) (p p' : Serving) (events : List ServeEvent) : Prop where
  server : p'.server = (serverStep config move p.server).1
  events : events = (serverStep config move p.server).2.map .server
  stopSignal : p'.signals.stopSignal = p.signals.stopSignal
  writing : p'.signals.writing = p.signals.writing
  pipe : p'.signals.pipe = p.signals.pipe ∨ .shutdown ∈ (serverStep config move p.server).2

/-- **What a step can do**: something is signalled, a handler writes, `poll` does not return, or the server or its media
thread moves. -/
inductive ServeCase (config : RTSPServerConfig) (p : Serving) : ServeMove → Serving × List ServeEvent → Prop where
  | signal (signal : StopSignal) :
    ServeCase config p (.signal signal) ({ p with signals := p.signals.handle signal }, [.raised signal])
  | write (which : Nat) : ServeCase config p (.write which) ({ p with signals := p.signals.write which }, [])
  | blocked (answers : ServerAnswers) (reads : List Bool) (poll : p.blocked answers = true) :
    ServeCase config p (.control answers reads) (p, [])
  | control (answers : ServerAnswers) (reads : List Bool) {p' : Serving} {events : List ServeEvent}
    (free : p.blocked answers = false) (moved : Moved config (.control (p.answers answers)) p p' events) :
    ServeCase config p (.control answers reads) (p', events)
  | media (answers : ThreadAnswers) {p' : Serving} {events : List ServeEvent}
    (moved : Moved config (.media answers) p p' events) : ServeCase config p (.media answers) (p', events)

theorem serveStep_cases (config : RTSPServerConfig) (move : ServeMove) (p : Serving) :
    ServeCase config p move (serveStep config move p) := by
  cases move with
  | signal signal => exact .signal signal
  | write which => exact .write which
  | control answers reads =>
    cases hblocked : p.blocked answers with
    | true => simpa only [serveStep, hblocked, if_true] using .blocked answers reads hblocked
    | false =>
      simp only [serveStep, hblocked, Bool.false_eq_true, if_false]
      refine .control answers reads hblocked ⟨rfl, rfl, ?_, ?_, ?_⟩ <;> simp only [Signals.after, serverStep] <;> split
      · rfl
      · rfl
      · rfl
      · rfl
      · rename_i hshutdown
        exact .inr hshutdown
      · exact .inl rfl
  | media answers => exact .media answers ⟨rfl, rfl, rfl, rfl, .inl rfl⟩

/-- The server's part of a step of the server. -/
theorem Moved.history {config : RTSPServerConfig} {move : Move} {h : History Serving ServeEvent} {p' : Serving}
    {events : List ServeEvent} (hmoved : Moved config move h.state p' events) :
    serverHistory ⟨p', h.events ++ events⟩ = advance (serverStep config) (serverHistory h) move := by
  simp only [serverHistory, advance, serverEvents_append, hmoved.server, hmoved.events, serverEvents_server]

/-! ## The flag comes before the byte -/

/-- A shutdown is reported where `poll` has answered that `stop_fd` is readable. -/
theorem controlStep_shutdown_poll (config : RTSPServerConfig) (answers : ServerAnswers) (s : Server)
    (h : .shutdown ∈ (controlStep config answers s).2) :
    ∃ socketIn socketError, answers.poll = .ready socketIn socketError true := by
  obtain ⟨waiting, hwhere⟩ := (controlStep_place config answers s _ h).2
  simp only [controlStep, hwhere, waitPoll] at h
  cases hpoll : answers.poll with
  | interrupted | failed => rw [hpoll] at h; cases h
  | ready socketIn socketError stop =>
    rw [hpoll] at h
    cases stop with
    | true => exact ⟨socketIn, socketError, rfl⟩
    | false =>
      simp only [Bool.and_false, Bool.false_eq_true, if_false] at h
      split at h
      · cases h
      · split at h <;> cases h

/-- `stop_fd` is readable where there is a byte in the pipe. -/
theorem Serving.answers_stop {p : Serving} {answers : ServerAnswers} {socketIn socketError : Bool}
    (h : (p.answers answers).poll = .ready socketIn socketError true) : p.signals.pipe ≠ [] := by
  unfold Serving.answers at h
  cases hpoll : answers.poll with
  | interrupted | failed => rw [hpoll] at h; cases h
  | ready _ _ _ =>
    rw [hpoll] at h
    simp only [PollAnswer.ready.injEq, decide_eq_true_eq] at h
    exact h.2.2

/-- **What every step keeps**: there is no byte without the flag, no shutdown without the flag, and once the handlers
have returned there is a byte, unless it has been seen. -/
structure SignalInv (h : History Serving ServeEvent) : Prop where
  stop : StopInv (serverHistory h)
  quiet : h.state.signals.stopSignal = 0 → h.state.signals.pipe = [] ∧ h.state.signals.writing = []
  raised : ∀ signal, .raised signal ∈ h.events → h.state.signals.stopSignal ≠ 0
  kept : .shutdown ∈ serverEvents h.events → h.state.signals.stopSignal ≠ 0
  woken : h.state.signals.stopSignal ≠ 0 → h.state.signals.writing = [] →
    h.state.signals.pipe ≠ [] ∨ .shutdown ∈ serverEvents h.events

theorem signalInv_start : SignalInv ⟨.start noSignal, []⟩ :=
  ⟨stopInv_start, fun _ => ⟨rfl, rfl⟩, by simp, by simp [serverEvents], fun h => absurd rfl h⟩

theorem StopSignal.number_ne_zero (signal : StopSignal) : signal.number.toNat ≠ 0 := by
  cases signal <;> decide

theorem Signals.write_stopSignal (s : Signals) (which : Nat) : (s.write which).stopSignal = s.stopSignal := by
  unfold write
  dsimp only
  split <;> rfl

/-- A handler that has written leaves a byte. -/
theorem Signals.write_pipe (s : Signals) (which : Nat) :
    (s.writing = [] ∧ s.write which = s) ∨ (s.write which).pipe ≠ [] := by
  unfold write
  by_cases hwriting : s.writing = []
  · exact .inl ⟨hwriting, by simp [hwriting]⟩
  · refine .inr ?_
    have hslot : which % s.writing.length < s.writing.length := Nat.mod_lt _ (List.length_pos_iff.mpr hwriting)
    simp only [List.getElem?_eq_getElem hslot]
    split
    · simp
    · rename_i hfull
      intro hempty
      rw [hempty] at hfull
      exact hfull (by decide)

variable {h : History Serving ServeEvent}

/-- **The flag is kept**: what the server reads after a shutdown is the flag of the handler. -/
theorem SignalInv.flagKept {config : RTSPServerConfig} (hi : SignalInv h) (hflag : config.stopFlag = true)
    (answers : ServerAnswers) : FlagKept config (serverHistory h) (.control (h.state.answers answers)) := by
  intro _ hsession
  obtain ⟨n, -, hevent, -⟩ := hsession
  have hset := hi.kept (List.mem_of_getElem? hevent)
  simp [stopRequested, hflag, Serving.answers, hset]

/-- A step of the server or of its media thread. -/
theorem Moved.signalInv {config : RTSPServerConfig} {move : Move} {p' : Serving} {events : List ServeEvent}
    (hmoved : Moved config move h.state p' events) (hi : SignalInv h)
    (hkept : FlagKept config (serverHistory h) move)
    (hpoll : .shutdown ∈ (serverStep config move h.state.server).2 → h.state.signals.stopSignal ≠ 0) :
    SignalInv ⟨p', h.events ++ events⟩ := by
  have hnext := (serverStep_stopInv config hi.stop hkept).1
  have hevents : serverEvents (h.events ++ events) =
      serverEvents h.events ++ (serverStep config move h.state.server).2 := by
    rw [serverEvents_append, hmoved.events, serverEvents_server]
  refine ⟨hmoved.history ▸ hnext, ?_, ?_, ?_, ?_⟩ <;> dsimp only <;> rw [hmoved.stopSignal]
  · intro hzero
    obtain ⟨hpipe, hwriting⟩ := hi.quiet hzero
    refine ⟨?_, hmoved.writing.trans hwriting⟩
    rcases hmoved.pipe with hsame | hshutdown
    · exact hsame.trans hpipe
    · exact absurd hzero (hpoll hshutdown)
  · intro signal hraised
    rw [hmoved.events] at hraised
    rcases List.mem_append.mp hraised with hraised | hraised
    · exact hi.raised signal hraised
    · simp at hraised
  · rw [hevents, List.mem_append]
    exact fun hshutdown => hshutdown.elim hi.kept hpoll
  · intro hset hwriting
    rw [hevents, List.mem_append]
    rcases hmoved.pipe with hsame | hshutdown
    · rw [hsame]
      exact (hi.woken hset (hmoved.writing ▸ hwriting)).imp_right .inl
    · exact .inr (.inr hshutdown)

/-- **Every step** keeps the invariant. -/
theorem serveStep_signalInv (config : RTSPServerConfig) (hflag : config.stopFlag = true) (move : ServeMove)
    (hi : SignalInv h) : SignalInv (advance (serveStep config) h move) := by
  have hcase := serveStep_cases config move h.state
  unfold advance
  generalize serveStep config move h.state = r at hcase ⊢
  cases hcase with
  | signal signal =>
    have hevents : serverEvents (h.events ++ [.raised signal]) = serverEvents h.events := by
      simp [serverEvents, ServeEvent.server?]
    refine ⟨?_, ?_, ?_, ?_, ?_⟩
    · simpa only [serverHistory, hevents] using hi.stop
    · exact fun hzero => absurd hzero signal.number_ne_zero
    · exact fun _ _ => signal.number_ne_zero
    · exact fun _ => signal.number_ne_zero
    · exact fun _ hwriting => absurd hwriting (by simp [Signals.handle])
  | write which =>
    rw [List.append_nil]
    refine ⟨hi.stop, ?_, ?_, ?_, ?_⟩ <;> dsimp only <;> rw [Signals.write_stopSignal]
    · intro hzero
      obtain ⟨hpipe, hwriting⟩ := hi.quiet hzero
      simp [Signals.write, hwriting, hpipe]
    · exact hi.raised
    · exact hi.kept
    · intro hset hwriting
      rcases h.state.signals.write_pipe which with ⟨-, hsame⟩ | hpipe
      · rw [hsame] at hwriting ⊢
        exact hi.woken hset hwriting
      · exact .inl hpipe
  | blocked _ _ _ => simpa using hi
  | control answers _ _ hmoved =>
    refine hmoved.signalInv hi (hi.flagKept hflag answers) fun hshutdown hzero => ?_
    obtain ⟨socketIn, socketError, hpoll⟩ := controlStep_shutdown_poll config _ _ hshutdown
    exact Serving.answers_stop hpoll (hi.quiet hzero).1
  | media answers hmoved =>
    refine hmoved.signalInv hi trivial fun hshutdown => ?_
    simp only [serverStep, mediaStep] at hshutdown
    split at hshutdown
    · cases hshutdown
    · split at hshutdown <;> simp at hshutdown

/-! ## A shutdown is not forgotten -/

/-- The invariant and the law of the shutdown, over every run. -/
theorem serveRun_signalInv (config : RTSPServerConfig) (hflag : config.stopFlag = true) (moves : List ServeMove) :
    SignalInv (serveRun config moves) ∧ Monitored AfterShutdown (serverEvents (serveRun config moves).events) := by
  refine run_induction (serveStep config) (P := fun h => SignalInv h ∧ Monitored AfterShutdown (serverEvents h.events))
    ⟨signalInv_start, monitored_nil⟩ fun past move _ hi => ?_
  obtain ⟨hi, hlaw⟩ := hi
  generalize run (serveStep config) (.start noSignal) past = h at hi hlaw
  refine ⟨serveStep_signalInv config hflag move hi, ?_⟩
  have hcase := serveStep_cases config move h.state
  unfold advance
  generalize serveStep config move h.state = r at hcase ⊢
  simp only [serverEvents_append]
  refine monitored_append.mpr ⟨hlaw, ?_⟩
  cases hcase with
  | signal | write | blocked => exact monitored_nil
  | control answers _ _ hmoved =>
    rw [hmoved.events, serverEvents_server]
    exact (serverStep_stopInv config hi.stop (hi.flagKept hflag answers)).2
  | media answers hmoved =>
    rw [hmoved.events, serverEvents_server]
    exact (serverStep_stopInv config hi.stop (show FlagKept config (serverHistory h) (.media answers) from trivial)).2

/-- **No signal is forgotten**: beside this handler, whatever the interleaving, no client is accepted once the server
has reported a shutdown, and nothing but 0 is returned. -/
theorem serveRun_shutdown (config : RTSPServerConfig) (hflag : config.stopFlag = true) (moves : List ServeMove) :
    Monitored AfterShutdown (serverEvents (serveRun config moves).events) :=
  (serveRun_signalInv config hflag moves).2

/-- `SIGTERM` comes while a client is connected. -/
def signalledInSession : List ServeMove :=
  List.replicate 7 (.control (answering []) []) ++ [.signal .terminate, .write 0] ++
    List.replicate 8 (.control (answering []) [])

example : .shutdown ∈ serverEvents (serveRun (pipeConfig true) signalledInSession).events := by decide +kernel

/-! ## From the signal on -/

/-- A client is accepted, or a request is processed. -/
def takesUp : ServerEvent → Bool
  | .connected _ | .requested _ => true
  | _ => false

/-- How often that can still happen although the flag is set. -/
def committed : ServerPc → ℕ
  | .waitPoll _ | .accept | .recv | .process _ => 1
  | _ => 0

theorem committed_le_one (pc : ServerPc) : committed pc ≤ 1 := by
  unfold committed
  split <;> omega

theorem committed_afterStop (s : Server) (after : AfterStop) :
    (afterStop s after).2.countP takesUp = 0 ∧ committed (afterStop s after).1.pc = 0 := by
  cases after <;> exact ⟨rfl, rfl⟩

/-- **A step of the server** whose flag is set takes up what it was committed to, and commits itself to nothing new. -/
theorem controlStep_committed (config : RTSPServerConfig) (answers : ServerAnswers) (s : Server)
    (hset : stopRequested config answers = true) :
    (controlStep config answers s).2.countP takesUp + committed (controlStep config answers s).1.pc ≤
      committed s.pc := by
  unfold controlStep
  cases hpc : s.pc with
  | boot =>
    simp only [boot]
    repeat' split
    all_goals simp [takesUp, committed, List.countP_eq_zero]
  | waitCheck waiting => cases waiting <;> simp [hset, waitResult, committed]
  | waitPoll waiting =>
    cases waiting <;> simp only [waitPoll, waitResult] <;> repeat' split
    all_goals simp [takesUp, committed]
  | accept =>
    simp only [acceptClient]
    split <;> simp [takesUp, committed]
  | recv =>
    simp only [receive]
    split <;> split <;> simp [takesUp, committed]
  | process =>
    simp only [process]
    split <;> simp [takesUp, committed]
  | respond response after =>
    simp only [respond]
    cases after <;> dsimp only <;> split <;> simp [takesUp, committed, requestDone]
  | startCheck =>
    simp only [startCheck]
    repeat' split
    all_goals simp [takesUp, committed, requestDone]
  | create =>
    simp only [createThread]
    split <;> simp [takesUp, committed, requestDone]
  | stopFlags after =>
    obtain ⟨session, -, -, hstop⟩ := stopFlags_cases s after
    dsimp only
    rw [hstop]
    split
    · simp [committed]
    · rw [(committed_afterStop _ after).1, (committed_afterStop _ after).2]
      exact Nat.zero_le _
  | join after =>
    simp only [join]
    repeat' split
    all_goals simp [takesUp, committed, hpc]
  | joined after =>
    dsimp only
    rw [(committed_afterStop _ after).1, (committed_afterStop _ after).2]
    exact Nat.zero_le _
  | closeMedia =>
    simp only [closeMedia]
    split <;> simp [takesUp, committed, List.countP_eq_zero]
  | serverHead | clientHead => simp [hset, committed]
  | cleanup =>
    dsimp only
    split <;> simp [committed]
  | startFail | closeClient | leave | returned => simp [takesUp, committed, startFail, hpc]

theorem mediaStep_committed (answers : ThreadAnswers) (s : Server) :
    (mediaStep answers s).2.countP takesUp = 0 ∧ (mediaStep answers s).1.pc = s.pc := by
  unfold mediaStep
  split
  · exact ⟨rfl, rfl⟩
  · refine ⟨?_, rfl⟩
    dsimp only
    split <;> simp [takesUp, List.countP_eq_zero]

/-- **What a signal leaves** to be taken up: with what has been taken up since, one thing at most. -/
def Prompt (h : History Serving ServeEvent) : Prop :=
  ∀ before signal after, h.events = before ++ .raised signal :: after →
    (serverEvents after).countP takesUp + committed h.state.server.pc ≤ 1

/-- A step at which nothing is signalled. -/
theorem Prompt.append {p' : Serving} {events : List ServerEvent} (hp : Prompt h)
    (hstep : (∃ signal, .raised signal ∈ h.events) →
      events.countP takesUp + committed p'.server.pc ≤ committed h.state.server.pc) :
    Prompt ⟨p', h.events ++ events.map .server⟩ := by
  intro before signal after heq
  rcases append_eq_append_cons_cases heq with ⟨rest, hevents, rfl⟩ | ⟨rest, -, hrest⟩
  · have hbefore := hp before signal rest hevents
    have hnext := hstep ⟨signal, by rw [hevents]; simp⟩
    rw [serverEvents_append, serverEvents_server, List.countP_append]
    dsimp only
    omega
  · have hmem : .raised signal ∈ events.map ServeEvent.server := by
      rw [hrest]
      simp
    simp at hmem

theorem serveStep_prompt (config : RTSPServerConfig) (hflag : config.stopFlag = true) (move : ServeMove)
    (hi : SignalInv h) (hp : Prompt h) : Prompt (advance (serveStep config) h move) := by
  have hcase := serveStep_cases config move h.state
  unfold advance
  generalize serveStep config move h.state = r at hcase ⊢
  cases hcase with
  | signal signal =>
    intro before signal' after heq
    rcases append_eq_append_cons_cases heq with ⟨rest, hevents, rfl⟩ | ⟨rest, -, hrest⟩
    · have hsame : serverEvents (rest ++ [.raised signal]) = serverEvents rest := by
        rw [serverEvents_append]
        exact List.append_nil _
      rw [hsame]
      exact hp before signal' rest hevents
    · obtain rfl : after = [] := by
        have hlength := congrArg List.length hrest
        simp only [List.length_cons, List.length_nil, List.length_append] at hlength
        exact List.eq_nil_of_length_eq_zero (by omega)
      simpa [serverEvents] using committed_le_one _
  | write which =>
    have hnext : Prompt ⟨{ h.state with signals := h.state.signals.write which }, h.events ++ [].map .server⟩ :=
      hp.append fun _ => by simp
    exact hnext
  | blocked _ _ _ => simpa using hp
  | control answers _ _ hmoved =>
    rw [hmoved.events]
    refine hp.append fun ⟨signal, hraised⟩ => ?_
    rw [hmoved.server]
    exact controlStep_committed config _ _ (by simp [stopRequested, hflag, Serving.answers, hi.raised signal hraised])
  | media answers hmoved =>
    rw [hmoved.events]
    refine hp.append fun _ => ?_
    rw [hmoved.server, serverStep, (mediaStep_committed answers _).1, (mediaStep_committed answers _).2, Nat.zero_add]

/-- **The server stops promptly**: from the moment on at which the handler has set the flag, it accepts one more client
or processes one more request, and never both. -/
theorem serveRun_prompt (config : RTSPServerConfig) (hflag : config.stopFlag = true) (moves : List ServeMove)
    {before after : List ServeEvent} {signal : StopSignal}
    (hraised : (serveRun config moves).events = before ++ .raised signal :: after) :
    (serverEvents after).countP takesUp ≤ 1 := by
  have hprompt : SignalInv (serveRun config moves) ∧ Prompt (serveRun config moves) :=
    run_induction (serveStep config) (P := fun h => SignalInv h ∧ Prompt h)
      ⟨signalInv_start, fun before _ _ heq => by simp at heq⟩ fun _ move _ hi =>
        ⟨serveStep_signalInv config hflag move hi.1, serveStep_prompt config hflag move hi.1 hi.2⟩
  have hbound := hprompt.2 before signal after hraised
  omega

/-- `SIGTERM` comes when the server is about to call `poll`; a client comes before the handler writes. -/
def signalledWaiting : List ServeMove :=
  List.replicate 3 (.control (answering []) []) ++ [.signal .terminate] ++
    List.replicate 2 (.control (answering []) []) ++ [.write 0] ++ List.replicate 8 (.control (answering []) [])

theorem serveRun_prompt_waiting :
    .server (.connected ⟨10, 0, 0, 2⟩) ∈ (serveRun (pipeConfig true) signalledWaiting).events.drop 13 ∧
      (serverEvents ((serveRun (pipeConfig true) signalledWaiting).events.drop 13)).countP takesUp ≤ 1 := by
  have hraised : (serveRun (pipeConfig true) signalledWaiting).events =
      (serveRun (pipeConfig true) signalledWaiting).events.take 12 ++
        .raised .terminate :: (serveRun (pipeConfig true) signalledWaiting).events.drop 13 := by
    decide +kernel
  exact ⟨by decide +kernel, serveRun_prompt (pipeConfig true) rfl signalledWaiting hraised⟩

end MiniRtsp.Process
