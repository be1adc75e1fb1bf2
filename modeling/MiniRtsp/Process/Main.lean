import MiniRtsp.Process.CommandLine
import MiniRtsp.Process.Signals
import MiniRtsp.Rtsp.Resources

/-!
# The whole process

`main` behind its option loop: the handlers are installed, RKAIQ is started, the server runs, RKAIQ is destroyed, the
pipe is closed (`mainStep`); signals, the media thread and the callbacks of RKAIQ come in between. The server runs only
while RKAIQ does, and RKAIQ is stopped only when the server has closed camera, encoder and media thread, as the comment
in `main` says (`mainRun_orderly`).
-/

namespace MiniRtsp.Process

open Ledger Log Rtsp Isp Trace

/-! ## States and steps -/

inductive MainPc where
  | install
  | createIsp
  | startIsp
  | serve
  /-- `isp_control_destroy`, with what `main` will return. -/
  | destroyIsp (code : Int)
  | closePipe (code : Int)
  | exit (code : Int)
  | exited
  deriving DecidableEq, Repr

/-- `main`, what the handlers and the server share with it, and RKAIQ. -/
structure Main where
  pc : MainPc
  /-- `g_signal_pipe`, unless it is `{-1, -1}`. -/
  signalPipe : Option (Nat × Nat)
  isps : Isps
  /-- `isp` -/
  isp : Option Nat
  serving : Serving

inductive MainEvent where
  | pipe (u : Use Resource)
  | isp (e : IspEvent)
  | serve (e : ServeEvent)
  | exited (code : Int)
  deriving DecidableEq

/-- What the outside answers to a step of `main`. -/
structure MainAnswers where
  pipe : Option (Nat × Nat)
  fcntl : Bool
  sigaction : Bool
  isp : IspAnswers
  server : ServerAnswers
  /-- In `drain_stop_fd`: which calls of `read` fail. -/
  reads : List Bool

inductive MainMove where
  | control (answers : MainAnswers)
  | signal (signal : StopSignal)
  | write (which : Nat)
  | media (answers : ThreadAnswers)
  | sof
  | error (bypass : Bool)

def exitSuccess : Int := 0
def exitFailure : Int := 1

/-- `install_signal_handlers`. -/
def installSignalHandlers (settings : Settings) (answers : MainAnswers) (s : Main) : Main × List MainEvent :=
  match answers.pipe with
  | none => ({ s with pc := .closePipe exitFailure }, [])
  | some (r, w) =>
    let ok := answers.fcntl && answers.sigaction
    let next := if settings.aiqEnabled then .createIsp else .serve
    ({ s with signalPipe := some (r, w), pc := if ok then next else .closePipe exitFailure },
      [.pipe (opened r), .pipe (opened w)])

/-- `isp_control_create` in `main`. -/
def createIsp (settings : Settings) (answers : MainAnswers) (s : Main) : Main × List MainEvent :=
  let (isps, events, isp) := ispControlCreate answers.isp (some settings.ispConfig) s.isps
  ({ s with isps := isps, isp := isp, pc := if isp.isSome then .startIsp else .closePipe exitFailure },
    events.map .isp)

/-- What `isp_control_start` returns. -/
def startResult (answers : MainAnswers) (s : Main) : Int :=
  match s.isps.get s.isp with
  | none => -1
  | some c => (ispControlStart answers.isp c).2.2

/-- `isp_control_start` in `main`. -/
def startIsp (answers : MainAnswers) (s : Main) : Main × List MainEvent :=
  let (isps, events) := ispStep (.start answers.isp s.isp) s.isps
  ({ s with isps := isps, pc := if startResult answers s = 0 then .serve else .destroyIsp exitFailure },
    events.map .isp)

/-- A step beside `main`, or of the server in it. -/
def servingStep (settings : Settings) (move : ServeMove) (s : Main) : Main × List MainEvent :=
  let (serving, events) := serveStep settings.serverConfig move s.serving
  ({ s with serving := serving }, events.map .serve)

/-- A step of `rtsp_server_run`, or what `main` does with its result. -/
def serve (settings : Settings) (answers : MainAnswers) (s : Main) : Main × List MainEvent :=
  if s.serving.server.pc = .returned then
    ({ s with pc := .destroyIsp (if s.serving.server.status = 0 then exitSuccess else exitFailure) }, [])
  else servingStep settings (.control answers.server answers.reads) s

/-- `isp_control_destroy` in `main`. -/
def destroyIsp (answers : MainAnswers) (code : Int) (s : Main) : Main × List MainEvent :=
  let (isps, events) := ispStep (.destroy answers.isp s.isp) s.isps
  ({ s with isps := isps, isp := none, pc := .closePipe code }, events.map .isp)

/-- `close_signal_pipe`. -/
def closeSignalPipe (code : Int) (s : Main) : Main × List MainEvent :=
  ({ s with signalPipe := none, pc := .exit code },
    match s.signalPipe with
    | none => []
    | some (r, w) => [.pipe (closed r), .pipe (closed w)])

/-- A callback of RKAIQ. -/
def callback (move : IspMove) (s : Main) : Main × List MainEvent :=
  let (isps, events) := ispStep move s.isps
  ({ s with isps := isps }, events.map .isp)

/-- **A step of the process.** -/
def mainStep (settings : Settings) : MainMove → Main → Main × List MainEvent
  | .control answers, s =>
    match s.pc with
    | .install => installSignalHandlers settings answers s
    | .createIsp => createIsp settings answers s
    | .startIsp => startIsp answers s
    | .serve => serve settings answers s
    | .destroyIsp code => destroyIsp answers code s
    | .closePipe code => closeSignalPipe code s
    | .exit code => ({ s with pc := .exited }, [.exited code])
    | .exited => (s, [])
  | .signal signal, s => if s.signalPipe.isSome then servingStep settings (.signal signal) s else (s, [])
  | .write which, s => if s.signalPipe.isSome then servingStep settings (.write which) s else (s, [])
  | .media answers, s => servingStep settings (.media answers) s
  | .sof, s => if s.pc = .exited then (s, []) else callback .sof s
  | .error bypass, s => if s.pc = .exited then (s, []) else callback (.error bypass) s

def Main.start : Main :=
  { pc := .install, signalPipe := none, isps := .start, isp := none, serving := .start noSignal }

def mainRun (settings : Settings) (moves : List MainMove) : History Main MainEvent := run (mainStep settings) .start moves

/-! ## What the events say -/

def serveEvents (events : List MainEvent) : List ServeEvent :=
  events.filterMap fun e => match e with
    | .serve e => some e
    | _ => none

def ispEvents (events : List MainEvent) : List IspEvent :=
  events.filterMap fun e => match e with
    | .isp e => some e
    | _ => none

def pipeUses (events : List MainEvent) : List (Use Resource) :=
  events.filterMap fun e => match e with
    | .pipe u => some u
    | _ => none

/-- What the server in the process did. -/
def served (events : List MainEvent) : List ServerEvent := serverEvents (serveEvents events)

/-- There is no media thread, and the server has given back what it took, but for what it does with the descriptors
where the listening socket fails. -/
def ServerClosed (events : List ServerEvent) : Prop :=
  threadOf events = .none ∧
    (Settled (resourceUses events) ∨ ∃ fd, resourceUses events = [opened fd, closed 0, closed fd])

/-- **The order of the process**: the server moves only while RKAIQ runs, if it is enabled; RKAIQ is stopped and
deinitialized only when the server has closed everything; when `main` returns everything has been given back, it
returns 0 only if the server did, and it does nothing more. -/
def InOrder (settings : Settings) (before : List MainEvent) (e : MainEvent) : Prop :=
  (∀ code, .exited code ∉ before) ∧
  match e with
  | .serve (.server _) => settings.aiqEnabled = true → ∃ id, phaseOf id (ispEvents before) = some .running
  | .isp (.aiq _ (.stop _)) | .isp (.aiq _ .deinit) => ServerClosed (served before)
  | .exited code => ServerClosed (served before) ∧ Settled (ispUses (ispEvents before)) ∧ Settled (pipeUses before) ∧
      (code = 0 → .returned 0 ∈ served before)
  | _ => True

section Projections

variable (es fs : List MainEvent)

theorem serveEvents_append : serveEvents (es ++ fs) = serveEvents es ++ serveEvents fs := List.filterMap_append

theorem ispEvents_append : ispEvents (es ++ fs) = ispEvents es ++ ispEvents fs := List.filterMap_append

theorem pipeUses_append : pipeUses (es ++ fs) = pipeUses es ++ pipeUses fs := List.filterMap_append

theorem served_append : served (es ++ fs) = served es ++ served fs := by
  rw [served, serveEvents_append, serverEvents_append, served, served]

theorem serveEvents_isp (es : List IspEvent) : serveEvents (es.map .isp) = [] := filterMap_unseen (fun _ => rfl) es

theorem served_isp (es : List IspEvent) : served (es.map .isp) = [] := by
  rw [served, serveEvents_isp]
  rfl

theorem ispEvents_isp (es : List IspEvent) : ispEvents (es.map .isp) = es := by
  unfold ispEvents
  rw [List.filterMap_map]
  exact List.filterMap_some

theorem pipeUses_isp (es : List IspEvent) : pipeUses (es.map .isp) = [] := filterMap_unseen (fun _ => rfl) es

theorem serveEvents_serve (es : List ServeEvent) : serveEvents (es.map .serve) = es := by
  unfold serveEvents
  rw [List.filterMap_map]
  exact List.filterMap_some

theorem ispEvents_serve (es : List ServeEvent) : ispEvents (es.map .serve) = [] := filterMap_unseen (fun _ => rfl) es

theorem pipeUses_serve (es : List ServeEvent) : pipeUses (es.map .serve) = [] := filterMap_unseen (fun _ => rfl) es

end Projections

/-! ## The server's accounts -/

/-- The server has not begun, or its books are in order, or its listening socket has failed; and when it has returned,
it has said so. -/
def Accounted (h : History Server ServerEvent) : Prop :=
  h = ⟨.start, []⟩ ∨ (Books h ∨ h.state.thread = none ∧ ∃ fd, Broken fd h) ∧
    (h.state.pc = .returned → .returned h.state.status ∈ h.events)

theorem boot_accounted (config : RTSPServerConfig) (answers : ServerAnswers) :
    Books ⟨(boot config answers .start).1, (boot config answers .start).2⟩ ∨
      (boot config answers .start).1.thread = none ∧
        ∃ fd, Broken fd ⟨(boot config answers .start).1, (boot config answers .start).2⟩ := by
  by_cases hlistens : ¬ config.Refused → answers.socket.isSome = true → answers.bind = true ∧ answers.listen = true
  · exact .inl (boot_books config answers hlistens)
  · obtain ⟨hconfig, hrest⟩ := Classical.not_imp.mp hlistens
    obtain ⟨hsocket, hfails⟩ := Classical.not_imp.mp hrest
    obtain ⟨fd, hfd⟩ := Option.isSome_iff_exists.mp hsocket
    have hboot : boot config answers .start =
        ({ Server.start with serverFd := fd, media := .zero, pc := .cleanup }, [.use (opened fd)]) := by
      rw [boot, if_neg hconfig, hfd]
      dsimp only
      rw [if_pos]
      cases hbind : answers.bind with
      | false => exact .inl rfl
      | true => exact .inr (by simpa [hbind] using hfails)
    rw [hboot]
    exact .inr ⟨rfl, fd, .inl ⟨.inl rfl, rfl, rfl, rfl⟩⟩

/-- The server says what it returns. -/
theorem controlStep_reports (config : RTSPServerConfig) (answers : ServerAnswers) {h : History Server ServerEvent}
    (hi : Inv False False h) (hboot : h.state.pc ≠ .boot)
    (hpc : (controlStep config answers h.state).1.pc = .returned) :
    h.state.pc = .returned ∧ controlStep config answers h.state = (h.state, []) ∨
      .returned (controlStep config answers h.state).1.status ∈ (controlStep config answers h.state).2 := by
  by_cases hreturned : h.state.pc = .returned
  · exact .inl ⟨hreturned, by simp only [controlStep, hreturned]⟩
  by_cases hclose : h.state.pc = .closeMedia
  · simp only [controlStep, hclose, closeMedia]
    exact .inr (by simp)
  -- from everywhere else it does not return
  exfalso
  by_cases haccept : h.state.pc = .accept
  · simp only [controlStep, haccept, acceptClient] at hpc
    split at hpc <;> cases hpc
  · by_cases hclient : h.state.pc = .closeClient
    · simp only [controlStep, hclient] at hpc
      cases hpc
    · exact (controlStep_beside config answers hi ⟨hboot, haccept, hclient, hclose⟩ hreturned).2.1 hpc

theorem boot_reports (config : RTSPServerConfig) (answers : ServerAnswers)
    (hpc : (boot config answers .start).1.pc = .returned) :
    .returned (boot config answers .start).1.status ∈ (boot config answers .start).2 := by
  unfold boot at hpc ⊢
  split
  · simp [Server.start]
  · rename_i hconfig
    rw [if_neg hconfig] at hpc
    cases hsocket : answers.socket with
    | none => simp [Server.start]
    | some fd =>
      rw [hsocket] at hpc
      dsimp only at hpc
      split at hpc
      · cases hpc
      · dsimp only at hpc
        split at hpc <;> cases hpc

/-- **Every step** keeps the server's accounts. -/
theorem serverStep_accounted (config : RTSPServerConfig) (move : Move) {h : History Server ServerEvent}
    (hi : Inv False False h) (ha : Accounted h) : Accounted (advance (serverStep config) h move) := by
  rcases ha with rfl | ⟨haccounts, hreports⟩
  · cases move with
    | media answers => exact .inl rfl
    | control answers => exact .inr ⟨boot_accounted config answers, boot_reports config answers⟩
  · have hboot : h.state.pc ≠ .boot := by
      intro hpc
      rcases haccounts with (ho | ⟨hreturned, -⟩) | ⟨-, fd, ⟨hwhere | hwhere, -⟩ | ⟨hwhere, -⟩⟩
      · exact ho.booted hpc
      · rw [hpc] at hreturned; cases hreturned
      · rw [hpc] at hwhere; cases hwhere
      · rw [hpc] at hwhere; cases hwhere
      · rw [hpc] at hwhere; cases hwhere
    refine .inr ⟨?_, fun hpc => ?_⟩
    · rcases haccounts with hbooks | ⟨hthread, fd, hbroken⟩
      · exact .inl (serverStep_books config move hi hbooks)
      · obtain ⟨hthread', hbroken'⟩ := serverStep_broken config move hthread hbroken
        exact .inr ⟨hthread', fd, hbroken'⟩
    · cases move with
      | control answers =>
        rcases controlStep_reports config answers hi hboot hpc with ⟨hreturned, hstays⟩ | hevent
        · simp only [advance, serverStep, hstays]
          exact List.mem_append_left _ (hreports hreturned)
        · exact List.mem_append_right _ hevent
      | media answers =>
        have hsame : (mediaStep answers h.state).1.pc = h.state.pc ∧
            (mediaStep answers h.state).1.status = h.state.status := by
          unfold mediaStep
          split <;> exact ⟨rfl, rfl⟩
        simp only [advance, serverStep] at hpc ⊢
        rw [hsame.2]
        exact List.mem_append_left _ (hreports (hsame.1.symm.trans hpc))

/-- **A server that has returned** has closed everything. -/
theorem Accounted.closed {h : History Server ServerEvent} (hi : Inv False False h) (ha : Accounted h)
    (hpc : h.state.pc = .returned) : ServerClosed h.events ∧ .returned h.state.status ∈ h.events := by
  rcases ha with rfl | ⟨haccounts, hreports⟩
  · cases hpc
  · refine ⟨⟨?_, ?_⟩, hreports hpc⟩
    · have hflags := hi.flags
      rw [hpc] at hflags
      rw [hi.status, Server.threadStatus, no_thread hflags.2]
    · rcases haccounts with (ho | ⟨-, hheld⟩) | ⟨-, fd, ⟨hwhere | hwhere, -⟩ | ⟨-, huses⟩⟩
      · exact absurd hpc ho.running
      · exact .inl hheld.settled
      · rw [hpc] at hwhere; cases hwhere
      · rw [hpc] at hwhere; cases hwhere
      · exact .inr ⟨fd, huses⟩

theorem serverClosed_nil : ServerClosed [] := ⟨rfl, .inl fun _ => rfl⟩

/-! ## Where the process is -/

section Invariant

variable {settings : Settings} {h : History Main MainEvent}

/-- The part of the process that `rtsp_server_run` is. -/
def servingHistory (h : History Main MainEvent) : History Serving ServeEvent := ⟨h.state.serving, serveEvents h.events⟩

/-- The server has not been called. -/
def Unserved (h : History Main MainEvent) : Prop := serverHistory (servingHistory h) = ⟨.start, []⟩

/-- The server has not been called or has returned; 0 only if it returned 0. -/
def Ended (h : History Main MainEvent) (code : Int) : Prop :=
  (Unserved h ∨ (serverHistory (servingHistory h)).state.pc = .returned) ∧
    (code = 0 → .returned 0 ∈ (serverHistory (servingHistory h)).events)

/-- `isp` is `NULL`, and there is no control. -/
def NoIsp (s : Main) : Prop := s.isps.controls = [] ∧ s.isp = none

/-- `isp` points to the one control there is. -/
def OneIsp (s : Main) (started : Bool) : Prop :=
  ∃ c, s.isps.controls = [c] ∧ s.isp = some c.id ∧ c.started = started

def PlaceOk (settings : Settings) (h : History Main MainEvent) : MainPc → Prop
  | .install => NoIsp h.state ∧ Unserved h ∧ h.state.signalPipe = none
  | .createIsp => settings.aiqEnabled = true ∧ NoIsp h.state ∧ Unserved h
  | .startIsp => settings.aiqEnabled = true ∧ OneIsp h.state false ∧ Unserved h
  | .serve => if settings.aiqEnabled then OneIsp h.state true else NoIsp h.state
  | .destroyIsp code => (NoIsp h.state ∨ ∃ started, OneIsp h.state started) ∧ Ended h code
  | .closePipe code => NoIsp h.state ∧ Ended h code
  | .exit code => NoIsp h.state ∧ Ended h code ∧ h.state.signalPipe = none
  | .exited => NoIsp h.state ∧ Ended h exitFailure ∧ h.state.signalPipe = none

/-- The ends of the pipe. -/
def pipeHeld : Option (Nat × Nat) → Multiset Resource
  | none => 0
  | some (r, w) => .descriptor r ::ₘ .descriptor w ::ₘ 0

/-- **What every step of the process keeps.** -/
structure MainInv (settings : Settings) (h : History Main MainEvent) : Prop where
  signals : SignalInv (servingHistory h)
  accounts : Accounted (serverHistory (servingHistory h))
  isps : IspInv ⟨h.state.isps, ispEvents h.events⟩
  pipe : Holds (pipeUses h.events) (pipeHeld h.state.signalPipe)
  place : PlaceOk settings h h.state.pc
  running : h.state.pc ≠ .exited → ∀ code, .exited code ∉ h.events

theorem mainInv_start (settings : Settings) : MainInv settings ⟨.start, []⟩ :=
  ⟨signalInv_start, .inl rfl, ispInv_start, holds_nil, ⟨⟨rfl, rfl⟩, rfl, rfl⟩, by simp⟩

/-- The server's part of a step beside `main` or in `rtsp_server_run`. -/
theorem serveStep_accounted (config : RTSPServerConfig) (move : ServeMove) {h : History Serving ServeEvent}
    (hi : SignalInv h) (ha : Accounted (serverHistory h)) :
    Accounted (serverHistory (advance (serveStep config) h move)) := by
  have hcase := serveStep_cases config move h.state
  unfold advance
  generalize serveStep config move h.state = r at hcase ⊢
  cases hcase with
  | signal signal =>
    have hsame : serverHistory ⟨{ h.state with signals := h.state.signals.handle signal }, h.events ++ [.raised signal]⟩ =
        serverHistory h := by
      simp only [serverHistory, serverEvents_append]
      exact congrArg _ (List.append_nil _)
    rw [hsame]
    exact ha
  | write | blocked => simpa only [serverHistory, List.append_nil] using ha
  | control answers _ _ hmoved =>
    rw [hmoved.history]
    exact serverStep_accounted config _ hi.stop.inv ha
  | media answers hmoved =>
    rw [hmoved.history]
    exact serverStep_accounted config _ hi.stop.inv ha

/-- The events of RKAIQ at a place where it may be stopped. -/
theorem isp_inOrder (es : List IspEvent) (hrunning : ∀ code, .exited code ∉ h.events)
    (hclosed : ∀ id, (∃ ok, .aiq id (.stop ok) ∈ es) ∨ .aiq id .deinit ∈ es → ServerClosed (served h.events)) :
    Monitored (fun before => InOrder settings (h.events ++ before)) (es.map .isp) := by
  intro before e after heq
  have hbefore : ∃ fs : List IspEvent, before = fs.map .isp := by
    obtain ⟨fs, gs, -, hfs, -⟩ := List.map_eq_append_iff.mp heq
    exact ⟨fs, hfs.symm⟩
  obtain ⟨fs, rfl⟩ := hbefore
  have hmem : e ∈ es.map MainEvent.isp := by rw [heq]; simp
  obtain ⟨x, hx, rfl⟩ := List.mem_map.mp hmem
  refine ⟨fun code => by simpa using hrunning code, ?_⟩
  have hsame : served (h.events ++ fs.map .isp) = served h.events := by
    rw [served_append, served_isp, List.append_nil]
  cases x with
  | aiq id call =>
    cases call with
    | stop ok => exact hsame ▸ hclosed id (.inl ⟨ok, hx⟩)
    | deinit => exact hsame ▸ hclosed id (.inr hx)
    | _ => trivial
  | _ => trivial

/-- What a place depends on. -/
theorem PlaceOk.same {h' : History Main MainEvent} {pc : MainPc} (hplace : PlaceOk settings h pc)
    (hcontrols : h'.state.isps.controls = h.state.isps.controls) (hisp : h'.state.isp = h.state.isp)
    (hpipe : h'.state.signalPipe = h.state.signalPipe)
    (hserver : serverHistory (servingHistory h') = serverHistory (servingHistory h)) : PlaceOk settings h' pc := by
  have hno : NoIsp h'.state = NoIsp h.state := by rw [NoIsp, hcontrols, hisp, NoIsp]
  have hone : ∀ started, OneIsp h'.state started = OneIsp h.state started := fun started => by
    rw [OneIsp, hcontrols, hisp, OneIsp]
  have hunserved : Unserved h' = Unserved h := by rw [Unserved, hserver, Unserved]
  have hended : ∀ code, Ended h' code = Ended h code := fun code => by rw [Ended, hunserved, hserver, Ended]
  cases pc <;> simp only [PlaceOk, hno, hone, hunserved, hended, hpipe] at hplace ⊢ <;> exact hplace

/-- A step of a handler, of the server or of its media thread. -/
theorem MainInv.serving (hi : MainInv settings h) (move : ServeMove)
    (hplace : PlaceOk settings (advance (fun _ => servingStep settings move) h ()) h.state.pc)
    (hrunning : h.state.pc = .exited → (serveStep settings.serverConfig move h.state.serving).2 = [])
    (haiq : ∀ e, .server e ∈ (serveStep settings.serverConfig move h.state.serving).2 → settings.aiqEnabled = true →
      ∃ id, phaseOf id (ispEvents h.events) = some .running) :
    MainInv settings (advance (fun _ => servingStep settings move) h ()) ∧
      Monitored (fun before => InOrder settings (h.events ++ before)) (servingStep settings move h.state).2 := by
  have hhistory : servingHistory (advance (fun _ => servingStep settings move) h ()) =
      advance (serveStep settings.serverConfig) (servingHistory h) move := by
    simp only [servingHistory, advance, servingStep, serveEvents_append, serveEvents_serve]
  refine ⟨⟨?_, ?_, ?_, ?_, hplace, ?_⟩, ?_⟩
  · rw [hhistory]
    exact serveStep_signalInv settings.serverConfig rfl move hi.signals
  · rw [hhistory]
    exact serveStep_accounted settings.serverConfig move hi.signals hi.accounts
  · simpa only [advance, servingStep, ispEvents_append, ispEvents_serve, List.append_nil] using hi.isps
  · simpa only [advance, servingStep, pipeUses_append, pipeUses_serve, List.append_nil] using hi.pipe
  · intro hpc code
    simp only [advance, servingStep, List.mem_append, not_or]
    exact ⟨hi.running hpc code, by simp⟩
  · intro before e after heq
    have hbefore : ∃ fs : List ServeEvent, before = fs.map .serve := by
      obtain ⟨fs, gs, -, hfs, -⟩ := List.map_eq_append_iff.mp heq
      exact ⟨fs, hfs.symm⟩
    obtain ⟨fs, rfl⟩ := hbefore
    have hmem : e ∈ (servingStep settings move h.state).2 := by rw [heq]; simp
    obtain ⟨x, hx, rfl⟩ := List.mem_map.mp hmem
    replace hx : x ∈ (serveStep settings.serverConfig move h.state.serving).2 := hx
    have hpc : h.state.pc ≠ .exited := by
      intro hpc
      rw [hrunning hpc] at hx
      cases hx
    refine ⟨fun code => by simpa using hi.running hpc code, ?_⟩
    cases x with
    | raised => trivial
    | server x =>
      dsimp only
      rw [ispEvents_append, ispEvents_serve, List.append_nil]
      exact haiq x hx

/-- A signal or a write of a handler is nothing to the server. -/
theorem MainInv.handler (hi : MainInv settings h) {move : ServeMove}
    (hmove : (∃ signal, move = .signal signal) ∨ ∃ which, move = .write which) (hpc : h.state.pc ≠ .exited) :
    MainInv settings (advance (fun _ => servingStep settings move) h ()) ∧
      Monitored (fun before => InOrder settings (h.events ++ before)) (servingStep settings move h.state).2 := by
  refine hi.serving move (hi.place.same rfl rfl rfl ?_) (fun h => absurd h hpc) ?_
  · rcases hmove with ⟨signal, rfl⟩ | ⟨which, rfl⟩ <;>
      simp [serverHistory, servingHistory, advance, servingStep, serveStep, serverEvents, ServeEvent.server?, serveEvents]
  · rcases hmove with ⟨signal, rfl⟩ | ⟨which, rfl⟩ <;> simp [serveStep]

/-- RKAIQ runs while the server does. -/
theorem MainInv.aiq_running (hi : MainInv settings h) (hpc : h.state.pc = .serve) (haiq : settings.aiqEnabled = true) :
    ∃ id, phaseOf id (ispEvents h.events) = some .running := by
  have hplace := hi.place
  rw [hpc] at hplace
  simp only [PlaceOk, haiq, if_true] at hplace
  obtain ⟨c, hcontrols, -, hstarted⟩ := hplace
  obtain ⟨-, hphase⟩ := hi.isps.live c (by simp [hcontrols])
  rw [hstarted, if_pos rfl] at hphase
  exact ⟨c.id, hphase⟩

/-- A place where the server is not running. -/
theorem PlaceOk.rest {pc : MainPc} (hplace : PlaceOk settings h pc) (hpc : pc ≠ .serve) :
    Unserved h ∨ (serverHistory (servingHistory h)).state.pc = .returned := by
  cases pc with
  | install => exact .inl hplace.2.1
  | createIsp | startIsp => exact .inl hplace.2.2
  | serve => exact absurd rfl hpc
  | destroyIsp _ | closePipe _ => exact hplace.2.1
  | exit _ | exited => exact hplace.2.1.1

/-- **A server that is at rest** has closed everything. -/
theorem MainInv.atRest (hi : MainInv settings h) (hpc : h.state.pc ≠ .serve) : ServerClosed (served h.events) := by
  rcases hi.place.rest hpc with hunserved | hreturned
  · have hnone : served h.events = [] := congrArg History.events hunserved
    rw [hnone]
    exact serverClosed_nil
  · exact (hi.accounts.closed hi.signals.stop.inv hreturned).1

theorem MainInv.media (hi : MainInv settings h) (answers : ThreadAnswers) :
    MainInv settings (advance (fun _ => servingStep settings (.media answers)) h ()) ∧
      Monitored (fun before => InOrder settings (h.events ++ before)) (servingStep settings (.media answers) h.state).2 := by
  by_cases hpc : h.state.pc = .serve
  · refine hi.serving _ ?_ (fun hexited => by rw [hpc] at hexited; cases hexited) fun _ _ => hi.aiq_running hpc
    have hplace := hi.place
    rw [hpc] at hplace ⊢
    exact hplace
  · -- there is no media thread
    have hthread : h.state.serving.server.thread = none := by
      rcases hi.place.rest hpc with hunserved | hreturned
      · have hstart : h.state.serving.server = .start := congrArg History.state hunserved
        rw [hstart]
        rfl
      · have hflags := hi.signals.stop.inv.flags
        rw [show (serverHistory (servingHistory h)).state.pc = .returned from hreturned] at hflags
        exact no_thread hflags.2
    have hstep : serveStep settings.serverConfig (.media answers) h.state.serving = (h.state.serving, []) := by
      simp only [serveStep, mediaStep, hthread, List.map_nil]
    refine hi.serving _ (hi.place.same rfl rfl rfl ?_) (fun _ => by rw [hstep]) fun e he => ?_
    · simp [serverHistory, servingHistory, advance, servingStep, hstep]
    · rw [hstep] at he
      cases he

/-! ## Steps of `main` -/

/-- A step of RKAIQ, called by `main` or calling back. -/
theorem MainInv.ispCall (hi : MainInv settings h) {isps : Isps} {isp : Option Nat} {pc : MainPc} {es : List IspEvent}
    (hpc : h.state.pc ≠ .exited) (hisps : IspInv ⟨isps, ispEvents h.events ++ es⟩)
    (hplace : PlaceOk settings ⟨{ h.state with isps := isps, isp := isp, pc := pc }, h.events ++ es.map .isp⟩ pc)
    (hclosed : ∀ id, (∃ ok, .aiq id (.stop ok) ∈ es) ∨ .aiq id .deinit ∈ es → ServerClosed (served h.events)) :
    MainInv settings ⟨{ h.state with isps := isps, isp := isp, pc := pc }, h.events ++ es.map .isp⟩ ∧
      Monitored (fun before => InOrder settings (h.events ++ before)) (es.map .isp) := by
  have hhistory : servingHistory ⟨{ h.state with isps := isps, isp := isp, pc := pc }, h.events ++ es.map .isp⟩ =
      servingHistory h := by
    simp only [servingHistory, serveEvents_append, serveEvents_isp, List.append_nil]
  refine ⟨⟨?_, ?_, ?_, ?_, hplace, fun _ code => ?_⟩, isp_inOrder es (hi.running hpc) hclosed⟩
  · rw [hhistory]
    exact hi.signals
  · rw [hhistory]
    exact hi.accounts
  · rw [ispEvents_append, ispEvents_isp]
    exact hisps
  · rw [pipeUses_append, pipeUses_isp, List.append_nil]
    exact hi.pipe
  · simp only [List.mem_append, not_or]
    exact ⟨hi.running hpc code, by simp⟩

/-- Calls of RKAIQ are nothing to the server. -/
theorem servingHistory_isp {s : Main} (hs : s.serving = h.state.serving) (es : List IspEvent) :
    servingHistory ⟨s, h.events ++ es.map .isp⟩ = servingHistory h := by
  simp only [servingHistory, hs, serveEvents_append, serveEvents_isp, List.append_nil]

theorem Unserved.isp {s : Main} (hu : Unserved h) (hs : s.serving = h.state.serving) (es : List IspEvent) :
    Unserved ⟨s, h.events ++ es.map .isp⟩ := by
  rw [Unserved, servingHistory_isp hs]
  exact hu

theorem Ended.isp {s : Main} {code : Int} (he : Ended h code) (hs : s.serving = h.state.serving) (es : List IspEvent) :
    Ended ⟨s, h.events ++ es.map .isp⟩ code := by
  rw [Ended, Unserved, servingHistory_isp hs]
  exact he

theorem Unserved.ended (hu : Unserved h) : Ended h exitFailure := ⟨.inl hu, by simp [exitFailure]⟩

theorem MainInv.createIsp (hi : MainInv settings h) (hpc : h.state.pc = .createIsp) (answers : MainAnswers) :
    MainInv settings ⟨(createIsp settings answers h.state).1, h.events ++ (createIsp settings answers h.state).2⟩ ∧
      Monitored (fun before => InOrder settings (h.events ++ before)) (Process.createIsp settings answers h.state).2 := by
  have hplace := hi.place
  rw [hpc] at hplace
  obtain ⟨haiq, ⟨hcontrols, -⟩, hunserved⟩ := hplace
  have hinv := ispStep_inv (.create answers.isp (some settings.ispConfig)) hi.isps
  have hnever : ServerClosed (served h.events) := hi.atRest (by rw [hpc]; simp)
  rcases ispControlCreate_cases answers.isp (some settings.ispConfig) h.state.isps with ⟨hnone, hfails⟩ | ⟨c, hc, hcreates⟩
  · unfold Process.createIsp
    dsimp only
    rw [hnone]
    refine hi.ispCall (by rw [hpc]; simp) hinv ⟨⟨?_, rfl⟩, (hunserved.isp rfl _).ended⟩ fun _ _ => hnever
    exact hfails.controls.trans hcontrols
  · unfold Process.createIsp
    dsimp only
    rw [hc]
    refine hi.ispCall (by rw [hpc]; simp) hinv ⟨haiq, ⟨c, ?_, rfl, hcreates.started⟩, hunserved.isp rfl _⟩
      fun _ _ => hnever
    dsimp only
    rw [hcreates.state, hcontrols]

theorem MainInv.startIsp (hi : MainInv settings h) (hpc : h.state.pc = .startIsp) (answers : MainAnswers) :
    MainInv settings ⟨(startIsp answers h.state).1, h.events ++ (startIsp answers h.state).2⟩ ∧
      Monitored (fun before => InOrder settings (h.events ++ before)) (Process.startIsp answers h.state).2 := by
  have hplace := hi.place
  rw [hpc] at hplace
  obtain ⟨haiq, ⟨c, hcontrols, hisp, -⟩, hunserved⟩ := hplace
  have hinv := ispStep_inv (.start answers.isp h.state.isp) hi.isps
  have hnever : ServerClosed (served h.events) := hi.atRest (by rw [hpc]; simp)
  have hget : h.state.isps.get h.state.isp = some c := hisp ▸ Isps.get_single hcontrols
  have hlive := hi.isps.live c (by simp [hcontrols])
  obtain ⟨-, hid, -, -⟩ := ispControlStart_spec answers.isp hlive
  have hone : (ispStep (.start answers.isp h.state.isp) h.state.isps).1.controls = [(ispControlStart answers.isp c).1] := by
    simp only [ispStep, hget, Isps.put, hcontrols, hid, List.map_cons, List.map_nil, if_true]
  unfold Process.startIsp
  dsimp only
  split
  · rename_i hresult
    refine hi.ispCall (by rw [hpc]; simp) hinv ?_ fun _ _ => hnever
    simp only [PlaceOk, haiq, if_true]
    simp only [startResult, hget] at hresult
    exact ⟨_, hone, by rw [hid]; exact hisp, ispControlStart_result answers.isp hlive.1 hresult⟩
  · refine hi.ispCall (by rw [hpc]; simp) hinv ⟨.inr ⟨_, _, hone, ?_, rfl⟩, (hunserved.isp rfl _).ended⟩ fun _ _ => hnever
    rw [hid]
    exact hisp

theorem MainInv.destroyIsp (hi : MainInv settings h) {code : Int} (hpc : h.state.pc = .destroyIsp code)
    (answers : MainAnswers) :
    MainInv settings ⟨(destroyIsp answers code h.state).1, h.events ++ (destroyIsp answers code h.state).2⟩ ∧
      Monitored (fun before => InOrder settings (h.events ++ before)) (Process.destroyIsp answers code h.state).2 := by
  have hplace := hi.place
  rw [hpc] at hplace
  obtain ⟨hisps, hended⟩ := hplace
  have hinv := ispStep_inv (.destroy answers.isp h.state.isp) hi.isps
  have hnone : (ispStep (.destroy answers.isp h.state.isp) h.state.isps).1.controls = [] := by
    rcases hisps with ⟨hcontrols, hisp⟩ | ⟨-, c, hcontrols, hisp, -⟩
    · have hget : h.state.isps.get h.state.isp = none := by simp [Isps.get, hcontrols]
      simp only [ispStep, hget, hcontrols]
    · have hget : h.state.isps.get h.state.isp = some c := hisp ▸ Isps.get_single hcontrols
      simp [ispStep, hget, hcontrols]
  exact hi.ispCall (by rw [hpc]; simp) hinv ⟨⟨hnone, rfl⟩, hended.isp rfl _⟩ fun _ _ => hi.atRest (by rw [hpc]; simp)

theorem MainInv.callback (hi : MainInv settings h) {move : IspMove} (hpc : h.state.pc ≠ .exited)
    (hmove : move = .sof ∨ ∃ bypass, move = .error bypass) :
    MainInv settings ⟨(callback move h.state).1, h.events ++ (callback move h.state).2⟩ ∧
      Monitored (fun before => InOrder settings (h.events ++ before)) (Process.callback move h.state).2 := by
  have hinv := ispStep_inv move hi.isps
  have hquiet : (ispStep move h.state.isps).1.controls = h.state.isps.controls ∧
      ∀ e ∈ (ispStep move h.state.isps).2, e = .quitReported := by
    rcases hmove with rfl | ⟨bypass, rfl⟩
    · simp [ispStep]
    · cases bypass <;> simp [ispStep]
  refine hi.ispCall hpc hinv ?_ fun id hstop => ?_
  · exact hi.place.same hquiet.1 rfl rfl (congrArg serverHistory (servingHistory_isp rfl _))
  · rcases hstop with ⟨ok, hstop⟩ | hstop
    · exact absurd (hquiet.2 _ hstop) (by simp)
    · exact absurd (hquiet.2 _ hstop) (by simp)

/-- A step of `main` itself: the handlers' pipe, and the end. -/
theorem MainInv.own (hi : MainInv settings h) {s : Main} {es : List MainEvent} (hserving : s.serving = h.state.serving)
    (hisps : s.isps = h.state.isps) (hserve : serveEvents es = []) (hisp : ispEvents es = [])
    (hpipe : Holds (pipeUses (h.events ++ es)) (pipeHeld s.signalPipe)) (hplace : PlaceOk settings ⟨s, h.events ++ es⟩ s.pc)
    (hrunning : s.pc ≠ .exited → ∀ code, .exited code ∉ h.events ++ es) : MainInv settings ⟨s, h.events ++ es⟩ := by
  have hhistory : servingHistory ⟨s, h.events ++ es⟩ = servingHistory h := by
    simp only [servingHistory, hserving, serveEvents_append, hserve, List.append_nil]
  refine ⟨?_, ?_, ?_, hpipe, hplace, hrunning⟩
  · rw [hhistory]
    exact hi.signals
  · rw [hhistory]
    exact hi.accounts
  · simpa only [hisps, ispEvents_append, hisp, List.append_nil] using hi.isps

theorem Unserved.own {s : Main} {es : List MainEvent} (hu : Unserved h) (hserving : s.serving = h.state.serving)
    (hserve : serveEvents es = []) : Unserved ⟨s, h.events ++ es⟩ := by
  unfold Unserved servingHistory at hu ⊢
  simpa only [hserving, serveEvents_append, hserve, List.append_nil] using hu

theorem Ended.own {s : Main} {es : List MainEvent} {code : Int} (he : Ended h code)
    (hserving : s.serving = h.state.serving) (hserve : serveEvents es = []) : Ended ⟨s, h.events ++ es⟩ code := by
  unfold Ended Unserved servingHistory at he ⊢
  simpa only [hserving, serveEvents_append, hserve, List.append_nil] using he

/-- Events of the pipe are in order before the end. -/
theorem pipe_inOrder (us : List (Use Resource)) (hrunning : ∀ code, .exited code ∉ h.events) :
    Monitored (fun before => InOrder settings (h.events ++ before)) (us.map .pipe) := by
  intro before e after heq
  obtain ⟨fs, gs, -, rfl, hgs⟩ := List.map_eq_append_iff.mp heq
  obtain ⟨u, -, rfl⟩ : ∃ u ∈ us, MainEvent.pipe u = e := List.mem_map.mp (by rw [heq]; simp)
  exact ⟨fun code => by simpa using hrunning code, trivial⟩

theorem MainInv.install (hi : MainInv settings h) (hpc : h.state.pc = .install) (answers : MainAnswers) :
    MainInv settings ⟨(installSignalHandlers settings answers h.state).1,
        h.events ++ (installSignalHandlers settings answers h.state).2⟩ ∧
      Monitored (fun before => InOrder settings (h.events ++ before))
        (installSignalHandlers settings answers h.state).2 := by
  have hplace := hi.place
  rw [hpc] at hplace
  obtain ⟨hnone, hunserved, hclosed⟩ := hplace
  have hrunning := hi.running (by rw [hpc]; simp)
  unfold installSignalHandlers
  cases hpipe : answers.pipe with
  | none =>
    refine ⟨hi.own rfl rfl rfl rfl ?_ ⟨hnone, (hunserved.own rfl rfl).ended⟩ fun _ => by simpa using hrunning,
      monitored_nil⟩
    simpa only [List.append_nil] using hi.pipe
  | some ends =>
    obtain ⟨r, w⟩ := ends
    refine ⟨hi.own rfl rfl rfl rfl ?_ ?_ fun _ code => by simpa using hrunning code,
      pipe_inOrder [opened r, opened w] hrunning⟩
    · have hheld := hi.pipe
      rw [hclosed] at hheld
      have htaken := (moves_acquire (Resource.descriptor r) 0).cons (moves_acquire (Resource.descriptor w) _) _ hheld
      have hends : pipeHeld (some (r, w)) = .descriptor w ::ₘ .descriptor r ::ₘ 0 := by
        rw [pipeHeld, Multiset.cons_swap]
      rw [pipeUses_append, hends]
      exact htaken
    · dsimp only
      split
      · split
        · rename_i haiq
          exact ⟨haiq, hnone, hunserved.own rfl rfl⟩
        · rename_i haiq
          simp only [PlaceOk, haiq, if_false, Bool.false_eq_true]
          exact hnone
      · exact ⟨hnone, (hunserved.own rfl rfl).ended⟩

theorem MainInv.closePipe (hi : MainInv settings h) {code : Int} (hpc : h.state.pc = .closePipe code) :
    MainInv settings ⟨(closeSignalPipe code h.state).1, h.events ++ (closeSignalPipe code h.state).2⟩ ∧
      Monitored (fun before => InOrder settings (h.events ++ before)) (closeSignalPipe code h.state).2 := by
  have hplace := hi.place
  rw [hpc] at hplace
  obtain ⟨hnone, hended⟩ := hplace
  have hrunning := hi.running (by rw [hpc]; simp)
  have hheld := hi.pipe
  unfold closeSignalPipe
  cases hpipe : h.state.signalPipe with
  | none =>
    rw [hpipe] at hheld
    refine ⟨hi.own rfl rfl rfl rfl ?_ ⟨hnone, hended.own rfl rfl, rfl⟩ fun _ => by simpa using hrunning, monitored_nil⟩
    simpa only [List.append_nil] using hheld
  | some ends =>
    obtain ⟨r, w⟩ := ends
    rw [hpipe] at hheld
    refine ⟨hi.own rfl rfl rfl rfl ?_ ⟨hnone, hended.own rfl rfl, rfl⟩ fun _ code => by simpa using hrunning code,
      pipe_inOrder [closed r, closed w] hrunning⟩
    rw [pipeUses_append]
    exact (moves_release (Resource.descriptor r) _).cons (moves_release (Resource.descriptor w) 0) _ hheld

/-- `main` returns. -/
theorem MainInv.exits (hi : MainInv settings h) {code : Int} (hpc : h.state.pc = .exit code) :
    MainInv settings ⟨{ h.state with pc := .exited }, h.events ++ [.exited code]⟩ ∧
      Monitored (fun before => InOrder settings (h.events ++ before)) [MainEvent.exited code] := by
  have hplace := hi.place
  rw [hpc] at hplace
  obtain ⟨hnone, hended, hpipe⟩ := hplace
  have hrunning := hi.running (by rw [hpc]; simp)
  constructor
  · refine hi.own rfl rfl rfl rfl ?_ ⟨hnone, ?_, hpipe⟩ fun hne => absurd rfl hne
    · rw [pipeUses_append]
      exact (List.append_nil (pipeUses h.events)).symm ▸ hi.pipe
    · have hlast : Ended ⟨{ h.state with pc := .exited }, h.events ++ [.exited code]⟩ code := hended.own rfl rfl
      exact ⟨hlast.1, by simp [exitFailure]⟩
  · refine monitored_cons.mpr ⟨?_, monitored_nil⟩
    rw [List.append_nil]
    refine ⟨hrunning, hi.atRest (by rw [hpc]; simp), ?_, ?_, hended.2⟩
    · have hheld := hi.isps.held
      simp only [Isps.held, hnone.1, List.map_nil, List.sum_nil] at hheld
      exact hheld.settled
    · have hheld := hi.pipe
      rw [hpipe] at hheld
      exact hheld.settled

/-- A step in `rtsp_server_run`, or behind it. -/
theorem MainInv.serves (hi : MainInv settings h) (hpc : h.state.pc = .serve) (answers : MainAnswers) :
    MainInv settings ⟨(serve settings answers h.state).1, h.events ++ (serve settings answers h.state).2⟩ ∧
      Monitored (fun before => InOrder settings (h.events ++ before)) (serve settings answers h.state).2 := by
  have hplace := hi.place
  rw [hpc] at hplace
  unfold serve
  split
  · rename_i hreturned
    refine ⟨hi.own rfl rfl rfl rfl (by simpa using hi.pipe) ⟨?_, ?_⟩ fun _ => by simpa using hi.running (by rw [hpc]; simp),
      monitored_nil⟩
    · simp only [PlaceOk] at hplace
      split at hplace
      · exact .inr ⟨true, hplace⟩
      · exact .inl hplace
    · have hsaid := (hi.accounts.closed hi.signals.stop.inv hreturned).2
      have hended : Ended h (if h.state.serving.server.status = 0 then exitSuccess else exitFailure) := by
        refine ⟨.inr hreturned, fun hzero => ?_⟩
        split at hzero
        · rename_i hstatus
          have hsame : (serverHistory (servingHistory h)).state.status = 0 := hstatus
          rwa [hsame] at hsaid
        · simp [exitFailure] at hzero
      exact hended.own rfl rfl
  · refine hi.serving _ ?_ (fun hexited => by rw [hpc] at hexited; cases hexited) fun _ _ => hi.aiq_running hpc
    rw [hpc]
    exact hplace

/-- **Every step** keeps the process in order. -/
theorem mainStep_inv (move : MainMove) (hi : MainInv settings h) :
    MainInv settings (advance (mainStep settings) h move) ∧
      Monitored (fun before => InOrder settings (h.events ++ before)) (mainStep settings move h.state).2 := by
  have hstay : MainInv settings ⟨h.state, h.events ++ []⟩ := by simpa using hi
  have hopen : h.state.signalPipe.isSome = true → h.state.pc ≠ .exited := by
    intro hsome hpc
    have hplace := hi.place
    rw [hpc] at hplace
    rw [hplace.2.2] at hsome
    cases hsome
  unfold advance
  cases move with
  | control answers =>
    simp only [mainStep]
    cases hpc : h.state.pc with
    | install => exact hi.install hpc answers
    | createIsp => exact hi.createIsp hpc answers
    | startIsp => exact hi.startIsp hpc answers
    | serve => exact hi.serves hpc answers
    | destroyIsp code => exact hi.destroyIsp hpc answers
    | closePipe code => exact hi.closePipe hpc
    | exit code => exact hi.exits hpc
    | exited => exact ⟨hstay, monitored_nil⟩
  | signal signal =>
    simp only [mainStep]
    split
    · rename_i hsome
      exact hi.handler (.inl ⟨signal, rfl⟩) (hopen hsome)
    · exact ⟨hstay, monitored_nil⟩
  | write which =>
    simp only [mainStep]
    split
    · rename_i hsome
      exact hi.handler (.inr ⟨which, rfl⟩) (hopen hsome)
    · exact ⟨hstay, monitored_nil⟩
  | media answers => exact hi.media answers
  | sof =>
    simp only [mainStep]
    split
    · exact ⟨hstay, monitored_nil⟩
    · rename_i hpc
      exact hi.callback hpc (.inl rfl)
  | error bypass =>
    simp only [mainStep]
    split
    · exact ⟨hstay, monitored_nil⟩
    · rename_i hpc
      exact hi.callback hpc (.inr ⟨bypass, rfl⟩)

end Invariant

/-! ## Runs -/

/-- What a step of the process is to the server: nothing, or a step of its machine. -/
theorem mainStep_serving (settings : Settings) (h : History Main MainEvent) (move : MainMove) :
    servingHistory (advance (mainStep settings) h move) = servingHistory h ∨
      ∃ m, servingHistory (advance (mainStep settings) h move) =
        advance (serveStep settings.serverConfig) (servingHistory h) m := by
  have hown : ∀ (s : Main) (es : List MainEvent), s.serving = h.state.serving → serveEvents es = [] →
      servingHistory ⟨s, h.events ++ es⟩ = servingHistory h := fun s es hs hes => by
    simp only [servingHistory, hs, serveEvents_append, hes, List.append_nil]
  have hserves : ∀ m, servingHistory ⟨(servingStep settings m h.state).1, h.events ++ (servingStep settings m h.state).2⟩ =
      advance (serveStep settings.serverConfig) (servingHistory h) m := fun m => by
    simp only [servingHistory, advance, servingStep, serveEvents_append, serveEvents_serve]
  unfold advance
  cases move with
  | control answers =>
    simp only [mainStep]
    cases hpc : h.state.pc with
    | install =>
      simp only [installSignalHandlers]
      split <;> exact .inl (hown _ _ rfl rfl)
    | createIsp => exact .inl (hown _ _ rfl (serveEvents_isp _))
    | startIsp => exact .inl (hown _ _ rfl (serveEvents_isp _))
    | serve =>
      simp only [serve]
      split
      · exact .inl (hown _ _ rfl rfl)
      · exact .inr ⟨_, hserves _⟩
    | destroyIsp code => exact .inl (hown _ _ rfl (serveEvents_isp _))
    | closePipe code =>
      simp only [closeSignalPipe]
      split <;> exact .inl (hown _ _ rfl rfl)
    | exit code => exact .inl (hown _ _ rfl rfl)
    | exited => exact .inl (hown _ _ rfl rfl)
  | signal | write =>
    simp only [mainStep]
    split
    · exact .inr ⟨_, hserves _⟩
    · exact .inl (hown _ _ rfl rfl)
  | media answers => exact .inr ⟨_, hserves _⟩
  | sof | error =>
    simp only [mainStep]
    split
    · exact .inl (hown _ _ rfl rfl)
    · exact .inl (hown _ _ rfl (serveEvents_isp _))

/-- **The process keeps its order**, with any settings and whatever the outside answers: RKAIQ is stopped and
deinitialized only when the server has closed its media thread, camera and encoder; the server moves only while RKAIQ
runs, where it is enabled; and when `main` returns, everything has been given back and nothing follows. -/
theorem mainRun_orderly (settings : Settings) (moves : List MainMove) :
    Monitored (InOrder settings) (mainRun settings moves).events :=
  run_monitored (mainStep settings) (mainInv_start settings) fun _ move _ hi => mainStep_inv move hi

/-- **The server in the process** is a server beside the handlers, so that no signal is forgotten in the whole program:
after a reported shutdown no client is accepted, and the server returns nothing but 0. -/
theorem mainRun_shutdown (settings : Settings) (moves : List MainMove) :
    (∃ serveMoves, serveRun settings.serverConfig serveMoves = servingHistory (mainRun settings moves)) ∧
      Monitored AfterShutdown (served (mainRun settings moves).events) := by
  have hrun : ∃ serveMoves, serveRun settings.serverConfig serveMoves = servingHistory (mainRun settings moves) := by
    refine run_induction (mainStep settings)
      (P := fun h => ∃ serveMoves, serveRun settings.serverConfig serveMoves = servingHistory h) ⟨[], rfl⟩ ?_
    rintro past move - ⟨serveMoves, hserve⟩
    rcases mainStep_serving settings (run (mainStep settings) .start past) move with hsame | ⟨m, hstep⟩
    · exact ⟨serveMoves, hserve.trans hsame.symm⟩
    · refine ⟨serveMoves ++ [m], ?_⟩
      rw [hstep, ← hserve, serveRun, run_concat]
      rfl
  refine ⟨hrun, ?_⟩
  obtain ⟨serveMoves, hserve⟩ := hrun
  have hlaw := serveRun_shutdown settings.serverConfig rfl serveMoves
  rw [hserve] at hlaw
  exact hlaw

end MiniRtsp.Process
