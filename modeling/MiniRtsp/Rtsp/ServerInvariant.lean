import MiniRtsp.Rtsp.Server
import MiniRtsp.Rtsp.ThreadFrame

/-!
# The server's invariant

What the events of a run say about the media thread (`threadOf`) and about the connection (`connection`), and what
every reachable state keeps of them (`Inv`): the `thread_running` flag against the thread, the session against its
connection, the socket of the thread against both.
-/

namespace MiniRtsp.Rtsp

open Rtp Trace

/-! ## What the events say -/

inductive ThreadStatus where
  | none
  | live
  | dead
  deriving DecidableEq, Repr

def observeThread : ThreadStatus → ServerEvent → ThreadStatus
  | _, .created => .live
  | _, .threadExited => .dead
  | _, .joined => .none
  | status, _ => status

/-- The media thread: not created or joined, running, or returned but not joined. -/
def threadOf (events : List ServerEvent) : ThreadStatus := events.foldl observeThread .none

/-- A client connection. -/
structure Connection where
  peer : InAddr
  /-- The RTP port of the last SETUP response. -/
  setup : Option Int
  /-- That port at the last PLAY response. -/
  played : Option Int
  /-- `rtsp_media_stop` behind the client loop has returned. -/
  stopped : Bool
  deriving DecidableEq, Repr

def observe : Option Connection → ServerEvent → Option Connection
  | _, .connected peer => some ⟨peer, none, none, false⟩
  | some c, .responded (.setup _ rtp _ _ _ _) => some { c with setup := some rtp }
  | some c, .responded (.play _ _) => some { c with played := c.setup }
  | some c, .sessionStopped => some { c with stopped := true }
  | _, .disconnected => none
  | c, _ => c

/-- The open connection. -/
def connection (events : List ServerEvent) : Option Connection := events.foldl observe none

/-- Events that say nothing about the thread and the connection. -/
def ServerEvent.hidden : ServerEvent → Bool
  | .use _ | .received _ | .requested _ | .examined | .alreadyRunning | .playAccepted _ _ | .media _ | .shutdown
  | .returned _ => true
  | _ => false

theorem observe_hidden {es : List ServerEvent} (h : ∀ e ∈ es, e.hidden = true) (past : List ServerEvent) :
    connection (past ++ es) = connection past ∧ threadOf (past ++ es) = threadOf past := by
  unfold connection threadOf
  rw [List.foldl_append, List.foldl_append]
  generalize past.foldl observe none = c
  generalize past.foldl observeThread .none = status
  induction es with
  | nil => exact ⟨rfl, rfl⟩
  | cons e es ih =>
    have he := h e (by simp)
    have hc : observe c e = c ∧ observeThread status e = status := by
      cases e with
      | use _ | received _ | requested _ | examined | alreadyRunning | playAccepted _ _ | media _ | shutdown
      | returned _ =>
        exact ⟨by cases c <;> rfl, rfl⟩
      | _ => cases he
    rw [List.foldl_cons, List.foldl_cons, hc.1, hc.2]
    exact ih fun x hx => h x (by simp [hx])

theorem connection_concat (past : List ServerEvent) (e : ServerEvent) :
    connection (past ++ [e]) = observe (connection past) e := by
  simp [connection]

theorem threadOf_concat (past : List ServerEvent) (e : ServerEvent) :
    threadOf (past ++ [e]) = observeThread (threadOf past) e := by
  simp [threadOf]

/-! ## Where the server is -/

/-- What `thread_running` and the thread have to do with each other. -/
inductive Zone where
  /-- No thread. -/
  | idle
  /-- A thread if and only if `thread_running` is set. -/
  | serving
  /-- `thread_running` is set, but there is no thread. -/
  | pending
  | joining
  /-- `rtsp_media_close` finds no thread. -/
  | never
  deriving DecidableEq, Repr

def ServerPc.zone : ServerPc → Zone
  | .waitCheck .client | .waitPoll .client | .clientHead | .recv | .process _ | .respond _ _ | .startCheck
  | .stopFlags .teardown | .stopFlags .session => .serving
  | .create | .startFail | .joined .teardown | .joined .session => .pending
  | .join .teardown | .join .session => .joining
  | .join .close | .joined .close => .never
  | _ => .idle

def Zone.Flags : Zone → (running thread : Bool) → Prop
  | .idle, running, thread => running = false ∧ thread = false
  | .serving, running, thread => running = thread
  | .pending, running, thread => running = true ∧ thread = false
  | .joining, running, thread => running = true ∧ thread = true
  | .never, _, _ => False

/-- A client is connected. -/
def ServerPc.inSession (pc : ServerPc) : Bool := pc.zone ≠ .idle || pc = .closeClient

/-- The port of the session against the SETUP and PLAY responses of the connection. -/
def PortsOk (pc : ServerPc) (port : Int) (c : Connection) : Prop :=
  let stored := c.setup = if 0 < port then some port else none
  match pc with
  | .respond (.setup _ rtp _ _ _ _) after => after = .done ∧ rtp = port ∧ 0 < port
  | .respond (.play _ _) after => after = .start ∧ c.setup = some port ∧ 0 < port
  | .respond _ after => after ≠ .start ∧ stored
  | .startCheck | .create => c.setup = some port ∧ c.played = some port ∧ 0 < port
  | .clientHead | .waitCheck _ | .waitPoll _ | .recv | .process _ => stored
  | _ => True

/-- A connection and the state. `printed` says that `inet_ntop` never fails, `steady` that the port of the socket is
kept up with. -/
structure Connected (printed steady : Prop) (s : Server) (c : Connection) : Prop where
  inSession : s.pc.inSession = true
  peer : printed → s.session.clientIp = inetNtop c.peer
  stopped : c.stopped = true → s.pc = .closeClient
  range : 0 ≤ s.session.clientRtpPort ∧ s.session.clientRtpPort ≤ 65535
  ports : PortsOk s.pc s.session.clientRtpPort c
  setup : c.played.isSome = true → c.setup.isSome = true
  played : s.thread.isSome = true → c.played.isSome = true
  address : printed → ∀ t, s.thread = some t → t.pc.hasSocket = true → s.media.sender.remoteAddr.sinAddr = c.peer
  port : steady → ∀ t, s.thread = some t → t.pc.hasSocket = true →
    c.played = some (s.media.sender.remoteAddr.sinPort.toNat : Int)

/-- The state against the connection that the events show. -/
def ConnOk (printed steady : Prop) (s : Server) : Option Connection → Prop
  | none => s.pc.inSession = false
  | some c => Connected printed steady s c

/-- The thread of a state, as the events show it. -/
def Server.threadStatus (s : Server) : ThreadStatus :=
  match s.thread with
  | none => .none
  | some t => if t.pc = .exited then .dead else .live

/-- **What a run of the server keeps.** -/
structure Inv (printed steady : Prop) (h : History Server ServerEvent) : Prop where
  flags : h.state.pc.zone.Flags h.state.media.threadRunning h.state.thread.isSome
  status : threadOf h.events = h.state.threadStatus
  ready : ∀ t, h.state.thread = some t → Ready ⟨h.state.media, h.state.session, t⟩
  conn : ConnOk printed steady h.state (connection h.events)

theorem inv_start (printed steady : Prop) : Inv printed steady ⟨.start, []⟩ :=
  ⟨⟨rfl, rfl⟩, rfl, by simp [Server.start], rfl⟩

/-- A connection is open exactly in a session. -/
theorem ConnOk.of_inSession {printed steady : Prop} {s : Server} {o : Option Connection}
    (h : ConnOk printed steady s o) (hpc : s.pc.inSession = true) : ∃ c, o = some c ∧ Connected printed steady s c := by
  cases o with
  | none => rw [ConnOk, hpc] at h; cases h
  | some c => exact ⟨c, rfl, h⟩

theorem ConnOk.of_idle {printed steady : Prop} {s : Server} {o : Option Connection}
    (h : ConnOk printed steady s o) (hpc : s.pc.inSession = false) : o = none := by
  cases o with
  | none => rfl
  | some c => have := h.inSession; rw [hpc] at this; cases this

end MiniRtsp.Rtsp
