import MiniRtsp.Lib.Trace
import MiniRtsp.Rtsp.ClientLoop
import MiniRtsp.Rtsp.MediaThread
import MiniRtsp.Rtsp.Response

/-!
# The server and its media thread

`rtsp_server_run` with `rtsp_media_start` and `rtsp_media_stop` as a machine that makes one step between two points at
which the media thread can interfere, beside the machine of the media thread (`serverStep`). Every call to the outside
is answered by the step; what happens is listed as events.
-/

namespace MiniRtsp.Rtsp

open Ledger Rtp Trace

/-! ## Configuration and answers -/

/-- `RTSPServerConfig`: whether `stop_flag` is not `NULL`, and whether `stop_fd` is not negative. -/
structure RTSPServerConfig where
  port : Int
  devicePath : Option Bytes
  recordPath : Option Bytes
  warmupFrameCount : Int
  stopFlag : Bool
  stopFd : Bool

/-- The check at the beginning of `rtsp_server_run` fails. -/
def RTSPServerConfig.Refused (config : RTSPServerConfig) : Prop :=
  config.port ≤ 0 ∨ config.port > 65535 ∨ config.devicePath.getD [] = [] ∨ config.warmupFrameCount < 0

instance (config : RTSPServerConfig) : Decidable config.Refused :=
  inferInstanceAs (Decidable (_ ∨ _ ∨ _ ∨ _))

/-- What `poll` answers: the events of the socket and those of `stop_fd`. -/
inductive PollAnswer where
  | interrupted
  | failed
  | ready (socketIn socketError stop : Bool)

inductive AcceptAnswer where
  | interrupted
  | failed
  /-- A client, and whether `inet_ntop` printed its address. -/
  | accepted (fd : Nat) (peer : InAddr) (printed : Bool)

inductive SendAnswer where
  | interrupted
  | failed
  | sent (size : Nat)

/-- What the outside answers to a step of the server. -/
structure ServerAnswers where
  socket : Option Nat
  bind : Bool
  listen : Bool
  media : MediaInitAnswers
  /-- `*config->stop_flag`. -/
  flag : Bool
  poll : PollAnswer
  accept : AcceptAnswer
  time : UInt32
  pid : UInt32
  recv : Recv
  reader : IntReader
  sends : List SendAnswer
  malloc : Bool
  create : Bool

/-! ## States -/

/-- The socket that `wait_for_socket` waits for. -/
inductive Waiting where
  | listener
  | client
  deriving DecidableEq, Repr

/-- What follows `rtsp_media_stop`. -/
inductive AfterStop where
  /-- In TEARDOWN: the client loop ends. -/
  | teardown
  /-- Behind the client loop. -/
  | session
  /-- In `rtsp_media_close`. -/
  | close
  deriving DecidableEq, Repr

/-- Where the server is. -/
inductive ServerPc where
  | boot
  /-- `while (!stop_requested(config))` -/
  | serverHead
  /-- In `wait_for_socket`: the flag is read, then `poll` is called. -/
  | waitCheck (waiting : Waiting)
  | waitPoll (waiting : Waiting)
  | accept
  | clientHead
  | recv
  | process (request : Bytes)
  | respond (response : Response) (after : AfterResponse)
  /-- `rtsp_media_start`, from its checks to the unlock. -/
  | startCheck
  | create
  | startFail
  /-- `rtsp_media_stop`, up to the unlock. -/
  | stopFlags (after : AfterStop)
  | join (after : AfterStop)
  | joined (after : AfterStop)
  | closeClient
  /-- Behind the outer loop. -/
  | leave
  | cleanup
  /-- `rtsp_media_close` behind its `rtsp_media_stop`. -/
  | closeMedia
  | returned
  deriving DecidableEq, Repr

/-- The server, what it shares with the media thread, and the media thread unless there is none or it has been
joined. -/
structure Server where
  pc : ServerPc
  status : Int
  serverFd : Int
  clientFd : Int
  buffer : Bytes
  media : RTSPMedia
  session : RTSPSession
  thread : Option Thread

inductive ServerEvent where
  | use (u : Use Resource)
  /-- A client was accepted. -/
  | connected (peer : InAddr)
  /-- `recv` was called on the client's socket. -/
  | received (answer : Recv)
  /-- `process_request` was called. -/
  | requested (request : Bytes)
  /-- A response was sent. -/
  | responded (response : Response)
  /-- `rtsp_media_start` passed its checks and took the lock. -/
  | examined
  /-- It found a media thread, and returned 0. -/
  | alreadyRunning
  /-- It created the media thread, and returned 0. -/
  | created
  /-- `handle_play` logged the destination. -/
  | playAccepted (clientIp : Bytes) (clientRtpPort : Int)
  /-- The media thread did something. -/
  | media (e : ThreadEvent)
  /-- The media thread returned. -/
  | threadExited
  | joined
  /-- `rtsp_media_stop` behind the client loop returned. -/
  | sessionStopped
  | disconnected
  /-- `wait_for_socket` saw `stop_fd` and returned 0. -/
  | shutdown
  | returned (status : Int)
  deriving DecidableEq

/-- What the media thread did. -/
def ServerEvent.media? : ServerEvent → Option ThreadEvent
  | .media e => some e
  | _ => none

/-- What was taken or given back, by the server or its media thread. -/
def ServerEvent.use? : ServerEvent → Option (Use Resource)
  | .use u => some u
  | .media (.use u) => some u
  | _ => none

/-- What a run took and gave back, in order. -/
def resourceUses (events : List ServerEvent) : List (Use Resource) := events.filterMap ServerEvent.use?

/-- The server before `rtsp_server_run`. -/
def Server.start : Server :=
  { pc := .boot, status := -1, serverFd := -1, clientFd := -1, buffer := [], media := .zero
    session := rtspSessionInit 0 0, thread := none }

/-! ## Steps of the server -/

/-- `stop_requested`. -/
def stopRequested (config : RTSPServerConfig) (answers : ServerAnswers) : Bool := config.stopFlag && answers.flag

/-- The beginning of `rtsp_server_run`, up to the outer loop. -/
def boot (config : RTSPServerConfig) (answers : ServerAnswers) (s : Server) : Server × List ServerEvent :=
  if config.Refused then ({ s with pc := .returned }, [.returned (-1)])
  else
    match answers.socket with
    | none => ({ s with pc := .returned }, [.returned (-1)])
    | some fd =>
      let s := { s with serverFd := fd, media := .zero }
      if !answers.bind ∨ !answers.listen then ({ s with pc := .cleanup }, [.use (opened fd)])
      else
        let (media, uses, ok) := rtspMediaInit answers.media s.media config.devicePath config.recordPath
          config.warmupFrameCount
        ({ s with media := media, pc := if ok then .serverHead else .cleanup }, .use (opened fd) :: uses.map .use)

/-- What the server does with the result of `wait_for_socket`. -/
def waitResult (s : Server) (waiting : Waiting) (ret : Int) : Server :=
  match waiting with
  | .listener =>
    if ret = 0 then { s with status := 0, pc := .leave }
    else if ret < 0 then { s with pc := .leave }
    else { s with pc := .accept }
  | .client => if ret ≤ 0 then { s with pc := .stopFlags .session } else { s with pc := .recv }

/-- `poll` in `wait_for_socket`. -/
def waitPoll (config : RTSPServerConfig) (answers : ServerAnswers) (s : Server) (waiting : Waiting) :
    Server × List ServerEvent :=
  match answers.poll with
  | .interrupted => ({ s with pc := .waitCheck waiting }, [])
  | .failed => (waitResult s waiting (-1), [])
  | .ready socketIn socketError stop =>
    if config.stopFd && stop then (waitResult s waiting 0, [.shutdown])
    else if socketIn then (waitResult s waiting 1, [])
    else if socketError then (waitResult s waiting (-1), [])
    else ({ s with pc := .waitCheck waiting }, [])

/-- `accept` and the session of the client. -/
def acceptClient (answers : ServerAnswers) (s : Server) : Server × List ServerEvent :=
  match answers.accept with
  | .interrupted => ({ s with pc := .serverHead }, [])
  | .failed => ({ s with pc := .leave }, [])
  | .accepted fd peer printed =>
    let session := { rtspSessionInit answers.time answers.pid with
      clientFd := fd, clientIp := if printed then inetNtop peer else Text.ascii "0.0.0.0" }
    ({ s with session := session, clientFd := fd, buffer := [], pc := .clientHead },
      [.use (opened fd), .connected peer])

/-- `recv` and what follows it in the client loop. -/
def receive (answers : ServerAnswers) (s : Server) : Server × List ServerEvent :=
  -- a full buffer ends the session before the call
  let events := if s.buffer.length ≥ bufferSize - 1 then [] else [.received answers.recv]
  match clientRecv s.buffer answers.recv with
  | .keep buffer => ({ s with buffer := buffer, pc := .clientHead }, events)
  | .process request => ({ s with pc := .process request }, events)
  | .leave => ({ s with pc := .stopFlags .session }, events)

/-- `process_request` up to the response. -/
def process (answers : ServerAnswers) (s : Server) (request : Bytes) : Server × List ServerEvent :=
  let handled := processRequest answers.reader s.media s.session request
  let s := { s with session := handled.session }
  match handled.response with
  | none => ({ s with pc := .stopFlags .session }, [.requested request])
  | some response => ({ s with pc := .respond response handled.after }, [.requested request])

/-- `send_all` for a number of bytes; whether it succeeded. Every `send` is taken to come to an end: where the answers
run out, `send_all` fails. -/
def sendAll : List SendAnswer → Nat → Bool
  | _, 0 => true
  | [], _ + 1 => false
  | .interrupted :: answers, n + 1 => sendAll answers (n + 1)
  | .failed :: _, _ + 1 => false
  | .sent size :: answers, n + 1 => if size = 0 then false else sendAll answers (n + 1 - size)

/-- The end of a request that has been processed: the buffer is cleared. -/
def requestDone (s : Server) : Server := { s with buffer := [], pc := .clientHead }

/-- `send_response` and what follows it. -/
def respond (answers : ServerAnswers) (s : Server) (response : Response) (after : AfterResponse) :
    Server × List ServerEvent :=
  let sent := sendAll answers.sends response.render.length
  let events := if sent then [.responded response] else []
  match after with
  | .teardown => ({ s with pc := .stopFlags .teardown }, events)
  | .done => (if sent then requestDone s else { s with pc := .stopFlags .session }, events)
  | .start => ({ s with pc := if sent then .startCheck else .stopFlags .session }, events)

/-- `rtsp_media_start` up to the unlock. -/
def startCheck (s : Server) : Server × List ServerEvent :=
  if !s.media.initialized ∨ s.session.clientIp = [] ∨ s.session.clientRtpPort ≤ 0 then
    ({ s with pc := .stopFlags .session }, [])
  else if s.media.threadRunning then
    (requestDone s, [.examined, .alreadyRunning, .playAccepted s.session.clientIp s.session.clientRtpPort])
  else
    ({ s with
        media := { s.media with stopRequested := false, threadRunning := true }
        session := { s.session with playing := true }
        pc := .create }, [.examined])

/-- `malloc` and `pthread_create` in `rtsp_media_start`. -/
def createThread (answers : ServerAnswers) (s : Server) : Server × List ServerEvent :=
  if !answers.malloc ∨ !answers.create then ({ s with pc := .startFail }, [])
  else
    (requestDone { s with thread := some .start },
      [.created, .playAccepted s.session.clientIp s.session.clientRtpPort])

/-- `FAIL:` of `rtsp_media_start`, and the end of the client loop. -/
def startFail (s : Server) : Server :=
  { s with
    media := { s.media with threadRunning := false, stopRequested := true }
    session := { s.session with playing := false }
    pc := .stopFlags .session }

/-- What follows `rtsp_media_stop`. -/
def afterStop (s : Server) : AfterStop → Server × List ServerEvent
  | .teardown => ({ s with pc := .stopFlags .session }, [])
  | .session => ({ s with pc := .closeClient }, [.sessionStopped])
  | .close => ({ s with pc := .closeMedia }, [])

/-- `rtsp_media_stop` up to the unlock; in `rtsp_media_close` it is given no session. -/
def stopFlags (s : Server) (after : AfterStop) : Server × List ServerEvent :=
  let s := { s with media := { s.media with stopRequested := true } }
  let s := if after = .close then s else { s with session := { s.session with playing := false } }
  if s.media.threadRunning then ({ s with pc := .join after }, []) else afterStop s after

/-- `pthread_join`: the server waits for the media thread. -/
def join (s : Server) (after : AfterStop) : Server × List ServerEvent :=
  match s.thread with
  | some t => if t.pc = .exited then ({ s with thread := none, pc := .joined after }, [.joined]) else (s, [])
  | none => ({ s with pc := .joined after }, [.joined])

/-- The end of `rtsp_server_run`: `rtsp_media_close`, the listening socket, the return value. -/
def closeMedia (s : Server) : Server × List ServerEvent :=
  let (media, uses) := rtspMediaClose s.media
  ({ s with media := media, pc := .returned },
    uses.map .use ++ (if s.serverFd ≥ 0 then [.use (closed s.serverFd)] else []) ++ [.returned s.status])

/-- A step of the server. -/
def controlStep (config : RTSPServerConfig) (answers : ServerAnswers) (s : Server) : Server × List ServerEvent :=
  match s.pc with
  | .boot => boot config answers s
  | .serverHead => ({ s with pc := if stopRequested config answers then .leave else .waitCheck .listener }, [])
  | .waitCheck waiting =>
    if stopRequested config answers then (waitResult s waiting 0, [])
    else ({ s with pc := .waitPoll waiting }, [])
  | .waitPoll waiting => waitPoll config answers s waiting
  | .accept => acceptClient answers s
  | .clientHead =>
    ({ s with pc := if stopRequested config answers then .stopFlags .session else .waitCheck .client }, [])
  | .recv => receive answers s
  | .process request => process answers s request
  | .respond response after => respond answers s response after
  | .startCheck => startCheck s
  | .create => createThread answers s
  | .startFail => (startFail s, [])
  | .stopFlags after => stopFlags s after
  | .join after => join s after
  | .joined after => afterStop { s with media := { s.media with threadRunning := false } } after
  | .closeClient => ({ s with pc := .serverHead }, [.use (closed s.clientFd), .disconnected])
  | .leave => ({ s with status := if stopRequested config answers then 0 else s.status, pc := .cleanup }, [])
  | .cleanup => ({ s with pc := if s.media.lockInitialized then .stopFlags .close else .closeMedia }, [])
  | .closeMedia => closeMedia s
  | .returned => (s, [])

/-! ## Both together -/

/-- Who moves. -/
inductive Move where
  | control (answers : ServerAnswers)
  | media (answers : ThreadAnswers)

/-- A step of the media thread, if there is one. -/
def mediaStep (answers : ThreadAnswers) (s : Server) : Server × List ServerEvent :=
  match s.thread with
  | none => (s, [])
  | some t =>
    let (live, events) := threadStep answers ⟨s.media, s.session, t⟩
    ({ s with media := live.media, session := live.session, thread := some live.thread },
      events.map .media ++ if t.pc = .summary then [.threadExited] else [])

/-- **A step of the server or of its media thread.** -/
def serverStep (config : RTSPServerConfig) : Move → Server → Server × List ServerEvent
  | .control answers, s => controlStep config answers s
  | .media answers, s => mediaStep answers s

/-- A run of the server, from the call of `rtsp_server_run` on. -/
def serverRun (config : RTSPServerConfig) (moves : List Move) : History Server ServerEvent :=
  run (serverStep config) .start moves

end MiniRtsp.Rtsp
