import MiniRtsp.Rtsp.Media
import MiniRtsp.Rtsp.Session
import MiniRtsp.Sdp.SdpBuilder

/-!
# Requests and their responses

`process_request` and the handlers of `rtsp/rtsp_server.c` up to the response: what a request does to the session, the
response it is given, and what follows when the response has been sent. A request whose handler returns `-1` without a
response has none.
-/

namespace MiniRtsp.Rtsp

open Sdp Text

/-! ## Responses -/

inductive Response where
  | options (cseq : Int)
  | describe (cseq : Int) (sdp : Bytes)
  | unsupportedTransport (cseq : Int)
  | setup (cseq clientRtpPort clientRtcpPort serverRtpPort serverRtcpPort : Int) (sessionId : UInt32)
  | play (cseq : Int) (sessionId : UInt32)
  | simpleOk (cseq : Int) (sessionId : UInt32)
  | methodNotAllowed (cseq : Int)
  deriving DecidableEq, Repr

/-- `snprintf` into a buffer of `size` bytes: the text before the NUL. -/
def snprintf (size : Nat) (text : Bytes) : Bytes := text.take (size - 1)

def crlf : Bytes := ascii "\r\n"

/-- The status line and the `CSeq` line. -/
def responseHead (status : Bytes) (cseq : Int) : Bytes :=
  ascii "RTSP/1.0 " ++ status ++ crlf ++ ascii "CSeq: " ++ decimalInt cseq ++ crlf

def sessionLine (sessionId : UInt32) : Bytes := ascii "Session: " ++ decimal sessionId.toNat ++ crlf

/-- The text of the DESCRIBE response, before its buffer bounds it. -/
def describeText (cseq : Int) (sdp : Bytes) : Bytes :=
  responseHead (ascii "200 OK") cseq ++ ascii "Content-Type: application/sdp" ++ crlf ++ ascii "Content-Length: " ++
    decimal sdp.length ++ crlf ++ crlf ++ sdp

/-- The bytes that are sent. -/
def Response.render : Response → Bytes
  | .options cseq =>
    snprintf 512 (responseHead (ascii "200 OK") cseq ++
      ascii "Public: OPTIONS, DESCRIBE, SETUP, PLAY, GET_PARAMETER, TEARDOWN" ++ crlf ++ crlf)
  | .describe cseq sdp => snprintf 3072 (describeText cseq sdp)
  | .unsupportedTransport cseq => snprintf 256 (responseHead (ascii "461 Unsupported Transport") cseq ++ crlf)
  | .setup cseq clientRtpPort clientRtcpPort serverRtpPort serverRtcpPort sessionId =>
    snprintf 512 (responseHead (ascii "200 OK") cseq ++ ascii "Transport: RTP/AVP;unicast;client_port=" ++
      decimalInt clientRtpPort ++ ascii "-" ++ decimalInt clientRtcpPort ++ ascii ";server_port=" ++
      decimalInt serverRtpPort ++ ascii "-" ++ decimalInt serverRtcpPort ++ ascii ";ssrc=12345678" ++ crlf ++
      sessionLine sessionId ++ crlf)
  | .play cseq sessionId =>
    snprintf 512 (responseHead (ascii "200 OK") cseq ++ sessionLine sessionId ++ ascii "Range: npt=0.000-" ++ crlf ++
      crlf)
  | .simpleOk cseq sessionId => snprintf 512 (responseHead (ascii "200 OK") cseq ++ sessionLine sessionId ++ crlf)
  | .methodNotAllowed cseq => snprintf 256 (responseHead (ascii "405 Method Not Allowed") cseq ++ crlf)

/-! ## Handlers -/

/-- What follows when the response has been sent. -/
inductive AfterResponse where
  /-- The handler returns 0. -/
  | done
  /-- `rtsp_media_start`. -/
  | start
  /-- `rtsp_media_stop`, whether or not the response could be sent, and the end of the session. -/
  | teardown
  deriving DecidableEq, Repr

structure Handled where
  session : RTSPSession
  response : Option Response
  after : AfterResponse

/-- `handle_options`. -/
def handleOptions (reader : IntReader) (session : RTSPSession) (request : Bytes) : Handled :=
  ⟨session, some (.options (rtspRequestGetCseq reader request)), .done⟩

/-- `handle_describe`. -/
def handleDescribe (reader : IntReader) (media : RTSPMedia) (session : RTSPSession) (request : Bytes) : Handled :=
  match sdpBuilderBuild media.sps media.pps 2048 with
  | none => ⟨session, none, .done⟩
  | some sdp =>
    let cseq := rtspRequestGetCseq reader request
    if (describeText cseq sdp).length ≥ 3072 then ⟨session, none, .done⟩
    else ⟨session, some (.describe cseq sdp), .done⟩

/-- `handle_setup`. -/
def handleSetup (reader : IntReader) (session : RTSPSession) (request : Bytes) : Handled :=
  let cseq := rtspRequestGetCseq reader request
  let (session, accepted) := rtspSessionParseTransport reader session request
  if !accepted then ⟨session, some (.unsupportedTransport cseq), .done⟩
  else
    ⟨session, some (.setup cseq session.clientRtpPort session.clientRtcpPort session.serverRtpPort
      session.serverRtcpPort session.sessionId), .done⟩

/-- `handle_play` up to its response. -/
def handlePlay (reader : IntReader) (session : RTSPSession) (request : Bytes) : Handled :=
  if session.clientRtpPort ≤ 0 then ⟨session, none, .done⟩
  else ⟨session, some (.play (rtspRequestGetCseq reader request) session.sessionId), .start⟩

/-- `process_request` up to the response. -/
def processRequest (reader : IntReader) (media : RTSPMedia) (session : RTSPSession) (request : Bytes) : Handled :=
  let cseq := rtspRequestGetCseq reader request
  if startsWith request (ascii "OPTIONS") then handleOptions reader session request
  else if startsWith request (ascii "DESCRIBE") then handleDescribe reader media session request
  else if startsWith request (ascii "SETUP") then handleSetup reader session request
  else if startsWith request (ascii "PLAY") then handlePlay reader session request
  else if startsWith request (ascii "GET_PARAMETER") then ⟨session, some (.simpleOk cseq session.sessionId), .done⟩
  else if startsWith request (ascii "TEARDOWN") then ⟨session, some (.simpleOk cseq session.sessionId), .teardown⟩
  else ⟨session, some (.methodNotAllowed cseq), .done⟩

/-! ## What a request does -/

/-- Neither a SETUP nor a PLAY response. -/
def Response.plain : Response → Bool
  | .setup _ _ _ _ _ _ | .play _ _ => false
  | _ => true

/-- **What a request does** to the session, and how it is answered. -/
inductive Handling (session : RTSPSession) : Handled → Prop where
  /-- An accepted SETUP stores the ports it answers with. -/
  | setup (cseq rtp rtcp : Int) (range : 0 < rtp ∧ rtp ≤ 65535) :
      Handling session ⟨{ session with clientRtpPort := rtp, clientRtcpPort := rtcp },
        some (.setup cseq rtp rtcp session.serverRtpPort session.serverRtcpPort session.sessionId), .done⟩
  /-- A PLAY is answered when a port has been stored. -/
  | play (cseq : Int) (port : 0 < session.clientRtpPort) :
      Handling session ⟨session, some (.play cseq session.sessionId), .start⟩
  | plain {response : Response} {after : AfterResponse} (plain : response.plain = true) (noStart : after ≠ .start) :
      Handling session ⟨session, some response, after⟩
  | refused : Handling session ⟨session, none, .done⟩

theorem handleDescribe_handling (reader : IntReader) (media : RTSPMedia) (session : RTSPSession) (request : Bytes) :
    Handling session (handleDescribe reader media session request) := by
  unfold handleDescribe
  split
  · exact .refused
  · dsimp only
    split
    · exact .refused
    · exact .plain rfl (by simp)

theorem handleSetup_handling (reader : IntReader) (session : RTSPSession) (request : Bytes) :
    Handling session (handleSetup reader session request) := by
  unfold handleSetup
  rcases parseTransport_cases reader session request with hparse | ⟨rtp, rtcp, hlo, hhi, -, -, hparse⟩
  · rw [hparse]
    exact .plain rfl (by simp)
  · rw [hparse]
    exact .setup _ rtp rtcp ⟨hlo, hhi⟩

theorem handlePlay_handling (reader : IntReader) (session : RTSPSession) (request : Bytes) :
    Handling session (handlePlay reader session request) := by
  unfold handlePlay
  split
  · exact .refused
  · rename_i hport
    exact .play _ (by omega)

theorem processRequest_handling (reader : IntReader) (media : RTSPMedia) (session : RTSPSession) (request : Bytes) :
    Handling session (processRequest reader media session request) := by
  unfold processRequest
  dsimp only
  repeat' split
  · exact .plain rfl (by simp)
  · exact handleDescribe_handling reader media session request
  · exact handleSetup_handling reader session request
  · exact handlePlay_handling reader session request
  · exact .plain rfl (by simp)
  · exact .plain rfl (by simp)
  · exact .plain rfl (by simp)

end MiniRtsp.Rtsp
