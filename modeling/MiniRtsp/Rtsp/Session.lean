import MiniRtsp.Rtsp.Request

/-!
# The session of a connection

`rtsp/rtsp_session.c`: a fresh session and the `Transport` header of a SETUP request. A refused header leaves the
session as it was; an accepted one changes the two client ports and nothing else (`parseTransport_cases`).
-/

namespace MiniRtsp.Rtsp

open Text Occurrence

structure RTSPSession where
  clientFd : Int
  clientIp : Bytes
  clientRtpPort : Int
  clientRtcpPort : Int
  serverRtpPort : Int
  serverRtcpPort : Int
  sessionId : UInt32
  playing : Bool
  deriving DecidableEq, Repr

/-- `rtsp_session_init`; the clock and the process id are given. -/
def rtspSessionInit (time pid : UInt32) : RTSPSession :=
  { clientFd := -1, clientIp := [], clientRtpPort := 0, clientRtcpPort := 0, serverRtpPort := 5000
    serverRtcpPort := 5001, sessionId := time ^^^ pid ^^^ 0x13572468, playing := false }

/-- `sscanf(p, "client_port=%d-%d", ..)`: the numbers that were read. -/
def scanPorts (reader : IntReader) (p : Bytes) : Option (Int × Option Int) :=
  match scanInt (p.drop (ascii "client_port=").length) with
  | none => none
  | some (rtp, rest) =>
    match rest with
    | 0x2d :: rest =>
      match scanInt rest with
      | some (rtcp, _) => some (reader.deliver rtp, some (reader.deliver rtcp))
      | none => some (reader.deliver rtp, none)
    | _ => some (reader.deliver rtp, none)

/-- `rtsp_session_parse_transport`: the session and whether the header was accepted. -/
def rtspSessionParseTransport (reader : IntReader) (session : RTSPSession) (request : Bytes) : RTSPSession × Bool :=
  if contains request (ascii "RTP/AVP/TCP") || contains request (ascii "interleaved=") then (session, false)
  else
    match seek (ascii "client_port=") request with
    | none => (session, false)
    | some p =>
      match scanPorts reader p with
      | none => (session, false)
      | some (rtpPort, second) =>
        let rtcpPort := second.getD (rtpPort + 1)
        if rtpPort ≤ 0 ∨ rtpPort > 65535 ∨ rtcpPort ≤ 0 ∨ rtcpPort > 65535 then (session, false)
        else ({ session with clientRtpPort := rtpPort, clientRtcpPort := rtcpPort }, true)

theorem parseTransport_cases (reader : IntReader) (session : RTSPSession) (request : Bytes) :
    rtspSessionParseTransport reader session request = (session, false) ∨
    ∃ rtp rtcp, 0 < rtp ∧ rtp ≤ 65535 ∧ 0 < rtcp ∧ rtcp ≤ 65535 ∧
      rtspSessionParseTransport reader session request =
        ({ session with clientRtpPort := rtp, clientRtcpPort := rtcp }, true) := by
  unfold rtspSessionParseTransport
  split
  · exact .inl rfl
  · split
    · exact .inl rfl
    · split
      · exact .inl rfl
      · dsimp only
        split
        · exact .inl rfl
        · exact .inr ⟨_, _, by omega, by omega, by omega, by omega, rfl⟩

end MiniRtsp.Rtsp
