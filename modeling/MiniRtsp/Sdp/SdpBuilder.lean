import MiniRtsp.Sdp.Base64

/-!
# The session description

`sdp/sdp_builder.c`: the SDP of the live stream from the stored SPS and PPS.
-/

namespace MiniRtsp.Sdp

open Text

/-- The size of the two base64 buffers. -/
def base64BufferSize : Int := 512

/-- A hexadecimal digit as `%X` prints it. -/
def hexDigit (n : Nat) : UInt8 := (ascii "0123456789ABCDEF").getD n 0

/-- `%02X` of a byte. -/
def hexByte (b : UInt8) : Bytes := [hexDigit (b.toNat / 16), hexDigit (b.toNat % 16)]

/-- The text of the SDP. -/
def sdpText (profileIdc profileIop levelIdc : UInt8) (spsBase64 ppsBase64 : Bytes) : Bytes :=
  ascii "v=0\r\no=- 0 0 IN IP4 0.0.0.0\r\ns=Mini RTSP Live Camera\r\nc=IN IP4 0.0.0.0\r\nt=0 0\r\na=control:*\r\n" ++
    ascii "m=video 0 RTP/AVP 96\r\na=rtpmap:96 H264/90000\r\na=framerate:25\r\n" ++
    ascii "a=fmtp:96 packetization-mode=1;profile-level-id=" ++ hexByte profileIdc ++ hexByte profileIop ++
    hexByte levelIdc ++ ascii ";sprop-parameter-sets=" ++ spsBase64 ++ ascii "," ++ ppsBase64 ++
    ascii "\r\na=control:track1\r\n"

/-- `sdp_builder_build`: the SDP, or `none` for `-1`. -/
def sdpBuilderBuild (sps pps : Option Bytes) (sdpSize : Int) : Option Bytes :=
  match sps, pps with
  | some sps, some pps =>
    if sps.length < 4 ∨ pps.length = 0 ∨ sdpSize ≤ 0 then none
    else
      match base64Encode sps base64BufferSize, base64Encode pps base64BufferSize with
      | some spsBase64, some ppsBase64 =>
        let sdp := sdpText (sps.getD 1 0) (sps.getD 2 0) (sps.getD 3 0) spsBase64 ppsBase64
        if (sdp.length : Int) ≥ sdpSize then none else some sdp
      | _, _ => none
  | _, _ => none

end MiniRtsp.Sdp
