import MiniRtsp.Lib.Base64Format
import MiniRtsp.Lib.Lines

/-!
# SDP as a client reads it

What a player takes from the session description of one H.264 stream: the payload types and the clock rate of RFC 4566
and 3551, the frame rate, and the parameters of RFC 6184 with the parameter sets decoded.
-/

namespace MiniRtsp.SdpFormat

open Lines Occurrence Text

structure Description where
  /-- The payload type of the `m=` line. -/
  payloadType : Nat
  /-- The payload type, the encoding name and the clock rate of the `a=rtpmap` line. -/
  mapped : Nat
  encoding : List UInt8
  clockRate : Nat
  frameRate : Nat
  profileLevelId : List UInt8
  parameterSets : List (List UInt8)
  deriving DecidableEq, Repr

/-- The words of a value. -/
def words (value : List UInt8) : List (List UInt8) := pieces [0x20] value

/-- The parameters of an `a=fmtp` line. -/
def parameters (fmtp : List UInt8) : List (List UInt8) := pieces [0x3b] ((words fmtp).getD 1 [])

/-- The description; `none` where something is missing or no number. -/
def readSdp (text : List UInt8) : Option Description := do
  let media ← field (ascii "m=video ") (lines text)
  let payloadType ← number ((words media).getD 2 [])
  let rtpmap ← field (ascii "a=rtpmap:") (lines text)
  let mapped ← number ((words rtpmap).getD 0 [])
  let format := pieces [0x2f] ((words rtpmap).getD 1 [])
  let clockRate ← number (format.getD 1 [])
  let frameRate ← (field (ascii "a=framerate:") (lines text)).bind number
  let fmtp ← field (ascii "a=fmtp:") (lines text)
  let profileLevelId ← (field (ascii "profile-level-id=") (parameters fmtp)).bind hexBytes
  let sets ← field (ascii "sprop-parameter-sets=") (parameters fmtp)
  let parameterSets ← (pieces [0x2c] sets).mapM Base64Format.decode
  some
    { payloadType := payloadType, mapped := mapped, encoding := format.getD 0 [], clockRate := clockRate
      frameRate := frameRate, profileLevelId := profileLevelId, parameterSets := parameterSets }

end MiniRtsp.SdpFormat
