import MiniRtsp.Lib.RtpFormat

/-!
# RTP packets

`rtp/rtp_packet.c`: the header record and its packing. A packed packet parses back to its header and payload
(`parsePacket_packetOf`); the version bits come from the constant `0x80`, not from the record.
-/

namespace MiniRtsp.Rtp

open Wire RtpFormat

def rtpHeaderSize : Nat := 12

structure RTPHeader where
  version : UInt8
  payloadType : UInt8
  marker : UInt8
  sequence : UInt16
  timestamp : UInt32
  ssrc : UInt32
  deriving DecidableEq, Repr

/-- `rtp_header_init`. -/
def rtpHeaderInit (seq : UInt16) (timestamp : UInt32) : RTPHeader :=
  { version := 2, payloadType := 96, marker := 0, sequence := seq, timestamp := timestamp, ssrc := 0x12345678 }

/-- `rtp_packet_pack`. -/
def rtpPacketPack (header : RTPHeader) (payload : Bytes) : Bytes :=
  ([0x80, header.marker <<< 7 ||| header.payloadType] : Bytes) ++ be16 header.sequence ++ be32 header.timestamp ++
    be32 header.ssrc ++ payload

theorem length_rtpPacketPack (header : RTPHeader) (payload : Bytes) :
    (rtpPacketPack header payload).length = payload.length + rtpHeaderSize := by
  simp only [rtpPacketPack, rtpHeaderSize, List.length_append, List.length_cons, List.length_nil, length_be16,
    length_be32]
  omega

/-- The packet of a payload: a fresh header with the marker bit set. -/
def packetOf (timestamp : UInt32) (seq : UInt16) (marker : Bool) (payload : Bytes) : Bytes :=
  rtpPacketPack { rtpHeaderInit seq timestamp with marker := if marker then 1 else 0 } payload

/-- The header a receiver reads off `packetOf`. -/
def headerOf (timestamp : UInt32) (seq : UInt16) (marker : Bool) : Header :=
  ⟨2, if marker then 1 else 0, 96, seq, timestamp, 0x12345678⟩

/-- **A receiver reads back** the sequence number, the timestamp, the marker and the payload. -/
theorem parsePacket_packetOf (timestamp : UInt32) (seq : UInt16) (marker : Bool) (payload : Bytes) :
    parsePacket (packetOf timestamp seq marker payload) = some (headerOf timestamp seq marker, payload) := by
  have hversion : (0x80 : UInt8) >>> 6 = 2 := by decide
  have hflags : ∀ m : Bool, ((if m then 1 else 0 : UInt8) <<< 7 ||| 96) >>> 7 = (if m then 1 else 0) ∧
      ((if m then 1 else 0 : UInt8) <<< 7 ||| 96) &&& 0x7f = 96 := by decide
  unfold packetOf rtpPacketPack
  rw [parsePacket_layout]
  simp only [rtpHeaderInit, headerOf, hversion, hflags marker]

end MiniRtsp.Rtp
