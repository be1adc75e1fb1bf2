import Mathlib.Data.List.DropRight
import MiniRtsp.H264.Annexb
import MiniRtsp.Lib.Text

/-!
# The MP4 muxer wrapper

`muxer/mp4_muxer.c`: the scan of an access unit for the NAL types that matter to the container, and the checks a frame
passes before it is handed to the vendor muxer. The vendor calls are answered from outside; what reaches
`rkmuxer_write_video_frame` is part of the result.
-/

namespace MiniRtsp.Muxer

open Text H264

def h264NalSlice : UInt8 := 1

/-- `UINT_MAX`. -/
def uintMax : Nat := 4294967295

structure H264PacketInfo where
  hasAnnexbStartCode : Bool
  hasVcl : Bool
  hasIdr : Bool
  hasSps : Bool
  hasPps : Bool
  deriving DecidableEq, Repr

/-- `strrchr`: the text from the last `c` on. -/
def strrchr (c : UInt8) (s : Bytes) : Option Bytes := if c ∈ s then some (c :: s.rtakeWhile (· != c)) else none

/-- `path_has_mp4_extension`. -/
def pathHasMp4Extension (path : Bytes) : Bool :=
  match strrchr 0x2e path with
  | none => false
  | some dot => dot = ascii ".mp4" || dot = ascii ".MP4"

/-- `annexb_start_code_size`, which repeats `start_code_size`. -/
def annexbStartCodeSize (data : Bytes) (offset : Nat) : Nat := startCodeSize data offset

/-- The flags after the byte that follows a start code. -/
def H264PacketInfo.note (info : H264PacketInfo) (nalType : UInt8) : H264PacketInfo :=
  let info := if h264NalSlice ≤ nalType ∧ nalType ≤ nalIdr then { info with hasVcl := true } else info
  if nalType = nalIdr then { info with hasIdr := true }
  else if nalType = nalSps then { info with hasSps := true }
  else if nalType = nalPps then { info with hasPps := true }
  else info

/-- The `while` loop of `inspect_annexb_h264`. Every round passes over at least one byte; the first argument is the
number of rounds left. -/
def inspectLoop (data : Bytes) : Nat → Nat → H264PacketInfo → H264PacketInfo
  | 0, _, info => info
  | n + 1, offset, info =>
    if offset < data.length then
      let startCodeSize := annexbStartCodeSize data offset
      if startCodeSize = 0 then inspectLoop data n (offset + 1) info
      else
        let info := { info with hasAnnexbStartCode := true }
        let offset := offset + startCodeSize
        if offset ≥ data.length then info
        else inspectLoop data n (offset + 1) (info.note (nalType (data.getD offset 0)))
    else info

/-- `inspect_annexb_h264`. -/
def inspectAnnexbH264 (data : Bytes) : H264PacketInfo :=
  inspectLoop data data.length 0 ⟨false, false, false, false, false⟩

structure Mp4Muxer where
  id : Int
  width : Int
  height : Int
  frameRate : Int
  bitRate : Int
  initialized : Bool
  frameCount : UInt64
  keyFrameCount : UInt64
  lastPtsUs : Int
  deriving DecidableEq, Repr

/-- A muxer as `memset` leaves it. -/
def Mp4Muxer.zero : Mp4Muxer := ⟨0, 0, 0, 0, 0, false, 0, 0, 0⟩

/-- `mp4_muxer_init`; `rkmuxerInit` answers the vendor call. The muxer, and whether it succeeded. -/
def mp4MuxerInit (rkmuxerInit : Int) (muxer : Mp4Muxer) (muxerId : Int) (outputPath : Bytes)
    (width height frameRate bitRate : Int) : Mp4Muxer × Bool :=
  if width ≤ 0 ∨ height ≤ 0 ∨ frameRate ≤ 0 ∨ bitRate ≤ 0 ∨ muxerId < 0 then (muxer, false)
  else if !pathHasMp4Extension outputPath then (muxer, false)
  else
    let muxer := { Mp4Muxer.zero with
      id := muxerId, width := width, height := height, frameRate := frameRate, bitRate := bitRate, lastPtsUs := -1 }
    if rkmuxerInit ≠ 0 then (muxer, false) else ({ muxer with initialized := true }, true)

/-- The reasons for which `mp4_muxer_write_h264` returns `-1`, in the order of its checks. -/
inductive WriteError where
  | invalidParameter
  | nonIncreasingPts
  | invalidAccessUnit
  | firstIncomplete
  | writeFailed
  deriving DecidableEq, Repr

/-- A frame handed to `rkmuxer_write_video_frame`. -/
structure VideoFrame where
  data : Bytes
  ptsUs : Int
  keyFrame : Bool
  deriving DecidableEq, Repr

/-- What `mp4_muxer_write_h264` leaves: the muxer, `*key_frame_out`, the frame the vendor muxer was given, and the
error. -/
structure WriteResult where
  muxer : Mp4Muxer
  keyFrameOut : Bool
  pushed : Option VideoFrame
  error : Option WriteError
  deriving DecidableEq, Repr

/-- `mp4_muxer_write_h264`; `rkmuxerWrite` answers the vendor call. -/
def mp4MuxerWriteH264 (rkmuxerWrite : Int) (muxer : Mp4Muxer) (h264Data : Bytes) (ptsUs : Int) : WriteResult :=
  if !muxer.initialized ∨ h264Data.length = 0 ∨ h264Data.length > uintMax ∨ ptsUs < 0 then
    ⟨muxer, false, none, some .invalidParameter⟩
  else if muxer.frameCount > 0 ∧ ptsUs ≤ muxer.lastPtsUs then ⟨muxer, false, none, some .nonIncreasingPts⟩
  else
    let info := inspectAnnexbH264 h264Data
    if !info.hasAnnexbStartCode ∨ !info.hasVcl then ⟨muxer, false, none, some .invalidAccessUnit⟩
    else
      let keyFrame := info.hasIdr
      if muxer.frameCount = 0 ∧ (!info.hasIdr ∨ !info.hasSps ∨ !info.hasPps) then
        ⟨muxer, false, none, some .firstIncomplete⟩
      else
        let pushed := some ⟨h264Data, ptsUs, keyFrame⟩
        if rkmuxerWrite ≠ 0 then ⟨muxer, false, pushed, some .writeFailed⟩
        else
          let muxer := { muxer with
            frameCount := muxer.frameCount + 1
            keyFrameCount := if keyFrame then muxer.keyFrameCount + 1 else muxer.keyFrameCount
            lastPtsUs := ptsUs }
          ⟨muxer, keyFrame, pushed, none⟩

/-- `mp4_muxer_close`; `rkmuxerDeinit` answers the vendor call. The muxer, the return value, and whether the vendor
muxer was called. -/
def mp4MuxerClose (rkmuxerDeinit : Int) (muxer : Mp4Muxer) : Mp4Muxer × Int × Bool :=
  if !muxer.initialized then (muxer, 0, false)
  else ({ muxer with initialized := false }, if rkmuxerDeinit ≠ 0 then -1 else 0, true)

end MiniRtsp.Muxer
