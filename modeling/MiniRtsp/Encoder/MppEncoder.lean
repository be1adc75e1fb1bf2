import MiniRtsp.Common.Resource
import MiniRtsp.Lib.Wire

/-!
# The H.264 encoder

`encoder/mpp_encoder.c` over the answers of the vendor library. An encoded packet lies in a ring buffer that is mapped
through a second descriptor and copied out (`copyVendorPacket`); both descriptors are closed on every path
(`mppEncoderEncode_moves`). A failed initialisation gives back the buffers and the context it had taken
(`mppEncoderInitEx_moves`).
-/

namespace MiniRtsp.Encoder

open Ledger Wire

/-- `MppEncoder`; the handles are `false` for `NULL`. -/
structure MppEncoder where
  ctx : Bool
  mpi : Bool
  frmBuf : Bool
  pktBuf : Bool
  width : Int
  height : Int
  fps : Int
  gop : Int
  bitRate : Int
  bitRateMin : Int
  bitRateMax : Int
  frameSize : UInt32
  frameIndex : Int
  initialized : Bool
  deriving DecidableEq, Repr

/-- An encoder as `memset` leaves it. -/
def MppEncoder.zero : MppEncoder := ⟨false, false, false, false, 0, 0, 0, 0, 0, 0, 0, 0, 0, false⟩

/-- `align_up_size`; `size_t` has 32 bits on the target. -/
def alignUpSize (value alignment : UInt32) : UInt32 := (value + alignment - 1) &&& ~~~(alignment - 1)

/-- `visible_nv12_size`. -/
def visibleNv12Size (width height : Int) : UInt32 := UInt32.ofInt width * UInt32.ofInt height * 3 / 2

/-- `allocated_nv12_size`. -/
def allocatedNv12Size (width height : Int) : UInt32 :=
  alignUpSize (UInt32.ofInt width) 64 * alignUpSize (UInt32.ofInt height) 64 * 3 / 2

/-! ## Copying a packet -/

/-- `struct venc_packet`. -/
structure VencPacket where
  len : UInt32
  bufSize : UInt32
  offset : UInt32

/-- What the system answers to `copy_vendor_packet`: the descriptor of `/dev/mpi/valloc`, the descriptor of the ring
buffer, the bytes of its mapping, `malloc`. -/
structure CopyAnswers where
  valloc : Option Nat
  dmaFd : Option Int
  ring : Option (Nat → UInt8)
  malloc : Bool

/-- `memcpy` out of the ring: `size` bytes from `start` on. -/
def ringBytes (ring : Nat → UInt8) (start size : Nat) : Bytes := (List.range size).map fun i => ring (start + i)

/-- `copy_vendor_packet`: the return value, `*out`, and the descriptors opened and closed. -/
def copyVendorPacket (answers : CopyAnswers) (packet : VencPacket) : Int × Option Bytes × List (Use Resource) :=
  if packet.len = 0 ∨ packet.bufSize = 0 then (-1, none, [])
  else if packet.offset > packet.bufSize ∨ packet.len > packet.bufSize then (-1, none, [])
  else
    -- the end of the ring is the same place as its beginning
    let offset := if packet.offset = packet.bufSize then 0 else packet.offset
    match answers.valloc with
    | none => (-1, none, [])
    | some vallocFd =>
      match answers.dmaFd with
      | none => (-1, none, [opened vallocFd, closed vallocFd])
      | some dmaFd =>
        if dmaFd < 0 then (-1, none, [opened vallocFd, closed vallocFd])
        else
          let uses := [opened vallocFd, opened dmaFd, closed dmaFd, closed vallocFd]
          match answers.ring with
          | none => (-1, none, uses)
          | some ring =>
            if !answers.malloc then (-1, none, uses)
            else
              let tail := packet.bufSize - offset
              let firstPart := if tail > packet.len then packet.len else tail
              let result := ringBytes ring offset.toNat firstPart.toNat ++
                ringBytes ring 0 (packet.len - firstPart).toNat
              (asInt packet.len, some result, uses)

/-! ## Encoding -/

/-- What the vendor library answers to `mpp_encoder_encode`: the pointer of the input buffer, `mpp_frame_init`,
`encode_put_frame`, `encode_get_packet` and whether it kept the packet handle, the packet, the copy,
`encode_release_packet` (`none` when the entry is `NULL`). -/
structure EncodeAnswers where
  framePtr : Bool
  frameInit : Bool
  putFrame : Bool
  getPacket : Bool
  handleKept : Bool
  packet : VencPacket
  copy : CopyAnswers
  releasePacket : Option Bool

/-- `mpp_encoder_encode` for a frame of `size` bytes: the encoder, the return value, `*out` and the descriptors opened
and closed. -/
def mppEncoderEncode (answers : EncodeAnswers) (encoder : MppEncoder) (size : Int) :
    MppEncoder × Int × Option Bytes × List (Use Resource) :=
  if !encoder.ctx ∨ !encoder.mpi ∨ !encoder.frmBuf then (encoder, -1, none, [])
  else if size < 0 ∨ size < encoder.frameSize.toNat then (encoder, -1, none, [])
  else if !answers.framePtr then (encoder, -1, none, [])
  else if !answers.frameInit then (encoder, -1, none, [])
  else
    let encoder := { encoder with frameIndex := encoder.frameIndex + 1 }
    if !answers.putFrame then (encoder, -1, none, [])
    else if !answers.getPacket then (encoder, -1, none, [])
    else
      let (result, out, uses) :=
        if !answers.handleKept then (-1, none, []) else copyVendorPacket answers.copy answers.packet
      match answers.releasePacket with
      | none => (encoder, -1, out, uses)
      | some true => (encoder, result, out, uses)
      | some false => (encoder, -1, none, uses)

/-! ## Opening and closing -/

/-- What the vendor library answers to `mpp_encoder_init_ex`: return codes, and whether the handles are not `NULL`. -/
structure InitAnswers where
  frmBuf : Bool × Bool
  pktBuf : Bool × Bool
  create : Bool
  ctx : Bool
  mpi : Bool
  initExt : Bool
  outputTimeout : Bool
  cfgInit : Bool
  getCfg : Bool
  setCfg : Bool

/-- `mpp_encoder_close`. -/
def mppEncoderClose (encoder : MppEncoder) : MppEncoder × List (Use Resource) :=
  (MppEncoder.zero,
    (if encoder.ctx then [.release .mppContext] else []) ++ (if encoder.frmBuf then [.release .frmBuf] else []) ++
      (if encoder.pktBuf then [.release .pktBuf] else []))

/-- `set_encoder_config`. -/
def setEncoderConfig (answers : InitAnswers) : Bool := answers.cfgInit && answers.getCfg && answers.setCfg

/-- `mpp_encoder_init_ex` from the first `mpp_buffer_get` on: the encoder when it stops, and whether all went well. -/
def takeHandles (answers : InitAnswers) (encoder : MppEncoder) : MppEncoder × Bool :=
  let withFrm := { encoder with frmBuf := answers.frmBuf.2 }
  let withPkt := { withFrm with pktBuf := answers.pktBuf.2 }
  let withCtx := { withPkt with ctx := answers.ctx, mpi := answers.mpi }
  if !answers.frmBuf.1 ∨ !withFrm.frmBuf then (withFrm, false)
  else if !answers.pktBuf.1 ∨ !withPkt.pktBuf then (withPkt, false)
  else if !answers.create ∨ !withCtx.ctx ∨ !withCtx.mpi then (withCtx, false)
  else if !answers.initExt then (withCtx, false)
  else ({ withCtx with initialized := true }, answers.outputTimeout && setEncoderConfig answers)

/-- The handles of an encoder, in the order in which `takeHandles` obtains them. -/
def handlesTaken (encoder : MppEncoder) : List (Use Resource) :=
  (if encoder.frmBuf then [.acquire .frmBuf] else []) ++ (if encoder.pktBuf then [.acquire .pktBuf] else []) ++
    (if encoder.ctx then [.acquire .mppContext] else [])

/-- `mpp_encoder_init_ex`: the encoder, what was taken and given back, and whether it succeeded. -/
def mppEncoderInitEx (answers : InitAnswers) (encoder : MppEncoder) (width height fps gop bitRate : Int) :
    MppEncoder × List (Use Resource) × Bool :=
  if width ≤ 0 ∨ height ≤ 0 ∨ fps ≤ 0 ∨ gop ≤ 0 ∨ bitRate ≤ 0 then (encoder, [], false)
  else
    let bitRateMin := bitRate * 3 / 4
    let bitRateMax := bitRate * 9 / 8
    if bitRateMin ≤ 0 ∨ bitRateMax > 2147483647 then (encoder, [], false)
    else
      let encoder := { MppEncoder.zero with
        width := width, height := height, fps := fps, gop := gop, bitRate := bitRate, bitRateMin := bitRateMin,
        bitRateMax := bitRateMax, frameSize := visibleNv12Size width height }
      let (encoder, ok) := takeHandles answers encoder
      if ok then (encoder, handlesTaken encoder, true)
      else ((mppEncoderClose encoder).1, handlesTaken encoder ++ (mppEncoderClose encoder).2, false)

/-- What the handles of an encoder contribute to the holdings. -/
def MppEncoder.held (encoder : MppEncoder) : Multiset Resource :=
  (if encoder.ctx then {.mppContext} else 0) + (if encoder.frmBuf then {.frmBuf} else 0) +
    (if encoder.pktBuf then {.pktBuf} else 0)

/-- **Closing gives back exactly what the encoder holds.** -/
theorem mppEncoderClose_moves (encoder : MppEncoder) (m : Multiset Resource) :
    Moves (mppEncoderClose encoder).2 (encoder.held + m) m := by
  unfold mppEncoderClose MppEncoder.held
  rw [Multiset.add_assoc, Multiset.add_assoc]
  exact ((moves_release_if _ _ _).append (moves_release_if _ _ _)).append (moves_release_if _ _ _)

theorem handlesTaken_moves (encoder : MppEncoder) (m : Multiset Resource) :
    Moves (handlesTaken encoder) m (encoder.held + m) := by
  have hall := ((moves_acquire_if encoder.frmBuf Resource.frmBuf m).append
    (moves_acquire_if encoder.pktBuf Resource.pktBuf _)).append (moves_acquire_if encoder.ctx Resource.mppContext _)
  have hsum : encoder.held + m = (if encoder.ctx then {.mppContext} else 0) +
      ((if encoder.pktBuf then {.pktBuf} else 0) + ((if encoder.frmBuf then {.frmBuf} else 0) + m)) := by
    unfold MppEncoder.held
    ext x
    simp only [Multiset.count_add]
    omega
  rw [hsum]
  exact hall

@[simp] theorem held_zero : MppEncoder.zero.held = 0 := rfl

/-- **A failed initialisation gives everything back**, a successful one keeps the handles of the encoder. -/
theorem mppEncoderInitEx_moves (answers : InitAnswers) (encoder : MppEncoder) (width height fps gop bitRate : Int)
    (hzero : encoder.held = 0) (m : Multiset Resource) :
    Moves (mppEncoderInitEx answers encoder width height fps gop bitRate).2.1 m
        ((mppEncoderInitEx answers encoder width height fps gop bitRate).1.held + m) ∧
      ((mppEncoderInitEx answers encoder width height fps gop bitRate).2.2 = false →
        (mppEncoderInitEx answers encoder width height fps gop bitRate).1.held = 0) := by
  unfold mppEncoderInitEx
  split
  · exact ⟨by simpa [hzero] using moves_nil m, fun _ => hzero⟩
  · dsimp only
    split
    · exact ⟨by simpa [hzero] using moves_nil m, fun _ => hzero⟩
    · split
      · exact ⟨handlesTaken_moves _ m, fun h => absurd h (by simp)⟩
      · exact ⟨(handlesTaken_moves _ m).append (by simpa [mppEncoderClose] using mppEncoderClose_moves _ m),
          fun _ => rfl⟩

@[simp] theorem length_ringBytes (ring : Nat → UInt8) (start size : Nat) :
    (ringBytes ring start size).length = size := by
  simp [ringBytes]

/-- A copied packet has the length of the packet. -/
theorem copyVendorPacket_length {answers : CopyAnswers} {packet : VencPacket} {out : Bytes}
    (h : (copyVendorPacket answers packet).2.1 = some out) :
    out.length = packet.len.toNat ∧ (copyVendorPacket answers packet).1 = asInt packet.len := by
  have hparts : ∀ tail : UInt32, (if tail > packet.len then packet.len else tail).toNat +
      (packet.len - (if tail > packet.len then packet.len else tail)).toNat = packet.len.toNat := by
    intro tail
    have hle : (if tail > packet.len then packet.len else tail) ≤ packet.len := by
      split
      · exact UInt32.le_refl _
      · exact UInt32.not_lt.mp ‹_›
    rw [UInt32.toNat_sub_of_le _ _ hle]
    have := UInt32.le_iff_toNat_le.mp hle
    omega
  revert h
  unfold copyVendorPacket
  repeat' split
  all_goals intro h
  all_goals first
    | cases h
      done
    | injection h with h
      rw [← h, List.length_append, length_ringBytes, length_ringBytes]
      exact ⟨hparts _, rfl⟩

/-- **What is encoded** has the length that is returned. -/
theorem mppEncoderEncode_length {answers : EncodeAnswers} {encoder : MppEncoder} {size : Int} {out : Bytes}
    (h : (mppEncoderEncode answers encoder size).2.2.1 = some out)
    (hpos : 0 < (mppEncoderEncode answers encoder size).2.1) :
    (out.length : Int) = (mppEncoderEncode answers encoder size).2.1 ∧ 0 < out.length ∧ out.length ≤ 2147483647 := by
  have hcopy := @copyVendorPacket_length answers.copy answers.packet out
  revert h hpos
  unfold mppEncoderEncode
  dsimp only
  repeat' split
  all_goals
    intro h hpos
    dsimp only at h hpos ⊢
  all_goals first
    | cases h
    | omega
    | obtain ⟨hlen, hret⟩ := hcopy h
      rw [hret] at hpos ⊢
      have := asInt_pos hpos
      omega

theorem copyVendorPacket_uses (answers : CopyAnswers) (packet : VencPacket) :
    (copyVendorPacket answers packet).2.2 = [] ∨
    (∃ v : Nat, (copyVendorPacket answers packet).2.2 = [opened v, closed v]) ∨
    ∃ (v : Nat) (d : Int), (copyVendorPacket answers packet).2.2 = [opened v, opened d, closed d, closed v] := by
  unfold copyVendorPacket
  repeat' split
  all_goals first
    | exact .inl rfl
    | exact .inr (.inl ⟨_, rfl⟩)
    | exact .inr (.inr ⟨_, _, rfl⟩)

theorem copyVendorPacket_moves (answers : CopyAnswers) (packet : VencPacket) (m : Multiset Resource) :
    Moves (copyVendorPacket answers packet).2.2 m m := by
  rcases copyVendorPacket_uses answers packet with h | ⟨v, h⟩ | ⟨v, d, h⟩
  · rw [h]
    exact moves_nil m
  · rw [h]
    exact moves_bracket _ (moves_nil _)
  · rw [h]
    have hdma : Moves [opened d, closed d] (Resource.descriptor v ::ₘ m) (Resource.descriptor v ::ₘ m) :=
      moves_bracket _ (moves_nil _)
    exact moves_bracket (Resource.descriptor v) hdma

/-- **Encoding leaves no descriptor open.** -/
theorem mppEncoderEncode_moves (answers : EncodeAnswers) (encoder : MppEncoder) (size : Int) (m : Multiset Resource) :
    Moves (mppEncoderEncode answers encoder size).2.2.2 m m := by
  have hcopy := copyVendorPacket_moves answers.copy answers.packet m
  have hnil := moves_nil (ρ := Resource) m
  unfold mppEncoderEncode
  dsimp only
  repeat' split
  all_goals assumption

/-- Encoding keeps the handles. -/
theorem mppEncoderEncode_held (answers : EncodeAnswers) (encoder : MppEncoder) (size : Int) :
    (mppEncoderEncode answers encoder size).1.held = encoder.held := by
  unfold mppEncoderEncode
  dsimp only
  repeat' split
  all_goals rfl

end MiniRtsp.Encoder
