import MiniRtsp.Encoder.PacketCopy

/-!
# One frame through the encoder

`mpp_encoder_encode` with the handles it holds on its way: the input frame, and the packet the vendor library filled.
The two labels at its end are `releasePacket` and `cleanup`. Forgetting the handles gives `mppEncoderEncode`
(`mppEncoderEncodeHandles_forget`).

Both handles go back exactly once (`mppEncoderEncodeHandles_returned`). What is returned is the packet or nothing, except
when there is no `encode_release_packet` to give a copied packet back with: then the copy stays in `*out` although the
call fails (`mppEncoderEncodeHandles_contract`).
-/

namespace MiniRtsp.Encoder

open Ledger Wire

/-- The handles of one call. A packet is told apart by whether its handle is the one that was passed. -/
inductive Handle where
  | frame
  | packet (kept : Bool)
  deriving DecidableEq, Repr

/-- What the vendor library answers to `mpp_encoder_encode`; for `mpp_frame_init` the return code and whether there is a
handle. -/
structure VendorAnswers where
  framePtr : Bool
  frameInit : Bool × Bool
  putFrame : Bool
  getPacket : Bool
  handleKept : Bool
  packet : VencPacket
  copy : CopyAnswers
  releasePacket : Option Bool

/-- The same answers without the handle of a failed `mpp_frame_init`. -/
def VendorAnswers.toEncodeAnswers (answers : VendorAnswers) : EncodeAnswers where
  framePtr := answers.framePtr
  frameInit := answers.frameInit.1 && answers.frameInit.2
  putFrame := answers.putFrame
  getPacket := answers.getPacket
  handleKept := answers.handleKept
  packet := answers.packet
  copy := answers.copy
  releasePacket := answers.releasePacket

/-- `CLEANUP`. -/
def cleanup (frame : Bool) : List (Use Handle) := if frame then [.release .frame] else []

/-- `RELEASE_PACKET`: the result and `*out` so far, what becomes of them, and the calls. -/
def releasePacket (entry : Option Bool) (handle : Handle) (result : Int) (out : Option Bytes) :
    Int × Option Bytes × List (Use Handle) :=
  match entry with
  | none => (-1, out, [])
  | some true => (result, out, [.release handle])
  | some false => (-1, none, [.release handle])

/-- `mpp_encoder_encode` for a frame of `size` bytes: the encoder, the return value, `*out`, and the handles obtained
and given back. -/
def mppEncoderEncodeHandles (answers : VendorAnswers) (encoder : MppEncoder) (size : Int) :
    MppEncoder × Int × Option Bytes × List (Use Handle) :=
  if !encoder.ctx ∨ !encoder.mpi ∨ !encoder.frmBuf then (encoder, -1, none, [])
  else if size < 0 ∨ size < encoder.frameSize.toNat then (encoder, -1, none, [])
  else if !answers.framePtr then (encoder, -1, none, [])
  else
    let frame := answers.frameInit.2
    let obtained := if frame then [.acquire .frame] else []
    if !answers.frameInit.1 ∨ !frame then (encoder, -1, none, obtained ++ cleanup frame)
    else
      let encoder := { encoder with frameIndex := encoder.frameIndex + 1 }
      -- the frame is given back as soon as it has been put
      let put := obtained ++ [.release .frame]
      if !answers.putFrame then (encoder, -1, none, put ++ cleanup false)
      else if !answers.getPacket then (encoder, -1, none, put ++ cleanup false)
      else
        let copied := copyVendorPacket answers.copy answers.packet
        let (result, out) := if !answers.handleKept then (-1, none) else (copied.1, copied.2.1)
        let (result, out, released) :=
          releasePacket answers.releasePacket (.packet answers.handleKept) result out
        (encoder, result, out, put ++ [.acquire (.packet answers.handleKept)] ++ released ++ cleanup false)

/-- Without its handles the call is `mppEncoderEncode`. -/
theorem mppEncoderEncodeHandles_forget (answers : VendorAnswers) (encoder : MppEncoder) (size : Int) :
    (mppEncoderEncodeHandles answers encoder size).1 = (mppEncoderEncode answers.toEncodeAnswers encoder size).1 ∧
    (mppEncoderEncodeHandles answers encoder size).2.1 =
      (mppEncoderEncode answers.toEncodeAnswers encoder size).2.1 ∧
    (mppEncoderEncodeHandles answers encoder size).2.2.1 =
      (mppEncoderEncode answers.toEncodeAnswers encoder size).2.2.1 := by
  obtain ⟨framePtr, ⟨initOk, frame⟩, putFrame, getPacket, handleKept, packet, copy, release⟩ := answers
  unfold mppEncoderEncodeHandles mppEncoderEncode VendorAnswers.toEncodeAnswers
  dsimp only
  by_cases hparams : !encoder.ctx ∨ !encoder.mpi ∨ !encoder.frmBuf
  · simp only [if_pos hparams, and_self]
  by_cases hsize : size < 0 ∨ size < encoder.frameSize.toNat
  · simp only [if_neg hparams, if_pos hsize, and_self]
  simp only [if_neg hparams, if_neg hsize]
  cases framePtr <;> cases initOk <;> cases frame <;> cases putFrame <;> cases getPacket <;> cases handleKept <;>
    rcases release with _ | _ | _ <;> exact ⟨rfl, rfl, rfl⟩

/-! ## The handles -/

/-- Every handle is given back exactly once; a packet can only be given back where the entry exists. -/
structure HandlesReturned (entry : Option Bool) (uses : List (Use Handle)) : Prop where
  once : uses.Nodup
  returned : ∃ kept, Holds uses kept ∧ .frame ∉ kept ∧ (entry ≠ none → kept = 0)

theorem handlesReturned_nil (entry : Option Bool) : HandlesReturned entry [] :=
  ⟨List.nodup_nil, 0, holds_nil, Multiset.notMem_zero _, fun _ => rfl⟩

theorem handlesReturned_frame (entry : Option Bool) :
    HandlesReturned entry [.acquire .frame, .release .frame] :=
  ⟨by simp, 0, (bracketed_single _).holds, Multiset.notMem_zero _, fun _ => rfl⟩

theorem handlesReturned_packet (entry : Option Bool) (kept : Bool) (result : Int) (out : Option Bytes) :
    HandlesReturned entry ([.acquire .frame, .release .frame] ++ [.acquire (.packet kept)] ++
      (releasePacket entry (.packet kept) result out).2.2) := by
  have hpacket : Holds ([.acquire .frame, .release .frame] ++ [Use.acquire (Handle.packet kept)])
      {Handle.packet kept} := (bracketed_single _).holds.acquire _
  rcases entry with _ | ok
  · refine ⟨by simp [releasePacket], {.packet kept}, by simpa [releasePacket] using hpacket, by simp, by simp⟩
  · have hcall : (releasePacket (some ok) (.packet kept) result out).2.2 = [.release (.packet kept)] := by
      cases ok <;> rfl
    rw [hcall]
    exact ⟨by simp, 0, Holds.release hpacket, Multiset.notMem_zero _, fun _ => rfl⟩

/-- **Both handles go back.** -/
theorem mppEncoderEncodeHandles_returned (answers : VendorAnswers) (encoder : MppEncoder) (size : Int) :
    HandlesReturned answers.releasePacket (mppEncoderEncodeHandles answers encoder size).2.2.2 := by
  unfold mppEncoderEncodeHandles cleanup
  dsimp only
  by_cases hparams : !encoder.ctx ∨ !encoder.mpi ∨ !encoder.frmBuf
  · simpa only [if_pos hparams] using handlesReturned_nil _
  by_cases hsize : size < 0 ∨ size < encoder.frameSize.toNat
  · simpa only [if_neg hparams, if_pos hsize] using handlesReturned_nil _
  simp only [if_neg hparams, if_neg hsize]
  cases answers.framePtr
  · exact handlesReturned_nil _
  obtain ⟨initOk, frame⟩ := answers.frameInit
  cases frame
  · cases initOk <;> exact handlesReturned_nil _
  cases initOk
  · exact handlesReturned_frame _
  cases answers.putFrame
  · exact handlesReturned_frame _
  cases answers.getPacket
  · exact handlesReturned_frame _
  simp only [Bool.not_true, Bool.false_eq_true, or_self, if_true, if_false, List.append_nil]
  exact handlesReturned_packet _ _ _ _

/-! ## What is returned -/

/-- The packet can be copied: it is not turned away, and the system gives what is needed. -/
def Copyable (answers : CopyAnswers) (packet : VencPacket) : Prop :=
  ¬ packet.Rejected ∧ ∃ ring, answers.Granted ring

/-- The whole packet, or nothing. -/
def NoHalfResult (answers : VendorAnswers) (result : Int) (out : Option Bytes) : Prop :=
  (result = -1 ∧ out = none) ∨
    (0 < result ∧ result = answers.packet.len.toNat ∧
      ∃ ring, answers.copy.ring = some ring ∧ out = some (packetBytes ring answers.packet))

/-- There is no entry to give a copied packet back with. -/
def UnreturnedCopy (answers : VendorAnswers) : Prop :=
  answers.framePtr = true ∧ answers.frameInit = (true, true) ∧ answers.putFrame = true ∧ answers.getPacket = true ∧
    answers.handleKept = true ∧ Copyable answers.copy answers.packet ∧ answers.releasePacket = none

theorem bufSize_ne_zero {packet : VencPacket} (h : ¬ packet.Rejected) : packet.bufSize ≠ 0 := by
  simp only [VencPacket.Rejected, not_or, gt_iff_lt, UInt32.lt_iff_toNat_lt, ← UInt32.toNat_inj,
    UInt32.toNat_zero, ne_eq] at h ⊢
  omega

theorem asInt_of_le {x : UInt32} (h : x.toNat ≤ 2147483647) : asInt x = x.toNat := by
  unfold asInt
  rw [if_pos (by omega)]

/-- **The copy** is the packet or nothing. -/
theorem copyVendorPacket_cases (answers : CopyAnswers) (packet : VencPacket) (hlen : packet.len.toNat ≤ 2147483647) :
    (¬ Copyable answers packet ∧ (copyVendorPacket answers packet).1 = -1 ∧
      (copyVendorPacket answers packet).2.1 = none) ∨
    (Copyable answers packet ∧ (copyVendorPacket answers packet).1 = packet.len.toNat ∧ 0 < packet.len.toNat ∧
      ∃ ring, answers.ring = some ring ∧ (copyVendorPacket answers packet).2.1 = some (packetBytes ring packet)) := by
  by_cases hrejected : packet.Rejected
  · rw [copyVendorPacket_rejected answers (.inl hrejected)]
    exact .inl ⟨fun h => h.1 hrejected, rfl, rfl⟩
  have hsize := bufSize_ne_zero hrejected
  by_cases hgranted : ∃ ring, answers.Granted ring
  · obtain ⟨ring, hring⟩ := hgranted
    obtain ⟨hret, hout⟩ := copyVendorPacket_copied hring hsize hrejected
    refine .inr ⟨⟨hrejected, ring, hring⟩, by rw [hret, asInt_of_le hlen], ?_, ring, hring.ring, ?_⟩
    · exact Nat.pos_of_ne_zero fun h => hrejected (.inl (UInt32.toNat_inj.mp h))
    · rw [hout, packetBytes_eq ring hsize hrejected]
  · refine .inl ⟨fun h => hgranted h.2, ?_⟩
    simp only [VencPacket.Rejected, not_or] at hrejected
    unfold copyVendorPacket
    rw [if_neg (not_or.mpr ⟨hrejected.1, hsize⟩), if_neg (not_or.mpr hrejected.2)]
    obtain ⟨valloc, dmaFd, ring, malloc⟩ := answers
    rcases valloc with _ | vallocFd
    · exact ⟨rfl, rfl⟩
    rcases dmaFd with _ | dmaFd
    · exact ⟨rfl, rfl⟩
    by_cases hfd : dmaFd < 0
    · simp only [if_pos hfd, and_self]
    rcases ring with _ | ring
    · simp only [if_neg hfd, and_self]
    cases malloc
    · simp [if_neg hfd]
    · exact absurd ⟨ring, ⟨vallocFd, rfl⟩, ⟨dmaFd, rfl, Int.not_lt.mp hfd⟩, rfl, rfl⟩ hgranted

/-- **An encoder that was initialised** and is given a whole frame. -/
structure Encodable (encoder : MppEncoder) (size : Int) : Prop where
  ctx : encoder.ctx = true
  mpi : encoder.mpi = true
  frmBuf : encoder.frmBuf = true
  size : encoder.frameSize.toNat ≤ size

/-- The call up to the packet: it fails with nothing, or goes on to copy and to release. -/
theorem mppEncoderEncodeHandles_result (answers : VendorAnswers) {encoder : MppEncoder} {size : Int}
    (hready : Encodable encoder size) :
    (mppEncoderEncodeHandles answers encoder size).2.1 = -1 ∧
        (mppEncoderEncodeHandles answers encoder size).2.2.1 = none ∧ ¬ UnreturnedCopy answers ∨
      (UnreturnedCopy answers ↔ Copyable answers.copy answers.packet ∧ answers.releasePacket = none) ∧
        (mppEncoderEncodeHandles answers encoder size).2.1 = (releasePacket answers.releasePacket (.packet true)
          (copyVendorPacket answers.copy answers.packet).1 (copyVendorPacket answers.copy answers.packet).2.1).1 ∧
        (mppEncoderEncodeHandles answers encoder size).2.2.1 = (releasePacket answers.releasePacket (.packet true)
          (copyVendorPacket answers.copy answers.packet).1 (copyVendorPacket answers.copy answers.packet).2.1).2.1 := by
  obtain ⟨framePtr, ⟨initOk, frame⟩, putFrame, getPacket, handleKept, packet, copy, release⟩ := answers
  have hsize : ¬ (size < 0 ∨ size < encoder.frameSize.toNat) := by have := hready.size; omega
  unfold mppEncoderEncodeHandles UnreturnedCopy
  simp only [hready.ctx, hready.mpi, hready.frmBuf, if_neg hsize, Bool.not_true, Bool.false_eq_true, or_self, if_false]
  cases framePtr
  · exact .inl ⟨rfl, rfl, by simp⟩
  cases initOk
  · exact .inl ⟨rfl, rfl, by simp⟩
  cases frame
  · exact .inl ⟨rfl, rfl, by simp⟩
  cases putFrame
  · exact .inl ⟨rfl, rfl, by simp⟩
  cases getPacket
  · exact .inl ⟨rfl, rfl, by simp⟩
  cases handleKept
  · rcases release with _ | _ | _ <;> exact .inl ⟨rfl, rfl, by simp⟩
  · exact .inr ⟨by simp, rfl, rfl⟩

/-- **What one call leaves.** The handles always go back; what is returned is the whole packet or nothing, except when
a packet has been copied and there is no entry to give it back with. -/
theorem mppEncoderEncodeHandles_contract (answers : VendorAnswers) {encoder : MppEncoder} {size : Int}
    (hready : Encodable encoder size) (hlen : answers.packet.len.toNat ≤ 2147483647) :
    (NoHalfResult answers (mppEncoderEncodeHandles answers encoder size).2.1
        (mppEncoderEncodeHandles answers encoder size).2.2.1 ∧
      HandlesReturned answers.releasePacket (mppEncoderEncodeHandles answers encoder size).2.2.2) ↔
    ¬ UnreturnedCopy answers := by
  rw [and_iff_left (mppEncoderEncodeHandles_returned answers encoder size)]
  rcases mppEncoderEncodeHandles_result answers hready with ⟨hret, hout, hnot⟩ | ⟨hiff, hret, hout⟩
  · rw [hret, hout]
    exact iff_of_true (.inl ⟨rfl, rfl⟩) hnot
  rw [hret, hout, hiff]
  rcases copyVendorPacket_cases answers.copy answers.packet hlen with ⟨hno, hfail, hnone⟩ | ⟨hyes, hcopied, hpos, hbytes⟩
  · rw [hfail, hnone]
    refine iff_of_true (.inl ?_) fun h => hno h.1
    rcases answers.releasePacket with _ | _ | _ <;> exact ⟨rfl, rfl⟩
  · obtain ⟨ring, hring, hout⟩ := hbytes
    rcases hentry : answers.releasePacket with _ | _ | _
    · refine iff_of_false (fun h => ?_) fun h => h ⟨hyes, rfl⟩
      rcases h with ⟨-, hnone⟩ | ⟨hneg, -⟩
      · simp [releasePacket, hout] at hnone
      · simp [releasePacket] at hneg
    · exact iff_of_true (.inl ⟨rfl, rfl⟩) (by simp)
    · refine iff_of_true (.inr ⟨?_, hcopied, ring, hring, hout⟩) (by simp)
      rw [releasePacket, hcopied]
      omega

/-- A packet of one byte, where everything works; `entry` is `encode_release_packet`. -/
def oneByteAnswers (entry : Option Bool) : VendorAnswers where
  framePtr := true
  frameInit := (true, true)
  putFrame := true
  getPacket := true
  handleKept := true
  packet := ⟨1, 4, 4⟩
  copy := ⟨some 3, some 5, some (UInt8.ofNat ·), true⟩
  releasePacket := entry

/-- An encoder for frames of two by two pixels. -/
def smallEncoder : MppEncoder :=
  (mppEncoderInitEx ⟨(true, true), (true, true), true, true, true, true, true, true, true, true⟩ .zero 2 2 30 30
    4000000).1

theorem smallEncoder_encodable : Encodable smallEncoder 6 := ⟨rfl, rfl, rfl, by decide⟩

/-- With the entry, the byte is returned. -/
theorem mppEncoderEncodeHandles_contract_released :
    NoHalfResult (oneByteAnswers (some true))
        (mppEncoderEncodeHandles (oneByteAnswers (some true)) smallEncoder 6).2.1
        (mppEncoderEncodeHandles (oneByteAnswers (some true)) smallEncoder 6).2.2.1 ∧
      HandlesReturned (some true) (mppEncoderEncodeHandles (oneByteAnswers (some true)) smallEncoder 6).2.2.2 :=
  (mppEncoderEncodeHandles_contract (oneByteAnswers (some true)) smallEncoder_encodable (by decide)).mpr
    fun h => nomatch h.2.2.2.2.2.2

/-- Without it the call fails and still leaves the byte in `*out`. -/
theorem mppEncoderEncodeHandles_unreturned :
    Encodable smallEncoder 6 ∧
      (mppEncoderEncodeHandles (oneByteAnswers none) smallEncoder 6).2.1 = -1 ∧
      (mppEncoderEncodeHandles (oneByteAnswers none) smallEncoder 6).2.2.1 = some [0] ∧
      ¬ NoHalfResult (oneByteAnswers none) (mppEncoderEncodeHandles (oneByteAnswers none) smallEncoder 6).2.1
        (mppEncoderEncodeHandles (oneByteAnswers none) smallEncoder 6).2.2.1 := by
  have hret : (mppEncoderEncodeHandles (oneByteAnswers none) smallEncoder 6).2.1 = -1 := rfl
  have hout : (mppEncoderEncodeHandles (oneByteAnswers none) smallEncoder 6).2.2.1 = some [0] := rfl
  refine ⟨⟨rfl, rfl, rfl, by decide⟩, hret, hout, ?_⟩
  rw [hret, hout]
  rintro (⟨-, h⟩ | ⟨h, -⟩)
  · cases h
  · omega

end MiniRtsp.Encoder
