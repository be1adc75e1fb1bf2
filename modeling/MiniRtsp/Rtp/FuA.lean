import MiniRtsp.Rtp.H264Rtp

/-!
# The FU-A fragments of a long NAL

The packets `h264_rtp_send_nalu_ctx` makes of a NAL longer than `RTP_PAYLOAD_MAX` (`fuAPackets`), as a receiver sees
them: the FU indicator is byte 12 of a packet, the FU header byte 13, the fragment what follows. The function decides on
the size of the NAL and cuts what remains without the header byte, so a NAL of `RTP_PAYLOAD_MAX + 1` bytes becomes a
single fragment; every longer one is fragmented as RFC 6184 asks (`fuAPackets_wellFormed_iff`).
-/

namespace MiniRtsp.Rtp

open Attempt

/-- A callback that keeps every packet. -/
def keep (packets : List Bytes) (packet : Bytes) : List Bytes × Int := (packets ++ [packet], packet.length)

/-- The packets `h264_rtp_send_nalu_ctx` hands to its callback. -/
def fuAPackets (nalu : Bytes) (seq : UInt16) (timestamp : UInt32) (marker : Bool) : List Bytes :=
  (h264RtpSendNaluCtx keep nalu seq timestamp marker []).context

def fuIndicatorOf (packet : Bytes) : UInt8 := packet.getD rtpHeaderSize 0

def fuHeaderOf (packet : Bytes) : UInt8 := packet.getD (rtpHeaderSize + 1) 0

/-- The S bit of the FU header. -/
def isStart (packet : Bytes) : Prop := fuHeaderOf packet &&& 0x80 ≠ 0

/-- The E bit of the FU header. -/
def isEnd (packet : Bytes) : Prop := fuHeaderOf packet &&& 0x40 ≠ 0

instance (packet : Bytes) : Decidable (isStart packet) := inferInstanceAs (Decidable (_ ≠ _))
instance (packet : Bytes) : Decidable (isEnd packet) := inferInstanceAs (Decidable (_ ≠ _))

/-- The packets are a fragmentation of the NAL by RFC 6184. -/
structure FuAWellFormed (nalu : Bytes) (packets : List Bytes) : Prop where
  two_le : 2 ≤ packets.length
  start_iff : ∀ i (h : i < packets.length), isStart packets[i] ↔ i = 0
  end_iff : ∀ i (h : i < packets.length), isEnd packets[i] ↔ i + 1 = packets.length
  not_both : ∀ p ∈ packets, ¬(isStart p ∧ isEnd p)
  payload : ∀ p ∈ packets, rtpHeaderSize + 2 < p.length
  indicator : ∀ p ∈ packets, fuIndicatorOf p &&& 0x1f = 28 ∧ fuIndicatorOf p &&& 0xe0 = nalu.headD 0 &&& 0xe0
  size : ∀ p ∈ packets, p.length ≤ rtpMaxPacketSize

theorem attempt_keep (packets kept : List Bytes) : (attempt (callback keep) packets kept).state = kept ++ packets := by
  induction packets generalizing kept with
  | nil => simp
  | cons p packets ih =>
    have hok : (callback keep kept p).2 = true := by simp [callback, keep]
    rw [attempt_cons_ok hok, ih]
    simp [callback, keep]

/-- The packets of a long NAL are those of its FU-A payloads. -/
theorem fuAPackets_eq {nalu : Bytes} (h : rtpPayloadMax < nalu.length) (seq : UInt16) (timestamp : UInt32)
    (marker : Bool) : fuAPackets nalu seq timestamp marker =
      numbered timestamp seq (fuPayloads (nalu.headD 0) marker (nalu.length - 1) true nalu.tail) := by
  have hne : nalu ≠ [] := fun h0 => by simp [h0] at h
  rw [fuAPackets, h264RtpSendNaluCtx_eq keep hne, SendResult.ofOutcome, attempt_keep, List.nil_append, naluPayloads,
    if_neg (by omega)]

/-! ## The fragments -/

/-- A fragment with its indicator and its header. -/
def IsFragment (naluHeader : UInt8) (first last : Bool) (payload : Bytes) : Prop :=
  ∃ bytes : Bytes, payload = (naluHeader &&& 0xe0 ||| 28) :: fuHeader naluHeader first last :: bytes ∧ bytes ≠ [] ∧
    bytes.length ≤ rtpPayloadMax

theorem length_fuPayloads_pos (naluHeader : UInt8) (marker : Bool) {n : Nat} (first : Bool) {rest : Bytes}
    (hne : rest ≠ []) (hn : rest.length ≤ n) : 0 < (fuPayloads naluHeader marker n first rest).length := by
  have hpos : 0 < rest.length := List.length_pos_iff.mpr hne
  obtain ⟨m, rfl⟩ : ∃ m, n = m + 1 := ⟨n - 1, by omega⟩
  rw [fuPayloads, if_neg hne, List.length_cons]
  omega

theorem fuPayloads_nil (naluHeader : UInt8) (marker : Bool) (n : Nat) (first : Bool) :
    fuPayloads naluHeader marker n first [] = [] := by
  cases n <;> simp [fuPayloads]

/-- **Two or more fragments** are made exactly of more than `RTP_PAYLOAD_MAX` bytes. -/
theorem two_le_length_fuPayloads (naluHeader : UInt8) (marker : Bool) {n : Nat} (first : Bool) {rest : Bytes}
    (hn : rest.length ≤ n) :
    2 ≤ (fuPayloads naluHeader marker n first rest).length ↔ rtpPayloadMax < rest.length := by
  by_cases hne : rest = []
  · subst hne
    simp [fuPayloads_nil]
  · have hpos : 0 < rest.length := List.length_pos_iff.mpr hne
    have hmax : rtpPayloadMax = 1400 := rfl
    obtain ⟨m, rfl⟩ : ∃ m, n = m + 1 := ⟨n - 1, by omega⟩
    rw [fuPayloads, if_neg hne, List.length_cons]
    have hdrop : (rest.drop rtpPayloadMax).length = rest.length - rtpPayloadMax := List.length_drop
    constructor
    · intro h
      by_contra hle
      rw [List.drop_of_length_le (by omega), fuPayloads_nil] at h
      simp at h
    · intro h
      have hrest : rest.drop rtpPayloadMax ≠ [] := fun h0 => by
        rw [h0, List.length_nil] at hdrop
        omega
      have := length_fuPayloads_pos naluHeader marker (n := m) false hrest (by omega)
      omega

/-- The payloads are fragments: the first one starts the NAL when `first` is set, the last one ends it. -/
theorem fuPayloads_fragment (naluHeader : UInt8) (marker : Bool) (n : Nat) (first : Bool) (rest : Bytes)
    (hn : rest.length ≤ n) (i : Nat) (hi : i < (fuPayloads naluHeader marker n first rest).length) :
    IsFragment naluHeader (first && i == 0) (i + 1 == (fuPayloads naluHeader marker n first rest).length)
      (fuPayloads naluHeader marker n first rest)[i].2 := by
  induction n generalizing first rest i with
  | zero => simp [fuPayloads] at hi
  | succ n ih =>
    by_cases hne : rest = []
    · simp [fuPayloads, hne] at hi
    · have hmax : rtpPayloadMax = 1400 := rfl
      have hpos : 0 < rest.length := List.length_pos_iff.mpr hne
      have hdrop : (rest.drop rtpPayloadMax).length = rest.length - rtpPayloadMax := List.length_drop
      have hlast := two_le_length_fuPayloads naluHeader marker first hn
      have hunfold : fuPayloads naluHeader marker (n + 1) first rest =
          (decide (rest.length ≤ rtpPayloadMax) && marker, (naluHeader &&& 0xe0 ||| 28) ::
            fuHeader naluHeader first (decide (rest.length ≤ rtpPayloadMax)) :: rest.take rtpPayloadMax) ::
          fuPayloads naluHeader marker n false (rest.drop rtpPayloadMax) := by
        rw [fuPayloads, if_neg hne]
      cases i with
      | zero =>
        have hbit : ((0 + 1 : Nat) == (fuPayloads naluHeader marker (n + 1) first rest).length) =
            decide (rest.length ≤ rtpPayloadMax) := by
          rw [Bool.eq_iff_iff, beq_iff_eq, decide_eq_true_iff]
          omega
        rw [hbit]
        simp only [hunfold, List.getElem_cons_zero, beq_self_eq_true, Bool.and_true]
        refine ⟨_, rfl, ?_, ?_⟩
        · intro h0
          have := congrArg List.length h0
          rw [List.length_take, List.length_nil] at this
          omega
        · rw [List.length_take]
          omega
      | succ i =>
        have hi' : i < (fuPayloads naluHeader marker n false (rest.drop rtpPayloadMax)).length := by
          rw [hunfold, List.length_cons] at hi
          omega
        have hfrag := ih false (rest.drop rtpPayloadMax) (by omega) i hi'
        simp only [hunfold, List.getElem_cons_succ, List.length_cons]
        have hstart : (first && i + 1 == 0) = (false && i == 0) := by simp
        have hend : (i + 1 + 1 == (fuPayloads naluHeader marker n false (rest.drop rtpPayloadMax)).length + 1) =
            (i + 1 == (fuPayloads naluHeader marker n false (rest.drop rtpPayloadMax)).length) := by
          rw [Bool.eq_iff_iff, beq_iff_eq, beq_iff_eq]
          omega
        rw [hstart, hend]
        exact hfrag

/-- The FU indicator keeps the F and the NRI bits of the NAL header. -/
theorem fuIndicator_nri (naluHeader : UInt8) : (naluHeader &&& 0xe0 ||| 28) &&& 0xe0 = naluHeader &&& 0xe0 := by
  revert naluHeader
  apply Wire.forall_byte
  decide +kernel

/-- What a receiver reads off the packet of a fragment. -/
theorem IsFragment.packetOf {naluHeader : UInt8} {first last : Bool} {payload : Bytes}
    (h : IsFragment naluHeader first last payload) (timestamp : UInt32) (seq : UInt16) (marker : Bool) :
    let packet := packetOf timestamp seq marker payload
    (isStart packet ↔ first = true) ∧ (isEnd packet ↔ last = true) ∧ rtpHeaderSize + 2 < packet.length ∧
      fuIndicatorOf packet &&& 0x1f = 28 ∧ fuIndicatorOf packet &&& 0xe0 = naluHeader &&& 0xe0 ∧
      packet.length ≤ rtpMaxPacketSize := by
  obtain ⟨bytes, rfl, hne, hlen⟩ := h
  have hpos : 0 < bytes.length := List.length_pos_iff.mpr hne
  obtain ⟨htype, hstart, hend, -⟩ := fu_bits naluHeader first last
  have hmax : rtpPayloadMax = 1400 := rfl
  have hpacket : rtpMaxPacketSize = 1500 := rfl
  have hheader : rtpHeaderSize = 12 := rfl
  refine ⟨hstart, hend, ?_, htype, fuIndicator_nri naluHeader, ?_⟩
  · rw [Rtp.packetOf, length_rtpPacketPack, List.length_cons, List.length_cons]
    omega
  · rw [Rtp.packetOf, length_rtpPacketPack, List.length_cons, List.length_cons]
    omega

/-- The packets of a long NAL: each is that of a fragment, which starts the NAL when it is the first packet and ends it
when it is the last. -/
theorem fuAPackets_fragment {nalu : Bytes} (h : rtpPayloadMax < nalu.length) (seq : UInt16) (timestamp : UInt32)
    (marker : Bool) (i : Nat) (hi : i < (fuAPackets nalu seq timestamp marker).length) :
    ∃ payload m, (fuAPackets nalu seq timestamp marker)[i] = packetOf timestamp (seq + UInt16.ofNat i) m payload ∧
      IsFragment (nalu.headD 0) (i == 0) (i + 1 == (fuAPackets nalu seq timestamp marker).length) payload := by
  have htail : nalu.tail.length = nalu.length - 1 := List.length_tail
  have heq := fuAPackets_eq h seq timestamp marker
  have hlen : (fuAPackets nalu seq timestamp marker).length =
      (fuPayloads (nalu.headD 0) marker (nalu.length - 1) true nalu.tail).length := by
    rw [heq, length_numbered]
  have hi' : i < (fuPayloads (nalu.headD 0) marker (nalu.length - 1) true nalu.tail).length := by omega
  have hfrag := fuPayloads_fragment (nalu.headD 0) marker (nalu.length - 1) true nalu.tail (by omega) i hi'
  rw [Bool.true_and, ← hlen] at hfrag
  refine ⟨_, (fuPayloads (nalu.headD 0) marker (nalu.length - 1) true nalu.tail)[i].1, ?_, hfrag⟩
  have hget := getElem?_numbered timestamp seq
    (fuPayloads (nalu.headD 0) marker (nalu.length - 1) true nalu.tail) i
  rw [← heq, List.getElem?_eq_getElem hi, List.getElem?_eq_getElem hi', Option.map_some, Option.some.injEq] at hget
  exact hget

/-- **The fragmentation of a NAL longer than `RTP_PAYLOAD_MAX`** is that of RFC 6184 unless the NAL is exactly one byte
longer: then what remains behind the header byte fits into one packet, with the S and the E bit set. -/
theorem fuAPackets_wellFormed_iff {nalu : Bytes} (h : rtpPayloadMax < nalu.length) (seq : UInt16) (timestamp : UInt32)
    (marker : Bool) :
    FuAWellFormed nalu (fuAPackets nalu seq timestamp marker) ↔ nalu.length ≠ rtpPayloadMax + 1 := by
  have htail : nalu.tail.length = nalu.length - 1 := List.length_tail
  have htwo : 2 ≤ (fuAPackets nalu seq timestamp marker).length ↔ nalu.length ≠ rtpPayloadMax + 1 := by
    rw [fuAPackets_eq h, length_numbered, two_le_length_fuPayloads _ _ _ (by omega)]
    omega
  have hfragment := fuAPackets_fragment h seq timestamp marker
  constructor
  · intro hwf
    exact htwo.mp hwf.two_le
  · intro hlong
    have hlen := htwo.mpr hlong
    have hmem : ∀ p ∈ fuAPackets nalu seq timestamp marker,
        ¬(isStart p ∧ isEnd p) ∧ rtpHeaderSize + 2 < p.length ∧ fuIndicatorOf p &&& 0x1f = 28 ∧
          fuIndicatorOf p &&& 0xe0 = nalu.headD 0 &&& 0xe0 ∧ p.length ≤ rtpMaxPacketSize := by
      intro p hp
      obtain ⟨i, hi, rfl⟩ := List.getElem_of_mem hp
      obtain ⟨payload, m, heq, hfrag⟩ := hfragment i hi
      obtain ⟨hstart, hend, hrest⟩ := hfrag.packetOf timestamp (seq + UInt16.ofNat i) m
      rw [← heq, beq_iff_eq] at hstart hend
      rw [← heq] at hrest
      refine ⟨?_, hrest⟩
      rintro ⟨hs, he⟩
      have h0 := hstart.mp hs
      have h1 := hend.mp he
      omega
    refine ⟨hlen, ?_, ?_, fun p hp => (hmem p hp).1, fun p hp => (hmem p hp).2.1,
      fun p hp => ⟨(hmem p hp).2.2.1, (hmem p hp).2.2.2.1⟩, fun p hp => (hmem p hp).2.2.2.2⟩
    · intro i hi
      obtain ⟨payload, m, heq, hfrag⟩ := hfragment i hi
      have hstart := (hfrag.packetOf timestamp (seq + UInt16.ofNat i) m).1
      rw [← heq, beq_iff_eq] at hstart
      exact hstart
    · intro i hi
      obtain ⟨payload, m, heq, hfrag⟩ := hfragment i hi
      have hend := (hfrag.packetOf timestamp (seq + UInt16.ofNat i) m).2.1
      rw [← heq, beq_iff_eq] at hend
      exact hend

/-- An IDR slice of 1402 bytes is fragmented properly. -/
theorem fuAPackets_wellFormed_iff_sample :
    FuAWellFormed (0x65 :: List.replicate 1401 0x88) (fuAPackets (0x65 :: List.replicate 1401 0x88) 0 0 true) :=
  (fuAPackets_wellFormed_iff (by rw [List.length_cons, List.length_replicate]; decide) 0 0 true).mpr
    (by rw [List.length_cons, List.length_replicate]; decide)

/-- A NAL of 1401 bytes gives one packet with both bits set. -/
theorem fuAPackets_single :
    rtpPayloadMax < (0x65 :: List.replicate 1400 0x88 : Bytes).length ∧
      (fuAPackets (0x65 :: List.replicate 1400 0x88) 0 0 true).length = 1 ∧
      (∀ p ∈ fuAPackets (0x65 :: List.replicate 1400 0x88) 0 0 true, isStart p ∧ isEnd p) ∧
      ¬FuAWellFormed (0x65 :: List.replicate 1400 0x88) (fuAPackets (0x65 :: List.replicate 1400 0x88) 0 0 true) := by
  have hlong : rtpPayloadMax < (0x65 :: List.replicate 1400 0x88 : Bytes).length := by
    rw [List.length_cons, List.length_replicate]
    decide
  have hpackets : fuAPackets (0x65 :: List.replicate 1400 0x88) 0 0 true =
      [packetOf 0 0 true ([0x7c, 0xc5] ++ List.replicate 1400 0x88)] := by
    have hnil : (List.replicate 1400 (0x88 : UInt8)).drop rtpPayloadMax = [] :=
      List.drop_of_length_le (by rw [List.length_replicate]; decide)
    have htake : (List.replicate 1400 (0x88 : UInt8)).take rtpPayloadMax = List.replicate 1400 0x88 :=
      List.take_of_length_le (by rw [List.length_replicate]; decide)
    have hshort : (List.replicate 1400 (0x88 : UInt8)).length ≤ rtpPayloadMax := by
      rw [List.length_replicate]
      decide
    have hne : List.replicate 1400 (0x88 : UInt8) ≠ [] := fun h0 => by
      rw [List.replicate_eq_nil_iff] at h0
      cases h0
    rw [fuAPackets_eq hlong, List.length_cons, List.length_replicate, Nat.add_sub_cancel, List.tail_cons, fuPayloads,
      if_neg hne, hnil, htake, fuPayloads_nil]
    simp only [hshort, decide_true, numbered]
    rfl
  refine ⟨hlong, by rw [hpackets]; rfl, ?_, ?_⟩
  · intro p hp
    rw [hpackets, List.mem_singleton] at hp
    subst hp
    exact ⟨by decide, by decide⟩
  · intro hwf
    have := hwf.two_le
    rw [hpackets] at this
    exact absurd this (by decide)

end MiniRtsp.Rtp
