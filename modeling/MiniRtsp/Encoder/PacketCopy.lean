import MiniRtsp.Encoder.MppEncoder
import MiniRtsp.Lib.Ring

/-!
# Copying out of the vendor ring

The vendor library leaves an encoded packet somewhere in a ring of `bufSize` bytes; a packet that reaches the end of
the ring goes on at its beginning, and an `offset` equal to the size of the ring stands for its beginning.
`copy_vendor_packet` copies in two runs (`memcpyReads`), which together go round the ring
(`memcpyReads_eq`), so that what is returned is the packet (`copyVendorPacket_circular`).
-/

namespace MiniRtsp.Encoder

open Ledger Wire MiniRtsp.Ring

/-- The packets that `copy_vendor_packet` turns away. -/
def VencPacket.Rejected (packet : VencPacket) : Prop :=
  packet.len = 0 ∨ packet.offset > packet.bufSize ∨ packet.len > packet.bufSize

instance (packet : VencPacket) : Decidable packet.Rejected := inferInstanceAs (Decidable (_ ∨ _ ∨ _))

/-- The bytes of a packet, read round the ring. -/
def packetBytes (ring : Nat → UInt8) (packet : VencPacket) : Bytes :=
  (List.range packet.len.toNat).map fun i => ring ((packet.offset.toNat + i) % packet.bufSize.toNat)

/-- The indices of the mapping that the two `memcpy` of `copy_vendor_packet` read, in order. -/
def memcpyReads (packet : VencPacket) : List Nat :=
  let offset := if packet.offset = packet.bufSize then 0 else packet.offset
  let tail := packet.bufSize - offset
  let firstPart := if tail > packet.len then packet.len else tail
  List.range' offset.toNat firstPart.toNat ++ List.range' 0 (packet.len - firstPart).toNat

/-- The descriptors, the mapping and the memory are there. -/
structure CopyAnswers.Granted (answers : CopyAnswers) (ring : Nat → UInt8) : Prop where
  valloc : ∃ fd, answers.valloc = some fd
  dmaFd : ∃ fd, answers.dmaFd = some fd ∧ 0 ≤ fd
  ring : answers.ring = some ring
  malloc : answers.malloc = true

/-- The offset that is copied from. -/
theorem normalized_offset {packet : VencPacket} (hsize : packet.bufSize ≠ 0) (hoffset : packet.offset ≤ packet.bufSize) :
    (if packet.offset = packet.bufSize then 0 else packet.offset).toNat = packet.offset.toNat % packet.bufSize.toNat ∧
      (if packet.offset = packet.bufSize then 0 else packet.offset).toNat < packet.bufSize.toNat := by
  have hpos : packet.bufSize.toNat ≠ 0 := fun h => hsize (UInt32.toNat_inj.mp h)
  have hle := UInt32.le_iff_toNat_le.mp hoffset
  split
  · next heq =>
    rw [heq, Nat.mod_self]
    exact ⟨rfl, by simpa using Nat.pos_of_ne_zero hpos⟩
  · next hne =>
    have hlt : packet.offset.toNat ≠ packet.bufSize.toNat := fun h => hne (UInt32.toNat_inj.mp h)
    exact ⟨(Nat.mod_eq_of_lt (by omega)).symm, by omega⟩

theorem memcpyReads_cellRuns {packet : VencPacket} (hsize : packet.bufSize ≠ 0) (h : ¬ packet.Rejected) :
    memcpyReads packet =
      cellRuns packet.bufSize.toNat (packet.offset.toNat % packet.bufSize.toNat) packet.len.toNat := by
  obtain ⟨-, hoffset, hlen⟩ : packet.len ≠ 0 ∧ packet.offset ≤ packet.bufSize ∧ packet.len ≤ packet.bufSize := by
    simpa [VencPacket.Rejected, not_or] using h
  obtain ⟨hstart, hlt⟩ := normalized_offset hsize hoffset
  unfold memcpyReads cellRuns
  dsimp only
  rw [← hstart]
  generalize (if packet.offset = packet.bufSize then 0 else packet.offset) = offset at *
  have htail : (packet.bufSize - offset).toNat = packet.bufSize.toNat - offset.toNat :=
    UInt32.toNat_sub_of_le _ _ (UInt32.le_iff_toNat_le.mpr (by omega))
  have hfirst : (if packet.bufSize - offset > packet.len then packet.len else packet.bufSize - offset).toNat =
      min packet.len.toNat (packet.bufSize.toNat - offset.toNat) := by
    split
    · next h => have := UInt32.lt_iff_toNat_lt.mp h; omega
    · next h => have := UInt32.le_iff_toNat_le.mp (UInt32.not_lt.mp h); omega
  rw [UInt32.toNat_sub_of_le _ _ (UInt32.le_iff_toNat_le.mpr (by rw [hfirst]; omega)), hfirst]

/-- **The two runs** read the packet round the ring. -/
theorem memcpyReads_eq {packet : VencPacket} (hsize : packet.bufSize ≠ 0) (h : ¬ packet.Rejected) :
    memcpyReads packet =
      (List.range packet.len.toNat).map fun i => (packet.offset.toNat + i) % packet.bufSize.toNat := by
  have hpos : 0 < packet.bufSize.toNat := Nat.pos_of_ne_zero fun h => hsize (UInt32.toNat_inj.mp h)
  have hlen : packet.len.toNat ≤ packet.bufSize.toNat := by
    have : packet.len ≤ packet.bufSize := by
      simp only [VencPacket.Rejected, not_or] at h
      exact UInt32.not_lt.mp h.2.2
    exact UInt32.le_iff_toNat_le.mp this
  rw [memcpyReads_cellRuns hsize h, cellRuns_eq (Nat.mod_lt _ hpos) hlen]
  exact List.map_congr_left fun i _ => Nat.mod_add_mod _ _ _

theorem packetBytes_eq {packet : VencPacket} (ring : Nat → UInt8) (hsize : packet.bufSize ≠ 0)
    (h : ¬ packet.Rejected) : packetBytes ring packet = (memcpyReads packet).map ring := by
  rw [memcpyReads_eq hsize h, List.map_map]
  rfl

theorem copyVendorPacket_rejected {packet : VencPacket} (answers : CopyAnswers)
    (h : packet.Rejected ∨ packet.bufSize = 0) : copyVendorPacket answers packet = (-1, none, []) := by
  unfold copyVendorPacket
  rcases h with (h | h | h) | h
  · simp [h]
  · simp [h]
  · simp [h]
  · simp [h]

theorem copyVendorPacket_copied {packet : VencPacket} {answers : CopyAnswers} {ring : Nat → UInt8}
    (hgranted : answers.Granted ring) (hsize : packet.bufSize ≠ 0) (h : ¬ packet.Rejected) :
    (copyVendorPacket answers packet).1 = asInt packet.len ∧
      (copyVendorPacket answers packet).2.1 = some ((memcpyReads packet).map ring) := by
  obtain ⟨⟨vallocFd, hvalloc⟩, ⟨dmaFd, hdma, hfd⟩, hring, hmalloc⟩ := hgranted
  simp only [VencPacket.Rejected, not_or] at h
  obtain ⟨hlen, hrange⟩ := h
  unfold copyVendorPacket
  rw [if_neg (not_or.mpr ⟨hlen, hsize⟩), if_neg (not_or.mpr hrange)]
  simp only [hvalloc, hdma, hring, hmalloc, if_neg (Int.not_lt.mpr hfd), Bool.not_true, Bool.false_eq_true, if_false]
  refine ⟨trivial, congrArg some ?_⟩
  unfold memcpyReads ringBytes
  dsimp only
  rw [List.map_append, List.range'_eq_map_range, List.range'_eq_map_range, List.map_map, List.map_map]
  rfl

/-- **Copying a packet out of the ring.** A packet is turned away exactly when it is empty or does not fit the ring;
otherwise its bytes are returned in order, and only the ring is read. -/
theorem copyVendorPacket_circular {answers : CopyAnswers} {ring : Nat → UInt8} (packet : VencPacket)
    (hgranted : answers.Granted ring) (hsize : packet.bufSize ≠ 0) :
    (packet.Rejected →
      (copyVendorPacket answers packet).1 = -1 ∧ (copyVendorPacket answers packet).2.1 = none) ∧
    (¬ packet.Rejected →
      (copyVendorPacket answers packet).1 = asInt packet.len ∧
      (copyVendorPacket answers packet).2.1 = some (packetBytes ring packet) ∧
      packetBytes ring packet = (memcpyReads packet).map ring ∧
      ∀ i ∈ memcpyReads packet, i < packet.bufSize.toNat) := by
  refine ⟨fun h => ?_, fun h => ?_⟩
  · rw [copyVendorPacket_rejected answers (.inl h)]
    exact ⟨rfl, rfl⟩
  · obtain ⟨hret, hout⟩ := copyVendorPacket_copied hgranted hsize h
    have hbytes := packetBytes_eq ring hsize h
    refine ⟨hret, by rw [hout, hbytes], hbytes, fun i hi => ?_⟩
    rw [memcpyReads_eq hsize h] at hi
    obtain ⟨j, _, rfl⟩ := List.mem_map.mp hi
    exact Nat.mod_lt _ (Nat.pos_of_ne_zero fun h => hsize (UInt32.toNat_inj.mp h))

/-- A packet of three bytes whose last one lies at the beginning of the ring of four. -/
theorem copyVendorPacket_across :
    (copyVendorPacket ⟨some 3, some 4, some (UInt8.ofNat ·), true⟩ ⟨3, 4, 2⟩).2.1 = some [2, 3, 0] :=
  ((@copyVendorPacket_circular ⟨some 3, some 4, some (UInt8.ofNat ·), true⟩ (UInt8.ofNat ·) ⟨3, 4, 2⟩
    ⟨⟨3, rfl⟩, ⟨4, rfl, by decide⟩, rfl, rfl⟩ (by decide)).2 (by decide)).2.1

end MiniRtsp.Encoder
