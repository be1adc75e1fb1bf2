import MiniRtsp.Muxer.Scanner
import MiniRtsp.Rtsp.AccessUnit

/-!
# What is recorded

The first access unit of a recording is completed with the stored parameter sets where it has none of its own
(`build_complete_mp4_start_au`). The muxer's scan of it agrees with the split on the RTP side, except where two start
codes are adjacent and beyond the capacity of the split (`scanners_disagree`, `scanners_agree`).
-/

namespace MiniRtsp.Rtsp

open H264 Muxer Occurrence

/-- The parameter sets are those of a bootstrap access unit. -/
def StoredSets (media : RTSPMedia) : Prop :=
  ∃ (bootstrap : Bytes) (allocs : List Bool) (sps pps : Bytes), bootstrap.length ≤ intMax ∧
    h264AnnexbCopyParameterSets bootstrap allocs = some (sps, pps) ∧ media.sps = some sps ∧ media.pps = some pps

theorem isUnit_of_find {data u : Bytes} {type : UInt8}
    (h : (nalUnits data).find? (fun u => unitType u == type) = some u) :
    IsUnit u ∧ unitType u = type :=
  ⟨isUnit_of_mem (List.mem_of_find?_eq_some h), by simpa using List.find?_some h⟩

theorem StoredSets.units {media : RTSPMedia} (h : StoredSets media) : ∃ sps pps, media.sps = some sps ∧
    media.pps = some pps ∧ IsUnit sps ∧ unitType sps = nalSps ∧ IsUnit pps ∧ unitType pps = nalPps := by
  obtain ⟨bootstrap, allocs, sps, pps, -, hcopy, hsps, hpps⟩ := h
  obtain ⟨h1, h2⟩ := copyParameterSets_some hcopy
  obtain ⟨hu1, ht1⟩ := isUnit_of_find h1
  obtain ⟨hu2, ht2⟩ := isUnit_of_find h2
  exact ⟨sps, pps, hsps, hpps, hu1, ht1, hu2, ht2⟩

/-- The stored parameter sets can be sent. -/
theorem StoredSets.sendable {media : RTSPMedia} (h : StoredSets media) : SetOk media.sps ∧ SetOk media.pps := by
  obtain ⟨bootstrap, allocs, sps, pps, hlen, hcopy, hsps, hpps⟩ := h
  obtain ⟨h1, h2⟩ := copyParameterSets_some hcopy
  have hle : ∀ {u}, u ∈ nalUnits bootstrap → u.length ≤ intMax := fun hu => (length_le_of_mem hu).trans hlen
  exact ⟨⟨sps, hsps, (isUnit_of_find h1).1.ne_nil, hle (List.mem_of_find?_eq_some h1)⟩,
    ⟨pps, hpps, (isUnit_of_find h2).1.ne_nil, hle (List.mem_of_find?_eq_some h2)⟩⟩

/-! ## The completed access unit -/

theorem pieces_annexbStartCode (rest : Bytes) :
    pieces startCode (annexbStartCode ++ rest) = [0x00] :: pieces startCode rest := by
  have hshort : pieces startCode (startCode ++ rest) = [] :: pieces startCode rest :=
    FirstSplit.pieces_eq (by simp [startCode]) ⟨rfl, fun i hi => by simp at hi⟩
  have hn : ¬startCode <+: 0x00 :: (startCode ++ rest) := by simp [startCode, List.cons_prefix_cons]
  have hlong : annexbStartCode ++ rest = 0x00 :: (startCode ++ rest) := rfl
  rw [hlong, pieces_cons hn, hshort]
  rfl

/-- The pieces of an access unit with both parameter sets in front. -/
theorem pieces_completed {sps pps : Bytes} (hsps : IsUnit sps) (hpps : IsUnit pps) (accessUnit : Bytes) :
    pieces startCode (annexbStartCode ++ sps ++ annexbStartCode ++ pps ++ accessUnit) =
      [0x00] :: (sps ++ [0x00]) :: (pieces startCode accessUnit).modifyHead (pps ++ ·) := by
  rw [List.append_assoc, List.append_assoc, List.append_assoc, pieces_annexbStartCode, hsps.pieces_append,
    pieces_annexbStartCode, hpps.pieces_append]
  rfl

theorem unitType_append {u : Bytes} (hu : u ≠ []) (rest : Bytes) : unitType (u ++ rest) = unitType u := by
  obtain ⟨b, u, rfl⟩ := List.exists_cons_of_ne_nil hu
  rfl

/-- **The completed access unit** shows the muxer an SPS, a PPS and every type of the access unit. -/
theorem inspect_completed {sps pps accessUnit : Bytes} (hsps : IsUnit sps) (hpps : IsUnit pps)
    (hadj : ¬(startCode ++ startCode) <:+: accessUnit) {type : UInt8} (ht : Flagged type) :
    (inspectAnnexbH264 (annexbStartCode ++ sps ++ annexbStartCode ++ pps ++ accessUnit)).has type =
      (unitType sps == type || unitType pps == type || (nalUnits accessUnit).any fun u => unitType u == type) := by
  have hne : type ≠ 0 := by rcases ht with rfl | rfl | rfl <;> decide
  have hdrop := pieces_dropLast_ne_nil accessUnit hadj
  have hunits : ((nalUnits accessUnit).any fun u => unitType u == type) =
      (pieces startCode accessUnit).tail.any fun p => unitType p == type := by rw [nalUnits, any_units hne]
  obtain ⟨p, ps, hps⟩ := List.exists_cons_of_ne_nil (pieces_ne_nil (w := startCode) accessUnit)
  rw [hps] at hdrop hunits
  rw [inspect_eq, has_scanned _ ht, pieces_completed hsps hpps, hps, hunits, List.tail_cons, List.modifyHead_cons,
    any_visible hne]
  · simp only [List.any_cons, unitType_append hsps.ne_nil, unitType_append hpps.ne_nil, List.tail_cons, Bool.or_assoc]
  · intro q hq
    rw [List.dropLast_cons_of_ne_nil (by simp), List.mem_cons] at hq
    rcases hq with rfl | hq
    · simp
    · cases ps with
      | nil => simp at hq
      | cons r rs =>
        rw [List.dropLast_cons_of_ne_nil (by simp), List.mem_cons] at hq
        rcases hq with rfl | hq
        · simp [hpps.ne_nil]
        · exact hdrop q (by simpa using hq)

/-- What `build_complete_mp4_start_au` returns: the access unit has an IDR NAL, and it is returned as it is when it has
both parameter sets, completed otherwise. -/
theorem buildCompleteMp4StartAu_some {malloc : Bool} {media : RTSPMedia} {accessUnit : Bytes} {start : StartAu}
    (h : buildCompleteMp4StartAu malloc media accessUnit = some start) :
    h264AnnexbContainsType accessUnit nalIdr = true ∧
    ((h264AnnexbContainsType accessUnit nalSps = true ∧ h264AnnexbContainsType accessUnit nalPps = true ∧
        start.writeData = accessUnit) ∨
      ¬(h264AnnexbContainsType accessUnit nalSps = true ∧ h264AnnexbContainsType accessUnit nalPps = true) ∧
      ∃ sps pps, media.sps = some sps ∧ media.pps = some pps ∧
        start.writeData = annexbStartCode ++ sps ++ annexbStartCode ++ pps ++ accessUnit) := by
  unfold buildCompleteMp4StartAu at h
  split at h
  · cases h
  · split at h
    · cases h
    · rename_i hidr
      refine ⟨by simpa using hidr, ?_⟩
      dsimp only at h
      split at h
      · rename_i hboth
        cases h
        rw [Bool.and_eq_true] at hboth
        exact .inl ⟨hboth.1, hboth.2, rfl⟩
      · rename_i hboth
        rw [Bool.and_eq_true] at hboth
        split at h
        · rename_i sps pps hsps hpps
          repeat' split at h
          all_goals cases h
          exact .inr ⟨hboth, sps, pps, hsps, hpps, rfl⟩
        · cases h

/-- The flags of what `build_complete_mp4_start_au` returns. -/
theorem inspect_start {media : RTSPMedia} (hstored : StoredSets media) {malloc : Bool} {accessUnit : Bytes}
    {start : StartAu} (hadj : ¬(startCode ++ startCode) <:+: accessUnit)
    (h : buildCompleteMp4StartAu malloc media accessUnit = some start) {type : UInt8} (ht : Flagged type) :
    (inspectAnnexbH264 start.writeData).has type = true := by
  obtain ⟨sps, pps, hsps, hpps, hu1, ht1, hu2, ht2⟩ := hstored.units
  obtain ⟨hidr, hstart⟩ := buildCompleteMp4StartAu_some h
  have hcontains : ∀ t, h264AnnexbContainsType accessUnit t = true →
      ((nalUnits accessUnit).any fun u => unitType u == t) = true := fun t hc => by
    rw [containsType_eq, Bool.and_eq_true] at hc
    exact hc.2
  rcases hstart with ⟨h7, h8, hdata⟩ | ⟨-, sps', pps', hsps', hpps', hdata⟩
  · rw [hdata, inspect_any hadj ht]
    rcases ht with rfl | rfl | rfl
    · exact hcontains _ hidr
    · exact hcontains _ h7
    · exact hcontains _ h8
  · rw [hsps] at hsps'
    rw [hpps] at hpps'
    cases hsps'
    cases hpps'
    rw [hdata, inspect_completed hu1 hu2 hadj ht, ht1, ht2]
    rcases ht with rfl | rfl | rfl
    · rw [hcontains _ hidr, Bool.or_true]
    · simp
    · simp

/-! ## The two scanners -/

/-- Behind two adjacent start codes the muxer's scan misses the IDR slice that the split finds; of 65 IDR slices the
scan reports one where the split, full after 64, reports none. -/
theorem scanners_disagree :
    (inspectAnnexbH264 [0x00, 0x00, 0x01, 0x00, 0x00, 0x01, 0x65]).hasIdr = false ∧
      h264AnnexbContainsType [0x00, 0x00, 0x01, 0x00, 0x00, 0x01, 0x65] nalIdr = true ∧
    (inspectAnnexbH264 (List.replicate 65 [0x00, 0x00, 0x01, 0x65]).flatten).hasIdr = true ∧
      h264AnnexbContainsType (List.replicate 65 [0x00, 0x00, 0x01, 0x65]).flatten nalIdr = false := by
  decide +kernel

/-- **The two scanners agree** where no two start codes are adjacent: within the capacity of the split they report the
same types, beyond it the split reports none. The first access unit of a recording is never refused as incomplete, and
the key-frame flag is the IDR decision of the RTP side. -/
theorem scanners_agree {data : Bytes} (hadj : ¬(startCode ++ startCode) <:+: data) :
    ((nalUnits data).length ≤ annexbMaxNalus →
      (inspectAnnexbH264 data).hasIdr = h264AnnexbContainsType data nalIdr ∧
      (inspectAnnexbH264 data).hasSps = h264AnnexbContainsType data nalSps ∧
      (inspectAnnexbH264 data).hasPps = h264AnnexbContainsType data nalPps ∧
      ∀ rkmuxerWrite muxer ptsUs frame, (mp4MuxerWriteH264 rkmuxerWrite muxer data ptsUs).pushed = some frame →
        frame.keyFrame = h264AnnexbContainsType data nalIdr) ∧
    (annexbMaxNalus < (nalUnits data).length → ∀ type, h264AnnexbContainsType data type = false) ∧
    ∀ media malloc start, StoredSets media → buildCompleteMp4StartAu malloc media data = some start →
      ∀ rkmuxerWrite muxer ptsUs,
        (mp4MuxerWriteH264 rkmuxerWrite muxer start.writeData ptsUs).error ≠ some .firstIncomplete ∧
        ∀ frame, (mp4MuxerWriteH264 rkmuxerWrite muxer start.writeData ptsUs).pushed = some frame →
          frame.keyFrame = h264AnnexbContainsType data nalIdr := by
  refine ⟨?_, ?_, ?_⟩
  · intro hfew
    have hflag : ∀ {type}, Flagged type → (inspectAnnexbH264 data).has type = h264AnnexbContainsType data type :=
      fun ht => by rw [inspect_any hadj ht, containsType_eq, decide_eq_true hfew, Bool.true_and]
    have hidr : (inspectAnnexbH264 data).hasIdr = h264AnnexbContainsType data nalIdr := hflag (.inl rfl)
    refine ⟨hidr, hflag (.inr (.inl rfl)), hflag (.inr (.inr rfl)), ?_⟩
    intro _ _ _ frame hframe
    rw [pushed_keyFrame hframe, hidr]
  · intro hmany type
    rw [containsType_eq, decide_eq_false (by omega), Bool.false_and]
  · intro media malloc start hstored hstart rkmuxerWrite muxer ptsUs
    have hall : ∀ {type}, Flagged type → (inspectAnnexbH264 start.writeData).has type = true :=
      fun ht => inspect_start hstored hadj hstart ht
    constructor
    · intro herr
      obtain ⟨type, ht, hmissing⟩ := firstIncomplete_missing herr
      rw [hall ht] at hmissing
      cases hmissing
    · intro frame hframe
      rw [pushed_keyFrame hframe, (buildCompleteMp4StartAu_some hstart).1]
      exact hall (.inl rfl)

/-- A pipeline after its bootstrap access unit. -/
def bootstrappedMedia : RTSPMedia :=
  { RTSPMedia.zero with sps := some [0x67, 0x64], pps := some [0x68, 0xee], initialized := true }

/-- A lone IDR slice: the scanners agree on it, and completed it is accepted as a key frame. -/
theorem scanners_agree_idr :
    (inspectAnnexbH264 [0, 0, 0, 1, 0x65, 0x88]).hasIdr = h264AnnexbContainsType [0, 0, 0, 1, 0x65, 0x88] nalIdr ∧
    (mp4MuxerWriteH264 0 { Mp4Muxer.zero with initialized := true, lastPtsUs := -1 }
      [0, 0, 0, 1, 0x67, 0x64, 0, 0, 0, 1, 0x68, 0xee, 0, 0, 0, 1, 0x65, 0x88] 0).error ≠ some .firstIncomplete :=
  have agree := scanners_agree (show ¬(startCode ++ startCode) <:+: [0, 0, 0, 1, 0x65, 0x88] by decide)
  ⟨(agree.1 (by decide)).1,
    (agree.2.2 bootstrappedMedia true
      ⟨some [0, 0, 0, 1, 0x67, 0x64, 0, 0, 0, 1, 0x68, 0xee, 0, 0, 0, 1, 0x65, 0x88],
        [0, 0, 0, 1, 0x67, 0x64, 0, 0, 0, 1, 0x68, 0xee, 0, 0, 0, 1, 0x65, 0x88]⟩
      ⟨[0, 0, 0, 1, 0x67, 0x64, 0, 0, 0, 1, 0x68, 0xee, 0, 0, 0, 1, 0x65], [true, true], [0x67, 0x64], [0x68, 0xee],
        by decide, by decide, rfl, rfl⟩
      (by decide) 0 _ 0).1⟩

end MiniRtsp.Rtsp
