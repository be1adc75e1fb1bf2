import MiniRtsp.Lib.Memory
import MiniRtsp.Rtsp.Recording

/-!
# Completing the first access unit

`build_complete_mp4_start_au` down to its sizes and its copies: the buffer is blank until the five `memcpy` have filled
it, and every value a size computation takes is listed. What the function returns is `buildCompleteMp4StartAu`
(`buildCompleteMp4StartAuCall_eq`).

The split of a completed access unit is the stored SPS, the stored PPS and the split of the access unit: no start code
forms or vanishes where they meet, and trimming leaves the parameter sets alone (`nalUnits_completed`).
-/

namespace MiniRtsp.Rtsp

open H264 Memory Occurrence

/-! ## The call -/

/-- What the call leaves: the return value, `*owned_buffer`, what `*write_data` points to, and the values of the
`size_t` computations as they are before any wrapping. -/
structure StartAuCall where
  ret : Int
  ownedBuffer : Option (List (Option UInt8))
  writeData : List (Option UInt8)
  sizes : List Int

/-- The five `memcpy` into a buffer of `total` bytes. -/
def fillStartAu (sps pps accessUnit : Bytes) (total : Nat) : List (Option UInt8) :=
  let buffer := blank total
  let buffer := store buffer 0 annexbStartCode
  let offset := annexbStartCode.length
  let buffer := store buffer offset sps
  let offset := offset + sps.length
  let buffer := store buffer offset annexbStartCode
  let offset := offset + annexbStartCode.length
  let buffer := store buffer offset pps
  let offset := offset + pps.length
  store buffer offset accessUnit

/-- The chained guards of `build_complete_mp4_start_au`: the total size unless one of them fails, and the values that
are computed on the way. -/
def startAuSizes (spsSize ppsSize accessUnitSize : Nat) : Option Nat × List Int :=
  let code : Int := annexbStartCode.length
  let max : Int := sizeMax
  let sizes := [max - code]
  if (spsSize : Int) > max - code ∨ (ppsSize : Int) > max - code then (none, sizes)
  else
    let total := code + spsSize
    let sizes := sizes ++ [total, max - code - ppsSize]
    if total > max - code - ppsSize then (none, sizes)
    else
      let total := total + (code + ppsSize)
      let sizes := sizes ++ [code + ppsSize, total, max - accessUnitSize]
      if total > max - accessUnitSize then (none, sizes)
      else
        let total := total + accessUnitSize
        (some total.toNat, sizes ++ [total])

/-- The values of `offset` while the buffer is filled. -/
def startAuOffsets (spsSize ppsSize : Nat) : List Int :=
  let code : Int := annexbStartCode.length
  [code, code + spsSize, code + spsSize + code, code + spsSize + code + ppsSize]

/-- `build_complete_mp4_start_au`; the caller passes `NULL` in `*owned_buffer`. -/
def buildCompleteMp4StartAuCall (malloc : Bool) (media : RTSPMedia) (accessUnit : Bytes) : StartAuCall :=
  let unchanged := accessUnit.map some
  if accessUnit.length = 0 then ⟨-1, none, unchanged, []⟩
  else if !h264AnnexbContainsType accessUnit nalIdr then ⟨-1, none, unchanged, []⟩
  else
    let hasSps := h264AnnexbContainsType accessUnit nalSps
    let hasPps := h264AnnexbContainsType accessUnit nalPps
    if hasSps && hasPps then ⟨0, none, unchanged, []⟩
    else
      match media.sps, media.pps with
      | some sps, some pps =>
        if sps.length = 0 ∨ pps.length = 0 then ⟨-1, none, unchanged, []⟩
        else
          match startAuSizes sps.length pps.length accessUnit.length with
          | (none, sizes) => ⟨-1, none, unchanged, sizes⟩
          | (some total, sizes) =>
            if !malloc then ⟨-1, none, unchanged, sizes⟩
            else
              let buffer := fillStartAu sps pps accessUnit total
              ⟨0, some buffer, buffer, sizes ++ startAuOffsets sps.length pps.length⟩
      | _, _ => ⟨-1, none, unchanged, []⟩

/-- **The guards** pass exactly the totals that are a `size_t`. -/
theorem startAuSizes_total (spsSize ppsSize accessUnitSize : Nat) :
    (startAuSizes spsSize ppsSize accessUnitSize).1 =
      if 4 + spsSize + (4 + ppsSize) + accessUnitSize ≤ sizeMax then
        some (4 + spsSize + (4 + ppsSize) + accessUnitSize) else none := by
  have hcode : annexbStartCode.length = 4 := rfl
  have hmax : sizeMax = 4294967295 := rfl
  unfold startAuSizes
  dsimp only
  split
  · rw [if_neg (by omega)]
  · split
    · rw [if_neg (by omega)]
    · split
      · rw [if_neg (by omega)]
      · rw [if_pos (by omega)]
        exact congrArg some (by omega)

/-- **No size computation wraps**: every value is a `size_t`. -/
theorem startAuSizes_range {spsSize ppsSize accessUnitSize : Nat} (hsize : accessUnitSize ≤ sizeMax) {s : Int}
    (hs : s ∈ (startAuSizes spsSize ppsSize accessUnitSize).2) : 0 ≤ s ∧ s ≤ sizeMax := by
  have hcode : annexbStartCode.length = 4 := rfl
  have hmax : sizeMax = 4294967295 := rfl
  revert hs
  unfold startAuSizes
  dsimp only
  repeat' split
  all_goals
    intro hs
    simp only [List.cons_append, List.nil_append, List.mem_cons, List.not_mem_nil, or_false] at hs
    omega

/-- **Every byte of the buffer is written.** -/
theorem fillStartAu_eq (sps pps accessUnit : Bytes) {total : Nat}
    (htotal : total = 4 + sps.length + (4 + pps.length) + accessUnit.length) :
    fillStartAu sps pps accessUnit total =
      (annexbStartCode ++ sps ++ annexbStartCode ++ pps ++ accessUnit).map some := by
  have hcode : annexbStartCode.length = 4 := rfl
  have h1 := (written_blank total).store 0 annexbStartCode (sps.length + (4 + pps.length) + accessUnit.length) rfl
    (by omega)
  have h2 := h1.store 4 sps (4 + pps.length + accessUnit.length) rfl (by omega)
  have h3 := h2.store (4 + sps.length) annexbStartCode (pps.length + accessUnit.length) (by simp [hcode]) (by omega)
  have h4 := h3.store (4 + sps.length + 4) pps accessUnit.length (by simp [hcode]; omega) (by omega)
  have h5 := h4.store (4 + sps.length + 4 + pps.length) accessUnit 0 (by simp [hcode]; omega) (by omega)
  exact h5.eq_map

section Call

variable (malloc : Bool) (media : RTSPMedia) (accessUnit : Bytes)

/-- What the guards leave of `buildCompleteMp4StartAu`. -/
theorem buildCompleteMp4StartAu_incomplete {sps pps : Bytes} (h0 : accessUnit.length ≠ 0)
    (hidr : h264AnnexbContainsType accessUnit nalIdr = true)
    (hnot : (h264AnnexbContainsType accessUnit nalSps && h264AnnexbContainsType accessUnit nalPps) = false)
    (hsps : media.sps = some sps) (hpps : media.pps = some pps) (hempty : ¬ (sps.length = 0 ∨ pps.length = 0)) :
    buildCompleteMp4StartAu malloc media accessUnit =
      if malloc = true ∧ 4 + sps.length + (4 + pps.length) + accessUnit.length ≤ sizeMax then
        some ⟨some (annexbStartCode ++ sps ++ annexbStartCode ++ pps ++ accessUnit),
          annexbStartCode ++ sps ++ annexbStartCode ++ pps ++ accessUnit⟩
      else none := by
  have hcode : annexbStartCode.length = 4 := rfl
  have hmax : sizeMax = 4294967295 := rfl
  unfold buildCompleteMp4StartAu
  simp only [if_neg h0, hidr, hnot, hsps, hpps, if_neg hempty, Bool.not_true, Bool.false_eq_true, if_false]
  split
  · rw [if_neg (by omega)]
  · split
    · rw [if_neg (by omega)]
    · split
      · rw [if_neg (by omega)]
      · cases malloc with
        | false => simp
        | true => exact (if_pos ⟨rfl, by omega⟩).symm

/-- **The call** returns what `buildCompleteMp4StartAu` says; when it fails there is no buffer. -/
theorem buildCompleteMp4StartAuCall_eq :
    match buildCompleteMp4StartAu malloc media accessUnit with
    | some start =>
      (buildCompleteMp4StartAuCall malloc media accessUnit).ret = 0 ∧
        (buildCompleteMp4StartAuCall malloc media accessUnit).ownedBuffer = start.ownedBuffer.map (·.map some) ∧
        (buildCompleteMp4StartAuCall malloc media accessUnit).writeData = start.writeData.map some
    | none =>
      (buildCompleteMp4StartAuCall malloc media accessUnit).ret = -1 ∧
        (buildCompleteMp4StartAuCall malloc media accessUnit).ownedBuffer = none := by
  have hbuild := @buildCompleteMp4StartAu_incomplete malloc media accessUnit
  unfold buildCompleteMp4StartAuCall
  by_cases h0 : accessUnit.length = 0
  · simp [buildCompleteMp4StartAu, h0]
  by_cases hidr : h264AnnexbContainsType accessUnit nalIdr = true
  swap
  · simp [buildCompleteMp4StartAu, h0, hidr]
  by_cases hboth : (h264AnnexbContainsType accessUnit nalSps && h264AnnexbContainsType accessUnit nalPps) = true
  · have hunchanged : buildCompleteMp4StartAu malloc media accessUnit = some ⟨none, accessUnit⟩ := by
      simp only [buildCompleteMp4StartAu, if_neg h0, hidr, hboth, Bool.not_true, Bool.false_eq_true, if_false, if_true]
    simp only [hunchanged, if_neg h0, hidr, hboth, Bool.not_true, Bool.false_eq_true, if_false, if_true,
      Option.map_none, and_self]
  cases hsps : media.sps with
  | none => simp [buildCompleteMp4StartAu, h0, hidr, hboth, hsps]
  | some sps =>
    cases hpps : media.pps with
    | none => simp [buildCompleteMp4StartAu, h0, hidr, hboth, hsps, hpps]
    | some pps =>
      by_cases hempty : sps.length = 0 ∨ pps.length = 0
      · simp only [buildCompleteMp4StartAu, if_neg h0, hidr, if_neg hboth, hsps, hpps, if_pos hempty, Bool.not_true,
          Bool.false_eq_true, if_false, and_self]
      rw [hbuild h0 hidr (Bool.eq_false_iff.mpr hboth) hsps hpps hempty]
      have htotal := startAuSizes_total sps.length pps.length accessUnit.length
      simp only [if_neg h0, hidr, if_neg hboth, if_neg hempty, Bool.not_true, Bool.false_eq_true, if_false]
      generalize startAuSizes sps.length pps.length accessUnit.length = guards at htotal ⊢
      obtain ⟨total, sizes⟩ := guards
      split at htotal
      · next hle =>
        subst htotal
        cases malloc with
        | false => simp
        | true =>
          rw [if_pos ⟨rfl, hle⟩]
          simp [fillStartAu_eq sps pps accessUnit rfl]
      · next hgt =>
        subst htotal
        rw [if_neg fun h => hgt h.2]
        exact ⟨rfl, rfl⟩

/-- An offset lies within the total. -/
theorem startAuOffsets_range {spsSize ppsSize accessUnitSize total : Nat} {sizes : List Int}
    (h : startAuSizes spsSize ppsSize accessUnitSize = (some total, sizes)) {s : Int}
    (hs : s ∈ startAuOffsets spsSize ppsSize) : 0 ≤ s ∧ s ≤ sizeMax := by
  have hcode : annexbStartCode.length = 4 := rfl
  have htotal := startAuSizes_total spsSize ppsSize accessUnitSize
  rw [h] at htotal
  split at htotal
  · simp only [startAuOffsets, List.mem_cons, List.not_mem_nil, or_false] at hs
    omega
  · cases htotal

theorem buildCompleteMp4StartAuCall_sizes (hsize : accessUnit.length ≤ sizeMax) {s : Int}
    (hs : s ∈ (buildCompleteMp4StartAuCall malloc media accessUnit).sizes) : 0 ≤ s ∧ s ≤ sizeMax := by
  revert hs
  unfold buildCompleteMp4StartAuCall
  dsimp only
  repeat' split
  -- only behind the guards has anything been computed
  all_goals
    intro hs
    first
    | cases hs
      done
    | next heq => exact startAuSizes_range hsize (by rw [heq]; exact hs)
    | next heq _ => exact startAuSizes_range hsize (by rw [heq]; exact hs)
    | next heq _ =>
      rcases List.mem_append.mp hs with hs | hs
      · exact startAuSizes_range hsize (by rw [heq]; exact hs)
      · exact startAuOffsets_range heq hs

end Call

/-! ## The split of what is completed -/

/-- A start code at the beginning leaves at most one zero byte in front of the first NAL. -/
theorem pieces_of_startCodeSize {accessUnit : Bytes} (h : startCodeSize accessUnit 0 ≠ 0) :
    ∃ z ps, pieces startCode accessUnit = List.replicate z 0x00 :: ps := by
  rw [startCodeSize_eq, List.drop_zero, headCodeSize] at h
  split at h
  · next hlong =>
    obtain ⟨rest, rfl⟩ := hlong
    exact ⟨1, _, pieces_annexbStartCode rest⟩
  · split at h
    · next hshort =>
      obtain ⟨rest, rfl⟩ := hshort
      exact ⟨0, _, FirstSplit.pieces_eq (by simp [startCode]) (firstSplit_self startCode rest)⟩
    · exact absurd rfl h

/-- **Concatenation**: the stored units, and then those of the access unit. -/
theorem nalUnits_completed {sps pps accessUnit : Bytes} (hsps : IsUnit sps) (hpps : IsUnit pps)
    (h : startCodeSize accessUnit 0 ≠ 0) :
    nalUnits (annexbStartCode ++ sps ++ annexbStartCode ++ pps ++ accessUnit) = sps :: pps :: nalUnits accessUnit := by
  obtain ⟨z, ps, hpieces⟩ := pieces_of_startCodeSize h
  have hsps' : strip (sps ++ [0x00]) = sps := by rw [strip_concat_zero, hsps.strip_eq]
  have hpps' : strip (pps ++ List.replicate z 0x00) = pps := by rw [strip_append_zeros, hpps.strip_eq]
  rw [nalUnits, pieces_completed hsps hpps, nalUnits, hpieces, List.tail_cons, List.tail_cons, List.modifyHead_cons,
    units_cons, hsps', if_neg hsps.ne_nil, units_cons, hpps', if_neg hpps.ne_nil]

/-- What a split lists. -/
theorem collect_types {data : Bytes} {capacity : Nat} {vs : List H264NaluView}
    (h : h264AnnexbCollect data capacity = some vs) :
    vs.map (fun v => (v.type, v.bytes data)) = (nalUnits data).map fun u => (unitType u, u) := by
  obtain ⟨hbytes, hok, -, -⟩ := collect_some h
  rw [← hbytes, List.map_map]
  exact List.map_congr_left fun v hv => by rw [(hok v hv).type_eq]; rfl

/-- **The first access unit of a recording.** With both parameter sets it is returned as it is. Otherwise, where memory
can be had, a buffer is returned of which every byte is written and whose split is the stored SPS, the stored PPS and the
split of the access unit. No size wraps, and a failure leaves `*owned_buffer` alone. -/
theorem buildCompleteMp4StartAuCall_completes {bootstrap accessUnit sps pps : Bytes} {allocs : List Bool}
    {media : RTSPMedia} {nalus : List H264NaluView}
    (hcopy : h264AnnexbCopyParameterSets bootstrap allocs = some (sps, pps)) (hsps : media.sps = some sps)
    (hpps : media.pps = some pps) (hsize : accessUnit.length ≤ sizeMax) (hbegins : startCodeSize accessUnit 0 ≠ 0)
    (hcollect : h264AnnexbCollect accessUnit annexbMaxNalus = some nalus) (hidr : ∃ v ∈ nalus, v.type = nalIdr)
    (malloc : Bool) :
    let call := buildCompleteMp4StartAuCall malloc media accessUnit
    let both := (∃ v ∈ nalus, v.type = nalSps) ∧ ∃ v ∈ nalus, v.type = nalPps
    (both → call.ret = 0 ∧ call.ownedBuffer = none ∧ call.writeData = accessUnit.map some) ∧
    (¬ both → malloc = true → 4 + sps.length + (4 + pps.length) + accessUnit.length ≤ sizeMax →
      ∃ buffer : Bytes, call.ret = 0 ∧ call.ownedBuffer = some (buffer.map some) ∧
        call.writeData = buffer.map some ∧
        ∀ capacity, 2 + nalus.length ≤ capacity → ∃ vs, h264AnnexbCollect buffer capacity = some vs ∧
          vs.map (fun v => (v.type, v.bytes buffer)) =
            (nalSps, sps) :: (nalPps, pps) :: nalus.map fun v => (v.type, v.bytes accessUnit)) ∧
    (∀ s ∈ call.sizes, 0 ≤ s ∧ s ≤ sizeMax) ∧
    (call.ret ≠ 0 → call.ownedBuffer = none) := by
  obtain ⟨hfind1, hfind2⟩ := copyParameterSets_some hcopy
  obtain ⟨hu1, ht1⟩ := isUnit_of_find hfind1
  obtain ⟨hu2, ht2⟩ := isUnit_of_find hfind2
  have hcontains : ∀ type, h264AnnexbContainsType accessUnit type = true ↔ ∃ v ∈ nalus, v.type = type := by
    intro type
    rw [containsType_of_collect hcollect, List.any_eq_true]
    simp only [beq_iff_eq]
  have hpos : accessUnit.length ≠ 0 := by
    intro h0
    rw [List.length_eq_zero_iff.mp h0] at hcollect
    cases hcollect
  have hcall := buildCompleteMp4StartAuCall_eq malloc media accessUnit
  dsimp only
  refine ⟨fun hboth => ?_, fun hnot hmalloc htotal => ?_, fun s hs => ?_, fun hret => ?_⟩
  · have hbuild : buildCompleteMp4StartAu malloc media accessUnit = some ⟨none, accessUnit⟩ := by
      simp [buildCompleteMp4StartAu, hpos, (hcontains _).mpr hidr, (hcontains _).mpr hboth.1, (hcontains _).mpr hboth.2]
    rw [hbuild] at hcall
    exact hcall
  · have hhas : (h264AnnexbContainsType accessUnit nalSps && h264AnnexbContainsType accessUnit nalPps) = false := by
      rw [Bool.eq_false_iff, ne_eq, Bool.and_eq_true, hcontains, hcontains]
      exact hnot
    have hne1 := List.length_pos_iff.mpr hu1.ne_nil
    have hne2 := List.length_pos_iff.mpr hu2.ne_nil
    have hbuild := @buildCompleteMp4StartAu_incomplete malloc _ _ _ _ hpos ((hcontains _).mpr hidr) hhas hsps hpps
      (by omega)
    rw [if_pos ⟨hmalloc, htotal⟩] at hbuild
    rw [hbuild] at hcall
    obtain ⟨hret, howned, hwrite⟩ := hcall
    refine ⟨_, hret, howned, hwrite, fun capacity hcapacity => ?_⟩
    have hunits := nalUnits_completed hu1 hu2 hbegins
    have htypes := collect_types hcollect
    have hlen : nalus.length = (nalUnits accessUnit).length := by simpa using congrArg List.length htypes
    have hsplit := collect_eq (annexbStartCode ++ sps ++ annexbStartCode ++ pps ++ accessUnit) capacity
    rw [hunits, List.length_cons, List.length_cons, if_pos (by omega)] at hsplit
    obtain ⟨vs, hvs, -, -⟩ := hsplit
    refine ⟨vs, hvs, ?_⟩
    rw [collect_types hvs, hunits, List.map_cons, List.map_cons, ht1, ht2, htypes]
  · exact buildCompleteMp4StartAuCall_sizes malloc media accessUnit hsize hs
  · cases hbuild : buildCompleteMp4StartAu malloc media accessUnit with
    | none =>
      rw [hbuild] at hcall
      exact hcall.2
    | some start =>
      rw [hbuild] at hcall
      exact absurd hcall.1 hret

/-- A lone IDR slice is completed. -/
theorem buildCompleteMp4StartAuCall_completes_idr :
    ∃ buffer : Bytes, (buildCompleteMp4StartAuCall true bootstrappedMedia [0, 0, 0, 1, 0x65, 0x88]).ownedBuffer =
        some (buffer.map some) ∧
      ∃ vs, h264AnnexbCollect buffer 3 = some vs ∧ vs.map (fun v => (v.type, v.bytes buffer)) =
        [(nalSps, [0x67, 0x64]), (nalPps, [0x68, 0xee]), (nalIdr, [0x65, 0x88])] :=
  have hcopy : h264AnnexbCopyParameterSets [0, 0, 0, 1, 0x67, 0x64, 0, 0, 0, 1, 0x68, 0xee] [true, true] =
      some ([0x67, 0x64], [0x68, 0xee]) := by decide
  have hcollect : h264AnnexbCollect [0, 0, 0, 1, 0x65, 0x88] annexbMaxNalus = some [⟨4, 2, 5⟩] := by decide
  have hcompletes := buildCompleteMp4StartAuCall_completes hcopy rfl rfl (by decide) (by decide) hcollect (by decide) true
  match hcompletes.2.1 (by decide) rfl (by decide) with
  | ⟨buffer, _, howned, _, hsplit⟩ => ⟨buffer, howned, hsplit 3 (by decide)⟩

end MiniRtsp.Rtsp
