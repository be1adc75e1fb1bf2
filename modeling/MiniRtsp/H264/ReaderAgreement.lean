import MiniRtsp.H264.Reader

/-!
# The file reader and the split

`h264_reader_read` takes what stands between two start codes as it is, where `h264_annexb_collect` drops trailing zeros
and empty units; it does not see a start code in the last three bytes. Called until it returns 0 it stays inside its
buffers and yields the units of the split exactly for the files in which nothing but start codes of three or four bytes
stands between non-empty units (`Clean`, `reader_agrees_iff`).
-/

namespace MiniRtsp.H264

open Occurrence

/-! ## Files without padding -/

/-- Behind a start code: units with one start code of three or four bytes between them, up to the end. -/
def Tight (b : Bytes) : Prop :=
  ∃ u nals, b = u ++ serialize nals ∧ IsNal u ∧ ∀ p ∈ nals, (p.1 = 2 ∨ p.1 = 3) ∧ IsNal p.2

/-- The file has no start code, or only one of three bytes at its end, or is tight behind the first one. -/
def Clean (content : Bytes) : Prop :=
  ∀ lead rest, FirstSplit startCode content lead rest → rest = [] ∧ lead.getLast? ≠ some 0 ∨ Tight rest

theorem isNal_of_strip {u : Bytes} (hne : u ≠ []) (hstrip : strip u = u) (hcode : ¬startCode <:+: u) : IsNal u := by
  refine ⟨hne, fun hlast => ?_, hcode⟩
  have hunit : IsUnit u := ⟨hne, hstrip, hcode⟩
  rw [List.getLast?_eq_some_getLast hne, Option.some.injEq] at hlast
  exact hunit.getLast_ne_zero hne hlast

/-- The start code behind bytes that contain none and do not end in a zero is found whole. -/
theorem findCode_behind {z : Nat} (hz : z = 2 ∨ z = 3) (rest : Bytes) : ∀ {u : Bytes}, u.getLast? ≠ some 0 →
    ¬startCode <:+: u → findCode (u ++ (codeOf z ++ rest)) = some (u.length, z + 1)
  | [], _, _ => by
    rcases hz with rfl | rfl <;> simp [codeOf, findCode, headCodeSize, startCode, List.replicate, List.cons_prefix_cons]
  | x :: u, hlast, hcode => by
    have hunit : IsUnit (x :: u) := (IsNal.mk (by simp) hlast hcode).isUnit
    have hshort : ¬startCode <+: x :: (u ++ (codeOf z ++ rest)) :=
      hunit.not_prefix (codeOf z ++ rest) (List.suffix_refl _) (by simp)
    have hhead : headCodeSize (x :: (u ++ (codeOf z ++ rest))) = 0 := by
      unfold headCodeSize
      rw [if_neg ?_, if_neg hshort]
      intro hlong
      obtain ⟨rfl, hnext⟩ := List.cons_prefix_cons.mp hlong
      cases u with
      | nil => exact hlast rfl
      | cons y u => exact hunit.not_prefix _ (List.suffix_cons _ _) (by simp) hnext
    have hlast' : u.getLast? ≠ some 0 := by
      cases u with
      | nil => simp
      | cons y u => rwa [List.getLast?_cons_cons] at hlast
    have ih := findCode_behind hz rest hlast' fun h => hcode (List.infix_cons h)
    rw [List.cons_append, findCode, if_neg (by simpa using hhead), ih]
    rfl

/-- In a tight file the next start code stands behind the first unit, if there is one. -/
theorem Tight.next {b : Bytes} (h : Tight b) :
    IsNal b ∧ findCode b = none ∨
    ∃ u z rest, IsNal u ∧ (z = 2 ∨ z = 3) ∧ Tight rest ∧ b = u ++ (codeOf z ++ rest) ∧
      findCode b = some (u.length, z + 1) := by
  obtain ⟨u, nals, rfl, hu, hnals⟩ := h
  cases nals with
  | nil =>
    rw [serialize_nil, List.append_nil]
    refine .inl ⟨hu, ?_⟩
    cases hfind : findCode u with
    | none => rfl
    | some r =>
      obtain ⟨a, rest, z, hsplit, -⟩ := findCode_some hfind
      exact absurd hsplit.infix hu.noCode
  | cons p nals =>
    obtain ⟨hz, hp⟩ := hnals p (by simp)
    refine .inr ⟨u, p.1, p.2 ++ serialize nals, hu, hz, ?_, by rw [serialize_cons], ?_⟩
    · exact ⟨p.2, nals, rfl, hp, fun q hq => hnals q (by simp [hq])⟩
    · rw [serialize_cons]
      exact findCode_behind hz _ hu.last hu.noCode

theorem Tight.ne_nil {b : Bytes} (h : Tight b) : b ≠ [] := by
  obtain ⟨u, nals, rfl, hu, -⟩ := h
  simp [hu.ne_nil]

/-- A start code and what follows it. -/
theorem code_split {d : Bytes} (h : headCodeSize d ≠ 0) :
    ∃ z, (z = 2 ∨ z = 3) ∧ headCodeSize d = z + 1 ∧ d = codeOf z ++ d.drop (z + 1) := by
  unfold headCodeSize at h ⊢
  split
  · rename_i h4
    obtain ⟨t, rfl⟩ := h4
    exact ⟨3, .inr rfl, rfl, rfl⟩
  · rename_i h4
    split
    · rename_i h3
      obtain ⟨t, rfl⟩ := h3
      exact ⟨2, .inl rfl, rfl, rfl⟩
    · rename_i h3
      rw [if_neg h4, if_neg h3] at h
      exact absurd rfl h

/-! ## One unit of the split -/

theorem strip_of_mem_units {u : Bytes} {ps : List Bytes} (h : u ∈ units ps) : strip u = u ∧ u ≠ [] := by
  unfold units at h
  rw [List.mem_filter, List.mem_map] at h
  obtain ⟨⟨p, -, rfl⟩, hne⟩ := h
  exact ⟨List.rdropWhile_idempotent _ _, by simpa using hne⟩

theorem no_code_of_mem_units {b u : Bytes} (h : u ∈ units (pieces startCode b)) : ¬startCode <:+: u := by
  unfold units at h
  rw [List.mem_filter, List.mem_map] at h
  obtain ⟨⟨p, hp, rfl⟩, -⟩ := h
  have hcode := not_infix_of_mem_pieces (by simp [startCode]) hp
  exact fun hi => hcode (hi.trans (List.rdropWhile_prefix _ _).isInfix)

/-- The split at the first start code. -/
theorem units_next {b : Bytes} {j s : Nat} (h : findCode b = some (j, s)) :
    units (pieces startCode b) = units [b.take j] ++ units (pieces startCode (b.drop (j + s))) ∧
      ¬startCode <:+: b.take j := by
  obtain ⟨a, rest, z, hsplit, hlen, -, ha⟩ := findCode_some h
  have hpieces := hsplit.pieces_eq (by simp [startCode])
  have hrest : b.drop (j + s) = rest := by
    rw [hsplit.eq, hlen, ← List.append_assoc]
    exact List.drop_left' (by simp [startCode])
  have hcode : ¬startCode <:+: a := not_infix_of_mem_pieces (by simp [startCode]) (by rw [hpieces]; simp)
  constructor
  · rw [hpieces, hrest, ← List.singleton_append, units_append]
    congr 1
    rw [units_cons, units_cons, ha, strip_append_zeros]
  · exact fun hi => hcode (ha ▸ hi.trans (List.infix_append' [] _ _))

/-- A unit that is taken as it is, is that of the split when it has no zeros to drop. -/
theorem cons_eq_units {t : Bytes} (ht : t ≠ []) (R ps : List Bytes) :
    t :: R = units [t] ++ units ps ↔ strip t = t ∧ R = units ps := by
  rw [units_cons, units_nil]
  by_cases hstrip : strip t = []
  · rw [if_pos hstrip, List.nil_append]
    refine iff_of_false (fun h => ?_) fun h => ht (h.1 ▸ hstrip)
    have hmem : t ∈ units ps := by rw [← h]; simp
    exact ht ((strip_of_mem_units hmem).1 ▸ hstrip)
  · rw [if_neg hstrip, List.singleton_append, List.cons.injEq, eq_comm]

/-- A unit that a start code follows. -/
theorem tight_next {b : Bytes} {j s : Nat} (h : findCode b = some (j, s)) (hj : 0 < j) :
    Tight b ↔ strip (b.take j) = b.take j ∧ Tight (b.drop (j + s)) := by
  constructor
  · intro ht
    rcases ht.next with ⟨-, hnone⟩ | ⟨u, z, rest, hu, -, hrest, rfl, hfind⟩
    · rw [h] at hnone
      cases hnone
    · rw [h, Option.some.injEq, Prod.mk.injEq] at hfind
      obtain ⟨rfl, rfl⟩ := hfind
      rw [List.take_left]
      refine ⟨hu.isUnit.strip_eq, ?_⟩
      rwa [← List.append_assoc, List.drop_left' (by simp [codeOf])]
  · rintro ⟨hstrip, u, nals, hrest, hu, hnals⟩
    obtain ⟨hs, hne, -⟩ := findCode_at h
    obtain ⟨z, hz, hsize, hcode⟩ := code_split (hs ▸ hne)
    obtain rfl : s = z + 1 := hs.trans hsize
    have hb : b ≠ [] := by
      rintro rfl
      cases h
    have htake : b.take j ≠ [] := by
      rw [Ne, List.take_eq_nil_iff]
      exact fun h => h.elim (by omega) hb
    refine ⟨b.take j, (z, u) :: nals, ?_, isNal_of_strip htake hstrip (units_next h).2, ?_⟩
    · calc b
        _ = b.take j ++ b.drop j := (List.take_append_drop j b).symm
        _ = b.take j ++ (codeOf z ++ b.drop (j + (z + 1))) := by rw [hcode, List.drop_drop]
        _ = b.take j ++ serialize ((z, u) :: nals) := by rw [hrest, serialize_cons]
    · rintro p hp
      rcases List.mem_cons.mp hp with rfl | hp
      · exact ⟨hz, hu⟩
      · exact hnals p hp

/-- A unit that the reader takes up to the end. -/
theorem tight_last {b : Bytes} (h : readerCode b = none) (hb : b ≠ []) :
    Tight b ↔ [b] = units (pieces startCode b) := by
  cases hfind : findCode b with
  | none =>
    have hcode := findCode_none hfind
    have hunits := cons_eq_units hb [] []
    rw [units_nil, List.append_nil] at hunits
    rw [pieces_no_code hcode, hunits]
    constructor
    · intro ht
      rcases ht.next with ⟨hnal, -⟩ | ⟨u, z, rest, -, -, -, -, hsome⟩
      · exact ⟨hnal.isUnit.strip_eq, rfl⟩
      · rw [hfind] at hsome
        cases hsome
    · rintro ⟨hstrip, -⟩
      exact ⟨b, [], by simp, isNal_of_strip hb hstrip hcode, by simp⟩
  | some r =>
    -- the last three bytes are a start code, so `b` is no unit
    have hshort : ¬r.1 + 3 < b.length := by
      intro hlt
      rw [readerCode, hfind, Option.bind_some, if_pos hlt] at h
      cases h
    refine iff_of_false (fun ht => ?_) fun hunits => ?_
    · rcases ht.next with ⟨-, hnone⟩ | ⟨u, z, rest, -, hz, hrest, hsplit, hsome⟩
      · rw [hfind] at hnone
        cases hnone
      · rw [hfind, Option.some.injEq] at hsome
        have hpos := List.length_pos_iff.mpr hrest.ne_nil
        rw [hsome, hsplit] at hshort
        simp only [codeOf, List.length_append, List.length_replicate, List.length_singleton] at hshort
        omega
    · obtain ⟨a, rest, z, hsplit, -⟩ := findCode_some hfind
      have hmem : b ∈ units (pieces startCode b) := by rw [← hunits]; simp
      exact no_code_of_mem_units hmem hsplit.infix

/-- Of a tight file the reader never takes an empty unit. -/
theorem Tight.readerNal_ne_nil {b : Bytes} (h : Tight b) : readerNal b ≠ [] := by
  unfold readerNal
  cases hnext : readerCode b with
  | none => exact h.ne_nil
  | some j =>
    obtain ⟨s, hfind, -⟩ := readerCode_some hnext
    rcases h.next with ⟨-, hnone⟩ | ⟨u, z, rest, hu, -, -, rfl, hsome⟩
    · rw [hfind] at hnone
      cases hnone
    · rw [hfind, Option.some.injEq, Prod.mk.injEq] at hsome
      rw [hsome.1]
      dsimp only
      rw [List.take_left]
      exact hu.ne_nil

/-! ## All calls -/

/-- The calls returned these NALs, one after the other, and then 0. -/
def Yields (r : Reading) (us : List Bytes) : Prop :=
  ∃ nalus, r = .done nalus ∧
    (∀ nalu ∈ nalus, 1 ≤ nalu.size ∧ nalu.size = nalu.data.length ∧ nalu.type = unitType nalu.data) ∧
    nalus.map (·.data) = us

theorem yields_nil (us : List Bytes) : Yields (.done []) us ↔ [] = us := by
  constructor
  · rintro ⟨nalus, hdone, -, hus⟩
    rw [Reading.done.injEq] at hdone
    rw [← hus, ← hdone]
    rfl
  · rintro rfl
    exact ⟨[], rfl, by simp, rfl⟩

theorem not_yields_fault (nalus : List H264NALU) (us : List Bytes) : ¬Yields (.fault nalus) us := by
  rintro ⟨nalus', hdone, -⟩
  cases hdone

/-- One NAL and the calls that follow. -/
theorem yields_cons {u : Bytes} (hu : u ≠ []) (r : Reading) (us : List Bytes) :
    Yields (r.cons ⟨u, u.length, unitType u⟩) us ↔ ∃ vs, Yields r vs ∧ u :: vs = us := by
  constructor
  · rintro ⟨nalus, hdone, hok, rfl⟩
    cases r with
    | done rest =>
      rw [Reading.cons, Reading.done.injEq] at hdone
      subst hdone
      exact ⟨rest.map (·.data), ⟨rest, rfl, fun n hn => hok n (by simp [hn]), rfl⟩, rfl⟩
    | fault rest => cases hdone
    | more rest => cases hdone
  · rintro ⟨vs, ⟨nalus, rfl, hok, rfl⟩, rfl⟩
    refine ⟨_ :: nalus, rfl, fun n hn => ?_, rfl⟩
    rcases List.mem_cons.mp hn with rfl | hn
    · exact ⟨List.length_pos_iff.mpr hu, rfl, rfl⟩
    · exact hok n hn

/-- A NAL in front does not change whether the calls come to an end. -/
theorem cons_ne_more {r : Reading} (hends : ∀ nalus, r ≠ .more nalus) (nalu : H264NALU) (nalus : List H264NALU) :
    r.cons nalu ≠ .more nalus := by
  intro h
  cases r with
  | more rest => exact hends rest rfl
  | done rest => cases h
  | fault rest => cases h

/-- The last call but one takes all that is left. -/
theorem yields_last {b : Bytes} (hnext : readerCode b = none) (hb : b ≠ []) :
    Yields (Reading.cons ⟨b, b.length, unitType b⟩ (.done [])) (units (pieces startCode b)) ↔ Tight b := by
  rw [yields_cons hb, tight_last hnext hb]
  simp only [yields_nil, exists_eq_left']

/-- A call that takes a unit, when the calls behind it are as they should be. -/
theorem yields_next {b : Bytes} {j s : Nat} (hfind : findCode b = some (j, s)) (hj : 0 < j) (htake : b.take j ≠ [])
    {later : Reading}
    (hlater : Yields later (units (pieces startCode (b.drop (j + s)))) ↔ Tight (b.drop (j + s))) :
    Yields (later.cons ⟨b.take j, (b.take j).length, unitType (b.take j)⟩) (units (pieces startCode b)) ↔ Tight b := by
  rw [yields_cons htake, (units_next hfind).1, tight_next hfind hj]
  simp only [cons_eq_units htake]
  constructor
  · rintro ⟨vs, hvs, hstrip, rfl⟩
    exact ⟨hstrip, hlater.mp hvs⟩
  · rintro ⟨hstrip, ht⟩
    exact ⟨_, hlater.mpr ht, hstrip, rfl⟩

/-- **Behind a start code** the calls yield the units of the split exactly when the rest of the file is tight; in any
case they come to an end. -/
theorem readAll_behind : ∀ (calls : Nat) {reader : H264Reader} {d : Bytes} {o s : Nat},
    reader.buffer.drop reader.pos = d → findCode d = some (o, s) → o + 3 < d.length → d.length - (o + s) < calls →
    (∀ nalus, readAll calls reader ≠ .more nalus) ∧
      (Yields (readAll calls reader) (units (pieces startCode (d.drop (o + s)))) ↔ Tight (d.drop (o + s)))
  | 0, _, _, _, _, _, _, _, hcalls => absurd hcalls (Nat.not_lt_zero _)
  | calls + 1, reader, d, o, s, hd, hfind, hlong, hcalls => by
    have hread := h264ReaderRead_some hd hfind hlong
    generalize hb : d.drop (o + s) = b at hread ⊢
    have hlen := congrArg List.length hb
    rw [List.length_drop] at hlen
    rw [readAll, hread]
    by_cases hnal : readerNal b = []
    · rw [if_pos hnal]
      exact ⟨(fun _ h => by cases h), iff_of_false (not_yields_fault _ _) fun ht => ht.readerNal_ne_nil hnal⟩
    · rw [if_neg hnal]
      dsimp only
      have hbehind : reader.buffer.drop (reader.pos + (o + s) + (readerNal b).length) =
          b.drop (readerNal b).length := by
        rw [← List.drop_drop, ← List.drop_drop, hd, hb]
      cases hnext : readerCode b with
      | none =>
        have hall : readerNal b = b := by rw [readerNal, hnext]
        rw [hall] at hnal hbehind ⊢
        have hpos := List.length_pos_iff.mpr hnal
        obtain ⟨calls, rfl⟩ : ∃ k, calls = k + 1 := ⟨calls - 1, by omega⟩
        have hend : readAll (calls + 1) { reader with pos := reader.pos + (o + s) + b.length } = .done [] := by
          rw [readAll, h264ReaderRead_none (by dsimp only; rw [hbehind, List.drop_length]; rfl)]
        rw [hend]
        exact ⟨cons_ne_more (fun _ h => by cases h) _, yields_last hnext hnal⟩
      | some j =>
        obtain ⟨s', hfind', hj⟩ := readerCode_some hnext
        have htake : readerNal b = b.take j := by rw [readerNal, hnext]
        have hlenj : (b.take j).length = j := by rw [List.length_take]; omega
        rw [htake] at hnal hbehind ⊢
        have hsub : 0 + 3 < (b.drop j).length := by rw [List.length_drop]; omega
        have hj0 : 0 < j := by
          by_contra hzero
          exact hnal (by rw [show j = 0 by omega, List.take_zero])
        rw [hlenj] at hbehind
        obtain ⟨hends, hyields⟩ :=
          @readAll_behind calls { reader with pos := reader.pos + (o + s) + (b.take j).length } _ 0 s'
            (by rw [hlenj]; exact hbehind) (findCode_drop hfind') hsub (by rw [List.length_drop]; omega)
        rw [List.drop_drop, Nat.zero_add] at hyields
        exact ⟨cons_ne_more hends _, yields_next hfind' hj0 hnal hyields⟩

/-! ## A whole file -/

/-- The NALs of `h264_annexb_collect`: type and bytes. -/
def collected (content : Bytes) (capacity : Nat) : List (UInt8 × Bytes) :=
  ((h264AnnexbCollect content capacity).getD []).map fun v => (v.type, v.bytes content)

/-- Called until it returns 0, `h264_reader_read` stays inside its buffers, returns non-empty NALs only, and those of
`h264_annexb_collect` with room for all. -/
def ReadsLikeCollect (content : Bytes) : Prop :=
  ∃ nalus, readAll (content.length + 1) ⟨content, 0⟩ = .done nalus ∧
    (∀ nalu ∈ nalus, 1 ≤ nalu.size ∧ nalu.size = nalu.data.length) ∧
    ∃ enough, ∀ capacity, enough ≤ capacity →
      nalus.map (fun nalu => (nalu.type, nalu.data)) = collected content capacity

theorem collected_eq {content : Bytes} {capacity : Nat} (h : (nalUnits content).length ≤ capacity) :
    collected content capacity = (nalUnits content).map fun u => (unitType u, u) := by
  have hcollect := collect_eq content capacity
  unfold collected
  by_cases hsome : 1 ≤ (nalUnits content).length
  · rw [if_pos ⟨hsome, h⟩] at hcollect
    obtain ⟨vs, hvs, hbytes, hok⟩ := hcollect
    rw [hvs, ← hbytes, Option.getD_some, List.map_map]
    exact List.map_congr_left fun v hv => by rw [Function.comp_apply, (hok v hv).type_eq]
  · rw [if_neg fun h => hsome h.1] at hcollect
    rw [hcollect, List.eq_nil_of_length_eq_zero (show (nalUnits content).length = 0 by omega)]
    rfl

theorem readsLikeCollect_iff (content : Bytes) :
    ReadsLikeCollect content ↔ Yields (readAll (content.length + 1) ⟨content, 0⟩) (nalUnits content) := by
  constructor
  · rintro ⟨nalus, hdone, hsize, enough, heq⟩
    have hpairs := heq (max enough (nalUnits content).length) (Nat.le_max_left _ _)
    rw [collected_eq (Nat.le_max_right _ _)] at hpairs
    refine ⟨nalus, hdone, fun nalu hn => ⟨(hsize nalu hn).1, (hsize nalu hn).2, ?_⟩, ?_⟩
    · have hmem : (nalu.type, nalu.data) ∈ (nalUnits content).map fun u => (unitType u, u) := by
        rw [← hpairs]
        exact List.mem_map.mpr ⟨nalu, hn, rfl⟩
      obtain ⟨u, -, hu⟩ := List.mem_map.mp hmem
      obtain ⟨htype, rfl⟩ := Prod.mk.inj hu
      exact htype.symm
    · simpa [Function.comp_def] using congrArg (List.map Prod.snd) hpairs
  · rintro ⟨nalus, hdone, hok, hdata⟩
    refine ⟨nalus, hdone, fun nalu hn => ⟨(hok nalu hn).1, (hok nalu hn).2.1⟩, (nalUnits content).length, ?_⟩
    intro capacity hcapacity
    rw [collected_eq hcapacity, ← hdata, List.map_map]
    exact List.map_congr_left fun nalu hn => by rw [Function.comp_apply, (hok nalu hn).2.2]

/-- The first start code splits the file; a zero in front of `00 00 01` belongs to it. -/
theorem findCode_split {content : Bytes} {o s : Nat} (h : findCode content = some (o, s)) :
    ∃ lead, FirstSplit startCode content lead (content.drop (o + s)) ∧ o + s = lead.length + 3 ∧ 3 ≤ s ∧
      nalUnits content = units (pieces startCode (content.drop (o + s))) ∧ (s = 3 ↔ lead.getLast? ≠ some 0) := by
  obtain ⟨lead, rest, z, hsplit, hlen, hs, hlead⟩ := findCode_some h
  have hrest : content.drop (o + s) = rest := by
    rw [hsplit.eq, hlen, ← List.append_assoc]
    exact List.drop_left' (by simp [startCode])
  rw [hrest]
  refine ⟨lead, hsplit, hlen, hs, ?_, fun h3 hlast => ?_, fun hlast => ?_⟩
  · rw [nalUnits, hsplit.pieces_eq (by simp [startCode]), List.tail_cons]
  · -- the zero would have been found with the code
    obtain ⟨before, rfl⟩ := List.getLast?_eq_some_iff.mp hlast
    rw [List.length_append, List.length_singleton] at hlen
    have hfirst := (findCode_at h).2.2 before.length (by omega)
    have hdrop : content.drop before.length = 0x00 :: (startCode ++ rest) := by
      rw [hsplit.eq, List.append_assoc]
      exact List.drop_left
    rw [hdrop, headCodeSize, if_pos (List.cons_prefix_cons.mpr ⟨rfl, List.prefix_append _ _⟩)] at hfirst
    cases hfirst
  · have hz := congrArg List.length hlead
    rw [List.length_append, List.length_replicate, List.length_take] at hz
    by_contra hne
    refine hlast ?_
    obtain ⟨k, rfl⟩ : ∃ k, z = k + 1 := ⟨z - 1, by omega⟩
    rw [hlead, List.replicate_succ', ← List.append_assoc, List.getLast?_concat]

/-- A file in which the reader finds nothing. -/
theorem clean_of_unread {content : Bytes} (h : readerCode content = none) :
    Clean content ∧ nalUnits content = [] := by
  cases hfind : findCode content with
  | none =>
    have hcode := findCode_none hfind
    exact ⟨fun lead rest hsplit => absurd hsplit.infix hcode, by rw [nalUnits, pieces_no_code hcode]; rfl⟩
  | some r =>
    obtain ⟨lead, hsplit, hlen, hs, hunits, hlast⟩ := findCode_split hfind
    have hshort : ¬r.1 + 3 < content.length := by
      intro hlt
      rw [readerCode, hfind, Option.bind_some, if_pos hlt] at h
      cases h
    have hend := congrArg List.length hsplit.eq
    simp only [List.length_append, List.length_drop, startCode, List.length_cons, List.length_nil] at hend
    have hnil : content.drop (r.1 + r.2) = [] := List.drop_of_length_le (by omega)
    rw [hnil] at hsplit hunits
    refine ⟨fun lead' rest' hsplit' => ?_, hunits⟩
    obtain ⟨rfl, rfl⟩ := hsplit.unique hsplit'
    exact .inl ⟨rfl, hlast.mp (by omega)⟩

/-- Behind the first start code of the file. -/
theorem clean_iff_tight {content : Bytes} {o s : Nat} (h : findCode content = some (o, s))
    (hlong : o + 3 < content.length) : (Clean content ↔ Tight (content.drop (o + s))) ∧
      nalUnits content = units (pieces startCode (content.drop (o + s))) := by
  obtain ⟨lead, hsplit, hlen, hs, hunits, hlast⟩ := findCode_split h
  refine ⟨⟨fun hclean => ?_, fun ht lead' rest' hsplit' => ?_⟩, hunits⟩
  · rcases hclean lead _ hsplit with ⟨hnil, hzero⟩ | ht
    · -- a code at the end that the reader finds has four bytes
      have hend : content.length ≤ o + s := by simpa using hnil
      have h3 := hlast.mpr hzero
      omega
    · exact ht
  · obtain ⟨rfl, rfl⟩ := hsplit.unique hsplit'
    exact .inr ht

/-- **The file reader agrees with the split** exactly on clean files; on every file its calls come to an end. -/
theorem reader_agrees_iff (content : Bytes) :
    (∀ nalus, readAll (content.length + 1) ⟨content, 0⟩ ≠ .more nalus) ∧
      (ReadsLikeCollect content ↔ Clean content) := by
  rw [readsLikeCollect_iff]
  cases hread : readerCode content with
  | none =>
    obtain ⟨hclean, hunits⟩ := clean_of_unread hread
    have hdone : readAll (content.length + 1) ⟨content, 0⟩ = .done [] := by
      rw [readAll, @h264ReaderRead_none ⟨content, 0⟩ hread]
    rw [hdone, hunits, yields_nil]
    exact ⟨fun _ h => (by cases h), iff_of_true rfl hclean⟩
  | some o =>
    obtain ⟨s, hfind, hlong⟩ := readerCode_some hread
    obtain ⟨hclean, hunits⟩ := clean_iff_tight hfind hlong
    obtain ⟨hends, hyields⟩ := @readAll_behind (content.length + 1) ⟨content, 0⟩ content o s rfl hfind hlong (by omega)
    rw [hunits, hclean]
    exact ⟨hends, hyields⟩

/-- Units behind start codes of three and four bytes make a clean file. -/
theorem clean_serialize {nals : List (Nat × Bytes)} (h : ∀ p ∈ nals, (p.1 = 2 ∨ p.1 = 3) ∧ IsNal p.2) :
    Clean (serialize nals) := by
  cases nals with
  | nil => exact fun lead rest hsplit => absurd hsplit.infix (by simp [serialize_nil, startCode])
  | cons p nals =>
    obtain ⟨hz, hnal⟩ := h p (by simp)
    have hfind : findCode (serialize (p :: nals)) = some (0, p.1 + 1) := by
      rw [serialize_cons]
      exact findCode_behind hz _ (u := []) (by simp) (by simp [startCode])
    have hpos := List.length_pos_iff.mpr hnal.ne_nil
    have hlong : 0 + 3 < (serialize (p :: nals)).length := by
      simp only [serialize_cons, codeOf, List.length_append, List.length_replicate, List.length_singleton]
      omega
    refine (clean_iff_tight hfind hlong).1.mpr ⟨p.2, nals, ?_, hnal, fun q hq => h q (by simp [hq])⟩
    rw [serialize_cons]
    exact List.drop_left' (by simp [codeOf])

/-- Of the empty unit between two start codes the reader reads a header byte; trailing zeros it keeps, and a start code
in the last three bytes it takes for data. -/
theorem reader_disagrees :
    ¬ReadsLikeCollect [0x00, 0x00, 0x01, 0x00, 0x00, 0x01, 0x65] ∧
    readAll 8 ⟨[0x00, 0x00, 0x01, 0x00, 0x00, 0x01, 0x65], 0⟩ = .fault [] ∧
    readAll 8 ⟨[0x00, 0x00, 0x01, 0x65, 0x88, 0x00, 0x00], 0⟩ = .done [⟨[0x65, 0x88, 0x00, 0x00], 4, 5⟩] ∧
    collected [0x00, 0x00, 0x01, 0x65, 0x88, 0x00, 0x00] 7 = [(5, [0x65, 0x88])] ∧
    readAll 9 ⟨[0x00, 0x00, 0x01, 0x65, 0x88, 0x00, 0x00, 0x01], 0⟩ = .done [⟨[0x65, 0x88, 0x00, 0x00, 0x01], 5, 5⟩] ∧
    collected [0x00, 0x00, 0x01, 0x65, 0x88, 0x00, 0x00, 0x01] 8 = [(5, [0x65, 0x88])] := by
  have hfault : readAll 8 ⟨[0x00, 0x00, 0x01, 0x00, 0x00, 0x01, 0x65], 0⟩ = .fault [] := by decide +kernel
  refine ⟨?_, hfault, by decide +kernel, by decide +kernel, by decide +kernel, by decide +kernel⟩
  rintro ⟨nalus, hdone, -⟩
  cases hfault.symm.trans hdone

end MiniRtsp.H264
