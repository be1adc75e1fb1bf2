import MiniRtsp.H264.Segments
import MiniRtsp.Muxer.Mp4Muxer

/-!
# What the muxer's scan sees

The scan reads one byte after every start code and goes on behind it. That byte belongs to the next start code when two
of them are adjacent, and then the unit after the second one is passed over (`visible`). The scan reports the types of
the pieces it sees (`inspect_eq`); where no two start codes are adjacent these are the NAL types of the reference split
(`inspect_any`).
-/

namespace MiniRtsp.Muxer

open H264 Occurrence

/-- The pieces whose first byte the scan reads as a NAL type: after an empty piece the next one is passed over. -/
def visible : List Bytes → List Bytes
  | [] => []
  | [p] => if p = [] then [] else [p]
  | p :: q :: ps => if p = [] then visible ps else p :: visible (q :: ps)

theorem visible_cons {p : Bytes} (hp : p ≠ []) (ps : List Bytes) : visible (p :: ps) = p :: visible ps := by
  cases ps <;> simp [visible, hp]

theorem visible_nil_cons (ps : List Bytes) : visible ([] :: ps) = visible ps.tail := by
  cases ps <;> simp [visible]

/-- The flags of the pieces behind start codes. -/
def scanned (info : H264PacketInfo) (ps : List Bytes) : H264PacketInfo :=
  if ps = [] then info
  else (visible ps).foldl (fun info p => info.note (unitType p)) { info with hasAnnexbStartCode := true }

theorem note_zero (info : H264PacketInfo) : info.note 0 = info := by
  simp [H264PacketInfo.note, h264NalSlice, nalIdr, nalSps, nalPps]

theorem note_hasAnnexbStartCode (info : H264PacketInfo) (t : UInt8) :
    (info.note t).hasAnnexbStartCode = info.hasAnnexbStartCode := by
  unfold H264PacketInfo.note
  repeat' split
  all_goals rfl

/-- The scan behind a start code: the byte after it is read, the rest is scanned. -/
theorem scanned_pieces (info : H264PacketInfo) (hinfo : info.hasAnnexbStartCode = true) (t : UInt8) (r : Bytes) :
    scanned info (pieces startCode (t :: r)) =
      scanned (info.note (nalType t)) (pieces startCode r).tail := by
  have hself : ∀ i : H264PacketInfo, i.hasAnnexbStartCode = true → { i with hasAnnexbStartCode := true } = i := by
    intro i hi
    cases i
    simp_all
  have hnote : (info.note (nalType t)).hasAnnexbStartCode = true := by rw [note_hasAnnexbStartCode, hinfo]
  have hscan : ∀ (i : H264PacketInfo) ps, i.hasAnnexbStartCode = true →
      scanned i ps = (visible ps).foldl (fun info p => info.note (unitType p)) i := by
    intro i ps hi
    unfold scanned
    split
    · rename_i h; subst h; rfl
    · rw [hself i hi]
  rw [hscan _ _ hinfo, hscan _ _ hnote]
  by_cases hcode : startCode <+: t :: r
  · -- the byte read is the first one of an adjacent start code
    obtain ⟨r', hr'⟩ := hcode
    simp only [startCode, List.cons_append, List.nil_append, List.cons.injEq] at hr'
    obtain ⟨rfl, rfl⟩ := hr'
    have hsplit : FirstSplit startCode (0x00 :: 0x00 :: 0x01 :: r') [] r' := ⟨rfl, fun i hi => by simp at hi⟩
    have h1 : ¬startCode <+: 0x00 :: 0x01 :: r' := by simp [startCode, List.cons_prefix_cons]
    have h2 : ¬startCode <+: 0x01 :: r' := by simp [startCode, List.cons_prefix_cons]
    have htail : (pieces startCode (0x00 :: 0x01 :: r')).tail = (pieces startCode r').tail := by
      rw [pieces_cons h1, pieces_cons h2]
      cases pieces startCode r' <;> rfl
    rw [hsplit.pieces_eq (by simp [startCode]), visible_nil_cons, htail]
    have hzero : nalType 0 = 0 := by decide
    rw [hzero, note_zero]
  · rw [pieces_cons hcode]
    cases hp : pieces startCode r with
    | nil => exact absurd hp (pieces_ne_nil r)
    | cons h tl =>
      rw [List.modifyHead_cons, visible_cons (by simp), List.foldl_cons]
      rfl

/-- Behind the start code at the head the next piece begins. -/
theorem tail_pieces_headCode {d : Bytes} (h : headCodeSize d ≠ 0) :
    (pieces startCode d).tail = pieces startCode (d.drop (headCodeSize d)) := by
  have hshort : ∀ e : Bytes, pieces startCode (startCode ++ e) = [] :: pieces startCode e := fun e =>
    FirstSplit.pieces_eq (by simp [startCode]) ⟨rfl, fun i hi => by simp at hi⟩
  unfold headCodeSize at h ⊢
  split
  · rename_i hlong
    obtain ⟨e, rfl⟩ := hlong
    have hn : ¬startCode <+: 0x00 :: (startCode ++ e) := by simp [startCode, List.cons_prefix_cons]
    rw [List.cons_append, pieces_cons hn, hshort]
    rfl
  · rename_i hlong
    rw [if_neg hlong] at h
    split at h
    · rename_i hcode
      obtain ⟨e, rfl⟩ := hcode
      rw [if_pos (by exact List.prefix_append _ _), hshort]
      rfl
    · exact absurd rfl h

/-- **The scan loop** reports the visible pieces of what is left. -/
theorem inspectLoop_eq (data : Bytes) : ∀ (n offset : Nat) (info : H264PacketInfo), data.length ≤ offset + n →
    inspectLoop data n offset info = scanned info (pieces startCode (data.drop offset)).tail
  | 0, offset, info, hn => by
    rw [List.drop_of_length_le (by omega), pieces_nil, inspectLoop]
    rfl
  | n + 1, offset, info, hn => by
    by_cases hoff : offset < data.length
    · have ih := inspectLoop_eq data n
      rw [inspectLoop, if_pos hoff, annexbStartCodeSize, startCodeSize_eq]
      by_cases hsize : headCodeSize (data.drop offset) = 0
      · have hcode : ¬startCode <+: data[offset] :: data.drop (offset + 1) := fun h =>
          headCodeSize_at_code h (by rw [← List.drop_eq_getElem_cons hoff]; exact hsize)
        rw [if_pos hsize, ih (offset + 1) info (by omega), List.drop_eq_getElem_cons hoff, pieces_cons hcode]
        cases pieces startCode (data.drop (offset + 1)) <;> rfl
      · have hpos : 0 < headCodeSize (data.drop offset) := Nat.pos_of_ne_zero hsize
        rw [if_neg hsize, tail_pieces_headCode hsize, List.drop_drop]
        by_cases hend : offset + headCodeSize (data.drop offset) ≥ data.length
        · rw [if_pos hend, List.drop_of_length_le hend, pieces_nil]
          rfl
        · have hlt : offset + headCodeSize (data.drop offset) < data.length := by omega
          have hscan : ∀ t r, scanned info (pieces startCode (t :: r)) =
              scanned { info with hasAnnexbStartCode := true } (pieces startCode (t :: r)) := fun t r => by
            simp only [scanned, if_neg (pieces_ne_nil (w := startCode) (t :: r))]
          rw [if_neg hend, ih _ _ (by omega), List.drop_eq_getElem_cons hlt, hscan, scanned_pieces _ rfl]
          simp [List.getD_eq_getElem?_getD, List.getElem?_eq_getElem hlt]
    · rw [inspectLoop, if_neg hoff, List.drop_of_length_le (by omega), pieces_nil]
      rfl

/-- **The scan** reports the visible pieces. -/
theorem inspect_eq (data : Bytes) :
    inspectAnnexbH264 data = scanned ⟨false, false, false, false, false⟩ (pieces startCode data).tail := by
  rw [inspectAnnexbH264, inspectLoop_eq data _ _ _ (by omega), List.drop_zero]

/-! ## Flags and types -/

/-- The flag that reports a NAL type. -/
def H264PacketInfo.has (info : H264PacketInfo) (type : UInt8) : Bool :=
  if type = nalIdr then info.hasIdr
  else if type = nalSps then info.hasSps
  else if type = nalPps then info.hasPps
  else false

/-- The types the scan reports by a flag of their own. -/
def Flagged (type : UInt8) : Prop := type = nalIdr ∨ type = nalSps ∨ type = nalPps

theorem has_note (info : H264PacketInfo) (t : UInt8) {type : UInt8} (h : Flagged type) :
    (info.note t).has type = (info.has type || t == type) := by
  unfold H264PacketInfo.note H264PacketInfo.has
  rcases h with rfl | rfl | rfl
  all_goals
    by_cases h5 : t = nalIdr
    · subst h5; simp [nalIdr, nalSps, nalPps, h264NalSlice]
    · by_cases h7 : t = nalSps
      · subst h7; simp [nalIdr, nalSps, nalPps, h264NalSlice]
      · by_cases h8 : t = nalPps
        · subst h8; simp [nalIdr, nalSps, nalPps, h264NalSlice]
        · by_cases hv : h264NalSlice ≤ t ∧ t ≤ nalIdr <;> simp [h5, h7, h8, hv]

theorem has_scanned (ps : List Bytes) {type : UInt8} (h : Flagged type) :
    (scanned ⟨false, false, false, false, false⟩ ps).has type = (visible ps).any fun p => unitType p == type := by
  have hfold : ∀ (qs : List Bytes) (info : H264PacketInfo),
      (qs.foldl (fun info p => info.note (unitType p)) info).has type =
        (info.has type || qs.any fun p => unitType p == type) := by
    intro qs
    induction qs with
    | nil => simp
    | cons q qs ih => intro info; rw [List.foldl_cons, ih, has_note _ _ h, List.any_cons, Bool.or_assoc]
  have hnone : ∀ b, (⟨b, false, false, false, false⟩ : H264PacketInfo).has type = false := fun b => by
    simp [H264PacketInfo.has]
  unfold scanned
  split
  · rename_i hps
    subst hps
    simp [visible, hnone]
  · rw [hfold, hnone, Bool.false_or]

/-- When only the last piece may be empty, the scan sees every type but 0. -/
theorem any_visible {type : UInt8} (ht : type ≠ 0) : ∀ (ps : List Bytes), (∀ p ∈ ps.dropLast, p ≠ []) →
    ((visible ps).any fun p => unitType p == type) = ps.any fun p => unitType p == type
  | [], _ => rfl
  | [p], _ => by
    by_cases hp : p = []
    · have hnil : (unitType [] == type) = false := by simpa [unitType, nalType] using ht.symm
      subst hp
      simp [visible, hnil]
    · rw [visible_cons hp]
      rfl
  | p :: q :: ps, h => by
    have hp : p ≠ [] := h p (by simp)
    have ih := any_visible ht (q :: ps) fun r hr => h r (by simp [hr])
    rw [visible_cons hp, List.any_cons, ih, List.any_cons, List.any_cons, List.any_cons]

/-- Stripping keeps the first byte of a unit, and a piece of zeros has type 0. -/
theorem any_units {type : UInt8} (ht : type ≠ 0) (ps : List Bytes) :
    ((units ps).any fun u => unitType u == type) = ps.any fun p => unitType p == type := by
  induction ps with
  | nil => rfl
  | cons p ps ih =>
    have hstrip : p = strip p ++ p.rtakeWhile (· == 0) := (List.rdropWhile_append_rtakeWhile).symm
    rw [units_cons, List.any_cons]
    split
    · rename_i hp
      have hzero : unitType p = 0 := by
        cases p with
        | nil => rfl
        | cons b p =>
          have hall := List.rdropWhile_eq_nil_iff.mp hp b (by simp)
          have hb : b = 0 := by simpa using hall
          subst hb
          simp [unitType, nalType]
      have hne : (unitType p == type) = false := by rw [hzero]; simpa using ht.symm
      rw [ih, hne, Bool.false_or]
    · rename_i hp
      have hhead : unitType (strip p) = unitType p := by
        obtain ⟨b, l, hl⟩ := List.exists_cons_of_ne_nil hp
        rw [hl] at hstrip ⊢
        rw [hstrip]
        rfl
      rw [List.any_cons, hhead, ih]

/-- Where no two start codes are adjacent, only the last piece may be empty. -/
theorem pieces_dropLast_ne_nil (data : Bytes) (h : ¬(startCode ++ startCode) <:+: data) :
    ∀ p ∈ (pieces startCode data).tail.dropLast, p ≠ [] := by
  have hw : startCode ≠ [] := by simp [startCode]
  induction hn : data.length using Nat.strong_induction_on generalizing data with
  | _ n ih =>
    by_cases hcode : startCode <:+: data
    · obtain ⟨a, b, hab⟩ := exists_firstSplit hcode
      rw [hab.pieces_eq hw, List.tail_cons]
      by_cases hb : startCode <:+: b
      · obtain ⟨c, d, hcd⟩ := exists_firstSplit hb
        have hsub : ¬(startCode ++ startCode) <:+: b := fun hi => h (hi.trans ⟨a ++ startCode, [], by simp [hab.eq]⟩)
        have hlen : b.length < n := by
          have := congrArg List.length hab.eq
          simp [startCode] at this
          omega
        have hrest := ih b.length hlen b hsub rfl
        have hpieces := hcd.pieces_eq hw
        obtain ⟨q, qs, hqs⟩ := List.exists_cons_of_ne_nil (pieces_ne_nil (w := startCode) d)
        rw [hpieces, List.tail_cons] at hrest
        rw [hpieces, List.dropLast_cons_of_ne_nil (pieces_ne_nil d)]
        intro p hp
        rcases List.mem_cons.mp hp with rfl | hp
        · rintro rfl
          exact h ⟨a, d, by rw [hab.eq, hcd.eq]; simp⟩
        · exact hrest p hp
      · rw [pieces_no_code hb]
        simp
    · rw [pieces_no_code hcode]
      simp

/-- **The scan agrees with the reference split** where no two start codes are adjacent. -/
theorem inspect_any {data : Bytes} (h : ¬(startCode ++ startCode) <:+: data) {type : UInt8} (ht : Flagged type) :
    (inspectAnnexbH264 data).has type = (nalUnits data).any fun u => unitType u == type := by
  have hne : type ≠ 0 := by rcases ht with rfl | rfl | rfl <;> decide
  rw [inspect_eq, has_scanned _ ht, any_visible hne _ (pieces_dropLast_ne_nil data h), nalUnits, any_units hne]

/-! ## What the flags decide -/

/-- What reaches the vendor muxer carries the scan's key-frame flag. -/
theorem pushed_keyFrame {rkmuxerWrite ptsUs : Int} {muxer : Mp4Muxer} {data : Bytes} {frame : VideoFrame}
    (h : (mp4MuxerWriteH264 rkmuxerWrite muxer data ptsUs).pushed = some frame) :
    frame = ⟨data, ptsUs, (inspectAnnexbH264 data).hasIdr⟩ := by
  unfold mp4MuxerWriteH264 at h
  dsimp only at h
  repeat' split at h
  all_goals cases h
  all_goals rfl

/-- A first frame is refused as incomplete only when a flag is missing. -/
theorem firstIncomplete_missing {rkmuxerWrite ptsUs : Int} {muxer : Mp4Muxer} {data : Bytes}
    (h : (mp4MuxerWriteH264 rkmuxerWrite muxer data ptsUs).error = some .firstIncomplete) :
    ∃ type, Flagged type ∧ (inspectAnnexbH264 data).has type = false := by
  unfold mp4MuxerWriteH264 at h
  dsimp only at h
  repeat' split at h
  all_goals cases h
  rename_i hmissing
  obtain ⟨-, hidr | hsps | hpps⟩ := hmissing
  · exact ⟨nalIdr, .inl rfl, by simpa [H264PacketInfo.has] using hidr⟩
  · exact ⟨nalSps, .inr (.inl rfl), by simpa [H264PacketInfo.has, nalIdr, nalSps] using hsps⟩
  · exact ⟨nalPps, .inr (.inr rfl), by simpa [H264PacketInfo.has, nalIdr, nalSps, nalPps] using hpps⟩

end MiniRtsp.Muxer
