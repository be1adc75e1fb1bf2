import MiniRtsp.H264.Segments

/-!
# What a call of `h264_annexb_collect` leaves

The call with its output parameters (`collectCall`), the rounds of its loop (`NextRound`, which always move forward), and
the Annex-B serializations of a list of NAL units (`serialize`): every unit behind a start code of two or more zero
bytes and `01`. Splitting a serialization gives the units back, since the zeros of a longer code end up at the end of
the unit before it, where they are stripped.
-/

namespace MiniRtsp.H264

open Occurrence

/-- What the caller of `h264_annexb_collect` finds: the return value, `*nalu_count`, and the filled entries of
`nalus`. -/
structure CollectCall where
  ret : Int
  naluCount : Nat
  nalus : List H264NaluView
  deriving DecidableEq, Repr

/-- `h264_annexb_collect` with its output parameters: `*nalu_count` is cleared on entry and written once more right
before `return 0`. -/
def collectCall (data : Bytes) (capacity : Nat) : CollectCall :=
  match h264AnnexbCollect data capacity with
  | none => ⟨-1, 0, []⟩
  | some nalus => ⟨0, nalus.length, nalus⟩

/-! ## The rounds of the loop -/

/-- A round of the `while` loop that is followed by another one: from a start code (offset and size) to the next. -/
structure NextRound (data : Bytes) (current next : Nat × Nat) : Prop where
  goesOn : current.1 + current.2 < data.length
  found : findNextStartCode data (current.1 + current.2) = some next

theorem findNextStartCode_bounds {data : Bytes} {start : Nat} {r : Nat × Nat}
    (h : findNextStartCode data start = some r) : start ≤ r.1 ∧ r.1 < data.length ∧ 3 ≤ r.2 := by
  rw [findNextStartCode_eq] at h
  obtain ⟨⟨o, s⟩, hf, rfl⟩ := Option.map_eq_some_iff.mp h
  obtain ⟨a, b, z, hab, hlen, hs, ha⟩ := findCode_some hf
  have hd := congrArg List.length hab.eq
  have hz := congrArg List.length ha
  simp only [List.length_drop, List.length_append, List.length_take, List.length_replicate, startCode,
    List.length_cons, List.length_nil] at hd hz
  simp only
  omega

/-- A round moves forward and stays inside the access unit. -/
theorem NextRound.forward {data : Bytes} {current next : Nat × Nat} (hpos : 3 ≤ current.2)
    (h : NextRound data current next) : current.1 < next.1 ∧ next.1 < data.length ∧ 3 ≤ next.2 := by
  obtain ⟨h1, h2, h3⟩ := findNextStartCode_bounds h.found
  omega

/-- Rounds behind one another are no more than the bytes left. -/
theorem length_rounds {data : Bytes} {rounds : List (Nat × Nat)} : ∀ {current : Nat × Nat}, 3 ≤ current.2 →
    current.1 < data.length → (current :: rounds).IsChain (NextRound data) →
    (current :: rounds).length + current.1 ≤ data.length := by
  induction rounds with
  | nil =>
    intro current _ hlt _
    simp only [List.length_cons, List.length_nil]
    omega
  | cons next rounds ih =>
    intro current hpos _ hchain
    rw [List.isChain_cons_cons] at hchain
    obtain ⟨hlt, hin, hpos'⟩ := hchain.1.forward hpos
    have := ih hpos' hin hchain.2
    simp only [List.length_cons] at this ⊢
    omega

/-- **The loop terminates**: from the first start code on there are no more rounds than bytes. -/
theorem length_rounds_le {data : Bytes} {first : Nat × Nat} (hfirst : findNextStartCode data 0 = some first)
    {rounds : List (Nat × Nat)} (hchain : (first :: rounds).IsChain (NextRound data)) :
    (first :: rounds).length ≤ data.length := by
  obtain ⟨-, hin, hpos⟩ := findNextStartCode_bounds hfirst
  have := length_rounds hpos hin hchain
  omega

/-! ## Serializations -/

/-- A byte string that Annex B can carry as a NAL unit. -/
structure IsNal (u : Bytes) : Prop where
  ne_nil : u ≠ []
  last : u.getLast? ≠ some 0
  noCode : ¬startCode <:+: u

theorem IsNal.isUnit {u : Bytes} (h : IsNal u) : IsUnit u := by
  refine ⟨h.ne_nil, ?_, h.noCode⟩
  rw [strip, List.rdropWhile_eq_self_iff]
  intro hne
  have hlast := h.last
  rw [List.getLast?_eq_some_getLast hne] at hlast
  simpa using hlast

/-- A start code of `zeros` zero bytes. -/
def codeOf (zeros : Nat) : Bytes := List.replicate zeros 0 ++ [1]

/-- NAL units one after the other, each behind a start code with the given number of zeros. -/
def serialize (nals : List (Nat × Bytes)) : Bytes := nals.flatMap fun p => codeOf p.1 ++ p.2

@[simp] theorem serialize_nil : serialize [] = [] := rfl

theorem serialize_cons (p : Nat × Bytes) (nals : List (Nat × Bytes)) :
    serialize (p :: nals) = codeOf p.1 ++ (p.2 ++ serialize nals) := by
  simp [serialize]

/-- A long start code is a zero run and `00 00 01`. -/
theorem firstSplit_codeOf {zeros : Nat} (h : 2 ≤ zeros) (rest : Bytes) :
    FirstSplit startCode (codeOf zeros ++ rest) (List.replicate (zeros - 2) 0) rest := by
  obtain ⟨k, rfl⟩ : ∃ k, zeros = k + 2 := ⟨zeros - 2, by omega⟩
  rw [Nat.add_sub_cancel]
  constructor
  · simp only [codeOf, List.replicate_add, List.append_assoc]
    rfl
  · intro i hi hp
    rw [List.length_replicate] at hi
    obtain ⟨j, rfl⟩ : ∃ j, k = i + (j + 1) := ⟨k - i - 1, by omega⟩
    have hdrop : (codeOf (i + (j + 1) + 2) ++ rest).drop i = 0 :: 0 :: 0 :: (List.replicate j 0 ++ ([1] ++ rest)) := by
      rw [show i + (j + 1) + 2 = i + (3 + j) by omega, codeOf, List.replicate_add, List.replicate_add]
      simp only [List.append_assoc]
      rw [List.drop_left' (by simp)]
      rfl
    rw [hdrop, startCode_prefix_iff] at hp
    simp at hp

/-- The pieces of a serialization: zeros in front, then the units, each with zeros behind it. -/
theorem pieces_serialize {nals : List (Nat × Bytes)} (h : ∀ p ∈ nals, 2 ≤ p.1 ∧ IsUnit p.2) :
    ∃ z qs, pieces startCode (serialize nals) = List.replicate z 0 :: qs ∧ units qs = nals.map (·.2) := by
  induction nals with
  | nil => exact ⟨0, [], rfl, rfl⟩
  | cons p nals ih =>
    obtain ⟨z, qs, hpieces, hunits⟩ := ih fun q hq => h q (List.mem_cons_of_mem _ hq)
    obtain ⟨hzeros, hunit⟩ := h p List.mem_cons_self
    refine ⟨p.1 - 2, (p.2 ++ List.replicate z 0) :: qs, ?_, ?_⟩
    · have hsplit := firstSplit_codeOf hzeros (p.2 ++ serialize nals)
      rw [serialize_cons, hsplit.pieces_eq (by simp [startCode]), hunit.pieces_append, hpieces]
      rfl
    · rw [units_cons, strip_append_zeros, hunit.strip_eq, if_neg hunit.ne_nil, hunits]
      rfl

/-- **A serialization splits into its units.** -/
theorem nalUnits_serialize {nals : List (Nat × Bytes)} (h : ∀ p ∈ nals, 2 ≤ p.1 ∧ IsNal p.2) :
    nalUnits (serialize nals) = nals.map (·.2) := by
  obtain ⟨z, qs, hpieces, hunits⟩ := pieces_serialize fun p hp => ⟨(h p hp).1, (h p hp).2.isUnit⟩
  rw [nalUnits, hpieces, List.tail_cons, hunits]

/-- What a call reports, in terms of the reference split. -/
theorem collectCall_cases (data : Bytes) (capacity : Nat) :
    if 1 ≤ (nalUnits data).length ∧ (nalUnits data).length ≤ capacity then
      (collectCall data capacity).ret = 0 ∧
      (collectCall data capacity).naluCount = (nalUnits data).length ∧
      (collectCall data capacity).nalus.map (·.bytes data) = nalUnits data ∧
      ∀ v ∈ (collectCall data capacity).nalus, ViewOk data v
    else (collectCall data capacity).ret = -1 ∧ (collectCall data capacity).naluCount = 0 := by
  have hc := collect_eq data capacity
  split
  · rename_i hlen
    rw [if_pos hlen] at hc
    obtain ⟨vs, hvs, hmap, hok⟩ := hc
    simp only [collectCall, hvs]
    exact ⟨trivial, by rw [← hmap, List.length_map], hmap, hok⟩
  · rename_i hlen
    rw [if_neg hlen] at hc
    simp only [collectCall, hc]
    exact ⟨trivial, trivial⟩

/-- **`h264_annexb_collect` is the reference Annex-B split**: the loop makes no more rounds than there are bytes; the
call returns 0 exactly when there are between one and `capacity` units, and reports them in order as non-empty views
inside the access unit; otherwise it returns -1 and leaves `*nalu_count` 0. In particular every serialization of a list
of NAL units that fits is split into that list. -/
theorem collectCall_reference (data : Bytes) (capacity : Nat) :
    (∀ first rounds, findNextStartCode data 0 = some first → (first :: rounds).IsChain (NextRound data) →
      (first :: rounds).length ≤ data.length) ∧
    ((collectCall data capacity).ret = 0 ↔ 1 ≤ (nalUnits data).length ∧ (nalUnits data).length ≤ capacity) ∧
    ((collectCall data capacity).ret = 0 →
      (collectCall data capacity).naluCount = (nalUnits data).length ∧
      (collectCall data capacity).nalus.map (·.bytes data) = nalUnits data ∧
      ∀ v ∈ (collectCall data capacity).nalus,
        0 < v.size ∧ v.start + v.size ≤ data.length ∧ v.type = nalType ((v.bytes data).headD 0)) ∧
    ((collectCall data capacity).ret ≠ 0 →
      (collectCall data capacity).ret = -1 ∧ (collectCall data capacity).naluCount = 0) ∧
    ∀ nals : List (Nat × Bytes), (∀ p ∈ nals, 2 ≤ p.1 ∧ IsNal p.2) → data = serialize nals → nals ≠ [] →
      nals.length ≤ capacity →
      (collectCall data capacity).ret = 0 ∧
        (collectCall data capacity).nalus.map (·.bytes data) = nals.map (·.2) := by
  have hcases := collectCall_cases data capacity
  refine ⟨fun first rounds hfirst hchain => length_rounds_le hfirst hchain, ?_⟩
  by_cases hlen : 1 ≤ (nalUnits data).length ∧ (nalUnits data).length ≤ capacity
  · rw [if_pos hlen] at hcases
    obtain ⟨hret, hcount, hmap, hok⟩ := hcases
    refine ⟨⟨fun _ => hlen, fun _ => hret⟩, fun _ => ⟨hcount, hmap, ?_⟩, fun hne => absurd hret hne, ?_⟩
    · intro v hv
      exact ⟨(hok v hv).nonempty, (hok v hv).inBounds, (hok v hv).type_eq⟩
    · intro nals hnals hdata _ _
      refine ⟨hret, ?_⟩
      rw [hmap, hdata, nalUnits_serialize hnals]
  · rw [if_neg hlen] at hcases
    obtain ⟨hret, hcount⟩ := hcases
    have hne : (collectCall data capacity).ret ≠ 0 := by omega
    refine ⟨⟨fun h => absurd h hne, fun h => absurd h hlen⟩, fun h => absurd h hne, fun _ => ⟨hret, hcount⟩, ?_⟩
    intro nals hnals hdata hnil hcap
    have hlength : (nalUnits data).length = nals.length := by rw [hdata, nalUnits_serialize hnals, List.length_map]
    have hpos := List.length_pos_iff.mpr hnil
    exact absurd ⟨by omega, by omega⟩ hlen

/-- An SPS behind a four-byte code and a slice behind a three-byte one. -/
theorem collectCall_reference_sample :
    (collectCall [0, 0, 0, 1, 0x67, 0x42, 0, 0, 1, 0x65, 0x88] 2).nalus.map
      (·.bytes [0, 0, 0, 1, 0x67, 0x42, 0, 0, 1, 0x65, 0x88]) = [[0x67, 0x42], [0x65, 0x88]] := by
  have hnals : ∀ p ∈ [((3 : Nat), ([0x67, 0x42] : Bytes)), (2, [0x65, 0x88])], 2 ≤ p.1 ∧ IsNal p.2 := by
    intro p hp
    simp only [List.mem_cons, List.not_mem_nil, or_false] at hp
    rcases hp with rfl | rfl
    · exact ⟨by decide, ⟨by decide, by decide, by decide⟩⟩
    · exact ⟨by decide, ⟨by decide, by decide, by decide⟩⟩
  exact ((collectCall_reference _ 2).2.2.2.2 _ hnals rfl (by simp) (by simp)).2

end MiniRtsp.H264
