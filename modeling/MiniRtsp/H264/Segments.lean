import Mathlib.Data.List.DropRight
import MiniRtsp.H264.Annexb
import MiniRtsp.Lib.Occurrence

/-!
# The reference split

The NAL units of an access unit: the pieces between consecutive occurrences of `00 00 01`, stripped of trailing zero
bytes, without the empty ones (`nalUnits`). `h264_annexb_collect` computes exactly this list (`collect_eq`): a
four-byte start code is a three-byte one whose first zero belongs to the piece before it (`findCode_some`), and that
zero is stripped either way.
-/

namespace MiniRtsp.H264

open Occurrence

/-- The three-byte start code. -/
def startCode : Bytes := [0x00, 0x00, 0x01]

/-- A piece without its trailing zero bytes. -/
def strip (p : Bytes) : Bytes := p.rdropWhile (· == 0)

/-- The non-empty stripped pieces. -/
def units (ps : List Bytes) : List Bytes := (ps.map strip).filter (· ≠ [])

/-- The NAL units of an access unit; what precedes the first start code is ignored. -/
def nalUnits (data : Bytes) : List Bytes := units (pieces startCode data).tail

/-- The type of a NAL unit. -/
def unitType (u : Bytes) : UInt8 := nalType (u.headD 0)

theorem strip_concat_zero (p : Bytes) : strip (p ++ [0]) = strip p := by
  simp [strip]

theorem strip_append_zeros (p : Bytes) (n : Nat) : strip (p ++ List.replicate n 0) = strip p := by
  induction n with
  | zero => simp
  | succ n ih => rw [List.replicate_succ', ← List.append_assoc, strip_concat_zero, ih]

@[simp] theorem units_nil : units [] = [] := rfl

theorem units_cons (p : Bytes) (ps : List Bytes) :
    units (p :: ps) = if strip p = [] then units ps else strip p :: units ps := by
  unfold units
  by_cases h : strip p = [] <;> simp [h]

theorem units_append (ps qs : List Bytes) : units (ps ++ qs) = units ps ++ units qs := by
  simp [units]

/-! ## Start codes as prefixes -/

/-- The size of the start code at the head of a list. -/
def headCodeSize (d : Bytes) : Nat := if 0x00 :: startCode <+: d then 4 else if startCode <+: d then 3 else 0

theorem startCode_prefix_iff (d : Bytes) :
    startCode <+: d ↔ 3 ≤ d.length ∧ d.getD 0 0 = 0x00 ∧ d.getD 1 0 = 0x00 ∧ d.getD 2 0 = 0x01 := by
  match d with
  | [] => simp [startCode]
  | [a] => simp [startCode, List.cons_prefix_cons]
  | [a, b] => simp [startCode, List.cons_prefix_cons]
  | a :: b :: c :: t => simp [startCode, List.cons_prefix_cons, eq_comm]

theorem longCode_prefix_iff (d : Bytes) : 0x00 :: startCode <+: d ↔ 4 ≤ d.length ∧
    d.getD 0 0 = 0x00 ∧ d.getD 1 0 = 0x00 ∧ d.getD 2 0 = 0x00 ∧ d.getD 3 0 = 0x01 := by
  cases d with
  | nil => simp [startCode]
  | cons a d =>
    rw [List.cons_prefix_cons, startCode_prefix_iff]
    simp [eq_comm]
    tauto

/-- `start_code_size` looks at the list from the offset on. -/
theorem startCodeSize_eq (data : Bytes) (i : Nat) : startCodeSize data i = headCodeSize (data.drop i) := by
  have hget : ∀ k, (data.drop i).getD k 0 = data.getD (i + k) 0 := by
    intro k; simp [List.getD_eq_getElem?_getD, List.getElem?_drop]
  have hlen : (data.drop i).length = data.length - i := List.length_drop
  unfold startCodeSize headCodeSize
  simp only [longCode_prefix_iff, startCode_prefix_iff, hget, hlen, Nat.add_zero]
  by_cases hi : data.length ≤ i
  · have h4 : ¬4 ≤ data.length - i := by omega
    have h3 : ¬3 ≤ data.length - i := by omega
    simp only [ge_iff_le, hi, ↓reduceIte, h4, h3, false_and]
  · have h4 : i + 4 ≤ data.length ↔ 4 ≤ data.length - i := by omega
    have h3 : i + 3 ≤ data.length ↔ 3 ≤ data.length - i := by omega
    simp [hi, h3, h4]

theorem headCodeSize_at_code {d : Bytes} (h : startCode <+: d) : headCodeSize d ≠ 0 := by
  unfold headCodeSize
  split
  · omega
  · omega

/-! ## The search -/

/-- The search for a start code, on the list itself. -/
def findCode : Bytes → Option (Nat × Nat)
  | [] => none
  | x :: l => if headCodeSize (x :: l) ≠ 0 then some (0, headCodeSize (x :: l))
    else (findCode l).map fun r => (r.1 + 1, r.2)

theorem findStartCodeLoop_eq (data : Bytes) : ∀ n i, n = data.length - i →
    findStartCodeLoop data n i = (findCode (data.drop i)).map fun r => (i + r.1, r.2)
  | 0, i, hn => by
    rw [List.drop_of_length_le (by omega)]; rfl
  | n + 1, i, hn => by
    have hi : i < data.length := by omega
    have hd := List.drop_eq_getElem_cons hi
    simp only [findStartCodeLoop, startCodeSize_eq]
    rw [findStartCodeLoop_eq data n (i + 1) (by omega), hd]
    simp only [findCode]
    split
    · simp
    · rw [Option.map_map]
      congr 1
      funext r
      simp; omega

theorem findNextStartCode_eq (data : Bytes) (i : Nat) :
    findNextStartCode data i = (findCode (data.drop i)).map fun r => (i + r.1, r.2) :=
  findStartCodeLoop_eq data _ i rfl

theorem findCode_none {d : Bytes} (hn : findCode d = none) : ¬startCode <:+: d := by
  intro h
  induction d with
  | nil => simp [startCode] at h
  | cons x l ih =>
    simp only [findCode] at hn
    split at hn
    · cases hn
    · rename_i h0
      rw [Option.map_eq_none_iff] at hn
      rcases List.infix_cons_iff.mp h with hp | ht
      · exact h0 (headCodeSize_at_code hp)
      · exact ih hn ht

/-- **A found start code** ends where the first `00 00 01` ends; a four-byte code leaves one zero to the bytes before
that occurrence. -/
theorem findCode_some {d : Bytes} {o s : Nat} (h : findCode d = some (o, s)) :
    ∃ a b z, FirstSplit startCode d a b ∧ o + s = a.length + 3 ∧ 3 ≤ s ∧ a = d.take o ++ List.replicate z 0 := by
  induction d generalizing o with
  | nil => cases h
  | cons x l ih =>
    simp only [findCode] at h
    split at h
    · rename_i h0
      simp only [Option.some.injEq, Prod.mk.injEq] at h
      obtain ⟨rfl, rfl⟩ := h
      unfold headCodeSize at h0 ⊢
      by_cases h4 : 0x00 :: startCode <+: x :: l
      · -- the first occurrence starts one byte later
        rw [if_pos h4]
        obtain ⟨hx, hl⟩ := List.cons_prefix_cons.mp h4
        obtain ⟨b, hb⟩ := firstSplit_head hl
        have hn : ¬startCode <+: x :: l := by
          intro h3
          obtain ⟨u, hu⟩ := hl
          obtain ⟨v, hv⟩ := h3
          rw [← hu] at hv
          simp [startCode] at hv
        exact ⟨[x], b, 1, hb.cons hn, rfl, by omega, by simp [hx]⟩
      · rw [if_neg h4] at h0 ⊢
        by_cases h3 : startCode <+: x :: l
        · rw [if_pos h3]
          obtain ⟨b, hb⟩ := firstSplit_head h3
          exact ⟨[], b, 0, hb, rfl, by omega, rfl⟩
        · rw [if_neg h3] at h0
          exact absurd rfl h0
    · rename_i h0
      obtain ⟨⟨o', s'⟩, hf, he⟩ := Option.map_eq_some_iff.mp h
      simp only [Prod.mk.injEq] at he
      obtain ⟨rfl, rfl⟩ := he
      obtain ⟨a, b, z, hab, hlen, hs, ha⟩ := ih hf
      have hn : ¬startCode <+: x :: l := fun hp => h0 (headCodeSize_at_code hp)
      exact ⟨x :: a, b, z, hab.cons hn, by simp; omega, hs, by rw [ha]; rfl⟩

/-! ## Trimming -/

/-- The trimming loop leaves the stripped piece. -/
theorem trimTrailingZeros_spec (data : Bytes) (start : Nat) : ∀ e, start ≤ e → e ≤ data.length →
    (data.drop start).take (trimTrailingZeros data start e - start) = strip ((data.drop start).take (e - start)) ∧
      start ≤ trimTrailingZeros data start e ∧ trimTrailingZeros data start e ≤ e
  | 0, hs, _ => by simp [trimTrailingZeros, strip]; omega
  | e + 1, hs, he => by
    unfold trimTrailingZeros
    split
    · rename_i hz
      obtain ⟨ih1, ih2, ih3⟩ := trimTrailingZeros_spec data start e (by omega) (by omega)
      refine ⟨?_, ih2, by omega⟩
      have hsplit : (data.drop start).take (e + 1 - start) = (data.drop start).take (e - start) ++ [0] := by
        rw [show e + 1 - start = (e - start) + 1 by omega, List.take_add_one, List.getElem?_drop,
          show start + (e - start) = e by omega, List.getElem?_eq_getElem (by omega)]
        have hd := hz.2
        rw [List.getD_eq_getElem?_getD, List.getElem?_eq_getElem (by omega)] at hd
        simp only [Option.getD_some] at hd
        rw [hd]; rfl
      rw [hsplit, strip_concat_zero, ih1]
    · rename_i hz
      refine ⟨?_, hs, Nat.le_refl _⟩
      by_cases hse : e + 1 > start
      · have hne : data.getD e 0 ≠ 0 := fun h => hz ⟨hse, h⟩
        rw [List.getD_eq_getElem?_getD, List.getElem?_eq_getElem (by omega)] at hne
        have hsplit : (data.drop start).take (e + 1 - start) =
            (data.drop start).take (e - start) ++ [data[e]] := by
          rw [show e + 1 - start = (e - start) + 1 by omega, List.take_add_one, List.getElem?_drop,
            show start + (e - start) = e by omega, List.getElem?_eq_getElem (by omega)]
          rfl
        rw [hsplit, strip, List.rdropWhile_concat_neg _ _ _ (by simpa using hne)]
      · rw [show e + 1 - start = 0 by omega]
        simp [strip]

/-! ## The split -/

/-- A view that `h264_annexb_collect` may report. -/
structure ViewOk (data : Bytes) (v : H264NaluView) : Prop where
  nonempty : 0 < v.size
  inBounds : v.start + v.size ≤ data.length
  type_eq : v.type = unitType (v.bytes data)

theorem ViewOk.length_bytes {data : Bytes} {v : H264NaluView} (h : ViewOk data v) : (v.bytes data).length = v.size := by
  have := h.inBounds
  simp [H264NaluView.bytes]
  omega

theorem ViewOk.bytes_ne_nil {data : Bytes} {v : H264NaluView} (h : ViewOk data v) : v.bytes data ≠ [] := fun he => by
  have := h.length_bytes
  have := h.nonempty
  simp [he] at *
  omega

/-- `r` is `nalus` extended by views of the units `us`, or the failure when they do not fit. -/
def Collected (data : Bytes) (capacity : Nat) (nalus : List H264NaluView) (us : List Bytes)
    (r : Option (List H264NaluView)) : Prop :=
  if nalus.length + us.length ≤ capacity then
    ∃ vs, r = some (nalus ++ vs) ∧ vs.map (·.bytes data) = us ∧ ∀ v ∈ vs, ViewOk data v
  else r = none

section Collect

variable {data : Bytes} {capacity : Nat} {nalus : List H264NaluView}

theorem collected_nil (h : nalus.length ≤ capacity) : Collected data capacity nalus [] (some nalus) := by
  unfold Collected
  rw [if_pos (by simpa using h)]
  exact ⟨[], by simp, rfl, by simp⟩

/-- Storing one NAL. -/
theorem storeNalu_collected {start e : Nat} (hcap : nalus.length ≤ capacity) (hs : start ≤ e) (he : e ≤ data.length) :
    Collected data capacity nalus (units [(data.drop start).take (e - start)])
      (storeNalu data capacity nalus start (trimTrailingZeros data start e)) := by
  obtain ⟨hbytes, hle, hte⟩ := trimTrailingZeros_spec data start e hs he
  rw [units_cons, units_nil, ← hbytes]
  unfold storeNalu
  by_cases hgt : trimTrailingZeros data start e > start
  · have hlen : ((data.drop start).take (trimTrailingZeros data start e - start)).length =
        trimTrailingZeros data start e - start := by
      rw [List.length_take, List.length_drop]; omega
    have hne : (data.drop start).take (trimTrailingZeros data start e - start) ≠ [] := by
      intro h0; rw [h0] at hlen; simp at hlen; omega
    rw [if_pos hgt, if_neg hne]
    unfold Collected
    rw [List.length_singleton]
    by_cases hfull : nalus.length ≥ capacity
    · rw [if_pos hfull, if_neg (by omega)]
    · rw [if_neg hfull, if_pos (by omega)]
      refine ⟨_, rfl, rfl, ?_⟩
      intro v hv
      rw [List.mem_singleton] at hv
      subst hv
      refine ⟨by simp only; omega, by simp only; omega, ?_⟩
      simp only [unitType, H264NaluView.bytes]
      congr 1
      rw [List.headD_eq_head?_getD, List.head?_take, if_neg (by omega), List.head?_drop, List.getD_eq_getElem?_getD]
  · rw [if_neg hgt, show trimTrailingZeros data start e - start = 0 by omega, List.take_zero, if_pos rfl]
    exact collected_nil hcap

/-- Units collected after others. -/
theorem Collected.bind {us us' : List Bytes} {r : Option (List H264NaluView)}
    {f : List H264NaluView → Option (List H264NaluView)} (h : Collected data capacity nalus us r)
    (hf : ∀ nalus', nalus'.length ≤ capacity → Collected data capacity nalus' us' (f nalus')) :
    Collected data capacity nalus (us ++ us') (r.bind f) := by
  unfold Collected at h ⊢
  rw [List.length_append]
  by_cases h1 : nalus.length + us.length ≤ capacity
  · rw [if_pos h1] at h
    obtain ⟨vs, rfl, hvs, hok⟩ := h
    have hlen : vs.length = us.length := by rw [← hvs, List.length_map]
    have hf' := hf (nalus ++ vs) (by rw [List.length_append]; omega)
    unfold Collected at hf'
    rw [List.length_append, hlen] at hf'
    by_cases h2 : nalus.length + us.length + us'.length ≤ capacity
    · rw [if_pos h2] at hf'
      rw [if_pos (by omega)]
      obtain ⟨vs', hr, hvs', hok'⟩ := hf'
      refine ⟨vs ++ vs', by rw [Option.bind_some, hr, List.append_assoc], by rw [List.map_append, hvs, hvs'], ?_⟩
      intro v hv
      rcases List.mem_append.mp hv with hv | hv
      · exact hok v hv
      · exact hok' v hv
    · rw [if_neg h2] at hf'
      rw [if_neg (by omega)]
      exact hf'
  · rw [if_neg h1] at h
    rw [if_neg (by omega), h]
    rfl

/-- **The loop** reports the units after the current start code. -/
theorem collectLoop_collected (data : Bytes) (capacity : Nat) : ∀ n cs sz nalus, nalus.length ≤ capacity →
    0 < sz → cs ≤ data.length → data.length < n + cs →
    Collected data capacity nalus (units (pieces startCode (data.drop (cs + sz))))
      (collectLoop data capacity n cs sz nalus)
  | 0, cs, sz, nalus, hcap, hsz, hle, hn => by omega -- a round is always left
  | n + 1, cs, sz, nalus, hcap, hsz, hle, hn => by
    have hempty : ∀ k, data.length ≤ k → units (pieces startCode (data.drop k)) = [] := by
      intro k hk; rw [List.drop_of_length_le hk]; rfl
    simp only [collectLoop]
    by_cases hcs : cs < data.length
    · rw [if_pos hcs]
      by_cases hend : cs + sz ≥ data.length
      · rw [if_pos hend, hempty _ hend]
        exact collected_nil hcap
      · rw [if_neg hend]
        simp only [findNextStartCode_eq]
        cases hf : findCode (data.drop (cs + sz)) with
        | none =>
          rw [pieces_no_code (findCode_none hf)]
          have hst := @storeNalu_collected data capacity nalus (cs + sz) data.length hcap (by omega) (Nat.le_refl _)
          rw [List.take_of_length_le (by rw [List.length_drop])] at hst
          exact hst
        | some r =>
          obtain ⟨o, s⟩ := r
          obtain ⟨a, b, z, hab, hlen, hs3, ha⟩ := findCode_some hf
          have hd := hab.eq
          have hdl : (data.drop (cs + sz)).length = a.length + (3 + b.length) := by
            rw [hd]; simp [startCode]; omega
          rw [List.length_drop] at hdl
          have hal : a.length = o + z := by
            have h1 := congrArg List.length ha
            rw [List.length_append, List.length_take, List.length_drop, List.length_replicate] at h1
            omega
          have hnext : data.drop (cs + sz + o + s) = b := by
            rw [show cs + sz + o + s = (cs + sz) + (a.length + 3) by omega, ← List.drop_drop, hd,
              ← List.append_assoc, List.drop_left' (by simp [startCode])]
          have hunit : units [a] = units [(data.drop (cs + sz)).take (cs + sz + o - (cs + sz))] := by
            rw [show cs + sz + o - (cs + sz) = o by omega]
            conv_lhs => rw [ha]
            rw [units_cons, units_cons, strip_append_zeros]
          have hst := @storeNalu_collected data capacity nalus (cs + sz) (cs + sz + o) hcap (by omega) (by omega)
          rw [hab.pieces_eq (by simp [startCode]), show a :: pieces startCode b = [a] ++ pieces startCode b from rfl,
            units_append, hunit]
          refine hst.bind (f := fun nalus => if cs + sz + o ≥ data.length then some nalus else
            collectLoop data capacity n (cs + sz + o) s nalus) ?_
          intro nalus' hcap'
          rw [if_neg (by omega), ← hnext]
          exact collectLoop_collected data capacity n _ _ _ hcap' (by omega) (by omega) (by omega)
    · rw [if_neg hcs, hempty _ (by omega)]
      exact collected_nil hcap

end Collect

/-- **`h264_annexb_collect` is the reference split**: it reports views of exactly the NAL units of the access unit when
there are between one and `capacity` of them, and fails otherwise. -/
theorem collect_eq (data : Bytes) (capacity : Nat) :
    if 1 ≤ (nalUnits data).length ∧ (nalUnits data).length ≤ capacity then
      ∃ vs, h264AnnexbCollect data capacity = some vs ∧ vs.map (·.bytes data) = nalUnits data ∧ ∀ v ∈ vs, ViewOk data v
    else h264AnnexbCollect data capacity = none := by
  unfold h264AnnexbCollect
  by_cases h0 : data.length = 0 ∨ capacity = 0
  · rw [if_pos h0, if_neg]
    rintro ⟨h1, h2⟩
    rcases h0 with h0 | h0
    · rw [List.length_eq_zero_iff] at h0
      subst h0
      simp [nalUnits] at h1
    · omega
  · rw [if_neg h0]
    have hf0 := findNextStartCode_eq data 0
    rw [List.drop_zero] at hf0
    rw [hf0]
    cases hf : findCode data with
    | none =>
      have hn : nalUnits data = [] := by
        rw [nalUnits, pieces_no_code (findCode_none hf)]; rfl
      rw [hn, if_neg (by simp)]
      rfl
    | some r =>
      obtain ⟨o, s⟩ := r
      obtain ⟨a, b, z, hab, hlen, hs3, ha⟩ := findCode_some hf
      have hol : o ≤ data.length := by
        have h1 := congrArg List.length hab.eq
        simp [startCode] at h1
        have h2 : a.length ≤ data.length := by omega
        omega
      have hb : data.drop (0 + o + s) = b := by
        rw [hab.eq, ← List.append_assoc, List.drop_left' (by simp [startCode]; omega)]
      have hun : nalUnits data = units (pieces startCode b) := by
        rw [nalUnits, hab.pieces_eq (by simp [startCode]), List.tail_cons]
      have hloop := collectLoop_collected data capacity (data.length + 1) (0 + o) s [] (by simp) (by omega)
        (by omega) (by omega)
      rw [hb, ← hun] at hloop
      unfold Collected at hloop
      simp only [List.length_nil, Nat.zero_add, Option.map_some, List.nil_append] at hloop ⊢
      by_cases hle : (nalUnits data).length ≤ capacity
      · rw [if_pos hle] at hloop
        obtain ⟨vs, hr, hvs, hok⟩ := hloop
        rw [hr]
        have hl : vs.length = (nalUnits data).length := by rw [← hvs, List.length_map]
        by_cases h1 : 1 ≤ (nalUnits data).length
        · rw [if_pos ⟨h1, hle⟩]
          exact ⟨vs, by rw [Option.bind_eq_bind, Option.bind_some, if_neg (by omega)], hvs, hok⟩
        · rw [if_neg (fun h => h1 h.1)]
          rw [Option.bind_eq_bind, Option.bind_some, if_pos (by omega)]
      · rw [if_neg hle] at hloop
        rw [if_neg (fun h => hle h.2), hloop]
        rfl

/-- A reported split is the list of NAL units. -/
theorem collect_some {data : Bytes} {capacity : Nat} {vs : List H264NaluView}
    (h : h264AnnexbCollect data capacity = some vs) :
    vs.map (·.bytes data) = nalUnits data ∧ (∀ v ∈ vs, ViewOk data v) ∧ 1 ≤ (nalUnits data).length ∧
      (nalUnits data).length ≤ capacity := by
  have hc := collect_eq data capacity
  split at hc
  · rename_i hlen
    obtain ⟨vs', hvs', hmap, hok⟩ := hc
    rw [h, Option.some.injEq] at hvs'
    subst hvs'
    exact ⟨hmap, hok, hlen⟩
  · rw [h] at hc; cases hc

/-- A unit is no longer than the access unit. -/
theorem length_le_of_mem {data u : Bytes} (h : u ∈ nalUnits data) : u.length ≤ data.length := by
  have hpos : 1 ≤ (nalUnits data).length := List.length_pos_of_mem h
  have hcollect := collect_eq data (nalUnits data).length
  rw [if_pos ⟨hpos, Nat.le_refl _⟩] at hcollect
  obtain ⟨vs, -, hbytes, hok⟩ := hcollect
  rw [← hbytes] at h
  obtain ⟨v, hv, rfl⟩ := List.mem_map.mp h
  have hin := (hok v hv).inBounds
  rw [(hok v hv).length_bytes]
  omega

/-- The types of the views are the types of the units. -/
theorem any_type {data : Bytes} {vs : List H264NaluView} (hok : ∀ v ∈ vs, ViewOk data v) (p : UInt8 → Bool) :
    vs.any (fun v => p v.type) = (vs.map (·.bytes data)).any fun u => p (unitType u) := by
  rw [List.any_map]
  induction vs with
  | nil => rfl
  | cons v vs ih =>
    rw [List.any_cons, List.any_cons, ih (fun v hv => hok v (List.mem_cons_of_mem _ hv)),
      (hok v List.mem_cons_self).type_eq]
    rfl

/-- `h264_annexb_contains_type` in terms of the NAL units. -/
theorem containsType_eq (data : Bytes) (type : UInt8) : h264AnnexbContainsType data type =
    (decide ((nalUnits data).length ≤ annexbMaxNalus) && (nalUnits data).any fun u => unitType u == type) := by
  unfold h264AnnexbContainsType
  cases hc : h264AnnexbCollect data annexbMaxNalus with
  | some vs =>
    obtain ⟨hmap, hok, -, hle⟩ := collect_some hc
    simp only [any_type hok (· == type), hmap, hle, decide_true, Bool.true_and]
  | none =>
    have h := collect_eq data annexbMaxNalus
    split at h
    · obtain ⟨vs, hvs, -⟩ := h
      rw [hc] at hvs; cases hvs
    · rename_i hlen
      by_cases h1 : 1 ≤ (nalUnits data).length
      · simp [show ¬(nalUnits data).length ≤ annexbMaxNalus by tauto]
      · have h0 : nalUnits data = [] := List.length_eq_zero_iff.mp (by omega)
        simp [h0]

/-! ## What a unit looks like -/

/-- A byte string that can be a unit: not empty, not ending in a zero byte, without a start code. -/
structure IsUnit (u : Bytes) : Prop where
  ne_nil : u ≠ []
  strip_eq : strip u = u
  noCode : ¬startCode <:+: u

theorem isUnit_of_mem {data u : Bytes} (h : u ∈ nalUnits data) : IsUnit u := by
  unfold nalUnits units at h
  rw [List.mem_filter, List.mem_map] at h
  obtain ⟨⟨p, hp, rfl⟩, hne⟩ := h
  have hcode := not_infix_of_mem_pieces (by simp [startCode]) (List.mem_of_mem_tail hp)
  exact ⟨by simpa using hne, List.rdropWhile_idempotent _ _,
    fun hi => hcode (hi.trans (List.rdropWhile_prefix _ _).isInfix)⟩

theorem IsUnit.getLast_ne_zero {u : Bytes} (h : IsUnit u) (hne : u ≠ []) : u.getLast hne ≠ 0 := by
  simpa using List.rdropWhile_eq_self_iff.mp h.strip_eq hne

/-- No start code begins inside a unit, whatever follows it. -/
theorem IsUnit.not_prefix {u : Bytes} (h : IsUnit u) (rest : Bytes) : ∀ {v : Bytes}, v <:+ u → v ≠ [] →
    ¬startCode <+: v ++ rest
  | [], _, hv => absurd rfl hv
  | [a], hs, hv => by
    have hlast := h.getLast_ne_zero h.ne_nil
    have ha : u.getLast h.ne_nil = a := by
      obtain ⟨t, ht⟩ := hs
      simp [← ht]
    rw [ha] at hlast
    simp [startCode, List.cons_prefix_cons, Ne.symm hlast]
  | [a, b], hs, hv => by
    have hlast := h.getLast_ne_zero h.ne_nil
    have hb : u.getLast h.ne_nil = b := by
      obtain ⟨t, ht⟩ := hs
      simp [← ht]
    rw [hb] at hlast
    simp [startCode, List.cons_prefix_cons, Ne.symm hlast]
  | a :: b :: c :: v, hs, _ => fun hp => by
    refine h.noCode (List.IsInfix.trans ?_ hs.isInfix)
    simp only [startCode, List.cons_append, List.cons_prefix_cons] at hp
    obtain ⟨rfl, rfl, rfl, -⟩ := hp
    exact ⟨[], v, rfl⟩

/-- **A unit in front** joins the first piece. -/
theorem IsUnit.pieces_append {u : Bytes} (h : IsUnit u) (rest : Bytes) :
    pieces startCode (u ++ rest) = (pieces startCode rest).modifyHead (u ++ ·) := by
  have key : ∀ v : Bytes, v <:+ u → pieces startCode (v ++ rest) = (pieces startCode rest).modifyHead (v ++ ·) := by
    intro v
    induction v with
    | nil =>
      intro _
      rw [List.nil_append]
      cases pieces startCode rest <;> rfl
    | cons a v ih =>
      intro hs
      rw [List.cons_append, pieces_cons (by simpa using h.not_prefix rest hs (by simp)),
        ih ((List.suffix_cons a v).trans hs)]
      cases pieces startCode rest <;> simp
  exact key u (List.suffix_refl u)

/-! ## The parameter sets of an access unit -/

theorem copyLoop_some {data : Bytes} {vs : List H264NaluView} {allocs : List Bool} {found r : ParameterSets}
    (hok : ∀ v ∈ vs, ViewOk data v) (h : copyLoop data vs allocs found = some r) :
    r.sps = found.sps.or ((vs.map (·.bytes data)).find? fun u => unitType u == nalSps) ∧
      r.pps = found.pps.or ((vs.map (·.bytes data)).find? fun u => unitType u == nalPps) := by
  induction vs generalizing allocs found with
  | nil =>
    simp only [copyLoop, Option.some.injEq] at h
    subst h
    simp
  | cons v vs ih =>
    have htype := (hok v (by simp)).type_eq
    have hrest : ∀ w ∈ vs, ViewOk data w := fun w hw => hok w (by simp [hw])
    simp only [copyLoop] at h
    rw [List.map_cons, List.find?_cons, List.find?_cons, ← htype]
    split at h
    · rename_i hsps
      split at h
      · obtain ⟨h1, h2⟩ := ih hrest h
        simp [h1, h2, hsps.1, hsps.2, show (nalSps == nalPps) = false by decide]
      · cases h
    · rename_i hsps
      split at h
      · rename_i hpps
        split at h
        · obtain ⟨h1, h2⟩ := ih hrest h
          simp [h1, h2, hpps.1, hpps.2, show (nalPps == nalSps) = false by decide]
        · cases h
      · rename_i hpps
        obtain ⟨h1, h2⟩ := ih hrest h
        constructor
        · by_cases hv : v.type = nalSps
          · have hf : found.sps ≠ none := fun hf => hsps ⟨hv, hf⟩
            obtain ⟨s, hs⟩ := Option.ne_none_iff_exists'.mp hf
            simp [h1, hs]
          · have hb : (v.type == nalSps) = false := by simpa using hv
            rw [h1, hb]
        · by_cases hv : v.type = nalPps
          · have hf : found.pps ≠ none := fun hf => hpps ⟨hv, hf⟩
            obtain ⟨s, hs⟩ := Option.ne_none_iff_exists'.mp hf
            simp [h2, hs]
          · have hb : (v.type == nalPps) = false := by simpa using hv
            rw [h2, hb]

/-- **What is stored** are the first SPS and the first PPS. -/
theorem copyParameterSets_some {data sps pps : Bytes} {allocs : List Bool}
    (h : h264AnnexbCopyParameterSets data allocs = some (sps, pps)) :
    (nalUnits data).find? (fun u => unitType u == nalSps) = some sps ∧
      (nalUnits data).find? (fun u => unitType u == nalPps) = some pps := by
  unfold h264AnnexbCopyParameterSets at h
  split at h
  · cases h
  · rename_i vs hvs
    obtain ⟨hbytes, hok, -, -⟩ := collect_some hvs
    split at h
    · rename_i s p hcopy
      obtain ⟨h1, h2⟩ := copyLoop_some hok hcopy
      cases h
      simp only [Option.none_or, hbytes] at h1 h2
      exact ⟨h1.symm, h2.symm⟩
    · cases h

end MiniRtsp.H264
