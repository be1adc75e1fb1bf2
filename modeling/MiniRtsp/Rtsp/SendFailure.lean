import MiniRtsp.Rtsp.AccessUnit

/-!
# Sends that fail

The calls of the send callback during one `send_access_unit`, written down (`sendCalls`). They are the packets of the
access unit up to the first one that fails (`sendAccessUnit_failures`), whatever stops the unit before: the plan of an
access unit begins the packetization of its NAL list, and is all of it unless a size is refused
(`accessUnitPlan_begins`).
-/

namespace MiniRtsp.Rtsp

open Attempt H264 Rtp RtpFormat

/-- A callback that writes down every packet it is given and whether it was delivered. -/
def logged {σ : Type*} (send : σ → Bytes → σ × Int) (context : σ × List (Bytes × Bool)) (packet : Bytes) :
    (σ × List (Bytes × Bool)) × Int :=
  let (state, ret) := send context.1 packet
  ((state, context.2 ++ [(packet, decide (0 ≤ ret))]), ret)

section Calls

variable {σ : Type*} (send : σ → Bytes → σ × Int)

/-- The calls of the callback during `send_access_unit`. -/
def sendCalls (media : RTSPMedia) (accessUnit : Bytes) (timestamp : UInt32) (prependParameterSets : Bool)
    (seq : UInt16) (context : σ) : List (Bytes × Bool) :=
  (sendAccessUnit (logged send) media accessUnit timestamp prependParameterSets seq (context, [])).context.2

/-- The `k`-th call fails and no earlier one does. -/
def FailsFirstAt (calls : List (Bytes × Bool)) (k : Nat) : Prop :=
  1 ≤ k ∧ (∃ packet, calls[k - 1]? = some (packet, false)) ∧ ∀ i < k - 1, ∃ packet, calls[i]? = some (packet, true)

/-- A size that `send_access_unit` or `send_parameter_set` refuses. -/
def Refused (media : RTSPMedia) (accessUnit : Bytes) (prepend : Bool) : Prop :=
  prepend = true ∧ h264AnnexbContainsType accessUnit nalSps = false ∧ ¬ SetOk media.sps ∨
  prepend = true ∧ h264AnnexbContainsType accessUnit nalPps = false ∧ ¬ SetOk media.pps ∨
  ∃ u ∈ nalUnits accessUnit, intMax < u.length

/-- The packets of an access unit with its missing parameter sets. -/
def packetization (media : RTSPMedia) (accessUnit : Bytes) (timestamp : UInt32) (prepend : Bool) (seq : UInt16) :
    List Bytes :=
  numbered timestamp seq (nalsPayloads (streamedNals media accessUnit prepend))

end Calls

/-! ## Plans that begin a packetization -/

/-- The plan goes through the payloads in order, and through all of them if it is complete. -/
structure Begins (plan : Plan) (payloads : List (Bool × Bytes)) : Prop where
  start : plan.payloads <+: payloads
  all : plan.complete = true → plan.payloads = payloads

theorem begins_nothing : Begins ⟨[], true⟩ [] := ⟨List.nil_prefix, fun _ => rfl⟩

theorem begins_refused (payloads : List (Bool × Bytes)) : Begins ⟨[], false⟩ payloads := ⟨List.nil_prefix, nofun⟩

theorem complete_andThen (p q : Plan) : (p.andThen q).complete = (p.complete && q.complete) := by
  unfold Plan.andThen
  cases hp : p.complete <;> simp [hp]

theorem Begins.andThen {p q : Plan} {ps qs : List (Bool × Bytes)} (hp : Begins p ps) (hq : Begins q qs) :
    Begins (p.andThen q) (ps ++ qs) := by
  unfold Plan.andThen
  cases hc : p.complete with
  | false => exact ⟨hp.start.trans (List.prefix_append _ _), fun h => absurd h (by simp [hc])⟩
  | true =>
    have hall := hp.all hc
    refine ⟨?_, fun h => ?_⟩
    · simpa [hall] using hq.start
    · simpa [hall] using hq.all h

theorem parameterSetPlan_begins (nalu : Option Bytes) :
    Begins (parameterSetPlan nalu) (nalu.toList.flatMap (naluPayloads · false)) ∧
      ((parameterSetPlan nalu).complete = true ↔ SetOk nalu) := by
  cases nalu with
  | none => exact ⟨begins_refused _, by simp [parameterSetPlan, SetOk]⟩
  | some n =>
    unfold parameterSetPlan
    dsimp only
    split
    · next h =>
      refine ⟨begins_refused _, iff_of_false Bool.false_ne_true ?_⟩
      rintro ⟨m, hm, hne, hlen⟩
      obtain rfl := Option.some.inj hm
      have := List.length_pos_iff.mpr hne
      omega
    · next h =>
      have hne : n ≠ [] := fun hn => h (.inl (by simp [hn]))
      rw [naluPlan, if_neg hne]
      exact ⟨⟨by simp, by simp⟩, iff_of_true rfl ⟨n, rfl, hne, by omega⟩⟩

theorem setPlan_begins (b : Bool) (nalu : Option Bytes) :
    Begins (if b then parameterSetPlan nalu else ⟨[], true⟩)
        ((if b then nalu.toList else []).flatMap (naluPayloads · false)) ∧
      ((if b then parameterSetPlan nalu else ⟨[], true⟩ : Plan).complete = true ↔ ¬ (b = true ∧ ¬ SetOk nalu)) := by
  cases b with
  | false => exact ⟨begins_nothing, by simp⟩
  | true => simpa using parameterSetPlan_begins nalu

theorem nalusPlan_begins (accessUnit : Bytes) : ∀ {vs : List H264NaluView}, (∀ v ∈ vs, ViewOk accessUnit v) →
    Begins (nalusPlan accessUnit vs) (nalsPayloads (vs.map (·.bytes accessUnit))) ∧
      ((nalusPlan accessUnit vs).complete = true ↔ ∀ v ∈ vs, v.size ≤ intMax)
  | [], _ => ⟨begins_nothing, by simp [nalusPlan]⟩
  | v :: vs, hok => by
    obtain ⟨hrest, hcomplete⟩ := nalusPlan_begins accessUnit fun w hw => hok w (List.mem_cons_of_mem v hw)
    have hne := (hok v (List.mem_cons_self ..)).bytes_ne_nil
    rw [nalusPlan]
    split
    · next hsize =>
      refine ⟨begins_refused _, iff_of_false Bool.false_ne_true fun h => ?_⟩
      exact absurd (h v (List.mem_cons_self ..)) (by omega)
    · next hsize =>
      have hnalu : Begins (naluPlan (v.bytes accessUnit) vs.isEmpty)
          (naluPayloads (v.bytes accessUnit) vs.isEmpty) := by
        rw [naluPlan, if_neg hne]
        exact ⟨List.prefix_rfl, fun _ => rfl⟩
      refine ⟨by simpa [nalsPayloads] using hnalu.andThen hrest, ?_⟩
      rw [complete_andThen, naluPlan, if_neg hne, Bool.true_and, hcomplete]
      simp [show v.size ≤ intMax by omega]

/-- In front of something the payloads of NALs are unmarked. -/
theorem nalsPayloads_append {ns : List Bytes} (hns : ns ≠ []) : ∀ ms : List Bytes,
    nalsPayloads (ms ++ ns) = ms.flatMap (naluPayloads · false) ++ nalsPayloads ns
  | [] => rfl
  | m :: ms => by
    have hempty : (ms ++ ns).isEmpty = false := by simp [hns]
    rw [List.cons_append, nalsPayloads, nalsPayloads_append hns ms, hempty, List.flatMap_cons, List.append_assoc]

/-- **The plan of an access unit** begins the packetization of its NALs; it is all of it unless a size is refused. -/
theorem accessUnitPlan_begins (media : RTSPMedia) {accessUnit : Bytes} (prepend : Bool) {vs : List H264NaluView}
    (hcollect : h264AnnexbCollect accessUnit annexbMaxNalus = some vs) :
    Begins (accessUnitPlan media accessUnit prepend) (nalsPayloads (streamedNals media accessUnit prepend)) ∧
      ((accessUnitPlan media accessUnit prepend).complete = true ↔ ¬ Refused media accessUnit prepend) := by
  obtain ⟨hbytes, hok, hpos, -⟩ := collect_some hcollect
  have hne : nalUnits accessUnit ≠ [] := List.length_pos_iff.mp hpos
  obtain ⟨hsps, hspsOk⟩ :=
    setPlan_begins (prepend && !h264AnnexbContainsType accessUnit nalSps) media.sps
  obtain ⟨hpps, hppsOk⟩ :=
    setPlan_begins (prepend && !h264AnnexbContainsType accessUnit nalPps) media.pps
  obtain ⟨hnals, hnalsOk⟩ := nalusPlan_begins accessUnit hok
  have hsizes : (∀ v ∈ vs, v.size ≤ intMax) ↔ ¬ ∃ u ∈ nalUnits accessUnit, intMax < u.length := by
    rw [← hbytes]
    simp only [List.mem_map, exists_exists_and_eq_and, not_exists, not_and, Nat.not_lt]
    exact forall₂_congr fun v hv => by rw [(hok v hv).length_bytes]
  unfold accessUnitPlan
  rw [hcollect]
  dsimp only
  constructor
  · rw [streamedNals, nalsPayloads_append hne, List.flatMap_append, List.append_assoc, ← hbytes]
    exact hsps.andThen (hpps.andThen hnals)
  · rw [complete_andThen, complete_andThen]
    have hparts := Bool.and_eq_true_iff.trans (and_congr hspsOk
      (Bool.and_eq_true_iff.trans (and_congr hppsOk (hnalsOk.trans hsizes))))
    refine hparts.trans ?_
    simp only [Refused, not_or, Bool.and_eq_true, Bool.not_eq_true', and_assoc]

/-! ## The calls -/

section Calls

variable {σ : Type*} (send : σ → Bytes → σ × Int)

theorem callback_logged : callback (logged send) = logging (callback send) := rfl

/-- The calls are the packets of the plan as they are tried. -/
theorem sendCalls_eq (media : RTSPMedia) (accessUnit : Bytes) (timestamp : UInt32) (prepend : Bool) (seq : UInt16)
    (context : σ) :
    sendCalls send media accessUnit timestamp prepend seq context =
      tried (callback send) (numbered timestamp seq (accessUnitPlan media accessUnit prepend).payloads) context := by
  rw [sendCalls, sendAccessUnit_plan, Plan.perform, callback_logged, attempt_logging]
  simp

/-- The first failure is the last call. -/
theorem failsFirstAt_tried {step : σ → Bytes → σ × Bool} {packets : List Bytes} {s : σ} {k : Nat}
    (h : FailsFirstAt (tried step packets s) k) :
    (attempt step packets s).ok = false ∧ (attempt step packets s).done = k - 1 ∧ k - 1 < packets.length ∧
      ∃ packet, tried step packets s = (packets.take (k - 1)).map (·, true) ++ [(packet, false)] := by
  obtain ⟨-, ⟨failed, hfailed⟩, hearlier⟩ := h
  rcases tried_cases packets s with ⟨-, htried⟩ | ⟨hok, packet, hpacket, htried⟩
  · rw [htried, List.getElem?_map] at hfailed
    obtain ⟨p, -, hp⟩ := Option.map_eq_some_iff.mp hfailed
    cases hp
  · have hlt : (attempt step packets s).done < packets.length := (List.getElem?_eq_some_iff.mp hpacket).1
    have hlen : ((packets.take (attempt step packets s).done).map (·, true)).length =
        (attempt step packets s).done := by simp; omega
    have hdone : (attempt step packets s).done = k - 1 := by
      rcases Nat.lt_trichotomy (attempt step packets s).done (k - 1) with hk | hk | hk
      · obtain ⟨p, hp⟩ := hearlier _ hk
        rw [htried, List.getElem?_append_right (by omega), hlen, Nat.sub_self] at hp
        cases hp
      · exact hk
      · rw [htried, List.getElem?_append_left (by omega), List.getElem?_map] at hfailed
        obtain ⟨p, -, hp⟩ := Option.map_eq_some_iff.mp hfailed
        cases hp
    exact ⟨hok, hdone, by omega, packet, by rw [← hdone]; exact htried⟩

theorem numbered_prefix (timestamp : UInt32) (seq : UInt16) {ps qs : List (Bool × Bytes)} (h : ps <+: qs) :
    numbered timestamp seq ps <+: numbered timestamp seq qs := by
  obtain ⟨rest, rfl⟩ := h
  rw [numbered_append]
  exact List.prefix_append _ _

/-- **Failed sends.** When the callback first fails at its `k`-th call, sending stops there with `-1`: what was
delivered are the first `k - 1` packets of the unit, and the sequence number has advanced over these. A unit that is not
split makes no call; a unit of which nothing fails is sent as a whole, and its packets are counted. -/
theorem sendAccessUnit_failures (media : RTSPMedia) (accessUnit : Bytes) (timestamp : UInt32) (prepend : Bool)
    (seq : UInt16) (context : σ) :
    let result := sendAccessUnit send media accessUnit timestamp prepend seq context
    let calls := sendCalls send media accessUnit timestamp prepend seq context
    let packets := packetization media accessUnit timestamp prepend seq
    (h264AnnexbCollect accessUnit annexbMaxNalus = none → result.ret = none ∧ calls = [] ∧ result.seq = seq) ∧
    (∀ k, FailsFirstAt calls k → result.ret = none ∧ calls.length = k ∧
      (calls.filter (·.2)).map (·.1) = packets.take (k - 1) ∧ result.seq = seq + UInt16.ofNat (k - 1)) ∧
    (h264AnnexbCollect accessUnit annexbMaxNalus ≠ none → ¬ Refused media accessUnit prepend →
      (∀ c ∈ calls, c.2 = true) → result.ret = some calls.length ∧ calls.map (·.1) = packets ∧
        result.seq = seq + UInt16.ofNat calls.length) := by
  dsimp only
  rw [sendCalls_eq, sendAccessUnit_plan]
  refine ⟨fun hcollect => ?_, fun k hk => ?_, fun hcollect hrefused hall => ?_⟩
  · have hplan : accessUnitPlan media accessUnit prepend = ⟨[], false⟩ := by simp [accessUnitPlan, hcollect]
    rw [hplan, perform_refused]
    exact ⟨rfl, rfl, rfl⟩
  · obtain ⟨hok, hdone, hlt, packet, htried⟩ := failsFirstAt_tried hk
    have hk1 := hk.1
    cases hcollect : h264AnnexbCollect accessUnit annexbMaxNalus with
    | none =>
      have hplan : accessUnitPlan media accessUnit prepend = ⟨[], false⟩ := by simp [accessUnitPlan, hcollect]
      simp [hplan, numbered] at hlt
    | some vs =>
      obtain ⟨hbegins, -⟩ := accessUnitPlan_begins media prepend hcollect
      obtain ⟨rest, hrest⟩ := numbered_prefix timestamp seq hbegins.start
      refine ⟨by simp [Plan.perform, hok], ?_, ?_, by rw [Plan.perform, hdone]⟩
      · rw [htried, List.length_append, List.length_map, List.length_take, List.length_singleton]
        omega
      · rw [htried, packetization, ← hrest, List.take_append_of_le_length (by omega)]
        have hkept : ∀ ps : List Bytes, (ps.map (·, true)).filter (·.2) = ps.map (·, true) :=
          fun ps => List.filter_eq_self.mpr (by simp)
        rw [List.filter_append, hkept]
        simp [Function.comp_def]
  · obtain ⟨vs, hvs⟩ := Option.ne_none_iff_exists'.mp hcollect
    obtain ⟨hbegins, hcomplete⟩ := accessUnitPlan_begins media prepend hvs
    have hc := hcomplete.mpr hrefused
    rcases @tried_cases _ _ (callback send)
      (numbered timestamp seq (accessUnitPlan media accessUnit prepend).payloads) context with
      ⟨hok, htried⟩ | ⟨-, packet, -, htried⟩
    · have hdone := Outcome.done_eq_length hok
      rw [htried, packetization, ← hbegins.all hc, List.length_map, Plan.perform, hok, hdone, hc]
      exact ⟨rfl, by simp [Function.comp_def], rfl⟩
    · have := hall (packet, false) (by rw [htried]; simp)
      cases this

end Calls

/-- A callback that counts its calls and fails at the second one. -/
def failsSecond (calls : Nat) (packet : Bytes) : Nat × Int := (calls + 1, if calls = 1 then -1 else packet.length)

/-- Of SPS, PPS and slice the PPS fails: the SPS is delivered, and the sequence number wraps over it. -/
theorem sendAccessUnit_failures_second :
    FailsFirstAt (sendCalls failsSecond streamingMedia [0, 0, 0, 1, 0x65, 0x88] 0 true 0xffff 0) 2 ∧
    (sendAccessUnit failsSecond streamingMedia [0, 0, 0, 1, 0x65, 0x88] 0 true 0xffff 0).ret = none ∧
    (sendAccessUnit failsSecond streamingMedia [0, 0, 0, 1, 0x65, 0x88] 0 true 0xffff 0).seq = 0 ∧
    ((sendCalls failsSecond streamingMedia [0, 0, 0, 1, 0x65, 0x88] 0 true 0xffff 0).filter (·.2)).length = 1 := by
  have hcalls : sendCalls failsSecond streamingMedia [0, 0, 0, 1, 0x65, 0x88] 0 true 0xffff 0 =
      [([0x80, 0x60, 0xff, 0xff, 0, 0, 0, 0, 0x12, 0x34, 0x56, 0x78, 0x67, 0x64, 0x00], true),
        ([0x80, 0x60, 0, 0, 0, 0, 0, 0, 0x12, 0x34, 0x56, 0x78, 0x68, 0xee], false)] := by
    decide +kernel
  have hfirst : FailsFirstAt (sendCalls failsSecond streamingMedia [0, 0, 0, 1, 0x65, 0x88] 0 true 0xffff 0) 2 := by
    rw [hcalls]
    refine ⟨by decide, ⟨_, rfl⟩, fun i hi => ?_⟩
    obtain rfl : i = 0 := by omega
    exact ⟨_, rfl⟩
  obtain ⟨hret, -, -, hseq⟩ :=
    (sendAccessUnit_failures failsSecond streamingMedia [0, 0, 0, 1, 0x65, 0x88] 0 true 0xffff 0).2.1 2 hfirst
  exact ⟨hfirst, hret, hseq, by rw [hcalls]; rfl⟩

end MiniRtsp.Rtsp
