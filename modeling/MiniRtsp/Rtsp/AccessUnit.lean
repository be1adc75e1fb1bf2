import MiniRtsp.H264.Segments
import MiniRtsp.Rtsp.Media

/-!
# The packets of an access unit

`send_access_unit` follows a plan (`sendAccessUnit_plan`): the payloads of the parameter sets that are missing, then
those of the NALs. When nothing is refused the plan is that of one NAL list (`accessUnitPlan_eq`), whose packets a
receiver depacketizes to that list (`sendAccessUnit_depacketizes`) and only the last of which carries the marker
(`markedLast_nalsPayloads`).
-/

namespace MiniRtsp.Rtsp

open Attempt H264 Rtp RtpFormat

/-! ## The plan -/

/-- The plan of `send_parameter_set`. -/
def parameterSetPlan (nalu : Option Bytes) : Plan :=
  match nalu with
  | none => ⟨[], false⟩
  | some nalu => if nalu.length = 0 ∨ nalu.length > intMax then ⟨[], false⟩ else naluPlan nalu false

/-- The plan of the loop over the NALs. -/
def nalusPlan (accessUnit : Bytes) : List H264NaluView → Plan
  | [] => ⟨[], true⟩
  | v :: vs =>
    if v.size > intMax then ⟨[], false⟩
    else (naluPlan (v.bytes accessUnit) vs.isEmpty).andThen (nalusPlan accessUnit vs)

/-- The plan of `send_access_unit`. -/
def accessUnitPlan (media : RTSPMedia) (accessUnit : Bytes) (prependParameterSets : Bool) : Plan :=
  match h264AnnexbCollect accessUnit annexbMaxNalus with
  | none => ⟨[], false⟩
  | some nalus =>
    let sps := if prependParameterSets && !h264AnnexbContainsType accessUnit nalSps then parameterSetPlan media.sps
      else ⟨[], true⟩
    let pps := if prependParameterSets && !h264AnnexbContainsType accessUnit nalPps then parameterSetPlan media.pps
      else ⟨[], true⟩
    sps.andThen (pps.andThen (nalusPlan accessUnit nalus))

section Perform

variable {σ : Type*} (send : σ → Bytes → σ × Int) (timestamp : UInt32)

@[simp] theorem perform_nothing (seq : UInt16) (context : σ) :
    (Plan.mk [] true).perform send timestamp seq context = ⟨context, seq, some 0⟩ := by
  simp [Plan.perform, numbered]

@[simp] theorem perform_refused (seq : UInt16) (context : σ) :
    (Plan.mk [] false).perform send timestamp seq context = ⟨context, seq, none⟩ := by
  simp [Plan.perform, numbered]

theorem sendParameterSet_plan (nalu : Option Bytes) (seq : UInt16) (context : σ) :
    sendParameterSet send nalu timestamp seq context = (parameterSetPlan nalu).perform send timestamp seq context := by
  cases nalu with
  | none => simp [sendParameterSet, parameterSetPlan]
  | some nalu =>
    unfold sendParameterSet parameterSetPlan
    dsimp only
    split
    · rw [perform_refused]
    · rw [h264RtpSendNaluCtx_plan]

theorem sendNalus_plan (accessUnit : Bytes) (vs : List H264NaluView) (seq : UInt16) (context : σ) :
    sendNalus send accessUnit timestamp vs seq context =
      (nalusPlan accessUnit vs).perform send timestamp seq context := by
  induction vs generalizing seq context with
  | nil => rw [sendNalus, nalusPlan, perform_nothing]
  | cons v vs ih =>
    rw [sendNalus, nalusPlan]
    split
    · rw [perform_refused]
    · rw [Plan.perform_andThen, h264RtpSendNaluCtx_plan]
      simp only [ih]

/-- **Sending an access unit follows its plan**, whatever the callback answers. -/
theorem sendAccessUnit_plan (media : RTSPMedia) (accessUnit : Bytes) (prepend : Bool) (seq : UInt16) (context : σ) :
    sendAccessUnit send media accessUnit timestamp prepend seq context =
      (accessUnitPlan media accessUnit prepend).perform send timestamp seq context := by
  unfold sendAccessUnit accessUnitPlan
  cases h264AnnexbCollect accessUnit annexbMaxNalus with
  | none => rw [perform_refused]
  | some nalus =>
    have hset : ∀ (b : Bool) (nalu : Option Bytes) (seq : UInt16) (context : σ),
        (if b then sendParameterSet send nalu timestamp seq context else ⟨context, seq, some 0⟩) =
          (if b then parameterSetPlan nalu else ⟨[], true⟩).perform send timestamp seq context := by
      intro b nalu seq context
      cases b with
      | false => simp
      | true => simpa using sendParameterSet_plan send timestamp nalu seq context
    simp only [Plan.perform_andThen, hset, sendNalus_plan]

end Perform

/-! ## The NALs that are sent -/

/-- The payloads of NALs; the marker goes with the last one. -/
def nalsPayloads : List Bytes → List (Bool × Bytes)
  | [] => []
  | n :: ns => naluPayloads n ns.isEmpty ++ nalsPayloads ns

/-- The NALs that `send_access_unit` sends: the missing parameter sets, then the units. -/
def streamedNals (media : RTSPMedia) (accessUnit : Bytes) (prepend : Bool) : List Bytes :=
  (if prepend && !h264AnnexbContainsType accessUnit nalSps then media.sps.toList else []) ++
    (if prepend && !h264AnnexbContainsType accessUnit nalPps then media.pps.toList else []) ++ nalUnits accessUnit

/-- A parameter set that `send_parameter_set` accepts. -/
def SetOk (nalu : Option Bytes) : Prop := ∃ n, nalu = some n ∧ n ≠ [] ∧ n.length ≤ intMax

theorem parameterSetPlan_eq {nalu : Option Bytes} (h : SetOk nalu) :
    ∃ n, nalu = some n ∧ parameterSetPlan nalu = ⟨naluPayloads n false, true⟩ := by
  obtain ⟨n, rfl, hne, hlen⟩ := h
  refine ⟨n, rfl, ?_⟩
  have hpos : n.length ≠ 0 := fun h => hne (List.length_eq_zero_iff.mp h)
  simp [parameterSetPlan, naluPlan, hne, show ¬intMax < n.length by omega]

theorem nalusPlan_eq (accessUnit : Bytes) (vs : List H264NaluView) (hsize : ∀ v ∈ vs, v.size ≤ intMax)
    (hok : ∀ v ∈ vs, ViewOk accessUnit v) :
    nalusPlan accessUnit vs = ⟨nalsPayloads (vs.map (·.bytes accessUnit)), true⟩ := by
  induction vs with
  | nil => rfl
  | cons v vs ih =>
    have hne := (hok v (by simp)).bytes_ne_nil
    have hs := hsize v (by simp)
    have hrest := ih (fun w hw => hsize w (by simp [hw])) (fun w hw => hok w (by simp [hw]))
    rw [nalusPlan, if_neg (by omega), hrest, naluPlan, if_neg hne]
    simp [Plan.andThen, nalsPayloads]

/-- What `send_access_unit` asks of an access unit and of the parameter sets it has to add. -/
structure Sendable (media : RTSPMedia) (accessUnit : Bytes) (prepend : Bool) : Prop where
  few : 1 ≤ (nalUnits accessUnit).length ∧ (nalUnits accessUnit).length ≤ annexbMaxNalus
  short : ∀ u ∈ nalUnits accessUnit, u.length ≤ intMax
  sps : prepend = true → SetOk media.sps
  pps : prepend = true → SetOk media.pps

/-- **The plan of a sendable access unit** is complete, and is that of its NAL list. -/
theorem accessUnitPlan_eq {media : RTSPMedia} {accessUnit : Bytes} {prepend : Bool}
    (h : Sendable media accessUnit prepend) :
    accessUnitPlan media accessUnit prepend = ⟨nalsPayloads (streamedNals media accessUnit prepend), true⟩ := by
  have hcollect := collect_eq accessUnit annexbMaxNalus
  rw [if_pos h.few] at hcollect
  obtain ⟨vs, hvs, hbytes, hok⟩ := hcollect
  have hsize : ∀ v ∈ vs, v.size ≤ intMax := fun v hv => by
    rw [← (hok v hv).length_bytes]
    exact h.short _ (by rw [← hbytes]; exact List.mem_map_of_mem hv)
  have hnals : nalUnits accessUnit ≠ [] := fun h0 => by
    have := h.few.1
    rw [h0] at this
    simp at this
  -- a parameter set in front of a non-empty list goes without the marker
  have hset : ∀ (b : Bool) (nalu : Option Bytes) (ns : List Bytes), ns ≠ [] → (b = true → SetOk nalu) →
      (if b then parameterSetPlan nalu else ⟨[], true⟩).andThen ⟨nalsPayloads ns, true⟩ =
        ⟨nalsPayloads ((if b then nalu.toList else []) ++ ns), true⟩ := by
    intro b nalu ns hns hb
    cases b with
    | false => simp [Plan.andThen]
    | true =>
      obtain ⟨n, rfl, hplan⟩ := parameterSetPlan_eq (hb rfl)
      have hempty : ns.isEmpty = false := by simpa using hns
      simp [hplan, Plan.andThen, nalsPayloads, hempty]
  unfold accessUnitPlan streamedNals
  rw [hvs]
  dsimp only
  rw [nalusPlan_eq accessUnit vs hsize hok, hbytes,
    hset _ _ _ hnals (fun hb => h.pps (Bool.and_eq_true_iff.mp hb).1),
    hset _ _ _ (by simp [hnals]) (fun hb => h.sps (Bool.and_eq_true_iff.mp hb).1), List.append_assoc]

/-! ## What a receiver makes of it -/

/-- A NAL that a receiver takes from single packets and fragments. -/
def Receivable (n : Bytes) : Prop := n ≠ [] ∧ 1 ≤ unitType n ∧ unitType n ≤ 23

instance : DecidablePred Receivable := fun n => inferInstanceAs (Decidable (n ≠ [] ∧ 1 ≤ unitType n ∧ unitType n ≤ 23))

theorem acceptAll_nalsPayloads (ns : List Bytes) (h : ∀ n ∈ ns, Receivable n) :
    acceptAll none ((nalsPayloads ns).map (·.2)) = some (none, ns) := by
  induction ns with
  | nil => rfl
  | cons n ns ih =>
    obtain ⟨hne, hlo, hhi⟩ := h n (by simp)
    have hrest := ih fun m hm => h m (by simp [hm])
    rw [nalsPayloads, List.map_append]
    exact acceptAll_append (acceptAll_naluPayloads hne ns.isEmpty ⟨hlo, hhi⟩) hrest

/-- **The marker of an access unit** is on its last packet only. -/
theorem markedLast_nalsPayloads : ∀ {ns : List Bytes}, ns ≠ [] → MarkedLast true (nalsPayloads ns)
  | [n], _ => by simpa [nalsPayloads] using markedLast_naluPayloads n true
  | n :: m :: ns, _ => by
    have ih : MarkedLast true (nalsPayloads (m :: ns)) := markedLast_nalsPayloads (by simp)
    exact (markedLast_naluPayloads n false).append ih

/-! ## Markers -/

theorem parameterSetPlan_unmarked (nalu : Option Bytes) : ∀ x ∈ (parameterSetPlan nalu).payloads, x.1 = false := by
  unfold parameterSetPlan
  repeat' split
  · simp
  · simp
  · exact naluPlan_unmarked _

theorem nalusPlan_marked (accessUnit : Bytes) : ∀ {vs : List H264NaluView}, vs ≠ [] → (nalusPlan accessUnit vs).Marked
  | [v], _ => by
    unfold nalusPlan
    split
    · simp [Plan.Marked]
    · unfold naluPlan
      split
      · simp [Plan.Marked, Plan.andThen]
      · simpa [Plan.Marked, Plan.andThen, nalusPlan] using markedLast_naluPayloads (v.bytes accessUnit) true
  | v :: w :: vs, _ => by
    have ih : (nalusPlan accessUnit (w :: vs)).Marked := nalusPlan_marked accessUnit (by simp)
    rw [nalusPlan]
    split
    · simp [Plan.Marked]
    · exact Plan.marked_andThen (naluPlan_unmarked _) ih

/-- **The marker of a plan** is on the last payload of a complete plan and nowhere else. -/
theorem accessUnitPlan_marked (media : RTSPMedia) (accessUnit : Bytes) (prepend : Bool) :
    (accessUnitPlan media accessUnit prepend).Marked := by
  unfold accessUnitPlan
  cases hcollect : h264AnnexbCollect accessUnit annexbMaxNalus with
  | none => simp [Plan.Marked]
  | some vs =>
    obtain ⟨hbytes, -, hpos, -⟩ := collect_some hcollect
    have hne : vs ≠ [] := fun h => by
      subst h
      simp [← hbytes] at hpos
    have hset : ∀ (b : Bool) (nalu : Option Bytes),
        ∀ x ∈ (if b then parameterSetPlan nalu else ⟨[], true⟩ : Plan).payloads, x.1 = false := by
      intro b nalu
      cases b with
      | false => simp
      | true => simpa using parameterSetPlan_unmarked nalu
    exact Plan.marked_andThen (hset _ _) (Plan.marked_andThen (hset _ _) (nalusPlan_marked accessUnit hne))

/-- A complete plan sends something. -/
theorem accessUnitPlan_ne_nil {media : RTSPMedia} {accessUnit : Bytes} {prepend : Bool}
    (h : (accessUnitPlan media accessUnit prepend).complete = true) :
    (accessUnitPlan media accessUnit prepend).payloads ≠ [] := by
  have hm := accessUnitPlan_marked media accessUnit prepend
  rw [Plan.Marked, h, if_pos rfl] at hm
  obtain ⟨init, last, heq, -⟩ := hm
  simp [heq]

/-! ## What is received -/

/-- Numbered packets parse back to their payloads. -/
theorem mapM_parsePacket_numbered (timestamp : UInt32) : ∀ (seq : UInt16) (ps : List (Bool × Bytes)),
    ∃ parsed, (numbered timestamp seq ps).mapM parsePacket = some parsed ∧ parsed.map (·.2) = ps.map (·.2)
  | seq, [] => ⟨[], rfl, rfl⟩
  | seq, p :: ps => by
    obtain ⟨parsed, hparsed, hmap⟩ := mapM_parsePacket_numbered timestamp (seq + 1) ps
    refine ⟨(headerOf timestamp seq p.1, p.2) :: parsed, ?_, by simp [hmap]⟩
    simp [numbered, parsePacket_packetOf, hparsed]

theorem receive_numbered (timestamp : UInt32) (seq : UInt16) {ns : List Bytes} (h : ∀ n ∈ ns, Receivable n) :
    receive (numbered timestamp seq (nalsPayloads ns)) = some ns := by
  obtain ⟨parsed, hparsed, hmap⟩ := mapM_parsePacket_numbered timestamp seq (nalsPayloads ns)
  simp [receive, hparsed, hmap, depacketize, acceptAll_nalsPayloads ns h]

/-- Datagrams that are all sent. -/
theorem attempt_mediaRtpSend {media : RTSPMedia} (hsock : 0 ≤ media.sender.sockfd)
    {sendto : List Datagram → Bytes → Int} (hsend : ∀ network packet, sendto network packet = packet.length)
    (timestamp : UInt32) (seq : UInt16) (ps : List (Bool × Bytes)) (network : List Datagram) :
    attempt (callback (mediaRtpSend sendto media)) (numbered timestamp seq ps) network =
      ⟨network ++ (numbered timestamp seq ps).map (Datagram.mk media.sender.remoteAddr), ps.length, true⟩ := by
  have hone : ∀ (network : List Datagram) (seq : UInt16) (p : Bool × Bytes),
      callback (mediaRtpSend sendto media) network (packetOf timestamp seq p.1 p.2) =
        (network ++ [⟨media.sender.remoteAddr, packetOf timestamp seq p.1 p.2⟩], true) := by
    intro network seq p
    have hne : packetOf timestamp seq p.1 p.2 ≠ [] := by simp [packetOf, rtpPacketPack]
    have hlen : ¬((packetOf timestamp seq p.1 p.2).length : Int) < 0 := by omega
    simp [callback, mediaRtpSend, rtpSenderSend, hne, hsend, hlen, show ¬media.sender.sockfd < 0 by omega]
  induction ps generalizing seq network with
  | nil => simp [numbered]
  | cons p ps ih =>
    rw [numbered, attempt_cons_ok (by rw [hone]), hone, ih]
    simp

/-- The types of the views are the types of the NALs. -/
theorem containsType_of_collect {data : Bytes} {vs : List H264NaluView}
    (h : h264AnnexbCollect data annexbMaxNalus = some vs) (type : UInt8) :
    h264AnnexbContainsType data type = vs.any (·.type == type) := by
  rw [h264AnnexbContainsType, h]

/-- **Packetization loses and invents nothing.** When all sends succeed, a receiver of the packets of an access unit
gets the missing parameter sets and then the NALs of the unit, byte for byte and in order. -/
theorem sendAccessUnit_depacketizes {media : RTSPMedia} {accessUnit sps pps : Bytes} {vs : List H264NaluView}
    {sendto : List Datagram → Bytes → Int} (hcollect : h264AnnexbCollect accessUnit annexbMaxNalus = some vs)
    (hunits : ∀ v ∈ vs, 1 ≤ v.type ∧ v.type ≤ 23 ∧ v.size ≤ intMax) (hsps : media.sps = some sps)
    (hpps : media.pps = some pps) (hsets : ∀ s ∈ [sps, pps], Receivable s ∧ s.length ≤ intMax)
    (hsock : 0 ≤ media.sender.sockfd) (hsend : ∀ network packet, sendto network packet = packet.length)
    (timestamp : UInt32) (prepend : Bool) (seq : UInt16) (network : List Datagram) :
    ∃ packets, (sendAccessUnit (mediaRtpSend sendto media) media accessUnit timestamp prepend seq network).context =
        network ++ packets.map (Datagram.mk media.sender.remoteAddr) ∧
      (sendAccessUnit (mediaRtpSend sendto media) media accessUnit timestamp prepend seq network).ret =
        some packets.length ∧
      receive packets = some ((if prepend && !vs.any (·.type == nalSps) then [sps] else []) ++
        (if prepend && !vs.any (·.type == nalPps) then [pps] else []) ++ vs.map (·.bytes accessUnit)) := by
  obtain ⟨hbytes, hok, hpos, hcap⟩ := collect_some hcollect
  have hnals : ∀ u ∈ nalUnits accessUnit, Receivable u ∧ u.length ≤ intMax := by
    intro u hu
    rw [← hbytes] at hu
    obtain ⟨v, hv, rfl⟩ := List.mem_map.mp hu
    obtain ⟨hlo, hhi, hsize⟩ := hunits v hv
    rw [(hok v hv).type_eq] at hlo hhi
    exact ⟨⟨(hok v hv).bytes_ne_nil, hlo, hhi⟩, by rw [(hok v hv).length_bytes]; exact hsize⟩
  have hsps' := hsets sps (by simp)
  have hpps' := hsets pps (by simp)
  have hsendable : Sendable media accessUnit prepend :=
    ⟨⟨hpos, hcap⟩, fun u hu => (hnals u hu).2, fun _ => ⟨sps, hsps, hsps'.1.1, hsps'.2⟩,
      fun _ => ⟨pps, hpps, hpps'.1.1, hpps'.2⟩⟩
  have hstream : streamedNals media accessUnit prepend =
      (if prepend && !vs.any (·.type == nalSps) then [sps] else []) ++
      (if prepend && !vs.any (·.type == nalPps) then [pps] else []) ++ vs.map (·.bytes accessUnit) := by
    rw [streamedNals, containsType_of_collect hcollect, containsType_of_collect hcollect, hsps, hpps, hbytes]
    rfl
  have hreceivable : ∀ n ∈ streamedNals media accessUnit prepend, Receivable n := by
    intro n hn
    simp only [streamedNals, hsps, hpps, Option.toList_some, List.mem_append] at hn
    rcases hn with (hn | hn) | hn
    · split at hn
      · rw [List.mem_singleton.mp hn]; exact hsps'.1
      · cases hn
    · split at hn
      · rw [List.mem_singleton.mp hn]; exact hpps'.1
      · cases hn
    · exact (hnals n hn).1
  refine ⟨numbered timestamp seq (nalsPayloads (streamedNals media accessUnit prepend)), ?_, ?_, ?_⟩
  · rw [sendAccessUnit_plan, accessUnitPlan_eq hsendable, Plan.perform, attempt_mediaRtpSend hsock hsend]
  · rw [sendAccessUnit_plan, accessUnitPlan_eq hsendable, Plan.perform, attempt_mediaRtpSend hsock hsend]
    simp
  · rw [receive_numbered timestamp seq hreceivable, hstream]

/-- A pipeline with an open RTP socket and stored parameter sets. -/
def streamingMedia : RTSPMedia :=
  { RTSPMedia.zero with
    sender := ⟨7, [], 0, 0, ⟨⟨192, 168, 1, 20⟩, 6000⟩⟩, sps := some [0x67, 0x64, 0x00], pps := some [0x68, 0xee] }

/-- A lone IDR slice goes out behind both parameter sets. -/
theorem sendAccessUnit_depacketizes_idr : ∃ packets,
    (sendAccessUnit (mediaRtpSend (fun _ p => p.length) streamingMedia) streamingMedia
      [0x00, 0x00, 0x00, 0x01, 0x65, 0x88] 0 true 100 []).context =
        packets.map (Datagram.mk ⟨⟨192, 168, 1, 20⟩, 6000⟩) ∧
    (sendAccessUnit (mediaRtpSend (fun _ p => p.length) streamingMedia) streamingMedia
      [0x00, 0x00, 0x00, 0x01, 0x65, 0x88] 0 true 100 []).ret = some packets.length ∧
    receive packets = some [[0x67, 0x64, 0x00], [0x68, 0xee], [0x65, 0x88]] :=
  have hcollect : h264AnnexbCollect [0x00, 0x00, 0x00, 0x01, 0x65, 0x88] annexbMaxNalus = some [⟨4, 2, 5⟩] := by decide
  sendAccessUnit_depacketizes hcollect (by decide) rfl rfl (by decide) (by decide) (fun _ _ => rfl) 0 true 100 []

end MiniRtsp.Rtsp
