import MiniRtsp.H264.Annexb
import MiniRtsp.Lib.Attempt
import MiniRtsp.Rtp.Packet

/-!
# Packetization of a NAL unit

`rtp/h264_rtp.c`: a NAL of at most `RTP_PAYLOAD_MAX` bytes is one packet, a longer one is cut into FU-A fragments. The
functions hand every packet to a callback that may fail. `naluPayloads` lists the payloads a NAL gives with their
marker bits, `numbered` the packets of a payload list; sending a NAL is attempting these packets in order
(`h264RtpSendNaluCtx_eq`), and depacketizing them gives the NAL (`acceptAll_naluPayloads`).
-/

namespace MiniRtsp.Rtp

open Attempt RtpFormat

def rtpMaxPacketSize : Nat := 1500
def rtpPayloadMax : Nat := 1400

/-- What a sending function leaves: the callback's context, `*seq`, and the return value (`none` for `-1`). -/
structure SendResult (σ : Type*) where
  context : σ
  seq : UInt16
  ret : Option Nat

section Model

variable {σ : Type*} (send : σ → Bytes → σ × Int)

/-- `send_single_nalu`. -/
def sendSingleNalu (nalu : Bytes) (seq : UInt16) (timestamp : UInt32) (marker : Bool) (context : σ) : SendResult σ :=
  let header := { rtpHeaderInit seq timestamp with marker := if marker then 1 else 0 }
  let packet := rtpPacketPack header nalu
  let (context, sent) := send context packet
  if sent < 0 then ⟨context, seq, none⟩ else ⟨context, seq + 1, some 1⟩

/-- The `while (remain > 0)` loop of `send_fu_a`. Every round sends at least one byte, so `remain` rounds suffice; the
first argument is the number of rounds left. -/
def sendFuALoop (nalu : Bytes) (timestamp : UInt32) (markerForNalu : Bool) :
    Nat → Nat → Nat → Nat → UInt16 → σ → SendResult σ
  | 0, _, _, count, seq, context => ⟨context, seq, some count⟩
  | n + 1, offset, remain, count, seq, context =>
    if remain > 0 then
      let naluHeader := nalu.headD 0
      let fuIndicator := naluHeader &&& 0xe0 ||| 28
      let payloadSize := if remain > rtpPayloadMax then rtpPayloadMax else remain
      let isFirst := offset == 1
      let isLast := decide (remain ≤ rtpPayloadMax)
      let fuHeader := naluHeader &&& 0x1f
      let fuHeader := if isFirst then fuHeader ||| 0x80 else fuHeader
      let fuHeader := if isLast then fuHeader ||| 0x40 else fuHeader
      let fuPayload := fuIndicator :: fuHeader :: (nalu.drop offset).take payloadSize
      let header := { rtpHeaderInit seq timestamp with marker := if isLast && markerForNalu then 1 else 0 }
      let packet := rtpPacketPack header fuPayload
      let (context, sent) := send context packet
      if sent < 0 then ⟨context, seq, none⟩
      else sendFuALoop nalu timestamp markerForNalu n (offset + payloadSize) (remain - payloadSize) (count + 1)
        (seq + 1) context
    else ⟨context, seq, some count⟩

/-- `send_fu_a`. -/
def sendFuA (nalu : Bytes) (seq : UInt16) (timestamp : UInt32) (markerForNalu : Bool) (context : σ) : SendResult σ :=
  if nalu.length ≤ 1 then ⟨context, seq, none⟩
  else sendFuALoop send nalu timestamp markerForNalu (nalu.length - 1) 1 (nalu.length - 1) 0 seq context

/-- `h264_rtp_send_nalu_ctx`; a `NULL` NAL is the empty list. -/
def h264RtpSendNaluCtx (nalu : Bytes) (seq : UInt16) (timestamp : UInt32) (markerForNalu : Bool) (context : σ) :
    SendResult σ :=
  if nalu.length = 0 then ⟨context, seq, none⟩
  else if nalu.length ≤ rtpPayloadMax then sendSingleNalu send nalu seq timestamp markerForNalu context
  else sendFuA send nalu seq timestamp markerForNalu context

end Model

/-! ## The packets of a NAL -/

/-- The FU header of a fragment. -/
def fuHeader (naluHeader : UInt8) (first last : Bool) : UInt8 :=
  let h := naluHeader &&& 0x1f
  let h := if first then h ||| 0x80 else h
  if last then h ||| 0x40 else h

/-- The FU-A payloads of the bytes still to be sent, with their marker bits; the first argument bounds their number. -/
def fuPayloads (naluHeader : UInt8) (marker : Bool) : Nat → Bool → Bytes → List (Bool × Bytes)
  | 0, _, _ => []
  | n + 1, first, rest =>
    if rest = [] then []
    else
      let last : Bool := rest.length ≤ rtpPayloadMax
      (last && marker, (naluHeader &&& 0xe0 ||| 28) :: fuHeader naluHeader first last :: rest.take rtpPayloadMax) ::
        fuPayloads naluHeader marker n false (rest.drop rtpPayloadMax)

/-- The payloads of a NAL, with their marker bits. -/
def naluPayloads (nalu : Bytes) (marker : Bool) : List (Bool × Bytes) :=
  if nalu.length ≤ rtpPayloadMax then [(marker, nalu)]
  else fuPayloads (nalu.headD 0) marker (nalu.length - 1) true nalu.tail

/-- The packets of payloads, numbered consecutively. -/
def numbered (timestamp : UInt32) : UInt16 → List (Bool × Bytes) → List Bytes
  | _, [] => []
  | seq, p :: ps => packetOf timestamp seq p.1 p.2 :: numbered timestamp (seq + 1) ps

@[simp] theorem length_numbered (timestamp : UInt32) (seq : UInt16) (ps : List (Bool × Bytes)) :
    (numbered timestamp seq ps).length = ps.length := by
  induction ps generalizing seq with
  | nil => rfl
  | cons p ps ih => simp [numbered, ih]

theorem add_ofNat_succ (seq : UInt16) (n : Nat) : seq + 1 + UInt16.ofNat n = seq + UInt16.ofNat (n + 1) := by
  rw [UInt16.ofNat_add, UInt16.add_assoc, UInt16.add_comm 1]
  rfl

theorem numbered_append (timestamp : UInt32) (seq : UInt16) (ps qs : List (Bool × Bytes)) :
    numbered timestamp seq (ps ++ qs) =
      numbered timestamp seq ps ++ numbered timestamp (seq + UInt16.ofNat ps.length) qs := by
  induction ps generalizing seq with
  | nil => simp [numbered]
  | cons p ps ih => simp only [List.cons_append, numbered, ih, add_ofNat_succ, List.length_cons]

theorem getElem?_numbered (timestamp : UInt32) (seq : UInt16) (ps : List (Bool × Bytes)) (i : Nat) :
    (numbered timestamp seq ps)[i]? = ps[i]?.map fun p => packetOf timestamp (seq + UInt16.ofNat i) p.1 p.2 := by
  induction ps generalizing seq i with
  | nil => simp [numbered]
  | cons p ps ih =>
    cases i with
    | zero => simp [numbered]
    | succ i => simp [numbered, ih, add_ofNat_succ]

/-! ## Sending is attempting the packets -/

section Send

variable {σ : Type*} (send : σ → Bytes → σ × Int)

/-- The callback as a command that fails when it returns a negative number. -/
def callback (context : σ) (packet : Bytes) : σ × Bool :=
  ((send context packet).1, decide (0 ≤ (send context packet).2))

/-- What the sending functions return when packets are attempted from `seq` on, `count` having been sent before. -/
def SendResult.ofOutcome (count : Nat) (seq : UInt16) (o : Outcome σ) : SendResult σ :=
  ⟨o.state, seq + UInt16.ofNat o.done, if o.ok then some (count + o.done) else none⟩

theorem ofOutcome_nil (count : Nat) (seq : UInt16) (context : σ) :
    .ofOutcome count seq (attempt (callback send) [] context) = SendResult.mk context seq (some count) := by
  simp [SendResult.ofOutcome]

/-- One packet: the result of the callback decides whether the rest is attempted. -/
theorem ofOutcome_cons (count : Nat) (seq : UInt16) (packet : Bytes) (packets : List Bytes) (context : σ) :
    .ofOutcome count seq (attempt (callback send) (packet :: packets) context) =
      if (send context packet).2 < 0 then SendResult.mk (send context packet).1 seq none
      else .ofOutcome (count + 1) (seq + 1) (attempt (callback send) packets (send context packet).1) := by
  by_cases hs : (send context packet).2 < 0
  · have hf : (callback send context packet).2 = false := by simp [callback, hs]
    rw [attempt_cons_fail hf, if_pos hs]
    simp [SendResult.ofOutcome, callback]
  · have hok : (callback send context packet).2 = true := by simp [callback]; omega
    rw [attempt_cons_ok hok, if_neg hs]
    simp only [SendResult.ofOutcome, callback, add_ofNat_succ, Nat.add_assoc, Nat.add_comm 1]
    rfl

theorem sendSingleNalu_eq (nalu : Bytes) (seq : UInt16) (timestamp : UInt32) (marker : Bool) (context : σ) :
    sendSingleNalu send nalu seq timestamp marker context =
      .ofOutcome 0 seq (attempt (callback send) (numbered timestamp seq [(marker, nalu)]) context) := by
  rw [numbered, numbered, ofOutcome_cons, ofOutcome_nil]
  rfl

/-- One round of the fragment loop. -/
theorem sendFuALoop_succ (nalu : Bytes) (timestamp : UInt32) (marker : Bool) (n offset count : Nat) {remain : Nat}
    (seq : UInt16) (context : σ) (hr : remain > 0) :
    sendFuALoop send nalu timestamp marker (n + 1) offset remain count seq context =
      let packet := packetOf timestamp seq (decide (remain ≤ rtpPayloadMax) && marker)
        ((nalu.headD 0 &&& 0xe0 ||| 28) :: fuHeader (nalu.headD 0) (offset == 1) (remain ≤ rtpPayloadMax) ::
          (nalu.drop offset).take (min rtpPayloadMax remain))
      if (send context packet).2 < 0 then ⟨(send context packet).1, seq, none⟩
      else sendFuALoop send nalu timestamp marker n (offset + min rtpPayloadMax remain)
        (remain - min rtpPayloadMax remain) (count + 1) (seq + 1) (send context packet).1 := by
  have hsize : (if remain > rtpPayloadMax then rtpPayloadMax else remain) = min rtpPayloadMax remain := by
    split <;> omega
  rw [sendFuALoop, if_pos hr]
  simp only [hsize]
  rfl

/-- **The fragment loop** attempts the packets of what is left of the NAL. -/
theorem sendFuALoop_eq (nalu : Bytes) (timestamp : UInt32) (marker : Bool) :
    ∀ (n offset remain count : Nat) (seq : UInt16) (context : σ), nalu.length = offset + remain → remain ≤ n →
      0 < offset →
      sendFuALoop send nalu timestamp marker n offset remain count seq context =
        .ofOutcome count seq (attempt (callback send)
          (numbered timestamp seq (fuPayloads (nalu.headD 0) marker n (offset == 1) (nalu.drop offset))) context)
  | 0, offset, remain, count, seq, context, _, _, _ => by
    rw [fuPayloads, numbered, ofOutcome_nil, sendFuALoop]
  | n + 1, offset, remain, count, seq, context, hlen, hn, hoff => by
    have hrest : (nalu.drop offset).length = remain := by rw [List.length_drop]; omega
    by_cases hr : remain > 0
    · have hne : nalu.drop offset ≠ [] := fun h => by rw [h] at hrest; simp at hrest; omega
      have htake : (nalu.drop offset).take (min rtpPayloadMax remain) = (nalu.drop offset).take rtpPayloadMax := by
        rw [← hrest, ← List.take_eq_take_min]
      have hdrop : nalu.drop (offset + min rtpPayloadMax remain) = (nalu.drop offset).drop rtpPayloadMax := by
        rw [List.drop_drop]
        by_cases hlast : remain ≤ rtpPayloadMax
        · rw [List.drop_of_length_le (by omega), List.drop_of_length_le (by omega)]
        · rw [Nat.min_eq_left (by omega)]
      have hmin : 0 < min rtpPayloadMax remain := by simp [rtpPayloadMax]; omega
      have hfirst : (offset + min rtpPayloadMax remain == 1) = false := by simp; omega
      have ih := sendFuALoop_eq nalu timestamp marker n (offset + min rtpPayloadMax remain)
        (remain - min rtpPayloadMax remain) (count + 1) (seq + 1)
      rw [sendFuALoop_succ send nalu timestamp marker n offset count seq context hr, fuPayloads, if_neg hne, numbered,
        ofOutcome_cons, hrest, htake]
      simp only [ih _ (by omega) (by omega) (by omega), hdrop, hfirst]
    · have hnil : nalu.drop offset = [] := List.length_eq_zero_iff.mp (by omega)
      rw [hnil, fuPayloads, if_pos rfl, numbered, ofOutcome_nil, sendFuALoop, if_neg hr]

/-- **Sending a NAL is attempting its packets in order.** -/
theorem h264RtpSendNaluCtx_eq {nalu : Bytes} (hne : nalu ≠ []) (seq : UInt16) (timestamp : UInt32) (marker : Bool)
    (context : σ) :
    h264RtpSendNaluCtx send nalu seq timestamp marker context =
      .ofOutcome 0 seq (attempt (callback send) (numbered timestamp seq (naluPayloads nalu marker)) context) := by
  have hlen : nalu.length ≠ 0 := fun h => hne (List.length_eq_zero_iff.mp h)
  rw [h264RtpSendNaluCtx, if_neg hlen, naluPayloads]
  by_cases hsmall : nalu.length ≤ rtpPayloadMax
  · rw [if_pos hsmall, if_pos hsmall, sendSingleNalu_eq]
  · have hmax : rtpPayloadMax = 1400 := rfl
    rw [if_neg hsmall, if_neg hsmall, sendFuA, if_neg (by omega),
      sendFuALoop_eq send nalu timestamp marker (nalu.length - 1) 1 (nalu.length - 1) 0 seq context (by omega)
        (Nat.le_refl _) (by omega), List.drop_one]
    rfl

/-! ## Plans -/

/-- The payloads a sending function goes through, and whether it returns a count when all of them are sent. -/
structure Plan where
  payloads : List (Bool × Bytes)
  complete : Bool
  deriving DecidableEq, Repr

/-- Attempting the packets of a plan, numbered from `seq`. -/
def Plan.perform (plan : Plan) (timestamp : UInt32) (seq : UInt16) (context : σ) : SendResult σ :=
  let o := attempt (callback send) (numbered timestamp seq plan.payloads) context
  ⟨o.state, seq + UInt16.ofNat o.done, if o.ok && plan.complete then some o.done else none⟩

/-- One plan, then another unless the first one fails. -/
def Plan.andThen (p q : Plan) : Plan := if p.complete then ⟨p.payloads ++ q.payloads, q.complete⟩ else p

/-- One sending function, then another unless the first one fails; the counts are added. -/
def SendResult.andThen (r : SendResult σ) (k : UInt16 → σ → SendResult σ) : SendResult σ :=
  match r.ret with
  | none => r
  | some count =>
    let r' := k r.seq r.context
    ⟨r'.context, r'.seq, r'.ret.map (count + ·)⟩

/-- **Plans compose** as the functions do. -/
theorem Plan.perform_andThen (p q : Plan) (timestamp : UInt32) (seq : UInt16) (context : σ) :
    (p.andThen q).perform send timestamp seq context =
      (p.perform send timestamp seq context).andThen fun seq context => q.perform send timestamp seq context := by
  unfold Plan.andThen
  cases hp : p.complete with
  | false =>
    simp [Plan.perform, SendResult.andThen, hp]
  | true =>
    simp only [if_true, Plan.perform, hp, Bool.and_true, numbered_append, attempt_append]
    cases hok : (attempt (callback send) (numbered timestamp seq p.payloads) context).ok with
    | false => simp [SendResult.andThen, hok]
    | true =>
      have hlen := Outcome.done_eq_length hok
      rw [length_numbered] at hlen
      simp only [if_true, SendResult.andThen, hlen, UInt16.ofNat_add, UInt16.add_assoc]
      split <;> simp

/-- The plan of a NAL. -/
def naluPlan (nalu : Bytes) (marker : Bool) : Plan :=
  if nalu = [] then ⟨[], false⟩ else ⟨naluPayloads nalu marker, true⟩

/-- **Sending a NAL follows its plan.** -/
theorem h264RtpSendNaluCtx_plan (nalu : Bytes) (seq : UInt16) (timestamp : UInt32) (marker : Bool) (context : σ) :
    h264RtpSendNaluCtx send nalu seq timestamp marker context =
      (naluPlan nalu marker).perform send timestamp seq context := by
  unfold naluPlan
  split
  · rename_i h
    subst h
    simp [h264RtpSendNaluCtx, Plan.perform, numbered]
  · rename_i h
    rw [h264RtpSendNaluCtx_eq send h]
    simp [SendResult.ofOutcome, Plan.perform]

end Send

/-! ## Depacketizing -/

/-- What the FU indicator and the FU header say about the NAL header, for every byte. -/
theorem fu_bits (naluHeader : UInt8) : ∀ first last : Bool,
    (naluHeader &&& 0xe0 ||| 28) &&& 0x1f = 28 ∧
    (fuHeader naluHeader first last &&& 0x80 ≠ 0 ↔ first) ∧ (fuHeader naluHeader first last &&& 0x40 ≠ 0 ↔ last) ∧
    (naluHeader &&& 0xe0 ||| 28) &&& 0xe0 ||| fuHeader naluHeader first last &&& 0x1f = naluHeader := by
  revert naluHeader
  apply Wire.forall_byte
  decide +kernel

/-- A receiver takes a fragment as the sender meant it. -/
theorem accept_fragment (naluHeader : UInt8) (first last : Bool) (pending : Pending) (bytes : Bytes) :
    accept pending ((naluHeader &&& 0xe0 ||| 28) :: fuHeader naluHeader first last :: bytes) =
      (if first then (if pending = none then some (naluHeader :: bytes) else none) else pending.map (· ++ bytes)).map
        fun nal => if last then (none, [nal]) else (some nal, []) := by
  obtain ⟨htype, hstart, hend, hheader⟩ := fu_bits naluHeader first last
  have hnot : ¬((1 : UInt8) ≤ 28 ∧ (28 : UInt8) ≤ 23) := by decide
  simp only [accept, htype, if_neg hnot, if_true, acceptFragment, hstart, hend, hheader]

/-- The fragments of the bytes still to be sent complete the NAL under reassembly. -/
theorem acceptAll_fuPayloads (naluHeader : UInt8) (marker : Bool) : ∀ (n : Nat) (sent rest : Bytes) (first : Bool),
    rest ≠ [] → rest.length ≤ n → (first = true → sent = []) →
    acceptAll (if first then none else some (naluHeader :: sent))
      ((fuPayloads naluHeader marker n first rest).map (·.2)) = some (none, [naluHeader :: (sent ++ rest)])
  | 0, sent, rest, first, hne, hn, _ => absurd (List.length_eq_zero_iff.mp (by omega)) hne
  | n + 1, sent, rest, first, hne, hn, hfirst => by
    have hmax : rtpPayloadMax = 1400 := rfl
    have hpos : 0 < rest.length := List.length_pos_iff.mpr hne
    rw [fuPayloads, if_neg hne, List.map_cons, acceptAll, accept_fragment]
    have hjoin : (if first then (if (if first then none else some (naluHeader :: sent)) = none then
          some (naluHeader :: rest.take rtpPayloadMax) else none)
        else (if first then none else some (naluHeader :: sent)).map (· ++ rest.take rtpPayloadMax)) =
        some (naluHeader :: (sent ++ rest.take rtpPayloadMax)) := by
      cases first with
      | true => simp [hfirst rfl]
      | false => simp
    rw [hjoin]
    by_cases hlast : rest.length ≤ rtpPayloadMax
    · have hdrop : rest.drop rtpPayloadMax = [] := List.drop_of_length_le hlast
      have hstop : fuPayloads naluHeader marker n false [] = [] := by cases n <;> simp [fuPayloads]
      simp [hlast, hdrop, hstop, acceptAll, List.take_of_length_le hlast]
    · have hrest : rest.drop rtpPayloadMax ≠ [] := fun h => by
        have := congrArg List.length h
        simp at this
        omega
      have ih := acceptAll_fuPayloads naluHeader marker n (sent ++ rest.take rtpPayloadMax) (rest.drop rtpPayloadMax)
        false hrest (by simp; omega) (by simp)
      simp only [Bool.false_eq_true, if_false, List.append_assoc, List.take_append_drop] at ih
      simp [hlast, ih]

/-- **A NAL survives packetization**: depacketizing its payloads gives it back. -/
theorem acceptAll_naluPayloads {nalu : Bytes} (hne : nalu ≠ []) (marker : Bool)
    (htype : 1 ≤ nalu.headD 0 &&& 0x1f ∧ nalu.headD 0 &&& 0x1f ≤ 23) :
    acceptAll none ((naluPayloads nalu marker).map (·.2)) = some (none, [nalu]) := by
  obtain ⟨b, rest, rfl⟩ := List.exists_cons_of_ne_nil hne
  unfold naluPayloads
  split
  · have hsingle : accept none (b :: rest) = some (none, [b :: rest]) := accept_single rest htype
    simp only [List.map_cons, List.map_nil, acceptAll, hsingle]
    rfl
  · rename_i hlong
    have hmax : rtpPayloadMax = 1400 := rfl
    have hrest : rest ≠ [] := fun h => by subst h; simp at hlong; omega
    exact acceptAll_fuPayloads b marker _ [] rest true hrest (by simp) (fun _ => rfl)

/-! ## Marker bits -/

/-- A payload list whose last payload carries the marker `marker` and whose other payloads carry none. -/
def MarkedLast (marker : Bool) (ps : List (Bool × Bytes)) : Prop :=
  ∃ init last, ps = init ++ [(marker, last)] ∧ ∀ p ∈ init, p.1 = false

theorem MarkedLast.append {marker : Bool} {ps qs : List (Bool × Bytes)} (hp : MarkedLast false ps)
    (hq : MarkedLast marker qs) : MarkedLast marker (ps ++ qs) := by
  obtain ⟨init, last, rfl, hinit⟩ := hp
  obtain ⟨init', last', rfl, hinit'⟩ := hq
  refine ⟨init ++ [(false, last)] ++ init', last', by simp, ?_⟩
  intro p hp
  simp only [List.mem_append, List.mem_singleton] at hp
  rcases hp with (hp | rfl) | hp
  · exact hinit p hp
  · rfl
  · exact hinit' p hp

theorem markedLast_fuPayloads (naluHeader : UInt8) (marker : Bool) : ∀ (n : Nat) (first : Bool) (rest : Bytes),
    rest ≠ [] → rest.length ≤ n → MarkedLast marker (fuPayloads naluHeader marker n first rest)
  | 0, first, rest, hne, hn => absurd (List.length_eq_zero_iff.mp (by omega)) hne
  | n + 1, first, rest, hne, hn => by
    have hmax : rtpPayloadMax = 1400 := rfl
    have hpos : 0 < rest.length := List.length_pos_iff.mpr hne
    rw [fuPayloads, if_neg hne]
    by_cases hlast : rest.length ≤ rtpPayloadMax
    · have hstop : fuPayloads naluHeader marker n false (rest.drop rtpPayloadMax) = [] := by
        rw [List.drop_of_length_le hlast]
        cases n <;> simp [fuPayloads]
      rw [hstop]
      exact ⟨[], _, by simp only [hlast, decide_true, Bool.true_and, List.nil_append]; rfl, by simp⟩
    · have hrest : rest.drop rtpPayloadMax ≠ [] := fun h => by
        have := congrArg List.length h
        simp at this
        omega
      have ih := markedLast_fuPayloads naluHeader marker n false (rest.drop rtpPayloadMax) hrest (by simp; omega)
      obtain ⟨init, last, heq, hinit⟩ := ih
      rw [heq]
      refine ⟨_ :: init, last, rfl, ?_⟩
      intro p hp
      rcases List.mem_cons.mp hp with rfl | hp
      · simp [hlast]
      · exact hinit p hp

/-- **The marker of a NAL** is on its last packet only. -/
theorem markedLast_naluPayloads (nalu : Bytes) (marker : Bool) : MarkedLast marker (naluPayloads nalu marker) := by
  unfold naluPayloads
  split
  · exact ⟨[], nalu, rfl, by simp⟩
  · rename_i hlong
    have hmax : rtpPayloadMax = 1400 := rfl
    have hlen : nalu.tail.length = nalu.length - 1 := List.length_tail
    have hne : nalu.tail ≠ [] := fun h => by rw [h] at hlen; simp at hlen; omega
    exact markedLast_fuPayloads _ marker _ true _ hne (by omega)

/-- The marker of a plan for NALs: on the last payload when the plan is complete, nowhere when it breaks off. -/
def Plan.Marked (plan : Plan) : Prop :=
  if plan.complete then MarkedLast true plan.payloads else ∀ p ∈ plan.payloads, p.1 = false

theorem Plan.marked_andThen {p q : Plan} (hp : ∀ x ∈ p.payloads, x.1 = false) (hq : q.Marked) :
    (p.andThen q).Marked := by
  unfold Plan.andThen
  cases hc : p.complete with
  | false => simpa [Plan.Marked, hc] using hp
  | true =>
    unfold Plan.Marked at hq ⊢
    rw [if_pos rfl]
    cases hqc : q.complete with
    | false =>
      simp only [hqc, Bool.false_eq_true, if_false] at hq ⊢
      intro x hx
      rcases List.mem_append.mp hx with hx | hx
      · exact hp x hx
      · exact hq x hx
    | true =>
      simp only [hqc, if_true] at hq ⊢
      obtain ⟨init, last, heq, hinit⟩ := hq
      refine ⟨p.payloads ++ init, last, by simp [heq], ?_⟩
      intro x hx
      rcases List.mem_append.mp hx with hx | hx
      · exact hp x hx
      · exact hinit x hx

theorem naluPlan_unmarked (nalu : Bytes) : ∀ x ∈ (naluPlan nalu false).payloads, x.1 = false := by
  unfold naluPlan
  split
  · simp
  · intro x hx
    obtain ⟨init, last, heq, hinit⟩ := markedLast_naluPayloads nalu false
    rw [heq] at hx
    rcases List.mem_append.mp hx with hx | hx
    · exact hinit x hx
    · rw [List.mem_singleton.mp hx]

end MiniRtsp.Rtp
