import MiniRtsp.Lib.Wire

/-!
# RTP as a receiver reads it

The fixed RTP header of RFC 3550 (`parsePacket`) and the depacketization of H.264 payloads of RFC 6184
(`depacketize`): a payload of type 1 to 23 is a NAL unit, a payload of type 28 is a fragment (FU-A). The receiver is
strict: a payload of another type, a fragment that nothing started, a NAL unit inside a fragmented one or an unclosed
fragmented one is an error.
-/

namespace MiniRtsp.RtpFormat

open Wire

structure Header where
  version : UInt8
  marker : UInt8
  payloadType : UInt8
  sequence : UInt16
  timestamp : UInt32
  ssrc : UInt32
  deriving DecidableEq, Repr

/-- The header and the payload of a packet; `none` for a packet shorter than the fixed header. -/
def parsePacket : List UInt8 → Option (Header × List UInt8)
  | b0 :: b1 :: b2 :: b3 :: b4 :: b5 :: b6 :: b7 :: b8 :: b9 :: b10 :: b11 :: payload =>
    some ({ version := b0 >>> 6
            marker := b1 >>> 7
            payloadType := b1 &&& 0x7f
            sequence := .ofNat (beNat [b2, b3])
            timestamp := .ofNat (beNat [b4, b5, b6, b7])
            ssrc := .ofNat (beNat [b8, b9, b10, b11]) }, payload)
  | _ => none

/-- **Parsing what was laid out**: two flag bytes, the sequence number, the timestamp, the source and the payload. -/
theorem parsePacket_layout (b0 b1 : UInt8) (sequence : UInt16) (timestamp ssrc : UInt32) (payload : List UInt8) :
    parsePacket ([b0, b1] ++ be16 sequence ++ be32 timestamp ++ be32 ssrc ++ payload) =
      some (⟨b0 >>> 6, b1 >>> 7, b1 &&& 0x7f, sequence, timestamp, ssrc⟩, payload) := by
  have h16 := ofNat_beNat_be16 sequence
  have hts := ofNat_beNat_be32 timestamp
  have hss := ofNat_beNat_be32 ssrc
  simp only [be16, be32] at h16 hts hss
  simp only [be16, be32, List.cons_append, List.nil_append, parsePacket, h16, hts, hss]

/-- The NAL unit under reassembly, if a fragment has started one. -/
abbrev Pending := Option (List UInt8)

/-- The fragment after an FU indicator and an FU header: the NAL header is rebuilt from the two when the S bit is set;
the E bit closes the NAL unit. -/
def acceptFragment (pending : Pending) (indicator header : UInt8) (fragment : List UInt8) :
    Option (Pending × List (List UInt8)) :=
  let joined :=
    if header &&& 0x80 ≠ 0 then
      if pending = none then some ((indicator &&& 0xe0 ||| header &&& 0x1f) :: fragment) else none
    else pending.map (· ++ fragment)
  joined.map fun nal => if header &&& 0x40 ≠ 0 then (none, [nal]) else (some nal, [])

/-- One payload: what is pending after it, and the NAL units it completes. -/
def accept (pending : Pending) : List UInt8 → Option (Pending × List (List UInt8))
  | [] => none
  | b :: rest =>
    let type := b &&& 0x1f
    if 1 ≤ type ∧ type ≤ 23 then
      if pending = none then some (none, [b :: rest]) else none
    else if type = 28 then
      match rest with
      | [] => none
      | header :: fragment => acceptFragment pending b header fragment
    else none

/-- The payloads in order: what is pending after them, and the NAL units they complete. -/
def acceptAll : Pending → List (List UInt8) → Option (Pending × List (List UInt8))
  | pending, [] => some (pending, [])
  | pending, p :: ps => do
    let (pending, nals) ← accept pending p
    let (pending, more) ← acceptAll pending ps
    some (pending, nals ++ more)

/-- The NAL units the payloads carry; nothing may be left pending. -/
def depacketize (payloads : List (List UInt8)) : Option (List (List UInt8)) :=
  match acceptAll none payloads with
  | some (none, nals) => some nals
  | _ => none

/-- A receiver in the middle of a stream: what is pending after the packets, and the NAL units they complete. -/
def receiveAll : Pending → List (List UInt8) → Option (Pending × List (List UInt8))
  | pending, [] => some (pending, [])
  | pending, p :: ps => do
    let (_, payload) ← parsePacket p
    let (pending, nals) ← accept pending payload
    let (pending, more) ← receiveAll pending ps
    some (pending, nals ++ more)

/-- The NAL units of a list of packets, all headers parsed. -/
def receive (packets : List (List UInt8)) : Option (List (List UInt8)) := do
  let parsed ← packets.mapM parsePacket
  depacketize (parsed.map (·.2))

section

variable {pending pending' pending'' : Pending} {ps qs nals nals' : List (List UInt8)}

theorem acceptAll_append (h : acceptAll pending ps = some (pending', nals))
    (h' : acceptAll pending' qs = some (pending'', nals')) :
    acceptAll pending (ps ++ qs) = some (pending'', nals ++ nals') := by
  induction ps generalizing pending nals with
  | nil =>
    simp only [acceptAll, Option.some.injEq, Prod.mk.injEq] at h
    obtain ⟨rfl, rfl⟩ := h
    simpa using h'
  | cons p ps ih =>
    simp only [acceptAll, Option.bind_eq_bind, Option.bind_eq_some_iff, List.cons_append] at h ⊢
    obtain ⟨⟨q, ns⟩, hp, ⟨q', ms⟩, hps, heq⟩ := h
    simp only [Option.some.injEq, Prod.mk.injEq] at heq
    obtain ⟨rfl, rfl⟩ := heq
    exact ⟨(q, ns), hp, (pending'', ms ++ nals'), ih hps, by simp⟩

/-! ### In the middle of a stream -/

/-- **The packets of a stream** are taken one part after the other. -/
theorem receiveAll_append (pending : Pending) (ps qs : List (List UInt8)) :
    receiveAll pending (ps ++ qs) =
      (receiveAll pending ps).bind fun r => (receiveAll r.1 qs).map fun s => (s.1, r.2 ++ s.2) := by
  induction ps generalizing pending with
  | nil => cases h : receiveAll pending qs <;> simp [receiveAll, h]
  | cons p ps ih =>
    simp only [List.cons_append, receiveAll, Option.bind_eq_bind]
    cases parsePacket p with
    | none => rfl
    | some parsed =>
      dsimp only [Option.bind_some]
      cases accept pending parsed.2 with
      | none => rfl
      | some taken =>
        dsimp only [Option.bind_some]
        rw [ih]
        cases receiveAll taken.1 ps with
        | none => rfl
        | some r => cases h : receiveAll r.1 qs <;> simp [h]

/-- A stream that is taken whole is taken up to any place in it. -/
theorem receiveAll_prefix (h : receiveAll pending (ps ++ qs) = some (pending'', nals)) :
    ∃ pending' got more, receiveAll pending ps = some (pending', got) ∧
      receiveAll pending' qs = some (pending'', more) ∧ nals = got ++ more := by
  rw [receiveAll_append, Option.bind_eq_some_iff] at h
  obtain ⟨⟨pending', got⟩, hps, hqs⟩ := h
  obtain ⟨⟨last, more⟩, hmore, heq⟩ := Option.map_eq_some_iff.mp hqs
  simp only [Prod.mk.injEq] at heq
  obtain ⟨rfl, rfl⟩ := heq
  exact ⟨pending', got, more, hps, hmore, rfl⟩

/-- A fragment goes on with what is pending. -/
theorem accept_pending {part payload : List UInt8} (h : accept (some part) payload = some (pending', nals)) :
    ∃ fragment, (pending', nals) = (none, [part ++ fragment]) ∨ (pending', nals) = (some (part ++ fragment), []) := by
  unfold accept at h
  split at h
  · cases h
  · dsimp only at h
    split at h
    · rw [if_neg (by simp)] at h
      cases h
    · split at h
      · split at h
        · cases h
        · rename_i header fragment
          unfold acceptFragment at h
          by_cases hstart : header &&& 0x80 ≠ 0
          · simp [hstart] at h
          · refine ⟨fragment, ?_⟩
            simp only [hstart, if_false, Option.map_some, Option.some.injEq] at h
            rw [← h]
            split
            · exact .inl rfl
            · exact .inr rfl
      · cases h

/-- **What is pending** is the beginning of the NAL unit that comes next. -/
theorem receiveAll_pending {part : List UInt8} (h : receiveAll (some part) qs = some (none, nals)) :
    ∃ rest more, nals = (part ++ rest) :: more := by
  induction qs generalizing part nals with
  | nil => cases h
  | cons q qs ih =>
    simp only [receiveAll, Option.bind_eq_bind, Option.bind_eq_some_iff] at h
    obtain ⟨parsed, -, ⟨next, done⟩, hq, ⟨last, more⟩, hqs, heq⟩ := h
    simp only [Option.some.injEq, Prod.mk.injEq] at heq
    obtain ⟨rfl, rfl⟩ := heq
    obtain ⟨fragment, hclosed | hopen⟩ := accept_pending hq
    · obtain ⟨rfl, rfl⟩ := Prod.mk.inj hclosed
      exact ⟨fragment, more, rfl⟩
    · obtain ⟨rfl, rfl⟩ := Prod.mk.inj hopen
      obtain ⟨rest, later, rfl⟩ := ih hqs
      exact ⟨fragment ++ rest, later, by simp⟩

theorem accept_single {b : UInt8} (rest : List UInt8) (h : 1 ≤ b &&& 0x1f ∧ b &&& 0x1f ≤ 23) :
    accept none (b :: rest) = some (none, [b :: rest]) := by
  simp only [accept, if_pos h, if_true]

end

end MiniRtsp.RtpFormat
