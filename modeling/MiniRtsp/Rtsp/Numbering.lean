import MiniRtsp.Rtsp.Stream

/-!
# The numbering of a session

Over a whole run of the media thread, with the server interfering at will, the packets of every call of
`send_access_unit` are those of its plan, numbered on from the packets before it (`Streamed`, `Progress`,
`turnStep_numbering`). With it the sequence numbers, timestamps and markers of a session are those of its packet and
access unit indices (`session_numbering`).
-/

namespace MiniRtsp.Rtsp

open H264 Rtp RtpFormat Trace

/-! ## The packets of the calls -/

/-- The packets of the `n`-th call: `part` went out, `rest` did not. -/
structure Sends (media : RTSPMedia) (n : Nat) (seq : UInt16) (c : Call) (part rest : List Bytes) : Prop where
  timestamp : c.timestamp = UInt32.ofNat (3000 * n)
  prepend : c.prepend = decide (n = 0)
  packets : part ++ rest = numbered c.timestamp seq (accessUnitPlan media c.accessUnit c.prepend).payloads

/-- Whether the call sends a whole access unit. -/
def Call.complete (media : RTSPMedia) (c : Call) : Bool := (accessUnitPlan media c.accessUnit c.prepend).complete

/-- The sequence number that follows packets. -/
def nextSeq (units : List (List Bytes)) : UInt16 := 100 + UInt16.ofNat units.flatten.length

/-- Calls whose packets went out completely. -/
inductive Streamed (media : RTSPMedia) : List Call → List (List Bytes) → Prop where
  | nil : Streamed media [] []
  | snoc {S : List Call} {U : List (List Bytes)} {c : Call} {part : List Bytes} (past : Streamed media S U)
      (sends : Sends media S.length (nextSeq U) c part []) (complete : c.complete media = true) :
      Streamed media (S ++ [c]) (U ++ [part])

/-- The calls and their packets in the phases of the thread; the last argument is the number of access units streamed.
`allSent` says that no send fails. -/
inductive Progress (media : RTSPMedia) (allSent : Prop) (t : Thread) : List Call → List (List Bytes) → Nat → Prop where
  /-- Between two calls, or behind `EXIT`. -/
  | between {S : List Call} {U : List (List Bytes)} (past : Streamed media S U) (pc : t.pc.inSend = false)
      (counters : t.pc.exiting = false →
        t.timestamp = UInt32.ofNat (3000 * S.length) ∧ t.seq = nextSeq U ∧ t.waitingForIdr = S.isEmpty) :
      Progress media allSent t S U S.length
  | sending {S : List Call} {U : List (List Bytes)} {c : Call} {part rest : List Bytes} (past : Streamed media S U)
      (pc : t.pc = .sending rest (c.complete media)) (sends : Sends media S.length (nextSeq U) c part rest)
      (more : rest ≠ []) (timestamp : t.timestamp = c.timestamp) (seq : t.seq = nextSeq (U ++ [part]))
      (waiting : t.waitingForIdr = false) : Progress media allSent t (S ++ [c]) (U ++ [part]) S.length
  /-- Behind `EXIT`, because the last call broke off. -/
  | broken {S : List Call} {U : List (List Bytes)} {c : Call} {part rest : List Bytes} (past : Streamed media S U)
      (pc : t.pc.exiting = true) (sends : Sends media S.length (nextSeq U) c part rest)
      (cut : allSent → rest = [] ∧ c.complete media = false) :
      Progress media allSent t (S ++ [c]) (U ++ [part]) S.length

/-- What a run keeps. -/
structure Numbering (media : RTSPMedia) (allSent : Prop) (h : History Live ThreadEvent) : Prop where
  ready : Ready h.state
  sets : media.SameSets h.state.media
  flat : sentPackets h.events = (unitPackets h.events).flatten
  progress : Progress media allSent h.state.thread (calls h.events) (unitPackets h.events) (streamedCount h.events)

theorem numbering_start (media : RTSPMedia) (allSent : Prop) (session : RTSPSession) :
    Numbering media allSent ⟨⟨media, session, .start⟩, []⟩ :=
  ⟨ready_start media session, .refl media, rfl, .between .nil rfl fun _ => ⟨rfl, rfl, rfl⟩⟩

/-! ## One step -/

/-- A packet joins the last unit. -/
@[simp] theorem notePacket_sent (U : List (List Bytes)) (part : List Bytes) (d : Datagram) :
    notePacket (U ++ [part]) (.sent d) = U ++ [part ++ [d.packet]] := by
  simp [notePacket]

theorem nextSeq_snoc (U : List (List Bytes)) (part : List Bytes) (p : Bytes) :
    nextSeq (U ++ [part ++ [p]]) = nextSeq (U ++ [part]) + 1 := by
  simp [nextSeq, UInt16.ofNat_add, UInt16.add_assoc]

section Step

variable {media : RTSPMedia} {allSent : Prop} {turn : Turn} {live live' : Live} {S : List Call}
  {U : List (List Bytes)} {k : Nat}

/-- The packets still to go are those of a plan, so none is empty. -/
theorem Sends.head_ne_nil {n : Nat} {seq : UInt16} {c : Call} {part rest : List Bytes} {packet : Bytes}
    (h : Sends media n seq c part (packet :: rest)) : packet ≠ [] := by
  have hget := congrArg (·[part.length]?) h.packets
  simp only [List.getElem?_append_right (Nat.le_refl part.length), Nat.sub_self, List.getElem?_cons_zero,
    getElem?_numbered] at hget
  obtain ⟨p, -, rfl⟩ := Option.map_eq_some_iff.mp hget.symm
  simp [packetOf, rtpPacketPack]

/-- One packet further. -/
theorem Sends.advance {n : Nat} {seq : UInt16} {c : Call} {part rest : List Bytes} {packet : Bytes}
    (h : Sends media n seq c part (packet :: rest)) : Sends media n seq c (part ++ [packet]) rest :=
  ⟨h.timestamp, h.prepend, by rw [← h.packets]; simp⟩

/-- An access unit between two calls. -/
theorem Progress.deliver (hsets : media.SameSets live.media) (h : Progress media allSent live.thread S U k)
    (hpc : live.thread.pc = .capture) {u : Bytes} {events : List ThreadEvent}
    (hd : Delivered live.media live.thread live'.thread u events) :
    Progress media allSent live'.thread (S ++ calls events) (events.foldl notePacket U) (k + streamedCount events) ∧
      sentPackets events = [] ∧ (events.foldl notePacket U).flatten = U.flatten := by
  cases h with
  | sending _ pc => rw [hpc] at pc; cases pc
  | broken _ pc => rw [hpc] at pc; cases pc
  | between past _ counters =>
    obtain ⟨htimestamp, hseq, hwaiting⟩ := counters (by rw [hpc]; rfl)
    cases hd with
    | skipped waits noIdr same waiting next =>
      refine ⟨?_, rfl, rfl⟩
      simpa [calls, streamedCount] using Progress.between past (by rw [next]; rfl) fun _ =>
        ⟨same.timestamp.trans htimestamp, same.seq.trans hseq, by rw [waiting, ← hwaiting, waits]⟩
    | refused idr muxer timed next =>
      refine ⟨?_, rfl, rfl⟩
      simpa [calls, streamedCount, notePacket] using
        Progress.between past (by rw [next]; rfl) fun hexit => by rw [next] at hexit; cases hexit
    | @began recorded idr records timed same waiting next =>
      have hrecorded : calls recorded = [] ∧ sentPackets recorded = [] ∧ streamedCount recorded = 0 ∧
          ∀ V, recorded.foldl notePacket V = V := by
        rcases records with ⟨-, r, rfl⟩ | ⟨-, rfl⟩ <;> exact ⟨rfl, rfl, rfl, fun _ => rfl⟩
      obtain ⟨hcalls, hsent, hcount, hnote⟩ := hrecorded
      rw [accessUnitPlan_congr hsets] at next
      have hsends : Sends media S.length (nextSeq U) ⟨u, live.thread.timestamp, live.thread.waitingForIdr⟩ []
          (numbered live.thread.timestamp live.thread.seq
            (accessUnitPlan media u live.thread.waitingForIdr).payloads) :=
        ⟨htimestamp, by rw [hwaiting]; cases S <;> rfl, by rw [hseq]; rfl⟩
      refine ⟨?_, by simpa [sentPackets] using hsent, by simp [hnote, notePacket]⟩
      simp only [calls_append, hcalls, streamedCount_append, hcount, List.foldl_append, hnote]
      change Progress media allSent live'.thread (S ++ [⟨u, live.thread.timestamp, live.thread.waitingForIdr⟩])
        (U ++ [[]]) S.length
      split at next
      · rename_i hnil
        rw [hnil, numbered] at hsends
        have hcomplete : (accessUnitPlan media u live.thread.waitingForIdr).complete = false := by
          by_contra hc
          exact accessUnitPlan_ne_nil (by simpa using hc) hnil
        exact .broken past (by rw [next]; rfl) hsends fun _ => ⟨rfl, hcomplete⟩
      · rename_i hne
        refine .sending past next hsends (fun hnil => hne ?_) same.timestamp ?_ waiting
        · simpa using congrArg List.length hnil
        · rw [same.seq, hseq]
          simp [nextSeq]

/-- **A thread that sends** is in its last call. -/
theorem Progress.sending_cases {t : Thread} {packets : List Bytes} {complete : Bool}
    (h : Progress media allSent t S U k) (pc : t.pc = .sending packets complete) :
    ∃ S' U' c part, S = S' ++ [c] ∧ U = U' ++ [part] ∧ k = S'.length ∧ complete = c.complete media ∧
      Streamed media S' U' ∧ Sends media S'.length (nextSeq U') c part packets ∧ t.timestamp = c.timestamp ∧
      t.seq = nextSeq (U' ++ [part]) ∧ t.waitingForIdr = false := by
  cases h with
  | between _ before => rw [pc] at before; cases before
  | broken _ exit => rw [pc] at exit; cases exit
  | @sending S U c part rest past pc' sends _ htimestamp hseq hwaiting =>
    rw [pc, ThreadPc.sending.injEq] at pc'
    obtain ⟨rfl, hcomplete⟩ := pc'
    exact ⟨S, U, c, part, rfl, rfl, rfl, hcomplete, past, sends, htimestamp, hseq, hwaiting⟩

/-- **One step** keeps the progress of the stream. -/
theorem Progress.step (hsets : media.SameSets live.media) (hready : Ready live)
    (h : Progress media allSent live.thread S U k) (hsend : allSent → ∀ p, turn.Sends p) {new : List ThreadEvent}
    (effect : Effect turn live live' new) :
    Progress media allSent live'.thread (S ++ calls new) (new.foldl notePacket U) (k + streamedCount new) ∧
      (new.foldl notePacket U).flatten = U.flatten ++ sentPackets new := by
  cases effect with
  | beside same =>
    rw [same]
    exact ⟨by simpa [calls, streamedCount] using h, by simp [sentPackets]⟩
  | quiet silent same waiting before after exit =>
    obtain ⟨-, hcalls, hsent, hcount, -, -, hnote⟩ := silent_events silent
    rw [hcalls, hsent, hcount, hnote, List.append_nil, List.append_nil]
    refine ⟨?_, rfl⟩
    cases h with
    | sending _ pc => rw [pc] at before; cases before
    | broken past pc sends cut => exact .broken past (exit pc) sends cut
    | between past pc counters =>
      apply Progress.between past after
      intro hexit
      have hlive : live.thread.pc.exiting = false := by
        by_contra hc
        rw [exit (by simpa using hc)] at hexit
        cases hexit
      rw [same.timestamp, same.seq, waiting]
      exact counters hlive
  | @delivered uses events unit silent pc length delivered =>
    obtain ⟨-, hcalls, hsent, hcount, -, -, hnote⟩ := silent_events silent
    obtain ⟨hprogress, hnone, hflat⟩ := h.deliver hsets pc delivered
    simp only [calls_append, hcalls, streamedCount_append, hcount, List.foldl_append, hnote, sentPackets_append, hsent]
    constructor
    · simpa [calls, streamedCount, notePacket] using hprogress
    · simpa [sentPackets, notePacket, hflat] using hnone
  | @sent packet rest complete pc more seq timestamp waiting next =>
    obtain ⟨S, U, c, part, rfl, rfl, rfl, rfl, past, sends, htimestamp, hseq, hwaiting⟩ := h.sending_cases pc
    refine ⟨?_, by simp [sentPackets]⟩
    simpa [calls, streamedCount] using Progress.sending past next sends.advance more (timestamp.trans htimestamp)
      (by rw [seq, hseq, nextSeq_snoc]) (waiting.trans hwaiting)
  | @finished packet pc seq timestamp waiting next =>
    obtain ⟨S, U, c, part, rfl, rfl, rfl, hcomplete, past, sends, htimestamp, hseq, hwaiting⟩ := h.sending_cases pc
    have hpast := Streamed.snoc past sends.advance hcomplete.symm
    have hstep : UInt32.ofNat (3000 * S.length) + timestampStep = UInt32.ofNat (3000 * (S ++ [c]).length) := by
      rw [List.length_append, Nat.mul_add, UInt32.ofNat_add]
      rfl
    refine ⟨?_, by simp [sentPackets, notePacket]⟩
    have hbetween : Progress media allSent live'.thread (S ++ [c]) (U ++ [part ++ [packet]]) (S ++ [c]).length :=
      .between hpast (by rw [next]; rfl) fun _ =>
        ⟨by rw [timestamp, htimestamp, sends.timestamp, hstep], by rw [seq, hseq, nextSeq_snoc],
          by rw [waiting, hwaiting]; simp⟩
    simpa [calls, streamedCount, notePacket] using hbetween
  | @broken packet pc next =>
    obtain ⟨S, U, c, part, rfl, rfl, rfl, hcomplete, past, sends, -⟩ := h.sending_cases pc
    refine ⟨?_, by simp [sentPackets]⟩
    simpa [calls, streamedCount] using
      Progress.broken past (by rw [next]; rfl) sends.advance fun _ => ⟨rfl, hcomplete.symm⟩
  | @failed packet rest complete _ pc failure short next =>
    obtain ⟨S, U, c, part, rfl, rfl, rfl, rfl, past, sends, -⟩ := h.sending_cases pc
    have hnever : ¬allSent := by
      intro hall
      rcases failure with hnil | hsock | hfail
      · exact sends.head_ne_nil hnil
      · exact absurd (hready.socket (by rw [pc]; rfl)) (by omega)
      · exact hfail (hsend hall packet)
    have hexit : live'.thread.pc.exiting = true := by rw [next]; rfl
    rcases short with rfl | rfl
    · refine ⟨?_, by simp [sentPackets]⟩
      simpa [calls, streamedCount] using
        Progress.broken past hexit sends fun hall => absurd hall hnever
    · refine ⟨?_, by simp [sentPackets]⟩
      simpa [calls, streamedCount] using
        Progress.broken past hexit sends.advance fun hall => absurd hall hnever

end Step

/-- **One step** keeps the numbering. -/
theorem turnStep_numbering {media : RTSPMedia} {allSent : Prop} {h : History Live ThreadEvent}
    (hn : Numbering media allSent h) {turn : Turn} (hsend : allSent → ∀ p, turn.Sends p) :
    Numbering media allSent (advance turnStep h turn) := by
  obtain ⟨hready', hsets'⟩ := turnStep_ready hn.ready turn
  obtain ⟨hprogress, hflat⟩ := hn.progress.step hn.sets hn.ready hsend (turnStep_effect hn.ready turn)
  refine ⟨hready', hn.sets.trans hsets', ?_, ?_⟩
  · simp only [advance, sentPackets_append, unitPackets_append, hflat, hn.flat]
  · simpa only [advance, calls_append, unitPackets_append, streamedCount_append] using hprogress

/-- **Every run** keeps the numbering. -/
theorem run_numbering (media : RTSPMedia) (session : RTSPSession) {turns : List Turn} {allSent : Prop}
    (hsend : allSent → ∀ turn ∈ turns, ∀ p, turn.Sends p) :
    Numbering media allSent (run turnStep ⟨media, session, .start⟩ turns) :=
  run_induction _ (numbering_start media allSent session) fun _ turn hp h =>
    turnStep_numbering h fun hall => hsend hall turn (mem_of_concat hp)

/-! ## Packets by index -/

theorem Streamed.length_eq {media : RTSPMedia} {S : List Call} {U : List (List Bytes)} (h : Streamed media S U) :
    S.length = U.length := by
  induction h with
  | nil => rfl
  | snoc _ _ _ ih => simp [ih]

/-- The packets of a call among all packets. -/
theorem Streamed.get {media : RTSPMedia} {S : List Call} {U : List (List Bytes)} (h : Streamed media S U) {n : Nat}
    {unit : List Bytes} (hn : U[n]? = some unit) :
    ∃ c, S[n]? = some c ∧ Sends media n (nextSeq (U.take n)) c unit [] ∧ c.complete media = true := by
  induction h with
  | nil => simp at hn
  | @snoc S U c part past sends complete ih =>
    have hlen := past.length_eq
    rcases getElem?_concat_cases hn with ⟨hlt, hn⟩ | ⟨rfl, rfl⟩
    · obtain ⟨c', hc', hs'⟩ := ih hn
      rw [List.getElem?_append_left (by omega), List.take_append_of_le_length (by omega)]
      exact ⟨c', hc', hs'⟩
    · rw [hlen] at sends
      refine ⟨c, by simp [← hlen], ?_, complete⟩
      rwa [List.take_append_of_le_length (Nat.le_refl _), List.take_length]

/-- **The packets of every call**: those of an access unit streamed are all sent, a later one breaks off. -/
theorem Progress.get {media : RTSPMedia} {allSent : Prop} {t : Thread} {S : List Call} {U : List (List Bytes)}
    {k n : Nat}
    (h : Progress media allSent t S U k) {unit : List Bytes} (hn : U[n]? = some unit) :
    ∃ c rest, S[n]? = some c ∧ Sends media n (nextSeq (U.take n)) c unit rest ∧
      (n < k → rest = [] ∧ c.complete media = true) ∧ (allSent → ¬n < k → rest ≠ [] ∨ c.complete media = false) := by
  have hlast : ∀ {S : List Call} {U : List (List Bytes)} {c : Call} {part rest : List Bytes}, Streamed media S U →
      Sends media S.length (nextSeq U) c part rest → (allSent → rest ≠ [] ∨ c.complete media = false) →
      (U ++ [part])[n]? = some unit →
      ∃ c' rest, (S ++ [c])[n]? = some c' ∧ Sends media n (nextSeq ((U ++ [part]).take n)) c' unit rest ∧
        (n < S.length → rest = [] ∧ c'.complete media = true) ∧
        (allSent → ¬n < S.length → rest ≠ [] ∨ c'.complete media = false) := by
    intro S U c part rest past sends cut hn
    have hlen := past.length_eq
    rcases getElem?_concat_cases hn with ⟨hlt, hn⟩ | ⟨rfl, rfl⟩
    · obtain ⟨c', hc', hs', hcomplete⟩ := past.get hn
      rw [List.getElem?_append_left (by omega), List.take_append_of_le_length (by omega)]
      exact ⟨c', [], hc', hs', fun _ => ⟨rfl, hcomplete⟩, fun _ h => by omega⟩
    · rw [hlen] at sends
      refine ⟨c, rest, by simp [← hlen], ?_, fun h => absurd h (by omega), fun hall _ => cut hall⟩
      rwa [List.take_append_of_le_length (Nat.le_refl _), List.take_length]
  cases h with
  | between past =>
    obtain ⟨c, hc, hs, hcomplete⟩ := past.get hn
    refine ⟨c, [], hc, hs, fun _ => ⟨rfl, hcomplete⟩, ?_⟩
    intro _ h
    have := (List.getElem?_eq_some_iff.mp hc).1
    omega
  | sending past pc sends more => exact hlast past sends (fun _ => .inl more) hn
  | broken past pc sends cut => exact hlast past sends (fun hall => .inr (cut hall).2) hn

/-- A place in a joined list is a place in one of its parts. -/
theorem getElem?_flatten_cases {α : Type*} {ls : List (List α)} {i : Nat} {x : α} (h : ls.flatten[i]? = some x) :
    ∃ (n : Nat) (l : List α) (j : Nat), ls[n]? = some l ∧ l[j]? = some x ∧ i = (ls.take n).flatten.length + j := by
  induction ls generalizing i with
  | nil => simp at h
  | cons l ls ih =>
    rw [List.flatten_cons] at h
    by_cases hi : i < l.length
    · rw [List.getElem?_append_left hi] at h
      exact ⟨0, l, i, rfl, h, by simp⟩
    · rw [List.getElem?_append_right (by omega)] at h
      obtain ⟨n, m, j, hm, hx, hj⟩ := ih h
      refine ⟨n + 1, m, j, hm, hx, ?_⟩
      rw [List.take_succ_cons, List.flatten_cons, List.length_append]
      omega

/-- Where the marker of a plan is. -/
theorem marker_iff {media : RTSPMedia} {c : Call} {j : Nat} {p : Bool × Bytes}
    (h : (accessUnitPlan media c.accessUnit c.prepend).payloads[j]? = some p) : p.1 = true ↔
      c.complete media = true ∧ j + 1 = (accessUnitPlan media c.accessUnit c.prepend).payloads.length := by
  have hm := accessUnitPlan_marked media c.accessUnit c.prepend
  unfold Plan.Marked at hm
  unfold Call.complete
  cases hc : (accessUnitPlan media c.accessUnit c.prepend).complete with
  | false =>
    rw [hc, if_neg (by simp)] at hm
    simp [hm p (List.mem_of_getElem? h)]
  | true =>
    rw [hc, if_pos rfl] at hm
    obtain ⟨init, last, heq, hinit⟩ := hm
    rw [heq] at h ⊢
    rcases getElem?_concat_cases h with ⟨hlt, hp⟩ | ⟨rfl, rfl⟩
    · simp [hinit p (List.mem_of_getElem? hp)]
      omega
    · simp

/-- **A packet of a call**: what its header says. -/
theorem Progress.packet {media : RTSPMedia} {t : Thread} {S : List Call} {U : List (List Bytes)} {k n j : Nat}
    (h : Progress media True t S U k) {unit : List Bytes} {packet : Bytes} (hn : U[n]? = some unit)
    (hj : unit[j]? = some packet) : ∃ (marker : Bool) (payload : Bytes),
      packet = packetOf (UInt32.ofNat (3000 * n)) (100 + UInt16.ofNat ((U.take n).flatten.length + j)) marker payload ∧
      (marker = true ↔ n < k ∧ j + 1 = unit.length) := by
  obtain ⟨c, rest, hc, sends, hdone, hcut⟩ := h.get hn
  have hlt := (List.getElem?_eq_some_iff.mp hj).1
  have hget : (unit ++ rest)[j]? = some packet := by rwa [List.getElem?_append_left hlt]
  have hlength := congrArg List.length sends.packets
  rw [List.length_append, length_numbered] at hlength
  rw [sends.packets, getElem?_numbered, sends.timestamp] at hget
  obtain ⟨p, hp, rfl⟩ := Option.map_eq_some_iff.mp hget
  refine ⟨p.1, p.2, by rw [nextSeq, UInt16.add_assoc, ← UInt16.ofNat_add], ?_⟩
  rw [marker_iff hp, ← hlength]
  by_cases hk : n < k
  · obtain ⟨rfl, hcomplete⟩ := hdone hk
    simp [hk, hcomplete]
  · have hrest : c.complete media = true → j + 1 ≠ unit.length + rest.length := by
      intro hcomplete
      rcases hcut trivial hk with hrest | hrest
      · have := List.length_pos_iff.mpr hrest
        omega
      · rw [hcomplete] at hrest
        cases hrest
    constructor
    · exact fun ⟨h1, h2⟩ => absurd h2 (hrest h1)
    · exact fun h => absurd h.1 hk

/-- **The numbering of a session.** Whatever ran before it, whatever the encoder returns and however the server
interferes, while sends succeed the `i`-th packet has sequence number `100 + i`, the packets of the `n`-th access unit
have timestamp `3000 n`, the marker is on the last packet of a streamed access unit and on no other, and version,
payload type and SSRC never change. -/
theorem session_numbering (media : RTSPMedia) (session : RTSPSession) {turns : List Turn}
    (hsend : ∀ turn ∈ turns, ∀ packet, turn.Sends packet) :
    let events := (run turnStep ⟨media, session, .start⟩ turns).events
    sentPackets events = (unitPackets events).flatten ∧
    (∀ i packet, (sentPackets events)[i]? = some packet → ∃ header payload,
      parsePacket packet = some (header, payload) ∧ header.sequence.toNat = (100 + i) % UInt16.size ∧
      header.version = 2 ∧ header.payloadType = 96 ∧ header.ssrc = 0x12345678) ∧
    ∀ n unit j packet, (unitPackets events)[n]? = some unit → unit[j]? = some packet → ∃ header payload,
      parsePacket packet = some (header, payload) ∧ header.timestamp.toNat = 3000 * n % UInt32.size ∧
      (header.marker = 1 ↔ n < streamedCount events ∧ j + 1 = unit.length) := by
  intro events
  have hn : Numbering media True (run turnStep ⟨media, session, .start⟩ turns) :=
    run_numbering media session fun _ => hsend
  refine ⟨hn.flat, ?_, ?_⟩
  · intro i packet hi
    rw [hn.flat] at hi
    obtain ⟨n, unit, j, hunit, hj, rfl⟩ := getElem?_flatten_cases hi
    obtain ⟨marker, payload, rfl, -⟩ := hn.progress.packet hunit hj
    refine ⟨_, payload, parsePacket_packetOf _ _ marker payload, ?_, rfl, rfl, rfl⟩
    simp [headerOf, UInt16.toNat_add]
  · intro n unit j packet hunit hj
    obtain ⟨marker, payload, rfl, hmarker⟩ := hn.progress.packet hunit hj
    refine ⟨_, payload, parsePacket_packetOf _ _ marker payload, by simp [headerOf], ?_⟩
    rw [← hmarker]
    cases marker <;> simp [headerOf]

/-- A pipeline with one camera buffer, ready to serve. -/
def servingMedia : RTSPMedia :=
  { RTSPMedia.zero with
    capture := { Capture.V4L2Capture.zero with fd := 3, streaming := true, buffers := [⟨true, expectedSize⟩] }
    encoder := { Encoder.MppEncoder.zero with ctx := true, mpi := true, frmBuf := true }
    sender := { RTPSender.zero with sockfd := -1 }
    sps := some [0x67, 0x64], pps := some [0x68, 0xee], initialized := true }

/-- A session after SETUP and PLAY. -/
def playSession : RTSPSession :=
  { rtspSessionInit 0 0 with clientIp := Text.ascii "10.0.0.2", clientRtpPort := 6000, playing := true }

/-- Everything succeeds and the encoder returns `u`. -/
def encodes (u : Bytes) : ThreadAnswers :=
  { sender := ⟨some 9, true⟩, rkmuxerInit := 0, drain := fun _ => ⟨[], true, true⟩, externalStop := false
    capture :=
      { rounds := [.dequeued ⟨0, expectedSize, 0, 1, 0⟩], requeue := true
        encode := ⟨true, true, true, true, true, ⟨.ofNat u.length, 64, 0⟩,
          ⟨some 10, some 11, some fun i => u.getD i 0, true⟩, some true⟩
        release := true }
    malloc := true, rkmuxerWrite := 0, sendto := fun packet => packet.length, rkmuxerDeinit := 0 }

/-- The thread starts, and streams one IDR slice: SPS, PPS and the slice. -/
theorem session_numbering_idr :
    let events := (run turnStep ⟨servingMedia, playSession, .start⟩
      (List.replicate 9 (.thread (encodes [0, 0, 0, 1, 0x65, 0x88])))).events
    (sentPackets events).length = 3 ∧ streamedCount events = 1 ∧ ∀ n unit j packet,
      (unitPackets events)[n]? = some unit → unit[j]? = some packet → ∃ header payload,
        parsePacket packet = some (header, payload) ∧ header.timestamp.toNat = 3000 * n % UInt32.size ∧
        (header.marker = 1 ↔ n < streamedCount events ∧ j + 1 = unit.length) :=
  ⟨by decide +kernel, by decide +kernel,
    (session_numbering servingMedia playSession fun _ hturn _ => by rw [List.eq_of_mem_replicate hturn]; rfl).2.2⟩

end MiniRtsp.Rtsp
