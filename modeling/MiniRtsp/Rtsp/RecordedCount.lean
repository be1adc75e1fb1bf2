import MiniRtsp.Rtsp.SendFailure
import MiniRtsp.Rtsp.Timeline

/-!
# The reported number of recorded frames

The muxer counts an access unit when `rkmuxer` accepts it, the thread counts it when `send_access_unit` has returned. In
between, a recorded access unit is one ahead (`Counted`); where `send_access_unit` fails on it, it stays ahead
(`Missed`), and the thread reports one frame less than the file has (`recorded_reported`).
-/

namespace MiniRtsp.Rtsp

open H264 Muxer Rtp Trace

/-! ## What is counted -/

/-- The number of access units `rkmuxer` accepted. -/
def acceptedCount (events : List ThreadEvent) : Nat :=
  (recordings events).countP fun | (_, some r) => r.error.isNone | _ => false

/-- The counters the thread reported: frames, recorded frames and gaps. -/
def summaries (events : List ThreadEvent) : List (UInt32 × UInt64 × UInt32) :=
  events.filterMap fun | .summary frames recorded gaps => some (frames, recorded, gaps) | _ => none

@[simp] theorem acceptedCount_append (es fs : List ThreadEvent) :
    acceptedCount (es ++ fs) = acceptedCount es + acceptedCount fs := by
  simp [acceptedCount]

@[simp] theorem summaries_append (es fs : List ThreadEvent) : summaries (es ++ fs) = summaries es ++ summaries fs := by
  simp [summaries]

theorem acceptedCount_of_none {events : List ThreadEvent} (h : recordings events = []) : acceptedCount events = 0 := by
  simp [acceptedCount, h]

/-- The muxer has accepted `n` access units, the last one at its own presentation time. -/
structure HasAccepted (n : Nat) (muxer : Mp4Muxer) : Prop where
  frameCount : muxer.frameCount = UInt64.ofNat n
  lastPts : 0 < n → muxer.lastPtsUs = timestampUs (3000 * (n - 1))
  bound : 0 < n → (n - 1) * 1000000 < UInt64.size

/-- The count never wraps. -/
theorem HasAccepted.toNat {n : Nat} {muxer : Mp4Muxer} (h : HasAccepted n muxer) : muxer.frameCount.toNat = n := by
  have hsize : UInt64.size = 18446744073709551616 := rfl
  have hbound := h.bound
  rw [h.frameCount]
  exact UInt64.toNat_ofNat_of_lt' (by omega)

/-- Where the product of the presentation time wraps, the access unit is refused. -/
theorem HasAccepted.in_time {n : Nat} {muxer : Mp4Muxer} (h : HasAccepted n muxer)
    (hlast : 0 < muxer.frameCount → muxer.lastPtsUs < recordingPts (UInt64.ofNat n)) :
    n * 1000000 < UInt64.size := by
  have hsize : UInt64.size = 18446744073709551616 := rfl
  by_contra hwrap
  have hn : 0 < n := by omega
  have hbound := h.bound hn
  have hindex : (UInt64.ofNat n).toNat = n := UInt64.toNat_ofNat_of_lt' (by omega)
  have hpos : 0 < muxer.frameCount := by
    rw [h.frameCount, UInt64.lt_iff_toNat_lt, hindex]
    exact hn
  have hlt := hlast hpos
  rw [h.lastPts hn, recordingPts_nat, hindex, hsize, timestampUs_eq] at hlt
  omega

/-- A write moves the muxer on when it is accepted, and leaves it otherwise. -/
theorem HasAccepted.write {n : Nat} {muxer : Mp4Muxer} (h : HasAccepted n muxer) (rkmuxerWrite : Int) (data : Bytes) :
    let r := mp4MuxerWriteH264 rkmuxerWrite muxer data (recordingPts (UInt64.ofNat n))
    HasAccepted (n + if r.error.isNone then 1 else 0) r.muxer := by
  intro r
  have hw : Writing rkmuxerWrite muxer data (recordingPts (UInt64.ofNat n)) r :=
    mp4MuxerWriteH264_writing rkmuxerWrite muxer data (recordingPts (UInt64.ofNat n))
  generalize r = r at hw ⊢
  cases hw with
  | refused e _ => exact h
  | failed _ _ => exact h
  | accepted _ _ _ _ hlast =>
    have hbound := h.in_time hlast
    refine ⟨?_, fun _ => ?_, fun _ => hbound⟩
    · simp only [h.frameCount, UInt64.ofNat_add]
      rfl
    · exact recordingPts_eq hbound

theorem HasAccepted.record {n : Nat} {malloc : Bool} {rkmuxerWrite : Int} {media : RTSPMedia} {muxer : Mp4Muxer}
    {u : Bytes} {r : WriteResult} (h : HasAccepted n muxer)
    (hwrite : writeMp4AccessUnit malloc rkmuxerWrite media muxer u (UInt64.ofNat n) = some r) :
    HasAccepted (n + if r.error.isNone then 1 else 0) r.muxer := by
  obtain ⟨data, -, rfl⟩ := writeMp4AccessUnit_some hwrite
  exact h.write rkmuxerWrite data

/-! ## The two counters in the phases of the thread -/

/-- The muxer has accepted `n` access units, and the thread counts them all, or all but the one it is sending. -/
structure Counted (n : Nat) (t : Thread) : Prop where
  muxer : HasAccepted n t.muxer
  count : t.recordingFrameCount + (if t.pc.inSend && t.muxerInitialized then 1 else 0) = UInt64.ofNat n
  opening : t.pc = .initSender ∨ t.pc = .initMuxer → n = 0
  pending : ∀ packets complete, t.pc = .sending packets complete →
    (t.muxerInitialized = true → complete = true) ∧ ∀ p ∈ packets, p ≠ []

/-- The thread is, or will be, behind `EXIT` without having counted the last access unit. -/
structure Missed (n : Nat) (t : Thread) : Prop where
  muxer : HasAccepted n t.muxer
  count : t.recordingFrameCount + 1 = UInt64.ofNat n
  phase : t.pc.exiting = true ∨ ∃ packets, packets ≠ [] ∧ t.pc = .sending packets false

/-- Between two calls of `send_access_unit`. -/
theorem Counted.between {n : Nat} {t : Thread} (hm : HasAccepted n t.muxer)
    (hc : t.recordingFrameCount = UInt64.ofNat n) (hpc : t.pc.inSend = false)
    (hopen : t.pc ≠ .initSender ∧ t.pc ≠ .initMuxer) : Counted n t where
  muxer := hm
  count := by simpa [hpc] using hc
  opening hp := by tauto
  pending packets complete hp := by simp [hp, ThreadPc.inSend] at hpc

/-- What `Counted` says between two calls. -/
theorem Counted.count_eq {n : Nat} {t : Thread} (h : Counted n t) (hpc : t.pc.inSend = false) :
    t.recordingFrameCount = UInt64.ofNat n := by
  simpa [hpc] using h.count

/-- `send_access_unit` accepts the access unit and every size in it. -/
def Packetizable (media : RTSPMedia) (accessUnit : Bytes) (prepend : Bool) : Prop :=
  h264AnnexbCollect accessUnit annexbMaxNalus ≠ none ∧ ¬ Refused media accessUnit prepend

theorem packetizable_iff (media : RTSPMedia) (accessUnit : Bytes) (prepend : Bool) :
    Packetizable media accessUnit prepend ↔ (accessUnitPlan media accessUnit prepend).complete = true := by
  cases hcollect : h264AnnexbCollect accessUnit annexbMaxNalus with
  | none => exact iff_of_false (fun h => h.1 hcollect) (by simp [accessUnitPlan, hcollect])
  | some vs =>
    rw [(accessUnitPlan_begins media prepend hcollect).2]
    exact and_iff_right (by simp [hcollect])

/-- If this access unit is recorded, it can be sent: the muxer accepts it only if `send_access_unit` does. -/
def SentIfRecorded (answers : ThreadAnswers) (media : RTSPMedia) (t : Thread) (accessUnit : Bytes) : Prop :=
  t.muxerInitialized = true → (t.waitingForIdr = true → h264AnnexbContainsType accessUnit nalIdr = true) →
  ∀ r, writeMp4AccessUnit answers.malloc answers.rkmuxerWrite media t.muxer accessUnit t.recordingFrameCount = some r →
    r.error = none → Packetizable media accessUnit t.waitingForIdr

/-- No recorded access unit fails in `send_access_unit` in this turn. -/
def KeepsUp (live : Live) : Turn → Prop
  | .server _ _ => True
  | .thread answers =>
    match live.thread.pc with
    | .capture =>
      let captured := captureAndEncode answers.capture live.media
      ∀ unit, captured.unit = some unit → SentIfRecorded answers captured.media live.thread unit.data
    | .sending (packet :: _) _ => live.thread.muxerInitialized = true → answers.sendto packet = packet.length
    | _ => True

theorem acceptedCount_recording (u : Bytes) (r : WriteResult) {events : List ThreadEvent}
    (h : recordings events = []) :
    acceptedCount (.recording u (some r) :: events) = if r.error.isNone then 1 else 0 := by
  have hone : recordings (.recording u (some r) :: events) = (u, some r) :: recordings events := rfl
  simp [acceptedCount, hone, h, List.countP_singleton]

/-- The call of `send_access_unit` behind a recording. -/
theorem beginSend_counted {media : RTSPMedia} {t : Thread} {n : Nat} (u : Bytes) (prepend : Bool)
    (hm : HasAccepted n t.muxer)
    (hc : t.recordingFrameCount + (if t.muxerInitialized then 1 else 0) = UInt64.ofNat n) :
    ((t.muxerInitialized = true → Packetizable media u prepend) → Counted n (beginSend media t u prepend).1) ∧
    (t.muxerInitialized = true → ¬Packetizable media u prepend → Missed n (beginSend media t u prepend).1) ∧
    recordings (beginSend media t u prepend).2 = [] := by
  have hmuxer := beginSend_muxer media t u prepend
  obtain ⟨t', heq, hsame, -, hinit, hpc⟩ := beginSend_spec media t u prepend
  rw [heq] at hmuxer ⊢
  dsimp only at hmuxer ⊢
  have hpackets : ∀ p ∈ numbered t.timestamp t.seq (accessUnitPlan media u prepend).payloads, p ≠ [] := by
    intro p hp
    obtain ⟨i, hi⟩ := List.mem_iff_getElem?.mp hp
    rw [getElem?_numbered] at hi
    obtain ⟨payload, -, rfl⟩ := Option.map_eq_some_iff.mp hi
    simp [packetOf, rtpPacketPack]
  refine ⟨fun hsend => ?_, fun hi hsend => ?_, rfl⟩
  · by_cases hnil : (accessUnitPlan media u prepend).payloads = []
    · rw [if_pos hnil] at hpc
      have hi : t.muxerInitialized ≠ true := fun hi =>
        accessUnitPlan_ne_nil ((packetizable_iff media u prepend).mp (hsend hi)) hnil
      refine .between (hmuxer ▸ hm) ?_ (by rw [hpc]; rfl) (by simp [hpc])
      rw [hsame.recorded, ← hc, if_neg hi, UInt64.add_zero]
    · rw [if_neg hnil] at hpc
      refine ⟨hmuxer ▸ hm, ?_, by simp [hpc], ?_⟩
      · rw [hsame.recorded, hinit, hpc]
        exact hc
      · intro packets complete hp
        rw [hpc, ThreadPc.sending.injEq] at hp
        obtain ⟨rfl, rfl⟩ := hp
        exact ⟨fun hi => (packetizable_iff media u prepend).mp (hsend (hinit ▸ hi)), hpackets⟩
  · rw [packetizable_iff, Bool.not_eq_true] at hsend
    refine ⟨hmuxer ▸ hm, by rw [hsame.recorded, ← hc, if_pos hi], ?_⟩
    split at hpc
    · exact .inl (by rw [hpc]; rfl)
    · rename_i hne
      refine .inr ⟨_, ?_, by rw [hpc, hsend]⟩
      exact fun h => hne (List.length_eq_zero_iff.mp (by rw [← length_numbered, h]; rfl))

/-- **An access unit** is recorded before it is sent. -/
theorem deliver_counted (answers : ThreadAnswers) (media : RTSPMedia) {t : Thread} {n : Nat} (h : Counted n t)
    (hpc : t.pc = .capture) (u : Bytes) :
    (SentIfRecorded answers media t u →
      Counted (n + acceptedCount (deliver answers media t u).2) (deliver answers media t u).1) ∧
    (¬SentIfRecorded answers media t u →
      Missed (n + acceptedCount (deliver answers media t u).2) (deliver answers media t u).1) := by
  have hindex := h.count_eq (by rw [hpc]; rfl)
  unfold deliver
  dsimp only
  split
  · rename_i hskip
    rw [Bool.and_eq_true, Bool.not_eq_true'] at hskip
    have hidle : SentIfRecorded answers media t u := fun _ hidr => by rw [hidr hskip.1] at hskip; cases hskip.2
    exact ⟨fun _ => .between h.muxer hindex rfl (by simp), fun hnot => absurd hidle hnot⟩
  · rename_i hskip
    have hidr : t.waitingForIdr = true → h264AnnexbContainsType u nalIdr = true := fun hw => by simpa [hw] using hskip
    rw [prepend_eq hidr]
    by_cases hmuxer : t.muxerInitialized = true
    · rw [if_pos hmuxer]
      cases hwrite : writeMp4AccessUnit answers.malloc answers.rkmuxerWrite media t.muxer u t.recordingFrameCount with
      | none =>
        have hidle : SentIfRecorded answers media t u := fun _ _ r hr => by rw [hwrite] at hr; cases hr
        exact ⟨fun _ => .between h.muxer hindex rfl (by simp), fun hnot => absurd hidle hnot⟩
      | some r =>
        have haccepted : HasAccepted (n + if r.error.isNone then 1 else 0) r.muxer := h.muxer.record (hindex ▸ hwrite)
        dsimp only
        split
        · rename_i herr
          have hidle : SentIfRecorded answers media t u := fun _ _ r' hr' hok => by
            rw [hwrite, Option.some.injEq] at hr'
            exact absurd (hr' ▸ hok) herr
          have hzero : r.error.isNone = false := by
            rw [Option.isNone_eq_false_iff, Option.isSome_iff_ne_none]
            exact herr
          rw [acceptedCount_recording u r rfl]
          refine ⟨fun _ => .between haccepted ?_ rfl (by simp), fun hnot => absurd hidle hnot⟩
          simpa [hzero] using hindex
        · rename_i hok
          have hone : r.error = none := by simpa using hok
          have hiff : SentIfRecorded answers media t u ↔ Packetizable media u t.waitingForIdr :=
            ⟨fun hs => hs hmuxer hidr r hwrite hone, fun hp _ _ _ _ _ => hp⟩
          obtain ⟨hcounted, hmissed, hnone⟩ :=
            @beginSend_counted media { t with waitingForIdr := false, muxer := r.muxer }
              (n + if r.error.isNone then 1 else 0) u t.waitingForIdr haccepted
              (by simp [hmuxer, hindex, hone, UInt64.ofNat_add])
          dsimp only
          rw [acceptedCount_recording u r hnone, hiff]
          exact ⟨fun hp => hcounted fun _ => hp, hmissed hmuxer⟩
    · rw [if_neg hmuxer]
      have hidle : SentIfRecorded answers media t u := fun hi => absurd hi hmuxer
      obtain ⟨hcounted, -, hnone⟩ :=
        @beginSend_counted media { t with waitingForIdr := false } n u t.waitingForIdr h.muxer
          (by simp [hmuxer, hindex])
      rw [acceptedCount_of_none hnone]
      exact ⟨fun _ => hcounted fun hi => absurd hi hmuxer, fun hnot => absurd hidle hnot⟩

theorem acceptedCount_uses (uses : List (Ledger.Use Resource)) : acceptedCount (uses.map .use) = 0 :=
  acceptedCount_of_none (recordings_uses uses)

/-- The bookkeeping of the sequence numbers does not touch the recording. -/
theorem sentIfRecorded_account (answers : ThreadAnswers) (media : RTSPMedia) (t : Thread) (captureSequence : UInt32)
    (u : Bytes) : SentIfRecorded answers media (t.account captureSequence) u ↔ SentIfRecorded answers media t u := by
  obtain ⟨hcounters, hwaiting, hinit⟩ := t.account_same captureSequence
  obtain ⟨hmuxer, -⟩ := t.account_muxer captureSequence
  rw [SentIfRecorded, SentIfRecorded, hmuxer, hinit, hwaiting, hcounters.recorded]

/-- **A captured access unit**, if the encoder returned one. -/
theorem captureStep_counted {answers : ThreadAnswers} {live : Live} {n : Nat} (h : Counted n live.thread)
    (hpc : live.thread.pc = .capture) :
    let captured := captureAndEncode answers.capture live.media
    let keeps := ∀ unit, captured.unit = some unit → SentIfRecorded answers captured.media live.thread unit.data
    (keeps → Counted (n + acceptedCount (captureStep answers live).2) (captureStep answers live).1.thread) ∧
    (¬keeps → Missed (n + acceptedCount (captureStep answers live).2) (captureStep answers live).1.thread) := by
  have hindex := h.count_eq (by rw [hpc]; rfl)
  unfold captureStep
  dsimp only
  cases (captureAndEncode answers.capture live.media).unit with
  | none =>
    dsimp only
    rw [acceptedCount_uses]
    exact ⟨fun _ => .between h.muxer hindex rfl (by simp), fun hnot => absurd (fun unit hu => by cases hu) hnot⟩
  | some unit =>
    obtain ⟨hcounters, -, -⟩ := live.thread.account_same unit.sequence
    obtain ⟨hmuxer, hpc'⟩ := live.thread.account_muxer unit.sequence
    have hcounted : Counted n (live.thread.account unit.sequence) :=
      .between (hmuxer ▸ h.muxer) (hcounters.recorded.trans hindex) (by rw [hpc', hpc]; rfl) (by simp [hpc', hpc])
    obtain ⟨hsent, hmissed⟩ := deliver_counted answers (captureAndEncode answers.capture live.media).media hcounted
      (hpc'.trans hpc) unit.data
    rw [sentIfRecorded_account] at hsent hmissed
    have hevents : ∀ es, acceptedCount ((captureAndEncode answers.capture live.media).uses.map .use ++
        .returned unit :: es) = acceptedCount es := by
      intro es
      rw [acceptedCount, recordings_returned, acceptedCount]
    dsimp only
    rw [hevents]
    constructor
    · intro hkeeps
      exact hsent (hkeeps unit rfl)
    · intro hnot
      apply hmissed
      intro hkeeps
      apply hnot
      intro unit' hunit'
      obtain rfl := Option.some.inj hunit'
      exact hkeeps

/-- **A packet**, and the count behind the last one. -/
theorem sendStep_counted {answers : ThreadAnswers} {live : Live} {packet : Bytes} {rest : List Bytes} {complete : Bool}
    {n : Nat} (hsock : 0 ≤ live.media.sender.sockfd) (h : Counted n live.thread)
    (hpc : live.thread.pc = .sending (packet :: rest) complete) :
    ((live.thread.muxerInitialized = true → answers.sendto packet = packet.length) →
      Counted n (sendStep answers live packet rest complete).1.thread) ∧
    (¬(live.thread.muxerInitialized = true → answers.sendto packet = packet.length) →
      Missed n (sendStep answers live packet rest complete).1.thread) ∧
    recordings (sendStep answers live packet rest complete).2 = [] := by
  obtain ⟨hcomplete, hpackets⟩ := h.pending _ _ hpc
  have hcount := h.count
  rw [hpc] at hcount
  have hsilent : live.thread.muxerInitialized ≠ true → live.thread.recordingFrameCount = UInt64.ofNat n := fun hi => by
    simpa [hi] using hcount
  unfold sendStep
  rcases rtpSenderSend_cases (fun _ p => answers.sendto p) live.media.sender [] packet with
    ⟨heq, -, -, hsent⟩ | ⟨hret, hfail, hnet⟩
  · rw [heq]
    dsimp only
    rw [if_neg (by omega)]
    have hkeeps : live.thread.muxerInitialized = true → answers.sendto packet = packet.length := fun _ => hsent
    by_cases hrest : rest = []
    · rw [if_pos hrest]
      cases complete with
      | false =>
        have hi : live.thread.muxerInitialized ≠ true := fun hi => by cases hcomplete hi
        exact ⟨fun _ => .between h.muxer (hsilent hi) rfl (by simp [Thread.afterSend]), fun hnot => absurd hkeeps hnot,
          rfl⟩
      | true =>
        refine ⟨fun _ => .between h.muxer ?_ rfl (by simp [Thread.afterSend]), fun hnot => absurd hkeeps hnot, rfl⟩
        cases hi : live.thread.muxerInitialized with
        | false => simpa [Thread.afterSend, hi] using hsilent (by simp [hi])
        | true => simpa [Thread.afterSend, hi, ThreadPc.inSend] using hcount
    · rw [if_neg hrest]
      refine ⟨fun _ => ⟨h.muxer, hcount, by simp, ?_⟩, fun hnot => absurd hkeeps hnot, rfl⟩
      intro packets complete' hp
      obtain ⟨rfl, rfl⟩ := ThreadPc.sending.inj hp
      exact ⟨hcomplete, fun p hp => hpackets p (by simp [hp])⟩
  · dsimp only
    rw [if_pos hret]
    have hunsent : ¬answers.sendto packet = packet.length := by
      rcases hfail with hnil | hclosed | hshort
      · exact absurd hnil (hpackets packet (by simp))
      · omega
      · exact hshort
    refine ⟨fun hkeeps => .between h.muxer (hsilent fun hi => hunsent (hkeeps hi)) rfl (by simp), fun hnot => ?_,
      recordings_sent _⟩
    have hi : live.thread.muxerInitialized = true := by
      by_contra hi
      exact hnot fun h => absurd h hi
    exact ⟨h.muxer, by simpa [hi, ThreadPc.inSend] using hcount, .inl rfl⟩

/-- Opening the recording leaves a muxer without access units. -/
theorem openMuxer_accepted (answers : ThreadAnswers) {live : Live} (h : HasAccepted 0 live.thread.muxer) :
    HasAccepted 0 (openMuxer answers live).thread.muxer := by
  have hfresh : ∀ muxer : Mp4Muxer, muxer.frameCount = 0 → HasAccepted 0 muxer := fun muxer hm =>
    ⟨hm, fun h => absurd h (Nat.lt_irrefl 0), fun h => absurd h (Nat.lt_irrefl 0)⟩
  unfold openMuxer mp4MuxerInit
  dsimp only
  repeat' split
  · exact h
  · exact h
  · exact hfresh _ rfl
  · exact hfresh _ rfl

/-- Closing it leaves the count. -/
theorem closeMuxer_accepted (answers : ThreadAnswers) (t : Thread) {n : Nat} (h : HasAccepted n t.muxer) :
    HasAccepted n (if t.muxerInitialized then (mp4MuxerClose answers.rkmuxerDeinit t.muxer).1 else t.muxer) := by
  have hclosed : HasAccepted n (mp4MuxerClose answers.rkmuxerDeinit t.muxer).1 := by
    unfold mp4MuxerClose
    split
    · exact h
    · exact ⟨h.frameCount, h.lastPts, h.bound⟩
  split
  · exact hclosed
  · exact h

/-- **A turn** keeps the counters together, or leaves the thread behind for good. -/
theorem turnStep_counted {live : Live} (hready : Ready live) {n : Nat} (h : Counted n live.thread) (turn : Turn) :
    (KeepsUp live turn → Counted (n + acceptedCount (turnStep turn live).2) (turnStep turn live).1.thread) ∧
    (¬KeepsUp live turn → Missed (n + acceptedCount (turnStep turn live).2) (turnStep turn live).1.thread) := by
  cases turn with
  | server stopRequested session => exact ⟨fun _ => h, fun hnot => absurd trivial hnot⟩
  | thread answers =>
    have hcount := h.count
    simp only [turnStep, threadStep, KeepsUp]
    cases hpc : live.thread.pc with
    | initSender =>
      obtain rfl := h.opening (.inl hpc)
      rw [hpc] at hcount
      refine ⟨fun _ => ?_, fun hnot => absurd trivial hnot⟩
      unfold openSender
      dsimp only
      rw [acceptedCount_uses]
      repeat' split
      · exact .between h.muxer (by simpa [ThreadPc.inSend] using hcount) rfl (by simp)
      · exact ⟨h.muxer, by simpa [ThreadPc.inSend] using hcount, fun _ => rfl, by simp⟩
      · exact .between h.muxer (by simpa [ThreadPc.inSend] using hcount) rfl (by simp)
    | initMuxer =>
      obtain rfl := h.opening (.inr hpc)
      have hzero := h.count_eq (by rw [hpc]; rfl)
      refine ⟨fun _ => .between (openMuxer_accepted answers h.muxer) hzero ?_ ?_, fun hnot => absurd trivial hnot⟩
      · unfold openMuxer
        dsimp only
        split <;> rfl
      · unfold openMuxer
        dsimp only
        split <;> simp
    | drain | loopHead =>
      have hindex := h.count_eq (by rw [hpc]; rfl)
      refine ⟨fun _ => .between h.muxer hindex ?_ ?_, fun hnot => absurd trivial hnot⟩
      · dsimp only
        split <;> rfl
      · dsimp only
        split <;> simp
    | consume =>
      have hindex := h.count_eq (by rw [hpc]; rfl)
      exact ⟨fun _ => .between h.muxer hindex rfl (by simp), fun hnot => absurd trivial hnot⟩
    | capture => exact captureStep_counted h hpc
    | sending packets complete =>
      cases packets with
      | nil => exact absurd hpc (hready.pending complete)
      | cons packet rest =>
        have hsock := hready.socket (by rw [hpc]; rfl)
        obtain ⟨hkeep, hlose, hnone⟩ := @sendStep_counted answers live packet rest complete n hsock h hpc
        dsimp only
        rw [acceptedCount_of_none hnone]
        exact ⟨hkeep, hlose⟩
    | closeSender =>
      have hindex := h.count_eq (by rw [hpc]; rfl)
      dsimp only
      rw [acceptedCount_uses]
      exact ⟨fun _ => .between h.muxer hindex rfl (by simp), fun hnot => absurd trivial hnot⟩
    | closeMuxer =>
      have hindex := h.count_eq (by rw [hpc]; rfl)
      refine ⟨fun _ => .between ?_ hindex rfl (by simp), fun hnot => absurd trivial hnot⟩
      exact closeMuxer_accepted _ _ h.muxer
    | clearPlaying | summary =>
      have hindex := h.count_eq (by rw [hpc]; rfl)
      exact ⟨fun _ => .between h.muxer hindex rfl (by simp), fun hnot => absurd trivial hnot⟩
    | exited => exact ⟨fun _ => h, fun hnot => absurd trivial hnot⟩

/-- Once behind, the thread stays behind. -/
theorem turnStep_missed {live : Live} {n : Nat} (h : Missed n live.thread) (turn : Turn) :
    Missed (n + acceptedCount (turnStep turn live).2) (turnStep turn live).1.thread := by
  cases turn with
  | server stopRequested session => exact h
  | thread answers =>
    simp only [turnStep, threadStep]
    rcases h.phase with hexit | ⟨packets, hne, hpc⟩
    · cases hpc : live.thread.pc with
      | closeSender =>
        dsimp only
        rw [acceptedCount_uses]
        exact ⟨h.muxer, h.count, .inl rfl⟩
      | closeMuxer => exact ⟨closeMuxer_accepted _ _ h.muxer, h.count, .inl rfl⟩
      | clearPlaying | summary => exact ⟨h.muxer, h.count, .inl rfl⟩
      | exited => exact h
      | _ => simp [hpc, ThreadPc.exiting] at hexit
    · obtain ⟨packet, rest, rfl⟩ := List.exists_cons_of_ne_nil hne
      rw [hpc]
      dsimp only
      unfold sendStep
      dsimp only
      repeat' split
      · rw [acceptedCount_of_none (recordings_sent _)]
        exact ⟨h.muxer, h.count, .inl rfl⟩
      · rw [acceptedCount_append, acceptedCount_of_none (recordings_sent _)]
        exact ⟨h.muxer, h.count, .inl rfl⟩
      · rename_i hrest
        rw [acceptedCount_of_none (recordings_sent _)]
        exact ⟨h.muxer, h.count, .inr ⟨rest, hrest, rfl⟩⟩

/-! ## The report -/

/-- The thread reports once, its own counters. -/
def Reported (h : History Live ThreadEvent) : Prop :=
  summaries h.events =
    if h.state.thread.pc = .exited then
      [(h.state.thread.frameCount, h.state.thread.recordingFrameCount, h.state.thread.sequenceGapCount)]
    else []

theorem summaries_uses (uses : List (Ledger.Use Resource)) : summaries (uses.map .use) = [] :=
  filterMap_unseen (fun _ => rfl) uses

theorem summaries_sent (es : List Datagram) : summaries (es.map .sent) = [] := filterMap_unseen (fun _ => rfl) es

theorem Delivered.unreported {media : RTSPMedia} {t t' : Thread} {u : Bytes} {events : List ThreadEvent}
    (h : Delivered media t t' u events) : summaries events = [] ∧ t'.pc ≠ .exited := by
  cases h with
  | skipped _ _ _ _ next => exact ⟨rfl, by simp [next]⟩
  | refused _ _ _ next => exact ⟨rfl, by simp [next]⟩
  | began _ records _ _ _ next =>
    constructor
    · rcases records with ⟨-, r, rfl⟩ | ⟨-, rfl⟩ <;> rfl
    · rw [next]
      split <;> simp

theorem captureStep_unreported (answers : ThreadAnswers) (live : Live) :
    summaries (captureStep answers live).2 = [] ∧ (captureStep answers live).1.thread.pc ≠ .exited := by
  unfold captureStep
  dsimp only
  cases (captureAndEncode answers.capture live.media).unit with
  | none => exact ⟨summaries_uses _, by simp⟩
  | some unit =>
    obtain ⟨hsilent, hpc⟩ := (deliver_delivered answers (captureAndEncode answers.capture live.media).media
      (live.thread.account unit.sequence) unit.data).1.unreported
    refine ⟨?_, hpc⟩
    rw [summaries_append, summaries_uses, List.nil_append]
    exact hsilent

theorem sendStep_unreported (answers : ThreadAnswers) (live : Live) (packet : Bytes) (rest : List Bytes)
    (complete : Bool) :
    summaries (sendStep answers live packet rest complete).2 = [] ∧
      (sendStep answers live packet rest complete).1.thread.pc ≠ .exited := by
  unfold sendStep
  dsimp only
  split
  · exact ⟨summaries_sent _, by simp⟩
  · split
    · cases complete with
      | false => exact ⟨by rw [summaries_append, summaries_sent]; rfl, by simp [Thread.afterSend]⟩
      | true => exact ⟨by rw [summaries_append, summaries_sent]; rfl, by simp [Thread.afterSend]⟩
    · exact ⟨summaries_sent _, by simp⟩

/-- **A turn** reports when it ends the thread. -/
theorem turnStep_reported {h : History Live ThreadEvent} (hready : Ready h.state) (hr : Reported h) (turn : Turn) :
    Reported (advance turnStep h turn) := by
  have hquiet : h.state.thread.pc ≠ .exited → summaries (turnStep turn h.state).2 = [] →
      (turnStep turn h.state).1.thread.pc ≠ .exited → Reported (advance turnStep h turn) := by
    intro hbefore hevents hafter
    rw [Reported, if_neg hbefore] at hr
    rw [Reported, advance, summaries_append, hr, hevents, if_neg hafter]
    rfl
  cases turn with
  | server stopRequested session => simpa [Reported, advance, turnStep, summaries] using hr
  | thread answers =>
    simp only [turnStep, threadStep] at hquiet
    cases hpc : h.state.thread.pc with
    | initSender =>
      rw [hpc] at hquiet
      refine hquiet (by simp) (summaries_uses _) ?_
      unfold openSender
      dsimp only
      repeat' split
      all_goals simp
    | initMuxer | drain | loopHead =>
      rw [hpc] at hquiet
      refine hquiet (by simp) rfl ?_
      dsimp only [openMuxer]
      split <;> simp
    | consume | closeMuxer | clearPlaying =>
      rw [hpc] at hquiet
      exact hquiet (by simp) rfl (by simp)
    | closeSender =>
      rw [hpc] at hquiet
      exact hquiet (by simp) (summaries_uses _) (by simp)
    | capture =>
      rw [hpc] at hquiet
      obtain ⟨hevents, hafter⟩ := captureStep_unreported answers h.state
      exact hquiet (by simp) hevents hafter
    | sending packets complete =>
      cases packets with
      | nil => exact absurd hpc (hready.pending complete)
      | cons packet rest =>
        rw [hpc] at hquiet
        obtain ⟨hevents, hafter⟩ := sendStep_unreported answers h.state packet rest complete
        exact hquiet (by simp) hevents hafter
    | summary =>
      have hnone : summaries h.events = [] := by simpa [Reported, hpc] using hr
      rw [Reported, advance, summaries_append, hnone]
      simp [turnStep, threadStep, hpc, summaries]
    | exited => simpa [Reported, advance, turnStep, threadStep, hpc, summaries] using hr

/-- What a run keeps. -/
structure Reporting (state : Nat → Thread → Prop) (h : History Live ThreadEvent) : Prop where
  ready : Ready h.state
  reported : Reported h
  counters : state (acceptedCount h.events) h.state.thread

/-- **The report of a run**: as long as no recorded access unit fails in `send_access_unit`, the thread counts what the
muxer counts, and from the first failure on it is behind. -/
theorem run_reporting (media : RTSPMedia) (session : RTSPSession) (turns : List Turn) :
    let start : History Live ThreadEvent := ⟨⟨media, session, .start⟩, []⟩
    Along turnStep (fun h turn => KeepsUp h.state turn) start turns ∧
        Reporting Counted (run turnStep start.state turns) ∨
      ¬Along turnStep (fun h turn => KeepsUp h.state turn) start turns ∧
        Reporting Missed (run turnStep start.state turns) := by
  intro start
  have hnext : ∀ {state state' : Nat → Thread → Prop} {h : History Live ThreadEvent} {turn : Turn}, Reporting state h →
      state' (acceptedCount h.events + acceptedCount (turnStep turn h.state).2) (turnStep turn h.state).1.thread →
      Reporting state' (advance turnStep h turn) := fun {_ _ h turn} hh hc =>
    ⟨(turnStep_ready hh.ready turn).1, turnStep_reported hh.ready hh.reported turn, by
      rw [advance, acceptedCount_append]
      exact hc⟩
  have hstart : Reporting Counted start :=
    ⟨ready_start media session, rfl, ⟨⟨rfl, by simp [acceptedCount, recordings, start], by
      simp [acceptedCount, recordings, start]⟩, rfl, fun _ => rfl, by simp [start, Thread.start]⟩⟩
  exact along_or turnStep (fun h turn hh hkeeps => hnext hh ((turnStep_counted hh.ready hh.counters turn).1 hkeeps))
    (fun h turn hh hnot => hnext hh ((turnStep_counted hh.ready hh.counters turn).2 hnot))
    (fun h turn hh => hnext hh (turnStep_missed hh.counters turn)) hstart turns

/-- **The recorded-frame report.** Every run that ends reports once, and the muxer has counted the access units that
`rkmuxer` accepted, the last of them at its place on the timeline. The reported number of recorded frames is that count
exactly when no recorded access unit fails in `send_access_unit`; otherwise it is one less. -/
theorem recorded_reported (media : RTSPMedia) (session : RTSPSession) (turns : List Turn)
    (hexited : (run turnStep ⟨media, session, .start⟩ turns).state.thread.pc = .exited) :
    let h := run turnStep ⟨media, session, .start⟩ turns
    let muxer := h.state.thread.muxer
    ∃ frames recorded gaps, summaries h.events = [(frames, recorded, gaps)] ∧
      muxer.frameCount.toNat = acceptedCount h.events ∧
      (0 < acceptedCount h.events →
        muxer.lastPtsUs = ((acceptedCount h.events - 1) * 1000000 / rtspMediaFps : Nat)) ∧
      (recorded = muxer.frameCount ↔
        Along turnStep (fun h turn => KeepsUp h.state turn) ⟨⟨media, session, .start⟩, []⟩ turns) ∧
      (recorded = muxer.frameCount ∨ recorded + 1 = muxer.frameCount) := by
  intro h muxer
  have hpts : HasAccepted (acceptedCount h.events) muxer → 0 < acceptedCount h.events →
      muxer.lastPtsUs = ((acceptedCount h.events - 1) * 1000000 / rtspMediaFps : Nat) := fun hm hpos => by
    rw [hm.lastPts hpos, timestampUs_eq]
    rfl
  have hone : ∀ {state}, Reporting state h → summaries h.events =
      [(h.state.thread.frameCount, h.state.thread.recordingFrameCount, h.state.thread.sequenceGapCount)] := by
    intro state hh
    have hreported := hh.reported
    rwa [Reported, if_pos hexited] at hreported
  rcases run_reporting media session turns with ⟨hall, hh⟩ | ⟨hnot, hh⟩
  · have hsame : h.state.thread.recordingFrameCount = muxer.frameCount :=
      (hh.counters.count_eq (by rw [hexited]; rfl)).trans hh.counters.muxer.frameCount.symm
    exact ⟨_, _, _, hone hh, hh.counters.muxer.toNat, hpts hh.counters.muxer, iff_of_true hsame hall, .inl hsame⟩
  · have hbehind : h.state.thread.recordingFrameCount + 1 = muxer.frameCount :=
      hh.counters.count.trans hh.counters.muxer.frameCount.symm
    refine ⟨_, _, _, hone hh, hh.counters.muxer.toNat, hpts hh.counters.muxer, iff_of_false ?_ hnot, .inr hbehind⟩
    intro hsame
    have hcount := congrArg UInt64.toNat hbehind
    rw [hsame, UInt64.toNat_add] at hcount
    have hlt := muxer.frameCount.toNat_lt
    have hwrap : (muxer.frameCount.toNat + 1) % 18446744073709551616 = muxer.frameCount.toNat := hcount
    omega

/-- One IDR slice is recorded and sent, then the thread is asked to stop. -/
def stoppedTurns : List Turn :=
  List.replicate 9 (.thread (encodes [0, 0, 0, 1, 0x65, 0x88])) ++
    List.replicate 5 (.thread { encodes [0, 0, 0, 1, 0x65, 0x88] with externalStop := true })

/-- Its recorded frame is reported. -/
theorem recorded_reported_stopped :
    let h := run turnStep ⟨recordingMedia, playSession, .start⟩ stoppedTurns
    summaries h.events = [(1, 1, 0)] ∧ h.state.thread.muxer.frameCount = 1 ∧
      Along turnStep (fun h turn => KeepsUp h.state turn) ⟨⟨recordingMedia, playSession, .start⟩, []⟩ stoppedTurns := by
  intro h
  have hone : summaries h.events = [(1, 1, 0)] := by decide +kernel
  have hcount : h.state.thread.muxer.frameCount = 1 := by decide +kernel
  obtain ⟨frames, recorded, gaps, hs, -, -, hiff, -⟩ :=
    recorded_reported recordingMedia playSession stoppedTurns (by decide +kernel)
  have hrecorded : recorded = 1 := by
    have hs' : [(frames, recorded, gaps)] = [(1, 1, 0)] := hs.symm.trans hone
    simpa using congrArg (·.map (·.2.1)) hs'
  exact ⟨hone, hcount, hiff.mp (hrecorded.trans hcount.symm)⟩

/-- The access unit is recorded, and its first packet cannot be sent. -/
def unsentTurns : List Turn :=
  List.replicate 11 (.thread { encodes [0, 0, 0, 1, 0x65, 0x88] with sendto := fun _ => -1 })

/-- The file has one frame, none is reported. -/
theorem recorded_unreported :
    let h := run turnStep ⟨recordingMedia, playSession, .start⟩ unsentTurns
    h.state.thread.pc = .exited ∧ summaries h.events = [(0, 0, 0)] ∧ acceptedCount h.events = 1 ∧
      h.state.thread.muxer.frameCount = 1 := by
  decide +kernel

end MiniRtsp.Rtsp
