import MiniRtsp.Muxer.MuxerRuns
import MiniRtsp.Rtsp.FreshStart

/-!
# One timeline for RTP and the recording

The thread counts the access units twice: the RTP timestamp in steps of 3000, modulo 2^32, and the frame index of the
recording, from which the presentation time is computed. Over a whole run the muxer has accepted exactly the access
units before the current one (`MuxerAt`, `Tracks`), so the `n`-th access unit is recorded at the time of its RTP
timestamp, and the times increase (`shared_timeline`).
-/

namespace MiniRtsp.Rtsp

open H264 Muxer Rtp Trace

/-! ## Presentation times -/

/-- The time in microseconds of an RTP timestamp that is not reduced. -/
def timestampUs (timestamp : Nat) : Nat := timestamp * 1000000 / rtspMediaRtpClock

theorem timestampUs_eq (n : Nat) : timestampUs (3000 * n) = n * 1000000 / 30 := by
  simp only [timestampUs, rtspMediaRtpClock]
  omega

theorem timestampUs_lt (n : Nat) : timestampUs (3000 * n) < timestampUs (3000 * (n + 1)) := by
  rw [timestampUs_eq, timestampUs_eq]
  omega

/-- The product wraps, the quotient is never negative. -/
theorem recordingPts_nat (i : UInt64) : recordingPts i = (i.toNat * 1000000 % UInt64.size / 30 : Nat) := by
  have hsize : UInt64.size = 18446744073709551616 := rfl
  have hnat : (i * 1000000 / UInt64.ofNat rtspMediaFps).toBitVec.toNat = i.toNat * 1000000 % UInt64.size / 30 := by
    have hfps : (UInt64.ofNat rtspMediaFps).toNat = 30 := rfl
    have hmillion : (1000000 : UInt64).toNat = 1000000 := by decide
    rw [UInt64.toNat_toBitVec, UInt64.toNat_div, UInt64.toNat_mul, hfps, hmillion, hsize]
  change (i * 1000000 / UInt64.ofNat rtspMediaFps).toBitVec.toInt = _
  have hlt := Nat.mod_lt (i.toNat * 1000000) (show 0 < UInt64.size by omega)
  rw [BitVec.toInt_eq_toNat_of_lt (by omega), hnat]

/-- **The presentation time** is that of the RTP timestamp as long as the product does not wrap. -/
theorem recordingPts_eq {n : Nat} (h : n * 1000000 < UInt64.size) :
    recordingPts (UInt64.ofNat n) = timestampUs (3000 * n) := by
  have hindex : (UInt64.ofNat n).toNat = n := UInt64.toNat_ofNat_of_lt' (by omega)
  rw [recordingPts_nat, hindex, Nat.mod_eq_of_lt h, timestampUs_eq]

/-! ## The muxer of a recording -/

/-- The muxer has accepted `n` access units, the last one at its own presentation time. -/
structure MuxerAt (n : Nat) (muxer : Mp4Muxer) : Prop where
  initialized : muxer.initialized = true
  frameCount : muxer.frameCount = UInt64.ofNat n
  lastPts : muxer.lastPtsUs = if n = 0 then -1 else recordingPts (UInt64.ofNat (n - 1))

/-- An accepted write moves the muxer on. -/
theorem MuxerAt.write {n : Nat} {muxer : Mp4Muxer} (h : MuxerAt n muxer) (rkmuxerWrite : Int) (data : Bytes)
    (hok : (mp4MuxerWriteH264 rkmuxerWrite muxer data (recordingPts (UInt64.ofNat n))).error = none) :
    MuxerAt (n + 1) (mp4MuxerWriteH264 rkmuxerWrite muxer data (recordingPts (UInt64.ofNat n))).muxer := by
  have hw := mp4MuxerWriteH264_writing rkmuxerWrite muxer data (recordingPts (UInt64.ofNat n))
  generalize mp4MuxerWriteH264 rkmuxerWrite muxer data (recordingPts (UInt64.ofNat n)) = r at hw hok ⊢
  cases hw with
  | refused e _ => cases hok
  | failed _ _ => cases hok
  | accepted =>
    refine ⟨h.initialized, ?_, ?_⟩
    · simp only [h.frameCount, UInt64.ofNat_add]
      rfl
    · simp

/-- **A write in time** is never refused for its presentation time. -/
theorem MuxerAt.in_time {n : Nat} {muxer : Mp4Muxer} (hm : MuxerAt n muxer) (hn : n * 1000000 < UInt64.size)
    (rkmuxerWrite : Int) (data : Bytes) :
    (mp4MuxerWriteH264 rkmuxerWrite muxer data (recordingPts (UInt64.ofNat n))).error ≠ some .nonIncreasingPts ∧
      ∀ frame, (mp4MuxerWriteH264 rkmuxerWrite muxer data (recordingPts (UInt64.ofNat n))).pushed = some frame →
        frame.ptsUs = timestampUs (3000 * n) := by
  have hpts := recordingPts_eq hn
  constructor
  · intro herr
    have hw := mp4MuxerWriteH264_writing rkmuxerWrite muxer data (recordingPts (UInt64.ofNat n))
    generalize mp4MuxerWriteH264 rkmuxerWrite muxer data (recordingPts (UInt64.ofNat n)) = r at hw herr
    cases hw with
    | failed _ _ => cases herr
    | accepted => cases herr
    | refused e hlast =>
      rw [Option.some.injEq] at herr
      obtain ⟨hpos, hle⟩ := hlast herr
      cases n with
      | zero =>
        rw [hm.frameCount] at hpos
        simp at hpos
      | succ n =>
        -- the frame before was one step of the timeline earlier
        have hlast := hm.lastPts
        have hn' : n * 1000000 < UInt64.size := Nat.lt_of_le_of_lt (by omega) hn
        rw [if_neg (by omega), Nat.add_sub_cancel, recordingPts_eq hn'] at hlast
        have hlt := timestampUs_lt n
        omega
  · intro frame hframe
    rw [pushed_keyFrame hframe]
    exact hpts

/-! ## The thread and its muxer -/

/-- The thread's index of the recording and its muxer, when `n` access units have been given to the muxer. -/
structure Tracks (t : Thread) (n : Nat) : Prop where
  before : t.pc = .initSender ∨ t.pc = .initMuxer → t.recordingFrameCount = 0 ∧ n = 0
  recording : t.pc.hasMuxer = true → t.muxerInitialized = true →
    t.recordingFrameCount + (if t.pc.inSend then 1 else 0) = UInt64.ofNat n ∧ MuxerAt n t.muxer

theorem tracks_start : Tracks .start 0 := ⟨fun _ => ⟨rfl, rfl⟩, fun h => by cases h⟩

/-- Behind `EXIT` nothing is tracked. -/
theorem tracks_of_exiting {t : Thread} (h : t.pc.exiting = true) (n : Nat) : Tracks t n := by
  cases hpc : t.pc with
  | closeSender | closeMuxer | clearPlaying | summary | exited => constructor <;> simp [hpc, ThreadPc.hasMuxer]
  | _ => simp [hpc, ThreadPc.exiting] at h

/-- From one phase with a muxer to the next. -/
theorem Tracks.next {t t' : Thread} {n : Nat} (h : Tracks t n) (hmuxer : t.pc.hasMuxer = true)
    (hmuxer' : t'.pc.hasMuxer = true) (hsend : t'.pc.inSend = t.pc.inSend) (hsame : t'.muxer = t.muxer)
    (hinit : t'.muxerInitialized = t.muxerInitialized) (hcount : t'.recordingFrameCount = t.recordingFrameCount) :
    Tracks t' n where
  before hp := by rcases hp with hp | hp <;> simp [hp, ThreadPc.hasMuxer] at hmuxer'
  recording _ hi := by
    rw [hsend, hsame, hcount]
    exact h.recording hmuxer (hinit ▸ hi)

/-- Where nothing is recorded. -/
theorem Tracks.silent {t' : Thread} {n : Nat} {events : List ThreadEvent} (h : Tracks t' n)
    (hnone : recordings events = []) : Tracks t' (n + (recordings events).length) := by
  rwa [hnone]

theorem beginSend_muxer (media : RTSPMedia) (t : Thread) (u : Bytes) (prepend : Bool) :
    (beginSend media t u prepend).1.muxer = t.muxer := by
  unfold beginSend
  dsimp only
  split
  · unfold Thread.afterSend
    split <;> rfl
  · rfl

/-- The call of `send_access_unit` behind a recording. -/
theorem beginSend_tracks {media : RTSPMedia} {t : Thread} {n : Nat} (u : Bytes) (prepend : Bool)
    (h : t.muxerInitialized = true → t.recordingFrameCount + 1 = UInt64.ofNat n ∧ MuxerAt n t.muxer) :
    Tracks (beginSend media t u prepend).1 n := by
  have hmuxer := beginSend_muxer media t u prepend
  obtain ⟨t', heq, hsame, -, hinit, hpc⟩ := beginSend_spec media t u prepend
  rw [heq] at hmuxer ⊢
  split at hpc
  · exact tracks_of_exiting (by rw [hpc]; rfl) n
  · refine ⟨fun hp => by simp [hpc] at hp, fun _ hi => ?_⟩
    obtain ⟨hcount, hm⟩ := h (hinit ▸ hi)
    rw [hsame.recorded, hpc]
    exact ⟨hcount, hmuxer ▸ hm⟩

/-- **An access unit** is recorded at the next index, before it goes to RTP. -/
theorem deliver_tracks (answers : ThreadAnswers) (media : RTSPMedia) {t : Thread} {n : Nat} (ht : Tracks t n)
    (hpc : t.pc = .capture) (u : Bytes) :
    Tracks (deliver answers media t u).1 (n + (recordings (deliver answers media t u).2).length) := by
  have hphase : t.pc.hasMuxer = true := by rw [hpc]; rfl
  unfold deliver
  dsimp only
  split
  · exact Tracks.silent (ht.next hphase rfl (by rw [hpc]; rfl) rfl rfl rfl) rfl
  · by_cases hmuxer : t.muxerInitialized = true
    · obtain ⟨hcount, hm⟩ := ht.recording hphase hmuxer
      rw [hpc] at hcount
      have hindex : t.recordingFrameCount = UInt64.ofNat n := by simpa [ThreadPc.inSend] using hcount
      rw [if_pos hmuxer]
      cases hwrite : writeMp4AccessUnit answers.malloc answers.rkmuxerWrite media t.muxer u t.recordingFrameCount with
      | none => exact tracks_of_exiting rfl _
      | some r =>
        obtain ⟨data, -, hr⟩ := writeMp4AccessUnit_some hwrite
        rw [hindex] at hr
        dsimp only
        split
        · exact tracks_of_exiting rfl _
        · rename_i hok
          have hm' : MuxerAt (n + 1) r.muxer := by
            subst hr
            exact hm.write _ _ (by simpa using hok)
          have hone : ∀ prepend, recordings (.recording u (some r) ::
              (beginSend media { t with waitingForIdr := false, muxer := r.muxer } u prepend).2) = [(u, some r)] :=
            fun prepend => congrArg (_ :: ·) (beginSend_recordings media _ u prepend)
          dsimp only
          rw [hone]
          exact beginSend_tracks u _ fun _ => ⟨by simp only [hindex, UInt64.ofNat_add]; rfl, hm'⟩
    · rw [if_neg hmuxer]
      exact Tracks.silent (beginSend_tracks u _ fun h => absurd h hmuxer) (beginSend_recordings media _ u _)

theorem captureStep_tracks {answers : ThreadAnswers} {live : Live} {n : Nat} (ht : Tracks live.thread n)
    (hpc : live.thread.pc = .capture) :
    Tracks (captureStep answers live).1.thread (n + (recordings (captureStep answers live).2).length) := by
  unfold captureStep
  dsimp only
  cases (captureAndEncode answers.capture live.media).unit with
  | none => exact tracks_of_exiting rfl _
  | some unit =>
    obtain ⟨hcounters, -, hinit⟩ := live.thread.account_same unit.sequence
    obtain ⟨hmuxer, hpc'⟩ := live.thread.account_muxer unit.sequence
    have htracks : Tracks (live.thread.account unit.sequence) n :=
      ht.next (by rw [hpc]; rfl) (by rw [hpc', hpc]; rfl) (by rw [hpc']) hmuxer hinit hcounters.recorded
    dsimp only
    rw [recordings_returned]
    exact deliver_tracks answers (captureAndEncode answers.capture live.media).media htracks (hpc'.trans hpc) unit.data

/-- A packet, and what follows the last one. -/
theorem sendStep_tracks {answers : ThreadAnswers} {live : Live} {packet : Bytes} {rest : List Bytes} {complete : Bool}
    {n : Nat} (ht : Tracks live.thread n) (hpc : live.thread.pc = .sending (packet :: rest) complete) :
    Tracks (sendStep answers live packet rest complete).1.thread
      (n + (recordings (sendStep answers live packet rest complete).2).length) := by
  have hphase : live.thread.pc.hasMuxer = true := by rw [hpc]; rfl
  unfold sendStep
  dsimp only
  split
  · exact tracks_of_exiting rfl _
  · split
    · unfold Thread.afterSend
      cases complete with
      | false => exact tracks_of_exiting rfl _
      | true =>
        refine Tracks.silent ⟨by simp, fun _ hi => ?_⟩ (by simp only [if_true, recordings_append, recordings_sent]; rfl)
        obtain ⟨hcount, hm⟩ := ht.recording hphase hi
        rw [hpc] at hcount
        have hi' : live.thread.muxerInitialized = true := hi
        refine ⟨?_, hm⟩
        simp only [if_true, hi', ← hcount, ThreadPc.inSend]
        simp
    · exact Tracks.silent (ht.next hphase rfl (by rw [hpc]; rfl) rfl rfl rfl) (recordings_sent _)

/-- **A turn** keeps track of the recording. -/
theorem turnStep_tracks {live : Live} (hready : Ready live) {n : Nat} (ht : Tracks live.thread n) (turn : Turn) :
    Tracks (turnStep turn live).1.thread (n + (recordings (turnStep turn live).2).length) := by
  cases turn with
  | server stopRequested session => exact ht
  | thread answers =>
    simp only [turnStep, threadStep]
    cases hpc : live.thread.pc with
    | initSender =>
      refine Tracks.silent ?_ (recordings_uses _)
      have hfresh := hready.fresh (.inl hpc)
      unfold openSender
      dsimp only
      refine ⟨fun _ => ht.before (.inl hpc), fun _ hi => ?_⟩
      rw [hfresh] at hi
      cases hi
    | initMuxer =>
      refine Tracks.silent ?_ rfl
      obtain ⟨hzero, rfl⟩ := ht.before (.inr hpc)
      rcases hinit : mp4MuxerInit answers.rkmuxerInit live.thread.muxer liveMuxerId live.media.recordPath
        rtspMediaWidth rtspMediaHeight rtspMediaFps rtspMediaBitRate with ⟨muxer, ok⟩
      unfold openMuxer
      rw [hinit]
      cases ok with
      | false => exact tracks_of_exiting rfl 0
      | true =>
        have hm := mp4MuxerInit_some hinit
        refine ⟨by simp, fun _ _ => ⟨?_, ?_⟩⟩
        · change live.thread.recordingFrameCount + 0 = _
          rw [hzero]
          rfl
        · rw [show muxer = _ from hm]
          exact ⟨rfl, rfl, rfl⟩
    | consume => exact ht.next (by rw [hpc]; rfl) rfl (by rw [hpc]; rfl) rfl rfl rfl
    | drain | loopHead =>
      refine Tracks.silent ?_ rfl
      dsimp only
      split
      · exact ht.next (by rw [hpc]; rfl) rfl (by rw [hpc]; rfl) rfl rfl rfl
      · exact tracks_of_exiting rfl n
    | capture => exact captureStep_tracks ht hpc
    | sending packets complete =>
      cases packets with
      | nil => exact absurd hpc (hready.pending complete)
      | cons packet rest => exact sendStep_tracks ht hpc
    | closeSender | closeMuxer | clearPlaying | summary => exact tracks_of_exiting rfl _
    | exited => exact ht

/-! ## Runs -/

/-- **Every run** keeps track of the recording. -/
theorem run_tracks (media : RTSPMedia) (session : RTSPSession) (turns : List Turn) :
    Ready (run turnStep ⟨media, session, .start⟩ turns).state ∧
      Tracks (run turnStep ⟨media, session, .start⟩ turns).state.thread
        (recordings (run turnStep ⟨media, session, .start⟩ turns).events).length := by
  refine run_induction turnStep (P := fun h => Ready h.state ∧ Tracks h.state.thread (recordings h.events).length)
    ⟨ready_start media session, tracks_start⟩ fun past turn _ ⟨hready, htracks⟩ => ?_
  refine ⟨(turnStep_ready hready turn).1, ?_⟩
  simpa [advance] using turnStep_tracks hready htracks turn

/-- **A recording** is given what RTP is given, and at most one access unit more. -/
theorem recordings_calls {media : RTSPMedia} (hrecording : media.recordingEnabled = true) (session : RTSPSession)
    (turns : List Turn) :
    let events := (run turnStep ⟨media, session, .start⟩ turns).events
    ∃ more : List Bytes, more.length ≤ 1 ∧
      (recordings events).map (·.1) = (calls events).map (·.accessUnit) ++ more := by
  intro events
  have hgiven := (run_fresh media session turns).given
  rw [hrecording] at hgiven
  rw [calls_eq_deliveries, recordings_eq_deliveries]
  rcases hgiven with h | ⟨-, -, past, u, -, h⟩
  · exact ⟨[], by simp, by rw [h, due_rtp, due_muxer, List.append_nil]⟩
  · refine ⟨[u], by simp, ?_⟩
    rw [h, List.filter_append, List.filter_append, List.map_append, List.map_append, due_rtp, due_muxer]
    simp

/-- **RTP and the recording share one timeline.** In every run that records, the `n`-th access unit given to the muxer is
the `n`-th given to RTP, with RTP timestamp `3000 n` modulo 2^32; it is written to the thread's muxer, which has accepted
the `n` access units before it, at the microseconds of the unreduced timestamp, and never refused for a negative or
non-increasing presentation time, for every `n` up to which the product with 10^6 fits into 64 bits. -/
theorem shared_timeline {media : RTSPMedia} (hrecording : media.recordingEnabled = true) (session : RTSPSession)
    (turns : List Turn) :
    let events := (run turnStep ⟨media, session, .start⟩ turns).events
    (calls events).length ≤ (recordings events).length ∧ (recordings events).length ≤ (calls events).length + 1 ∧
    ∀ n u result, n * 1000000 < UInt64.size → (recordings events)[n]? = some (u, result) →
      (∀ c, (calls events)[n]? = some c → c.accessUnit = u ∧ c.timestamp.toNat = 3000 * n % UInt32.size) ∧
      ∃ past answers, past ++ [.thread answers] <+: turns ∧
        GivenToMuxer media (run turnStep ⟨media, session, .start⟩ past) answers n u result ∧
        MuxerAt n (run turnStep ⟨media, session, .start⟩ past).state.thread.muxer ∧
        ∀ r, result = some r →
          (∃ data, r = mp4MuxerWriteH264 answers.rkmuxerWrite
            (run turnStep ⟨media, session, .start⟩ past).state.thread.muxer data (3000 * n * 1000000 / 90000 : Nat)) ∧
          (∀ frame, r.pushed = some frame → frame.ptsUs = (3000 * n * 1000000 / 90000 : Nat)) ∧
          r.error ≠ some .nonIncreasingPts := by
  intro events
  obtain ⟨more, hmore, hunits⟩ : ∃ more : List Bytes, more.length ≤ 1 ∧
      (recordings events).map (·.1) = (calls events).map (·.accessUnit) ++ more :=
    recordings_calls hrecording session turns
  have hlength := congrArg List.length hunits
  rw [List.length_append, List.length_map, List.length_map] at hlength
  have hprogress : Progress media False _ (calls events) (unitPackets events) _ :=
    (@run_numbering media session turns False False.elim).progress
  refine ⟨by omega, by omega, ?_⟩
  intro n u result hbound hu
  constructor
  · intro c hc
    have hlt := (List.getElem?_eq_some_iff.mp hc).1
    have hu' : ((recordings events).map (·.1))[n]? = ((calls events).map (·.accessUnit))[n]? := by
      rw [hunits, List.getElem?_append_left (by rw [List.length_map]; exact hlt)]
    rw [List.getElem?_map, List.getElem?_map, hu, hc] at hu'
    refine ⟨by simpa using hu'.symm, ?_⟩
    have hunits' := hprogress.length_eq.1
    obtain ⟨c', rest, hc', sends, -, -⟩ := hprogress.get (List.getElem?_eq_getElem (hunits' ▸ hlt))
    rw [hc, Option.some.injEq] at hc'
    rw [hc', sends.timestamp, UInt32.toNat_ofNat']
  · obtain ⟨past, answers, hpast, hgiven⟩ := recordings_made media session hu
    -- the thread's index is the number of recordings before
    obtain ⟨hindex, hm⟩ := (run_tracks media session past).2.recording
      (by rw [hgiven.recorded.pc]; rfl) hgiven.recorded.muxer
    rw [hgiven.recorded.pc, hgiven.count] at hindex
    rw [hgiven.count] at hm
    refine ⟨past, answers, hpast, hgiven, hm, ?_⟩
    intro r hr
    obtain ⟨data, -, hwrite⟩ := hgiven.written r hr
    replace hindex : (run turnStep ⟨media, session, .start⟩ past).state.thread.recordingFrameCount = UInt64.ofNat n := by
      simpa [ThreadPc.inSend] using hindex
    rw [hindex] at hwrite
    obtain ⟨hok, hpts⟩ := hm.in_time hbound answers.rkmuxerWrite data
    rw [← hwrite] at hok hpts
    rw [recordingPts_eq hbound] at hwrite
    exact ⟨⟨data, hwrite⟩, hpts, hok⟩

/-- Two IDR slices are recorded, the second one at 33333 microseconds. -/
theorem shared_timeline_idr :
    let events := (run turnStep ⟨recordingMedia, playSession, .start⟩
      (List.replicate 13 (.thread (encodes [0, 0, 0, 1, 0x65, 0x88])))).events
    (recordings events).length = 2 ∧ ∀ u r frame, (recordings events)[1]? = some (u, some r) →
      r.pushed = some frame → frame.ptsUs = 33333 := by
  intro events
  have timeline := @shared_timeline recordingMedia rfl playSession
    (List.replicate 13 (.thread (encodes [0, 0, 0, 1, 0x65, 0x88])))
  refine ⟨by decide +kernel, fun u r frame hu hframe => ?_⟩
  obtain ⟨past, answers, -, -, -, hwritten⟩ := (timeline.2.2 1 u (some r) (by decide) hu).2
  exact (hwritten r rfl).2.1 frame hframe

end MiniRtsp.Rtsp
