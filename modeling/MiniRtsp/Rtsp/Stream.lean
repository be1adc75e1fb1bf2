import MiniRtsp.Lib.Trace
import MiniRtsp.Rtsp.AccessUnit
import MiniRtsp.Rtsp.MediaThread
import MiniRtsp.Rtsp.Recording

/-!
# What the media thread does in one step

`Effect` says once what a step can do, in the terms of the stream: nothing (`quiet`), skip an access unit, fail to
record one, hand one to `send_access_unit`, send a packet or fail to (`turnStep_effect`). The socket is open and the
recording runs in the phases that need them (`Ready`). The invariants of whole runs are proved from the two.
-/

namespace MiniRtsp.Rtsp

open Attempt Ledger Capture Encoder H264 Muxer Rtp

/-! ## Events -/

/-- Events that concern neither the access units nor the packets. -/
def ThreadEvent.silent : ThreadEvent → Bool
  | .use _ => true
  | .summary _ _ _ => true
  | _ => false

/-- A call of `send_access_unit`. -/
structure Call where
  accessUnit : Bytes
  timestamp : UInt32
  prepend : Bool
  deriving DecidableEq, Repr

/-- The access units the encoder returned. -/
def returned (events : List ThreadEvent) : List Bytes :=
  events.filterMap fun | .returned unit => some unit.data | _ => none

/-- The calls of `send_access_unit`. -/
def calls (events : List ThreadEvent) : List Call :=
  events.filterMap fun | .streaming u timestamp prepend => some ⟨u, timestamp, prepend⟩ | _ => none

/-- The packets sent. -/
def sentPackets (events : List ThreadEvent) : List Bytes :=
  events.filterMap fun | .sent d => some d.packet | _ => none

/-- The number of access units sent completely. -/
def streamedCount (events : List ThreadEvent) : Nat :=
  events.countP fun | .streamed => true | _ => false

/-- The access units handed to the recording, and what came of it. -/
def recordings (events : List ThreadEvent) : List (Bytes × Option WriteResult) :=
  events.filterMap fun | .recording u result => some (u, result) | _ => none

inductive Sink where
  | muxer
  | rtp
  deriving DecidableEq, Repr

/-- The access units given to the muxer and to RTP, in time order. -/
def deliveries (events : List ThreadEvent) : List (Sink × Bytes) :=
  events.filterMap fun | .recording u _ => some (.muxer, u) | .streaming u _ _ => some (.rtp, u) | _ => none

/-- The packets of the calls, one list a call. -/
def notePacket : List (List Bytes) → ThreadEvent → List (List Bytes)
  | units, .streaming _ _ _ => units ++ [[]]
  | units, .sent d =>
    match units.getLast? with
    | some last => units.dropLast ++ [last ++ [d.packet]]
    | none => [[d.packet]]
  | units, _ => units

/-- The packets sent, grouped by the call of `send_access_unit` that sent them. -/
def unitPackets (events : List ThreadEvent) : List (List Bytes) := events.foldl notePacket []

@[simp] theorem returned_append (es fs : List ThreadEvent) : returned (es ++ fs) = returned es ++ returned fs := by
  simp [returned]

@[simp] theorem calls_append (es fs : List ThreadEvent) : calls (es ++ fs) = calls es ++ calls fs := by
  simp [calls]

@[simp] theorem sentPackets_append (es fs : List ThreadEvent) :
    sentPackets (es ++ fs) = sentPackets es ++ sentPackets fs := by
  simp [sentPackets]

@[simp] theorem streamedCount_append (es fs : List ThreadEvent) :
    streamedCount (es ++ fs) = streamedCount es + streamedCount fs := by
  simp [streamedCount]

@[simp] theorem recordings_append (es fs : List ThreadEvent) :
    recordings (es ++ fs) = recordings es ++ recordings fs := by
  simp [recordings]

@[simp] theorem deliveries_append (es fs : List ThreadEvent) :
    deliveries (es ++ fs) = deliveries es ++ deliveries fs := by
  simp [deliveries]

theorem unitPackets_append (es fs : List ThreadEvent) :
    unitPackets (es ++ fs) = fs.foldl notePacket (unitPackets es) := by
  simp [unitPackets]

/-- Silent events leave every observation as it was. -/
theorem silent_events {es : List ThreadEvent} (h : ∀ e ∈ es, e.silent = true) :
    returned es = [] ∧ calls es = [] ∧ sentPackets es = [] ∧ streamedCount es = 0 ∧ recordings es = [] ∧
      deliveries es = [] ∧ ∀ units, es.foldl notePacket units = units := by
  induction es with
  | nil => simp [returned, calls, sentPackets, streamedCount, recordings, deliveries]
  | cons e es ih =>
    have hes := ih fun x hx => h x (by simp [hx])
    have he := h e (by simp)
    cases e with
    | use u => exact hes
    | summary f r g => exact hes
    | _ => cases he

/-- What RTP was given are the calls. -/
theorem calls_eq_deliveries (es : List ThreadEvent) :
    (calls es).map (·.accessUnit) = ((deliveries es).filter (·.1 == .rtp)).map (·.2) := by
  induction es with
  | nil => rfl
  | cons e es ih => cases e <;> simpa [calls, deliveries] using ih

/-- What the muxer was given are the recordings. -/
theorem recordings_eq_deliveries (es : List ThreadEvent) :
    (recordings es).map (·.1) = ((deliveries es).filter (·.1 == .muxer)).map (·.2) := by
  induction es with
  | nil => rfl
  | cons e es ih => cases e <;> simpa [recordings, deliveries] using ih

/-! ## Phases -/

/-- The thread is behind `EXIT`. -/
def ThreadPc.exiting : ThreadPc → Bool
  | .closeSender | .closeMuxer | .clearPlaying | .summary | .exited => true
  | _ => false

/-- The thread is in `send_access_unit`. -/
def ThreadPc.inSend : ThreadPc → Bool
  | .sending _ _ => true
  | _ => false

/-- The RTP socket has been opened. -/
def ThreadPc.hasSocket : ThreadPc → Bool
  | .initMuxer | .drain | .consume | .loopHead | .capture | .sending _ _ => true
  | _ => false

/-- The muxer has been opened, if there is a recording. -/
def ThreadPc.hasMuxer : ThreadPc → Bool
  | .drain | .consume | .loopHead | .capture | .sending _ _ => true
  | _ => false

/-- What the phases rely on. -/
structure Ready (live : Live) : Prop where
  socket : live.thread.pc.hasSocket = true → 0 ≤ live.media.sender.sockfd
  muxer : live.thread.pc.hasMuxer = true → live.thread.muxerInitialized = live.media.recordingEnabled
  fresh : live.thread.pc = .initSender ∨ live.thread.pc = .initMuxer → live.thread.muxerInitialized = false
  recording : live.thread.pc = .initMuxer → live.media.recordingEnabled = true
  pending : ∀ complete, live.thread.pc ≠ .sending [] complete

/-- The locals that number the stream. -/
structure Thread.SameCounters (t t' : Thread) : Prop where
  seq : t'.seq = t.seq
  timestamp : t'.timestamp = t.timestamp
  recorded : t'.recordingFrameCount = t.recordingFrameCount

/-- The parts of the pipeline that the thread only reads. -/
structure RTSPMedia.SameSets (media media' : RTSPMedia) : Prop where
  sps : media'.sps = media.sps
  pps : media'.pps = media.pps
  recording : media'.recordingEnabled = media.recordingEnabled

theorem RTSPMedia.SameSets.refl (media : RTSPMedia) : media.SameSets media := ⟨rfl, rfl, rfl⟩

theorem RTSPMedia.SameSets.trans {media media' media'' : RTSPMedia} (h : media.SameSets media')
    (h' : media'.SameSets media'') : media.SameSets media'' :=
  ⟨h'.sps.trans h.sps, h'.pps.trans h.pps, h'.recording.trans h.recording⟩

/-- Only the parameter sets of the pipeline matter to the plan. -/
theorem accessUnitPlan_congr {media media' : RTSPMedia} (h : media.SameSets media') (u : Bytes) (prepend : Bool) :
    accessUnitPlan media' u prepend = accessUnitPlan media u prepend := by
  simp only [accessUnitPlan, h.sps, h.pps]

theorem captureAndEncode_sets (answers : CaptureAnswers) (media : RTSPMedia) :
    media.SameSets (captureAndEncode answers media).media ∧
      (captureAndEncode answers media).media.sender = media.sender := by
  unfold captureAndEncode
  dsimp only
  repeat' split
  all_goals exact ⟨⟨rfl, rfl, rfl⟩, rfl⟩

/-! ## The packets of a call -/

theorem attempt_record (packets : List Bytes) (context : List Bytes) :
    attempt (callback record) packets context = ⟨context ++ packets, packets.length, true⟩ := by
  have hstep : ∀ (c : List Bytes) (p : Bytes), callback record c p = (c ++ [p], true) := by
    intro c p
    simp [callback, record]
  induction packets generalizing context with
  | nil => simp
  | cons p packets ih =>
    rw [attempt_cons_ok (by rw [hstep]), hstep, ih]
    simp

/-- **The packets noted** are those of the plan. -/
theorem sendAccessUnit_record (media : RTSPMedia) (u : Bytes) (timestamp : UInt32) (prepend : Bool) (seq : UInt16) :
    (sendAccessUnit record media u timestamp prepend seq []).context =
        numbered timestamp seq (accessUnitPlan media u prepend).payloads ∧
      (sendAccessUnit record media u timestamp prepend seq []).ret.isSome =
        (accessUnitPlan media u prepend).complete := by
  rw [sendAccessUnit_plan, Plan.perform, attempt_record]
  refine ⟨by simp, ?_⟩
  cases (accessUnitPlan media u prepend).complete <;> simp

/-- **The call of `send_access_unit`** takes up the packets of the plan, if there are any. -/
theorem beginSend_spec (media : RTSPMedia) (t : Thread) (u : Bytes) (prepend : Bool) :
    ∃ t', beginSend media t u prepend = (t', [.streaming u t.timestamp prepend]) ∧ t.SameCounters t' ∧
      t'.waitingForIdr = t.waitingForIdr ∧ t'.muxerInitialized = t.muxerInitialized ∧
      t'.pc = if (accessUnitPlan media u prepend).payloads = [] then .closeSender
        else .sending (numbered t.timestamp t.seq (accessUnitPlan media u prepend).payloads)
          (accessUnitPlan media u prepend).complete := by
  obtain ⟨hcontext, hret⟩ := sendAccessUnit_record media u t.timestamp prepend t.seq
  have hnil : numbered t.timestamp t.seq (accessUnitPlan media u prepend).payloads = [] ↔
      (accessUnitPlan media u prepend).payloads = [] := by
    rw [← List.length_eq_zero_iff, length_numbered, List.length_eq_zero_iff]
  unfold beginSend
  dsimp only
  rw [hcontext, hret]
  by_cases hplan : (accessUnitPlan media u prepend).payloads = []
  · have hcomplete : (accessUnitPlan media u prepend).complete = false := by
      by_contra h
      exact accessUnitPlan_ne_nil (by simpa using h) hplan
    rw [if_pos (hnil.mpr hplan), if_pos hplan, hcomplete]
    exact ⟨_, rfl, ⟨rfl, rfl, rfl⟩, rfl, rfl, rfl⟩
  · rw [if_neg (mt hnil.mp hplan), if_neg hplan]
    exact ⟨_, rfl, ⟨rfl, rfl, rfl⟩, rfl, rfl, rfl⟩

/-! ## What is written to the muxer -/

/-- `pts_us` of `write_mp4_access_unit`. -/
def recordingPts (recordingFrameIndex : UInt64) : Int :=
  (recordingFrameIndex * 1000000 / UInt64.ofNat rtspMediaFps).toInt64.toInt

/-- What `write_mp4_access_unit` hands to `mp4_muxer_write_h264` of an access unit: the access unit, behind the stored
parameter sets only if it is the first one and lacks one of them. -/
def WrittenAs (media : RTSPMedia) (recordingFrameIndex : UInt64) (u data : Bytes) : Prop :=
  data = u ∨ recordingFrameIndex = 0 ∧
    ¬(h264AnnexbContainsType u nalSps = true ∧ h264AnnexbContainsType u nalPps = true) ∧
    ∃ sps pps, media.sps = some sps ∧ media.pps = some pps ∧
      data = annexbStartCode ++ sps ++ annexbStartCode ++ pps ++ u

theorem writeMp4AccessUnit_some {malloc : Bool} {rkmuxerWrite : Int} {media : RTSPMedia} {muxer : Mp4Muxer} {u : Bytes}
    {i : UInt64} {r : WriteResult} (h : writeMp4AccessUnit malloc rkmuxerWrite media muxer u i = some r) :
    ∃ data, WrittenAs media i u data ∧ r = mp4MuxerWriteH264 rkmuxerWrite muxer data (recordingPts i) := by
  unfold writeMp4AccessUnit at h
  obtain ⟨start, hstart, rfl⟩ := Option.map_eq_some_iff.mp h
  refine ⟨start.writeData, ?_, rfl⟩
  split at hstart
  · rename_i hfirst
    rcases (buildCompleteMp4StartAu_some hstart).2 with ⟨-, -, hsame⟩ | ⟨hlacks, hcompleted⟩
    · exact .inl hsame
    · exact .inr ⟨hfirst, hlacks, hcompleted⟩
  · cases hstart
    exact .inl rfl

/-- The first frame of a recording has presentation time 0. -/
theorem writeMp4AccessUnit_first {malloc : Bool} {rkmuxerWrite : Int} {media : RTSPMedia} {muxer : Mp4Muxer} {u : Bytes}
    {r : WriteResult} {frame : VideoFrame} (h : writeMp4AccessUnit malloc rkmuxerWrite media muxer u 0 = some r)
    (hframe : r.pushed = some frame) : frame.ptsUs = 0 := by
  unfold writeMp4AccessUnit at h
  obtain ⟨start, -, rfl⟩ := Option.map_eq_some_iff.mp h
  unfold mp4MuxerWriteH264 at hframe
  dsimp only at hframe
  repeat' split at hframe
  all_goals cases hframe
  all_goals
    have hzero : (0 * 1000000 / UInt64.ofNat rtspMediaFps).toInt64.toInt = 0 := by decide
    exact hzero

/-! ## The effect of a step -/

/-- The packet is sent in this turn. -/
def Turn.Sends : Turn → Bytes → Prop
  | .thread answers, packet => answers.sendto packet = packet.length
  | .server _ _, _ => True

/-- While nothing has been recorded, what is recorded has presentation time 0. -/
def Thread.RecordsAtZero (t : Thread) (events : List ThreadEvent) : Prop :=
  t.recordingFrameCount = 0 → ∀ u r frame, .recording u (some r) ∈ events → r.pushed = some frame → frame.ptsUs = 0

/-- **What becomes of an access unit.** -/
inductive Delivered (media : RTSPMedia) (t t' : Thread) (u : Bytes) : List ThreadEvent → Prop where
  /-- No IDR slice yet. -/
  | skipped (waits : t.waitingForIdr = true) (noIdr : h264AnnexbContainsType u nalIdr = false)
      (same : t.SameCounters t') (waiting : t'.waitingForIdr = true) (next : t'.pc = .loopHead) :
      Delivered media t t' u []
  /-- The recording failed. -/
  | refused {result : Option WriteResult} (idr : t.waitingForIdr = true → h264AnnexbContainsType u nalIdr = true)
      (muxer : t.muxerInitialized = true) (timed : t.RecordsAtZero [.recording u result])
      (next : t'.pc = .closeSender) : Delivered media t t' u [.recording u result]
  /-- `send_access_unit` was called. -/
  | began {recorded : List ThreadEvent} (idr : t.waitingForIdr = true → h264AnnexbContainsType u nalIdr = true)
      (records : t.muxerInitialized = true ∧ (∃ r, recorded = [.recording u (some r)]) ∨
        t.muxerInitialized = false ∧ recorded = [])
      (timed : t.RecordsAtZero recorded) (same : t.SameCounters t') (waiting : t'.waitingForIdr = false)
      (next : t'.pc =
        if (accessUnitPlan media u t.waitingForIdr).payloads = [] then .closeSender
        else .sending (numbered t.timestamp t.seq (accessUnitPlan media u t.waitingForIdr).payloads)
          (accessUnitPlan media u t.waitingForIdr).complete) :
      Delivered media t t' u (recorded ++ [.streaming u t.timestamp t.waitingForIdr])

/-- **What a step does** to the stream. -/
inductive Effect (turn : Turn) (live live' : Live) : List ThreadEvent → Prop where
  /-- The server moved, or the thread is over. -/
  | beside (same : live'.thread = live.thread) : Effect turn live live' []
  | quiet {events : List ThreadEvent} (silent : ∀ e ∈ events, e.silent = true)
      (same : live.thread.SameCounters live'.thread) (waiting : live'.thread.waitingForIdr = live.thread.waitingForIdr)
      (before : live.thread.pc.inSend = false) (after : live'.thread.pc.inSend = false)
      (exit : live.thread.pc.exiting = true → live'.thread.pc.exiting = true) : Effect turn live live' events
  /-- The encoder returned an access unit. -/
  | delivered {uses events : List ThreadEvent} {unit : Captured} (silent : ∀ e ∈ uses, e.silent = true)
      (pc : live.thread.pc = .capture) (length : 0 < unit.data.length ∧ unit.data.length ≤ intMax)
      (delivered : Delivered live.media live.thread live'.thread unit.data events) :
      Effect turn live live' (uses ++ .returned unit :: events)
  | sent {packet : Bytes} {rest : List Bytes} {complete : Bool}
      (pc : live.thread.pc = .sending (packet :: rest) complete) (more : rest ≠ [])
      (seq : live'.thread.seq = live.thread.seq + 1)
      (timestamp : live'.thread.timestamp = live.thread.timestamp)
      (waiting : live'.thread.waitingForIdr = live.thread.waitingForIdr)
      (next : live'.thread.pc = .sending rest complete) :
      Effect turn live live' [.sent ⟨live.media.sender.remoteAddr, packet⟩]
  /-- The last packet was sent. -/
  | finished {packet : Bytes} (pc : live.thread.pc = .sending [packet] true)
      (seq : live'.thread.seq = live.thread.seq + 1)
      (timestamp : live'.thread.timestamp = live.thread.timestamp + timestampStep)
      (waiting : live'.thread.waitingForIdr = live.thread.waitingForIdr) (next : live'.thread.pc = .loopHead) :
      Effect turn live live' [.sent ⟨live.media.sender.remoteAddr, packet⟩, .streamed]
  /-- The last packet was sent that the access unit let form. -/
  | broken {packet : Bytes} (pc : live.thread.pc = .sending [packet] false) (next : live'.thread.pc = .closeSender) :
      Effect turn live live' [.sent ⟨live.media.sender.remoteAddr, packet⟩]
  | failed {packet : Bytes} {rest : List Bytes} {complete : Bool} {events : List ThreadEvent}
      (pc : live.thread.pc = .sending (packet :: rest) complete)
      (failure : packet = [] ∨ live.media.sender.sockfd < 0 ∨ ¬turn.Sends packet)
      (short : events = [] ∨ events = [.sent ⟨live.media.sender.remoteAddr, packet⟩])
      (next : live'.thread.pc = .closeSender) : Effect turn live live' events

theorem uses_silent (uses : List (Use Resource)) : ∀ e ∈ uses.map ThreadEvent.use, e.silent = true := by
  intro e he
  obtain ⟨u, -, rfl⟩ := List.mem_map.mp he
  rfl

theorem recordings_uses (uses : List (Use Resource)) : recordings (uses.map .use) = [] :=
  (silent_events (uses_silent uses)).2.2.2.2.1

theorem recordings_sent (ds : List Datagram) : recordings (ds.map .sent) = [] :=
  Trace.filterMap_unseen (fun _ => rfl) ds

/-- An access unit that is not skipped is prepended the parameter sets whenever the thread has waited. -/
theorem prepend_eq {waiting isIdr : Bool} (hidr : waiting = true → isIdr = true) : (waiting && isIdr) = waiting := by
  cases waiting with
  | false => rfl
  | true => rw [hidr rfl]; rfl

theorem deliver_delivered (answers : ThreadAnswers) (media : RTSPMedia) (t : Thread) (u : Bytes) :
    Delivered media t (deliver answers media t u).1 u (deliver answers media t u).2 ∧
      (deliver answers media t u).1.muxerInitialized = t.muxerInitialized := by
  unfold deliver
  dsimp only
  by_cases hskip : (t.waitingForIdr && !h264AnnexbContainsType u nalIdr) = true
  · rw [if_pos hskip]
    rw [Bool.and_eq_true, Bool.not_eq_true'] at hskip
    exact ⟨.skipped hskip.1 hskip.2 ⟨rfl, rfl, rfl⟩ hskip.1 rfl, rfl⟩
  · rw [if_neg hskip]
    have hidr : t.waitingForIdr = true → h264AnnexbContainsType u nalIdr = true := by
      intro hw
      simpa [hw] using hskip
    rw [prepend_eq hidr]
    by_cases hmuxer : t.muxerInitialized = true
    · rw [if_pos hmuxer]
      cases hwrite : writeMp4AccessUnit answers.malloc answers.rkmuxerWrite media t.muxer u t.recordingFrameCount with
      | none =>
        exact ⟨.refused hidr hmuxer (fun _ u' r frame hmem => by simp at hmem) rfl, rfl⟩
      | some r =>
        have htimed : t.RecordsAtZero [.recording u (some r)] := by
          intro hzero u' r' frame hmem hframe
          rw [hzero] at hwrite
          rw [List.mem_singleton, ThreadEvent.recording.injEq, Option.some.injEq] at hmem
          rw [hmem.2] at hframe
          exact writeMp4AccessUnit_first hwrite hframe
        dsimp only
        split
        · exact ⟨.refused hidr hmuxer htimed rfl, rfl⟩
        · obtain ⟨t', heq, hsame, hwaiting, hinit, hnext⟩ :=
            beginSend_spec media { t with waitingForIdr := false, muxer := r.muxer } u t.waitingForIdr
          rw [heq]
          have hbegan : Delivered media t t' u
              ([.recording u (some r)] ++ [.streaming u t.timestamp t.waitingForIdr]) :=
            .began hidr (.inl ⟨hmuxer, r, rfl⟩) htimed ⟨hsame.seq, hsame.timestamp, hsame.recorded⟩ hwaiting hnext
          exact ⟨hbegan, hinit⟩
    · rw [if_neg hmuxer]
      obtain ⟨t', heq, hsame, hwaiting, hinit, hnext⟩ :=
        beginSend_spec media { t with waitingForIdr := false } u t.waitingForIdr
      rw [heq]
      have hbegan : Delivered media t t' u ([] ++ [.streaming u t.timestamp t.waitingForIdr]) :=
        .began hidr (.inr ⟨by simpa using hmuxer, rfl⟩) (fun _ u' r frame hmem => by cases hmem)
          ⟨hsame.seq, hsame.timestamp, hsame.recorded⟩ hwaiting hnext
      exact ⟨hbegan, hinit⟩

theorem Thread.account_same (t : Thread) (captureSequence : UInt32) :
    t.SameCounters (t.account captureSequence) ∧ (t.account captureSequence).waitingForIdr = t.waitingForIdr ∧
      (t.account captureSequence).muxerInitialized = t.muxerInitialized := by
  unfold Thread.account
  dsimp only
  repeat' split
  all_goals exact ⟨⟨rfl, rfl, rfl⟩, rfl, rfl⟩

/-- What the thread did to its locals and to the encoder before makes no difference. -/
theorem Delivered.congr {media media' : RTSPMedia} {t₀ t t' : Thread} {u : Bytes} {events : List ThreadEvent}
    (h : Delivered media' t t' u events) (hsets : media.SameSets media') (hcounters : t₀.SameCounters t)
    (hwaiting : t.waitingForIdr = t₀.waitingForIdr) (hmuxer : t.muxerInitialized = t₀.muxerInitialized) :
    Delivered media t₀ t' u events := by
  have hsame : t.SameCounters t' → t₀.SameCounters t' := fun h =>
    ⟨h.seq.trans hcounters.seq, h.timestamp.trans hcounters.timestamp, h.recorded.trans hcounters.recorded⟩
  have htimed : ∀ {events}, t.RecordsAtZero events → t₀.RecordsAtZero events := fun h hzero =>
    h (hcounters.recorded.trans hzero)
  cases h with
  | skipped waits noIdr same waiting next => exact .skipped (hwaiting ▸ waits) noIdr (hsame same) waiting next
  | refused idr muxer timed next => exact .refused (hwaiting ▸ idr) (hmuxer ▸ muxer) (htimed timed) next
  | began idr records timed same waiting next =>
    rw [accessUnitPlan_congr hsets, hwaiting, hcounters.timestamp, hcounters.seq] at next
    rw [hwaiting, hcounters.timestamp]
    exact .began (hwaiting ▸ idr) (hmuxer ▸ records) (htimed timed) (hsame same) waiting next

theorem captureStep_effect {answers : ThreadAnswers} {live : Live} (hpc : live.thread.pc = .capture) :
    Effect (.thread answers) live (captureStep answers live).1 (captureStep answers live).2 := by
  unfold captureStep
  dsimp only
  have hsilent := uses_silent (captureAndEncode answers.capture live.media).uses
  cases hunit : (captureAndEncode answers.capture live.media).unit with
  | none =>
    exact .quiet hsilent ⟨rfl, rfl, rfl⟩ rfl (by rw [hpc]; rfl) rfl (by simp [hpc, ThreadPc.exiting])
  | some unit =>
    obtain ⟨hcounters, hwaiting, hmuxer⟩ := live.thread.account_same unit.sequence
    have hdelivered := (deliver_delivered answers (captureAndEncode answers.capture live.media).media
      (live.thread.account unit.sequence) unit.data).1
    exact .delivered hsilent hpc (captureAndEncode_length hunit)
      (hdelivered.congr (captureAndEncode_sets answers.capture live.media).1 hcounters hwaiting hmuxer)

theorem sendStep_effect {answers : ThreadAnswers} {live : Live} {packet : Bytes} {rest : List Bytes} {complete : Bool}
    (hpc : live.thread.pc = .sending (packet :: rest) complete) :
    Effect (.thread answers) live (sendStep answers live packet rest complete).1
      (sendStep answers live packet rest complete).2 := by
  unfold sendStep
  rcases rtpSenderSend_cases (fun _ p => answers.sendto p) live.media.sender [] packet with
    ⟨heq, -, -, -⟩ | ⟨hret, hfail, hnet⟩
  · rw [heq]
    dsimp only
    rw [if_neg (by omega)]
    by_cases hrest : rest = []
    · subst hrest
      rw [if_pos rfl]
      cases complete with
      | false => exact .broken hpc rfl
      | true => exact .finished hpc rfl rfl rfl rfl
    · rw [if_neg hrest]
      exact .sent hpc hrest rfl rfl rfl rfl
  · dsimp only
    rw [if_pos hret]
    exact .failed hpc hfail (hnet.imp (by simp_all) (by simp_all)) rfl

/-- **What a turn does** to the stream. -/
theorem turnStep_effect {live : Live} (hready : Ready live) (turn : Turn) :
    Effect turn live (turnStep turn live).1 (turnStep turn live).2 := by
  cases turn with
  | server stopRequested session => exact .beside rfl
  | thread answers =>
    simp only [turnStep, threadStep]
    have hquiet : ∀ {media session} {t' : Thread} {uses : List (Use Resource)}, live.thread.SameCounters t' →
        t'.waitingForIdr = live.thread.waitingForIdr → live.thread.pc.inSend = false → t'.pc.inSend = false →
        (live.thread.pc.exiting = true → t'.pc.exiting = true) →
        Effect (.thread answers) live ⟨media, session, t'⟩ (uses.map .use) :=
      fun same waiting before after exit => .quiet (uses_silent _) same waiting before after exit
    cases hpc : live.thread.pc with
    | initSender =>
      refine hquiet ⟨rfl, rfl, rfl⟩ rfl (by rw [hpc]; rfl) ?_ (by simp [hpc, ThreadPc.exiting])
      repeat' split
      all_goals rfl
    | initMuxer =>
      refine .quiet (by simp) ⟨rfl, rfl, rfl⟩ rfl (by rw [hpc]; rfl) ?_ (by simp [hpc, ThreadPc.exiting])
      unfold openMuxer
      dsimp only
      split <;> rfl
    | drain =>
      refine .quiet (by simp) ⟨rfl, rfl, rfl⟩ rfl (by rw [hpc]; rfl) ?_ (by simp [hpc, ThreadPc.exiting])
      dsimp only
      split <;> rfl
    | consume => exact .quiet (by simp) ⟨rfl, rfl, rfl⟩ rfl (by rw [hpc]; rfl) rfl (by simp [hpc, ThreadPc.exiting])
    | loopHead =>
      refine .quiet (by simp) ⟨rfl, rfl, rfl⟩ rfl (by rw [hpc]; rfl) ?_ (by simp [hpc, ThreadPc.exiting])
      dsimp only
      split <;> rfl
    | capture => exact captureStep_effect hpc
    | sending packets complete =>
      cases packets with
      | nil => exact absurd hpc (hready.pending complete)
      | cons packet rest => exact sendStep_effect hpc
    | closeSender => exact hquiet ⟨rfl, rfl, rfl⟩ rfl (by rw [hpc]; rfl) rfl (fun _ => rfl)
    | closeMuxer => exact .quiet (by simp) ⟨rfl, rfl, rfl⟩ rfl (by rw [hpc]; rfl) rfl (fun _ => rfl)
    | clearPlaying => exact .quiet (by simp) ⟨rfl, rfl, rfl⟩ rfl (by rw [hpc]; rfl) rfl (fun _ => rfl)
    | summary =>
      exact .quiet (by simp [ThreadEvent.silent]) ⟨rfl, rfl, rfl⟩ rfl (by rw [hpc]; rfl) rfl (fun _ => rfl)
    | exited => exact .beside rfl

/-! ## The recordings of a run -/

/-- In this step the encoder returns `u`, and the thread writes it to its muxer, which leaves `result`. -/
structure Recorded (answers : ThreadAnswers) (live : Live) (u : Bytes) (result : Option WriteResult) : Prop where
  pc : live.thread.pc = .capture
  unit : (captureAndEncode answers.capture live.media).unit.map (·.data) = some u
  muxer : live.thread.muxerInitialized = true
  written : result = writeMp4AccessUnit answers.malloc answers.rkmuxerWrite
    (captureAndEncode answers.capture live.media).media live.thread.muxer u live.thread.recordingFrameCount

/-- What an access unit that is written is written as. -/
theorem Recorded.writtenAs {answers : ThreadAnswers} {live : Live} {u : Bytes} {r : WriteResult}
    (h : Recorded answers live u (some r)) :
    ∃ data, WrittenAs live.media live.thread.recordingFrameCount u data ∧
      r = mp4MuxerWriteH264 answers.rkmuxerWrite live.thread.muxer data
        (recordingPts live.thread.recordingFrameCount) := by
  obtain ⟨data, hdata, hr⟩ := writeMp4AccessUnit_some h.written.symm
  have hsets := (captureAndEncode_sets answers.capture live.media).1
  refine ⟨data, ?_, hr⟩
  unfold WrittenAs at hdata ⊢
  rwa [hsets.sps, hsets.pps] at hdata

theorem beginSend_recordings (media : RTSPMedia) (t : Thread) (u : Bytes) (prepend : Bool) :
    recordings (beginSend media t u prepend).2 = [] := by
  obtain ⟨t', heq, -⟩ := beginSend_spec media t u prepend
  rw [heq]
  rfl

/-- What `deliver` records. -/
theorem deliver_recordings (answers : ThreadAnswers) (media : RTSPMedia) (t : Thread) (u : Bytes) :
    recordings (deliver answers media t u).2 = [] ∨ t.muxerInitialized = true ∧
      recordings (deliver answers media t u).2 =
        [(u, writeMp4AccessUnit answers.malloc answers.rkmuxerWrite media t.muxer u t.recordingFrameCount)] := by
  have hbegin := fun t => beginSend_recordings media t u (t.waitingForIdr && h264AnnexbContainsType u nalIdr)
  unfold deliver
  dsimp only
  split
  · exact .inl rfl
  · by_cases hmuxer : t.muxerInitialized = true
    · rw [if_pos hmuxer]
      refine .inr ⟨hmuxer, ?_⟩
      cases writeMp4AccessUnit answers.malloc answers.rkmuxerWrite media t.muxer u t.recordingFrameCount with
      | none => rfl
      | some r =>
        dsimp only
        split
        · rfl
        · exact congrArg (_ :: ·) (beginSend_recordings media _ u _)
    · rw [if_neg hmuxer]
      exact .inl (beginSend_recordings media _ u _)

theorem Thread.account_muxer (t : Thread) (captureSequence : UInt32) :
    (t.account captureSequence).muxer = t.muxer ∧ (t.account captureSequence).pc = t.pc := by
  unfold Thread.account
  dsimp only
  repeat' split
  all_goals exact ⟨rfl, rfl⟩

/-- What stands in front of an access unit is no recording. -/
theorem recordings_returned (uses : List (Use Resource)) (unit : Captured) (es : List ThreadEvent) :
    recordings (uses.map .use ++ .returned unit :: es) = recordings es := by
  rw [recordings_append, recordings_uses]
  rfl

theorem captureStep_recordings {answers : ThreadAnswers} {live : Live} (hpc : live.thread.pc = .capture) :
    recordings (captureStep answers live).2 = [] ∨ ∃ u result, Recorded answers live u result ∧
      recordings (captureStep answers live).2 = [(u, result)] := by
  unfold captureStep
  dsimp only
  cases hunit : (captureAndEncode answers.capture live.media).unit with
  | none => exact .inl (recordings_uses _)
  | some unit =>
    obtain ⟨hcounters, -, hinit⟩ := live.thread.account_same unit.sequence
    obtain ⟨hmuxer, -⟩ := live.thread.account_muxer unit.sequence
    dsimp only
    rw [recordings_returned]
    rcases deliver_recordings answers (captureAndEncode answers.capture live.media).media
      (live.thread.account unit.sequence) unit.data with hnone | ⟨hopen, hone⟩
    · exact .inl hnone
    · refine .inr ⟨unit.data, _, ⟨hpc, by rw [hunit]; rfl, hinit.symm.trans hopen, ?_⟩, hone⟩
      rw [hmuxer, hcounters.recorded]

/-- **What a turn records.** -/
theorem turnStep_recordings {live : Live} (hready : Ready live) (turn : Turn) :
    recordings (turnStep turn live).2 = [] ∨ ∃ answers u result, turn = .thread answers ∧
      Recorded answers live u result ∧ recordings (turnStep turn live).2 = [(u, result)] := by
  by_cases hpc : live.thread.pc = .capture
  · cases turn with
    | server stopRequested session => exact .inl rfl
    | thread answers =>
      have hstep : turnStep (.thread answers) live = captureStep answers live := by
        simp only [turnStep, threadStep, hpc]
      rw [hstep]
      exact (captureStep_recordings hpc).imp_right fun ⟨u, result, hrecorded, heq⟩ =>
        ⟨answers, u, result, rfl, hrecorded, heq⟩
  · have heffect := turnStep_effect hready turn
    left
    generalize (turnStep turn live).2 = events at heffect
    cases heffect with
    | beside | sent | finished | broken => rfl
    | quiet silent => exact (silent_events silent).2.2.2.2.1
    | delivered _ hcapture => exact absurd hcapture hpc
    | failed _ _ short => rcases short with rfl | rfl <;> rfl

/-! ## The phases are kept -/

theorem ready_start (media : RTSPMedia) (session : RTSPSession) : Ready ⟨media, session, .start⟩ :=
  ⟨by simp [Thread.start, ThreadPc.hasSocket], by simp [Thread.start, ThreadPc.hasMuxer], by simp [Thread.start],
    by simp [Thread.start], by simp [Thread.start]⟩

/-- Behind `EXIT` nothing is relied on. -/
theorem ready_of_exiting {live : Live} (h : live.thread.pc.exiting = true) : Ready live := by
  cases hpc : live.thread.pc with
  | closeSender | closeMuxer | clearPlaying | summary | exited =>
    constructor <;> simp [hpc, ThreadPc.hasSocket, ThreadPc.hasMuxer]
  | _ => simp [hpc, ThreadPc.exiting] at h

/-- From one phase with socket and muxer to the next. -/
theorem Ready.next {live live' : Live} (h : Ready live) (hmuxer : live.thread.pc.hasMuxer = true)
    (hsets : live.media.SameSets live'.media) (hsender : live'.media.sender = live.media.sender)
    (hinit : live'.thread.muxerInitialized = live.thread.muxerInitialized)
    (hpc : live'.thread.pc.hasMuxer = true) (hpending : ∀ complete, live'.thread.pc ≠ .sending [] complete) :
    Ready live' where
  socket _ := by
    rw [hsender]
    apply h.socket
    cases hp : live.thread.pc <;> simp [hp, ThreadPc.hasMuxer] at hmuxer <;> rfl
  muxer _ := by rw [hinit, hsets.recording, h.muxer hmuxer]
  fresh hp := by rcases hp with hp | hp <;> simp [hp, ThreadPc.hasMuxer] at hpc
  recording hp := by simp [hp, ThreadPc.hasMuxer] at hpc
  pending := hpending

/-- Where the thread is after an access unit. -/
theorem Delivered.phase {media : RTSPMedia} {t t' : Thread} {u : Bytes} {events : List ThreadEvent}
    (h : Delivered media t t' u events) :
    t'.pc.exiting = true ∨ t'.pc.hasMuxer = true ∧ ∀ complete, t'.pc ≠ .sending [] complete := by
  cases h with
  | skipped _ _ _ _ next => exact .inr (by simp [next, ThreadPc.hasMuxer])
  | refused _ _ _ next => exact .inl (by rw [next]; rfl)
  | began _ _ _ _ _ next =>
    rw [next]
    split
    · exact .inl rfl
    · rename_i hne
      refine .inr ⟨rfl, ?_⟩
      intro complete hc
      rw [ThreadPc.sending.injEq, ← List.length_eq_zero_iff, length_numbered, List.length_eq_zero_iff] at hc
      exact hne hc.1

theorem captureStep_ready {answers : ThreadAnswers} {live : Live} (h : Ready live) (hpc : live.thread.pc = .capture) :
    Ready (captureStep answers live).1 ∧ live.media.SameSets (captureStep answers live).1.media := by
  unfold captureStep
  dsimp only
  obtain ⟨hsets, hsender⟩ := captureAndEncode_sets answers.capture live.media
  cases hunit : (captureAndEncode answers.capture live.media).unit with
  | none => exact ⟨ready_of_exiting rfl, hsets⟩
  | some unit =>
    obtain ⟨-, -, haccount⟩ := live.thread.account_same unit.sequence
    obtain ⟨hdelivered, hinit⟩ := deliver_delivered answers (captureAndEncode answers.capture live.media).media
      (live.thread.account unit.sequence) unit.data
    refine ⟨?_, hsets⟩
    rcases hdelivered.phase with hexit | ⟨hhas, hpending⟩
    · exact ready_of_exiting hexit
    · exact h.next (by rw [hpc]; rfl) hsets hsender (hinit.trans haccount) hhas hpending

theorem sendStep_ready {answers : ThreadAnswers} {live : Live} {packet : Bytes} {rest : List Bytes} {complete : Bool}
    (h : Ready live) (hpc : live.thread.pc = .sending (packet :: rest) complete) :
    Ready (sendStep answers live packet rest complete).1 ∧
      live.media.SameSets (sendStep answers live packet rest complete).1.media := by
  have hmuxer : live.thread.pc.hasMuxer = true := by rw [hpc]; rfl
  unfold sendStep
  dsimp only
  split
  · exact ⟨ready_of_exiting rfl, .refl _⟩
  · split
    · cases complete with
      | false => exact ⟨ready_of_exiting rfl, .refl _⟩
      | true => exact ⟨h.next hmuxer (.refl _) rfl rfl rfl (by simp [Thread.afterSend]), .refl _⟩
    · rename_i hrest
      exact ⟨h.next hmuxer (.refl _) rfl rfl rfl (by simp [hrest]), .refl _⟩

/-- **The phases are kept** by every step, and so are the parameter sets. -/
theorem turnStep_ready {live : Live} (h : Ready live) (turn : Turn) :
    Ready (turnStep turn live).1 ∧ live.media.SameSets (turnStep turn live).1.media := by
  cases turn with
  | server stopRequested session => exact ⟨⟨h.socket, h.muxer, h.fresh, h.recording, h.pending⟩, ⟨rfl, rfl, rfl⟩⟩
  | thread answers =>
    simp only [turnStep, threadStep]
    cases hpc : live.thread.pc with
    | initSender =>
      refine ⟨?_, ⟨rfl, rfl, rfl⟩⟩
      have hfresh := h.fresh (.inl hpc)
      rcases hopen : rtpSenderInitEx answers.sender live.media.sender live.session.serverRtpPort live.session.clientIp
        live.session.clientRtpPort with ⟨sender, uses, ok⟩
      unfold openSender
      rw [hopen]
      dsimp only
      rcases rtpSenderInitEx_cases hopen with ⟨rfl, fd, addr, -, hfd, -⟩ | ⟨rfl, -⟩
      · have hsock : 0 ≤ sender.sockfd := by rw [hfd]; omega
        cases live.media.recordingEnabled with
        | true => exact ⟨fun _ => hsock, by simp [ThreadPc.hasMuxer], fun _ => hfresh, fun _ => rfl, by simp⟩
        | false => exact ⟨fun _ => hsock, fun _ => hfresh, fun _ => hfresh, by simp, by simp⟩
      · exact ready_of_exiting rfl
    | initMuxer =>
      refine ⟨?_, ⟨rfl, rfl, rfl⟩⟩
      have hsock := h.socket (by rw [hpc]; rfl)
      have hrec := h.recording hpc
      unfold openMuxer
      dsimp only
      cases (mp4MuxerInit answers.rkmuxerInit live.thread.muxer liveMuxerId live.media.recordPath rtspMediaWidth
          rtspMediaHeight rtspMediaFps rtspMediaBitRate).2 with
      | true => exact ⟨fun _ => hsock, fun _ => hrec.symm, by simp, by simp, by simp⟩
      | false => exact ready_of_exiting rfl
    | consume =>
      exact ⟨h.next (by rw [hpc]; rfl) ⟨rfl, rfl, rfl⟩ rfl rfl rfl (by simp), ⟨rfl, rfl, rfl⟩⟩
    | drain | loopHead =>
      refine ⟨?_, ⟨rfl, rfl, rfl⟩⟩
      dsimp only
      split
      · exact h.next (by rw [hpc]; rfl) (.refl _) rfl rfl rfl (by simp)
      · exact ready_of_exiting rfl
    | capture => exact captureStep_ready h hpc
    | sending packets complete =>
      cases packets with
      | nil => exact absurd hpc (h.pending complete)
      | cons packet rest => exact sendStep_ready h hpc
    | closeSender => exact ⟨ready_of_exiting rfl, ⟨rfl, rfl, rfl⟩⟩
    | closeMuxer => exact ⟨ready_of_exiting rfl, .refl _⟩
    | clearPlaying | summary => exact ⟨ready_of_exiting rfl, .refl _⟩
    | exited => exact ⟨h, .refl _⟩

end MiniRtsp.Rtsp
