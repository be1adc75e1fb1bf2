import MiniRtsp.Rtsp.Numbering
import MiniRtsp.Rtsp.Recording

/-!
# The stream starts at a fresh IDR

What a run gives to the muxer and to RTP are the access units returned from the first one with an IDR slice on, each to
the muxer and then to RTP (`Fresh`, `turnStep_fresh`). With the numbering of the session this says what a receiver sees
first: an SPS and a PPS, then the IDR slice, at time 0 (`fresh_start`).
-/

namespace MiniRtsp.Rtsp

open H264 Muxer Rtp Trace

/-! ## What is due -/

/-- The access units from the first one on in which the thread sees an IDR slice. -/
def fresh (units : List Bytes) : List Bytes := units.dropWhile fun u => !h264AnnexbContainsType u nalIdr

/-- Each access unit goes to the muxer, if there is a recording, and then to RTP. -/
def due (recording : Bool) (units : List Bytes) : List (Sink × Bytes) :=
  units.flatMap fun u => (if recording then [(.muxer, u)] else []) ++ [(.rtp, u)]

theorem due_append (recording : Bool) (us vs : List Bytes) :
    due recording (us ++ vs) = due recording us ++ due recording vs := by
  simp [due]

/-- What is due to RTP are the access units. -/
theorem due_rtp (recording : Bool) (us : List Bytes) :
    ((due recording us).filter (·.1 == .rtp)).map (·.2) = us := by
  induction us with
  | nil => rfl
  | cons u us ih => cases recording <;> simpa [due] using ih

/-- What is due to a recording are the access units. -/
theorem due_muxer (us : List Bytes) : ((due true us).filter (·.1 == .muxer)).map (·.2) = us := by
  induction us with
  | nil => rfl
  | cons u us ih => simpa [due] using ih

/-- An access unit without an IDR slice changes nothing while none has come. -/
theorem fresh_skip {units : List Bytes} {u : Bytes} (h : fresh units = [])
    (hu : h264AnnexbContainsType u nalIdr = false) :
    fresh (units ++ [u]) = [] := by
  unfold fresh at h ⊢
  rw [List.dropWhile_append, h]
  simp [hu]

/-- Otherwise the access unit is the next one. -/
theorem fresh_next {units : List Bytes} {u : Bytes}
    (hu : fresh units = [] → h264AnnexbContainsType u nalIdr = true) : fresh (units ++ [u]) = fresh units ++ [u] := by
  unfold fresh at hu ⊢
  rw [List.dropWhile_append]
  split
  · rename_i h
    rw [List.isEmpty_iff] at h
    rw [h]
    simp [hu h]
  · rfl

/-- The thread sees an IDR slice in the first one. -/
theorem head_fresh {units : List Bytes} {u : Bytes} (h : (fresh units).head? = some u) :
    h264AnnexbContainsType u nalIdr = true := by
  have hnot := List.head?_dropWhile_not (fun u => !h264AnnexbContainsType u nalIdr) units
  unfold fresh at h
  rw [h] at hnot
  simpa using hnot

/-! ## What a run keeps -/

/-- What has been given to the two sinks. -/
structure Fresh (media : RTSPMedia) (h : History Live ThreadEvent) : Prop where
  short : ∀ u ∈ returned h.events, u.length ≤ intMax
  alive : h.state.thread.pc.exiting = false →
    h.state.thread.waitingForIdr = (fresh (returned h.events)).isEmpty ∧
      deliveries h.events = due media.recordingEnabled (fresh (returned h.events)) ∧
      (h.state.thread.waitingForIdr = true → h.state.thread.recordingFrameCount = 0)
  sending : h.state.thread.pc.inSend = true → h.state.thread.waitingForIdr = false
  /-- All that is due, but for the RTP side of an access unit that could not be recorded. -/
  given : deliveries h.events = due media.recordingEnabled (fresh (returned h.events)) ∨
    h.state.thread.pc.exiting = true ∧ media.recordingEnabled = true ∧ ∃ past u,
      fresh (returned h.events) = past ++ [u] ∧ deliveries h.events = due true past ++ [(.muxer, u)]
  /-- The recording begins at presentation time 0. -/
  first : ∀ u r frame, (recordings h.events).head? = some (u, some r) → r.pushed = some frame → frame.ptsUs = 0

theorem fresh_at_start (media : RTSPMedia) (session : RTSPSession) : Fresh media ⟨⟨media, session, .start⟩, []⟩ :=
  ⟨by simp [returned], fun _ => ⟨rfl, rfl, fun _ => rfl⟩, by simp [Thread.start, ThreadPc.inSend], .inl rfl,
    by simp [recordings]⟩

/-- What an access unit of the encoder adds to the observations. -/
theorem observe_unit (past : List ThreadEvent) {uses : List ThreadEvent} (hsilent : ∀ e ∈ uses, e.silent = true)
    (unit : Captured) (events : List ThreadEvent) :
    (returned events = [] → returned (past ++ (uses ++ .returned unit :: events)) = returned past ++ [unit.data]) ∧
      deliveries (past ++ (uses ++ .returned unit :: events)) = deliveries past ++ deliveries events ∧
      recordings (past ++ (uses ++ .returned unit :: events)) = recordings past ++ recordings events := by
  obtain ⟨huses, -, -, -, hrec, hdel, -⟩ := silent_events hsilent
  refine ⟨fun hnone => ?_, ?_, ?_⟩
  · rw [returned_append, returned_append, huses]
    simpa [returned] using hnone
  · rw [deliveries_append, deliveries_append, hdel]
    rfl
  · rw [recordings_append, recordings_append, hrec]
    rfl

section Step

variable {media : RTSPMedia} {h : History Live ThreadEvent} {live' : Live} {new : List ThreadEvent}

/-- A step that returns and gives nothing. -/
theorem Fresh.quiet (hf : Fresh media h) (hnew : returned new = [] ∧ deliveries new = [] ∧ recordings new = [])
    (hexit : h.state.thread.pc.exiting = true → live'.thread.pc.exiting = true)
    (hsame : live'.thread.pc.exiting = false → live'.thread.waitingForIdr = h.state.thread.waitingForIdr ∧
      (live'.thread.waitingForIdr = true → live'.thread.recordingFrameCount = h.state.thread.recordingFrameCount))
    (hsend : live'.thread.pc.inSend = true → live'.thread.waitingForIdr = false) :
    Fresh media ⟨live', h.events ++ new⟩ := by
  obtain ⟨hreturned, hdeliveries, hrecordings⟩ := hnew
  refine ⟨?_, ?_, hsend, ?_, ?_⟩
  · simpa [hreturned] using hf.short
  · intro halive
    have hlive : h.state.thread.pc.exiting = false := by
      by_contra hc
      rw [hexit (by simpa using hc)] at halive
      cases halive
    obtain ⟨hwaiting, hcount⟩ := hsame halive
    obtain ⟨h1, h2, h3⟩ := hf.alive hlive
    simp only [returned_append, hreturned, deliveries_append, hdeliveries, List.append_nil]
    exact ⟨hwaiting.trans h1, h2, fun hw => (hcount hw).trans (h3 (hwaiting ▸ hw))⟩
  · simp only [returned_append, hreturned, deliveries_append, hdeliveries, List.append_nil]
    exact hf.given.imp_right fun ⟨he, hrest⟩ => ⟨hexit he, hrest⟩
  · simpa only [recordings_append, hrecordings, List.append_nil] using hf.first

/-- A packet that leaves the socket, while `send_access_unit` goes on or returns a count. -/
theorem Fresh.wire (hf : Fresh media h) {packets : List Bytes} {complete : Bool}
    (hpc : h.state.thread.pc = .sending packets complete)
    (hnew : returned new = [] ∧ deliveries new = [] ∧ recordings new = [])
    (hwaiting : live'.thread.waitingForIdr = h.state.thread.waitingForIdr) : Fresh media ⟨live', h.events ++ new⟩ := by
  have hw := hf.sending (by rw [hpc]; rfl)
  refine hf.quiet hnew (fun hexit => ?_) (fun _ => ⟨hwaiting, fun h => ?_⟩) fun _ => hwaiting.trans hw
  · rw [hpc] at hexit
    cases hexit
  · rw [hwaiting, hw] at h
    cases h

/-- The first recording stays the first. -/
theorem Fresh.first_concat (hf : Fresh media h) (hpc : h.state.thread.pc.exiting = false)
    (hrecording : media.recordingEnabled = true) {u : Bytes} {result : Option WriteResult}
    (htimed : h.state.thread.RecordsAtZero [.recording u result]) :
    ∀ v r frame, (recordings h.events ++ [(u, result)]).head? = some (v, some r) → r.pushed = some frame →
      frame.ptsUs = 0 := by
  intro v r frame hhead hframe
  obtain ⟨hwaiting, hdeliveries, hcount⟩ := hf.alive hpc
  by_cases hnone : fresh (returned h.events) = []
  · rw [hnone] at hwaiting hdeliveries
    have hempty : recordings h.events = [] := by
      have hmap := recordings_eq_deliveries h.events
      rw [hdeliveries] at hmap
      simpa [due] using hmap
    rw [hempty] at hhead
    simp only [List.nil_append, List.head?_cons, Option.some.injEq, Prod.mk.injEq] at hhead
    obtain ⟨rfl, rfl⟩ := hhead
    exact htimed (hcount hwaiting) u r frame (by simp) hframe
  · have hne : recordings h.events ≠ [] := by
      intro hempty
      have hmap := recordings_eq_deliveries h.events
      rw [hdeliveries, hempty, hrecording] at hmap
      obtain ⟨w, rest, hw⟩ := List.exists_cons_of_ne_nil hnone
      rw [hw] at hmap
      simp [due] at hmap
    rw [List.head?_append_of_ne_nil _ hne] at hhead
    exact hf.first v r frame hhead hframe

theorem Fresh.short_concat (hf : Fresh media h) {u : Bytes} (hu : u.length ≤ intMax) :
    ∀ v ∈ returned h.events ++ [u], v.length ≤ intMax := by
  intro v hv
  rcases List.mem_append.mp hv with hv | hv
  · exact hf.short v hv
  · rw [List.mem_singleton.mp hv]
    exact hu

/-- An access unit comes. -/
theorem Fresh.deliver (hf : Fresh media h) (hready : Ready h.state) (hsets : media.SameSets h.state.media)
    (hpc : h.state.thread.pc = .capture) {uses events : List ThreadEvent} {unit : Captured}
    (hsilent : ∀ e ∈ uses, e.silent = true) (hlen : unit.data.length ≤ intMax)
    (hd : Delivered h.state.media h.state.thread live'.thread unit.data events) :
    Fresh media ⟨live', h.events ++ (uses ++ .returned unit :: events)⟩ := by
  have halive : h.state.thread.pc.exiting = false := by rw [hpc]; rfl
  have hmuxer := hready.muxer (by rw [hpc]; rfl)
  rw [hsets.recording] at hmuxer
  obtain ⟨hwaiting, hdeliveries, hcount⟩ := hf.alive halive
  obtain ⟨hreturned, hdelivered, hrecorded⟩ := observe_unit h.events hsilent unit events
  rw [hdeliveries] at hdelivered
  have hshort := hf.short_concat hlen
  -- the access unit is the next one due
  have hnext : (h.state.thread.waitingForIdr = true → h264AnnexbContainsType unit.data nalIdr = true) →
      fresh (returned h.events ++ [unit.data]) = fresh (returned h.events) ++ [unit.data] := fun hidr =>
    fresh_next fun hnone => hidr (by rw [hwaiting, hnone]; rfl)
  cases hd with
  | skipped waits noIdr same waiting next =>
    have hnone : fresh (returned h.events) = [] := by
      rw [waits] at hwaiting
      exact List.isEmpty_iff.mp hwaiting.symm
    have hstill := fresh_skip hnone noIdr
    rw [hnone] at hdelivered
    refine ⟨?_, ?_, ?_, .inl ?_, ?_⟩
    · rw [hreturned rfl]
      exact hshort
    · intro _
      rw [hreturned rfl, hdelivered, hstill]
      exact ⟨waiting, rfl, fun _ => same.recorded.trans (hcount waits)⟩
    · intro hin
      rw [next] at hin
      cases hin
    · rw [hreturned rfl, hdelivered, hstill]
      rfl
    · rw [hrecorded]
      simpa [recordings] using hf.first
  | @refused result idr muxer timed next =>
    have hrecording : media.recordingEnabled = true := hmuxer.symm.trans muxer
    refine ⟨?_, fun hexit => ?_, fun hin => ?_,
      .inr ⟨by rw [next]; rfl, hrecording, fresh (returned h.events), unit.data,
      ?_, ?_⟩, ?_⟩
    · rw [hreturned rfl]
      exact hshort
    · rw [next] at hexit
      cases hexit
    · rw [next] at hin
      cases hin
    · rw [hreturned rfl, hnext idr]
    · rw [hdelivered, hrecording]
      rfl
    · rw [hrecorded]
      exact hf.first_concat halive hrecording timed
  | @began recorded idr records timed same waiting next =>
    have hdue : deliveries (recorded ++ [.streaming unit.data h.state.thread.timestamp h.state.thread.waitingForIdr]) =
        due media.recordingEnabled [unit.data] := by
      rw [← hmuxer]
      rcases records with ⟨hinit, r, rfl⟩ | ⟨hinit, rfl⟩
      · rw [hinit]
        rfl
      · rw [hinit]
        rfl
    have hnone : returned (recorded ++ [.streaming unit.data h.state.thread.timestamp
        h.state.thread.waitingForIdr]) = [] := by
      rcases records with ⟨-, r, rfl⟩ | ⟨-, rfl⟩ <;> rfl
    have hgiven : due media.recordingEnabled (fresh (returned h.events)) ++ due media.recordingEnabled [unit.data] =
        due media.recordingEnabled (fresh (returned h.events ++ [unit.data])) := by rw [hnext idr, due_append]
    refine ⟨?_, ?_, fun _ => waiting, .inl ?_, ?_⟩
    · rw [hreturned hnone]
      exact hshort
    · intro _
      rw [hreturned hnone, hdelivered, hdue, hgiven, hnext idr, waiting]
      exact ⟨by simp, rfl, by simp⟩
    · rw [hreturned hnone, hdelivered, hdue, hgiven]
    · rw [hrecorded]
      rcases records with ⟨hinit, r, rfl⟩ | ⟨-, rfl⟩
      · exact hf.first_concat halive (hmuxer.symm.trans hinit) timed
      · simpa [recordings] using hf.first

end Step

/-- **One step** keeps what has been given. -/
theorem turnStep_fresh {media : RTSPMedia} {h : History Live ThreadEvent} (hf : Fresh media h) (hready : Ready h.state)
    (hsets : media.SameSets h.state.media) (turn : Turn) : Fresh media (advance turnStep h turn) := by
  have heffect := turnStep_effect hready turn
  unfold advance
  generalize (turnStep turn h.state).2 = new at heffect ⊢
  cases heffect with
  | beside same =>
    refine hf.quiet ⟨rfl, rfl, rfl⟩ ?_ ?_ ?_ <;> rw [same]
    · exact id
    · exact fun _ => ⟨rfl, fun _ => rfl⟩
    · exact hf.sending
  | quiet silent same waiting before after exit =>
    obtain ⟨hret, -, -, -, hrec, hdel, -⟩ := silent_events silent
    exact hf.quiet ⟨hret, hdel, hrec⟩ exit (fun _ => ⟨waiting, fun _ => same.recorded⟩) fun hin => by
      rw [after] at hin
      cases hin
  | delivered silent pc length delivered => exact hf.deliver hready hsets pc silent length.2 delivered
  | sent pc more seq timestamp waiting next => exact hf.wire pc ⟨rfl, rfl, rfl⟩ waiting
  | finished pc seq timestamp waiting next => exact hf.wire pc ⟨rfl, rfl, rfl⟩ waiting
  | broken pc next =>
    have hexit : (turnStep turn h.state).1.thread.pc.exiting = true := by rw [next]; rfl
    exact hf.quiet ⟨rfl, rfl, rfl⟩ (fun _ => hexit) (fun h => by rw [hexit] at h; cases h) fun hin => by
      rw [next] at hin
      cases hin
  | failed pc failure short next =>
    have hexit : (turnStep turn h.state).1.thread.pc.exiting = true := by rw [next]; rfl
    refine hf.quiet ?_ (fun _ => hexit) (fun h => by rw [hexit] at h; cases h) fun hin => by
      rw [next] at hin
      cases hin
    rcases short with rfl | rfl <;> exact ⟨rfl, rfl, rfl⟩

/-- **Every run** keeps what has been given. -/
theorem run_fresh (media : RTSPMedia) (session : RTSPSession) (turns : List Turn) :
    Fresh media (run turnStep ⟨media, session, .start⟩ turns) :=
  run_induction _ (fresh_at_start media session) fun past turn _ hf =>
    have hn : Numbering media False (run turnStep ⟨media, session, .start⟩ past) :=
      run_numbering media session False.elim
    turnStep_fresh hf hn.ready hn.sets turn

/-! ## What the muxer is given -/

/-- The step behind `before` in which `u` is given to the muxer, the `n`-th to be given: the encoder returns it, and it
is written to the muxer of the thread. -/
structure GivenToMuxer (media : RTSPMedia) (before : History Live ThreadEvent) (answers : ThreadAnswers) (n : Nat)
    (u : Bytes) (result : Option WriteResult) : Prop where
  count : (recordings before.events).length = n
  recorded : Recorded answers before.state u result
  /-- What `mp4_muxer_write_h264` gets. -/
  written : ∀ r, result = some r → ∃ data, WrittenAs media before.state.thread.recordingFrameCount u data ∧
    r = mp4MuxerWriteH264 answers.rkmuxerWrite before.state.thread.muxer data
      (recordingPts before.state.thread.recordingFrameCount)

/-- **Every recording** of a run was made in one of its steps. -/
theorem recordings_made (media : RTSPMedia) (session : RTSPSession) {turns : List Turn} {n : Nat} {u : Bytes}
    {result : Option WriteResult}
    (h : (recordings (run turnStep ⟨media, session, .start⟩ turns).events)[n]? = some (u, result)) :
    ∃ past answers, past ++ [.thread answers] <+: turns ∧
      GivenToMuxer media (run turnStep ⟨media, session, .start⟩ past) answers n u result := by
  obtain ⟨past, turn, k, hpast, hn, hk⟩ := run_observed turnStep _ h
  have hnumbering : Numbering media False (run turnStep ⟨media, session, .start⟩ past) :=
    run_numbering media session False.elim
  rcases turnStep_recordings hnumbering.ready turn with hnone | ⟨answers, v, result', rfl, hrecorded, hone⟩
  · rw [recordings] at hnone
    simp [hnone] at hk
  · rw [recordings] at hone
    rw [hone] at hk
    cases k with
    | succ k => simp at hk
    | zero =>
      obtain ⟨rfl, rfl⟩ : v = u ∧ result' = result := by simpa using hk
      refine ⟨past, answers, hpast, hn.symm, hrecorded, fun r hr => ?_⟩
      subst hr
      obtain ⟨data, hdata, hwrite⟩ := hrecorded.writtenAs
      refine ⟨data, ?_, hwrite⟩
      unfold WrittenAs at hdata ⊢
      rwa [hnumbering.sets.sps, hnumbering.sets.pps] at hdata

/-! ## The first access unit -/

/-- A NAL of a slice. -/
def isSlice (u : Bytes) : Prop := 1 ≤ unitType u ∧ unitType u ≤ 5

/-- Parameter sets are ahead of slices, as H.264 orders them. -/
def SetsFirst (accessUnit : Bytes) : Prop :=
  (nalUnits accessUnit).Pairwise fun u v => isSlice u → unitType v ≠ nalSps ∧ unitType v ≠ nalPps

instance : DecidablePred isSlice := fun u => inferInstanceAs (Decidable (1 ≤ unitType u ∧ unitType u ≤ 5))

instance : DecidablePred SetsFirst := fun accessUnit => inferInstanceAs (Decidable ((nalUnits accessUnit).Pairwise _))

/-- **An SPS and a PPS precede the first IDR slice** of the access unit that starts the stream. -/
theorem sets_before_idr {media : RTSPMedia} {accessUnit : Bytes} (hstored : StoredSets media)
    (hidr : h264AnnexbContainsType accessUnit nalIdr = true) (hfirst : SetsFirst accessUnit) :
    ∃ pre idr post, streamedNals media accessUnit true = pre ++ idr :: post ∧ unitType idr = nalIdr ∧
      (∀ u ∈ pre, unitType u ≠ nalIdr) ∧ (∃ u ∈ pre, unitType u = nalSps) ∧ ∃ u ∈ pre, unitType u = nalPps := by
  obtain ⟨sps, pps, hsps, hpps, -, hspsType, -, hppsType⟩ := hstored.units
  rw [containsType_eq, Bool.and_eq_true, decide_eq_true_eq] at hidr
  obtain ⟨hfew, hany⟩ := hidr
  have hsome : ((nalUnits accessUnit).find? fun u => unitType u == nalIdr).isSome = true := by
    rw [List.find?_isSome]
    simpa using hany
  obtain ⟨idr, hfind⟩ := Option.isSome_iff_exists.mp hsome
  obtain ⟨htype, before, after, hsplit, hbefore⟩ := List.find?_eq_some_iff_append.mp hfind
  rw [beq_iff_eq] at htype
  -- a parameter set of the access unit itself is ahead of its IDR slice
  have hset : ∀ type, type = nalSps ∨ type = nalPps → h264AnnexbContainsType accessUnit type = true →
      ∃ u ∈ before, unitType u = type := by
    intro type htypes hcontains
    rw [containsType_eq, Bool.and_eq_true, List.any_eq_true] at hcontains
    obtain ⟨u, hu, hut⟩ := hcontains.2
    rw [beq_iff_eq] at hut
    rw [hsplit] at hu
    rcases List.mem_append.mp hu with hu | hu
    · exact ⟨u, hu, hut⟩
    · exfalso
      rcases List.mem_cons.mp hu with rfl | hu
      · rw [hut] at htype
        rcases htypes with rfl | rfl <;> exact absurd htype (by decide)
      · unfold SetsFirst at hfirst
        rw [hsplit, List.pairwise_append, List.pairwise_cons] at hfirst
        have hno := hfirst.2.1.1 u hu (by unfold isSlice; rw [htype]; decide)
        rw [hut] at hno
        rcases htypes with rfl | rfl
        · exact hno.1 rfl
        · exact hno.2 rfl
  refine ⟨(if !h264AnnexbContainsType accessUnit nalSps then [sps] else []) ++
    (if !h264AnnexbContainsType accessUnit nalPps then [pps] else []) ++ before, idr, after, ?_, htype, ?_, ?_, ?_⟩
  · simp [streamedNals, hsps, hpps, hsplit]
  · intro u hu
    rw [List.mem_append, List.mem_append] at hu
    rcases hu with (hu | hu) | hu
    · split at hu
      · rw [List.mem_singleton.mp hu, hspsType]; decide
      · cases hu
    · split at hu
      · rw [List.mem_singleton.mp hu, hppsType]; decide
      · cases hu
    · simpa using hbefore u hu
  · cases hc : h264AnnexbContainsType accessUnit nalSps with
    | false => exact ⟨sps, by simp, hspsType⟩
    | true =>
      obtain ⟨u, hu, hut⟩ := hset nalSps (.inl rfl) hc
      exact ⟨u, by simp [hu], hut⟩
  · cases hc : h264AnnexbContainsType accessUnit nalPps with
    | false => exact ⟨pps, by simp, hppsType⟩
    | true =>
      obtain ⟨u, hu, hut⟩ := hset nalPps (.inr rfl) hc
      exact ⟨u, by simp [hu], hut⟩

/-- An access unit with an IDR slice can be sent with the stored parameter sets. -/
theorem sendable_of_idr {media : RTSPMedia} {accessUnit : Bytes} (hstored : StoredSets media)
    (hidr : h264AnnexbContainsType accessUnit nalIdr = true) (hlen : accessUnit.length ≤ intMax) :
    Sendable media accessUnit true := by
  rw [containsType_eq, Bool.and_eq_true, decide_eq_true_eq, List.any_eq_true] at hidr
  obtain ⟨hfew, u, hu, -⟩ := hidr
  obtain ⟨hsps, hpps⟩ := hstored.sendable
  exact ⟨⟨List.length_pos_of_mem hu, hfew⟩, fun v hv => (length_le_of_mem hv).trans hlen, fun _ => hsps, fun _ => hpps⟩

/-! ## The bootstrap access unit -/

/-- Another bootstrap access unit. -/
def Live.withBootstrap (live : Live) (bootstrapAu : Option Bytes) : Live :=
  { live with media := { live.media with bootstrapAu := bootstrapAu } }

theorem captureAndEncode_bootstrap (answers : CaptureAnswers) (media : RTSPMedia) (bootstrapAu : Option Bytes) :
    captureAndEncode answers { media with bootstrapAu := bootstrapAu } =
      { captureAndEncode answers media with
        media := { (captureAndEncode answers media).media with bootstrapAu := bootstrapAu } } := by
  unfold captureAndEncode
  dsimp only
  repeat' split
  all_goals rfl

/-- **The bootstrap access unit plays no part** in a step. -/
theorem turnStep_bootstrap (turn : Turn) (live : Live) (bootstrapAu : Option Bytes) :
    turnStep turn (live.withBootstrap bootstrapAu) =
      ((turnStep turn live).1.withBootstrap bootstrapAu, (turnStep turn live).2) := by
  cases turn with
  | server stopRequested session => rfl
  | thread answers =>
    simp only [turnStep, threadStep, Live.withBootstrap]
    cases live.thread.pc with
    | capture =>
      simp only [captureStep, captureAndEncode_bootstrap]
      cases (captureAndEncode answers.capture live.media).unit <;> rfl
    | sending packets complete =>
      cases packets with
      | nil => rfl
      | cons packet rest =>
        simp only [sendStep]
        split
        · rfl
        · split <;> rfl
    | _ => rfl

theorem run_bootstrap (turns : List Turn) (live : Live) (bootstrapAu : Option Bytes) :
    (run turnStep (live.withBootstrap bootstrapAu) turns).events = (run turnStep live turns).events := by
  suffices h : run turnStep (live.withBootstrap bootstrapAu) turns =
      ⟨(run turnStep live turns).state.withBootstrap bootstrapAu, (run turnStep live turns).events⟩ by rw [h]
  induction turns using List.reverseRecOn with
  | nil => rfl
  | append_singleton turns turn ih => rw [run_concat, run_concat, ih, advance, turnStep_bootstrap]; rfl

/-! ## The start of the stream -/

/-- An access unit with an IDR slice. -/
def hasIdr (accessUnit : Bytes) : Bool := (nalUnits accessUnit).any fun u => unitType u == nalIdr

/-- The access units from the first one with an IDR slice on. -/
def fromIdr (units : List Bytes) : List Bytes := units.dropWhile fun u => !hasIdr u

/-- Within the capacity of the split the thread decides rightly. -/
theorem fresh_eq_fromIdr {units : List Bytes} (h : ∀ u ∈ units, (nalUnits u).length ≤ annexbMaxNalus) :
    fresh units = fromIdr units := by
  induction units with
  | nil => rfl
  | cons u us ih =>
    have hu : h264AnnexbContainsType u nalIdr = hasIdr u := by
      rw [containsType_eq, decide_eq_true (h u (by simp)), Bool.true_and, hasIdr]
    have ih := ih fun v hv => h v (by simp [hv])
    unfold fresh fromIdr at ih ⊢
    rw [List.dropWhile_cons, List.dropWhile_cons, hu, ih]

theorem Progress.length_eq {media : RTSPMedia} {allSent : Prop} {t : Thread} {S : List Call} {U : List (List Bytes)}
    {k : Nat} (h : Progress media allSent t S U k) : S.length = U.length ∧ U.length ≤ k + 1 := by
  cases h with
  | between past => exact ⟨past.length_eq, by have := past.length_eq; omega⟩
  | sending past => simp [past.length_eq]
  | broken past => simp [past.length_eq]

/-- The first call, and how much of it went out. -/
theorem Progress.head {media : RTSPMedia} {allSent : Prop} {t : Thread} {S : List Call} {U : List (List Bytes)}
    {k : Nat}
    (h : Progress media allSent t S U k) {c : Call} (hc : S.head? = some c) :
    c.timestamp = 0 ∧ c.prepend = true ∧ ∃ unit rest, U.head? = some unit ∧
      unit ++ rest = numbered 0 100 (accessUnitPlan media c.accessUnit true).payloads ∧ (1 < U.length → rest = []) := by
  have hlen := h.length_eq
  have hne : U ≠ [] := by
    rintro rfl
    rw [List.length_nil, List.length_eq_zero_iff] at hlen
    rw [hlen.1] at hc
    cases hc
  obtain ⟨unit, U', rfl⟩ := List.exists_cons_of_ne_nil hne
  obtain ⟨c', rest, hc', sends, hdone, -⟩ := h.get (show (unit :: U')[0]? = some unit from rfl)
  rw [← List.head?_eq_getElem?, hc, Option.some.injEq] at hc'
  subst hc'
  have htimestamp : c.timestamp = 0 := sends.timestamp
  have hprepend : c.prepend = true := sends.prepend
  refine ⟨htimestamp, hprepend, unit, rest, rfl, ?_, fun hmore => (hdone (by omega)).1⟩
  have hpackets := sends.packets
  rw [htimestamp, hprepend] at hpackets
  simpa [nextSeq] using hpackets

/-- **The stream starts at a fresh IDR.** Up to any moment of a run the access units given to the muxer and to RTP are
those returned from the first one with an IDR slice on, in order and each to the muxer first, except that the run ends
where one cannot be recorded. What `mp4_muxer_write_h264` gets of each is the access unit, the first one completed where
it lacks a parameter set. The first one goes out at RTP timestamp 0 and is recorded at presentation time 0; its packets
carry an SPS and a PPS before the first IDR slice. The bootstrap access unit makes no difference. -/
theorem fresh_start {media : RTSPMedia} (hstored : StoredSets media) (session : RTSPSession) {turns : List Turn}
    (hunits : ∀ u ∈ returned (run turnStep ⟨media, session, .start⟩ turns).events,
      (nalUnits u).length ≤ annexbMaxNalus ∧ SetsFirst u) :
    let live := run turnStep ⟨media, session, .start⟩ turns
    let units := fromIdr (returned live.events)
    (deliveries live.events = due media.recordingEnabled units ∨
      live.state.thread.pc.exiting = true ∧ media.recordingEnabled = true ∧ ∃ past u,
        units = past ++ [u] ∧ deliveries live.events = due true past ++ [(.muxer, u)]) ∧
    sentPackets live.events = (unitPackets live.events).flatten ∧
    (units = [] → sentPackets live.events = [] ∧ recordings live.events = []) ∧
    (∀ n u result, (recordings live.events)[n]? = some (u, result) → ∃ past answers,
      past ++ [.thread answers] <+: turns ∧
        GivenToMuxer media (run turnStep ⟨media, session, .start⟩ past) answers n u result) ∧
    (∀ u r frame, (recordings live.events).head? = some (u, some r) → r.pushed = some frame → frame.ptsUs = 0) ∧
    (∀ c, (calls live.events).head? = some c → c.timestamp = 0 ∧ units.head? = some c.accessUnit ∧
      ∃ pre idr post unit rest, unitType idr = nalIdr ∧ (∀ u ∈ pre, unitType u ≠ nalIdr) ∧
        (∃ u ∈ pre, unitType u = nalSps) ∧ (∃ u ∈ pre, unitType u = nalPps) ∧
        (unitPackets live.events).head? = some unit ∧
        unit ++ rest = numbered 0 100 (nalsPayloads (pre ++ idr :: post)) ∧
        (1 < (unitPackets live.events).length → rest = [])) ∧
    ∀ bootstrapAu, (run turnStep ⟨{ media with bootstrapAu := bootstrapAu }, session, .start⟩ turns).events =
      live.events := by
  intro live units
  have hf : Fresh media live := run_fresh media session turns
  have hn : Numbering media False live := run_numbering media session False.elim
  have hunitsEq : fresh (returned live.events) = units := fresh_eq_fromIdr fun u hu => (hunits u hu).1
  have hgiven := hf.given
  have hcalls := calls_eq_deliveries live.events
  rw [hunitsEq] at hgiven
  refine ⟨hgiven, hn.flat, ?_, fun n u result h => recordings_made media session h, hf.first, ?_, ?_⟩
  · intro hnone
    have hdeliveries : deliveries live.events = [] := by
      rcases hgiven with h | ⟨-, -, past, u, h, -⟩
      · rw [h, hnone]
        rfl
      · rw [hnone] at h
        simp at h
    have hrecordings := recordings_eq_deliveries live.events
    rw [hdeliveries] at hcalls hrecordings
    have hlen := hn.progress.length_eq.1
    rw [List.map_eq_nil_iff.mp hcalls] at hlen
    refine ⟨?_, List.map_eq_nil_iff.mp hrecordings⟩
    rw [hn.flat, List.length_eq_zero_iff.mp hlen.symm]
    rfl
  · intro c hc
    -- what RTP was given are the first access units
    have hprefix : (calls live.events).map (·.accessUnit) <+: units := by
      rw [hcalls]
      rcases hgiven with h | ⟨-, -, past, u, hpast, h⟩
      · rw [h, due_rtp]
      · rw [h, List.filter_append, List.map_append, due_rtp, hpast]
        exact ⟨[u], by simp⟩
    have hhead : units.head? = some c.accessUnit := by
      obtain ⟨rest, hrest⟩ := hprefix
      rw [← hrest, List.head?_append_of_ne_nil _ (by rintro h; simp [List.map_eq_nil_iff.mp h] at hc)]
      simp [hc]
    obtain ⟨htimestamp, hprepend, unit, rest, hunit, hpackets, hmore⟩ := hn.progress.head hc
    have hmem : c.accessUnit ∈ returned live.events :=
      (List.dropWhile_sublist _).subset (List.mem_of_head? hhead)
    have hidr : h264AnnexbContainsType c.accessUnit nalIdr = true := head_fresh (hunitsEq ▸ hhead)
    obtain ⟨pre, idr, post, hsplit, htype, hpre, hsps, hpps⟩ := sets_before_idr hstored hidr (hunits _ hmem).2
    refine ⟨htimestamp, hhead, pre, idr, post, unit, rest, htype, hpre, hsps, hpps, hunit, ?_, hmore⟩
    rw [hpackets, accessUnitPlan_eq (sendable_of_idr hstored hidr (hf.short _ hmem)), hsplit]
  · intro bootstrapAu
    exact run_bootstrap turns ⟨media, session, .start⟩ bootstrapAu

/-- A pipeline that records. -/
def recordingMedia : RTSPMedia :=
  { servingMedia with recordPath := Text.ascii "live.mp4", recordingEnabled := true }

/-- A slice without IDR is skipped; the IDR slice that follows is recorded, completed, at presentation time 0 and goes
out behind both parameter sets. -/
theorem fresh_start_idr :
    let live := run turnStep ⟨recordingMedia, playSession, .start⟩
      (List.replicate 6 (.thread (encodes [0, 0, 0, 1, 0x41, 0x9a])) ++
        List.replicate 5 (.thread (encodes [0, 0, 0, 1, 0x65, 0x88])))
    (calls live.events).map (·.accessUnit) = [[0, 0, 0, 1, 0x65, 0x88]] ∧ (sentPackets live.events).length = 3 ∧
    (recordings live.events).map (fun w => (w.1, w.2.bind fun r => r.pushed.map fun frame => (frame.data, frame.ptsUs))) =
      [([0, 0, 0, 1, 0x65, 0x88],
        some ([0, 0, 0, 1, 0x67, 0x64, 0, 0, 0, 1, 0x68, 0xee, 0, 0, 0, 1, 0x65, 0x88], 0))] ∧
    ∀ c, (calls live.events).head? = some c → c.timestamp = 0 := by
  intro live
  have hstored : StoredSets recordingMedia :=
    ⟨[0, 0, 0, 1, 0x67, 0x64, 0, 0, 0, 1, 0x68, 0xee, 0, 0, 0, 1, 0x65], [true, true], [0x67, 0x64], [0x68, 0xee],
      by decide, by decide, rfl, rfl⟩
  have start := @fresh_start recordingMedia hstored playSession
    (List.replicate 6 (.thread (encodes [0, 0, 0, 1, 0x41, 0x9a])) ++
      List.replicate 5 (.thread (encodes [0, 0, 0, 1, 0x65, 0x88]))) (by decide +kernel)
  exact ⟨by decide +kernel, by decide +kernel, by decide +kernel, fun c hc => (start.2.2.2.2.2.1 c hc).1⟩

end MiniRtsp.Rtsp
