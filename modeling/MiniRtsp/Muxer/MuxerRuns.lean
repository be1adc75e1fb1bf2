import MiniRtsp.Lib.Trace
import MiniRtsp.Muxer.Scanner

/-!
# Runs of the muxer wrapper

After a successful `mp4_muxer_init` the wrapper takes writes and closes in any order (`MuxerOp`, `muxerStep`); the calls
of the vendor muxer are the events. A write has one of three outcomes (`Writing`), and a run keeps the counters and the
last PTS in step with the frames the vendor muxer accepted (`Consistent`). The scan passes over the NAL unit behind two
adjacent start codes; `key_frame_count` is right exactly in the runs in which no IDR is lost that way
(`muxerRun_contract_iff`).
-/

namespace MiniRtsp.Muxer

open H264 Occurrence Text Trace

/-! ## What the scan found is there -/

/-- The access unit has a NAL unit whose type meets the condition. -/
def HasUnit (data : Bytes) (p : UInt8 → Bool) : Prop := ∃ u ∈ nalUnits data, p (unitType u) = true

/-- The types of slices. -/
def isVcl (type : UInt8) : Bool := h264NalSlice ≤ type && type ≤ nalIdr

theorem mem_of_mem_visible {p : Bytes} : ∀ {ps : List Bytes}, p ∈ visible ps → p ∈ ps
  | [], h => h
  | [q], h => by
    unfold visible at h
    split at h
    · cases h
    · exact h
  | q :: r :: ps, h => by
    unfold visible at h
    split at h
    · exact List.mem_cons_of_mem _ (List.mem_cons_of_mem _ (mem_of_mem_visible h))
    · rcases List.mem_cons.mp h with rfl | h
      · exact List.mem_cons_self
      · exact List.mem_cons_of_mem _ (mem_of_mem_visible h)

/-- A visible piece whose type is not 0 is a NAL unit of the access unit. -/
theorem hasUnit_of_visible {data p : Bytes} {t : UInt8 → Bool} (hzero : t 0 = false)
    (hp : p ∈ visible (pieces startCode data).tail) (ht : t (unitType p) = true) : HasUnit data t := by
  have hne : unitType p ≠ 0 := fun h => by rw [h, hzero] at ht; cases ht
  have hany : (pieces startCode data).tail.any (fun q => unitType q == unitType p) = true :=
    List.any_eq_true.mpr ⟨p, mem_of_mem_visible hp, by simp⟩
  rw [← any_units hne] at hany
  obtain ⟨u, hu, hut⟩ := List.any_eq_true.mp hany
  exact ⟨u, hu, by rw [eq_of_beq hut]; exact ht⟩

/-- The pieces behind start codes that the scan looks at. -/
def seen (data : Bytes) : List Bytes := visible (pieces startCode data).tail

theorem hasVcl_note (info : H264PacketInfo) (t : UInt8) : (info.note t).hasVcl = (info.hasVcl || isVcl t) := by
  unfold H264PacketInfo.note isVcl
  by_cases hv : h264NalSlice ≤ t ∧ t ≤ nalIdr
  · simp only [hv, and_self, if_true, decide_true, Bool.and_self, Bool.or_true]
    repeat' split
    all_goals rfl
  · have hf : (decide (h264NalSlice ≤ t) && decide (t ≤ nalIdr)) = false := by simpa using hv
    rw [hf, Bool.or_false]
    simp only [hv, if_false]
    repeat' split
    all_goals rfl

theorem hasVcl_scanned (ps : List Bytes) :
    (scanned ⟨false, false, false, false, false⟩ ps).hasVcl = (visible ps).any fun p => isVcl (unitType p) := by
  have hfold : ∀ (qs : List Bytes) (info : H264PacketInfo),
      (qs.foldl (fun info p => info.note (unitType p)) info).hasVcl =
        (info.hasVcl || qs.any fun p => isVcl (unitType p)) := by
    intro qs
    induction qs with
    | nil => simp
    | cons q qs ih => intro info; rw [List.foldl_cons, ih, hasVcl_note, List.any_cons, Bool.or_assoc]
  unfold scanned
  split
  · rename_i hps
    subst hps
    rfl
  · rw [hfold, Bool.false_or]

theorem inspect_hasVcl (data : Bytes) :
    (inspectAnnexbH264 data).hasVcl = true ↔ ∃ p ∈ seen data, isVcl (unitType p) = true := by
  rw [inspect_eq, hasVcl_scanned, List.any_eq_true]
  rfl

theorem inspect_has {data : Bytes} {type : UInt8} (hf : Flagged type) :
    (inspectAnnexbH264 data).has type = true ↔ ∃ p ∈ seen data, unitType p = type := by
  rw [inspect_eq, has_scanned _ hf, List.any_eq_true]
  simp only [beq_iff_eq]
  rfl

theorem inspect_hasIdr (data : Bytes) :
    (inspectAnnexbH264 data).hasIdr = true ↔ ∃ p ∈ seen data, unitType p = nalIdr :=
  inspect_has (.inl rfl)

/-- Where the scan sees a slice it has found a start code. -/
theorem inspect_startCode {data : Bytes} (h : (inspectAnnexbH264 data).hasVcl = true) :
    (inspectAnnexbH264 data).hasAnnexbStartCode = true := by
  have hfold : ∀ (qs : List Bytes) (info : H264PacketInfo),
      (qs.foldl (fun info p => info.note (unitType p)) info).hasAnnexbStartCode = info.hasAnnexbStartCode := by
    intro qs
    induction qs with
    | nil => exact fun _ => rfl
    | cons q qs ih => exact fun info => (ih _).trans (note_hasAnnexbStartCode info _)
  rw [inspect_eq] at h ⊢
  unfold scanned at h ⊢
  split
  · rename_i hnone
    rw [if_pos hnone] at h
    cases h
  · rw [hfold]

/-- **A slice the scan reports** is a NAL unit of the access unit. -/
theorem hasUnit_vcl {data : Bytes} (h : (inspectAnnexbH264 data).hasVcl = true) : HasUnit data isVcl := by
  obtain ⟨p, hp, ht⟩ := (inspect_hasVcl data).mp h
  exact hasUnit_of_visible (by decide) hp ht

/-- **A flagged type the scan reports** is that of a NAL unit of the access unit. -/
theorem hasUnit_flagged {data : Bytes} {type : UInt8} (hf : Flagged type)
    (h : (inspectAnnexbH264 data).has type = true) : HasUnit data (· == type) := by
  obtain ⟨p, hp, ht⟩ := (inspect_has hf).mp h
  exact hasUnit_of_visible (by rcases hf with rfl | rfl | rfl <;> decide) hp (by simpa using ht)

/-! ## The outcomes of a write -/

/-- **A write** is refused before the vendor muxer is called, fails in it, or is accepted by it. -/
inductive Writing (rkmuxerWrite : Int) (muxer : Mp4Muxer) (data : Bytes) (ptsUs : Int) : WriteResult → Prop
  | refused (e : WriteError) (hpts : e = .nonIncreasingPts → 0 < muxer.frameCount ∧ ptsUs ≤ muxer.lastPtsUs) :
      Writing rkmuxerWrite muxer data ptsUs ⟨muxer, false, none, some e⟩
  | failed (hinit : muxer.initialized = true) (hret : rkmuxerWrite ≠ 0) :
      Writing rkmuxerWrite muxer data ptsUs
        ⟨muxer, false, some ⟨data, ptsUs, (inspectAnnexbH264 data).hasIdr⟩, some .writeFailed⟩
  | accepted (hinit : muxer.initialized = true) (hsize : data.length ≤ uintMax) (hret : rkmuxerWrite = 0)
      (hpts : 0 ≤ ptsUs) (hlast : 0 < muxer.frameCount → muxer.lastPtsUs < ptsUs)
      (hvcl : (inspectAnnexbH264 data).hasVcl = true)
      (hfirst : muxer.frameCount = 0 → (inspectAnnexbH264 data).hasIdr = true ∧
        (inspectAnnexbH264 data).hasSps = true ∧ (inspectAnnexbH264 data).hasPps = true) :
      Writing rkmuxerWrite muxer data ptsUs
        ⟨{ muxer with
            frameCount := muxer.frameCount + 1
            keyFrameCount := if (inspectAnnexbH264 data).hasIdr then muxer.keyFrameCount + 1 else muxer.keyFrameCount
            lastPtsUs := ptsUs },
          (inspectAnnexbH264 data).hasIdr, some ⟨data, ptsUs, (inspectAnnexbH264 data).hasIdr⟩, none⟩

theorem mp4MuxerWriteH264_writing (rkmuxerWrite : Int) (muxer : Mp4Muxer) (data : Bytes) (ptsUs : Int) :
    Writing rkmuxerWrite muxer data ptsUs (mp4MuxerWriteH264 rkmuxerWrite muxer data ptsUs) := by
  unfold mp4MuxerWriteH264
  dsimp only
  split
  · exact .refused _ (fun h => by cases h)
  · rename_i hparam
    split
    · rename_i hpts
      exact .refused _ (fun _ => hpts)
    · rename_i hlast
      split
      · exact .refused _ (fun h => by cases h)
      · rename_i hinfo
        split
        · exact .refused _ (fun h => by cases h)
        · rename_i hfirst
          have hinit : muxer.initialized = true := by
            cases hm : muxer.initialized with
            | true => rfl
            | false => exact absurd (Or.inl (by rw [hm]; rfl)) hparam
          split
          · rename_i hret
            exact .failed hinit hret
          · rename_i hret
            refine .accepted hinit ?_ (by omega) ?_ ?_ ?_ ?_
            · by_contra hlong
              exact hparam (.inr (.inr (.inl (by omega))))
            · by_contra hneg
              exact hparam (.inr (.inr (.inr (by omega))))
            · intro hpos
              by_contra hle
              exact hlast ⟨hpos, by omega⟩
            · cases hv : (inspectAnnexbH264 data).hasVcl with
              | true => rfl
              | false => exact absurd (Or.inr (by rw [hv]; rfl)) hinfo
            · intro hzero
              simp only [hzero, true_and, Bool.not_eq_true', not_or, Bool.not_eq_false] at hfirst
              exact hfirst

/-- A write that fails leaves the muxer as it was and `*key_frame_out` 0. -/
theorem Writing.of_error {rkmuxerWrite : Int} {muxer : Mp4Muxer} {data : Bytes} {ptsUs : Int} {r : WriteResult}
    (h : Writing rkmuxerWrite muxer data ptsUs r) (he : r.error ≠ none) : r.muxer = muxer ∧ r.keyFrameOut = false := by
  cases h with
  | refused e _ => exact ⟨rfl, rfl⟩
  | failed _ _ => exact ⟨rfl, rfl⟩
  | accepted _ _ _ _ _ _ _ => exact absurd rfl he

/-! ## Runs -/

/-- The calls of the wrapper, with the answer of the vendor muxer should it be called. -/
inductive MuxerOp where
  | write (data : Bytes) (ptsUs : Int64) (rkmuxerWrite : Int)
  | close (rkmuxerDeinit : Int)
  deriving DecidableEq, Repr

/-- What reaches the vendor muxer, and what it answered. -/
inductive VendorCall where
  | writeVideoFrame (id : Int) (frame : VideoFrame) (ret : Int)
  | deinit (id : Int) (ret : Int)
  deriving DecidableEq, Repr

/-- One call of the wrapper. -/
def muxerStep : MuxerOp → Mp4Muxer → Mp4Muxer × List VendorCall
  | .write data ptsUs rkmuxerWrite, muxer =>
    let r := mp4MuxerWriteH264 rkmuxerWrite muxer data ptsUs.toInt
    (r.muxer, r.pushed.toList.map (.writeVideoFrame muxer.id · rkmuxerWrite))
  | .close rkmuxerDeinit, muxer =>
    let r := mp4MuxerClose rkmuxerDeinit muxer
    (r.1, if r.2.2 then [.deinit muxer.id rkmuxerDeinit] else [])

/-- The calls of the wrapper in order. -/
def muxerRun (muxer : Mp4Muxer) (ops : List MuxerOp) : History Mp4Muxer VendorCall := run muxerStep muxer ops

/-- The frame of a call that the vendor muxer accepted. -/
def VendorCall.accepted : VendorCall → Option VideoFrame
  | .writeVideoFrame _ frame ret => if ret = 0 then some frame else none
  | .deinit _ _ => none

/-- The frames the vendor muxer accepted, in order. -/
def accepted (calls : List VendorCall) : List VideoFrame := calls.filterMap VendorCall.accepted

def VendorCall.isDeinit : VendorCall → Bool
  | .deinit _ _ => true
  | .writeVideoFrame _ _ _ => false

/-- The PTS of the last frame, -1 when there is none. -/
def lastPtsOf (fs : List VideoFrame) : Int := (fs.getLast?.map (·.ptsUs)).getD (-1)

/-- **The wrapper is consistent** with what the vendor muxer accepted. -/
structure Consistent (h : History Mp4Muxer VendorCall) : Prop where
  nonneg : ∀ f ∈ accepted h.events, 0 ≤ f.ptsUs
  increasing : (accepted h.events).Pairwise (·.ptsUs < ·.ptsUs)
  first : ∀ f ∈ (accepted h.events).head?,
    HasUnit f.data (· == nalIdr) ∧ HasUnit f.data (· == nalSps) ∧ HasUnit f.data (· == nalPps)
  vcl : ∀ f ∈ accepted h.events, HasUnit f.data isVcl
  keyFrame : ∀ f ∈ accepted h.events, f.keyFrame = (inspectAnnexbH264 f.data).hasIdr
  frameCount : h.state.frameCount.toNat = (accepted h.events).length
  keyFrameCount : h.state.keyFrameCount.toNat = (accepted h.events).countP (·.keyFrame)
  lastPts : h.state.lastPtsUs = lastPtsOf (accepted h.events)
  deinit : h.events.countP VendorCall.isDeinit = if h.state.initialized then 0 else 1

@[simp] theorem lastPtsOf_nil : lastPtsOf [] = -1 := rfl

@[simp] theorem lastPtsOf_concat (fs : List VideoFrame) (f : VideoFrame) : lastPtsOf (fs ++ [f]) = f.ptsUs := by
  simp [lastPtsOf]

/-- No frame is later than the last one. -/
theorem le_lastPtsOf {fs : List VideoFrame} (hinc : fs.Pairwise (·.ptsUs < ·.ptsUs)) :
    ∀ f ∈ fs, f.ptsUs ≤ lastPtsOf fs := by
  intro f hf
  obtain rfl | ⟨init, last, rfl⟩ := List.eq_nil_or_concat' fs
  · cases hf
  · rw [lastPtsOf_concat]
    rcases List.mem_append.mp hf with hf | hf
    · have hlt := (List.pairwise_append.mp hinc).2.2 f hf last (by simp)
      omega
    · obtain rfl := List.mem_singleton.mp hf
      exact Int.le_refl _

/-- The accepted frames are no more than the timestamps up to the last one. -/
theorem length_le_lastPtsOf {fs : List VideoFrame} (hnonneg : ∀ f ∈ fs, 0 ≤ f.ptsUs)
    (hinc : fs.Pairwise (·.ptsUs < ·.ptsUs)) : (fs.length : Int) ≤ lastPtsOf fs + 1 := by
  induction fs using List.reverseRecOn with
  | nil => simp
  | append_singleton fs f ih =>
    have hf := hnonneg f (by simp)
    obtain ⟨hfs, -, hlt⟩ := List.pairwise_append.mp hinc
    have ih := ih (fun g hg => hnonneg g (List.mem_append_left _ hg)) hfs
    rw [lastPtsOf_concat, List.length_append, List.length_singleton]
    obtain rfl | ⟨init, last, rfl⟩ := List.eq_nil_or_concat' fs
    · simp only [List.length_nil]
      omega
    · have := hlt last (by simp) f (by simp)
      rw [lastPtsOf_concat] at ih
      omega

/-- A PTS above the last one is above those of all frames before, so the frames are fewer than 2^63. -/
theorem Consistent.later {h : History Mp4Muxer VendorCall} (hc : Consistent h) {ptsUs : Int64}
    (hlast : accepted h.events ≠ [] → h.state.lastPtsUs < ptsUs.toInt) :
    (∀ f ∈ accepted h.events, f.ptsUs < ptsUs.toInt) ∧ (accepted h.events).length < 9223372036854775808 := by
  have hbelow : ∀ f ∈ accepted h.events, f.ptsUs < ptsUs.toInt := by
    intro f hf
    have hlt := hlast (List.ne_nil_of_mem hf)
    rw [hc.lastPts] at hlt
    have hle := le_lastPtsOf hc.increasing f hf
    omega
  refine ⟨hbelow, ?_⟩
  have hlen := length_le_lastPtsOf hc.nonneg hc.increasing
  have hmax := ptsUs.toInt_lt
  obtain hnil | ⟨init, last, hlast'⟩ := List.eq_nil_or_concat' (accepted h.events)
  · rw [hnil]
    decide
  · have hlt := hbelow last (by simp [hlast'])
    rw [hlast', lastPtsOf_concat] at hlen
    rw [hlast']
    omega

/-- **A write keeps the wrapper consistent.** -/
theorem Consistent.write {h : History Mp4Muxer VendorCall} (hc : Consistent h) (data : Bytes) (ptsUs : Int64)
    (rkmuxerWrite : Int) : Consistent (advance muxerStep h (.write data ptsUs rkmuxerWrite)) := by
  have hw := mp4MuxerWriteH264_writing rkmuxerWrite h.state data ptsUs.toInt
  unfold advance
  simp only [muxerStep]
  generalize mp4MuxerWriteH264 rkmuxerWrite h.state data ptsUs.toInt = r at hw
  cases hw with
  | refused e _ =>
    simp only [Option.toList_none, List.map_nil, List.append_nil]
    exact hc
  | failed _ hret =>
    have hsame : accepted (h.events ++ [.writeVideoFrame h.state.id ⟨data, ptsUs.toInt,
        (inspectAnnexbH264 data).hasIdr⟩ rkmuxerWrite]) = accepted h.events := by
      simp [accepted, VendorCall.accepted, hret]
    constructor
    all_goals simp only [Option.toList_some, List.map_cons, List.map_nil, hsame]
    · exact hc.nonneg
    · exact hc.increasing
    · exact hc.first
    · exact hc.vcl
    · exact hc.keyFrame
    · exact hc.frameCount
    · exact hc.keyFrameCount
    · exact hc.lastPts
    · simpa [List.countP_append, VendorCall.isDeinit] using hc.deinit
  | accepted hinit _ hret hpts hlast hvcl hfirst =>
    have hmore : accepted (h.events ++ [.writeVideoFrame h.state.id ⟨data, ptsUs.toInt,
        (inspectAnnexbH264 data).hasIdr⟩ rkmuxerWrite]) =
        accepted h.events ++ [⟨data, ptsUs.toInt, (inspectAnnexbH264 data).hasIdr⟩] := by
      simp [accepted, VendorCall.accepted, hret]
    have hzero : h.state.frameCount = 0 ↔ accepted h.events = [] := by
      rw [← List.length_eq_zero_iff, ← hc.frameCount, ← UInt64.toNat_inj]
      rfl
    have hpos : 0 < h.state.frameCount ↔ accepted h.events ≠ [] := by
      rw [Ne, ← hzero, UInt64.lt_iff_toNat_lt, ← UInt64.toNat_inj]
      simp
      omega
    -- neither counter wraps
    obtain ⟨hbelow, hbound⟩ := hc.later fun hsome => hlast (hpos.mpr hsome)
    have hkeys : (accepted h.events).countP (·.keyFrame) ≤ (accepted h.events).length := List.countP_le_length
    constructor
    all_goals simp only [Option.toList_some, List.map_cons, List.map_nil, hmore]
    · exact List.forall_mem_append.mpr ⟨hc.nonneg, List.forall_mem_singleton.mpr hpts⟩
    · rw [List.pairwise_append]
      refine ⟨hc.increasing, List.pairwise_singleton _ _, ?_⟩
      intro f hf g hg
      rw [List.mem_singleton.mp hg]
      exact hbelow f hf
    · intro f hf
      cases ha : accepted h.events with
      | nil =>
        rw [ha] at hf
        simp only [List.nil_append, List.head?_cons, Option.mem_def, Option.some.injEq] at hf
        subst hf
        obtain ⟨h5, h7, h8⟩ := hfirst (hzero.mpr ha)
        exact ⟨hasUnit_flagged (.inl rfl) h5, hasUnit_flagged (.inr (.inl rfl)) h7,
          hasUnit_flagged (.inr (.inr rfl)) h8⟩
      | cons g gs =>
        apply hc.first
        rw [ha] at hf ⊢
        exact hf
    · exact List.forall_mem_append.mpr ⟨hc.vcl, List.forall_mem_singleton.mpr (hasUnit_vcl hvcl)⟩
    · exact List.forall_mem_append.mpr ⟨hc.keyFrame, List.forall_mem_singleton.mpr rfl⟩
    · rw [UInt64.toNat_add, hc.frameCount, List.length_append, List.length_singleton]
      simp
      omega
    · rw [List.countP_append]
      cases hkey : (inspectAnnexbH264 data).hasIdr with
      | true =>
        rw [if_pos rfl, UInt64.toNat_add, hc.keyFrameCount]
        simp
        omega
      | false =>
        simpa using hc.keyFrameCount
    · rw [lastPtsOf_concat]
    · simpa [List.countP_append, VendorCall.isDeinit] using hc.deinit

/-- **A close keeps the wrapper consistent.** -/
theorem Consistent.close {h : History Mp4Muxer VendorCall} (hc : Consistent h) (rkmuxerDeinit : Int) :
    Consistent (advance muxerStep h (.close rkmuxerDeinit)) := by
  unfold advance
  cases hinit : h.state.initialized with
  | false =>
    have hclose : mp4MuxerClose rkmuxerDeinit h.state = (h.state, 0, false) := by simp [mp4MuxerClose, hinit]
    simp only [muxerStep, hclose, Bool.false_eq_true, if_false, List.append_nil]
    exact hc
  | true =>
    have hclose : mp4MuxerClose rkmuxerDeinit h.state =
        ({ h.state with initialized := false }, if rkmuxerDeinit ≠ 0 then -1 else 0, true) := by
      simp [mp4MuxerClose, hinit]
    have hsame : accepted (h.events ++ [.deinit h.state.id rkmuxerDeinit]) = accepted h.events := by
      simp [accepted, VendorCall.accepted]
    have hdeinit := hc.deinit
    rw [hinit, if_pos rfl] at hdeinit
    constructor
    all_goals simp only [muxerStep, hclose, Bool.false_eq_true, if_false, if_true, hsame]
    · exact hc.nonneg
    · exact hc.increasing
    · exact hc.first
    · exact hc.vcl
    · exact hc.keyFrame
    · exact hc.frameCount
    · exact hc.keyFrameCount
    · exact hc.lastPts
    · rw [List.countP_append, hdeinit]
      rfl

/-- A muxer that `mp4_muxer_init` has initialized. -/
theorem mp4MuxerInit_some {rkmuxerInit muxerId width height frameRate bitRate : Int} {before muxer : Mp4Muxer}
    {outputPath : Bytes}
    (h : mp4MuxerInit rkmuxerInit before muxerId outputPath width height frameRate bitRate = (muxer, true)) :
    muxer = ⟨muxerId, width, height, frameRate, bitRate, true, 0, 0, -1⟩ := by
  unfold mp4MuxerInit at h
  dsimp only at h
  repeat' split at h
  all_goals simp only [Prod.mk.injEq, Bool.false_eq_true, and_false, and_true] at h
  exact h.symm

theorem consistent_start {muxer : Mp4Muxer} (hinit : muxer.initialized = true) (hframes : muxer.frameCount = 0)
    (hkeys : muxer.keyFrameCount = 0) (hpts : muxer.lastPtsUs = -1) : Consistent ⟨muxer, []⟩ := by
  constructor
  all_goals simp [accepted, hinit, hframes, hkeys, hpts]

/-- **Run lemma**: the wrapper stays consistent. -/
theorem consistent_run {muxer : Mp4Muxer} (hstart : Consistent ⟨muxer, []⟩) (ops : List MuxerOp) :
    Consistent (muxerRun muxer ops) := by
  apply run_induction muxerStep hstart
  intro past op _ hc
  cases op with
  | write data ptsUs rkmuxerWrite => exact hc.write data ptsUs rkmuxerWrite
  | close rkmuxerDeinit => exact hc.close rkmuxerDeinit

/-- A closed wrapper calls the vendor muxer no more. -/
theorem muxerStep_closed (op : MuxerOp) {muxer : Mp4Muxer} (h : muxer.initialized = false) :
    muxerStep op muxer = (muxer, []) := by
  cases op with
  | write data ptsUs rkmuxerWrite => simp [muxerStep, mp4MuxerWriteH264, h]
  | close rkmuxerDeinit => simp [muxerStep, mp4MuxerClose, h]

theorem muxerRun_closed {h : History Mp4Muxer VendorCall} (hclosed : h.state.initialized = false) (ops : List MuxerOp) :
    ops.foldl (advance muxerStep) h = h := by
  induction ops with
  | nil => rfl
  | cons op ops ih =>
    rw [List.foldl_cons, advance, muxerStep_closed op hclosed, List.append_nil]
    exact ih

/-- **Nothing follows a close.** -/
theorem muxerRun_close (muxer : Mp4Muxer) (past future : List MuxerOp) (rkmuxerDeinit : Int) :
    muxerRun muxer (past ++ .close rkmuxerDeinit :: future) = muxerRun muxer (past ++ [.close rkmuxerDeinit]) := by
  have hclosed : (muxerRun muxer (past ++ [.close rkmuxerDeinit])).state.initialized = false := by
    rw [muxerRun, run_concat, advance]
    simp only [muxerStep, mp4MuxerClose]
    split
    · rename_i h
      simpa using h
    · rfl
  have happ : past ++ .close rkmuxerDeinit :: future = past ++ [.close rkmuxerDeinit] ++ future := by simp
  rw [happ, muxerRun, run, List.foldl_append]
  exact muxerRun_closed hclosed future

/-! ## Key frames -/

/-- The frame has an IDR among its NAL units. -/
def VideoFrame.hasIdr (f : VideoFrame) : Bool := (nalUnits f.data).any fun u => unitType u == nalIdr

theorem VideoFrame.hasIdr_iff (f : VideoFrame) : f.hasIdr = true ↔ HasUnit f.data (· == nalIdr) := List.any_eq_true

/-- A write that is about to be accepted has an IDR, but every one stands behind two adjacent start codes where the scan
passes it over; some other slice it sees. -/
def Overlooked (muxer : Mp4Muxer) : MuxerOp → Prop
  | .write data ptsUs rkmuxerWrite =>
    (muxer.initialized = true ∧ data.length ≤ uintMax ∧ 0 ≤ ptsUs.toInt ∧ 0 < muxer.frameCount ∧
      muxer.lastPtsUs < ptsUs.toInt ∧ rkmuxerWrite = 0) ∧
    HasUnit data (· == nalIdr) ∧ (∃ p ∈ seen data, isVcl (unitType p) = true) ∧ ∀ p ∈ seen data, unitType p ≠ nalIdr
  | .close _ => False

/-- **What is overlooked** is accepted, as a frame that is no key frame though it has an IDR. -/
theorem overlooked_write_iff {muxer : Mp4Muxer} {data : Bytes} {ptsUs : Int64} {rkmuxerWrite : Int} :
    Overlooked muxer (.write data ptsUs rkmuxerWrite) ↔
      (mp4MuxerWriteH264 rkmuxerWrite muxer data ptsUs.toInt).error = none ∧ HasUnit data (· == nalIdr) ∧
        (inspectAnnexbH264 data).hasIdr = false := by
  have hscan : (inspectAnnexbH264 data).hasIdr = false ↔ ∀ p ∈ seen data, unitType p ≠ nalIdr := by
    rw [Bool.eq_false_iff, Ne, inspect_hasIdr]
    simp
  rw [Overlooked, hscan, ← inspect_hasVcl]
  constructor
  · rintro ⟨⟨hinit, hsize, hpts, hframes, hlast, hret⟩, hidr, hvcl, hnone⟩
    refine ⟨?_, hidr, hnone⟩
    have hcode : (inspectAnnexbH264 data).hasAnnexbStartCode = true := inspect_startCode hvcl
    have hdata : data.length ≠ 0 := by
      intro hnil
      rw [List.length_eq_zero_iff.mp hnil] at hvcl
      cases hvcl
    have hsome : muxer.frameCount ≠ 0 := fun hzero => by
      rw [hzero] at hframes
      exact absurd hframes (by decide)
    simp [mp4MuxerWriteH264, hinit, hdata, hcode, hvcl, hsome, hret, Nat.not_lt.mpr hsize, Int.not_lt.mpr hpts,
      Int.not_le.mpr hlast]
  · rintro ⟨herror, hidr, hnone⟩
    have hw := mp4MuxerWriteH264_writing rkmuxerWrite muxer data ptsUs.toInt
    generalize mp4MuxerWriteH264 rkmuxerWrite muxer data ptsUs.toInt = r at hw herror
    cases hw with
    | refused e _ => cases herror
    | failed _ _ => cases herror
    | accepted hinit hsize hret hpts hlast hvcl hfirst =>
      have hframes : 0 < muxer.frameCount := by
        by_contra hzero
        have hseen := (hfirst (by simpa using hzero)).1
        rw [hscan.mpr hnone] at hseen
        cases hseen
      exact ⟨⟨hinit, hsize, hpts, hframes, hlast hframes, hret⟩, hidr, hvcl, hnone⟩

/-- A frame that is accepted, among those accepted before. -/
theorem accepted_concat (events : List VendorCall) (id : Int) (frame : VideoFrame) (ret : Int) :
    accepted (events ++ [.writeVideoFrame id frame ret]) = accepted events ++ if ret = 0 then [frame] else [] := by
  by_cases hret : ret = 0 <;> simp [accepted, VendorCall.accepted, hret]

/-- What a call adds to the accepted frames, and whether one is overlooked. -/
theorem muxerStep_accepted (h : History Mp4Muxer VendorCall) (op : MuxerOp) :
    ¬Overlooked h.state op ∧ accepted (advance muxerStep h op).events = accepted h.events ∨
      ∃ f, f.keyFrame = (inspectAnnexbH264 f.data).hasIdr ∧
        (Overlooked h.state op ↔ f.hasIdr = true ∧ f.keyFrame = false) ∧
        accepted (advance muxerStep h op).events = accepted h.events ++ [f] := by
  cases op with
  | close rkmuxerDeinit =>
    refine .inl ⟨id, ?_⟩
    simp only [advance, muxerStep]
    split <;> simp [accepted, VendorCall.accepted]
  | write data ptsUs rkmuxerWrite =>
    rw [overlooked_write_iff]
    have hw := mp4MuxerWriteH264_writing rkmuxerWrite h.state data ptsUs.toInt
    simp only [advance, muxerStep]
    generalize mp4MuxerWriteH264 rkmuxerWrite h.state data ptsUs.toInt = r at hw
    cases hw with
    | refused e _ => exact .inl ⟨by simp, by simp⟩
    | failed _ hret => exact .inl ⟨by simp, by simp [accepted_concat, hret]⟩
    | accepted _ _ hret _ _ _ _ =>
      refine .inr ⟨⟨data, ptsUs.toInt, (inspectAnnexbH264 data).hasIdr⟩, rfl, ?_, by simp [accepted_concat, hret]⟩
      rw [VideoFrame.hasIdr_iff]
      simp

/-- How many accepted frames are marked as key frames, and how many have an IDR. -/
def keyFrames (events : List VendorCall) : Nat := (accepted events).countP (·.keyFrame)

def idrFrames (events : List VendorCall) : Nat := (accepted events).countP (·.hasIdr)

/-- **The two numbers** part where an IDR is overlooked, and nowhere else. -/
theorem muxerStep_counts (h : History Mp4Muxer VendorCall) (op : MuxerOp) :
    (¬Overlooked h.state op → ∃ n, keyFrames (advance muxerStep h op).events = keyFrames h.events + n ∧
      idrFrames (advance muxerStep h op).events = idrFrames h.events + n) ∧
    (Overlooked h.state op → keyFrames (advance muxerStep h op).events = keyFrames h.events ∧
      idrFrames (advance muxerStep h op).events = idrFrames h.events + 1) := by
  unfold keyFrames idrFrames
  rcases muxerStep_accepted h op with ⟨hsees, hsame⟩ | ⟨f, hscan, hoverlooked, hmore⟩
  · rw [hsame]
    exact ⟨fun _ => ⟨0, rfl, rfl⟩, fun h => absurd h hsees⟩
  · rw [hmore, hoverlooked, List.countP_append, List.countP_append, List.countP_singleton, List.countP_singleton]
    have hidr : f.keyFrame = true → f.hasIdr = true := by
      rw [hscan, f.hasIdr_iff]
      exact hasUnit_flagged (.inl rfl)
    cases hkey : f.keyFrame with
    | true => simp [hidr hkey]
    | false => cases hhas : f.hasIdr <;> simp

/-- Every accepted frame with an IDR is marked as a key frame; or some is not. -/
def AllMarked (h : History Mp4Muxer VendorCall) : Prop := keyFrames h.events = idrFrames h.events

def SomeUnmarked (h : History Mp4Muxer VendorCall) : Prop := keyFrames h.events < idrFrames h.events

/-- **Run lemma**: all is marked until something is overlooked, and never again from then on. -/
theorem muxerRun_marked (muxer : Mp4Muxer) (ops : List MuxerOp) :
    Along muxerStep (fun h op => ¬Overlooked h.state op) ⟨muxer, []⟩ ops ∧ AllMarked (muxerRun muxer ops) ∨
      ¬Along muxerStep (fun h op => ¬Overlooked h.state op) ⟨muxer, []⟩ ops ∧ SomeUnmarked (muxerRun muxer ops) := by
  have keep : ∀ h op, AllMarked h → ¬Overlooked h.state op → AllMarked (advance muxerStep h op) := by
    intro h op hall hsees
    obtain ⟨n, hkeys, hidrs⟩ := (muxerStep_counts h op).1 hsees
    rw [AllMarked, hkeys, hidrs, hall]
  have lose : ∀ h op, AllMarked h → ¬¬Overlooked h.state op → SomeUnmarked (advance muxerStep h op) := by
    intro h op hall hover
    obtain ⟨hkeys, hidrs⟩ := (muxerStep_counts h op).2 (not_not.mp hover)
    rw [SomeUnmarked, hkeys, hidrs, hall]
    exact Nat.lt_succ_self _
  have stay : ∀ h op, SomeUnmarked h → SomeUnmarked (advance muxerStep h op) := by
    intro h op hsome
    unfold SomeUnmarked at hsome ⊢
    by_cases hover : Overlooked h.state op
    · obtain ⟨hkeys, hidrs⟩ := (muxerStep_counts h op).2 hover
      omega
    · obtain ⟨n, hkeys, hidrs⟩ := (muxerStep_counts h op).1 hover
      omega
  have hstart : AllMarked ⟨muxer, []⟩ := rfl
  exact along_or muxerStep keep lose stay hstart ops

/-- **What the wrapper keeps**, in the words of its interface. -/
structure MuxerContract (muxer : Mp4Muxer) (ops : List MuxerOp) : Prop where
  nonneg : ∀ f ∈ accepted (muxerRun muxer ops).events, 0 ≤ f.ptsUs
  increasing : (accepted (muxerRun muxer ops).events).Pairwise (·.ptsUs < ·.ptsUs)
  first : ∀ f ∈ (accepted (muxerRun muxer ops).events).head?,
    HasUnit f.data (· == nalIdr) ∧ HasUnit f.data (· == nalSps) ∧ HasUnit f.data (· == nalPps)
  vcl : ∀ f ∈ accepted (muxerRun muxer ops).events, HasUnit f.data isVcl
  frameCount : (muxerRun muxer ops).state.frameCount.toNat = (accepted (muxerRun muxer ops).events).length
  keyFrameCount :
    (muxerRun muxer ops).state.keyFrameCount.toNat = (accepted (muxerRun muxer ops).events).countP (·.hasIdr)
  lastPts : (muxerRun muxer ops).state.lastPtsUs = lastPtsOf (accepted (muxerRun muxer ops).events)
  /-- A write that fails changes nothing. -/
  failing : ∀ data (ptsUs : Int64) rkmuxerWrite,
    let r := mp4MuxerWriteH264 rkmuxerWrite (muxerRun muxer ops).state data ptsUs.toInt
    r.error ≠ none → r.muxer = (muxerRun muxer ops).state ∧ r.keyFrameOut = false
  /-- Nothing reaches the vendor muxer behind a close. -/
  closed : ∀ past rkmuxerDeinit future, ops = past ++ .close rkmuxerDeinit :: future →
    (muxerRun muxer ops).events = (muxerRun muxer (past ++ [.close rkmuxerDeinit])).events
  deinit : (muxerRun muxer ops).events.countP VendorCall.isDeinit ≤ 1

/-- All of it but the number of key frames is kept in every run. -/
theorem Consistent.contract {muxer : Mp4Muxer} {ops : List MuxerOp} (hc : Consistent (muxerRun muxer ops)) :
    MuxerContract muxer ops ↔
      (muxerRun muxer ops).state.keyFrameCount.toNat = (accepted (muxerRun muxer ops).events).countP (·.hasIdr) := by
  refine ⟨MuxerContract.keyFrameCount, fun hkeys => ?_⟩
  refine ⟨hc.nonneg, hc.increasing, hc.first, hc.vcl, hc.frameCount, hkeys, hc.lastPts, ?_, ?_, ?_⟩
  · intro data ptsUs rkmuxerWrite
    exact (mp4MuxerWriteH264_writing rkmuxerWrite _ data ptsUs.toInt).of_error
  · rintro past rkmuxerDeinit future rfl
    rw [muxerRun_close]
  · rw [hc.deinit]
    split <;> omega

/-- **The wrapper over any sequence of calls** after a successful `mp4_muxer_init` keeps its contract exactly where no
call is overlooked: `key_frame_count` is the number of accepted frames with an IDR if and only if the scan sees an IDR in
each of them; everything else it keeps in every run. -/
theorem muxerRun_contract_iff {rkmuxerInit muxerId width height frameRate bitRate : Int} {before muxer : Mp4Muxer}
    {outputPath : Bytes}
    (hinit : mp4MuxerInit rkmuxerInit before muxerId outputPath width height frameRate bitRate = (muxer, true))
    (ops : List MuxerOp) :
    MuxerContract muxer ops ↔ Along muxerStep (fun h op => ¬Overlooked h.state op) ⟨muxer, []⟩ ops := by
  have hm := mp4MuxerInit_some hinit
  have hstart : Consistent ⟨muxer, []⟩ :=
    consistent_start (by rw [hm]) (by rw [hm]) (by rw [hm]) (by rw [hm])
  have hc := consistent_run hstart ops
  rw [hc.contract, hc.keyFrameCount]
  change AllMarked (muxerRun muxer ops) ↔ _
  rcases muxerRun_marked muxer ops with ⟨hall, hmarked⟩ | ⟨hnot, hsome⟩
  · exact iff_of_true hmarked hall
  · exact iff_of_false (Nat.ne_of_lt hsome) hnot

/-- An IDR access unit with its parameter sets, and an access unit whose IDR slice stands behind two adjacent start
codes. -/
def overlooking : List MuxerOp :=
  [.write [0, 0, 1, 0x67, 0x42, 0, 0, 1, 0x68, 0xce, 0, 0, 1, 0x65, 0x88] 0 0,
    .write [0, 0, 1, 0, 0, 1, 0x65, 0x88, 0, 0, 1, 0x41, 0x9a] 33333 0]

/-- Two frames with an IDR are accepted, and `key_frame_count` is 1. -/
theorem muxerRun_overlooks :
    mp4MuxerInit 0 .zero 0 (ascii "video.mp4") 1280 720 30 2000000 =
        (⟨0, 1280, 720, 30, 2000000, true, 0, 0, -1⟩, true) ∧
      ¬MuxerContract ⟨0, 1280, 720, 30, 2000000, true, 0, 0, -1⟩ overlooking := by
  refine ⟨by decide, fun h => ?_⟩
  have hkeys := h.keyFrameCount
  revert hkeys
  decide +kernel

/-- Without the adjacent start codes both are counted. -/
theorem muxerRun_contract_seen :
    MuxerContract ⟨0, 1280, 720, 30, 2000000, true, 0, 0, -1⟩
      [.write [0, 0, 1, 0x67, 0x42, 0, 0, 1, 0x68, 0xce, 0, 0, 1, 0x65, 0x88] 0 0,
        .write [0, 0, 1, 0x65, 0x88, 0, 0, 1, 0x41, 0x9a] 33333 0, .close 0, .close 0] := by
  have hinit : mp4MuxerInit 0 .zero 0 (ascii "video.mp4") 1280 720 30 2000000 =
      (⟨0, 1280, 720, 30, 2000000, true, 0, 0, -1⟩, true) := by decide
  refine (muxerRun_contract_iff hinit _).mpr ⟨fun h => ?_, fun h => ?_, id, id, trivial⟩
  · exact absurd (overlooked_write_iff.mp h).2.2 (by decide)
  · exact absurd (overlooked_write_iff.mp h).2.2 (by decide)

end MiniRtsp.Muxer
