import MiniRtsp.Detector.LiveTool

/-!
# Runs of the live detection tool

Where `main` is says what it holds (`ToolPlace`); the frame it holds is a buffer that the driver has handed over
(`Framed`); what it does with the detector is a run of the detector's life. Every step keeps this (`ToolInv`), and puts
its events in order (`toolRun_orderly`).
-/

namespace MiniRtsp.Detector

open Capture Isp Ledger Trace Wire

/-! ## Events of one kind -/

section Projections

variable (es fs : List ToolEvent)

theorem toolIsp_append : toolIsp (es ++ fs) = toolIsp es ++ toolIsp fs := List.filterMap_append

theorem toolDevice_append : toolDevice (es ++ fs) = toolDevice es ++ toolDevice fs := List.filterMap_append

theorem toolLives_append : toolLives (es ++ fs) = toolLives es ++ toolLives fs := List.filterMap_append

@[simp] theorem toolIsp_isp (es : List IspEvent) : toolIsp (es.map .isp) = es := by
  rw [toolIsp, List.filterMap_map]
  exact List.filterMap_some

@[simp] theorem toolDevice_isp (es : List IspEvent) : toolDevice (es.map .isp) = [] := filterMap_unseen (fun _ => rfl) es

@[simp] theorem toolLives_isp (es : List IspEvent) : toolLives (es.map .isp) = [] := filterMap_unseen (fun _ => rfl) es

@[simp] theorem toolIsp_life (es : List LifeEvent) : toolIsp (es.map .life) = [] := filterMap_unseen (fun _ => rfl) es

@[simp] theorem toolDevice_life (es : List LifeEvent) : toolDevice (es.map .life) = [] :=
  filterMap_unseen (fun _ => rfl) es

@[simp] theorem toolLives_life (es : List LifeEvent) : toolLives (es.map .life) = es := by
  rw [toolLives, List.filterMap_map]
  exact List.filterMap_some

@[simp] theorem toolIsp_buffer (es : List BufferUse) : toolIsp (es.map .buffer) = [] := filterMap_unseen (fun _ => rfl) es

@[simp] theorem toolDevice_buffer (es : List BufferUse) : toolDevice (es.map .buffer) = [] :=
  filterMap_unseen (fun _ => rfl) es

@[simp] theorem toolLives_buffer (es : List BufferUse) : toolLives (es.map .buffer) = [] :=
  filterMap_unseen (fun _ => rfl) es

@[simp] theorem toolIsp_device (es : List (Use Resource)) : toolIsp (es.map .device) = [] :=
  filterMap_unseen (fun _ => rfl) es

@[simp] theorem toolDevice_device (es : List (Use Resource)) : toolDevice (es.map .device) = es := by
  rw [toolDevice, List.filterMap_map]
  exact List.filterMap_some

@[simp] theorem toolLives_device (es : List (Use Resource)) : toolLives (es.map .device) = [] :=
  filterMap_unseen (fun _ => rfl) es

end Projections

/-! ## Where `main` is -/

/-- From `cleanup` on. -/
def ToolPc.late : ToolPc → Bool
  | .cleanup | .waitIdle | .waiting | .destroy | .destroying | .closeCapture | .destroyIsp | .exit | .exited => true
  | _ => false

/-- `isp` is `NULL`, and there is no control. -/
def NoIsp (s : Tool) : Prop := s.isps.controls = [] ∧ s.isp = none

/-- `isp` points to the one control there is. -/
def OneIsp (s : Tool) (started : Bool) : Prop :=
  ∃ c, s.isps.controls = [c] ∧ s.isp = some c.id ∧ c.started = started

def IspAt (s : Tool) : ToolPc → Prop
  | .createIsp | .exit | .exited => NoIsp s
  | .startIsp => OneIsp s false
  | .cleanup | .waitIdle | .waiting | .destroy | .destroying | .closeCapture | .destroyIsp =>
    NoIsp s ∨ ∃ started, OneIsp s started
  | _ => OneIsp s true

/-- Nothing is being done with the detector. -/
def Living.Idle (l : Living) : Prop := l.owner = .ready ∧ l.system.submitter = .idle

def Owner.waits (destroying : Bool) : Owner → Prop
  | .ready => False
  | .finishing _ d | .waiting _ _ d => d = destroying
  | .releasingDetect | .releasing | .freeing => destroying = true

def DetectorAt (detector : Option Living) : ToolPc → Prop
  | .begin | .loop | .acquire | .submit | .release | .ended | .waitIdle | .destroy => ∃ l, detector = some l ∧ l.Idle
  | .submitting => ∃ l, detector = some l ∧ l.owner = .ready ∧ l.system.submitter ≠ .idle
  | .cleanup => detector = none ∨ ∃ l, detector = some l ∧ l.Idle
  | .waiting => ∃ l, detector = some l ∧ l.owner.waits false
  | .destroying => ∃ l, detector = some l ∧ l.owner.waits true
  | _ => detector = none

def FrameAt (frame : Option V4L2Frame) : ToolPc → Prop
  | .warmupRelease _ | .submit | .submitting | .release => frame.isSome = true
  | .cleanup => True
  | _ => frame = none

def CaptureAt (s : Tool) : ToolPc → Prop
  | .createIsp | .startIsp | .initCapture | .destroyIsp | .exit | .exited => s.captureInitialized = false
  | .cleanup | .waitIdle | .waiting | .destroy | .destroying | .closeCapture => True
  | _ => s.captureInitialized = true

/-- The capture loop reads what was settled before. -/
def ConfigAt (settings : ToolSettings) (s : Tool) : ToolPc → Prop
  | .loop | .acquire | .submit | .submitting | .release =>
    s.config.capture = s.capture ∧ s.config.durationSeconds = settings.durationSeconds
  | _ => True

structure ToolPlace (settings : ToolSettings) (s : Tool) (pc : ToolPc) : Prop where
  isp : IspAt s pc
  detector : DetectorAt s.detector pc
  frame : FrameAt s.frame pc
  capture : CaptureAt s pc
  config : ConfigAt settings s pc

/-- Why the tool ends with 0. -/
def Asked (settings : ToolSettings) (events : List ToolEvent) : Prop :=
  .stopped ∈ events ∨ 0 < settings.durationSeconds

structure Reasoned (settings : ToolSettings) (h : History Tool ToolEvent) : Prop where
  stop : h.state.stop = true → .stopped ∈ h.events
  ended : h.state.pc = .ended →
    Asked settings h.events ∨ ispControlShouldQuit h.state.isps h.state.isp = true
  code : h.state.exitCode = 0 → Asked settings h.events

/-- The frame that `main` holds is what the driver has handed over. -/
structure Framed (h : History Tool ToolEvent) : Prop where
  held : ∀ f, h.state.frame = some f → FrameHeld h.events f.index ∧ f.Delivered h.state.capture
  free : ∀ i, FrameHeld h.events i →
    (∃ f, h.state.frame = some f ∧ f.index = i) ∨ h.state.pc.late = true ∧ FrameLost h.events i
  streaming : h.state.captureInitialized = true → ∀ n, .streaming n ∈ h.events ↔ n = h.state.capture.bufferCount
  unopened : h.state.captureInitialized = false → h.state.pc.late = false → ∀ n, .streaming n ∉ h.events

structure ToolInv (settings : ToolSettings) (h : History Tool ToolEvent) : Prop where
  isps : IspInv ⟨h.state.isps, toolIsp h.events⟩
  device : Holds (toolDevice h.events) (if h.state.captureInitialized then h.state.capture.held else 0)
  life : ∃ moves, lifeRun moves = ⟨h.state.detector, toolLives h.events⟩
  framed : Framed h
  reasoned : Reasoned settings h
  place : ToolPlace settings h.state h.state.pc
  running : h.state.pc ≠ .exited → ∀ code, .exited code ∉ h.events

theorem toolInv_start (settings : ToolSettings) : ToolInv settings ⟨.start, []⟩ where
  isps := ispInv_start
  device := holds_nil
  life := ⟨[], rfl⟩
  framed := ⟨by simp [Tool.start], fun i hheld => absurd hheld not_since_nil, by simp [Tool.start], by simp⟩
  reasoned := ⟨by simp [Tool.start], by simp [Tool.start], by simp [Tool.start]⟩
  place := ⟨⟨rfl, rfl⟩, rfl, rfl, rfl, trivial⟩
  running := by simp

section Invariant

variable {settings : ToolSettings} {h : History Tool ToolEvent}

/-! ## What the invariant says -/

/-- RKAIQ runs while `main` takes frames. -/
theorem ToolInv.aiqRunning (hi : ToolInv settings h) (hone : OneIsp h.state true) : AiqRunning h.events := by
  obtain ⟨c, hcontrols, -, hstarted⟩ := hone
  obtain ⟨-, hphase⟩ := hi.isps.live c (by simp [hcontrols])
  rw [hstarted, if_pos rfl] at hphase
  exact ⟨c.id, hphase⟩

theorem ToolInv.lifeInv (hi : ToolInv settings h) :
    LifeInv ⟨h.state.detector, toolLives h.events⟩ ∧ SubmitOk ⟨h.state.detector, toolLives h.events⟩ := by
  obtain ⟨moves, hmoves⟩ := hi.life
  rw [← hmoves]
  exact ⟨lifeRun_inv moves, lifeRun_submitting moves⟩

/-- Without a detector RockIVA is off. -/
theorem ToolInv.detectorGone (hi : ToolInv settings h) (hnone : h.state.detector = none) :
    DetectorGone (toolLives h.events) := by
  obtain ⟨hinv, -⟩ := hi.lifeInv
  have hphase := hinv.phase
  have hheld := hinv.held
  rw [hnone] at hphase hheld
  exact ⟨hphase, hheld.settled⟩

/-- What `main` does with a detector. -/
theorem DetectorAt.cases {l : Living} {pc : ToolPc} (hat : DetectorAt (some l) pc) :
    pc = .submitting ∨ l.Idle ∨ ∃ destroying, l.owner.waits destroying := by
  cases pc with
  | begin | loop | acquire | submit | release | ended | waitIdle | destroy =>
    obtain ⟨l', ⟨⟩, hidle⟩ := hat
    exact .inr (.inl hidle)
  | submitting => exact .inl rfl
  | cleanup =>
    rcases hat with hnone | ⟨l', ⟨⟩, hidle⟩
    · cases hnone
    · exact .inr (.inl hidle)
  | waiting | destroying =>
    obtain ⟨l', ⟨⟩, hwaits⟩ := hat
    exact .inr (.inr ⟨_, hwaits⟩)
  | _ => cases hat

theorem Owner.waits.not_ready {owner : Owner} {destroying : Bool} (h : owner.waits destroying) : owner ≠ .ready := by
  rintro rfl
  exact h

/-- A submission goes on only where `main` waits for it. -/
theorem ToolInv.not_submitting (hi : ToolInv settings h) (hpc : h.state.pc ≠ .submitting) :
    ¬Submitting (currentSlots (toolLives h.events)) := by
  intro hsubmitting
  obtain ⟨hinv, hok⟩ := hi.lifeInv
  obtain ⟨l, hl, hbusy⟩ := hok.mp hsubmitting
  have hat := hi.place.detector
  rw [show h.state.detector = some l from hl] at hat
  rcases hat.cases with hwhere | hidle | ⟨destroying, hwaits⟩
  · exact hpc hwhere
  · exact hbusy hidle.2
  · exact hbusy ((hinv.lived l hl).idle hwaits.not_ready)

/-! ## Events that are no frames -/

theorem frameHeld_append {es fs : List ToolEvent} (hfs : ∀ e ∈ fs, ∀ u, e ≠ .buffer u) (i : Nat) :
    FrameHeld (es ++ fs) i ↔ FrameHeld es i :=
  since_append fun e he => ⟨hfs e he _, hfs e he _⟩

theorem frameLost_append {es fs : List ToolEvent} (hfs : ∀ e ∈ fs, ∀ n, e ≠ .streaming n) {i : Nat}
    (hlost : FrameLost es i) : FrameLost (es ++ fs) i := by
  rcases hlost with hrefused | hforeign
  · exact .inl (List.mem_append_left _ hrefused)
  · refine .inr fun n hn => ?_
    rcases List.mem_append.mp hn with hn | hn
    · exact hforeign n hn
    · exact absurd rfl (hfs _ hn n)

/-- Frames and buffers stay as they are. -/
theorem Framed.unseen (hf : Framed h) {s : Tool} {es : List ToolEvent} (hframe : s.frame = h.state.frame)
    (hcapture : s.capture = h.state.capture) (hinitialized : s.captureInitialized = h.state.captureInitialized)
    (hlate : h.state.pc.late = true → s.pc.late = true)
    (hes : ∀ e ∈ es, (∀ u, e ≠ .buffer u) ∧ ∀ n, e ≠ .streaming n) : Framed ⟨s, h.events ++ es⟩ := by
  have hsame : ∀ i, FrameHeld (h.events ++ es) i ↔ FrameHeld h.events i := frameHeld_append fun e he => (hes e he).1
  have hstreaming : ∀ n, .streaming n ∈ h.events ++ es ↔ .streaming n ∈ h.events := fun n => by
    rw [List.mem_append]
    exact or_iff_left fun hn => (hes _ hn).2 n rfl
  refine ⟨fun f hfr => ?_, fun i hheld => ?_, fun hinit n => ?_, fun hinit hearly n => ?_⟩ <;> dsimp only at *
  · rw [hframe] at hfr
    rw [hsame, hcapture]
    exact hf.held f hfr
  · rw [hframe]
    refine (hf.free i ((hsame i).mp hheld)).imp id fun ⟨hwas, hlost⟩ => ⟨hlate hwas, ?_⟩
    exact frameLost_append (fun e he => (hes e he).2) hlost
  · rw [hstreaming, hcapture]
    exact hf.streaming (hinitialized ▸ hinit) n
  · rw [hstreaming]
    refine hf.unopened (hinitialized ▸ hinit) ?_ n
    by_contra hwas
    rw [hlate (Bool.not_eq_false _ ▸ hwas)] at hearly
    cases hearly

theorem asked_append {es fs : List ToolEvent} (h : Asked settings es) : Asked settings (es ++ fs) :=
  h.imp (List.mem_append_left _) id

theorem Reasoned.same (hr : Reasoned settings h) {s : Tool} {es : List ToolEvent} (hstop : s.stop = h.state.stop)
    (hcode : s.exitCode = h.state.exitCode)
    (hended : s.pc = .ended → Asked settings (h.events ++ es) ∨ ispControlShouldQuit s.isps s.isp = true) :
    Reasoned settings ⟨s, h.events ++ es⟩ := by
  refine ⟨fun h' => ?_, hended, fun h' => ?_⟩
  · exact List.mem_append_left _ (hr.stop (hstop ▸ h'))
  · exact asked_append (hr.code (hcode ▸ h'))

/-! ## Steps of one kind -/

/-- A step of `main` that calls nothing. -/
theorem ToolInv.internal (hi : ToolInv settings h) {s : Tool} (hpc : h.state.pc ≠ .exited)
    (hisps : s.isps = h.state.isps) (hcapture : s.capture = h.state.capture)
    (hinitialized : s.captureInitialized = h.state.captureInitialized) (hframe : s.frame = h.state.frame)
    (hdetector : s.detector = h.state.detector) (hlate : h.state.pc.late = true → s.pc.late = true)
    (hreasoned : Reasoned settings ⟨s, h.events⟩) (hplace : ToolPlace settings s s.pc) :
    ToolInv settings ⟨s, h.events ++ []⟩ ∧ Monitored (fun before => ToolOk settings (h.events ++ before)) [] := by
  refine ⟨?_, monitored_nil⟩
  have hframed : Framed ⟨s, h.events ++ []⟩ := hi.framed.unseen hframe hcapture hinitialized hlate (by simp)
  rw [List.append_nil] at hframed ⊢
  refine ⟨?_, ?_, ?_, hframed, hreasoned, hplace, fun _ => hi.running hpc⟩ <;> dsimp only
  · rw [hisps]
    exact hi.isps
  · rw [hinitialized, hcapture]
    exact hi.device
  · rw [hdetector]
    exact hi.life

/-- Before the end the law is all there is to the order. -/
theorem monitored_running {es : List ToolEvent} (hrunning : ∀ code, .exited code ∉ h.events)
    (hexited : ∀ code, .exited code ∉ es)
    (hlaw : Monitored (fun before => ToolLaw settings (h.events ++ before)) es) :
    Monitored (fun before => ToolOk settings (h.events ++ before)) es := by
  intro before e after heq
  refine ⟨fun code => ?_, hlaw before e after heq⟩
  have hnone := hexited code
  rw [heq] at hnone
  simp only [List.mem_append, not_or] at hnone ⊢
  exact ⟨hrunning code, hnone.1⟩

/-- Events of one kind that take and give back nothing of another. -/
theorem monitored_kind {α : Type*} {kind : α → ToolEvent} {xs : List α} (hrunning : ∀ code, .exited code ∉ h.events)
    (hkind : ∀ x code, kind x ≠ .exited code)
    (hlaw : ∀ (ys : List α) x, x ∈ xs → ToolLaw settings (h.events ++ ys.map kind) (kind x)) :
    Monitored (fun before => ToolOk settings (h.events ++ before)) (xs.map kind) := by
  refine monitored_running hrunning (fun code he => ?_) fun before e after heq => ?_
  · obtain ⟨x, -, hx⟩ := List.mem_map.mp he
    exact hkind x code hx
  · obtain ⟨ys, zs, hxs, rfl, hzs⟩ := List.map_eq_append_iff.mp heq
    obtain ⟨x, zs', rfl, rfl, -⟩ := List.map_eq_cons_iff.mp hzs
    exact hlaw ys x (by simp [hxs])

/-- A call of RKAIQ, or a callback. -/
theorem ToolInv.ispCall (hi : ToolInv settings h) {s : Tool} {es : List IspEvent} (hpc : h.state.pc ≠ .exited)
    (hisps : IspInv ⟨s.isps, toolIsp h.events ++ es⟩) (hcapture : s.capture = h.state.capture)
    (hinitialized : s.captureInitialized = h.state.captureInitialized) (hframe : s.frame = h.state.frame)
    (hdetector : s.detector = h.state.detector) (hlate : h.state.pc.late = true → s.pc.late = true)
    (hreasoned : Reasoned settings ⟨s, h.events ++ es.map .isp⟩) (hplace : ToolPlace settings s s.pc)
    (hclosed : ∀ id, (∃ ok, .aiq id (.stop ok) ∈ es) ∨ .aiq id .deinit ∈ es →
      DetectorGone (toolLives h.events) ∧ Settled (toolDevice h.events)) :
    ToolInv settings ⟨s, h.events ++ es.map .isp⟩ ∧
      Monitored (fun before => ToolOk settings (h.events ++ before)) (es.map .isp) := by
  have hrunning := hi.running hpc
  constructor
  · have hframed : Framed ⟨s, h.events ++ es.map .isp⟩ := by
      refine hi.framed.unseen hframe hcapture hinitialized hlate fun e he => ?_
      obtain ⟨x, -, rfl⟩ := List.mem_map.mp he
      simp
    refine ⟨?_, ?_, ?_, hframed, hreasoned, hplace, fun _ code => by simpa using hrunning code⟩ <;> dsimp only
    · rw [toolIsp_append, toolIsp_isp]
      exact hisps
    · rw [toolDevice_append, toolDevice_isp, List.append_nil, hinitialized, hcapture]
      exact hi.device
    · rw [toolLives_append, toolLives_isp, List.append_nil, hdetector]
      exact hi.life
  · refine monitored_kind hrunning (by simp) ?_
    intro ys x hx
    have hsame : toolLives (h.events ++ ys.map .isp) = toolLives h.events ∧
        toolDevice (h.events ++ ys.map .isp) = toolDevice h.events := by
      simp [toolLives_append, toolDevice_append]
    cases x with
    | aiq id call =>
      cases call with
      | stop ok => simpa only [ToolLaw, hsame] using hclosed id (.inl ⟨ok, hx⟩)
      | deinit => simpa only [ToolLaw, hsame] using hclosed id (.inr hx)
      | _ => trivial
    | _ => trivial

/-- A call of the detector's interface, or a callback of RockIVA. -/
theorem ToolInv.lifeCall (hi : ToolInv settings h) {s : Tool} (move : LifeMove) (hpc : h.state.pc ≠ .exited)
    (hisps : s.isps = h.state.isps) (hcapture : s.capture = h.state.capture)
    (hinitialized : s.captureInitialized = h.state.captureInitialized) (hframe : s.frame = h.state.frame)
    (hdetector : s.detector = (lifeStep move h.state.detector).1) (hlate : h.state.pc.late = true → s.pc.late = true)
    (hreasoned : Reasoned settings ⟨s, h.events ++ (lifeStep move h.state.detector).2.map .life⟩)
    (hplace : ToolPlace settings s s.pc)
    (hreserved : ∀ i x, .slot (.reserved i x) ∈ (lifeStep move h.state.detector).2 →
      AiqRunning h.events ∧ ∃ i, FrameHeld h.events i) :
    ToolInv settings ⟨s, h.events ++ (lifeStep move h.state.detector).2.map .life⟩ ∧
      Monitored (fun before => ToolOk settings (h.events ++ before))
        ((lifeStep move h.state.detector).2.map .life) := by
  have hrunning := hi.running hpc
  constructor
  · have hframed : Framed ⟨s, h.events ++ (lifeStep move h.state.detector).2.map .life⟩ := by
      refine hi.framed.unseen hframe hcapture hinitialized hlate fun e he => ?_
      obtain ⟨x, -, rfl⟩ := List.mem_map.mp he
      simp
    refine ⟨?_, ?_, ?_, hframed, hreasoned, hplace, fun _ code => by simpa using hrunning code⟩ <;> dsimp only
    · rw [toolIsp_append, toolIsp_life, List.append_nil, hisps]
      exact hi.isps
    · rw [toolDevice_append, toolDevice_life, List.append_nil, hinitialized, hcapture]
      exact hi.device
    · obtain ⟨moves, hmoves⟩ := hi.life
      refine ⟨moves ++ [move], ?_⟩
      rw [lifeRun, run_concat, ← lifeRun, hmoves, hdetector, toolLives_append, toolLives_life]
      rfl
  · refine monitored_kind hrunning (by simp) ?_
    intro ys x hx
    have haiq : AiqRunning h.events → AiqRunning (h.events ++ ys.map .life) := by
      unfold AiqRunning
      rw [toolIsp_append, toolIsp_life, List.append_nil]
      exact id
    have hheld : ∀ i, FrameHeld (h.events ++ ys.map .life) i ↔ FrameHeld h.events i := by
      refine frameHeld_append fun e he u => ?_
      obtain ⟨y, -, rfl⟩ := List.mem_map.mp he
      simp
    cases x with
    | slot e =>
      cases e with
      | reserved i y =>
        obtain ⟨hrunningAiq, j, hj⟩ := hreserved i y hx
        exact ⟨haiq hrunningAiq, j, (hheld j).mpr hj⟩
      | _ => trivial
    | _ => trivial

/-! ## RKAIQ -/

/-- While the camera is closed, nothing of it is held. -/
theorem ToolInv.deviceSettled (hi : ToolInv settings h) (hcapture : h.state.captureInitialized = false) :
    Settled (toolDevice h.events) := by
  have hheld := hi.device
  rw [hcapture] at hheld
  exact hheld.settled

theorem ToolInv.createIsp (hi : ToolInv settings h) (hpc : h.state.pc = .createIsp) (answers : ToolAnswers) :
    ToolInv settings ⟨(toolCreateIsp settings answers h.state).1, h.events ++ (toolCreateIsp settings answers h.state).2⟩ ∧
      Monitored (fun before => ToolOk settings (h.events ++ before)) (toolCreateIsp settings answers h.state).2 := by
  obtain ⟨hisp, hdetector, hframe, hcapture, -⟩ := hpc ▸ hi.place
  have hdevice := hi.deviceSettled hcapture
  have hinv := ispStep_inv (.create answers.isp (some ⟨settings.cameraId, some settings.iqDir, 0, false⟩)) hi.isps
  rcases ispControlCreate_cases answers.isp (some ⟨settings.cameraId, some settings.iqDir, 0, false⟩) h.state.isps with
    ⟨hnone, hfails⟩ | ⟨c, hc, hcreates⟩
  · unfold toolCreateIsp
    dsimp only
    rw [hnone]
    refine hi.ispCall (by simp [hpc]) hinv rfl rfl rfl rfl (by simp [hpc, ToolPc.late])
      (hi.reasoned.same rfl rfl (by simp)) ⟨.inl ⟨?_, rfl⟩, .inl hdetector, trivial, trivial, trivial⟩
      fun _ _ => ⟨hi.detectorGone hdetector, hdevice⟩
    exact hfails.controls.trans hisp.1
  · unfold toolCreateIsp
    dsimp only
    rw [hc]
    refine hi.ispCall (by simp [hpc]) hinv rfl rfl rfl rfl (by simp [hpc, ToolPc.late])
      (hi.reasoned.same rfl rfl (by simp)) ⟨⟨c, ?_, rfl, hcreates.started⟩, hdetector, hframe, hcapture, trivial⟩
      fun _ _ => ⟨hi.detectorGone hdetector, hdevice⟩
    dsimp only
    rw [hcreates.state, hisp.1]

theorem ToolInv.startIsp (hi : ToolInv settings h) (hpc : h.state.pc = .startIsp) (answers : ToolAnswers) :
    ToolInv settings ⟨(toolStartIsp answers h.state).1, h.events ++ (toolStartIsp answers h.state).2⟩ ∧
      Monitored (fun before => ToolOk settings (h.events ++ before)) (toolStartIsp answers h.state).2 := by
  obtain ⟨⟨c, hcontrols, hisp, -⟩, hdetector, hframe, hcapture, -⟩ := hpc ▸ hi.place
  have hdevice := hi.deviceSettled hcapture
  have hinv := ispStep_inv (.start answers.isp h.state.isp) hi.isps
  have hget : h.state.isps.get h.state.isp = some c := hisp ▸ Isps.get_single hcontrols
  have hlive := hi.isps.live c (by simp [hcontrols])
  obtain ⟨-, hid, -, -⟩ := ispControlStart_spec answers.isp hlive
  have hone : (ispStep (.start answers.isp h.state.isp) h.state.isps).1.controls = [(ispControlStart answers.isp c).1] := by
    simp only [ispStep, hget, Isps.put, hcontrols, hid, List.map_cons, List.map_nil, if_true]
  unfold toolStartIsp
  dsimp only
  rw [hget]
  dsimp only
  split
  · rename_i hresult
    refine hi.ispCall (by simp [hpc]) hinv rfl rfl rfl rfl (by simp [hpc, ToolPc.late])
      (hi.reasoned.same rfl rfl (by simp)) ⟨⟨_, hone, ?_, ?_⟩, hdetector, hframe, hcapture, trivial⟩
      fun _ _ => ⟨hi.detectorGone hdetector, hdevice⟩
    · rw [hid]
      exact hisp
    · exact ispControlStart_result answers.isp hlive.1 hresult
  · refine hi.ispCall (by simp [hpc]) hinv rfl rfl rfl rfl (by simp [hpc, ToolPc.late])
      (hi.reasoned.same rfl rfl (by simp)) ⟨.inr ⟨_, _, hone, ?_, rfl⟩, .inl hdetector, trivial, trivial, trivial⟩
      fun _ _ => ⟨hi.detectorGone hdetector, hdevice⟩
    rw [hid]
    exact hisp

theorem ToolInv.destroyIsp (hi : ToolInv settings h) (hpc : h.state.pc = .destroyIsp) (answers : ToolAnswers) :
    ToolInv settings ⟨(toolDestroyIsp answers h.state).1, h.events ++ (toolDestroyIsp answers h.state).2⟩ ∧
      Monitored (fun before => ToolOk settings (h.events ++ before)) (toolDestroyIsp answers h.state).2 := by
  obtain ⟨hisps, hdetector, hframe, hcapture, -⟩ := hpc ▸ hi.place
  have hdevice := hi.deviceSettled hcapture
  have hinv := ispStep_inv (.destroy answers.isp h.state.isp) hi.isps
  have hnone : (ispStep (.destroy answers.isp h.state.isp) h.state.isps).1.controls = [] := by
    rcases hisps with ⟨hcontrols, hisp⟩ | ⟨-, c, hcontrols, hisp, -⟩
    · have hget : h.state.isps.get h.state.isp = none := by simp [Isps.get, hcontrols]
      simp only [ispStep, hget, hcontrols]
    · have hget : h.state.isps.get h.state.isp = some c := hisp ▸ Isps.get_single hcontrols
      simp [ispStep, hget, hcontrols]
  exact hi.ispCall (by simp [hpc]) hinv rfl rfl rfl rfl (by simp [toolDestroyIsp, ToolPc.late])
    (hi.reasoned.same rfl rfl (by simp [toolDestroyIsp])) ⟨⟨hnone, rfl⟩, hdetector, hframe, hcapture, trivial⟩
    fun _ _ => ⟨hi.detectorGone hdetector, hdevice⟩

/-- What a place depends on. -/
theorem ToolPlace.same {s s' : Tool} {pc : ToolPc} (hplace : ToolPlace settings s pc)
    (hcontrols : s'.isps.controls = s.isps.controls) (hisp : s'.isp = s.isp) (hdetector : DetectorAt s'.detector pc)
    (hframe : s'.frame = s.frame) (hinitialized : s'.captureInitialized = s.captureInitialized)
    (hcapture : s'.capture = s.capture) (hconfig : s'.config = s.config) : ToolPlace settings s' pc := by
  have hno : NoIsp s' = NoIsp s := by rw [NoIsp, hcontrols, hisp, NoIsp]
  have hone : ∀ started, OneIsp s' started = OneIsp s started := fun started => by
    rw [OneIsp, hcontrols, hisp, OneIsp]
  obtain ⟨hisps, -, hframes, hcaptures, hconfigs⟩ := hplace
  refine ⟨?_, hdetector, hframe ▸ hframes, ?_, ?_⟩
  · simpa only [IspAt, hno, hone] using hisps
  · simpa only [CaptureAt, hinitialized] using hcaptures
  · simpa only [ConfigAt, hconfig, hcapture] using hconfigs

theorem ToolInv.callback (hi : ToolInv settings h) {move : IspMove} (hpc : h.state.pc ≠ .exited)
    (hmove : move = .sof ∨ ∃ bypass, move = .error bypass) :
    ToolInv settings ⟨{ h.state with isps := (ispStep move h.state.isps).1 },
        h.events ++ (ispStep move h.state.isps).2.map .isp⟩ ∧
      Monitored (fun before => ToolOk settings (h.events ++ before)) ((ispStep move h.state.isps).2.map .isp) := by
  have hquiet : (ispStep move h.state.isps).1.controls = h.state.isps.controls ∧
      (∀ e ∈ (ispStep move h.state.isps).2, e = .quitReported) ∧
      (h.state.isps.shouldQuit = true → (ispStep move h.state.isps).1.shouldQuit = true) := by
    rcases hmove with rfl | ⟨bypass, rfl⟩
    · exact ⟨rfl, by simp [ispStep], id⟩
    · cases bypass <;> simp [ispStep]
  obtain ⟨hcontrols, hevents, hquit⟩ := hquiet
  refine hi.ispCall hpc (ispStep_inv move hi.isps) rfl rfl rfl rfl id (hi.reasoned.same rfl rfl fun hended => ?_)
    (hi.place.same hcontrols rfl hi.place.detector rfl rfl rfl rfl) fun id hstop => ?_
  · refine (hi.reasoned.ended hended).imp asked_append fun hwas => ?_
    simp only [ispControlShouldQuit, Bool.and_eq_true] at hwas ⊢
    exact ⟨hwas.1, hquit hwas.2⟩
  · rcases hstop with ⟨ok, hstop⟩ | hstop
    · exact absurd (hevents _ hstop) (by simp)
    · exact absurd (hevents _ hstop) (by simp)

/-! ## Steps that call nothing -/

theorem ToolInv.warmed (hi : ToolInv settings h) (hpc : h.state.pc = .warmed) :
    ToolInv settings ⟨if h.state.stop then { h.state with pc := .cleanup, exitCode := 0 }
        else { h.state with pc := .createDetector }, h.events ++ []⟩ ∧
      Monitored (fun before => ToolOk settings (h.events ++ before)) [] := by
  obtain ⟨hisp, hdetector, hframe, hcapture, -⟩ := hpc ▸ hi.place
  split
  · rename_i hstop
    have hasked : Asked settings h.events := .inl (hi.reasoned.stop hstop)
    exact hi.internal (by simp [hpc]) rfl rfl rfl rfl rfl (fun _ => rfl)
      ⟨hi.reasoned.stop, by simp, fun _ => hasked⟩
      ⟨.inr ⟨true, hisp⟩, .inl hdetector, trivial, trivial, trivial⟩
  · exact hi.internal (by simp [hpc]) rfl rfl rfl rfl rfl (by simp [hpc, ToolPc.late])
      ⟨hi.reasoned.stop, by simp, hi.reasoned.code⟩ ⟨hisp, hdetector, hframe, hcapture, trivial⟩

theorem ToolInv.begins (hi : ToolInv settings h) (hpc : h.state.pc = .begin) (answers : ToolAnswers) :
    ToolInv settings ⟨toolBegin settings answers h.state, h.events ++ []⟩ ∧
      Monitored (fun before => ToolOk settings (h.events ++ before)) [] := by
  obtain ⟨hisp, hdetector, hframe, hcapture, -⟩ := hpc ▸ hi.place
  refine hi.internal (by simp [hpc]) rfl rfl rfl rfl rfl (by simp [hpc, ToolPc.late])
    ⟨hi.reasoned.stop, fun hended => ?_, hi.reasoned.code⟩ ?_
  · simp only [toolBegin] at hended
    split at hended <;> cases hended
  · simp only [toolBegin]
    split
    · exact ⟨.inr ⟨true, hisp⟩, .inr hdetector, trivial, trivial, trivial⟩
    · exact ⟨hisp, hdetector, hframe, hcapture, rfl, rfl⟩

theorem ToolInv.loops (hi : ToolInv settings h) (hpc : h.state.pc = .loop) (answers : ToolAnswers) :
    ToolInv settings ⟨toolLoop answers h.state, h.events ++ []⟩ ∧
      Monitored (fun before => ToolOk settings (h.events ++ before)) [] := by
  obtain ⟨hisp, hdetector, hframe, hcapture, hconfig⟩ := hpc ▸ hi.place
  unfold toolLoop
  split
  · rename_i hleaves
    refine hi.internal (by simp [hpc]) rfl rfl rfl rfl rfl (by simp [hpc, ToolPc.late])
      ⟨hi.reasoned.stop, fun _ => ?_, hi.reasoned.code⟩ ⟨hisp, hdetector, hframe, hcapture, trivial⟩
    exact hleaves.imp (fun hstop => .inl (hi.reasoned.stop hstop)) id
  · split
    · exact hi.internal (by simp [hpc]) rfl rfl rfl rfl rfl (fun _ => rfl)
        ⟨hi.reasoned.stop, by simp [Tool.fail], hi.reasoned.code⟩
        ⟨.inr ⟨true, hisp⟩, .inr hdetector, trivial, trivial, trivial⟩
    · split
      · rename_i hover
        refine hi.internal (by simp [hpc]) rfl rfl rfl rfl rfl (by simp [hpc, ToolPc.late])
          ⟨hi.reasoned.stop, fun _ => .inl (.inr ?_), hi.reasoned.code⟩ ⟨hisp, hdetector, hframe, hcapture, trivial⟩
        rw [← hconfig.2]
        exact hover.1
      · exact hi.internal (by simp [hpc]) rfl rfl rfl rfl rfl (by simp [hpc, ToolPc.late])
          ⟨hi.reasoned.stop, by simp, hi.reasoned.code⟩ ⟨hisp, hdetector, hframe, hcapture, hconfig⟩

theorem ToolInv.ends (hi : ToolInv settings h) (hpc : h.state.pc = .ended) :
    ToolInv settings ⟨toolEnded h.state, h.events ++ []⟩ ∧
      Monitored (fun before => ToolOk settings (h.events ++ before)) [] := by
  obtain ⟨hisp, hdetector, -, -, -⟩ := hpc ▸ hi.place
  unfold toolEnded
  split
  · exact hi.internal (by simp [hpc]) rfl rfl rfl rfl rfl (fun _ => rfl)
      ⟨hi.reasoned.stop, by simp [Tool.fail], hi.reasoned.code⟩
      ⟨.inr ⟨true, hisp⟩, .inr hdetector, trivial, trivial, trivial⟩
  · rename_i hquit
    have hasked : Asked settings h.events := (hi.reasoned.ended hpc).resolve_right hquit
    exact hi.internal (by simp [hpc]) rfl rfl rfl rfl rfl (fun _ => rfl) ⟨hi.reasoned.stop, by simp, fun _ => hasked⟩
      ⟨.inr ⟨true, hisp⟩, .inr hdetector, trivial, trivial, trivial⟩

/-! ## Frames -/

/-- A call that gets no frame has given back what it has taken, unless the driver refused it or it was none of ours. -/
theorem acquire_failed {cap : V4L2Capture} {rounds : List AcquireRound} {qbuf : Bool} {e : Errno}
    {buffers : List BufferUse} (hfail : v4l2CaptureAcquireFrame cap rounds qbuf = (.error e, buffers)) :
    buffers = [] ∨ e = .eio ∧
      ((∃ i, cap.bufferCount ≤ i ∧ buffers = [.dequeued i]) ∨
        ∃ i, buffers = [.dequeued i, if qbuf then .queued i else .refused i]) := by
  unfold v4l2CaptureAcquireFrame at hfail
  split at hfail
  · cases hfail
    exact .inl rfl
  · rename_i hopen
    split at hfail
    · cases hfail
      exact .inl rfl
    · rename_i buffer _
      split at hfail
      · rename_i hindex
        cases hfail
        exact .inr ⟨rfl, .inl ⟨_, hindex, rfl⟩⟩
      · rename_i hindex
        dsimp only at hfail
        split at hfail
        · have hback := @release_cases cap ⟨0, 0, buffer.index, 0, 0, true⟩ (by omega) rfl (by dsimp only; omega) qbuf
          rw [hback] at hfail
          cases hfail
          refine .inr ⟨rfl, .inr ⟨buffer.index, ?_⟩⟩
          cases qbuf <;> rfl
        · cases hfail

/-- The events of a frame that has been delivered. -/
theorem acquire_delivered {cap : V4L2Capture} {rounds : List AcquireRound} {qbuf : Bool} {frame : V4L2Frame}
    {buffers : List BufferUse} (hok : v4l2CaptureAcquireFrame cap rounds qbuf = (.ok frame, buffers)) :
    frame.Delivered cap ∧ buffers = [.dequeued frame.index] := by
  have hacquired := acquire_acquired cap rounds qbuf
  rw [hok] at hacquired
  cases hacquired with
  | frame hdelivered => exact ⟨hdelivered, rfl⟩

section FrameEvents

variable {es : List ToolEvent} {i j : Nat}

@[simp] theorem frameHeld_dequeued : FrameHeld (es ++ [.buffer (.dequeued i)]) j ↔ i = j ∨ FrameHeld es j := by
  simp [FrameHeld, since_concat]

@[simp] theorem frameHeld_queued : FrameHeld (es ++ [.buffer (.queued i)]) j ↔ FrameHeld es j ∧ i ≠ j := by
  simp [FrameHeld, since_concat]

@[simp] theorem frameHeld_refused : FrameHeld (es ++ [.buffer (.refused i)]) j ↔ FrameHeld es j := by
  simp [FrameHeld, since_concat]

end FrameEvents

/-- `main` has no frame of the driver. -/
theorem Framed.none (hf : Framed h) (hnone : h.state.frame = none) (hearly : h.state.pc.late = false) (i : Nat) :
    ¬FrameHeld h.events i := by
  intro hheld
  rcases hf.free i hheld with ⟨f, hframe, -⟩ | ⟨hlate, -⟩
  · rw [hnone] at hframe
    cases hframe
  · rw [hearly] at hlate
    cases hlate

/-- A step that only takes or gives back a buffer. -/
theorem ToolInv.buffered (hi : ToolInv settings h) {s : Tool} {es : List ToolEvent} (hpc : h.state.pc ≠ .exited)
    (hisps : s.isps = h.state.isps) (hcapture : s.capture = h.state.capture)
    (hinitialized : s.captureInitialized = h.state.captureInitialized) (hdetector : s.detector = h.state.detector)
    (hes : toolIsp es = [] ∧ toolDevice es = [] ∧ toolLives es = []) (hexited : ∀ code, .exited code ∉ es)
    (hframed : Framed ⟨s, h.events ++ es⟩) (hreasoned : Reasoned settings ⟨s, h.events ++ es⟩)
    (hplace : ToolPlace settings s s.pc) : ToolInv settings ⟨s, h.events ++ es⟩ := by
  obtain ⟨hisp, hdevice, hlives⟩ := hes
  refine ⟨?_, ?_, ?_, hframed, hreasoned, hplace, fun _ code => ?_⟩
  · simpa only [toolIsp_append, hisp, List.append_nil, hisps] using hi.isps
  · simpa only [toolDevice_append, hdevice, List.append_nil, hinitialized, hcapture] using hi.device
  · simpa only [toolLives_append, hlives, List.append_nil, hdetector] using hi.life
  · simp only [List.mem_append, not_or]
    exact ⟨hi.running hpc code, hexited code⟩

/-- **A frame that `main` gets**; behind it the capture loop counts it. -/
theorem ToolInv.acquired (hi : ToolInv settings h) {s : Tool} {frame : V4L2Frame} (counted : List Captured)
    (hpc : h.state.pc ≠ .exited) (hearly : h.state.pc.late = false) (hone : OneIsp h.state true)
    (hnone : h.state.frame = none) (hdelivered : frame.Delivered h.state.capture) (hisps : s.isps = h.state.isps)
    (hcapture : s.capture = h.state.capture) (hinitialized : s.captureInitialized = h.state.captureInitialized)
    (hdetector : s.detector = h.state.detector) (hframe : s.frame = some frame)
    (hreasoned : Reasoned settings ⟨s, h.events ++ (.buffer (.dequeued frame.index) :: counted.map .captured)⟩)
    (hplace : ToolPlace settings s s.pc) :
    ToolInv settings ⟨s, h.events ++ (.buffer (.dequeued frame.index) :: counted.map .captured)⟩ ∧
      Monitored (fun before => ToolOk settings (h.events ++ before))
        (.buffer (.dequeued frame.index) :: counted.map .captured) := by
  have hfree := hi.framed.none hnone hearly
  have hheld : ∀ i, FrameHeld (h.events ++ (.buffer (.dequeued frame.index) :: counted.map .captured)) i ↔
      frame.index = i := by
    intro i
    rw [List.append_cons, frameHeld_append fun e he u => by
      obtain ⟨c, -, rfl⟩ := List.mem_map.mp he
      simp, frameHeld_dequeued]
    exact or_iff_left (hfree i)
  have hstreaming : ∀ n, .streaming n ∈ h.events ++ (.buffer (.dequeued frame.index) :: counted.map .captured) ↔
      .streaming n ∈ h.events := by
    intro n
    simp
  constructor
  · refine hi.buffered hpc hisps hcapture hinitialized hdetector ?_ (by simp) ⟨?_, ?_, ?_, ?_⟩ hreasoned hplace
    · exact ⟨filterMap_unseen (fun _ => rfl) counted, filterMap_unseen (fun _ => rfl) counted,
        filterMap_unseen (fun _ => rfl) counted⟩
    · intro f hf
      dsimp only at hf ⊢
      rw [hframe] at hf
      cases hf
      rw [hheld, hcapture]
      exact ⟨rfl, hdelivered⟩
    · intro i hi'
      exact .inl ⟨frame, hframe, (hheld i).mp hi'⟩
    · intro hinit n
      dsimp only at hinit ⊢
      rw [hstreaming, hcapture]
      exact hi.framed.streaming (hinitialized ▸ hinit) n
    · intro hinit _ n
      dsimp only at hinit ⊢
      rw [hstreaming]
      exact hi.framed.unopened (hinitialized ▸ hinit) hearly n
  · refine monitored_running (hi.running hpc) (by simp) (monitored_cons.mpr ⟨?_, ?_⟩)
    · rw [List.append_nil]
      exact ⟨hi.aiqRunning hone, hfree⟩
    · refine monitored_of_forall fun e he before => ?_
      obtain ⟨c, -, rfl⟩ := List.mem_map.mp he
      trivial

/-- **A frame that `main` does not get** has gone back, or is lost. -/
theorem ToolInv.acquireFails (hi : ToolInv settings h) {s : Tool} {e : Errno} {buffers : List BufferUse}
    {rounds : List AcquireRound} {qbuf : Bool} (hpc : h.state.pc ≠ .exited) (hidle : h.state.pc ≠ .submitting)
    (hearly : h.state.pc.late = false) (hone : OneIsp h.state true) (hnone : h.state.frame = none)
    (hopen : h.state.captureInitialized = true)
    (hfail : v4l2CaptureAcquireFrame h.state.capture rounds qbuf = (.error e, buffers))
    (hisps : s.isps = h.state.isps) (hcapture : s.capture = h.state.capture)
    (hinitialized : s.captureInitialized = h.state.captureInitialized) (hdetector : s.detector = h.state.detector)
    (hframe : s.frame = none) (hlate : e = .eio → s.pc.late = true)
    (hreasoned : Reasoned settings ⟨s, h.events ++ buffers.map .buffer⟩) (hplace : ToolPlace settings s s.pc) :
    ToolInv settings ⟨s, h.events ++ buffers.map .buffer⟩ ∧
      Monitored (fun before => ToolOk settings (h.events ++ before)) (buffers.map .buffer) := by
  have hfree := hi.framed.none hnone hearly
  have hcount := hi.framed.streaming hopen
  -- the same for each of the ways to fail: what is still held is lost
  have hall : ∀ es : List BufferUse, (∀ i, FrameHeld (h.events ++ es.map .buffer) i →
        s.pc.late = true ∧ FrameLost (h.events ++ es.map .buffer) i) →
      Framed ⟨s, h.events ++ es.map .buffer⟩ := by
    intro es hlost
    refine ⟨fun f hf => ?_, fun i hheld => .inr (hlost i hheld), fun _ n => ?_, fun hinit => ?_⟩
    · rw [show s.frame = none from hframe] at hf
      cases hf
    · dsimp only
      rw [hcapture, ← hcount n]
      simp
    · rw [show s.captureInitialized = true from hinitialized.trans hopen] at hinit
      cases hinit
  have hsame : ∀ es : List BufferUse, Reasoned settings ⟨s, h.events ++ es.map .buffer⟩ →
      Framed ⟨s, h.events ++ es.map .buffer⟩ → ToolInv settings ⟨s, h.events ++ es.map .buffer⟩ := fun es hr hf =>
    hi.buffered hpc hisps hcapture hinitialized hdetector (by simp) (by simp) hf hr hplace
  have hlaw : ToolLaw settings (h.events ++ []) (.buffer (.dequeued 0)) := by
    rw [List.append_nil]
    exact ⟨hi.aiqRunning hone, hfree⟩
  rcases acquire_failed hfail with rfl | ⟨he, ⟨i, hi', rfl⟩ | ⟨i, rfl⟩⟩
  · refine ⟨hsame [] hreasoned (hall [] fun i hheld => ?_), monitored_nil⟩
    exact absurd (by simpa using hheld) (hfree i)
  · refine ⟨hsame _ hreasoned (hall _ fun j hheld => ⟨hlate he, .inr fun n hn => ?_⟩), ?_⟩
    · have hj : i = j := (frameHeld_dequeued.mp hheld).resolve_right (hfree j)
      have hn' : n = h.state.capture.bufferCount := (hcount n).mp (by simpa using hn)
      omega
    · exact monitored_running (hi.running hpc) (by simp) (monitored_cons.mpr ⟨hlaw, monitored_nil⟩)
  · have hback : Monitored (fun before => ToolLaw settings (h.events ++ before))
        [.buffer (.dequeued i), .buffer (if qbuf then .queued i else .refused i)] := by
      refine monitored_cons.mpr ⟨hlaw, monitored_cons.mpr ⟨?_, monitored_nil⟩⟩
      have hheld : FrameHeld (h.events ++ [.buffer (.dequeued i)]) i ∧
          ¬Submitting (currentSlots (toolLives (h.events ++ [.buffer (.dequeued i)]))) := by
        refine ⟨frameHeld_dequeued.mpr (.inl rfl), ?_⟩
        rw [toolLives_append]
        simpa [toolLives] using hi.not_submitting hidle
      cases qbuf with
      | true => exact hheld
      | false => exact hheld
    refine ⟨hsame _ hreasoned (hall _ fun j hheld => ⟨hlate he, ?_⟩), ?_⟩
    · simp only [List.map_cons, List.map_nil] at hheld ⊢
      rw [List.append_cons] at hheld ⊢
      cases qbuf with
      | true =>
        obtain ⟨hheld, hne⟩ := frameHeld_queued.mp hheld
        rcases frameHeld_dequeued.mp hheld with rfl | hheld
        · exact absurd rfl hne
        · exact absurd hheld (hfree j)
      | false =>
        rcases frameHeld_dequeued.mp (frameHeld_refused.mp hheld) with rfl | hheld
        · exact .inl (by simp)
        · exact absurd hheld (hfree j)
    · exact monitored_running (hi.running hpc) (by cases qbuf <;> simp) hback

/-- **A frame that goes back**, or that the driver refuses; then `main` keeps it, or gives it up in `cleanup`. -/
theorem ToolInv.released (hi : ToolInv settings h) {s : Tool} {frame : V4L2Frame} (ok : Bool)
    (hpc : h.state.pc ≠ .exited) (hidle : h.state.pc ≠ .submitting) (hheld : h.state.frame = some frame)
    (hisps : s.isps = h.state.isps) (hcapture : s.capture = h.state.capture)
    (hinitialized : s.captureInitialized = h.state.captureInitialized) (hdetector : s.detector = h.state.detector)
    (hlate : h.state.pc.late = true → s.pc.late = true)
    (hframe : s.frame = none ∧ (ok = false → s.pc.late = true) ∨ s.frame = some frame ∧ ok = false)
    (hreasoned : Reasoned settings ⟨s, h.events ++ [.buffer (if ok then .queued frame.index else .refused frame.index)]⟩)
    (hplace : ToolPlace settings s s.pc) :
    ToolInv settings ⟨s, h.events ++ [.buffer (if ok then .queued frame.index else .refused frame.index)]⟩ ∧
      Monitored (fun before => ToolOk settings (h.events ++ before))
        [.buffer (if ok then .queued frame.index else .refused frame.index)] := by
  obtain ⟨hhas, hdelivered⟩ := hi.framed.held frame hheld
  -- what was held and is no longer the frame of `main` is lost
  have hother : ∀ i, FrameHeld h.events i → i ≠ frame.index → h.state.pc.late = true ∧ FrameLost h.events i := by
    intro i hheld' hne
    refine (hi.framed.free i hheld').resolve_left ?_
    rintro ⟨f, hf, rfl⟩
    rw [hheld] at hf
    cases hf
    exact hne rfl
  have hunseen : ∀ e ∈ [ToolEvent.buffer (if ok then .queued frame.index else .refused frame.index)],
      ∀ n, e ≠ .streaming n := by
    simp
  have hstreaming : ∀ n,
      .streaming n ∈ h.events ++ [ToolEvent.buffer (if ok then .queued frame.index else .refused frame.index)] ↔
        .streaming n ∈ h.events := by
    simp
  constructor
  · refine hi.buffered hpc hisps hcapture hinitialized hdetector ⟨rfl, rfl, rfl⟩ (by simp) ⟨?_, ?_, ?_, ?_⟩ hreasoned hplace
    · intro f hf
      dsimp only at hf ⊢
      rcases hframe with ⟨hnone, -⟩ | ⟨hsome, rfl⟩
      · rw [hnone] at hf
        cases hf
      · rw [hsome] at hf
        cases hf
        rw [hcapture]
        exact ⟨frameHeld_refused.mpr hhas, hdelivered⟩
    · intro i hi'
      dsimp only at hi' ⊢
      cases ok with
      | true =>
        obtain ⟨hwas, hne⟩ := frameHeld_queued.mp hi'
        obtain ⟨hwasLate, hlost⟩ := hother i hwas (Ne.symm hne)
        exact .inr ⟨hlate hwasLate, frameLost_append hunseen hlost⟩
      | false =>
        by_cases hsame : i = frame.index
        · subst hsame
          rcases hframe with ⟨-, hgivenUp⟩ | ⟨hsome, -⟩
          · exact .inr ⟨hgivenUp rfl, .inl (by simp)⟩
          · exact .inl ⟨frame, hsome, rfl⟩
        · obtain ⟨hwasLate, hlost⟩ := hother i (frameHeld_refused.mp hi') hsame
          exact .inr ⟨hlate hwasLate, frameLost_append hunseen hlost⟩
    · intro hinit n
      dsimp only at hinit ⊢
      rw [hstreaming, hcapture]
      exact hi.framed.streaming (hinitialized ▸ hinit) n
    · intro hinit hearly n
      dsimp only at hinit hearly ⊢
      rw [hstreaming]
      refine hi.framed.unopened (hinitialized ▸ hinit) ?_ n
      by_contra hwas
      rw [hlate (Bool.not_eq_false _ ▸ hwas)] at hearly
      cases hearly
  · refine monitored_running (hi.running hpc) (by simp) (monitored_cons.mpr ⟨?_, monitored_nil⟩)
    rw [List.append_nil]
    cases ok with
    | true => exact ⟨hhas, hi.not_submitting hidle⟩
    | false => exact ⟨hhas, hi.not_submitting hidle⟩

theorem ToolInv.warmsUp (hi : ToolInv settings h) {i : Nat} (hpc : h.state.pc = .warmup i) (answers : ToolAnswers) :
    ToolInv settings ⟨(toolWarmup settings answers i h.state).1, h.events ++ (toolWarmup settings answers i h.state).2⟩ ∧
      Monitored (fun before => ToolOk settings (h.events ++ before)) (toolWarmup settings answers i h.state).2 := by
  obtain ⟨hisp, hdetector, hframe, hcapture, -⟩ := hpc ▸ hi.place
  unfold toolWarmup
  split
  · exact hi.internal (by simp [hpc]) rfl rfl rfl rfl rfl (by simp [hpc, ToolPc.late])
      ⟨hi.reasoned.stop, by simp, hi.reasoned.code⟩ ⟨hisp, hdetector, hframe, hcapture, trivial⟩
  · cases hacquire : v4l2CaptureAcquireFrame h.state.capture answers.acquire answers.requeue with
    | mk acquired buffers =>
      cases acquired with
      | error e =>
        exact hi.acquireFails (by simp [hpc]) (by simp [hpc]) (by simp [hpc, ToolPc.late]) hisp hframe hcapture hacquire
          rfl rfl rfl rfl hframe (fun _ => rfl) (hi.reasoned.same rfl rfl (by simp))
          ⟨.inr ⟨true, hisp⟩, .inl hdetector, trivial, trivial, trivial⟩
      | ok frame =>
        obtain ⟨hdelivered, rfl⟩ := acquire_delivered hacquire
        exact hi.acquired [] (by simp [hpc]) (by simp [hpc, ToolPc.late]) hisp hframe hdelivered rfl rfl rfl rfl rfl
          (hi.reasoned.same rfl rfl (by simp)) ⟨hisp, hdetector, rfl, hcapture, trivial⟩

theorem ToolInv.acquires (hi : ToolInv settings h) (hpc : h.state.pc = .acquire) (answers : ToolAnswers) :
    ToolInv settings ⟨(toolAcquire answers h.state).1, h.events ++ (toolAcquire answers h.state).2⟩ ∧
      Monitored (fun before => ToolOk settings (h.events ++ before)) (toolAcquire answers h.state).2 := by
  obtain ⟨hisp, hdetector, hframe, hcapture, hconfig⟩ := hpc ▸ hi.place
  have hsame : h.state.config.capture = h.state.capture := hconfig.1
  unfold toolAcquire
  rw [hsame]
  cases hacquire : v4l2CaptureAcquireFrame h.state.capture answers.acquire answers.requeue with
  | mk acquired buffers =>
    cases acquired with
    | error e =>
      dsimp only
      split
      · rename_i hstopped
        obtain ⟨rfl, -, hstop⟩ := hstopped
        have hasked : Asked settings h.events := .inl (hi.reasoned.stop hstop)
        exact hi.acquireFails (by simp [hpc]) (by simp [hpc]) (by simp [hpc, ToolPc.late]) hisp hframe hcapture hacquire
          rfl rfl rfl rfl hframe (by simp) (hi.reasoned.same rfl rfl fun _ => .inl (asked_append hasked))
          ⟨hisp, hdetector, hframe, hcapture, trivial⟩
      · exact hi.acquireFails (by simp [hpc]) (by simp [hpc]) (by simp [hpc, ToolPc.late]) hisp hframe hcapture hacquire
          rfl rfl rfl rfl hframe (fun _ => rfl) (hi.reasoned.same rfl rfl (by simp [Tool.fail]))
          ⟨.inr ⟨true, hisp⟩, .inr hdetector, trivial, trivial, trivial⟩
    | ok frame =>
      obtain ⟨hdelivered, rfl⟩ := acquire_delivered hacquire
      dsimp only
      split
      · exact hi.acquired [⟨frame, false⟩] (by simp [hpc]) (by simp [hpc, ToolPc.late]) hisp hframe hdelivered rfl rfl
          rfl rfl rfl (hi.reasoned.same rfl rfl (by simp [Tool.fail]))
          ⟨.inr ⟨true, hisp⟩, .inr hdetector, trivial, trivial, trivial⟩
      · generalize accumulate h.state.config (countCaptured h.state.loop frame) = taken
        obtain ⟨loop, offered⟩ := taken
        refine hi.acquired [⟨frame, offered⟩] (by simp [hpc]) (by simp [hpc, ToolPc.late]) hisp hframe hdelivered rfl rfl
          rfl rfl rfl (hi.reasoned.same rfl rfl ?_) ?_
        · cases offered <;> simp
        · cases offered with
          | true => exact ⟨hisp, hdetector, rfl, hcapture, hconfig⟩
          | false => exact ⟨hisp, hdetector, rfl, hcapture, hconfig⟩

/-- `v4l2_capture_release_frame` in a loop: `main` goes on, or keeps the frame for `cleanup`. -/
theorem ToolInv.releases (hi : ToolInv settings h) (answers : ToolAnswers) {next : ToolPc} {frame : V4L2Frame}
    (hheld : h.state.frame = some frame) (hpc : h.state.pc ≠ .exited) (hidle : h.state.pc ≠ .submitting)
    (hearly : h.state.pc.late = false) (hnext : next ≠ .ended)
    (hplace : ToolPlace settings { h.state with frame := none, pc := next } next)
    (hfail : ToolPlace settings h.state.fail .cleanup) :
    ToolInv settings ⟨(toolRelease answers next h.state).1, h.events ++ (toolRelease answers next h.state).2⟩ ∧
      Monitored (fun before => ToolOk settings (h.events ++ before)) (toolRelease answers next h.state).2 := by
  obtain ⟨-, hdelivered⟩ := hi.framed.held frame hheld
  unfold toolRelease
  rw [hheld]
  dsimp only
  rw [release_cases hdelivered.opened hdelivered.valid hdelivered.index]
  cases answers.release with
  | true =>
    exact hi.released true hpc hidle hheld rfl rfl rfl rfl (by simp [hearly]) (.inl ⟨rfl, by simp⟩)
      (hi.reasoned.same rfl rfl fun hended => absurd hended hnext) hplace
  | false =>
    exact hi.released false hpc hidle hheld rfl rfl rfl rfl (fun _ => rfl) (.inr ⟨hheld, rfl⟩)
      (hi.reasoned.same rfl rfl (by simp [Tool.fail])) hfail

theorem ToolInv.warmupReleases (hi : ToolInv settings h) {i : Nat} (hpc : h.state.pc = .warmupRelease i)
    (answers : ToolAnswers) :
    ToolInv settings ⟨(toolRelease answers (.warmup (i + 1)) h.state).1,
        h.events ++ (toolRelease answers (.warmup (i + 1)) h.state).2⟩ ∧
      Monitored (fun before => ToolOk settings (h.events ++ before)) (toolRelease answers (.warmup (i + 1)) h.state).2 := by
  obtain ⟨hisp, hdetector, hframe, hcapture, -⟩ := hpc ▸ hi.place
  obtain ⟨frame, hframe⟩ := Option.isSome_iff_exists.mp hframe
  exact hi.releases answers hframe (by simp [hpc]) (by simp [hpc]) (by simp [hpc, ToolPc.late]) (by simp)
    ⟨hisp, hdetector, rfl, hcapture, trivial⟩ ⟨.inr ⟨true, hisp⟩, .inl hdetector, trivial, trivial, trivial⟩

theorem ToolInv.loopReleases (hi : ToolInv settings h) (hpc : h.state.pc = .release) (answers : ToolAnswers) :
    ToolInv settings ⟨(toolRelease answers .loop h.state).1, h.events ++ (toolRelease answers .loop h.state).2⟩ ∧
      Monitored (fun before => ToolOk settings (h.events ++ before)) (toolRelease answers .loop h.state).2 := by
  obtain ⟨hisp, hdetector, hframe, hcapture, hconfig⟩ := hpc ▸ hi.place
  obtain ⟨frame, hframe⟩ := Option.isSome_iff_exists.mp hframe
  exact hi.releases answers hframe (by simp [hpc]) (by simp [hpc]) (by simp [hpc, ToolPc.late]) (by simp)
    ⟨hisp, hdetector, rfl, hcapture, hconfig⟩ ⟨.inr ⟨true, hisp⟩, .inr hdetector, trivial, trivial, trivial⟩

theorem ToolInv.cleansUp (hi : ToolInv settings h) (hpc : h.state.pc = .cleanup) (answers : ToolAnswers) :
    ToolInv settings ⟨(toolCleanup answers h.state).1, h.events ++ (toolCleanup answers h.state).2⟩ ∧
      Monitored (fun before => ToolOk settings (h.events ++ before)) (toolCleanup answers h.state).2 := by
  obtain ⟨hisp, hdetector, -, -, -⟩ := hpc ▸ hi.place
  have hplace : ∀ pc, pc = (if h.state.detector.isSome then ToolPc.waitIdle else .closeCapture) →
      ToolPlace settings { h.state with frame := none, pc := pc } pc ∧ pc.late = true ∧ pc ≠ .ended := by
    rintro pc rfl
    rcases hdetector with hnone | ⟨l, hsome, hl⟩
    · simp only [hnone, Option.isSome_none, Bool.false_eq_true, if_false]
      exact ⟨⟨hisp, rfl, rfl, trivial, trivial⟩, rfl, by simp⟩
    · simp only [hsome, Option.isSome_some, if_true]
      exact ⟨⟨hisp, ⟨l, rfl, hl⟩, rfl, trivial, trivial⟩, rfl, by simp⟩
  unfold toolCleanup
  dsimp only
  generalize hnext : (if h.state.detector.isSome then ToolPc.waitIdle else .closeCapture) = next
  obtain ⟨hgoes, hlate, hended⟩ := hplace next hnext.symm
  cases hframe : h.state.frame with
  | none =>
    exact hi.internal (by simp [hpc]) rfl rfl rfl hframe.symm rfl (fun _ => hlate)
      ⟨hi.reasoned.stop, fun h => absurd h hended, hi.reasoned.code⟩ hgoes
  | some frame =>
    obtain ⟨-, hdelivered⟩ := hi.framed.held frame hframe
    dsimp only
    rw [release_cases hdelivered.opened hdelivered.valid hdelivered.index]
    cases answers.release with
    | true =>
      exact hi.released true (by simp [hpc]) (by simp [hpc]) hframe rfl rfl rfl rfl (fun _ => hlate)
        (.inl ⟨rfl, fun _ => hlate⟩) (hi.reasoned.same rfl rfl fun h => absurd h hended) hgoes
    | false =>
      exact hi.released false (by simp [hpc]) (by simp [hpc]) hframe rfl rfl rfl rfl (fun _ => hlate)
        (.inl ⟨rfl, fun _ => hlate⟩) (hi.reasoned.same rfl rfl fun h => absurd h hended) hgoes

/-! ## The camera -/

theorem ToolInv.deviceCall (hi : ToolInv settings h) {s : Tool} {es : List ToolEvent} (hpc : h.state.pc ≠ .exited)
    (hisps : s.isps = h.state.isps) (hdetector : s.detector = h.state.detector)
    (hes : toolIsp es = [] ∧ toolLives es = []) (hexited : ∀ code, .exited code ∉ es)
    (hdevice : Holds (toolDevice h.events ++ toolDevice es) (if s.captureInitialized then s.capture.held else 0))
    (hframed : Framed ⟨s, h.events ++ es⟩) (hreasoned : Reasoned settings ⟨s, h.events ++ es⟩)
    (hplace : ToolPlace settings s s.pc) (hlaw : Monitored (fun before => ToolLaw settings (h.events ++ before)) es) :
    ToolInv settings ⟨s, h.events ++ es⟩ ∧ Monitored (fun before => ToolOk settings (h.events ++ before)) es := by
  obtain ⟨hisp, hlives⟩ := hes
  refine ⟨⟨?_, ?_, ?_, hframed, hreasoned, hplace, fun _ code => ?_⟩,
    monitored_running (hi.running hpc) hexited hlaw⟩
  · simpa only [toolIsp_append, hisp, List.append_nil, hisps] using hi.isps
  · simpa only [toolDevice_append] using hdevice
  · simpa only [toolLives_append, hlives, List.append_nil, hdetector] using hi.life
  · simp only [List.mem_append, not_or]
    exact ⟨hi.running hpc code, hexited code⟩

/-- `v4l2_capture_init` opens the device, and closes it again where it fails. -/
theorem v4l2CaptureInit_cases (answers : InitAnswers) (cap : V4L2Capture) (width height : Int) :
    (∃ c uses, v4l2CaptureInit answers cap width height = (c, uses, false) ∧
        (uses = [] ∨ ∃ fd, uses = [opened fd, closed fd])) ∨
      ∃ c fd, v4l2CaptureInit answers cap width height = (c, [opened fd], true) ∧ c.held = {.descriptor fd} := by
  unfold v4l2CaptureInit
  split
  · exact .inl ⟨_, _, rfl, .inl rfl⟩
  · split
    · exact .inl ⟨_, _, rfl, .inl rfl⟩
    · rename_i fd _
      have hfd := negotiate_fd answers { V4L2Capture.zero with fd := fd }
      generalize negotiate answers { V4L2Capture.zero with fd := fd } = negotiated at hfd
      obtain ⟨c, ok⟩ := negotiated
      dsimp only at hfd ⊢
      have hopen : (0 : Int) ≤ fd := Int.natCast_nonneg fd
      cases ok with
      | true => exact .inr ⟨c, fd, rfl, by rw [V4L2Capture.held, hfd, if_pos hopen]⟩
      | false =>
        refine .inl ⟨_, _, rfl, .inr ⟨fd, ?_⟩⟩
        simp only [v4l2CaptureClose, hfd, if_pos hopen]

theorem ToolInv.initCapture (hi : ToolInv settings h) (hpc : h.state.pc = .initCapture) (answers : ToolAnswers) :
    ToolInv settings ⟨(toolInitCapture settings answers h.state).1,
        h.events ++ (toolInitCapture settings answers h.state).2⟩ ∧
      Monitored (fun before => ToolOk settings (h.events ++ before)) (toolInitCapture settings answers h.state).2 := by
  obtain ⟨hisp, hdetector, hframe, hcapture, -⟩ := hpc ▸ hi.place
  have hearly : h.state.pc.late = false := by simp [hpc, ToolPc.late]
  have hfree := hi.framed.none hframe hearly
  have hclosed : h.state.captureInitialized = false := hcapture
  have hheld := hi.device
  rw [hclosed] at hheld
  -- opening the device and closing it again takes nothing
  have hkept : ∀ es : List ToolEvent, (∀ e ∈ es, ∃ u, e = .device u) → ∀ i, ¬FrameHeld (h.events ++ es) i := by
    intro es hes i
    rw [frameHeld_append fun e he u => by
      obtain ⟨u', rfl⟩ := hes e he
      simp]
    exact hfree i
  have hgone : ∀ es : List (Use Resource), DetectorGone (toolLives (h.events ++ es.map .device)) := by
    intro es
    rw [toolLives_append, toolLives_device, List.append_nil]
    exact hi.detectorGone hdetector
  unfold toolInitCapture
  rcases v4l2CaptureInit_cases answers.init h.state.capture settings.width settings.height with
    ⟨c, uses, hfails, huses⟩ | ⟨c, fd, hopens, hfd⟩
  · rw [hfails]
    simp only [Bool.false_and, Bool.false_eq_true, if_false, List.append_nil]
    refine hi.deviceCall (by simp [hpc]) rfl rfl (by simp) (by simp) ?_ ⟨?_, ?_, by simp, ?_⟩
      (hi.reasoned.same rfl rfl (by simp)) ⟨.inr ⟨true, hisp⟩, .inl hdetector, trivial, trivial, trivial⟩ ?_
    · rw [toolDevice_device]
      rcases huses with rfl | ⟨fd, rfl⟩
      · simpa using hheld
      · exact (bracketed_single (Resource.descriptor fd)).moves _ hheld
    · intro f hf
      rw [show h.state.frame = none from hframe] at hf
      cases hf
    · exact fun i hi' => absurd hi' (hkept _ (by simp) i)
    · intro _ hlate
      simp [ToolPc.late] at hlate
    · rcases huses with rfl | ⟨fd, rfl⟩
      · exact monitored_nil
      · refine monitored_cons.mpr ⟨trivial, monitored_cons.mpr ⟨?_, monitored_nil⟩⟩
        exact ⟨hgone [opened fd], fun i hi' => absurd hi' (hkept [.device (opened fd)] (by simp) i)⟩
  · rw [hopens]
    simp only [Bool.true_and, if_true]
    have hplace : ∀ pc, pc = (if captureFits settings c then ToolPc.warmup 0 else .cleanup) →
        ToolPlace settings { h.state with capture := c, captureInitialized := true, pc := pc } pc ∧ pc ≠ .ended := by
      rintro pc rfl
      split
      · exact ⟨⟨hisp, hdetector, hframe, rfl, trivial⟩, by simp⟩
      · exact ⟨⟨.inr ⟨true, hisp⟩, .inl hdetector, trivial, trivial, trivial⟩, by simp⟩
    generalize (if captureFits settings c then ToolPc.warmup 0 else .cleanup) = pc at hplace ⊢
    obtain ⟨hgoes, hended⟩ := hplace pc rfl
    refine hi.deviceCall (by simp [hpc]) rfl rfl ⟨rfl, rfl⟩ (by simp) ?_ ⟨?_, ?_, ?_, by simp⟩
      (hi.reasoned.same rfl rfl fun h => absurd h hended) hgoes ?_
    · rw [if_pos rfl, hfd]
      exact hheld.acquire _
    · intro f hf
      rw [show h.state.frame = none from hframe] at hf
      cases hf
    · intro i hi'
      rw [frameHeld_append (by simp)] at hi'
      exact absurd hi' (hfree i)
    · intro _ n
      have hnone : .streaming n ∉ h.events := hi.framed.unopened hclosed hearly n
      simp [hnone]
    · exact monitored_cons.mpr ⟨trivial, monitored_cons.mpr ⟨trivial, monitored_nil⟩⟩

theorem ToolInv.closeCapture (hi : ToolInv settings h) (hpc : h.state.pc = .closeCapture) :
    ToolInv settings ⟨(toolCloseCapture h.state).1, h.events ++ (toolCloseCapture h.state).2⟩ ∧
      Monitored (fun before => ToolOk settings (h.events ++ before)) (toolCloseCapture h.state).2 := by
  obtain ⟨hisp, hdetector, hframe, -, -⟩ := hpc ▸ hi.place
  have hnone : h.state.frame = none := hframe
  have hlost : ∀ i, FrameHeld h.events i → FrameLost h.events i := fun i hheld => by
    refine ((hi.framed.free i hheld).resolve_left ?_).2
    rintro ⟨f, hf, -⟩
    rw [hnone] at hf
    cases hf
  unfold toolCloseCapture
  split
  · rename_i hopen
    have hheld := hi.device
    rw [hopen, if_pos rfl] at hheld
    obtain ⟨hmoves, -⟩ := v4l2CaptureClose_moves h.state.capture 0
    have hunseen : ∀ e ∈ (v4l2CaptureClose h.state.capture).2.map ToolEvent.device,
        (∀ u, e ≠ .buffer u) ∧ ∀ n, e ≠ .streaming n := by
      simp
    refine hi.deviceCall (by simp [hpc]) rfl rfl (by simp) (by simp) ?_ ⟨?_, ?_, by simp, by simp [ToolPc.late]⟩
      (hi.reasoned.same rfl rfl (by simp)) ⟨hisp, hdetector, hframe, rfl, trivial⟩ ?_
    · rw [toolDevice_device]
      exact hmoves _ (by simpa using hheld)
    · intro f hf
      rw [show h.state.frame = none from hframe] at hf
      cases hf
    · intro i hi'
      rw [frameHeld_append fun e he => (hunseen e he).1] at hi'
      exact .inr ⟨rfl, frameLost_append (fun e he => (hunseen e he).2) (hlost i hi')⟩
    · have hlaw : ToolLaw settings (h.events ++ []) (.device (closed h.state.capture.fd)) := by
        rw [List.append_nil]
        exact ⟨hi.detectorGone hdetector, hlost⟩
      dsimp only [v4l2CaptureClose]
      split
      · exact monitored_cons.mpr ⟨hlaw, monitored_nil⟩
      · exact monitored_nil
  · rename_i hclosed
    exact hi.internal (by simp [hpc]) rfl rfl rfl rfl rfl (fun _ => rfl)
      ⟨hi.reasoned.stop, by simp, hi.reasoned.code⟩
      ⟨hisp, hdetector, hframe, Bool.eq_false_iff.mpr hclosed, trivial⟩

/-! ## The detector -/

/-- Only the call of a submission reserves a slot. -/
theorem step_reserved {s : System} {move : Move} {i : Nat} {x : UInt32} (h : .reserved i x ∈ (step move s).2) :
    ∃ call, move = .submit call := by
  by_cases hmove : (∀ call, move ≠ .submit call) ∧ ∀ b, move ≠ .proceed b
  · obtain ⟨y, freed, heq⟩ := (step_callback (s := s) hmove).2 _ h
    cases heq
  · cases move with
    | submit call => exact ⟨call, rfl⟩
    | proceed accepts =>
      simp only [step, submitProceeds] at h
      split at h
      · simp at h
      · simp at h
      · split at h <;> simp at h
      · simp at h
      · simp at h
    | _ => exact absurd ⟨by simp, by simp⟩ hmove

/-- What happens to a slot comes from a step of the slots. -/
theorem lifeStep_slot {move : LifeMove} {l : Option Living} {e : SlotEvent} (h : .slot e ∈ (lifeStep move l).2) :
    ∃ m l', move = .slot m ∧ l = some l' ∧ e ∈ (step m l'.system).2 := by
  cases l with
  | none =>
    cases move with
    | create config answers dma cleanup =>
      cases config with
      | none => simp [lifeStep] at h
      | some config =>
        have hnot : LifeEvent.slot e ∉ createEvents config answers dma cleanup :=
          fun he => (createEvents_brings config answers dma cleanup).plain _ he
        simp only [lifeStep] at h
        split at h <;> simp [hnot] at h
    | _ => simp [lifeStep] at h
  | some l =>
    cases move with
    | create config answers dma cleanup => cases config <;> simp [lifeStep] at h
    | slot move =>
      simp only [lifeStep] at h
      split at h
      · rcases List.mem_append.mp h with hpush | hslot
        · unfold pushCall at hpush
          split at hpush
          · split at hpush <;> simp at hpush
          · simp at hpush
        · exact ⟨move, l, rfl, rfl, by simpa using hslot⟩
      · simp at h
    | waitIdle timeoutMs =>
      simp only [lifeStep] at h
      split at h
      · split at h <;> simp at h
      · simp at h
    | destroy =>
      simp only [lifeStep] at h
      split at h <;> simp at h
    | goOn answers =>
      have hfree : LifeEvent.slot e ∉ freeDetector answers.freeMem l.allocated :=
        fun he => (freeDetector_brings answers.freeMem l.allocated).plain _ he
      simp only [lifeStep, ownerStep, Living.waitReturns] at h
      split at h
      · simp at h
      · split at h <;> simp at h
      · split at h
        · simp at h
        · split at h <;> simp at h
      · simp at h
      · simp at h
      · simp [hfree] at h

/-- A call that is not a submission reserves nothing. -/
theorem ToolInv.lifeOther (hi : ToolInv settings h) {s : Tool} (move : LifeMove) (hpc : h.state.pc ≠ .exited)
    (hmove : ∀ call, move ≠ .slot (.submit call)) (hisps : s.isps = h.state.isps)
    (hcapture : s.capture = h.state.capture) (hinitialized : s.captureInitialized = h.state.captureInitialized)
    (hframe : s.frame = h.state.frame) (hdetector : s.detector = (lifeStep move h.state.detector).1)
    (hlate : h.state.pc.late = true → s.pc.late = true)
    (hreasoned : Reasoned settings ⟨s, h.events ++ (lifeStep move h.state.detector).2.map .life⟩)
    (hplace : ToolPlace settings s s.pc) :
    ToolInv settings ⟨s, h.events ++ (lifeStep move h.state.detector).2.map .life⟩ ∧
      Monitored (fun before => ToolOk settings (h.events ++ before))
        ((lifeStep move h.state.detector).2.map .life) := by
  refine hi.lifeCall move hpc hisps hcapture hinitialized hframe hdetector hlate hreasoned hplace fun i x hreserved => ?_
  obtain ⟨m, l, rfl, -, he⟩ := lifeStep_slot hreserved
  obtain ⟨call, rfl⟩ := step_reserved he
  exact absurd rfl (hmove call)

theorem ToolInv.createDetector (hi : ToolInv settings h) (hpc : h.state.pc = .createDetector) (answers : ToolAnswers) :
    ToolInv settings ⟨(toolCreateDetector settings answers h.state).1,
        h.events ++ (toolCreateDetector settings answers h.state).2⟩ ∧
      Monitored (fun before => ToolOk settings (h.events ++ before)) (toolCreateDetector settings answers h.state).2 := by
  obtain ⟨hisp, hdetector, hframe, hcapture, -⟩ := hpc ▸ hi.place
  have hnone : h.state.detector = none := hdetector
  unfold toolCreateDetector toolLife
  dsimp only
  generalize hcall : LifeMove.create (some settings.detectorConfig) answers.create answers.dma answers.cleanup = move
  have hcreates : (lifeStep move h.state.detector).1 = none ∨
      ∃ l, (lifeStep move h.state.detector).1 = some l ∧ l.Idle := by
    have hcase := lifeStep_cases move h.state.detector
    rw [hnone] at hcase ⊢
    generalize lifeStep move none = r at hcase ⊢
    obtain ⟨l', events⟩ := r
    dsimp only at hcase ⊢
    cases hcase with
    | nothing | failed => exact .inl rfl
    | created => exact .inr ⟨_, rfl, rfl, rfl⟩
  refine hi.lifeOther move (by simp [hpc]) (by simp [← hcall]) rfl rfl rfl rfl rfl (by simp [hpc, ToolPc.late])
    (hi.reasoned.same rfl rfl ?_) ?_
  · dsimp only
    split <;> simp
  · rcases hcreates with hfails | ⟨l, hl, hidle⟩
    · simp only [hfails, Option.isSome_none, Bool.false_eq_true, if_false]
      exact ⟨.inr ⟨true, hisp⟩, .inl rfl, trivial, trivial, trivial⟩
    · simp only [hl, Option.isSome_some, if_true]
      exact ⟨hisp, ⟨l, rfl, hidle⟩, hframe, hcapture, trivial⟩

theorem submitResult_none {events : List ToolEvent} :
    submitResult events = none ↔ ∀ ret, .life (.slot (.returned ret)) ∉ events := by
  rw [submitResult, List.findSome?_eq_none_iff]
  constructor
  · intro hnone ret hret
    cases hnone _ hret
  · intro hnot e he
    split
    · rename_i ret
      exact absurd he (hnot ret)
    · rfl

/-- What `lifeStep` does with a submission of an owner that is ready for it. -/
theorem lifeStep_submits {l : Living} (hready : l.owner = .ready) {move : Move}
    (hmove : (∃ call, move = .submit call) ∨ ∃ accepts, move = .proceed accepts) :
    lifeStep (.slot move) (some l) = (some { l with system := (step move l.system).1 },
      pushCall l.system move ++ (step move l.system).2.map .slot) := by
  have hpermits : l.owner.permits move = true := by
    rw [hready]
    rcases hmove with ⟨call, rfl⟩ | ⟨accepts, rfl⟩ <;> rfl
  simp only [lifeStep, hpermits, if_true]

/-- **A submission** begins or goes on. -/
theorem ToolInv.submits (hi : ToolInv settings h) {move : Move} {l : Living}
    (hpc : h.state.pc = .submit ∨ h.state.pc = .submitting) (hl : h.state.detector = some l) (hready : l.owner = .ready)
    (hmove : (∃ call, move = .submit call) ∧ l.system.submitter = .idle ∨
      (∃ accepts, move = .proceed accepts) ∧ l.system.submitter ≠ .idle) :
    ToolInv settings ⟨(toolSubmits move h.state).1, h.events ++ (toolSubmits move h.state).2⟩ ∧
      Monitored (fun before => ToolOk settings (h.events ++ before)) (toolSubmits move h.state).2 := by
  have hplace : OneIsp h.state true ∧ h.state.frame.isSome = true ∧ h.state.captureInitialized = true ∧
      h.state.config.capture = h.state.capture ∧ h.state.config.durationSeconds = settings.durationSeconds ∧
      h.state.pc.late = false ∧ h.state.pc ≠ .exited := by
    have hplace := hi.place
    rcases hpc with hpc | hpc <;> rw [hpc] at hplace ⊢ <;>
      exact ⟨hplace.isp, hplace.frame, hplace.capture, hplace.config.1, hplace.config.2, rfl, by simp⟩
  obtain ⟨hisp, hframe, hcapture, hconfig, hduration, hearly, hrunning⟩ := hplace
  have hstep := lifeStep_submits hready (hmove.imp And.left And.left)
  -- wherever `main` goes from here, it has called the detector
  have hall : ∀ pc loop, pc ≠ .ended →
      ToolPlace settings { h.state with detector := (lifeStep (.slot move) h.state.detector).1, pc := pc, loop := loop } pc →
      ToolInv settings ⟨{ h.state with detector := (lifeStep (.slot move) h.state.detector).1, pc := pc, loop := loop },
          h.events ++ (lifeStep (.slot move) h.state.detector).2.map .life⟩ ∧
        Monitored (fun before => ToolOk settings (h.events ++ before))
          ((lifeStep (.slot move) h.state.detector).2.map .life) := by
    intro pc loop hended hplace
    refine hi.lifeCall (.slot move) hrunning rfl rfl rfl rfl rfl (by simp [hearly])
      (hi.reasoned.same rfl rfl fun h => absurd h hended) hplace fun _ _ _ => ⟨hi.aiqRunning hisp, ?_⟩
    obtain ⟨frame, hframe⟩ := Option.isSome_iff_exists.mp hframe
    exact ⟨_, (hi.framed.held frame hframe).1⟩
  have hreturned : ∀ ret, .life (.slot (.returned ret)) ∈ (lifeStep (.slot move) h.state.detector).2.map ToolEvent.life ↔
      .returned ret ∈ (step move l.system).2 := by
    intro ret
    have hpush : .slot (.returned ret) ∉ pushCall l.system move := by
      unfold pushCall
      split
      · split <;> simp
      · simp
    rw [hl, hstep]
    simp [hpush]
  unfold toolSubmits toolLife
  dsimp only
  rcases step_submits hmove with ⟨hidle, ret, hret⟩ | ⟨hbusy, hnot⟩
  · have hsome : submitResult ((lifeStep (.slot move) h.state.detector).2.map .life) ≠ none := by
      intro hnone
      exact submitResult_none.mp hnone ret ((hreturned ret).mpr hret)
    obtain ⟨ret', hret'⟩ := Option.ne_none_iff_exists'.mp hsome
    rw [hret']
    dsimp only
    have hafter : ∃ l', (lifeStep (.slot move) h.state.detector).1 = some l' ∧ l'.Idle :=
      ⟨{ l with system := (step move l.system).1 }, by rw [hl, hstep], hready, hidle⟩
    split
    · exact hall .cleanup h.state.loop.cleanup (by simp) ⟨.inr ⟨true, hisp⟩, .inr hafter, trivial, trivial, trivial⟩
    · exact hall .release h.state.loop (by simp) ⟨hisp, hafter, hframe, hcapture, hconfig, hduration⟩
  · rw [submitResult_none.mpr fun ret hret => hnot ret ((hreturned ret).mp hret)]
    have hafter : ∃ l', (lifeStep (.slot move) h.state.detector).1 = some l' ∧ l'.owner = .ready ∧
        l'.system.submitter ≠ .idle :=
      ⟨{ l with system := (step move l.system).1 }, by rw [hl, hstep], hready, hbusy⟩
    exact hall .submitting h.state.loop (by simp) ⟨hisp, hafter, hframe, hcapture, hconfig, hduration⟩

/-- **The owner's call goes on** until it returns, or, at the end of a destruction, the detector is gone. -/
theorem ownerStep_waits (answers : OwnerAnswers) {l : Living} {destroying : Bool} (hwaits : l.owner.waits destroying) :
    (ownerStep answers l).1 = none ∧ destroying = true ∨
      ∃ l', (ownerStep answers l).1 = some l' ∧ l'.system = l.system ∧
        (l'.owner = .ready ∧ destroying = false ∨ l'.owner.waits destroying) := by
  have hreturns : ∀ ret, ∃ l', (l.waitReturns ret destroying).1 = some l' ∧ l'.system = l.system ∧
      (l'.owner = .ready ∧ destroying = false ∨ l'.owner.waits destroying) := by
    intro ret
    cases destroying with
    | true => exact ⟨_, rfl, rfl, .inr rfl⟩
    | false => exact ⟨_, rfl, rfl, .inl ⟨rfl, rfl⟩⟩
  unfold ownerStep
  cases howner : l.owner with
  | ready => exact absurd howner hwaits.not_ready
  | finishing timeoutMs destroying' =>
    rw [howner] at hwaits
    cases hwaits
    dsimp only
    split
    · exact .inr ⟨_, rfl, rfl, .inr rfl⟩
    · exact .inr (hreturns (-1))
  | waiting waitRet deadline destroying' =>
    rw [howner] at hwaits
    cases hwaits
    dsimp only
    split
    · exact .inr (hreturns 0)
    · split
      · exact .inr (hreturns (-1))
      · exact .inr ⟨_, rfl, rfl, .inr rfl⟩
  | releasingDetect | releasing =>
    rw [howner] at hwaits
    exact .inr ⟨_, rfl, rfl, .inr hwaits⟩
  | freeing =>
    rw [howner] at hwaits
    exact .inl ⟨rfl, hwaits⟩

theorem ToolInv.waitsIdle (hi : ToolInv settings h) (hpc : h.state.pc = .waitIdle) :
    ToolInv settings ⟨{ h.state with detector := (lifeStep (.waitIdle 5000) h.state.detector).1, pc := .waiting },
        h.events ++ (lifeStep (.waitIdle 5000) h.state.detector).2.map .life⟩ ∧
      Monitored (fun before => ToolOk settings (h.events ++ before))
        ((lifeStep (.waitIdle 5000) h.state.detector).2.map .life) := by
  obtain ⟨hisp, ⟨l, hl, hready, hidle⟩, hframe, -, -⟩ := hpc ▸ hi.place
  have hafter : ∃ l', (lifeStep (.waitIdle 5000) h.state.detector).1 = some l' ∧ l'.owner.waits false := by
    rw [hl]
    simp only [lifeStep, hready, hidle, and_self, if_true]
    exact ⟨_, rfl, rfl⟩
  exact hi.lifeOther _ (by simp [hpc]) (by simp) rfl rfl rfl rfl rfl (fun _ => rfl)
    (hi.reasoned.same rfl rfl (by simp)) ⟨hisp, hafter, hframe, trivial, trivial⟩

theorem ToolInv.destroys (hi : ToolInv settings h) (hpc : h.state.pc = .destroy) :
    ToolInv settings ⟨{ h.state with detector := (lifeStep .destroy h.state.detector).1, pc := .destroying },
        h.events ++ (lifeStep .destroy h.state.detector).2.map .life⟩ ∧
      Monitored (fun before => ToolOk settings (h.events ++ before))
        ((lifeStep .destroy h.state.detector).2.map .life) := by
  obtain ⟨hisp, ⟨l, hl, hready, hidle⟩, hframe, -, -⟩ := hpc ▸ hi.place
  have hafter : ∃ l', (lifeStep .destroy h.state.detector).1 = some l' ∧ l'.owner.waits true := by
    rw [hl]
    simp only [lifeStep, hready, hidle, and_self, if_true]
    exact ⟨_, rfl, rfl⟩
  exact hi.lifeOther _ (by simp [hpc]) (by simp) rfl rfl rfl rfl rfl (fun _ => rfl)
    (hi.reasoned.same rfl rfl (by simp)) ⟨hisp, hafter, hframe, trivial, trivial⟩

/-- **The wait for the detector**, in `live_person_detector_wait_idle` and in `live_person_detector_destroy`. -/
theorem ToolInv.waits (hi : ToolInv settings h) (answers : ToolAnswers) (destroying : Bool)
    (hpc : h.state.pc = if destroying then .destroying else .waiting) :
    ToolInv settings ⟨(toolWaits answers (if destroying then .closeCapture else .destroy) h.state).1,
        h.events ++ (toolWaits answers (if destroying then .closeCapture else .destroy) h.state).2⟩ ∧
      Monitored (fun before => ToolOk settings (h.events ++ before))
        (toolWaits answers (if destroying then .closeCapture else .destroy) h.state).2 := by
  have hplace : (NoIsp h.state ∨ ∃ started, OneIsp h.state started) ∧ h.state.frame = none ∧
      (∃ l, h.state.detector = some l ∧ l.owner.waits destroying) ∧ h.state.pc ≠ .exited ∧ h.state.pc ≠ .ended := by
    have hplace := hi.place
    cases destroying <;> rw [hpc] at hplace ⊢ <;>
      exact ⟨hplace.isp, hplace.frame, hplace.detector, by simp, by simp⟩
  obtain ⟨hisp, hframe, ⟨l, hl, hwaits⟩, hrunning, hended⟩ := hplace
  have hidle : l.system.submitter = .idle := (hi.lifeInv.1.lived l hl).idle hwaits.not_ready
  -- wherever `main` goes from here, the detector has gone on
  have hall : ∀ pc, pc ≠ .ended → pc.late = true →
      ToolPlace settings { h.state with detector := (lifeStep (.goOn answers.owner) h.state.detector).1, pc := pc } pc →
      ToolInv settings ⟨{ h.state with detector := (lifeStep (.goOn answers.owner) h.state.detector).1, pc := pc },
          h.events ++ (lifeStep (.goOn answers.owner) h.state.detector).2.map .life⟩ ∧
        Monitored (fun before => ToolOk settings (h.events ++ before))
          ((lifeStep (.goOn answers.owner) h.state.detector).2.map .life) := by
    intro pc hgoes hlate hplace
    exact hi.lifeOther _ hrunning (by simp) rfl rfl rfl rfl rfl (fun _ => hlate)
      (hi.reasoned.same rfl rfl fun h => absurd h hgoes) hplace
  unfold toolWaits toolLife
  dsimp only
  rcases ownerStep_waits answers.owner hwaits with ⟨hgone, rfl⟩ | ⟨l', hl', hsystem, hreturned | hstill⟩
  · have hafter : (lifeStep (.goOn answers.owner) h.state.detector).1 = none := by
      rw [hl]
      exact hgone
    simp only [hafter] at hall ⊢
    exact hall .closeCapture (by simp) rfl ⟨hisp, rfl, hframe, trivial, trivial⟩
  · obtain ⟨howner, rfl⟩ := hreturned
    have hafter : (lifeStep (.goOn answers.owner) h.state.detector).1 = some l' := by
      rw [hl]
      exact hl'
    simp only [hafter, howner, decide_true, if_true] at hall ⊢
    exact hall .destroy (by simp) rfl ⟨hisp, ⟨l', rfl, howner, hsystem ▸ hidle⟩, hframe, trivial, trivial⟩
  · have hafter : (lifeStep (.goOn answers.owner) h.state.detector).1 = some l' := by
      rw [hl]
      exact hl'
    simp only [hafter, hstill.not_ready, decide_false, Bool.false_eq_true, if_false] at hall ⊢
    refine hall h.state.pc hended ?_ ?_
    · rw [hpc]
      cases destroying <;> rfl
    · rw [hpc]
      cases destroying <;> exact ⟨hisp, ⟨l', rfl, hstill⟩, hframe, trivial, trivial⟩

/-- What `main` does with the detector is no matter of its slots. -/
theorem DetectorAt.same {l l' : Living} {pc : ToolPc} (hat : DetectorAt (some l) pc) (howner : l'.owner = l.owner)
    (hsubmitter : l'.system.submitter = l.system.submitter) : DetectorAt (some l') pc := by
  have hidle : l.Idle → l'.Idle := fun ⟨hready, hidle⟩ => ⟨howner ▸ hready, hsubmitter ▸ hidle⟩
  cases pc with
  | begin | loop | acquire | submit | release | ended | waitIdle | destroy =>
    obtain ⟨_, ⟨⟩, hl⟩ := hat
    exact ⟨l', rfl, hidle hl⟩
  | submitting =>
    obtain ⟨_, ⟨⟩, hready, hbusy⟩ := hat
    exact ⟨l', rfl, howner ▸ hready, hsubmitter ▸ hbusy⟩
  | cleanup =>
    rcases hat with hnone | ⟨_, ⟨⟩, hl⟩
    · cases hnone
    · exact .inr ⟨l', rfl, hidle hl⟩
  | waiting | destroying =>
    obtain ⟨_, ⟨⟩, hwaits⟩ := hat
    exact ⟨l', rfl, howner ▸ hwaits⟩
  | _ => cases hat

/-- **A callback** finds `main` anywhere, and leaves it there. -/
theorem ToolInv.callsBack (hi : ToolInv settings h) {move : Move} (hpc : h.state.pc ≠ .exited)
    (hmove : isCallback move = true) :
    ToolInv settings ⟨{ h.state with detector := (lifeStep (.slot move) h.state.detector).1 },
        h.events ++ (lifeStep (.slot move) h.state.detector).2.map .life⟩ ∧
      Monitored (fun before => ToolOk settings (h.events ++ before))
        ((lifeStep (.slot move) h.state.detector).2.map .life) := by
  have hother : (∀ call, move ≠ .submit call) ∧ ∀ b, move ≠ .proceed b := by
    constructor <;> rintro _ rfl <;> cases hmove
  have hafter : DetectorAt (lifeStep (.slot move) h.state.detector).1 h.state.pc := by
    have hat := hi.place.detector
    generalize h.state.detector = detector at hat ⊢
    cases detector with
    | none => exact hat
    | some l =>
      simp only [lifeStep]
      split
      · exact hat.same rfl (step_callback hother).1
      · exact hat
  refine hi.lifeOther _ hpc (by simpa using hother.1) rfl rfl rfl rfl rfl id (hi.reasoned.same rfl rfl fun hended => ?_)
    (hi.place.same rfl rfl hafter rfl rfl rfl rfl)
  exact (hi.reasoned.ended hended).imp asked_append id

/-! ## Every step -/

/-- `main` returns with everything given back. -/
theorem ToolInv.exits (hi : ToolInv settings h) (hpc : h.state.pc = .exit) :
    ToolInv settings ⟨{ h.state with pc := .exited }, h.events ++ [.exited h.state.exitCode]⟩ ∧
      Monitored (fun before => ToolOk settings (h.events ++ before)) [.exited h.state.exitCode] := by
  obtain ⟨hisp, hdetector, hframe, hcapture, -⟩ := hpc ▸ hi.place
  have hrunning := hi.running (by simp [hpc])
  have hframed : Framed ⟨{ h.state with pc := .exited }, h.events ++ [.exited h.state.exitCode]⟩ :=
    hi.framed.unseen rfl rfl rfl (fun _ => rfl) (by simp)
  have hdevice := hi.deviceSettled hcapture
  have hisps := hi.isps.held
  rw [Isps.held, hisp.1] at hisps
  refine ⟨⟨?_, ?_, ?_, hframed, hi.reasoned.same rfl rfl (by simp), ⟨hisp, hdetector, hframe, hcapture, trivial⟩,
    by simp⟩, monitored_cons.mpr ⟨?_, monitored_nil⟩⟩
  · rw [toolIsp_append]
    simpa [toolIsp] using hi.isps
  · rw [toolDevice_append]
    simpa [toolDevice] using hi.device
  · rw [toolLives_append]
    simpa [toolLives] using hi.life
  · rw [List.append_nil]
    exact ⟨hrunning, hi.detectorGone hdetector, hdevice, hisps.settled, hi.reasoned.code⟩

theorem ToolInv.signals (hi : ToolInv settings h) (hpc : h.state.pc ≠ .exited) :
    ToolInv settings ⟨{ h.state with stop := true }, h.events ++ [.stopped]⟩ ∧
      Monitored (fun before => ToolOk settings (h.events ++ before)) [.stopped] := by
  have hframed : Framed ⟨{ h.state with stop := true }, h.events ++ [.stopped]⟩ :=
    hi.framed.unseen rfl rfl rfl id (by simp)
  refine ⟨⟨?_, ?_, ?_, hframed, ⟨fun _ => by simp, fun hended => ?_, fun hcode => ?_⟩, ?_, fun _ code => ?_⟩, ?_⟩
  · rw [toolIsp_append]
    simpa [toolIsp] using hi.isps
  · rw [toolDevice_append]
    simpa [toolDevice] using hi.device
  · rw [toolLives_append]
    simpa [toolLives] using hi.life
  · exact (hi.reasoned.ended hended).imp asked_append id
  · exact asked_append (hi.reasoned.code hcode)
  · exact hi.place.same rfl rfl hi.place.detector rfl rfl rfl rfl
  · simpa using hi.running hpc code
  · exact monitored_running (hi.running hpc) (by simp) (monitored_cons.mpr ⟨trivial, monitored_nil⟩)

theorem ToolInv.stays (hi : ToolInv settings h) :
    ToolInv settings ⟨h.state, h.events ++ []⟩ ∧ Monitored (fun before => ToolOk settings (h.events ++ before)) [] := by
  rw [List.append_nil]
  exact ⟨hi, monitored_nil⟩

/-- **What a step of `main` preserves.** -/
theorem toolControl_inv (hi : ToolInv settings h) (answers : ToolAnswers) :
    ToolInv settings ⟨(toolControl settings answers h.state).1, h.events ++ (toolControl settings answers h.state).2⟩ ∧
      Monitored (fun before => ToolOk settings (h.events ++ before)) (toolControl settings answers h.state).2 := by
  unfold toolControl
  cases hpc : h.state.pc with
  | createIsp => exact hi.createIsp hpc answers
  | startIsp => exact hi.startIsp hpc answers
  | initCapture => exact hi.initCapture hpc answers
  | warmup i => exact hi.warmsUp hpc answers
  | warmupRelease i => exact hi.warmupReleases hpc answers
  | warmed => exact hi.warmed hpc
  | createDetector => exact hi.createDetector hpc answers
  | begin => exact hi.begins hpc answers
  | loop => exact hi.loops hpc answers
  | acquire => exact hi.acquires hpc answers
  | submit =>
    obtain ⟨-, ⟨l, hl, hready, hidle⟩, hframe, -, -⟩ := hpc ▸ hi.place
    obtain ⟨frame, hframe⟩ := Option.isSome_iff_exists.mp hframe
    rw [hframe]
    exact hi.submits (.inl hpc) hl hready (.inl ⟨⟨_, rfl⟩, hidle⟩)
  | submitting =>
    obtain ⟨-, ⟨l, hl, hready, hbusy⟩, -, -, -⟩ := hpc ▸ hi.place
    exact hi.submits (.inr hpc) hl hready (.inr ⟨⟨_, rfl⟩, hbusy⟩)
  | release => exact hi.loopReleases hpc answers
  | ended => exact hi.ends hpc
  | cleanup => exact hi.cleansUp hpc answers
  | waitIdle => exact hi.waitsIdle hpc
  | waiting => exact hi.waits answers false hpc
  | destroy => exact hi.destroys hpc
  | destroying => exact hi.waits answers true hpc
  | closeCapture => exact hi.closeCapture hpc
  | destroyIsp => exact hi.destroyIsp hpc answers
  | exit => exact hi.exits hpc
  | exited => exact hi.stays

/-- **What one step preserves**, whoever moves. -/
theorem toolStep_inv (move : ToolMove) (hi : ToolInv settings h) :
    ToolInv settings (advance (toolStep settings) h move) ∧
      Monitored (fun before => ToolOk settings (h.events ++ before)) (toolStep settings move h.state).2 := by
  unfold advance
  cases move with
  | control answers => exact toolControl_inv hi answers
  | signal =>
    simp only [toolStep]
    split
    · exact hi.stays
    · rename_i hpc
      exact hi.signals hpc
  | sof =>
    simp only [toolStep]
    split
    · exact hi.stays
    · rename_i hpc
      exact hi.callback hpc (.inl rfl)
  | error bypass =>
    simp only [toolStep]
    split
    · exact hi.stays
    · rename_i hpc
      exact hi.callback hpc (.inr ⟨bypass, rfl⟩)
  | rockiva move =>
    simp only [toolStep]
    split
    · rename_i hmove
      by_cases hpc : h.state.pc = .exited
      · have hnone : h.state.detector = none := (hpc ▸ hi.place).detector
        have hsame : ({ h.state with detector := none } : Tool) = h.state := by rw [← hnone]
        simp only [toolLife, hnone, lifeStep, List.map_nil, hsame]
        exact hi.stays
      · exact hi.callsBack hpc hmove
    · exact hi.stays

end Invariant

/-- **The tool does everything in order**, whatever the camera, RKAIQ and RockIVA answer, and whenever they call back. -/
theorem toolRun_orderly (settings : ToolSettings) (moves : List ToolMove) :
    Monitored (ToolOk settings) (toolRun settings moves).events :=
  run_monitored (toolStep settings) (toolInv_start settings) fun _ move _ hi => toolStep_inv move hi

end MiniRtsp.Detector
