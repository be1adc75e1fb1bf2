import MiniRtsp.Detector.LiveToolRuns

/-!
# The capture loop in the runs of the live detection tool

What `main` does in its capture loop is a run of the loop of `Sampling`, with signals, callbacks and the steps of a
submission in between (`LoopInv`). So its frames are paced as those are, and what is offered is submitted, each frame
once and with its own number and bytes (`toolRun_sampled`).
-/

namespace MiniRtsp.Detector

open Capture Isp Ledger Trace

/-! ## Submissions -/

def SlotEvent.result : SlotEvent → Option Int
  | .returned ret => some ret
  | _ => none

def LifeEvent.result : LifeEvent → Option Int
  | .slot e => e.result
  | _ => none

/-- What the calls of `live_person_detector_submit` have returned. -/
def toolSubmitted (events : List ToolEvent) : List Int := (toolLives events).filterMap LifeEvent.result

/-- Frames that were offered, and whose submission has not returned. -/
def ToolPc.pending : ToolPc → Nat
  | .submit | .submitting => 1
  | _ => 0

def ToolPc.looping : ToolPc → Bool
  | .loop | .acquire | .submit | .submitting | .release => true
  | _ => false

/-- Before the capture loop. -/
def ToolPc.early : ToolPc → Bool
  | .createIsp | .startIsp | .initCapture | .warmup _ | .warmupRelease _ | .warmed | .createDetector | .begin => true
  | _ => false

theorem toolCaptured_append (es fs : List ToolEvent) : toolCaptured (es ++ fs) = toolCaptured es ++ toolCaptured fs :=
  List.filterMap_append

theorem toolSubmitted_append (es fs : List ToolEvent) :
    toolSubmitted (es ++ fs) = toolSubmitted es ++ toolSubmitted fs := by
  rw [toolSubmitted, toolLives_append]
  exact List.filterMap_append

@[simp] theorem toolCaptured_isp (es : List IspEvent) : toolCaptured (es.map .isp) = [] :=
  filterMap_unseen (fun _ => rfl) es

@[simp] theorem toolSubmitted_isp (es : List IspEvent) : toolSubmitted (es.map .isp) = [] := by simp [toolSubmitted]

@[simp] theorem toolCaptured_buffer (es : List BufferUse) : toolCaptured (es.map .buffer) = [] :=
  filterMap_unseen (fun _ => rfl) es

@[simp] theorem toolSubmitted_buffer (es : List BufferUse) : toolSubmitted (es.map .buffer) = [] := by
  simp [toolSubmitted]

@[simp] theorem toolCaptured_device (es : List (Use Resource)) : toolCaptured (es.map .device) = [] :=
  filterMap_unseen (fun _ => rfl) es

@[simp] theorem toolSubmitted_device (es : List (Use Resource)) : toolSubmitted (es.map .device) = [] := by
  simp [toolSubmitted]

@[simp] theorem toolCaptured_life (es : List LifeEvent) : toolCaptured (es.map .life) = [] :=
  filterMap_unseen (fun _ => rfl) es

/-- A step of the slots returns a submission at most once. -/
theorem step_returns_once (s : System) (move : Move) : ((step move s).2.filterMap SlotEvent.result).length ≤ 1 := by
  by_cases hmove : (∀ call, move ≠ .submit call) ∧ ∀ b, move ≠ .proceed b
  · have hnone : (step move s).2.filterMap SlotEvent.result = [] := by
      rw [List.filterMap_eq_nil_iff]
      intro e he
      obtain ⟨x, freed, rfl⟩ := (step_callback hmove).2 e he
      rfl
    simp [hnone]
  · cases move with
    | submit call =>
      simp only [step]
      split
      · have hsubmitted := submitCalled_submitted call s
        generalize submitCalled call s = r at hsubmitted ⊢
        cases hsubmitted with
        | refused | busy => exact le_rfl
        | reserved => exact Nat.zero_le 1
      · exact Nat.zero_le 1
    | proceed accepts =>
      simp only [step, submitProceeds]
      split
      · exact Nat.zero_le 1
      · exact Nat.zero_le 1
      · split <;> exact Nat.zero_le 1
      · exact le_rfl
      · exact le_rfl
    | _ => exact absurd ⟨by simp, by simp⟩ hmove

@[simp] theorem toolSubmitted_life (es : List LifeEvent) :
    toolSubmitted (es.map .life) = es.filterMap LifeEvent.result := by
  rw [toolSubmitted, toolLives_life]

theorem lifeStep_returns_once (move : LifeMove) (l : Option Living) :
    ((lifeStep move l).2.filterMap LifeEvent.result).length ≤ 1 := by
  by_cases hnone : ∀ e ∈ (lifeStep move l).2, e.result = none
  · rw [List.filterMap_eq_nil_iff.mpr hnone]
    exact Nat.zero_le 1
  · push Not at hnone
    obtain ⟨e, he, hresult⟩ := hnone
    cases e with
    | slot e =>
      obtain ⟨m, l', rfl, rfl, hstep⟩ := lifeStep_slot he
      simp only [lifeStep] at he ⊢
      split
      · have hpush : (pushCall l'.system m).filterMap LifeEvent.result = [] := by
          unfold pushCall
          split
          · split <;> rfl
          · rfl
        rw [List.filterMap_append, hpush, List.nil_append, List.filterMap_map]
        exact step_returns_once l'.system m
      · exact Nat.zero_le 1
    | _ => exact absurd rfl hresult

/-- Only a submission returns. -/
theorem lifeStep_returns_none {move : LifeMove} (hsubmit : ∀ call, move ≠ .slot (.submit call))
    (hproceed : ∀ b, move ≠ .slot (.proceed b)) (l : Option Living) :
    (lifeStep move l).2.filterMap LifeEvent.result = [] := by
  rw [List.filterMap_eq_nil_iff]
  intro e he
  cases e with
  | slot e =>
    obtain ⟨m, l', rfl, rfl, hstep⟩ := lifeStep_slot he
    obtain ⟨x, freed, rfl⟩ := (step_callback ⟨by simpa using hsubmit, by simpa using hproceed⟩).2 e hstep
    rfl
  | _ => rfl

theorem submitResult_head (events : List ToolEvent) : submitResult events = (toolSubmitted events).head? := by
  rw [toolSubmitted, toolLives, List.filterMap_filterMap, List.head?_filterMap, submitResult]
  congr 1
  funext e
  cases e with
  | life e =>
    cases e with
    | slot e => cases e <;> rfl
    | _ => rfl
  | _ => rfl

/-! ## The loop -/

/-- A round of the loop in which the camera is asked for a frame. -/
def goingRound (config : LoopConfig) (acquire : List AcquireRound) (requeue : Bool) : RoundAnswers :=
  { stop := false, shouldQuit := false, nowMs := config.startMs, acquire := acquire, requeue := requeue
    interrupted := false, submitResult := 0, release := true, quitAfter := false }

section Rounds

variable {config : LoopConfig} {s : LoopState}

/-- The tests at the head of the loop let such a round pass. -/
theorem goingRound_passes (hlooping : s.exitCode = none) (hstart : 0 ≤ config.startMs) (acquire : List AcquireRound)
    (requeue : Bool) {acquired : Except Errno V4L2Frame}
    (hacquired : (v4l2CaptureAcquireFrame config.capture acquire requeue).1 = acquired) :
    (∀ e, acquired = .error e → loopStep config (goingRound config acquire requeue) s = (s.cleanup, [])) ∧
      ∀ frame, acquired = .ok frame → loopStep config (goingRound config acquire requeue) s =
        handleFrame config (goingRound config acquire requeue) s frame := by
  have hwithin : ¬(config.durationSeconds > 0 ∧ config.startMs - config.startMs ≥ config.durationSeconds * 1000) := by
    omega
  have hclock : ¬(config.durationSeconds > 0 ∧ config.startMs < 0) := by omega
  unfold loopStep goingRound
  simp only [hlooping, Option.isSome_none, Bool.false_eq_true, or_self, if_false, hwithin, hclock, hacquired]
  constructor
  · rintro e rfl
    rfl
  · rintro frame rfl
    rfl

/-- The loop is left where something fails. -/
theorem loopStep_fails (hlooping : s.exitCode = none) (hstart : 0 ≤ config.startMs) :
    loopStep config (goingRound config [] true) s = (s.cleanup, []) := by
  have herror : ∃ e, (v4l2CaptureAcquireFrame config.capture [] true).1 = .error e := by
    unfold v4l2CaptureAcquireFrame
    split
    · exact ⟨_, rfl⟩
    · exact ⟨_, rfl⟩
  obtain ⟨e, he⟩ := herror
  exact (goingRound_passes hlooping hstart [] true he).1 e rfl

/-- **A round that gets a frame.** -/
theorem loopStep_takes {acquire : List AcquireRound} {requeue : Bool} {frame : V4L2Frame} {buffers : List BufferUse}
    (hlooping : s.exitCode = none) (hstart : 0 ≤ config.startMs)
    (hacquire : v4l2CaptureAcquireFrame config.capture acquire requeue = (.ok frame, buffers)) :
    loopStep config (goingRound config acquire requeue) s =
      if frame.size < config.expectedNv12Size then ((countCaptured s frame).cleanup, [⟨frame, false⟩])
      else
        ((accumulate config (countCaptured s frame)).1, [⟨frame, (accumulate config (countCaptured s frame)).2⟩]) := by
  obtain ⟨hdelivered, -⟩ := acquire_delivered hacquire
  rw [(goingRound_passes hlooping hstart acquire requeue (congrArg Prod.fst hacquire)).2 frame rfl]
  unfold handleFrame
  dsimp only
  split
  · rfl
  · rw [release_cases hdelivered.opened hdelivered.valid hdelivered.index]
    simp [goingRound]

end Rounds

/-! ## Runs -/

/-- The frame that `main` holds is the one that the loop captured last, and it is to be submitted. -/
def Offering (h : History Tool ToolEvent) : Prop :=
  ∃ past frame, toolCaptured h.events = past ++ [⟨frame, true⟩] ∧ h.state.frame = some frame

/-- Where the loop is and what it has captured is a run of the loop of `Sampling`, and as many frames were submitted as
it has offered, each while it was held. -/
structure LoopInv (settings : ToolSettings) (h : History Tool ToolEvent) : Prop where
  loops : ∃ inputs, run (loopStep h.state.config) (loopStart h.state.config) inputs =
    ⟨h.state.loop, toolCaptured h.events⟩
  going : h.state.pc.late = false → h.state.loop.exitCode = none ∧ 0 ≤ h.state.config.startMs
  fresh : h.state.pc.early = true → toolCaptured h.events = []
  config : toolCaptured h.events = [] ∧ h.state.pc.looping = false ∨
    ∃ capture startMs, h.state.config = loopConfig capture (settings.width.toNat * settings.height.toNat * 3 / 2)
      settings.durationSeconds startMs (roundedCameraFps (some capture)) settings.detectFps
  submitted : (toolCaptured h.events).countP (·.offered) = (toolSubmitted h.events).length + h.state.pc.pending
  offering : h.state.pc.pending = 1 → Offering h

variable {settings : ToolSettings} {h : History Tool ToolEvent}

theorem loopInv_start (settings : ToolSettings) : LoopInv settings ⟨.start, []⟩ where
  loops := ⟨[], rfl⟩
  going _ := ⟨rfl, le_rfl⟩
  fresh _ := rfl
  config := .inl ⟨rfl, rfl⟩
  submitted := rfl
  offering hpending := by cases hpending

/-- `main` does not go back. -/
def ToolPc.onward (pc pc' : ToolPc) : Bool :=
  (!pc.late || pc'.late) && (!pc'.early || pc.early) && (!pc'.looping || pc.looping)

theorem ToolPc.onward_refl (pc : ToolPc) : pc.onward pc = true := by
  unfold ToolPc.onward
  cases pc.late <;> cases pc.early <;> cases pc.looping <;> rfl

/-- `main` goes on, and no submission begins or ends. -/
def ToolPc.Goes (pc pc' : ToolPc) : Prop := pc.onward pc' = true ∧ pc'.pending = pc.pending

theorem ToolPc.Goes.choice {pc a b : ToolPc} {c : Prop} [Decidable c] (ha : pc.Goes a) (hb : pc.Goes b) :
    pc.Goes (if c then a else b) := by
  split
  · exact ha
  · exact hb

theorem ToolPc.pending_le (pc : ToolPc) : pc.pending ≤ 1 := by
  unfold ToolPc.pending
  split <;> decide

/-- A step that captures nothing; where it fails the loop is left. -/
theorem LoopInv.moves (hl : LoopInv settings h) {s : Tool} {es : List ToolEvent}
    (honward : h.state.pc.onward s.pc = true) (hframe : s.frame = h.state.frame ∨ s.pc.pending = 0)
    (hconfig : s.config = h.state.config)
    (hloop : s.loop = h.state.loop ∨ s.loop = h.state.loop.cleanup ∧ h.state.pc.late = false ∧ s.pc.late = true)
    (hcaptured : toolCaptured es = []) (hsubmitted : (toolSubmitted es).length + s.pc.pending = h.state.pc.pending) :
    LoopInv settings ⟨s, h.events ++ es⟩ := by
  have hsame : toolCaptured (h.events ++ es) = toolCaptured h.events := by
    rw [toolCaptured_append, hcaptured, List.append_nil]
  simp only [ToolPc.onward, Bool.and_eq_true, Bool.or_eq_true, Bool.not_eq_true'] at honward
  obtain ⟨⟨hlate, hearly⟩, hlooping⟩ := honward
  obtain ⟨inputs, hrun⟩ := hl.loops
  -- a submission that goes on was going on before, with the same frame
  have hoffering : s.pc.pending = 1 → Offering ⟨s, h.events ++ es⟩ := by
    intro hpending
    have hle := h.state.pc.pending_le
    obtain ⟨past, frame, hlast, hheld⟩ := hl.offering (by omega)
    exact ⟨past, frame, hsame.trans hlast, (hframe.resolve_right (by omega)).trans hheld⟩
  refine ⟨?_, fun hgoes => ?_, fun hfresh => ?_, ?_, ?_, hoffering⟩ <;> dsimp only
  · rw [hsame, hconfig]
    rcases hloop with hloop | ⟨hloop, hwas, -⟩
    · rw [hloop]
      exact ⟨inputs, hrun⟩
    · obtain ⟨hexit, hstart⟩ := hl.going hwas
      refine ⟨inputs ++ [goingRound h.state.config [] true], ?_⟩
      rw [run_concat, hrun, advance]
      dsimp only
      rw [loopStep_fails hexit hstart, hloop, List.append_nil]
  · dsimp only at hgoes
    have hwas : h.state.pc.late = false := hlate.resolve_right (by simp [hgoes])
    rcases hloop with hloop | ⟨-, -, hnow⟩
    · rw [hloop, hconfig]
      exact hl.going hwas
    · rw [hgoes] at hnow
      cases hnow
  · rw [hsame]
    exact hl.fresh (hearly.resolve_left (by simp [show s.pc.early = true from hfresh]))
  · rw [hsame, hconfig]
    rcases hl.config with ⟨hnone, hwas⟩ | hlooped
    · exact .inl ⟨hnone, hlooping.resolve_right (by simp [hwas])⟩
    · exact .inr hlooped
  · rw [hsame, hl.submitted, toolSubmitted_append, List.length_append]
    omega

theorem LoopInv.begins (hl : LoopInv settings h) (hpc : h.state.pc = .begin) (answers : ToolAnswers) :
    LoopInv settings ⟨toolBegin settings answers h.state, h.events ++ []⟩ := by
  have hnone : toolCaptured h.events = [] := hl.fresh (by rw [hpc]; rfl)
  rw [List.append_nil]
  have hidle : (toolBegin settings answers h.state).pc.pending = 0 := by
    simp only [toolBegin]
    split <;> rfl
  refine ⟨⟨[], ?_⟩, fun hgoes => ⟨rfl, ?_⟩, fun _ => hnone, .inr ⟨_, _, rfl⟩, ?_,
    fun hpending => absurd (hidle.symm.trans hpending) (by decide)⟩
  · rw [hnone]
    rfl
  · simp only [toolBegin] at hgoes ⊢
    split at hgoes
    · cases hgoes
    · rename_i hclock
      exact not_lt.mp hclock
  · rw [hl.submitted, hidle, hpc]
    rfl

/-- **The loop captures a frame**, and offers it or not. -/
theorem LoopInv.captures (hl : LoopInv settings h) (hpc : h.state.pc = .acquire) {acquire : List AcquireRound}
    {requeue : Bool} {frame : V4L2Frame} {s : Tool} {offered : Bool} (hconfig : s.config = h.state.config)
    (hround : loopStep h.state.config (goingRound h.state.config acquire requeue) h.state.loop =
      (s.loop, [⟨frame, offered⟩]))
    (hframe : s.frame = some frame) (hpending : s.pc.pending = offered.toNat) (hearly : s.pc.early = false)
    (hgoing : s.pc.late = false → s.loop.exitCode = none) (buffers : List BufferUse) :
    LoopInv settings ⟨s, h.events ++ (buffers.map .buffer ++ [.captured ⟨frame, offered⟩])⟩ := by
  obtain ⟨-, hstart⟩ := hl.going (by rw [hpc]; rfl)
  obtain ⟨inputs, hrun⟩ := hl.loops
  have hnew : toolCaptured (buffers.map .buffer ++ [.captured ⟨frame, offered⟩]) = [⟨frame, offered⟩] := by
    rw [toolCaptured_append, toolCaptured_buffer]
    rfl
  have hold : toolSubmitted (buffers.map .buffer ++ [.captured ⟨frame, offered⟩]) = [] := by
    rw [toolSubmitted_append, toolSubmitted_buffer]
    rfl
  refine ⟨⟨inputs ++ [goingRound h.state.config acquire requeue], ?_⟩, fun hlate => ⟨hgoing hlate, ?_⟩,
    fun hfresh => ?_, .inr ?_, ?_, fun hone => ⟨toolCaptured h.events, frame, ?_, hframe⟩⟩ <;> dsimp only
  · rw [hconfig, run_concat, hrun, advance]
    dsimp only
    rw [hround, toolCaptured_append, hnew]
  · rw [hconfig]
    exact hstart
  · rw [show s.pc.early = true from hfresh] at hearly
    cases hearly
  · rw [hconfig]
    refine hl.config.resolve_left ?_
    rintro ⟨-, hlooping⟩
    rw [hpc] at hlooping
    cases hlooping
  · have hsubmitted := hl.submitted
    rw [hpc] at hsubmitted
    rw [toolCaptured_append, hnew, List.countP_append, hsubmitted, toolSubmitted_append, hold, List.append_nil,
      hpending]
    cases offered <;> rfl
  · have hoffered : offered = true := by
      cases offered with
      | true => rfl
      | false => exact absurd (hpending.symm.trans hone) (by decide)
    rw [toolCaptured_append, hnew, hoffered]

theorem LoopInv.acquires (hl : LoopInv settings h) (hpc : h.state.pc = .acquire) (answers : ToolAnswers) :
    LoopInv settings ⟨(toolAcquire answers h.state).1, h.events ++ (toolAcquire answers h.state).2⟩ := by
  obtain ⟨hexit, hstart⟩ := hl.going (by rw [hpc]; rfl)
  unfold toolAcquire
  cases hacquire : v4l2CaptureAcquireFrame h.state.config.capture answers.acquire answers.requeue with
  | mk acquired buffers =>
    cases acquired with
    | error e =>
      dsimp only
      split
      · exact hl.moves (by rw [hpc]; rfl) (.inl rfl) rfl (.inl rfl) (toolCaptured_buffer _)
          (by rw [toolSubmitted_buffer, hpc]; rfl)
      · exact hl.moves (by rw [hpc]; rfl) (.inl rfl) rfl (.inr ⟨rfl, by rw [hpc]; rfl, rfl⟩) (toolCaptured_buffer _)
          (by rw [toolSubmitted_buffer, hpc]; rfl)
    | ok frame =>
      have hround := loopStep_takes hexit hstart hacquire
      dsimp only
      split
      · rename_i hshort
        rw [if_pos hshort] at hround
        refine hl.captures hpc ?_ hround rfl rfl rfl ?_ buffers
        · rfl
        · simp [Tool.fail, ToolPc.late]
      · rename_i hfull
        rw [if_neg hfull] at hround
        have hgoing : (accumulate h.state.config (countCaptured h.state.loop frame)).1.exitCode = none := by
          unfold accumulate
          dsimp only
          split
          · exact hexit
          · exact hexit
        generalize accumulate h.state.config (countCaptured h.state.loop frame) = taken at hround hgoing ⊢
        obtain ⟨loop, offered⟩ := taken
        cases offered with
        | true =>
          refine hl.captures hpc ?_ hround rfl rfl rfl (fun _ => hgoing) buffers
          rfl
        | false =>
          refine hl.captures hpc ?_ hround rfl rfl rfl (fun _ => hgoing) buffers
          rfl

theorem LoopInv.submits (hl : LoopInv settings h) (hpc : h.state.pc = .submit ∨ h.state.pc = .submitting)
    (move : Move) :
    LoopInv settings ⟨(toolSubmits move h.state).1, h.events ++ (toolSubmits move h.state).2⟩ := by
  have hpending : h.state.pc.pending = 1 ∧ h.state.pc.late = false := by
    rcases hpc with hpc | hpc <;> simp [hpc, ToolPc.pending, ToolPc.late]
  have honward : h.state.pc.onward .cleanup = true ∧ h.state.pc.onward .submitting = true ∧
      h.state.pc.onward .release = true := by
    rcases hpc with hpc | hpc <;> rw [hpc] <;> exact ⟨rfl, rfl, rfl⟩
  have honce := lifeStep_returns_once (.slot move) h.state.detector
  rw [← toolSubmitted_life] at honce
  unfold toolSubmits toolLife
  dsimp only
  cases hresult : submitResult ((lifeStep (.slot move) h.state.detector).2.map .life) with
  | none =>
    have hnone : toolSubmitted ((lifeStep (.slot move) h.state.detector).2.map .life) = [] :=
      List.head?_eq_none_iff.mp (submitResult_head _ ▸ hresult)
    refine hl.moves honward.2.1 (.inl rfl) rfl (.inl rfl) (toolCaptured_life _) ?_
    rw [hnone, hpending.1]
    rfl
  | some ret =>
    have hone : (toolSubmitted ((lifeStep (.slot move) h.state.detector).2.map .life)).length = 1 := by
      rw [submitResult_head] at hresult
      obtain ⟨rest, hlist⟩ := List.head?_eq_some_iff.mp hresult
      rw [hlist, List.length_cons] at honce ⊢
      omega
    dsimp only
    split
    · refine hl.moves honward.1 (.inl rfl) rfl (.inr ⟨rfl, hpending.2, rfl⟩) (toolCaptured_life _) ?_
      rw [hone, hpending.1]
      rfl
    · refine hl.moves honward.2.2 (.inl rfl) rfl (.inl rfl) (toolCaptured_life _) ?_
      rw [hone, hpending.1]
      rfl

theorem LoopInv.releases (hl : LoopInv settings h) (answers : ToolAnswers) {next : ToolPc}
    (honward : h.state.pc.onward next = true) (hpending : next.pending = 0 ∧ h.state.pc.pending = 0)
    (hearly : h.state.pc.late = false) :
    LoopInv settings ⟨(toolRelease answers next h.state).1, h.events ++ (toolRelease answers next h.state).2⟩ := by
  have hcleanup : h.state.pc.onward .cleanup = true := by
    rw [ToolPc.onward, hearly]
    rfl
  unfold toolRelease
  split
  · refine hl.moves (ToolPc.onward_refl _) (.inl rfl) rfl (.inl rfl) rfl ?_
    rw [toolSubmitted, toolLives, List.filterMap_nil, List.filterMap_nil, List.length_nil, Nat.zero_add]
  · dsimp only
    split
    · refine hl.moves honward (.inr hpending.1) rfl (.inl rfl) (toolCaptured_buffer _) ?_
      rw [toolSubmitted_buffer, hpending.1, hpending.2]
      rfl
    · refine hl.moves hcleanup (.inl rfl) rfl (.inr ⟨rfl, hearly, rfl⟩) (toolCaptured_buffer _) ?_
      rw [toolSubmitted_buffer, hpending.2]
      rfl

/-- A step that is silent for the loop. -/
theorem LoopInv.silent (hl : LoopInv settings h) {s : Tool} {es : List ToolEvent} (hgoes : h.state.pc.Goes s.pc)
    (hframe : s.frame = h.state.frame ∨ s.pc.pending = 0) (hconfig : s.config = h.state.config)
    (hloop : s.loop = h.state.loop) (hcaptured : toolCaptured es = [])
    (hsubmitted : toolSubmitted es = []) : LoopInv settings ⟨s, h.events ++ es⟩ := by
  refine hl.moves hgoes.1 hframe hconfig (.inl hloop) hcaptured ?_
  rw [hsubmitted, hgoes.2, List.length_nil, Nat.zero_add]

/-- A call of the detector's interface that is no submission. -/
theorem LoopInv.life (hl : LoopInv settings h) {move : LifeMove} {s : Tool}
    (hsubmit : ∀ call, move ≠ .slot (.submit call)) (hproceed : ∀ b, move ≠ .slot (.proceed b))
    (hgoes : h.state.pc.Goes s.pc) (hframe : s.frame = h.state.frame) (hconfig : s.config = h.state.config)
    (hloop : s.loop = h.state.loop) :
    LoopInv settings ⟨s, h.events ++ (lifeStep move h.state.detector).2.map .life⟩ := by
  refine hl.silent hgoes (.inl hframe) hconfig hloop (toolCaptured_life _) ?_
  rw [toolSubmitted_life, lifeStep_returns_none hsubmit hproceed]

theorem LoopInv.waits (hl : LoopInv settings h) (answers : ToolAnswers) {next : ToolPc} (hgoes : h.state.pc.Goes next) :
    LoopInv settings ⟨(toolWaits answers next h.state).1, h.events ++ (toolWaits answers next h.state).2⟩ := by
  unfold toolWaits toolLife
  dsimp only
  split
  · exact hl.life (by simp) (by simp) hgoes rfl rfl rfl
  · exact hl.life (by simp) (by simp) ⟨ToolPc.onward_refl _, rfl⟩ rfl rfl rfl

theorem toolControl_loopInv (hl : LoopInv settings h) (answers : ToolAnswers) :
    LoopInv settings
      ⟨(toolControl settings answers h.state).1, h.events ++ (toolControl settings answers h.state).2⟩ := by
  have hstays : LoopInv settings ⟨h.state, h.events ++ []⟩ := by
    rw [List.append_nil]
    exact hl
  unfold toolControl
  cases hpc : h.state.pc with
  | createIsp =>
    refine hl.silent ?_ (.inl rfl) rfl rfl (toolCaptured_isp _) (toolSubmitted_isp _)
    rw [hpc]
    exact .choice ⟨rfl, rfl⟩ ⟨rfl, rfl⟩
  | startIsp =>
    refine hl.silent ?_ (.inl rfl) rfl rfl (toolCaptured_isp _) (toolSubmitted_isp _)
    rw [hpc]
    exact .choice ⟨rfl, rfl⟩ ⟨rfl, rfl⟩
  | initCapture =>
    have hunseen : ∀ (uses : List (Use Resource)) (ok : Bool) n,
        toolCaptured (uses.map .device ++ if ok then [.streaming n] else []) = [] ∧
          toolSubmitted (uses.map .device ++ if ok then [.streaming n] else []) = [] := by
      intro uses ok n
      rw [toolCaptured_append, toolSubmitted_append, toolCaptured_device, toolSubmitted_device]
      cases ok <;> exact ⟨rfl, rfl⟩
    refine hl.silent ?_ (.inl rfl) rfl rfl (hunseen _ _ _).1 (hunseen _ _ _).2
    rw [hpc]
    exact .choice ⟨rfl, rfl⟩ ⟨rfl, rfl⟩
  | warmup i =>
    dsimp only
    unfold toolWarmup
    split
    · exact hl.silent (by rw [hpc]; exact ⟨rfl, rfl⟩) (.inl rfl) rfl rfl rfl rfl
    · dsimp only
      split
      · exact hl.silent (by rw [hpc]; exact ⟨rfl, rfl⟩) (.inl rfl) rfl rfl (toolCaptured_buffer _)
          (toolSubmitted_buffer _)
      · exact hl.silent (by rw [hpc]; exact ⟨rfl, rfl⟩) (.inr rfl) rfl rfl (toolCaptured_buffer _)
          (toolSubmitted_buffer _)
  | warmupRelease i => exact hl.releases answers (by rw [hpc]; rfl) ⟨rfl, by rw [hpc]; rfl⟩ (by rw [hpc]; rfl)
  | warmed =>
    dsimp only
    split
    · exact hl.silent (by rw [hpc]; exact ⟨rfl, rfl⟩) (.inl rfl) rfl rfl rfl rfl
    · exact hl.silent (by rw [hpc]; exact ⟨rfl, rfl⟩) (.inl rfl) rfl rfl rfl rfl
  | createDetector =>
    refine hl.life (by simp) (by simp) ?_ rfl rfl rfl
    rw [hpc]
    exact .choice ⟨rfl, rfl⟩ ⟨rfl, rfl⟩
  | begin => exact hl.begins hpc answers
  | loop =>
    dsimp only
    unfold toolLoop
    split
    · exact hl.silent (by rw [hpc]; exact ⟨rfl, rfl⟩) (.inl rfl) rfl rfl rfl rfl
    · split
      · exact hl.moves (by rw [hpc]; rfl) (.inl rfl) rfl (.inr ⟨rfl, by rw [hpc]; rfl, rfl⟩) rfl (by rw [hpc]; rfl)
      · split
        · exact hl.silent (by rw [hpc]; exact ⟨rfl, rfl⟩) (.inl rfl) rfl rfl rfl rfl
        · exact hl.silent (by rw [hpc]; exact ⟨rfl, rfl⟩) (.inl rfl) rfl rfl rfl rfl
  | acquire => exact hl.acquires hpc answers
  | submit =>
    dsimp only
    split
    · exact hstays
    · exact hl.submits (.inl hpc) _
  | submitting => exact hl.submits (.inr hpc) _
  | release => exact hl.releases answers (by rw [hpc]; rfl) ⟨rfl, by rw [hpc]; rfl⟩ (by rw [hpc]; rfl)
  | ended =>
    dsimp only
    unfold toolEnded
    split
    · exact hl.moves (by rw [hpc]; rfl) (.inl rfl) rfl (.inr ⟨rfl, by rw [hpc]; rfl, rfl⟩) rfl (by rw [hpc]; rfl)
    · exact hl.silent (by rw [hpc]; exact ⟨rfl, rfl⟩) (.inl rfl) rfl rfl rfl rfl
  | cleanup =>
    dsimp only
    unfold toolCleanup
    dsimp only
    split
    · exact hl.silent (by rw [hpc]; exact .choice ⟨rfl, rfl⟩ ⟨rfl, rfl⟩) (.inl rfl) rfl rfl rfl rfl
    · refine hl.silent (by rw [hpc]; exact .choice ⟨rfl, rfl⟩ ⟨rfl, rfl⟩) (.inr ?_) rfl rfl (toolCaptured_buffer _)
        (toolSubmitted_buffer _)
      dsimp only
      split <;> rfl
  | waitIdle => exact hl.life (by simp) (by simp) (by rw [hpc]; exact ⟨rfl, rfl⟩) rfl rfl rfl
  | waiting => exact hl.waits answers (by rw [hpc]; exact ⟨rfl, rfl⟩)
  | destroy => exact hl.life (by simp) (by simp) (by rw [hpc]; exact ⟨rfl, rfl⟩) rfl rfl rfl
  | destroying => exact hl.waits answers (by rw [hpc]; exact ⟨rfl, rfl⟩)
  | closeCapture =>
    dsimp only
    unfold toolCloseCapture
    split
    · exact hl.silent (by rw [hpc]; exact ⟨rfl, rfl⟩) (.inl rfl) rfl rfl (toolCaptured_device _)
        (toolSubmitted_device _)
    · exact hl.silent (by rw [hpc]; exact ⟨rfl, rfl⟩) (.inl rfl) rfl rfl rfl rfl
  | destroyIsp =>
    exact hl.silent (by rw [hpc]; exact ⟨rfl, rfl⟩) (.inl rfl) rfl rfl (toolCaptured_isp _) (toolSubmitted_isp _)
  | exit => exact hl.silent (by rw [hpc]; exact ⟨rfl, rfl⟩) (.inl rfl) rfl rfl rfl rfl
  | exited => exact hstays

/-- **What one step preserves**, whoever moves. -/
theorem toolStep_loopInv (move : ToolMove) (hl : LoopInv settings h) :
    LoopInv settings (advance (toolStep settings) h move) := by
  have hstays : LoopInv settings ⟨h.state, h.events ++ []⟩ := by
    rw [List.append_nil]
    exact hl
  unfold advance
  cases move with
  | control answers => exact toolControl_loopInv hl answers
  | signal =>
    simp only [toolStep]
    split
    · exact hstays
    · exact hl.silent ⟨ToolPc.onward_refl _, rfl⟩ (.inl rfl) rfl rfl rfl rfl
  | sof =>
    simp only [toolStep]
    split
    · exact hstays
    · exact hl.silent ⟨ToolPc.onward_refl _, rfl⟩ (.inl rfl) rfl rfl (toolCaptured_isp _) (toolSubmitted_isp _)
  | error bypass =>
    simp only [toolStep]
    split
    · exact hstays
    · exact hl.silent ⟨ToolPc.onward_refl _, rfl⟩ (.inl rfl) rfl rfl (toolCaptured_isp _) (toolSubmitted_isp _)
  | rockiva move =>
    simp only [toolStep]
    split
    · rename_i hmove
      refine hl.life ?_ ?_ ⟨ToolPc.onward_refl _, rfl⟩ rfl rfl rfl
      · rintro call ⟨⟩
        cases hmove
      · rintro accepts ⟨⟩
        cases hmove
    · exact hstays

theorem toolRun_loopInv (settings : ToolSettings) (moves : List ToolMove) : LoopInv settings (toolRun settings moves) :=
  run_induction (toolStep settings) (loopInv_start settings) fun _ move _ hl => toolStep_loopInv move hl

/-! ## The frame of a submission -/

/-- Slot `i` was reserved under `x` for the call: the slot has the call's number and time, and the bytes of the call are
being copied into it. -/
def Carries (call : SubmitCall) (i : Nat) (x : UInt32) (s : Tool) : Prop :=
  ∃ l slot nv12, s.detector = some l ∧ l.system.detector.slots[i]? = some slot ∧ slot.frameId = x ∧
    slot.cameraSequence = call.cameraSequence ∧ slot.cameraTimestampUs = call.cameraTimestampUs ∧
    call.nv12 = some nv12 ∧ l.system.submitter = .copying i x nv12

theorem submitCalled_reserved {call : SubmitCall} {s : System} {i : Nat} {x : UInt32}
    (h : .reserved i x ∈ (submitCalled call s).2) :
    ∃ slot nv12, (submitCalled call s).1.detector.slots[i]? = some slot ∧ slot.frameId = x ∧
      slot.cameraSequence = call.cameraSequence ∧ slot.cameraTimestampUs = call.cameraTimestampUs ∧
      call.nv12 = some nv12 ∧ (submitCalled call s).1.submitter = .copying i x nv12 := by
  have hsubmitted := submitCalled_submitted call s
  generalize submitCalled call s = r at hsubmitted h ⊢
  cases hsubmitted with
  | refused | busy => simp at h
  | @reserved j nv12 free data =>
    simp only [List.mem_singleton, SlotEvent.reserved.injEq] at h
    obtain ⟨rfl, rfl⟩ := h
    obtain ⟨slot, hslot, -⟩ := findFree_some free
    refine ⟨reserveSlot s.detector.nextFrameId call.cameraSequence call.cameraTimestampUs call.submitMs slot, nv12, ?_,
      rfl, rfl, rfl, data, rfl⟩
    simp [hslot]

theorem toolLife_reserved {s : Tool} {move : LifeMove} {i : Nat} {x : UInt32}
    (h : ToolEvent.life (.slot (.reserved i x)) ∈ (toolLife move s).2) :
    ∃ call, move = .slot (.submit call) ∧ Carries call i x (toolLife move s).1 := by
  have he : .slot (.reserved i x) ∈ (lifeStep move s.detector).2 := by
    simpa [toolLife] using h
  obtain ⟨m, l, rfl, hl, hstep⟩ := lifeStep_slot he
  obtain ⟨call, rfl⟩ := step_reserved hstep
  have hidle : l.system.submitter = .idle := by
    by_contra hbusy
    simp [step, hbusy] at hstep
  have hpermits : l.owner.permits (.submit call) = true := by
    by_contra hforbidden
    simp [hl, lifeStep, hforbidden] at he
  simp only [step, hidle, if_true] at hstep
  obtain ⟨slot, nv12, hslot, hid, hsequence, htime, hnv12, hcopying⟩ := submitCalled_reserved hstep
  refine ⟨call, rfl, { l with system := (submitCalled call l.system).1 }, slot, nv12, ?_, hslot, hid, hsequence, htime,
    hnv12, hcopying⟩
  simp [toolLife, hl, lifeStep, hpermits, step, hidle]

/-- Only the call of `live_person_detector_submit` reserves a slot, and it passes the frame that is held. -/
theorem toolControl_reserved {s : Tool} {answers : ToolAnswers} {i : Nat} {x : UInt32}
    (h : ToolEvent.life (.slot (.reserved i x)) ∈ (toolControl settings answers s).2) :
    s.pc = .submit ∧ ∃ frame, s.frame = some frame ∧
      Carries (submitCall answers frame) i x (toolControl settings answers s).1 := by
  -- no other call of the detector's interface reserves
  have hother : ∀ move, (∀ call, move ≠ .slot (.submit call)) →
      ToolEvent.life (.slot (.reserved i x)) ∉ (toolLife move s).2 := by
    intro move hmove hmem
    obtain ⟨call, rfl, -⟩ := toolLife_reserved hmem
    exact hmove call rfl
  unfold toolControl at h ⊢
  cases hpc : s.pc with
  | submit =>
    simp only [hpc] at h ⊢
    cases hframe : s.frame with
    | none => simp [hframe] at h
    | some frame =>
      simp only [hframe, toolSubmits] at h ⊢
      have hlife : .life (.slot (.reserved i x)) ∈ (toolLife (.slot (.submit (submitCall answers frame))) s).2 := by
        split at h <;> exact h
      obtain ⟨call, hcall, hcarries⟩ := toolLife_reserved hlife
      cases hcall
      refine ⟨trivial, frame, rfl, ?_⟩
      split
      · exact hcarries
      · split <;> exact hcarries
  | submitting =>
    simp only [hpc, toolSubmits] at h
    refine absurd ?_ (hother (.slot (.proceed answers.accepts)) (by simp))
    split at h <;> exact h
  | createDetector =>
    simp only [hpc, toolCreateDetector] at h
    exact absurd h (hother _ (by simp))
  | waitIdle | destroy =>
    simp only [hpc] at h
    exact absurd h (hother _ (by simp))
  | waiting | destroying =>
    simp only [hpc, toolWaits] at h
    exact absurd h (hother _ (by simp))
  | createIsp => simp [hpc, toolCreateIsp] at h
  | startIsp => simp [hpc, toolStartIsp] at h
  | destroyIsp => simp [hpc, toolDestroyIsp] at h
  | initCapture =>
    simp only [hpc, toolInitCapture] at h
    split at h <;> simp at h
  | warmup k =>
    simp only [hpc, toolWarmup] at h
    split at h
    · simp at h
    · split at h <;> simp at h
  | acquire =>
    simp only [hpc, toolAcquire] at h
    split at h
    · simp at h
    · split at h <;> simp at h
  | warmupRelease | release =>
    simp only [hpc, toolRelease] at h
    split at h <;> simp at h
  | cleanup =>
    simp only [hpc, toolCleanup] at h
    split at h <;> simp at h
  | closeCapture =>
    simp only [hpc, toolCloseCapture] at h
    split at h <;> simp at h
  | _ => simp [hpc] at h

/-- **Every slot that is reserved** is reserved for the frame that the loop captured last, and offered. -/
theorem toolStep_reserved {move : ToolMove} {i : Nat} {x : UInt32} (hl : LoopInv settings h)
    (hreserved : ToolEvent.life (.slot (.reserved i x)) ∈ (toolStep settings move h.state).2) :
    ∃ answers past frame, move = .control answers ∧ toolCaptured h.events = past ++ [⟨frame, true⟩] ∧
      Carries (submitCall answers frame) i x (toolStep settings move h.state).1 := by
  cases move with
  | control answers =>
    obtain ⟨hpc, frame, hframe, hcarries⟩ := toolControl_reserved hreserved
    obtain ⟨past, last, hlast, hheld⟩ := hl.offering (by rw [hpc]; rfl)
    obtain rfl : frame = last := Option.some.inj (hframe.symm.trans hheld)
    exact ⟨answers, past, frame, rfl, hlast, hcarries⟩
  | signal =>
    simp only [toolStep] at hreserved
    split at hreserved <;> simp at hreserved
  | sof =>
    simp only [toolStep] at hreserved
    split at hreserved <;> simp at hreserved
  | error bypass =>
    simp only [toolStep] at hreserved
    split at hreserved <;> simp at hreserved
  | rockiva move =>
    simp only [toolStep] at hreserved
    split at hreserved
    · rename_i hcallback
      obtain ⟨call, hcall, -⟩ := toolLife_reserved hreserved
      cases hcall
      cases hcallback
    · simp at hreserved

/-- Only full frames are offered. -/
theorem Sampled.countP_offered {config : LoopConfig} {h : History LoopState Captured} (hs : Sampled config h) :
    h.events.countP (·.offered) = (offers config h.events).count true := by
  rw [offers, List.count, List.countP_map, List.countP_filter]
  apply List.countP_congr
  intro captured hcaptured
  have hfull : captured.offered = true → Full config captured := by
    intro hoffered
    by_contra hshort
    obtain ⟨past, after, hsplit⟩ := List.append_of_mem hcaptured
    obtain ⟨hnot, -⟩ := hs.short past captured after hsplit hshort
    rw [hoffered] at hnot
    cases hnot
  simpa using hfull

/-- **The capture loop in a run of the tool** is a run of the loop of `Sampling`, at the rate `D` of the options or that
of the camera. Every frame that it offers is submitted, once and before the next is captured: of `n ≥ 1` full frames
`1 + (n - 1) * D / C` have been. What is being submitted is the frame captured last, and a slot that is reserved has its
number and its time, and is filled with its bytes. -/
theorem toolRun_sampled (settings : ToolSettings) (hrate : 1 ≤ settings.detectFps) (moves : List ToolMove) :
    let h := toolRun settings moves
    let C := roundedCameraFps (some h.state.config.capture)
    let D := min settings.detectFps C
    let n := ((toolCaptured h.events).filter fun captured => Full h.state.config captured).length
    let submissions := (toolSubmitted h.events).length + h.state.pc.pending
    (∃ inputs, run (loopStep h.state.config) (loopStart h.state.config) inputs =
        ⟨h.state.loop, toolCaptured h.events⟩) ∧
      (1 ≤ D ∧ D ≤ settings.detectFps ∧ D ≤ C) ∧
      (n = 0 → submissions = 0) ∧ (1 ≤ n → (submissions : ℤ) = 1 + (n - 1) * D / C) ∧
      (h.state.pc.pending = 1 → Offering h) ∧
      ∀ move i x, .life (.slot (.reserved i x)) ∈ (toolStep settings move h.state).2 →
        ∃ answers past frame, move = .control answers ∧ toolCaptured h.events = past ++ [⟨frame, true⟩] ∧
          h.state.config.expectedNv12Size ≤ frame.size ∧
          Carries (submitCall answers frame) i x (toolStep settings move h.state).1 := by
  intro h C D n submissions
  have hl : LoopInv settings h := toolRun_loopInv settings moves
  obtain ⟨inputs, hrun⟩ := hl.loops
  have hsampled := run_sampled h.state.config inputs
  rw [hrun] at hsampled
  have hlength : (offers h.state.config (toolCaptured h.events)).length = n := by rw [offers, List.length_map]
  have hcount : submissions = (offers h.state.config (toolCaptured h.events)).count true :=
    hl.submitted.symm.trans hsampled.countP_offered
  have hCpos : 1 ≤ C := (roundedCameraFps_bounds _).1
  have hDpos : 1 ≤ D ∧ D ≤ C := ⟨le_min hrate hCpos, min_le_right _ _⟩
  refine ⟨hl.loops, ⟨hDpos.1, min_le_left _ _, hDpos.2⟩, fun hnone => ?_, fun hsome => ?_, hl.offering,
    fun move i x hreserved => ?_⟩
  · rw [hcount, List.eq_nil_of_length_eq_zero (hlength.trans hnone), List.count_nil]
  · have hcaptured : toolCaptured h.events ≠ [] := by
      intro hnone
      rw [hnone] at hlength
      simp [offers] at hlength
      omega
    obtain ⟨capture, startMs, hconfig⟩ := hl.config.resolve_left fun hnone => hcaptured hnone.1
    have hcapture : h.state.config.capture = capture := by rw [hconfig]; rfl
    have hC : h.state.config.cameraFps = C := by
      dsimp only [C]
      rw [hcapture, hconfig]
      rfl
    have hD : h.state.config.detectFps = D := by
      dsimp only [D, C]
      rw [hcapture, hconfig, min_def]
      dsimp only [loopConfig]
      split <;> split <;> omega
    have hpaced := hsampled.paced
    rw [hC, hD] at hpaced
    have hsum : C - D + n * D = (n - 1) * D + C * 1 := by ring
    have htake := hpaced.count_take ⟨by omega, hDpos.2⟩ ⟨by omega, by omega⟩ hlength.ge
    rw [List.take_of_length_le hlength.le, ← hcount] at htake
    calc (submissions : ℤ) = (C - D + n * D) / C := htake
      _ = (n - 1) * D / C + 1 := by rw [hsum, Int.add_mul_ediv_left _ _ (by omega)]
      _ = 1 + (n - 1) * D / C := Int.add_comm _ _
  · obtain ⟨answers, past, frame, hmove, hlast, hcarries⟩ := toolStep_reserved hl hreserved
    refine ⟨answers, past, frame, hmove, hlast, ?_, hcarries⟩
    by_contra hshort
    cases (hsampled.short past _ [] hlast hshort).1

/-- Images of two by two pixels, five of them a second to be submitted. -/
def smallTool : ToolSettings := ⟨[47], "models", 0, 2, 2, 0, 5, 50, 0⟩

/-- Everything succeeds, and the camera delivers six bytes. -/
def toolSucceeds : ToolAnswers where
  isp := ⟨true, true, true, some [115], true, true, true, true⟩
  init :=
    { device := some 3, querycap := some ⟨v4l2CapVideoCaptureMplane ||| v4l2CapStreaming, 0⟩
      setFormat := some ⟨2, 2, 1, v4l2PixFmtNv12, 2, 6⟩, setParm := some (1, 30), reqbufs := some 2
      buffer := fun _ => ⟨some 6, true, true⟩, streamon := true }
  acquire := [.dequeued ⟨0, 6, 0, 1, 0⟩]
  requeue := true
  interrupted := false
  release := true
  nowMs := 0
  create := ⟨true, true, true, true, true, fun _ => [], true, true, true, true⟩
  dma := fun _ => .usable []
  cleanup := ⟨true, true, fun _ => true⟩
  mapping := fun _ _ => 0
  accepts := true
  owner := ownerSucceeds

/-- At 30 and 5 frames a second three of fifteen frames are submitted; the first of them gets the first slot. -/
theorem toolRun_sampled_fifteen :
    let h := toolRun smallTool (List.replicate 60 (.control toolSucceeds))
    let first := toolRun smallTool (List.replicate 9 (.control toolSucceeds))
    (toolCaptured h.events).length = 15 ∧ (toolSubmitted h.events).length + h.state.pc.pending = 3 ∧
      .life (.slot (.reserved 0 1)) ∈ (toolStep smallTool (.control toolSucceeds) first.state).2 ∧ Offering first := by
  have hsampled := toolRun_sampled smallTool (by decide) (List.replicate 60 (.control toolSucceeds))
  have hoffering := (toolRun_sampled smallTool (by decide) (List.replicate 9 (.control toolSucceeds))).2.2.2.2.1
  dsimp only at hsampled hoffering ⊢
  generalize hrun : toolRun smallTool (List.replicate 60 (.control toolSucceeds)) = h at hsampled ⊢
  have hcaptured : (toolCaptured h.events).length = 15 := by
    rw [← hrun]
    decide +kernel
  have hfull : ((toolCaptured h.events).filter fun captured => Full h.state.config captured).length = 15 := by
    rw [← hrun]
    decide +kernel
  have hC : roundedCameraFps (some h.state.config.capture) = 30 := by
    rw [← hrun]
    decide +kernel
  have hcount := hsampled.2.2.2.1 (by omega)
  rw [hfull, hC] at hcount
  have hthree : 1 + (((15 : ℕ) : ℤ) - 1) * min smallTool.detectFps 30 / 30 = 3 := by decide
  exact ⟨hcaptured, Int.ofNat.inj (hcount.trans hthree), by decide +kernel, hoffering (by decide +kernel)⟩

end MiniRtsp.Detector
