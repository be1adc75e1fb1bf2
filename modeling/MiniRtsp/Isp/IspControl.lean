import MiniRtsp.Lib.Ledger
import MiniRtsp.Lib.Tenancy
import MiniRtsp.Lib.Text
import Mathlib.Data.Multiset.Bind

/-!
# The image signal processor

`isp/isp_control.c` over the answers of RKAIQ. The calls that one RKAIQ context gets follow an order of their own
(`AiqPhase.next`): it is started only behind a successful `prepare`, stopped only while it runs, and deinitialized once,
stopped, with nothing behind. `isp_control_stop` forgets a context whose stop failed; only such a context is prepared
again or deinitialized although it may run. Whatever is called on any number of controls, and whatever fails, every
context gets its calls in that order, and what was allocated is given back (`ispRun_orderly`).
-/

namespace MiniRtsp.Isp

open Ledger Text Trace

/-! ## The calls of RKAIQ -/

inductive AiqCall where
  | init (sensorName iqDir : Bytes)
  | setMulCamConc
  | prepare (workingMode : Int) (ok : Bool)
  | start (ok : Bool)
  | stop (ok : Bool)
  | deinit
  deriving DecidableEq, Repr

/-- How far a context has come. -/
inductive AiqPhase where
  | absent
  | idle
  | prepared
  | running
  /-- A stop has failed, and no start has succeeded since: the context may run. -/
  | unstopped (prepared : Bool)
  | gone
  deriving DecidableEq, Repr

/-- What a call makes of a context; `none` where it is out of place. A context in doubt may be prepared, started and
deinitialized. -/
def AiqPhase.next : AiqPhase → AiqCall → Option AiqPhase
  | .absent, .init _ _ => some .idle
  | .idle, .setMulCamConc => some .idle
  | .idle, .prepare _ ok | .prepared, .prepare _ ok => some (if ok then .prepared else .idle)
  | .prepared, .start ok => some (if ok then .running else .prepared)
  | .running, .stop ok => some (if ok then .idle else .unstopped false)
  | .unstopped _, .prepare _ ok => some (.unstopped ok)
  | .unstopped true, .start ok => some (if ok then .running else .unstopped true)
  | .idle, .deinit | .prepared, .deinit | .unstopped _, .deinit => some .gone
  | _, _ => none

/-- Where a context is that can be prepared. -/
def AiqPhase.unstarted : AiqPhase → Bool
  | .idle | .prepared | .unstopped _ => true
  | .absent | .running | .gone => false

/-- Only a stop that fails leaves a context in doubt. -/
theorem AiqPhase.next_unstopped {p : AiqPhase} {call : AiqCall} {prepared : Bool}
    (h : p.next call = some (.unstopped prepared)) : call = .stop false ∨ ∃ b, p = .unstopped b := by
  cases call with
  | init | setMulCamConc | deinit => cases p <;> simp [AiqPhase.next] at h
  | prepare mode ok => cases p <;> cases ok <;> simp [AiqPhase.next] at h ⊢
  | start ok =>
    cases p with
    | unstopped b => exact .inr ⟨b, rfl⟩
    | prepared => cases ok <;> simp [AiqPhase.next] at h
    | absent | idle | running | gone => simp [AiqPhase.next] at h
  | stop ok => cases p <;> cases ok <;> simp [AiqPhase.next] at h ⊢

theorem stop_failed_of_unstopped {calls : List AiqCall} {p : AiqPhase} {prepared : Bool}
    (h : calls.foldlM AiqPhase.next p = some (.unstopped prepared)) : .stop false ∈ calls ∨ ∃ b, p = .unstopped b := by
  induction calls generalizing p with
  | nil => exact .inr ⟨prepared, by simpa using h⟩
  | cons call calls ih =>
    rw [List.foldlM_cons] at h
    cases hnext : p.next call with
    | none => simp [hnext] at h
    | some q =>
      rw [hnext] at h
      rcases ih h with hmem | ⟨b, rfl⟩
      · exact .inl (List.mem_cons_of_mem _ hmem)
      · rcases AiqPhase.next_unstopped hnext with rfl | hp
        · exact .inl (by simp)
        · exact .inr hp

/-! ## Controls -/

def ispMaxCameraCount : Int := 8

structure IspConfig where
  cameraId : Int
  iqDir : Option Bytes
  hdrMode : Int
  multiCam : Bool

/-- `IspControl`, with a name for it and its context; `aiqCtx` is `false` for `NULL`. -/
structure IspControl where
  id : Nat
  cameraId : Int
  iqDir : Bytes
  workingMode : Int
  multiCam : Bool
  aiqCtx : Bool
  started : Bool
  deriving DecidableEq, Repr

inductive IspResource where
  | control (id : Nat)
  | iqDir (id : Nat)
  | context (id : Nat)
  deriving DecidableEq, Repr

inductive IspEvent where
  | use (u : Use IspResource)
  /-- `setenv("HDR_MODE", …)` -/
  | environment (hdrMode : Bytes)
  | enumerated (cameraId : Int)
  | aiq (id : Nat) (call : AiqCall)
  /-- `g_aiq_should_quit` is cleared, or set. -/
  | quitCleared
  | quitReported
  deriving DecidableEq, Repr

/-- What the system and RKAIQ answer; the sensor's name is `none` if the enumeration fails. -/
structure IspAnswers where
  calloc : Bool
  malloc : Bool
  setenv : Bool
  sensorName : Option Bytes
  init : Bool
  prepare : Bool
  start : Bool
  stop : Bool

/-- The controls that there are, and the globals of the file. -/
structure Isps where
  controls : List IspControl
  count : Nat
  sofCount : UInt32
  shouldQuit : Bool

/-- The check at the beginning of `isp_control_create`. -/
def IspConfig.Valid (config : IspConfig) : Prop :=
  config.iqDir.getD [] ≠ [] ∧ 0 ≤ config.cameraId ∧ config.cameraId < ispMaxCameraCount

instance (config : IspConfig) : Decidable config.Valid := inferInstanceAs (Decidable (_ ∧ _ ∧ _))

/-- `isp_control_create`; the name of the control if it returns 0. -/
def ispControlCreate (answers : IspAnswers) (config : Option IspConfig) (s : Isps) :
    Isps × List IspEvent × Option Nat :=
  match config with
  | none => (s, [], none)
  | some config =>
    if ¬ config.Valid ∨ !answers.calloc then (s, [], none)
    else
      let id := s.count
      let s := { s with count := id + 1 }
      if !answers.malloc then (s, [.use (.acquire (.control id)), .use (.release (.control id))], none)
      else
        let taken : List IspEvent := [.use (.acquire (.control id)), .use (.acquire (.iqDir id))]
        let freed : List IspEvent := [.use (.release (.iqDir id)), .use (.release (.control id))]
        if !answers.setenv then (s, taken ++ freed, none)
        else
          let tried : List IspEvent :=
            taken ++ [.environment ((decimalInt config.hdrMode).take 15), .enumerated config.cameraId]
          match answers.sensorName with
          | none | some [] => (s, tried ++ freed, none)
          | some name =>
            let s := { s with sofCount := 0, shouldQuit := false }
            let tried := tried ++ [.quitCleared]
            if !answers.init then (s, tried ++ freed, none)
            else
              let control : IspControl :=
                { id := id, cameraId := config.cameraId, iqDir := config.iqDir.getD [], workingMode := config.hdrMode
                  multiCam := config.multiCam, aiqCtx := true, started := false }
              ({ s with controls := control :: s.controls },
                tried ++ [.use (.acquire (.context id)), .aiq id (.init name control.iqDir)] ++
                  (if config.multiCam then [.aiq id .setMulCamConc] else []),
                some id)

/-- `isp_control_start`. -/
def ispControlStart (answers : IspAnswers) (isp : IspControl) : IspControl × List IspEvent × Int :=
  if !isp.aiqCtx then (isp, [], -1)
  else if isp.started then (isp, [], 0)
  else if !answers.prepare then (isp, [.aiq isp.id (.prepare isp.workingMode false)], -1)
  else if !answers.start then
    (isp, [.aiq isp.id (.prepare isp.workingMode true), .aiq isp.id (.start false)], -1)
  else
    ({ isp with started := true }, [.aiq isp.id (.prepare isp.workingMode true), .aiq isp.id (.start true)], 0)

/-- `isp_control_stop`. -/
def ispControlStop (answers : IspAnswers) (isp : IspControl) : IspControl × List IspEvent :=
  if !isp.aiqCtx ∨ !isp.started then (isp, [])
  else ({ isp with started := false }, [.aiq isp.id (.stop answers.stop)])

/-- `isp_control_destroy`. -/
def ispControlDestroy (answers : IspAnswers) (isp : IspControl) : List IspEvent :=
  let (isp, stopped) := ispControlStop answers isp
  stopped ++ (if isp.aiqCtx then [.aiq isp.id .deinit, .use (.release (.context isp.id))] else []) ++
    [.use (.release (.iqDir isp.id)), .use (.release (.control isp.id))]

/-! ## Any calls -/

/-- The control that a pointer points to. -/
def Isps.get (s : Isps) (isp : Option Nat) : Option IspControl := s.controls.find? fun c => some c.id = isp

/-- A control in the place of the one of its name. -/
def Isps.put (s : Isps) (isp : IspControl) : Isps :=
  { s with controls := s.controls.map fun c => if c.id = isp.id then isp else c }

/-- A call of the interface on a control or on `NULL`, or a callback of RKAIQ. -/
inductive IspMove where
  | create (answers : IspAnswers) (config : Option IspConfig)
  | start (answers : IspAnswers) (isp : Option Nat)
  | stop (answers : IspAnswers) (isp : Option Nat)
  | destroy (answers : IspAnswers) (isp : Option Nat)
  /-- `isp_sof_callback` -/
  | sof
  /-- `isp_error_callback`, and whether the error is `XCAM_RETURN_BYPASS`. -/
  | error (bypass : Bool)

/-- A step. Nothing is called with a pointer to a control that has been destroyed. -/
def ispStep : IspMove → Isps → Isps × List IspEvent
  | .create answers config, s =>
    let (s, events, _) := ispControlCreate answers config s
    (s, events)
  | .start answers isp, s =>
    match s.get isp with
    | none => (s, [])
    | some c =>
      let (c, events, _) := ispControlStart answers c
      (s.put c, events)
  | .stop answers isp, s =>
    match s.get isp with
    | none => (s, [])
    | some c =>
      let (c, events) := ispControlStop answers c
      (s.put c, events)
  | .destroy answers isp, s =>
    match s.get isp with
    | none => (s, [])
    | some c => ({ s with controls := s.controls.erase c }, ispControlDestroy answers c)
  | .sof, s => ({ s with sofCount := s.sofCount + 1 }, [])
  | .error bypass, s => if bypass then ({ s with shouldQuit := true }, [.quitReported]) else (s, [])

/-- `isp_control_should_quit`. -/
def ispControlShouldQuit (s : Isps) (isp : Option Nat) : Bool := isp.isSome && s.shouldQuit

def Isps.start : Isps := ⟨[], 0, 0, false⟩

def ispRun (moves : List IspMove) : History Isps IspEvent := run ispStep .start moves

/-! ## What the events say -/

/-- The calls that a context got. -/
def aiqCalls (id : Nat) (events : List IspEvent) : List AiqCall :=
  events.filterMap fun e => match e with
    | .aiq id' call => if id' = id then some call else none
    | _ => none

/-- How far a context has come; `none` if a call was out of place. -/
def phaseOf (id : Nat) (events : List IspEvent) : Option AiqPhase := (aiqCalls id events).foldlM AiqPhase.next .absent

/-- What was allocated and freed. -/
def ispUses (events : List IspEvent) : List (Use IspResource) :=
  events.filterMap fun e => match e with
    | .use u => some u
    | _ => none

theorem phaseOf_append (id : Nat) (es fs : List IspEvent) :
    phaseOf id (es ++ fs) = (phaseOf id es).bind fun p => (aiqCalls id fs).foldlM AiqPhase.next p := by
  simp [phaseOf, aiqCalls, List.filterMap_append, List.foldlM_append]

theorem ispUses_append (es fs : List IspEvent) : ispUses (es ++ fs) = ispUses es ++ ispUses fs := List.filterMap_append

/-- `RKAIQ` has asked to quit since the flag was cleared. -/
def QuitAsked (events : List IspEvent) : Prop := Since (· = .quitReported) (· = .quitCleared) events

theorem quitAsked_append {es fs : List IspEvent} (h : .quitReported ∉ fs ∧ .quitCleared ∉ fs) :
    QuitAsked (es ++ fs) ↔ QuitAsked es :=
  since_append fun _ he => ⟨fun heq => h.1 (heq ▸ he), fun heq => h.2 (heq ▸ he)⟩

/-- Whoever creates a control clears the flag. -/
theorem not_quitAsked {es fs : List IspEvent} (hreported : .quitReported ∉ fs) (hcleared : .quitCleared ∈ fs) :
    ¬ QuitAsked (es ++ fs) :=
  not_since_append (fun _ he heq => hreported (heq ▸ he)) ⟨_, hcleared, rfl⟩

/-! ## One control -/

def IspControl.held (isp : IspControl) : Multiset IspResource := {.context isp.id, .iqDir isp.id, .control isp.id}

theorem IspControl.held_add (isp : IspControl) (m : Multiset IspResource) :
    isp.held + m = .context isp.id ::ₘ .iqDir isp.id ::ₘ .control isp.id ::ₘ m := by
  simp [IspControl.held, Multiset.insert_eq_cons, Multiset.singleton_add]

/-- A control knows how far its context has come. -/
def IspControl.At (isp : IspControl) (phase : Option AiqPhase) : Prop :=
  isp.aiqCtx = true ∧ if isp.started then phase = some .running else ∃ p, phase = some p ∧ p.unstarted = true

/-- Events that concern one control and not the flag. -/
structure Concerns (id : Nat) (events : List IspEvent) : Prop where
  others : ∀ id', id' ≠ id → aiqCalls id' events = []
  quit : .quitReported ∉ events ∧ .quitCleared ∉ events

theorem Concerns.phaseOf {id id' : Nat} {es fs : List IspEvent} (h : Concerns id fs) (hne : id' ≠ id) :
    phaseOf id' (es ++ fs) = phaseOf id' es := by
  rw [phaseOf_append, h.others id' hne]
  cases Isp.phaseOf id' es <;> rfl

theorem ispControlStart_spec (answers : IspAnswers) {isp : IspControl} {es : List IspEvent}
    (hisp : isp.At (phaseOf isp.id es)) :
    (ispControlStart answers isp).1.At (phaseOf isp.id (es ++ (ispControlStart answers isp).2.1)) ∧
      (ispControlStart answers isp).1.id = isp.id ∧ Concerns isp.id (ispControlStart answers isp).2.1 ∧
      ispUses (ispControlStart answers isp).2.1 = [] := by
  obtain ⟨hctx, hphase⟩ := hisp
  unfold ispControlStart
  rw [hctx]
  simp only [Bool.not_true, Bool.false_eq_true, if_false]
  split
  · rename_i hstarted
    rw [List.append_nil]
    exact ⟨⟨hctx, hphase⟩, rfl, ⟨fun _ _ => rfl, by simp⟩, rfl⟩
  · rename_i hstarted
    rw [if_neg hstarted] at hphase
    have hothers : ∀ calls : List AiqCall, Concerns isp.id (calls.map (.aiq isp.id)) := fun calls => by
      refine ⟨fun id' hne => ?_, by simp, by simp⟩
      simp [aiqCalls, List.filterMap_map, Ne.symm hne]
    obtain ⟨p, hp, hunstarted⟩ := hphase
    split
    · refine ⟨⟨hctx, ?_⟩, rfl, hothers [.prepare isp.workingMode false], rfl⟩
      rw [if_neg hstarted, phaseOf_append, hp]
      -- `prepare` may be called again behind a `start` or a `stop` that failed
      cases p <;> simp [AiqPhase.unstarted] at hunstarted <;> simp [aiqCalls, AiqPhase.next, AiqPhase.unstarted]
    · split
      · refine ⟨⟨hctx, ?_⟩, rfl, hothers [.prepare isp.workingMode true, .start false], rfl⟩
        rw [if_neg hstarted, phaseOf_append, hp]
        cases p <;> simp [AiqPhase.unstarted] at hunstarted <;> simp [aiqCalls, AiqPhase.next, AiqPhase.unstarted]
      · refine ⟨⟨rfl, ?_⟩, rfl, hothers [.prepare isp.workingMode true, .start true], rfl⟩
        rw [if_pos rfl, phaseOf_append, hp]
        cases p <;> simp [AiqPhase.unstarted] at hunstarted <;> simp [aiqCalls, AiqPhase.next]

/-- A control whose start is reported is started. -/
theorem ispControlStart_result (answers : IspAnswers) {isp : IspControl} (hctx : isp.aiqCtx = true) :
    (ispControlStart answers isp).2.2 = 0 → (ispControlStart answers isp).1.started = true := by
  unfold ispControlStart
  rw [hctx]
  simp only [Bool.not_true, Bool.false_eq_true, if_false]
  split
  · rename_i hstarted
    exact fun _ => hstarted
  · split
    · simp
    · split <;> simp

theorem ispControlStop_spec (answers : IspAnswers) {isp : IspControl} {es : List IspEvent}
    (hisp : isp.At (phaseOf isp.id es)) :
    (ispControlStop answers isp).1.At (phaseOf isp.id (es ++ (ispControlStop answers isp).2)) ∧
      (ispControlStop answers isp).1 = { isp with started := false } ∧ Concerns isp.id (ispControlStop answers isp).2 ∧
      ispUses (ispControlStop answers isp).2 = [] := by
  obtain ⟨hctx, hphase⟩ := hisp
  unfold ispControlStop
  cases hstarted : isp.started with
  | false =>
    rw [if_pos (by simp), List.append_nil]
    rw [hstarted] at hphase
    exact ⟨⟨hctx, by rwa [hstarted]⟩, by rw [← hstarted], ⟨fun _ _ => rfl, by simp⟩, rfl⟩
  | true =>
    rw [if_neg (by simp [hctx])]
    rw [hstarted, if_pos rfl] at hphase
    refine ⟨⟨hctx, ?_⟩, rfl, ⟨fun id' hne => ?_, by simp⟩, rfl⟩
    · cases answers.stop <;> simp [phaseOf_append, hphase, aiqCalls, AiqPhase.next, AiqPhase.unstarted]
    · simp [aiqCalls, Ne.symm hne]

/-- **A control that is destroyed** is stopped first; its context is gone, and all its memory has been freed. -/
theorem ispControlDestroy_spec (answers : IspAnswers) {isp : IspControl} {es : List IspEvent}
    (hisp : isp.At (phaseOf isp.id es)) :
    phaseOf isp.id (es ++ ispControlDestroy answers isp) = some .gone ∧ Concerns isp.id (ispControlDestroy answers isp) ∧
      ∀ m, Moves (ispUses (ispControlDestroy answers isp)) (isp.held + m) m := by
  obtain ⟨⟨hctx, hphase⟩, hsame, hconcerns, huses⟩ := ispControlStop_spec answers hisp
  unfold ispControlDestroy
  generalize ispControlStop answers isp = r at *
  obtain ⟨isp', stopped⟩ := r
  dsimp only at *
  subst hsame
  replace hctx : isp.aiqCtx = true := hctx
  simp only [Bool.false_eq_true, if_false] at hphase
  simp only [hctx, if_true]
  refine ⟨?_, ⟨fun id' hne => ?_, ?_⟩, fun m => ?_⟩
  · obtain ⟨p, hp, hunstarted⟩ := hphase
    rw [List.append_assoc, ← List.append_assoc, phaseOf_append, hp]
    cases p <;> simp [AiqPhase.unstarted] at hunstarted <;> simp [aiqCalls, AiqPhase.next]
  · have hnone := hconcerns.others id' hne
    simp only [aiqCalls, List.filterMap_append, List.append_eq_nil_iff] at hnone ⊢
    simp [hnone, Ne.symm hne]
  · have hquit := hconcerns.quit
    simp [hquit]
  · rw [ispUses_append, ispUses_append, huses]
    rw [IspControl.held_add]
    exact (moves_release _ _).cons ((moves_release _ _).cons (moves_release _ _))


/-- What a call that creates nothing does: what it takes it gives back. -/
structure CreateFails (s s' : Isps) (events : List IspEvent) : Prop where
  controls : s'.controls = s.controls
  count : s.count ≤ s'.count
  calls : ∀ id, aiqCalls id events = []
  uses : ∀ m, Moves (ispUses events) m m
  quit : .quitReported ∉ events
  shouldQuit : s'.shouldQuit = s.shouldQuit ∧ .quitCleared ∉ events ∨ s'.shouldQuit = false ∧ .quitCleared ∈ events

/-- What a call that creates a control does. -/
structure Creates (s s' : Isps) (events : List IspEvent) (isp : IspControl) : Prop where
  id : isp.id = s.count
  started : isp.started = false
  state : s' = { controls := isp :: s.controls, count := s.count + 1, sofCount := 0, shouldQuit := false }
  concerns : ∀ id, id ≠ isp.id → aiqCalls id events = []
  phase : isp.At ((aiqCalls isp.id events).foldlM AiqPhase.next .absent)
  uses : ∀ m, Moves (ispUses events) m (isp.held + m)
  quit : .quitReported ∉ events ∧ .quitCleared ∈ events

theorem ispControlCreate_cases (answers : IspAnswers) (config : Option IspConfig) (s : Isps) :
    ((ispControlCreate answers config s).2.2 = none ∧
      CreateFails s (ispControlCreate answers config s).1 (ispControlCreate answers config s).2.1) ∨
    ∃ isp, (ispControlCreate answers config s).2.2 = some isp.id ∧
      Creates s (ispControlCreate answers config s).1 (ispControlCreate answers config s).2.1 isp := by
  have hnothing : CreateFails s s [] :=
    ⟨rfl, le_refl _, fun _ => rfl, moves_nil, by simp, .inl ⟨rfl, by simp⟩⟩
  have hboth : ∀ (id : Nat) (m : Multiset IspResource), Moves
      [.acquire (.control id), .acquire (.iqDir id), .release (.iqDir id), .release (.control id)] m m := fun id m =>
    (moves_acquire _ _).cons ((moves_acquire _ _).cons ((moves_release _ _).cons (moves_release _ _)))
  unfold ispControlCreate
  cases config with
  | none => exact .inl ⟨rfl, hnothing⟩
  | some config =>
    dsimp only
    split
    · exact .inl ⟨rfl, hnothing⟩
    · split
      · refine .inl ⟨rfl, rfl, Nat.le_succ _, fun _ => rfl, fun m => ?_, by simp, .inl ⟨rfl, by simp⟩⟩
        exact (moves_acquire _ _).cons (moves_release _ _)
      · split
        · exact .inl ⟨rfl, rfl, Nat.le_succ _, fun _ => rfl, hboth s.count, by simp, .inl ⟨rfl, by simp⟩⟩
        · split
          · exact .inl ⟨rfl, rfl, Nat.le_succ _, fun _ => rfl, hboth s.count, by simp, .inl ⟨rfl, by simp⟩⟩
          · exact .inl ⟨rfl, rfl, Nat.le_succ _, fun _ => rfl, hboth s.count, by simp, .inl ⟨rfl, by simp⟩⟩
          · split
            · exact .inl ⟨rfl, rfl, Nat.le_succ _, fun _ => rfl, hboth s.count, by simp, .inr ⟨rfl, by simp⟩⟩
            · refine .inr ⟨_, rfl, rfl, rfl, rfl, fun id hne => ?_, ⟨rfl, ?_⟩, fun m => ?_, ?_⟩
              · cases config.multiCam <;> simp [aiqCalls, Ne.symm hne]
              · cases config.multiCam <;> simp [aiqCalls, AiqPhase.next, AiqPhase.unstarted]
              · rw [IspControl.held_add]
                have htaken := (moves_acquire (.control s.count) m).cons ((moves_acquire (.iqDir s.count) _).cons
                  (moves_acquire (.context s.count) _))
                cases config.multiCam <;> exact htaken
              · cases config.multiCam <;> simp

/-! ## Runs -/

/-- What the controls hold. -/
def Isps.held (s : Isps) : Multiset IspResource := (s.controls.map IspControl.held).sum

structure IspInv (h : History Isps IspEvent) : Prop where
  fresh : ∀ isp ∈ h.state.controls, isp.id < h.state.count
  unique : (h.state.controls.map (·.id)).Nodup
  live : ∀ isp ∈ h.state.controls, isp.At (phaseOf isp.id h.events)
  new : ∀ id, h.state.count ≤ id → phaseOf id h.events = some .absent
  gone : ∀ id, (∀ isp ∈ h.state.controls, isp.id ≠ id) →
    phaseOf id h.events = some .absent ∨ phaseOf id h.events = some .gone
  held : Holds (ispUses h.events) h.state.held
  quit : h.state.shouldQuit = true ↔ QuitAsked h.events

variable {h : History Isps IspEvent}

theorem ispInv_start : IspInv ⟨.start, []⟩ :=
  ⟨by simp [Isps.start], by simp [Isps.start], by simp [Isps.start], fun _ _ => rfl, fun _ _ => .inl rfl, holds_nil,
    by simp [Isps.start], fun hasked => absurd hasked not_since_nil⟩

theorem Isps.get_mem {s : Isps} {isp : Option Nat} {c : IspControl} (h : s.get isp = some c) : c ∈ s.controls :=
  List.mem_of_find?_eq_some h

theorem Isps.get_single {s : Isps} {c : IspControl} (h : s.controls = [c]) : s.get (some c.id) = some c := by
  simp [get, h]

/-- The names tell the controls apart. -/
theorem IspInv.eq_of_id (hi : IspInv h) {c d : IspControl} (hc : c ∈ h.state.controls) (hd : d ∈ h.state.controls)
    (hid : c.id = d.id) : c = d :=
  List.inj_on_of_nodup_map hi.unique hc hd hid

/-- A call on one control, which keeps it. -/
theorem IspInv.put {c c' : IspControl} {events : List IspEvent} (hi : IspInv h) (hc : c ∈ h.state.controls)
    (hat : c'.At (phaseOf c.id (h.events ++ events))) (hid : c'.id = c.id) (hconcerns : Concerns c.id events)
    (huses : ispUses events = []) : IspInv ⟨h.state.put c', h.events ++ events⟩ := by
  have hids : (h.state.put c').controls.map (·.id) = h.state.controls.map (·.id) := by
    unfold Isps.put
    rw [List.map_map]
    refine List.map_congr_left fun x _ => ?_
    simp only [Function.comp_apply]
    split
    · rename_i hx
      exact hx.symm
    · rfl
  have hmem : ∀ x ∈ (h.state.put c').controls, x = c' ∨ x ∈ h.state.controls ∧ x.id ≠ c.id := by
    intro x hx
    obtain ⟨y, hy, rfl⟩ := List.mem_map.mp hx
    split
    · exact .inl rfl
    · rename_i hne
      exact .inr ⟨hy, hid ▸ hne⟩
  refine ⟨fun x hx => ?_, ?_, fun x hx => ?_, fun id hcount => ?_, fun id hnone => ?_, ?_, ?_⟩
  · rcases hmem x hx with rfl | ⟨hx, -⟩
    · exact hid ▸ hi.fresh c hc
    · exact hi.fresh x hx
  · rw [hids]
    exact hi.unique
  · rcases hmem x hx with rfl | ⟨hx, hne⟩
    · rwa [hid]
    · rw [hconcerns.phaseOf hne]
      exact hi.live x hx
  · have hne : id ≠ c.id := by
      rintro rfl
      exact absurd (hi.fresh c hc) (Nat.not_lt_of_le hcount)
    rw [hconcerns.phaseOf hne]
    exact hi.new id hcount
  · have hnone' : ∀ x ∈ h.state.controls, x.id ≠ id := by
      intro x hx hxid
      have hin : id ∈ (h.state.put c').controls.map (·.id) := by
        rw [hids]
        exact List.mem_map.mpr ⟨x, hx, hxid⟩
      obtain ⟨y, hy, hyid⟩ := List.mem_map.mp hin
      exact hnone y hy hyid
    rw [hconcerns.phaseOf fun heq => hnone' c hc heq.symm]
    exact hi.gone id hnone'
  · have hsame : (h.state.put c').held = h.state.held := by
      unfold Isps.held Isps.put
      rw [List.map_map]
      congr 1
      refine List.map_congr_left fun x _ => ?_
      simp only [Function.comp_apply]
      split
      · rename_i hx
        unfold IspControl.held
        rw [hx]
      · rfl
    rw [ispUses_append, huses, List.append_nil, hsame]
    exact hi.held
  · dsimp only
    rw [quitAsked_append hconcerns.quit]
    exact hi.quit

theorem IspInv.destroy {c : IspControl} {events : List IspEvent} (hi : IspInv h) (hc : c ∈ h.state.controls)
    (hgone : phaseOf c.id (h.events ++ events) = some .gone) (hconcerns : Concerns c.id events)
    (huses : ∀ m, Moves (ispUses events) (c.held + m) m) :
    IspInv ⟨{ h.state with controls := h.state.controls.erase c }, h.events ++ events⟩ := by
  have hperm := List.perm_cons_erase hc
  have hother : ∀ x ∈ h.state.controls.erase c, x ∈ h.state.controls ∧ x.id ≠ c.id := by
    intro x hx
    have hmem := List.mem_of_mem_erase hx
    refine ⟨hmem, fun hid => ?_⟩
    have hnodup : h.state.controls.Nodup := hi.unique.of_map _
    exact (hnodup.mem_erase_iff.mp hx).1 (hi.eq_of_id hmem hc hid)
  refine ⟨fun x hx => hi.fresh x (hother x hx).1, ?_, fun x hx => ?_, fun id hcount => ?_, fun id hnone => ?_, ?_, ?_⟩
  · exact hi.unique.sublist (List.erase_sublist.map _)
  · obtain ⟨hmem, hne⟩ := hother x hx
    rw [hconcerns.phaseOf hne]
    exact hi.live x hmem
  · have hne : id ≠ c.id := by
      rintro rfl
      exact absurd (hi.fresh c hc) (Nat.not_lt_of_le hcount)
    rw [hconcerns.phaseOf hne]
    exact hi.new id hcount
  · by_cases hid : id = c.id
    · exact .inr (hid ▸ hgone)
    · rw [hconcerns.phaseOf hid]
      refine hi.gone id fun x hx hxid => ?_
      have hne : x ≠ c := by
        rintro rfl
        exact hid hxid.symm
      exact hnone x ((List.mem_erase_of_ne hne).mpr hx) hxid
  · have hheld : h.state.held = c.held + Isps.held { h.state with controls := h.state.controls.erase c } := by
      unfold Isps.held
      rw [(hperm.map IspControl.held).sum_eq, List.map_cons, List.sum_cons]
    rw [ispUses_append]
    exact huses _ _ (hheld ▸ hi.held)
  · dsimp only
    rw [quitAsked_append hconcerns.quit]
    exact hi.quit

/-- A step that leaves the controls and their contexts alone. -/
theorem IspInv.same {s' : Isps} {events : List IspEvent} (hi : IspInv h) (hcontrols : s'.controls = h.state.controls)
    (hcount : h.state.count ≤ s'.count) (hcalls : ∀ id, aiqCalls id events = [])
    (huses : ∀ m, Moves (ispUses events) m m) (hquit : s'.shouldQuit = true ↔ QuitAsked (h.events ++ events)) :
    IspInv ⟨s', h.events ++ events⟩ := by
  have hphase : ∀ id, phaseOf id (h.events ++ events) = phaseOf id h.events := by
    intro id
    rw [phaseOf_append, hcalls id]
    cases phaseOf id h.events <;> rfl
  refine ⟨?_, ?_, ?_, ?_, ?_, ?_, hquit⟩ <;> dsimp only
  · rw [hcontrols]
    exact fun isp hisp => Nat.lt_of_lt_of_le (hi.fresh isp hisp) hcount
  · rw [hcontrols]
    exact hi.unique
  · rw [hcontrols]
    exact fun isp hisp => (hphase isp.id).symm ▸ hi.live isp hisp
  · exact fun id hid => (hphase id).trans (hi.new id (Nat.le_trans hcount hid))
  · rw [hcontrols]
    exact fun id hnone => (hphase id).symm ▸ hi.gone id hnone
  · have hsame : s'.held = h.state.held := by rw [Isps.held, hcontrols, Isps.held]
    rw [ispUses_append, hsame]
    exact huses _ _ hi.held

theorem IspInv.createFails {s' : Isps} {events : List IspEvent} (hi : IspInv h)
    (hfails : CreateFails h.state s' events) : IspInv ⟨s', h.events ++ events⟩ := by
  refine hi.same hfails.controls hfails.count hfails.calls hfails.uses ?_
  rcases hfails.shouldQuit with ⟨hsame, hkept⟩ | ⟨hclear, hcleared⟩
  · rw [hsame, quitAsked_append ⟨hfails.quit, hkept⟩]
    exact hi.quit
  · rw [hclear]
    exact ⟨by simp, fun hasked => absurd hasked (not_quitAsked hfails.quit hcleared)⟩

theorem IspInv.creates {s' : Isps} {events : List IspEvent} {isp : IspControl} (hi : IspInv h)
    (hcreates : Creates h.state s' events isp) : IspInv ⟨s', h.events ++ events⟩ := by
  have hphase : ∀ id, id ≠ isp.id → phaseOf id (h.events ++ events) = phaseOf id h.events := by
    intro id hne
    rw [phaseOf_append, hcreates.concerns id hne]
    cases phaseOf id h.events <;> rfl
  have hother : ∀ c ∈ h.state.controls, c.id ≠ isp.id := by
    intro c hc hid
    have hlt := hi.fresh c hc
    have hnew := hcreates.id
    omega
  obtain rfl := hcreates.state
  refine ⟨?_, ?_, ?_, ?_, ?_, ?_, ?_⟩ <;> dsimp only
  · intro c hc
    rcases List.mem_cons.mp hc with rfl | hc
    · rw [hcreates.id]
      exact Nat.lt_succ_self _
    · exact Nat.lt_succ_of_lt (hi.fresh c hc)
  · rw [List.map_cons, List.nodup_cons]
    refine ⟨fun hin => ?_, hi.unique⟩
    obtain ⟨c, hc, hid⟩ := List.mem_map.mp hin
    exact hother c hc hid
  · intro c hc
    rcases List.mem_cons.mp hc with rfl | hc
    · have hnew : phaseOf c.id h.events = some .absent := hi.new c.id (Nat.le_of_eq hcreates.id.symm)
      rw [phaseOf_append, hnew]
      exact hcreates.phase
    · rw [hphase c.id (hother c hc)]
      exact hi.live c hc
  · intro id hcount
    have hne : id ≠ isp.id := by
      have hnew := hcreates.id
      omega
    rw [hphase id hne]
    exact hi.new id (by omega)
  · intro id hnone
    rw [hphase id fun hid => hnone isp (by simp) hid.symm]
    exact hi.gone id fun c hc => hnone c (by simp [hc])
  · rw [ispUses_append]
    have hheld := hcreates.uses h.state.held _ hi.held
    simpa only [Isps.held, List.map_cons, List.sum_cons] using hheld
  · exact ⟨by simp, fun hasked => absurd hasked (not_quitAsked hcreates.quit.1 hcreates.quit.2)⟩

/-- **Every step** keeps the order of the calls. -/
theorem ispStep_inv (move : IspMove) (hi : IspInv h) : IspInv (advance ispStep h move) := by
  have hstay : IspInv ⟨h.state, h.events ++ []⟩ := by simpa using hi
  unfold advance
  cases move with
  | create answers config =>
    rcases ispControlCreate_cases answers config h.state with ⟨-, hfails⟩ | ⟨isp, -, hcreates⟩
    · exact hi.createFails hfails
    · exact hi.creates hcreates
  | start answers isp =>
    simp only [ispStep]
    cases hget : h.state.get isp with
    | none => exact hstay
    | some c =>
      have hc := Isps.get_mem hget
      obtain ⟨hat, hid, hconcerns, huses⟩ := ispControlStart_spec answers (hi.live c hc)
      exact hi.put hc hat hid hconcerns huses
  | stop answers isp =>
    simp only [ispStep]
    cases hget : h.state.get isp with
    | none => exact hstay
    | some c =>
      have hc := Isps.get_mem hget
      obtain ⟨hat, hsame, hconcerns, huses⟩ := ispControlStop_spec answers (hi.live c hc)
      exact hi.put hc hat (by rw [hsame]) hconcerns huses
  | destroy answers isp =>
    simp only [ispStep]
    cases hget : h.state.get isp with
    | none => exact hstay
    | some c =>
      have hc := Isps.get_mem hget
      obtain ⟨hgone, hconcerns, huses⟩ := ispControlDestroy_spec answers (hi.live c hc)
      exact hi.destroy hc hgone hconcerns huses
  | sof =>
    refine hi.same rfl (le_refl _) (fun _ => rfl) moves_nil ?_
    rw [ispStep, List.append_nil]
    exact hi.quit
  | error bypass =>
    simp only [ispStep]
    cases bypass with
    | false => exact hstay
    | true =>
      refine hi.same rfl (le_refl _) (fun _ => rfl) moves_nil ?_
      simp [QuitAsked, since_concat]

/-- **RKAIQ gets its calls in order**, whatever is called on any number of controls, in whatever order, whatever fails
and whenever RKAIQ calls back: no context gets a call that is out of place; a control is marked as started exactly from
a successful start of its context to the next stop, and unless a stop of it has failed a context whose control is not
started does not run; nothing is freed that is not held, and what is held is what the controls hold; and RKAIQ has asked
to quit, since a call of `isp_control_create` last cleared the flag, if and only if `isp_control_should_quit` says
so. -/
theorem ispRun_orderly (moves : List IspMove) :
    (∀ id, (phaseOf id (ispRun moves).events).isSome = true) ∧
    (∀ isp ∈ (ispRun moves).state.controls,
      (isp.started = true ↔ phaseOf isp.id (ispRun moves).events = some .running) ∧
      (isp.started = false → .stop false ∉ aiqCalls isp.id (ispRun moves).events →
        phaseOf isp.id (ispRun moves).events = some .idle ∨ phaseOf isp.id (ispRun moves).events = some .prepared)) ∧
    Holds (ispUses (ispRun moves).events) (ispRun moves).state.held ∧
    ∀ isp, ispControlShouldQuit (ispRun moves).state (some isp) = true ↔ QuitAsked (ispRun moves).events := by
  have hinv : IspInv (ispRun moves) := run_induction ispStep ispInv_start fun _ move _ hi => ispStep_inv move hi
  refine ⟨fun id => ?_, fun isp hisp => ?_, hinv.held, fun isp => ?_⟩
  · by_cases hlive : ∃ isp ∈ (ispRun moves).state.controls, isp.id = id
    · obtain ⟨isp, hisp, rfl⟩ := hlive
      obtain ⟨-, hphase⟩ := hinv.live isp hisp
      split at hphase
      · rw [hphase]
        rfl
      · obtain ⟨p, hphase, -⟩ := hphase
        rw [hphase]
        rfl
    · rcases hinv.gone id fun isp hisp hid => hlive ⟨isp, hisp, hid⟩ with hphase | hphase <;> rw [hphase] <;> rfl
  · obtain ⟨-, hphase⟩ := hinv.live isp hisp
    cases hstarted : isp.started with
    | true =>
      rw [hstarted, if_pos rfl] at hphase
      exact ⟨iff_of_true rfl hphase, by simp⟩
    | false =>
      rw [hstarted, if_neg (by simp)] at hphase
      obtain ⟨p, hphase, hunstarted⟩ := hphase
      rw [hphase]
      refine ⟨iff_of_false (by simp) fun hrunning => ?_, fun _ hstopped => ?_⟩
      · obtain rfl : p = .running := Option.some.inj hrunning
        simp [AiqPhase.unstarted] at hunstarted
      · cases p with
        | idle => exact .inl rfl
        | prepared => exact .inr rfl
        | unstopped prepared =>
          rcases stop_failed_of_unstopped hphase with hfailed | ⟨b, hb⟩
          · exact absurd hfailed hstopped
          · cases hb
        | absent | running | gone => simp [AiqPhase.unstarted] at hunstarted
  · simpa [ispControlShouldQuit] using hinv.quit

end MiniRtsp.Isp
