import MiniRtsp.Lib.Tenancy
import MiniRtsp.PersonPet.DetectRuns

/-!
# What the offline detector answers

What a call returns is what RockIVA said of the picture in the file (`detectRun_answers`), memory is left only by a
picture that is too large for `image.size` (`detectRun_inside`), and a call comes to its end (`detectRun_returns`).
-/

namespace MiniRtsp.PersonPet

open Detector (RockivaCall)
open Trace

variable {es fs : List DetectEvent} {c : Call}

/-! ## What a call returns -/

def DetectEvent.Begins : DetectEvent → Prop
  | .called _ _ => True
  | _ => False

/-- Another result, or another call. -/
def DetectEvent.Replaces : DetectEvent → Prop
  | .called _ _ | .resultCallback _ _ => True
  | _ => False

/-- The call that goes on. -/
def InProgress (es : List DetectEvent) (args : DetectArgs) (answers : StartAnswers) : Prop :=
  Since (· = .called args answers) DetectEvent.Begins es

/-- RockIVA has been called so in the call that goes on. -/
def Done (es : List DetectEvent) (call : RockivaCall) : Prop := Since (· = .rockiva call) DetectEvent.Begins es

/-- The memory has been freed without an error. -/
def Freed (es : List DetectEvent) : Prop :=
  Since (· = .rockiva (.freeMem 0 true)) (fun e => e.Begins ∨ e = .rockiva (.freeMem 0 false)) es

/-- The last result of the call that goes on has this summary and this status. -/
def Latest (es : List DetectEvent) (summary : RockIvaDetectionSummary) (status : RockIvaExecuteStatus) : Prop :=
  Since (fun e => ∃ result, e = .resultCallback result status ∧ summary = countsOf result) DetectEvent.Replaces es

/-- The call that goes on has read this result. -/
def Read (es : List DetectEvent) (summary : RockIvaDetectionSummary) (status : RockIvaExecuteStatus) : Prop :=
  Since (· = .read summary status) DetectEvent.Begins es

/-- RockIVA gets the picture of the file and the thresholds of the caller. What is read is the last result, and it is
read when RockIVA has taken the picture and finished with it. The call returns 0 exactly if that result is a success and
the memory could be freed, and `*summary` is that of the result. -/
def AnswersOk (sizeMax : Nat) (before : List DetectEvent) : DetectEvent → Prop
  | .pushed image => ∃ args answers, InProgress before args answers ∧ Loaded sizeMax args answers.disk image
  | .thresholds person pet =>
    ∃ args answers, InProgress before args answers ∧ person = args.personThreshold ∧ pet = args.petThreshold
  | .read summary status =>
    Latest before summary status ∧ Done before (.pushFrame 0 1 true) ∧ Done before (.waitFinish true)
  | .returned ret summary =>
    (ret = 0 ∨ ret = -1) ∧ (ret = 0 ↔ (∃ s, Read before s .success) ∧ Freed before) ∧
      ∀ s status, Read before s status → summary = some s
  | _ => True

def Unread (es : List DetectEvent) : Prop := ∀ s status, ¬Read es s status

/-- What `result` is behind `cleanup`. -/
structure Outcome (es : List DetectEvent) (result : Int) (summary : RockIvaDetectionSummary) : Prop where
  code : result = 0 ∨ result = -1
  zero_iff : result = 0 ↔ ∃ s, Read es s .success
  summary_eq : ∀ s status, Read es s status → summary = s

/-- What has happened at a stage. -/
def Stage.Reached (es : List DetectEvent) (c : Call) : Prop :=
  match c.stage with
  | .initialized | .announced | .detecting => Unread es
  | .pushed => Unread es ∧ Done es (.pushFrame 0 1 true)
  | .finished | .waiting _ _ => Unread es ∧ Done es (.pushFrame 0 1 true) ∧ Done es (.waitFinish true)
  | .received =>
    Unread es ∧ (Done es (.pushFrame 0 1 true) ∧ Done es (.waitFinish true)) ∧ c.context.callbackReceived = true
  | .releasingDetect result | .releasing result | .freeing result => Outcome es result c.summary

structure CallAnswered (sizeMax : Nat) (es : List DetectEvent) (c : Call) : Prop where
  begun : ∃ answers, InProgress es c.args answers ∧ Loaded sizeMax c.args answers.disk c.image
  latest : c.context.callbackReceived = true → Latest es c.context.summary c.context.executeStatus
  reached : Stage.Reached es c

def AnswersInv (sizeMax : Nat) (h : History DetectState DetectEvent) : Prop :=
  ∀ c, h.state = .inCall c → CallAnswered sizeMax h.events c

def Answers (sizeMax : Nat) (es : List DetectEvent) (r : DetectState × List DetectEvent) : Prop :=
  AnswersInv sizeMax ⟨r.1, es ++ r.2⟩ ∧ Monitored (fun before => AnswersOk sizeMax (es ++ before)) r.2

section Answers

variable {sizeMax : Nat} {s : RockIvaDetectionSummary} {status : RockIvaExecuteStatus}

/-- Events that neither read a result nor begin a call. -/
theorem read_append (hfs : ∀ e ∈ fs, (∀ s status, e ≠ .read s status) ∧ ¬e.Begins) :
    Read (es ++ fs) s status ↔ Read es s status :=
  since_append fun e he => ⟨(hfs e he).1 s status, (hfs e he).2⟩

theorem unread_called (args : DetectArgs) (answers : StartAnswers) : Unread (es ++ [.called args answers]) := by
  intro s status h
  rcases since_concat.mp h with h | ⟨-, h⟩
  · cases h
  · exact h trivial

theorem outcome_failed (h : Unread es) (summary : RockIvaDetectionSummary) : Outcome es (-1) summary := by
  refine ⟨.inr rfl, ⟨fun h0 => absurd h0 (by decide), ?_⟩, fun s status hs => absurd hs (h s status)⟩
  rintro ⟨s, hs⟩
  exact absurd hs (h s _)

theorem plain_quiet {e : DetectEvent} (h : e.Plain) :
    ((∀ s status, e ≠ .read s status) ∧ ¬e.Begins) ∧ ∀ sizeMax before, AnswersOk sizeMax before e := by
  cases e with
  | rockiva call => simp [DetectEvent.Begins, AnswersOk]
  | use u => simp [DetectEvent.Begins, AnswersOk]
  | _ => exact h.elim

/-- A call begins. -/
theorem rockivaDetectNv12_answers (sizeMax : Nat) (args : DetectArgs) (answers : StartAnswers) :
    Answers sizeMax es (detectStep sizeMax (.call args answers) .idle) := by
  have hcase := rockivaDetectNv12_cases sizeMax args answers
  simp only [detectStep]
  generalize rockivaDetectNv12 sizeMax args answers = r at hcase
  obtain ⟨state, events⟩ := r
  dsimp only at hcase ⊢
  have hok : ∀ {fs : List DetectEvent}, (∀ e ∈ fs, e.Plain) →
      ∀ e ∈ DetectEvent.called args answers :: fs, ∀ before, AnswersOk sizeMax (es ++ before) e := by
    intro fs hplain e he before
    rcases List.mem_cons.mp he with rfl | he
    · trivial
    · exact (plain_quiet (hplain e he)).2 _ _
  have hunread : ∀ {fs : List DetectEvent}, (∀ e ∈ fs, e.Plain) → Unread (es ++ .called args answers :: fs) := by
    intro fs hplain s status hread
    rw [List.append_cons, read_append fun e he => (plain_quiet (hplain e he)).1] at hread
    exact unread_called args answers s status hread
  cases hcase with
  | refused fs summary hplain _ =>
    refine ⟨fun c hc => DetectState.noConfusion hc, ?_⟩
    rw [← List.cons_append]
    refine monitored_append.mpr ⟨monitored_of_forall (hok hplain), ?_⟩
    refine monitored_cons.mpr ⟨?_, monitored_nil⟩
    rw [List.append_nil]
    have hnone := hunread hplain
    have hfailed := outcome_failed hnone .zero
    refine ⟨hfailed.code, ⟨fun h0 => absurd h0 (by decide), ?_⟩, fun s status hs => absurd hs (hnone s status)⟩
    rintro ⟨hread, -⟩
    exact hfailed.zero_iff.mpr hread
  | wild fs m hplain _ _ =>
    refine ⟨fun c hc => DetectState.noConfusion hc, ?_⟩
    rw [← List.cons_append]
    refine monitored_append.mpr ⟨monitored_of_forall (hok hplain), ?_⟩
    exact monitored_cons.mpr ⟨trivial, monitored_nil⟩
  | starts fs image hplain _ himage =>
    refine ⟨?_, monitored_of_forall (hok hplain)⟩
    rintro c ⟨⟩
    have hbegun : InProgress (es ++ [.called args answers]) args answers := since_concat.mpr (.inl rfl)
    refine ⟨⟨answers, ?_, himage⟩, fun h => absurd h Bool.false_ne_true, hunread hplain⟩
    dsimp only
    rw [List.append_cons]
    exact hbegun.append fun e he => (plain_quiet (hplain e he)).1.2

theorem answers_stays {state : DetectState} (h : AnswersInv sizeMax ⟨state, es⟩) : Answers sizeMax es (state, []) := by
  refine ⟨?_, monitored_nil⟩
  rwa [List.append_nil]

/-- The call goes on, without a new result. -/
theorem answers_goes {c' : Call} (hc : CallAnswered sizeMax es c) (hargs : c'.args = c.args)
    (himage : c'.image = c.image) (hreceived : c'.context.callbackReceived = c.context.callbackReceived)
    (hsummary : c'.context.summary = c.context.summary)
    (hstatus : c'.context.executeStatus = c.context.executeStatus) (hfs : ∀ e ∈ fs, ¬e.Begins ∧ ¬e.Replaces)
    (hreached : Stage.Reached (es ++ fs) c') (hok : Monitored (fun before => AnswersOk sizeMax (es ++ before)) fs) :
    Answers sizeMax es (.inCall c', fs) := by
  refine ⟨?_, hok⟩
  rintro _ ⟨⟩
  obtain ⟨answers, hbegun, hloaded⟩ := hc.begun
  refine ⟨⟨answers, ?_, ?_⟩, fun h => ?_, hreached⟩
  · rw [hargs]
    exact hbegun.append fun e he => (hfs e he).1
  · rwa [hargs, himage]
  · rw [hsummary, hstatus]
    exact (hc.latest (hreceived ▸ h)).append fun e he => (hfs e he).2

/-- A call of RockIVA. -/
theorem done_concat {call : RockivaCall} : Done (es ++ [.rockiva call]) call := since_concat.mpr (.inl rfl)

theorem quiet_call (call : RockivaCall) :
    ∀ e ∈ [DetectEvent.rockiva call], ((∀ s status, e ≠ .read s status) ∧ ¬e.Begins) ∧ ¬e.Begins ∧ ¬e.Replaces := by
  simp [DetectEvent.Begins, DetectEvent.Replaces]

theorem call_ok (call : RockivaCall) : Monitored (fun before => AnswersOk sizeMax (es ++ before)) [.rockiva call] :=
  monitored_of_forall fun e he _ => by
    rw [List.mem_singleton.mp he]
    trivial

theorem Unread.append (h : Unread es) (hfs : ∀ e ∈ fs, (∀ s status, e ≠ .read s status) ∧ ¬e.Begins) :
    Unread (es ++ fs) := fun s status hread => h s status ((read_append hfs).mp hread)

theorem Outcome.append {result : Int} {summary : RockIvaDetectionSummary} (h : Outcome es result summary)
    (hfs : ∀ e ∈ fs, (∀ s status, e ≠ .read s status) ∧ ¬e.Begins) : Outcome (es ++ fs) result summary := by
  refine ⟨h.code, ?_, fun s status hread => h.summary_eq s status ((read_append hfs).mp hread)⟩
  simp only [read_append hfs]
  exact h.zero_iff

/-- The result is read. -/
theorem outcome_read (h : Unread es) :
    Outcome (es ++ [.read s status]) (if status = .success then 0 else -1) s := by
  have hread : ∀ s' status', Read (es ++ [.read s status]) s' status' ↔ s = s' ∧ status = status' := by
    intro s' status'
    rw [Read, since_concat]
    simp only [DetectEvent.read.injEq]
    exact or_iff_left fun hthen => h s' status' hthen.1
  refine ⟨by split <;> simp, ?_, fun s' status' h => ((hread s' status').mp h).1⟩
  simp only [hread]
  by_cases hsuccess : status = .success <;> simp [hsuccess]

/-- The end of the call. -/
theorem freeImage_answers {result : Int} {summary : RockIvaDetectionSummary} (h : Outcome es result summary)
    (sync freeMem : Bool) :
    Answers sizeMax es (.idle, (if sync then [.use (.release .condition), .use (.release .mutex)] else []) ++
      freeImage freeMem result summary) := by
  have hplain : ∀ e ∈ (if sync then [DetectEvent.use (.release .condition), .use (.release .mutex)] else []) ++
      [.rockiva (.freeMem 0 freeMem), .use (.release .dma)], e.Plain := by
    cases sync <;> simp [DetectEvent.Plain]
  have hevents : (if sync then [DetectEvent.use (.release .condition), .use (.release .mutex)] else []) ++
      freeImage freeMem result summary =
      ((if sync then [DetectEvent.use (.release .condition), .use (.release .mutex)] else []) ++
        [.rockiva (.freeMem 0 freeMem), .use (.release .dma)]) ++
        [.returned (if freeMem then result else -1) (some summary)] := by
    simp [freeImage]
  rw [hevents]
  have hthen := h.append fun e he => (plain_quiet (hplain e he)).1
  have hfreed : Freed (es ++ ((if sync then [DetectEvent.use (.release .condition), .use (.release .mutex)] else []) ++
      [.rockiva (.freeMem 0 freeMem), .use (.release .dma)])) ↔ freeMem = true := by
    rw [List.append_cons _ (DetectEvent.rockiva _), ← List.append_assoc, ← List.append_assoc, Freed, since_concat,
      since_concat]
    cases freeMem <;> simp [DetectEvent.Begins]
  refine ⟨fun c hc => DetectState.noConfusion hc, ?_⟩
  refine monitored_append.mpr ⟨monitored_of_forall fun e he before => (plain_quiet (hplain e he)).2 _ _, ?_⟩
  refine monitored_cons.mpr ⟨?_, monitored_nil⟩
  rw [List.append_nil]
  refine ⟨?_, ?_, fun s status hread => congrArg some (hthen.summary_eq s status hread)⟩
  · split
    · exact hthen.code
    · exact .inr rfl
  · rw [hfreed, ← hthen.zero_iff]
    cases freeMem <;> simp

/-- **A step of the call** answers as it should. -/
theorem callStep_answers (hc : CallAnswered sizeMax es c) (answers : CallAnswers) :
    Answers sizeMax es (callStep answers c) := by
  have hreached := hc.reached
  obtain ⟨args, image, context, summary, stage⟩ := c
  obtain ⟨started, hbegun, hloaded⟩ := hc.begun
  have hframe : image.frameId = 1 := by
    obtain ⟨_, _, _, -, -, -, -, -, -, -, -, -, hframe, -⟩ := hloaded
    exact hframe
  -- a call of RockIVA, with what it leads to when it succeeds
  have hcalls : ∀ (call : RockivaCall) (stage' : Stage), Unread es →
      Stage.Reached (es ++ [.rockiva call]) ⟨args, image, context, summary, stage'⟩ →
      ∀ ok, Answers sizeMax es (Call.next ⟨args, image, context, summary, stage⟩ ok stage', [.rockiva call]) := by
    intro call stage' hunread hnext ok
    have hquiet := quiet_call call
    unfold Call.next Call.cleanup
    split
    · exact answers_goes hc rfl rfl rfl rfl rfl (fun e he => (hquiet e he).2) hnext (call_ok call)
    · have hfailed := outcome_failed (hunread.append fun e he => (hquiet e he).1) summary
      exact answers_goes hc rfl rfl rfl rfl rfl (fun e he => (hquiet e he).2) hfailed (call_ok call)
  cases stage with
  | initialized =>
    have hunread : Unread es := hreached
    exact hcalls _ .announced hunread (hunread.append fun e he => (quiet_call _ e he).1) answers.ok
  | announced =>
    have hunread : Unread es := hreached
    have hquiet : ∀ e ∈ [DetectEvent.thresholds args.personThreshold args.petThreshold,
        .rockiva (.detectInit answers.ok)],
        ((∀ s status, e ≠ .read s status) ∧ ¬e.Begins) ∧ ¬e.Begins ∧ ¬e.Replaces := by
      simp [DetectEvent.Begins, DetectEvent.Replaces]
    have hthen := hunread.append fun e he => (hquiet e he).1
    have hok : Monitored (fun before => AnswersOk sizeMax (es ++ before))
        [.thresholds args.personThreshold args.petThreshold, .rockiva (.detectInit answers.ok)] := by
      refine monitored_cons.mpr ⟨?_, monitored_cons.mpr ⟨trivial, monitored_nil⟩⟩
      rw [List.append_nil]
      exact ⟨args, started, hbegun, rfl, rfl⟩
    simp only [callStep, Call.next, Call.cleanup]
    split
    · exact answers_goes hc rfl rfl rfl rfl rfl (fun e he => (hquiet e he).2) hthen hok
    · exact answers_goes hc rfl rfl rfl rfl rfl (fun e he => (hquiet e he).2) (outcome_failed hthen summary) hok
  | detecting =>
    have hunread : Unread es := hreached
    have hquiet : ∀ e ∈ [DetectEvent.pushed image, .rockiva (.pushFrame 0 image.frameId answers.ok)],
        ((∀ s status, e ≠ .read s status) ∧ ¬e.Begins) ∧ ¬e.Begins ∧ ¬e.Replaces := by
      simp [DetectEvent.Begins, DetectEvent.Replaces]
    have hthen := hunread.append fun e he => (hquiet e he).1
    have hok : Monitored (fun before => AnswersOk sizeMax (es ++ before))
        [.pushed image, .rockiva (.pushFrame 0 image.frameId answers.ok)] := by
      refine monitored_cons.mpr ⟨?_, monitored_cons.mpr ⟨trivial, monitored_nil⟩⟩
      rw [List.append_nil]
      exact ⟨args, started, hbegun, hloaded⟩
    simp only [callStep, Call.next, Call.cleanup]
    split
    · rename_i hpushed
      have hdone : Done (es ++ [.pushed image, .rockiva (.pushFrame 0 image.frameId answers.ok)])
          (.pushFrame 0 1 true) := by
        rw [hpushed, hframe, List.append_cons]
        exact done_concat
      exact answers_goes hc rfl rfl rfl rfl rfl (fun e he => (hquiet e he).2) ⟨hthen, hdone⟩ hok
    · exact answers_goes hc rfl rfl rfl rfl rfl (fun e he => (hquiet e he).2) (outcome_failed hthen summary) hok
  | pushed =>
    obtain ⟨hunread, hpushed⟩ := hreached
    have hquiet := quiet_call (.waitFinish answers.ok)
    have hthen := hunread.append fun e he => (hquiet e he).1
    simp only [callStep, Call.next, Call.cleanup]
    split
    · rename_i hwaited
      have hdone : Done (es ++ [.rockiva (.waitFinish answers.ok)]) (.waitFinish true) := by
        rw [hwaited]
        exact done_concat
      exact answers_goes hc rfl rfl rfl rfl rfl (fun e he => (hquiet e he).2)
        ⟨hthen, hpushed.append fun e he => (hquiet e he).1.2, hdone⟩ (call_ok _)
    · exact answers_goes hc rfl rfl rfl rfl rfl (fun e he => (hquiet e he).2) (outcome_failed hthen summary) (call_ok _)
  | finished =>
    simp only [callStep, Call.cleanup]
    split
    · refine answers_goes hc rfl rfl rfl rfl rfl (by simp) ?_ monitored_nil
      rw [List.append_nil]
      exact outcome_failed hreached.1 summary
    · refine answers_goes hc rfl rfl rfl rfl rfl (by simp) ?_ monitored_nil
      rw [List.append_nil]
      exact hreached
  | waiting waitRet deadline =>
    simp only [callStep, Call.cleanup]
    split
    · rename_i hreceived
      refine answers_goes hc rfl rfl rfl rfl rfl (by simp) ?_ monitored_nil
      rw [List.append_nil]
      exact ⟨hreached.1, hreached.2, hreceived⟩
    · split
      · refine answers_goes hc rfl rfl rfl rfl rfl (by simp) ?_ monitored_nil
        rw [List.append_nil]
        exact outcome_failed hreached.1 summary
      · have hquiet : ∀ e ∈ [DetectEvent.timedwait deadline answers.waitRet],
            ((∀ s status, e ≠ .read s status) ∧ ¬e.Begins) ∧ ¬e.Begins ∧ ¬e.Replaces := by
          simp [DetectEvent.Begins, DetectEvent.Replaces]
        obtain ⟨hunread, hpushed, hwaited⟩ := hreached
        refine answers_goes hc rfl rfl rfl rfl rfl (fun e he => (hquiet e he).2) ?_
          (monitored_cons.mpr ⟨trivial, monitored_nil⟩)
        exact ⟨hunread.append fun e he => (hquiet e he).1, hpushed.append fun e he => (hquiet e he).1.2,
          hwaited.append fun e he => (hquiet e he).1.2⟩
  | received =>
    obtain ⟨hunread, hdone, hreceived⟩ := hreached
    simp only [callStep, Call.cleanup]
    refine answers_goes hc rfl rfl rfl rfl rfl (by simp [DetectEvent.Begins, DetectEvent.Replaces])
      (outcome_read hunread) ?_
    refine monitored_cons.mpr ⟨?_, monitored_nil⟩
    rw [List.append_nil]
    exact ⟨hc.latest hreceived, hdone⟩
  | releasingDetect result =>
    have houtcome : Outcome es result summary := hreached
    simp only [callStep]
    split
    · have hquiet := quiet_call (.detectRelease answers.ok)
      exact answers_goes hc rfl rfl rfl rfl rfl (fun e he => (hquiet e he).2)
        (houtcome.append fun e he => (hquiet e he).1) (call_ok _)
    · refine answers_goes hc rfl rfl rfl rfl rfl (by simp) ?_ monitored_nil
      rw [List.append_nil]
      exact houtcome
  | releasing result =>
    have houtcome : Outcome es result summary := hreached
    simp only [callStep]
    split
    · have hquiet := quiet_call (.release answers.ok)
      exact answers_goes hc rfl rfl rfl rfl rfl (fun e he => (hquiet e he).2)
        (houtcome.append fun e he => (hquiet e he).1) (call_ok _)
    · refine answers_goes hc rfl rfl rfl rfl rfl (by simp) ?_ monitored_nil
      rw [List.append_nil]
      exact houtcome
  | freeing result =>
    have houtcome : Outcome es result summary := hreached
    simp only [callStep]
    exact freeImage_answers houtcome context.syncInitialized answers.ok

/-- What has happened at a stage stays so, whatever RockIVA calls back. -/
theorem reached_append {context : DetectorContext} (h : Stage.Reached es c)
    (hfs : ∀ e ∈ fs, (∀ s status, e ≠ .read s status) ∧ ¬e.Begins)
    (hreceived : c.context.callbackReceived = true → context.callbackReceived = true) :
    Stage.Reached (es ++ fs) { c with context } := by
  obtain ⟨args, image, before, summary, stage⟩ := c
  cases stage with
  | initialized | announced | detecting => exact Unread.append h hfs
  | pushed => exact ⟨h.1.append hfs, h.2.append fun e he => (hfs e he).2⟩
  | finished | waiting waitRet deadline =>
    exact ⟨h.1.append hfs, h.2.1.append fun e he => (hfs e he).2, h.2.2.append fun e he => (hfs e he).2⟩
  | received =>
    exact ⟨h.1.append hfs, ⟨h.2.1.1.append fun e he => (hfs e he).2, h.2.1.2.append fun e he => (hfs e he).2⟩,
      hreceived h.2.2⟩
  | releasingDetect result | releasing result | freeing result => exact Outcome.append h hfs

theorem detectStep_answers (sizeMax : Nat) (move : DetectMove) {h : History DetectState DetectEvent}
    (hi : AnswersInv sizeMax h) : Answers sizeMax h.events (detectStep sizeMax move h.state) := by
  have hstays : Answers sizeMax h.events (h.state, []) := answers_stays hi
  obtain ⟨state, events⟩ := h
  cases state with
  | idle =>
    cases move with
    | call args answers => exact rockivaDetectNv12_answers sizeMax args answers
    | _ => exact hstays
  | wild => cases move <;> exact hstays
  | inCall c =>
    have hc : CallAnswered sizeMax events c := hi c rfl
    cases move with
    | call args answers => exact hstays
    | goOn answers => exact callStep_answers hc answers
    | result result status =>
      simp only [detectStep]
      split
      · obtain ⟨started, hbegun, hloaded⟩ := hc.begun
        have hquiet : ∀ e ∈ [DetectEvent.resultCallback result status],
            (∀ s status, e ≠ .read s status) ∧ ¬e.Begins := by
          simp [DetectEvent.Begins]
        refine ⟨?_, monitored_cons.mpr ⟨trivial, monitored_nil⟩⟩
        rintro _ ⟨⟩
        refine ⟨⟨started, hbegun.append fun e he => (hquiet e he).2, hloaded⟩, fun _ => ?_, ?_⟩
        · exact since_concat.mpr (.inl ⟨result, rfl, summaryOf_eq result⟩)
        · exact reached_append hc.reached hquiet fun _ => rfl
      · exact hstays
    | release frames =>
      have hsame : (frameReleaseCallback c.context frames).callbackReceived = c.context.callbackReceived ∧
          (frameReleaseCallback c.context frames).summary = c.context.summary ∧
          (frameReleaseCallback c.context frames).executeStatus = c.context.executeStatus := by
        unfold frameReleaseCallback
        split <;> exact ⟨rfl, rfl, rfl⟩
      have hquiet : ∀ e ∈ [DetectEvent.releaseCallback frames],
          (∀ s status, e ≠ .read s status) ∧ ¬e.Begins := by
        simp [DetectEvent.Begins]
      simp only [detectStep]
      split
      · refine answers_goes hc rfl rfl hsame.1 hsame.2.1 hsame.2.2 ?_ ?_ (monitored_cons.mpr ⟨trivial, monitored_nil⟩)
        · simp [DetectEvent.Begins, DetectEvent.Replaces]
        · exact reached_append hc.reached hquiet fun hreceived => hsame.1.trans hreceived
      · exact hstays

/-- **Answers of every run**: RockIVA gets the picture of the file, however `fread` cuts it, and the thresholds of the
caller; what a call reads is the last result that RockIVA has called back with, and it returns 0 exactly if that result
is a success and the memory could be freed. -/
theorem detectRun_answers (sizeMax : Nat) (moves : List DetectMove) :
    Monitored (AnswersOk sizeMax) (detectRun sizeMax moves).events :=
  run_monitored _ (P := AnswersInv sizeMax) (fun _ hc => DetectState.noConfusion hc) fun _ move _ hi =>
    detectStep_answers sizeMax move hi

end Answers

/-! ## The memory of the picture -/

/-- The memory that is asked for has the size that is asked for. -/
def DetectMove.Allocates : DetectMove → Prop
  | .call _ answers => ∀ size memory, answers.allocMem size = .usable memory → size.toNat ≤ memory.length
  | _ => True

/-- The memory is left only by a picture whose size `image.size` cannot hold. -/
def InsideOk (sizeMax : Nat) (before : List DetectEvent) : DetectEvent → Prop
  | .overrun => ∃ args answers size, InProgress before args answers ∧
      calculateNv12Size sizeMax args.width args.height = some size ∧ 4294967296 ≤ size
  | _ => True

theorem callStep_inside (answers : CallAnswers) (c : Call) : ∀ e ∈ (callStep answers c).2, e ≠ .overrun := by
  unfold callStep freeImage
  split
  all_goals try split
  all_goals try split
  all_goals simp

theorem overruns_large {sizeMax : Nat} {args : DetectArgs} {answers : StartAnswers}
    (hmemory : DetectMove.Allocates (.call args answers)) (h : Overruns sizeMax args answers) :
    ∃ size, calculateNv12Size sizeMax args.width args.height = some size ∧ 4294967296 ≤ size := by
  obtain ⟨size, memory, hsize, halloc, hsmall⟩ := h
  refine ⟨size, hsize, ?_⟩
  by_contra hlt
  have hfits : size < UInt32.size := Nat.not_le.mp hlt
  have hroom := hmemory _ _ halloc
  rw [UInt32.toNat_ofNat_of_lt' hfits] at hroom
  omega

theorem detectStep_inside {sizeMax : Nat} {move : DetectMove} (hmemory : move.Allocates) (state : DetectState)
    (es : List DetectEvent) :
    Monitored (fun before => InsideOk sizeMax (es ++ before)) (detectStep sizeMax move state).2 := by
  have hquiet : ∀ {fs : List DetectEvent}, (∀ e ∈ fs, e ≠ .overrun) →
      Monitored (fun before => InsideOk sizeMax (es ++ before)) fs := by
    intro fs hfs
    refine monitored_of_forall fun e he before => ?_
    have hne := hfs e he
    cases e <;> trivial
  have hplain : ∀ {e : DetectEvent}, e.Plain → e ≠ .overrun := by
    rintro e he rfl
    exact he
  cases state with
  | wild => cases move <;> exact monitored_nil
  | inCall c =>
    cases move with
    | call args answers => exact monitored_nil
    | goOn answers => exact hquiet (callStep_inside answers c)
    | result result status =>
      simp only [detectStep]
      split
      · exact hquiet (by simp)
      · exact monitored_nil
    | release frames =>
      simp only [detectStep]
      split
      · exact hquiet (by simp)
      · exact monitored_nil
  | idle =>
    cases move with
    | call args answers =>
      have hcase := rockivaDetectNv12_cases sizeMax args answers
      simp only [detectStep]
      generalize rockivaDetectNv12 sizeMax args answers = r at hcase
      obtain ⟨state, events⟩ := r
      dsimp only at hcase ⊢
      have hcalled : ∀ {fs : List DetectEvent}, (∀ e ∈ fs, e.Plain) →
          ∀ e ∈ DetectEvent.called args answers :: fs, e ≠ .overrun := by
        intro fs hfs e he
        rcases List.mem_cons.mp he with rfl | he
        · simp
        · exact hplain (hfs e he)
      cases hcase with
      | refused fs summary hfs _ =>
        refine hquiet fun e he => ?_
        rw [← List.cons_append] at he
        rcases List.mem_append.mp he with he | he
        · exact hcalled hfs e he
        · rw [List.mem_singleton.mp he]
          simp
      | wild fs m hfs _ hover =>
        rw [← List.cons_append]
        refine monitored_append.mpr ⟨hquiet (hcalled hfs), monitored_cons.mpr ⟨?_, monitored_nil⟩⟩
        have hbegun : InProgress (es ++ [.called args answers]) args answers := since_concat.mpr (.inl rfl)
        obtain ⟨size, hsize, hlarge⟩ := overruns_large hmemory hover
        refine ⟨args, answers, size, ?_, hsize, hlarge⟩
        rw [List.append_nil, List.append_cons]
        exact hbegun.append fun e he => (plain_quiet (hfs e he)).1.2
      | starts fs image hfs _ _ => exact hquiet (hcalled hfs)
    | _ => exact monitored_nil

/-- **The memory of every run**: where `ROCKIVA_IMAGE_AllocMem` gives what it is asked for, memory behind the picture is
written only for a picture of 4 GiB or more, whose size `image.size` does not hold; where a `size_t` has 32 bits,
never. -/
theorem detectRun_inside {sizeMax : Nat} {moves : List DetectMove} (hmemory : ∀ move ∈ moves, move.Allocates) :
    Monitored (InsideOk sizeMax) (detectRun sizeMax moves).events ∧
      (sizeMax < 4294967296 → .overrun ∉ (detectRun sizeMax moves).events) := by
  have hlaw : Monitored (InsideOk sizeMax) (detectRun sizeMax moves).events :=
    run_monitored _ (P := fun _ => True) trivial fun _ _ hp _ =>
      ⟨trivial, detectStep_inside (hmemory _ (mem_of_concat hp)) _ _⟩
  refine ⟨hlaw, fun hsize hover => ?_⟩
  obtain ⟨before, after, heq⟩ := List.append_of_mem hover
  obtain ⟨args, answers, size, -, hfits, hlarge⟩ := hlaw before .overrun after heq
  have := (calculateNv12Size_iff.mp hfits).2.2
  omega

/-- A picture of two times two pixels. -/
def smallArgs : DetectArgs := ⟨some [], some [], 2, 2, 60, 60, 1000, some .zero⟩

/-- Its file, which `fread` gives four bytes at a time. -/
def smallAnswers : StartAnswers :=
  { disk := ⟨fun _ => true, fun _ => some 6, fun _ => some [1, 2, 3, 4, 5, 6], fun _ => 4⟩
    allocMem := fun size => .usable (List.replicate size.toNat 0)
    mutexInit := true, condInit := true, modelPathSize := 256, rockivaInit := true, freeMem := true }

theorem detectRun_inside_small :
    DetectEvent.overrun ∉ (detectRun 4294967295 [.call smallArgs smallAnswers]).events := by
  have hmemory : ∀ move ∈ [DetectMove.call smallArgs smallAnswers], move.Allocates := by
    intro move hmove
    rw [List.mem_singleton.mp hmove]
    rintro size memory ⟨⟩
    rw [List.length_replicate]
  exact (detectRun_inside hmemory).2 (by decide)

/-! ## The end of a call -/

/-- How many steps of its own the call has before it at most, if no wait is woken in vain. -/
def Stage.rank : Stage → Nat
  | .initialized => 11
  | .announced => 10
  | .detecting => 9
  | .pushed => 8
  | .finished => 7
  | .waiting waitRet _ => if waitRet = 0 then 6 else 5
  | .received => 4
  | .releasingDetect _ => 3
  | .releasing _ => 2
  | .freeing _ => 1

def DetectState.rank : DetectState → Nat
  | .inCall c => c.stage.rank
  | _ => 0

/-- A step of the call itself. -/
def DetectMove.isOwn : DetectMove → Bool
  | .goOn _ => true
  | _ => false

/-- How many waits have been woken, by a callback or without a reason. -/
def woken (events : List DetectEvent) : Nat :=
  events.countP fun e => match e with
    | .timedwait _ waitRet => waitRet == 0
    | _ => false

theorem Stage.rank_bounds (stage : Stage) : 0 < stage.rank ∧ stage.rank ≤ 11 := by
  cases stage with
  | waiting waitRet deadline =>
    simp only [Stage.rank]
    split <;> omega
  | _ => simp [Stage.rank]

theorem callStep_nearer (answers : CallAnswers) (c : Call) :
    (callStep answers c).1.rank + 1 ≤ c.stage.rank + woken (callStep answers c).2 ∧ (callStep answers c).1 ≠ .wild := by
  obtain ⟨args, image, context, summary, stage⟩ := c
  cases stage with
  | waiting waitRet deadline =>
    have hleft : 5 ≤ (Stage.waiting waitRet deadline).rank := by
      simp only [Stage.rank]
      split <;> omega
    simp only [callStep, Call.cleanup]
    split
    · refine ⟨?_, by simp⟩
      simp only [DetectState.rank]
      exact hleft.trans (Nat.le_add_right _ _)
    · split
      · refine ⟨?_, by simp⟩
        simp only [DetectState.rank, Stage.rank] at hleft ⊢
        omega
      · rename_i hwait
        refine ⟨?_, by simp⟩
        rw [Decidable.not_not] at hwait
        by_cases hwoken : answers.waitRet = 0 <;> simp [DetectState.rank, Stage.rank, hwait, hwoken, woken]
  | _ =>
    simp only [callStep, Call.next, Call.cleanup]
    repeat' split
    all_goals
      refine ⟨?_, by simp⟩
      simp only [DetectState.rank, Stage.rank, if_true]
      omega

/-- RockIVA has called back with a result in the call that goes on. -/
def Reported (es : List DetectEvent) : Prop :=
  Since (fun e => ∃ result status, e = .resultCallback result status) DetectEvent.Begins es

/-- Events that neither report a result nor begin a call. -/
theorem reported_append (hfs : ∀ e ∈ fs, (∀ result status, e ≠ .resultCallback result status) ∧ ¬e.Begins) :
    Reported (es ++ fs) ↔ Reported es :=
  since_append fun e he => ⟨fun ⟨result, status, heq⟩ => (hfs e he).1 result status heq, (hfs e he).2⟩

/-- A step of the call reports nothing and keeps what has been reported. Behind a result it waits no more. -/
theorem callStep_reported (answers : CallAnswers) (c : Call) :
    (∀ e ∈ (callStep answers c).2, (∀ result status, e ≠ .resultCallback result status) ∧ ¬e.Begins) ∧
    (∀ c', (callStep answers c).1 = .inCall c' → c'.context.callbackReceived = c.context.callbackReceived) ∧
    (c.context.callbackReceived = true → woken (callStep answers c).2 = 0) := by
  obtain ⟨args, image, context, summary, stage⟩ := c
  cases stage with
  | waiting waitRet deadline =>
    simp only [callStep, Call.cleanup]
    split
    · refine ⟨by simp, fun c' hc' => ?_, fun _ => rfl⟩
      cases hc'
      rfl
    · rename_i hnone
      split
      · refine ⟨by simp, fun c' hc' => ?_, fun _ => rfl⟩
        cases hc'
        rfl
      · refine ⟨by simp [DetectEvent.Begins], fun c' hc' => ?_, fun hreceived => absurd hreceived hnone⟩
        cases hc'
        rfl
  | _ =>
    simp only [callStep, Call.next, Call.cleanup]
    repeat' split
    all_goals
      refine ⟨by simp [DetectEvent.Begins, freeImage], fun c' hc' => ?_, fun _ => rfl⟩
      cases hc' <;> rfl

/-- What the call knows of the results. -/
def ResultKept (h : History DetectState DetectEvent) : Prop :=
  ∀ c, h.state = .inCall c → Reported h.events → c.context.callbackReceived = true

theorem detectStep_resultKept {sizeMax : Nat} (move : DetectMove) {h : History DetectState DetectEvent}
    (hk : ResultKept h) : ResultKept (advance (detectStep sizeMax) h move) := by
  obtain ⟨s, es⟩ := h
  have hsame : ResultKept ⟨s, es ++ []⟩ := by rwa [List.append_nil]
  unfold advance
  cases s with
  | wild => cases move <;> exact hsame
  | inCall c =>
    cases move with
    | call args answers => exact hsame
    | goOn answers =>
      obtain ⟨hevents, hkeeps, -⟩ := callStep_reported answers c
      intro c' hc' hreported
      rw [hkeeps c' hc']
      exact hk c rfl ((reported_append hevents).mp hreported)
    | result result status =>
      simp only [detectStep]
      split
      · intro c' hc' _
        cases hc'
        rfl
      · exact hsame
    | release frames =>
      simp only [detectStep]
      split
      · intro c' hc' hreported
        cases hc'
        have hreceived := hk c rfl ((reported_append (by simp [DetectEvent.Begins])).mp hreported)
        simp only [frameReleaseCallback]
        split <;> exact hreceived
      · exact hsame
  | idle =>
    cases move with
    | call args answers =>
      have hcase := rockivaDetectNv12_cases sizeMax args answers
      simp only [detectStep]
      generalize rockivaDetectNv12 sizeMax args answers = r at hcase
      obtain ⟨state, events⟩ := r
      dsimp only at hcase ⊢
      cases hcase with
      | refused | wild => exact fun c hc => by cases hc
      | starts _ image hfs _ _ =>
        -- a call begins without a result
        intro c _ hreported
        have hplain : ∀ e ∈ events, (∀ result status, e ≠ .resultCallback result status) ∧ ¬e.Begins := by
          refine fun e he => ⟨?_, (plain_quiet (hfs e he)).1.2⟩
          rintro result status rfl
          exact hfs _ he
        rw [List.append_cons, reported_append hplain] at hreported
        rcases since_concat.mp hreported with ⟨result, status, heq⟩ | ⟨-, hbegins⟩
        · cases heq
        · exact absurd trivial hbegins
    | _ => exact hsame

theorem detectRun_resultKept (sizeMax : Nat) (moves : List DetectMove) : ResultKept (detectRun sizeMax moves) :=
  run_induction _ (fun c hc => by cases hc) fun _ move _ hk => detectStep_resultKept move hk

/-- What is left of a call for the steps `moves`: they are enough if it waits no more, and otherwise if they make up for
the waits that are woken. -/
def Enough (sizeMax : Nat) (past moves : List DetectMove) (c : Call) : Prop :=
  c.context.callbackReceived = true ∧ c.stage.rank ≤ moves.countP DetectMove.isOwn ∨
    c.stage.rank + woken (detectRun sizeMax (past ++ moves)).events ≤
      moves.countP DetectMove.isOwn + woken (detectRun sizeMax past).events

/-- What a step leaves of a call. -/
theorem detectStep_nearer (sizeMax : Nat) (move : DetectMove) (c : Call) :
    (detectStep sizeMax move (.inCall c)).1.rank + [move].countP DetectMove.isOwn ≤
        c.stage.rank + woken (detectStep sizeMax move (.inCall c)).2 ∧
      (detectStep sizeMax move (.inCall c)).1 ≠ .wild ∧
      (c.context.callbackReceived = true → woken (detectStep sizeMax move (.inCall c)).2 = 0 ∧
        ∀ c', (detectStep sizeMax move (.inCall c)).1 = .inCall c' → c'.context.callbackReceived = true) := by
  -- an own step comes nearer to the end unless it is woken; a callback leaves the call where it is
  cases move with
  | goOn answers =>
    obtain ⟨hnearer, hinside⟩ := callStep_nearer answers c
    obtain ⟨-, hkeeps, hsilent⟩ := callStep_reported answers c
    exact ⟨hnearer, hinside, fun hreceived => ⟨hsilent hreceived, fun c' hc' => (hkeeps c' hc').trans hreceived⟩⟩
  | call args answers =>
    refine ⟨Nat.le_add_right _ _, by simp [detectStep], fun hreceived => ⟨rfl, fun c' hc' => ?_⟩⟩
    cases hc'
    exact hreceived
  | result result status =>
    simp only [detectStep]
    split
    · refine ⟨Nat.le_add_right _ _, by simp, fun _ => ⟨rfl, fun c' hc' => ?_⟩⟩
      cases hc'
      rfl
    · refine ⟨Nat.le_add_right _ _, by simp, fun hreceived => ⟨rfl, fun c' hc' => ?_⟩⟩
      cases hc'
      exact hreceived
  | release frames =>
    simp only [detectStep]
    split
    · refine ⟨Nat.le_add_right _ _, by simp, fun hreceived => ⟨rfl, fun c' hc' => ?_⟩⟩
      cases hc'
      simp only [frameReleaseCallback]
      split <;> exact hreceived
    · refine ⟨Nat.le_add_right _ _, by simp, fun hreceived => ⟨rfl, fun c' hc' => ?_⟩⟩
      cases hc'
      exact hreceived

theorem Enough.ends {sizeMax : Nat} {past moves : List DetectMove} {c : Call}
    (hcall : (detectRun sizeMax past).state = .inCall c) (henough : Enough sizeMax past moves c) :
    ∃ p, p <+: moves ∧ (detectRun sizeMax (past ++ p)).state = .idle := by
  induction moves generalizing past c with
  | nil =>
    have hpos := c.stage.rank_bounds.1
    rw [Enough, List.countP_nil, List.append_nil] at henough
    omega
  | cons move moves ih =>
    have hstep : detectRun sizeMax (past ++ [move]) = ⟨(detectStep sizeMax move (.inCall c)).1,
        (detectRun sizeMax past).events ++ (detectStep sizeMax move (.inCall c)).2⟩ := by
      rw [detectRun, run_concat, ← hcall]
      rfl
    have hwoken : woken (detectRun sizeMax (past ++ [move])).events =
        woken (detectRun sizeMax past).events + woken (detectStep sizeMax move (.inCall c)).2 := by
      rw [hstep, woken, List.countP_append]
      rfl
    obtain ⟨hnearer, hinside, hreceives⟩ := detectStep_nearer sizeMax move c
    have hcount : (move :: moves).countP DetectMove.isOwn =
        [move].countP DetectMove.isOwn + moves.countP DetectMove.isOwn := by
      rw [← List.countP_append, List.singleton_append]
    rw [Enough, List.append_cons, hcount] at henough
    cases hstate : (detectStep sizeMax move (.inCall c)).1 with
    | idle =>
      refine ⟨[move], by simp, ?_⟩
      rw [hstep]
      exact hstate
    | wild => exact absurd hstate hinside
    | inCall c' =>
      have hnext : (detectRun sizeMax (past ++ [move])).state = .inCall c' := by
        rw [hstep]
        exact hstate
      rw [hstate] at hnearer
      have hless : c'.stage.rank + [move].countP DetectMove.isOwn ≤
          c.stage.rank + woken (detectStep sizeMax move (.inCall c)).2 := hnearer
      have hleft : Enough sizeMax (past ++ [move]) moves c' := by
        rcases henough with ⟨hreceived, hrank⟩ | hrank
        · obtain ⟨hsilent, hstays⟩ := hreceives hreceived
          exact .inl ⟨hstays c' hstate, by omega⟩
        · exact .inr (by omega)
      obtain ⟨p, hp, hidle⟩ := ih hnext hleft
      refine ⟨move :: p, List.cons_prefix_cons.mpr ⟨rfl, hp⟩, ?_⟩
      rw [List.append_cons]
      exact hidle

/-- **The end of every call**: whatever RockIVA calls back in between, eleven steps of its own bring a call to its end,
not counting waits that are woken; behind a result callback it waits no more, and eleven steps are enough. -/
theorem detectRun_returns {sizeMax : Nat} {past moves : List DetectMove} {c : Call}
    (hcall : (detectRun sizeMax past).state = .inCall c)
    (hmoves : Reported (detectRun sizeMax past).events ∧ 11 ≤ moves.countP DetectMove.isOwn ∨
      11 + woken (detectRun sizeMax (past ++ moves)).events ≤
        moves.countP DetectMove.isOwn + woken (detectRun sizeMax past).events) :
    ∃ p, p <+: moves ∧ (detectRun sizeMax (past ++ p)).state = .idle := by
  have hrank := c.stage.rank_bounds.2
  refine Enough.ends hcall ?_
  rcases hmoves with ⟨hreported, hmany⟩ | hmany
  · exact .inl ⟨detectRun_resultKept sizeMax past c hcall hreported, hrank.trans hmany⟩
  · exact .inr (by omega)

/-- A step that fails, or runs out of time. -/
def failing : DetectMove := .goOn ⟨false, some ⟨0, 0⟩, 110⟩

/-- A step that succeeds; a wait is woken. -/
def succeeding : DetectMove := .goOn ⟨true, some ⟨0, 0⟩, 0⟩

/-- A call of which everything fails, and one that waits for a result, which comes. -/
theorem detectRun_returns_small :
    (∃ p, p <+: List.replicate 11 failing ∧
      (detectRun 4294967295 ([.call smallArgs smallAnswers] ++ p)).state = .idle) ∧
    ∃ p, p <+: List.replicate 11 succeeding ∧
      (detectRun 4294967295
        (.call smallArgs smallAnswers :: List.replicate 7 succeeding ++ [.result none .success] ++ p)).state = .idle :=
  ⟨detectRun_returns rfl (.inr (by decide)),
    detectRun_returns rfl (.inl ⟨since_concat.mpr (.inl ⟨none, .success, rfl⟩), by decide⟩)⟩

end MiniRtsp.PersonPet
