import MiniRtsp.PersonPet.RockivaDetector

/-!
# Runs of the offline detector

What the straight part of a call comes to (`StartCase`), and the law of every run, whatever fails and whenever RockIVA
calls back: its calls come in order, nothing is touched that is not there, and a call that returns leaves nothing behind
(`detectRun_orderly`).
-/

namespace MiniRtsp.PersonPet

open Detector (RockivaCall RockivaPhase DmaAnswer Timespec)
open Conduct Ledger Trace

/-! ## What the events say -/

def detectView : View DetectEvent RockivaCall DetectResource where
  call e := match e with
    | .rockiva call => some call
    | _ => none
  use e := match e with
    | .use u => some u
    | _ => none

/-- How far RockIVA has come; `none` if a call was out of place. -/
def detectPhase (events : List DetectEvent) : Option RockivaPhase :=
  (events.filterMap detectView.call).foldlM RockivaPhase.next .off

/-- What was taken and given back. -/
def detectUses (events : List DetectEvent) : List (Use DetectResource) := events.filterMap detectView.use

/-- The resource has been taken, and not been given back. -/
def Has (events : List DetectEvent) (r : DetectResource) : Prop :=
  (detectUses events).count (.release r) < (detectUses events).count (.acquire r)

/-- A frame is pushed from memory that is there; callbacks and waits find the mutex, the condition and the picture; a
call that returns leaves nothing behind. -/
def DetectOk (before : List DetectEvent) : DetectEvent → Prop
  | .rockiva (.pushFrame _ _ _) => Has before .dma
  | .resultCallback _ _ | .releaseCallback _ | .timedwait _ _ | .read _ _ =>
    Has before .mutex ∧ Has before .condition ∧ Has before .dma
  | .returned _ _ => Settled (detectUses before) ∧ detectPhase before = some .off
  | _ => True

/-- What is held behind `ROCKIVA_Init`. -/
def held : Multiset DetectResource := .condition ::ₘ .mutex ::ₘ {.dma}

/-- The events bring RockIVA from one phase to another, and the holdings from `m` to `m'`. -/
abbrev Leads (events : List DetectEvent) (p p' : RockivaPhase) (m m' : Multiset DetectResource) : Prop :=
  Brings detectView RockivaPhase.next events p p' m m'

section Leads

variable {es : List DetectEvent} {p p' p'' : RockivaPhase} {m m' : Multiset DetectResource}

theorem leads_call {call : RockivaCall} (hnext : p.next call = some p') (h : Leads es p' p'' m m') :
    Leads (.rockiva call :: es) p p'' m m' := h.called rfl rfl hnext

theorem leads_acquire {r : DetectResource} (h : Leads es p p' (r ::ₘ m) m') :
    Leads (.use (.acquire r) :: es) p p' m m' := h.acquired rfl rfl

theorem leads_release {r : DetectResource} (h : Leads es p p' m m') :
    Leads (.use (.release r) :: es) p p' (r ::ₘ m) m' := h.released rfl rfl

end Leads

/-! ## The beginning of a call -/

/-- An event of the straight part up to `ROCKIVA_Init`. -/
def DetectEvent.Plain : DetectEvent → Prop
  | .use _ => True
  | .rockiva (.allocMem _ _) | .rockiva (.init _) | .rockiva (.freeMem _ _) => True
  | _ => False

/-- The image is the picture of the file; its size is reduced modulo 2^32. -/
def Loaded (sizeMax : Nat) (args : DetectArgs) (disk : Disk) (image : RockIvaImage) : Prop :=
  ∃ path contents size, args.nv12Path = some path ∧ disk.fopen path = some contents ∧
    calculateNv12Size sizeMax args.width args.height = some size ∧ disk.stat path = some (size : Int) ∧
    size ≤ contents.length ∧ image.data.take size = contents.take size ∧ image.width.toNat = args.width.toNat ∧
    image.height.toNat = args.height.toNat ∧ image.size.toNat = size % UInt32.size ∧ image.frameId = 1 ∧
    image.channelId = 0

/-- The memory is smaller than the picture. -/
def Overruns (sizeMax : Nat) (args : DetectArgs) (answers : StartAnswers) : Prop :=
  ∃ size memory, calculateNv12Size sizeMax args.width args.height = some size ∧
    answers.allocMem (.ofNat size) = .usable memory ∧ memory.length < size

/-- What the straight part comes to. -/
inductive StartCase (sizeMax : Nat) (args : DetectArgs) (answers : StartAnswers) :
    DetectState → List DetectEvent → Prop
  | refused (es : List DetectEvent) (summary : Option RockIvaDetectionSummary) (hplain : ∀ e ∈ es, e.Plain)
      (hes : Leads es .off .off 0 0) : StartCase sizeMax args answers .idle (es ++ [.returned (-1) summary])
  | wild (es : List DetectEvent) (m : Multiset DetectResource) (hplain : ∀ e ∈ es, e.Plain)
      (hes : Leads es .off .off 0 m) (hover : Overruns sizeMax args answers) :
      StartCase sizeMax args answers .wild (es ++ [.overrun])
  | starts (es : List DetectEvent) (image : RockIvaImage) (hplain : ∀ e ∈ es, e.Plain)
      (hes : Leads es .off .initialized 0 held) (himage : Loaded sizeMax args answers.disk image) :
      StartCase sizeMax args answers (.inCall
        ⟨args, image, ⟨.zero, .unknown, image.frameId, false, false, true, false, true⟩, .zero, .initialized⟩) es

section StartCase

variable {sizeMax : Nat} {args : DetectArgs} {answers : StartAnswers}

theorem leads_plain {es fs : List DetectEvent} {p p' p'' : RockivaPhase} {m m' m'' : Multiset DetectResource}
    (h : (∀ e ∈ es, e.Plain) ∧ Leads es p p' m m') (h' : (∀ e ∈ fs, e.Plain) ∧ Leads fs p' p'' m' m'') :
    (∀ e ∈ es ++ fs, e.Plain) ∧ Leads (es ++ fs) p p'' m m'' := by
  refine ⟨fun e he => ?_, h.2.append h'.2⟩
  rcases List.mem_append.mp he with he | he
  · exact h.1 e he
  · exact h'.1 e he

/-- The memory is given back, and the call fails. -/
theorem StartCase.freed {es : List DetectEvent} (h : (∀ e ∈ es, e.Plain) ∧ Leads es .off .off 0 {.dma})
    (freeMem : Bool) (summary : RockIvaDetectionSummary) :
    StartCase sizeMax args answers .idle (es ++ freeImage freeMem (-1) summary) := by
  have hfree : Leads [.rockiva (.freeMem 0 freeMem), .use (.release .dma)] .off .off {.dma} 0 :=
    leads_call rfl (leads_release brings_nil)
  obtain ⟨hplain, hes⟩ := leads_plain h ⟨by simp [DetectEvent.Plain], hfree⟩
  have hevents : freeImage freeMem (-1) summary =
      [.rockiva (.freeMem 0 freeMem), .use (.release .dma)] ++ [.returned (-1) (some summary)] := by
    simp [freeImage]
  rw [hevents, ← List.append_assoc]
  exact .refused _ _ hplain hes

theorem initializeRockiva_cases {modelDir : Bytes} {image : RockIvaImage}
    (himage : Loaded sizeMax args answers.disk image) {es : List DetectEvent}
    (h : (∀ e ∈ es, e.Plain) ∧ Leads es .off .off 0 {.dma}) :
    StartCase sizeMax args answers (initializeRockiva args answers modelDir image).1
      (es ++ (initializeRockiva args answers modelDir image).2) := by
  unfold initializeRockiva
  cases answers.mutexInit with
  | false => exact .freed h answers.freeMem .zero
  | true =>
    cases answers.condInit with
    | false =>
      have hmutex : Leads [.use (.acquire .mutex), .use (.release .mutex)] .off .off {.dma} {.dma} :=
        leads_acquire (leads_release brings_nil)
      have hboth := leads_plain h ⟨by simp [DetectEvent.Plain], hmutex⟩
      simpa [List.append_assoc] using StartCase.freed hboth answers.freeMem .zero
    | true =>
      have htaken : Leads [.use (.acquire .mutex), .use (.acquire .condition)] .off .off {.dma} held :=
        leads_acquire (leads_acquire brings_nil)
      have hgiven : Leads [.use (.release .condition), .use (.release .mutex)] .off .off held {.dma} :=
        leads_release (leads_release brings_nil)
      have hplain : ∀ e ∈ [DetectEvent.use (.acquire .mutex), .use (.acquire .condition)], e.Plain := by
        simp [DetectEvent.Plain]
      have hboth := leads_plain h ⟨hplain, htaken⟩
      simp only [Bool.not_true, Bool.false_eq_true, if_false]
      split
      · have hback := leads_plain hboth ⟨by simp [DetectEvent.Plain], hgiven⟩
        simpa [List.append_assoc] using StartCase.freed hback answers.freeMem .zero
      · cases answers.rockivaInit with
        | false =>
          have hrefused : Leads (.rockiva (.init false) :: [.use (.release .condition), .use (.release .mutex)]) .off
            .off held {.dma} := leads_call rfl hgiven
          have hback := leads_plain hboth ⟨by simp [DetectEvent.Plain], hrefused⟩
          simpa [List.append_assoc] using StartCase.freed hback answers.freeMem .zero
        | true =>
          have hinit : Leads [.rockiva (.init true)] .off .initialized held held := leads_call rfl brings_nil
          obtain ⟨hall, hes⟩ := leads_plain hboth ⟨by simp [DetectEvent.Plain], hinit⟩
          simp only [Bool.not_true, Bool.false_eq_true, if_false]
          rw [← List.append_assoc]
          exact .starts _ image hall hes himage

theorem toNat_toUInt16 {x : UInt32} (h : x.toNat ≤ 65535) : x.toUInt16.toNat = x.toNat := by
  rw [UInt32.toNat_toUInt16]
  exact Nat.mod_eq_of_lt (by omega)

theorem validateFileSize_iff {stat : Option Int} {size : Nat} :
    validateFileSize stat size = true ↔ stat = some (size : Int) := by
  unfold validateFileSize
  cases stat with
  | none => simp
  | some actual =>
    simp only [Bool.not_eq_true', Bool.or_eq_false_iff, decide_eq_false_iff_not, not_lt, bne_eq_false_iff_eq,
      Option.some.injEq]
    omega

/-- The file is closed whatever has been read. -/
theorem file_leads (found : Bool) :
    (∀ e ∈ (if found then [DetectEvent.use (.acquire .file)] else []) ++
      (if found then [DetectEvent.use (.release .file)] else []), e.Plain) ∧
    Leads ((if found then [DetectEvent.use (.acquire .file)] else []) ++
      (if found then [DetectEvent.use (.release .file)] else [])) .off .off {.dma} {.dma} := by
  cases found with
  | false => exact ⟨by simp, brings_nil⟩
  | true => exact ⟨by simp [DetectEvent.Plain], leads_acquire (leads_release brings_nil)⟩

theorem open_leads (found : Bool) :
    ∃ m, (∀ e ∈ if found then [DetectEvent.use (.acquire .file)] else [], e.Plain) ∧
      Leads (if found then [DetectEvent.use (.acquire .file)] else []) .off .off {.dma} m := by
  cases found with
  | false => exact ⟨_, by simp, brings_nil⟩
  | true => exact ⟨_, by simp [DetectEvent.Plain], leads_acquire brings_nil⟩

theorem loadImage_cases {modelDir path : Bytes} {size : Nat} (hpath : args.nv12Path = some path)
    (hsize : calculateNv12Size sizeMax args.width args.height = some size)
    (hstat : answers.disk.stat path = some (size : Int)) (hwidth : args.width.toNat ≤ 65535)
    (hheight : args.height.toNat ≤ 65535) :
    StartCase sizeMax args answers (loadImage args answers modelDir path size).1
      (loadImage args answers modelDir path size).2 := by
  unfold loadImage
  dsimp only
  have htaken : (∀ e ∈ [DetectEvent.rockiva (.allocMem 0 true), .use (.acquire .dma)], e.Plain) ∧
      Leads [.rockiva (.allocMem 0 true), .use (.acquire .dma)] .off .off 0 {.dma} :=
    ⟨by simp [DetectEvent.Plain], leads_call rfl (leads_acquire brings_nil)⟩
  have hrefused : Leads [.rockiva (.allocMem 0 false)] .off .off 0 0 := leads_call rfl brings_nil
  cases hmemory : answers.allocMem (.ofNat size) with
  | refused => exact .refused [_] _ (by simp [DetectEvent.Plain]) hrefused
  | unusable => exact .freed htaken answers.freeMem .zero
  | usable memory =>
    dsimp only
    have hread := leads_plain htaken (file_leads (answers.disk.fopen path).isSome)
    cases hdata : readFileIntoBuffer answers.disk path memory size with
    | none =>
      obtain ⟨m, hopened⟩ := open_leads (answers.disk.fopen path).isSome
      obtain ⟨hplain, hes⟩ := leads_plain htaken hopened
      have hsmall : memory.length < size := (readFileIntoBuffer_spec _ _ _ _).1 hdata
      exact .wild _ m hplain hes ⟨size, memory, hsize, hmemory, hsmall⟩
    | some read =>
      obtain ⟨data, ok⟩ := read
      cases ok with
      | false =>
        simpa only [List.append_assoc] using StartCase.freed hread answers.freeMem .zero
      | true =>
        obtain ⟨contents, hopen, hlength, htake⟩ := readFileIntoBuffer_whole hdata
        have himage : Loaded sizeMax args answers.disk
            ⟨args.width.toUInt16, args.height.toUInt16, .ofNat size, 1, 0, data⟩ :=
          ⟨path, contents, size, hpath, hopen, hsize, hstat, hlength, htake, toNat_toUInt16 hwidth,
            toNat_toUInt16 hheight, UInt32.toNat_ofNat', rfl, rfl⟩
        simpa only [List.append_assoc] using initializeRockiva_cases himage hread

/-- **The straight part** fails with everything given back, or starts RockIVA with the picture of the file. -/
theorem rockivaDetectNv12_cases (sizeMax : Nat) (args : DetectArgs) (answers : StartAnswers) :
    StartCase sizeMax args answers (rockivaDetectNv12 sizeMax args answers).1
      (rockivaDetectNv12 sizeMax args answers).2 := by
  have hrefused : ∀ summary, StartCase sizeMax args answers .idle [.returned (-1) summary] := fun summary =>
    .refused [] summary (by simp) brings_nil
  unfold rockivaDetectNv12
  split
  · rename_i modelDir path summary _ hpath _
    split
    · exact hrefused _
    · rename_i hfits
      split
      · rename_i file size _ hsize
        split
        · exact hrefused _
        · rename_i hstat
          have hvalid : validateFileSize (answers.disk.stat path) size = true := by simpa using hstat
          exact loadImage_cases hpath hsize (validateFileSize_iff.mp hvalid) (by omega) (by omega)
      · exact hrefused _
  · exact hrefused _

end StartCase

/-! ## Calls in order -/

/-- The phase in which RockIVA is, as the stage and the marks say. -/
def Stage.Permits (stage : Stage) (context : DetectorContext) (p : RockivaPhase) : Prop :=
  match stage with
  | .initialized => context.globalInitialized = true ∧ context.detectInitialized = false ∧ p = .initialized
  | .announced => context.globalInitialized = true ∧ context.detectInitialized = false ∧ p = .announced
  | .detecting | .pushed | .finished | .waiting _ _ | .received =>
    context.globalInitialized = true ∧ context.detectInitialized = true ∧ p = .detecting
  | .releasingDetect _ =>
    context.globalInitialized = true ∧
      if context.detectInitialized then p = .detecting else p = .initialized ∨ p = .announced
  | .releasing _ =>
    context.globalInitialized = true ∧ context.detectInitialized = false ∧ (p = .initialized ∨ p = .announced)
  | .freeing _ => context.globalInitialized = false ∧ context.detectInitialized = false ∧ p = .off

structure CallInOrder (es : List DetectEvent) (c : Call) : Prop where
  sync : c.context.syncInitialized = true
  phase : ∃ p, c.stage.Permits c.context p ∧ Leads es .off p 0 held

def OrderInv (h : History DetectState DetectEvent) : Prop :=
  match h.state with
  | .idle => Leads h.events .off .off 0 0
  | .wild => ∃ m, Leads h.events .off .off 0 m
  | .inCall c => CallInOrder h.events c

/-- A step that keeps the order, and whose events are in order. -/
def Keeps (es : List DetectEvent) (r : DetectState × List DetectEvent) : Prop :=
  OrderInv ⟨r.1, es ++ r.2⟩ ∧ Monitored (fun before => DetectOk (es ++ before)) r.2

variable {es fs : List DetectEvent} {c : Call} {p p' : RockivaPhase} {m : Multiset DetectResource}

theorem plain_ok {e : DetectEvent} (h : e.Plain) (before : List DetectEvent) : DetectOk before e := by
  cases e with
  | rockiva call =>
    cases call with
    | pushFrame slot frameId ok => exact h.elim
    | _ => trivial
  | use u => trivial
  | _ => exact h.elim

theorem returned_ok (h : Leads es .off .off 0 0) (ret : Int) (summary : Option RockIvaDetectionSummary) :
    DetectOk es (.returned ret summary) := ⟨h.holds.settled, h.phase⟩

/-- A call begins. -/
theorem rockivaDetectNv12_keeps (hes : Leads es .off .off 0 0) (sizeMax : Nat) (args : DetectArgs)
    (answers : StartAnswers) : Keeps es (detectStep sizeMax (.call args answers) .idle) := by
  have hcase := rockivaDetectNv12_cases sizeMax args answers
  simp only [detectStep]
  generalize rockivaDetectNv12 sizeMax args answers = r at hcase
  obtain ⟨state, events⟩ := r
  dsimp only at hcase ⊢
  have hcalled : ∀ {fs : List DetectEvent} {p : RockivaPhase} {m : Multiset DetectResource}, Leads fs .off p 0 m →
      Leads (es ++ .called args answers :: fs) .off p 0 m := fun h => hes.append (h.silent rfl rfl)
  have hbefore : ∀ {fs : List DetectEvent}, (∀ e ∈ fs, e.Plain) →
      ∀ e ∈ DetectEvent.called args answers :: fs, ∀ before, DetectOk (es ++ before) e := by
    intro fs hplain e he before
    rcases List.mem_cons.mp he with rfl | he
    · trivial
    · exact plain_ok (hplain e he) _
  cases hcase with
  | refused fs summary hplain hfs =>
    have hlast := returned_ok (hcalled hfs) (-1) summary
    refine ⟨?_, ?_⟩
    · have hall : Leads (fs ++ [.returned (-1) summary]) .off .off 0 0 := hfs.append (brings_nil.silent rfl rfl)
      exact hcalled hall
    · rw [← List.cons_append]
      refine monitored_append.mpr ⟨monitored_of_forall (hbefore hplain), ?_⟩
      exact monitored_cons.mpr ⟨by simpa using hlast, monitored_nil⟩
  | wild fs m hplain hfs _ =>
    have hall : Leads (fs ++ [.overrun]) .off .off 0 m := hfs.append (brings_nil.silent rfl rfl)
    refine ⟨⟨m, hcalled hall⟩, ?_⟩
    rw [← List.cons_append]
    refine monitored_append.mpr ⟨monitored_of_forall (hbefore hplain), ?_⟩
    exact monitored_cons.mpr ⟨trivial, monitored_nil⟩
  | starts fs image hplain hfs _ =>
    exact ⟨⟨rfl, _, ⟨rfl, rfl, rfl⟩, hcalled hfs⟩, monitored_of_forall (hbefore hplain)⟩

/-- The call goes on, with events that lead to the phase of its next stage. -/
theorem keeps_goes {c' : Call} (hc : CallInOrder es c) (hsync : c'.context.syncInitialized = true)
    (hgoes : ∀ p, c.stage.Permits c.context p → ∃ p', c'.stage.Permits c'.context p' ∧ Leads fs p p' held held)
    (hok : Monitored (fun before => DetectOk (es ++ before)) fs) : Keeps es (.inCall c', fs) := by
  obtain ⟨p, hp, hes⟩ := hc.phase
  obtain ⟨p', hp', hfs⟩ := hgoes p hp
  exact ⟨⟨hsync, p', hp', hes.append hfs⟩, hok⟩

theorem CallInOrder.has (hc : CallInOrder es c) : Has es .mutex ∧ Has es .condition ∧ Has es .dma := by
  obtain ⟨p, -, hes⟩ := hc.phase
  exact ⟨hes.has (by simp [held]), hes.has (by simp [held]), hes.has (by simp [held])⟩

theorem monitored_one {e : DetectEvent} (h : DetectOk es e) :
    Monitored (fun before => DetectOk (es ++ before)) [e] :=
  monitored_cons.mpr ⟨by simpa using h, monitored_nil⟩

/-- `goto cleanup` from a stage in which RockIVA detects, and from an earlier one. -/
theorem permits_cleanup {context : DetectorContext}
    (h : context.globalInitialized = true ∧ context.detectInitialized = true ∧ p = .detecting) (result : Int) :
    (Stage.releasingDetect result).Permits context p :=
  ⟨h.1, by rw [if_pos h.2.1]; exact h.2.2⟩

theorem permits_early {context : DetectorContext} (hglobal : context.globalInitialized = true)
    (hdetect : context.detectInitialized = false) (hp : p = .initialized ∨ p = .announced) (result : Int) :
    (Stage.releasingDetect result).Permits context p :=
  ⟨hglobal, by rw [if_neg (by simp [hdetect])]; exact hp⟩

/-- **A step of the call** keeps the order. -/
theorem callStep_keeps (hc : CallInOrder es c) (answers : CallAnswers) : Keeps es (callStep answers c) := by
  obtain ⟨args, image, context, summary, stage⟩ := c
  obtain ⟨hmutex, hcondition, hdma⟩ := hc.has
  cases stage with
  | initialized =>
    simp only [callStep, Call.next, Call.cleanup]
    cases answers.ok with
    | false =>
      refine keeps_goes hc hc.sync (fun p hp => ?_) (monitored_one trivial)
      obtain ⟨hglobal, hdetect, rfl⟩ := hp
      exact ⟨_, permits_early hglobal hdetect (.inl rfl) (-1), leads_call rfl brings_nil⟩
    | true =>
      refine keeps_goes hc hc.sync (fun p hp => ?_) (monitored_one trivial)
      obtain ⟨hglobal, hdetect, rfl⟩ := hp
      exact ⟨_, ⟨hglobal, hdetect, rfl⟩, leads_call rfl brings_nil⟩
  | announced =>
    have hok : ∀ ok, Monitored (fun before => DetectOk (es ++ before))
        [.thresholds args.personThreshold args.petThreshold, .rockiva (.detectInit ok)] := fun ok =>
      monitored_cons.mpr ⟨trivial, monitored_cons.mpr ⟨trivial, monitored_nil⟩⟩
    simp only [callStep, Call.next, Call.cleanup]
    cases answers.ok with
    | false =>
      refine keeps_goes hc hc.sync (fun p hp => ?_) (hok false)
      obtain ⟨hglobal, -, rfl⟩ := hp
      exact ⟨.announced, ⟨hglobal, .inr rfl⟩, (leads_call rfl brings_nil).silent rfl rfl⟩
    | true =>
      refine keeps_goes hc hc.sync (fun p hp => ?_) (hok true)
      obtain ⟨hglobal, -, rfl⟩ := hp
      exact ⟨_, ⟨hglobal, rfl, rfl⟩, (leads_call rfl brings_nil).silent rfl rfl⟩
  | detecting =>
    have hpush : ∀ ok, Monitored (fun before => DetectOk (es ++ before))
        [.pushed image, .rockiva (.pushFrame 0 image.frameId ok)] := by
      intro ok
      refine monitored_cons.mpr ⟨trivial, monitored_cons.mpr ⟨?_, monitored_nil⟩⟩
      have hsame : detectUses (es ++ [.pushed image]) = detectUses es := by simp [detectUses, detectView]
      simpa [DetectOk, Has, hsame] using hdma
    simp only [callStep, Call.next, Call.cleanup]
    cases answers.ok with
    | false =>
      refine keeps_goes hc hc.sync (fun p hp => ?_) (hpush false)
      have hcleanup := permits_cleanup hp
      obtain ⟨-, -, rfl⟩ := hp
      exact ⟨_, hcleanup _, (leads_call rfl brings_nil).silent rfl rfl⟩
    | true =>
      refine keeps_goes hc hc.sync (fun p hp => ?_) (hpush true)
      obtain ⟨hglobal, hdetect, rfl⟩ := hp
      exact ⟨_, ⟨hglobal, hdetect, rfl⟩, (leads_call rfl brings_nil).silent rfl rfl⟩
  | pushed =>
    simp only [callStep, Call.next, Call.cleanup]
    cases answers.ok with
    | false =>
      refine keeps_goes hc hc.sync (fun p hp => ?_) (monitored_one trivial)
      have hcleanup := permits_cleanup hp
      obtain ⟨-, -, rfl⟩ := hp
      exact ⟨_, hcleanup _, leads_call rfl brings_nil⟩
    | true =>
      refine keeps_goes hc hc.sync (fun p hp => ?_) (monitored_one trivial)
      obtain ⟨hglobal, hdetect, rfl⟩ := hp
      exact ⟨_, ⟨hglobal, hdetect, rfl⟩, leads_call rfl brings_nil⟩
  | finished =>
    simp only [callStep, Call.cleanup]
    split
    · refine keeps_goes hc hc.sync (fun p hp => ?_) monitored_nil
      have hcleanup := permits_cleanup hp
      obtain ⟨-, -, rfl⟩ := hp
      exact ⟨_, hcleanup _, brings_nil⟩
    · exact keeps_goes hc hc.sync (fun p hp => ⟨p, hp, brings_nil⟩) monitored_nil
  | waiting waitRet deadline =>
    simp only [callStep, Call.cleanup]
    split
    · exact keeps_goes hc hc.sync (fun p hp => ⟨p, hp, brings_nil⟩) monitored_nil
    · split
      · refine keeps_goes hc hc.sync (fun p hp => ?_) monitored_nil
        have hcleanup := permits_cleanup hp
        obtain ⟨-, -, rfl⟩ := hp
        exact ⟨_, hcleanup _, brings_nil⟩
      · exact keeps_goes hc hc.sync (fun p hp => ⟨p, hp, brings_nil.silent rfl rfl⟩)
          (monitored_one ⟨hmutex, hcondition, hdma⟩)
  | received =>
    simp only [callStep, Call.cleanup]
    refine keeps_goes hc hc.sync (fun p hp => ?_) (monitored_one ⟨hmutex, hcondition, hdma⟩)
    have hcleanup := permits_cleanup hp
    obtain ⟨-, -, rfl⟩ := hp
    exact ⟨_, hcleanup _, brings_nil.silent rfl rfl⟩
  | releasingDetect result =>
    simp only [callStep]
    split
    · rename_i hdetect
      refine keeps_goes hc hc.sync (fun p hp => ?_) (monitored_one trivial)
      obtain ⟨hglobal, hphase⟩ := hp
      obtain rfl : p = .detecting := by simpa [hdetect] using hphase
      exact ⟨.announced, ⟨hglobal, rfl, .inr rfl⟩, leads_call rfl brings_nil⟩
    · rename_i hdetect
      refine keeps_goes hc hc.sync (fun p hp => ?_) monitored_nil
      obtain ⟨hglobal, hphase⟩ := hp
      exact ⟨p, ⟨hglobal, by simpa using hdetect, by simpa [hdetect] using hphase⟩, brings_nil⟩
  | releasing result =>
    simp only [callStep]
    split
    · refine keeps_goes hc hc.sync (fun p hp => ?_) (monitored_one trivial)
      obtain ⟨-, hdetect, hphase⟩ := hp
      have hnext : p.next (.release answers.ok) = some .off := by
        rcases hphase with rfl | rfl <;> rfl
      exact ⟨.off, ⟨rfl, hdetect, rfl⟩, leads_call hnext brings_nil⟩
    · rename_i hglobal
      obtain ⟨p, ⟨hon, -⟩, -⟩ := hc.phase
      exact absurd hon hglobal
  | freeing result =>
    obtain ⟨p, ⟨-, -, rfl⟩, hes⟩ := hc.phase
    have hsync : context.syncInitialized = true := hc.sync
    simp only [callStep, hsync, if_true, freeImage]
    generalize (if answers.ok then result else -1) = ret
    have hfree : Leads [.use (.release .condition), .use (.release .mutex), .rockiva (.freeMem 0 answers.ok),
        .use (.release .dma)] .off .off held 0 :=
      leads_release (leads_release (leads_call rfl (leads_release brings_nil)))
    have hplain : ∀ e ∈ [DetectEvent.use (.release .condition), .use (.release .mutex),
        .rockiva (.freeMem 0 answers.ok), .use (.release .dma)], e.Plain := by
      simp [DetectEvent.Plain]
    have hlast := returned_ok (hes.append hfree) ret (some summary)
    refine ⟨hes.append (hfree.append (brings_nil.silent rfl rfl)), ?_⟩
    refine monitored_append.mpr ⟨monitored_of_forall fun e he before => plain_ok (hplain e ?_) _, ?_⟩
    · exact List.mem_append_left [_, _] he
    · refine monitored_cons.mpr ⟨trivial, monitored_cons.mpr ⟨trivial, monitored_cons.mpr ⟨?_, monitored_nil⟩⟩⟩
      simpa using hlast

/-- A callback comes while the mutex is there. -/
theorem callback_keeps (hc : CallInOrder es c) {context : DetectorContext} {e : DetectEvent}
    (hglobal : context.globalInitialized = c.context.globalInitialized)
    (hdetect : context.detectInitialized = c.context.detectInitialized)
    (hsync : context.syncInitialized = c.context.syncInitialized) (hcall : detectView.call e = none)
    (huse : detectView.use e = none) (hok : DetectOk es e) : Keeps es (.inCall { c with context }, [e]) := by
  refine keeps_goes hc (hsync.trans hc.sync) (fun p hp => ⟨p, ?_, brings_nil.silent hcall huse⟩) (monitored_one hok)
  unfold Stage.Permits at hp ⊢
  rwa [hglobal, hdetect]

theorem detectStep_keeps (sizeMax : Nat) (move : DetectMove) {h : History DetectState DetectEvent} (hi : OrderInv h) :
    Keeps h.events (detectStep sizeMax move h.state) := by
  have hstays : Keeps h.events (h.state, []) := by
    refine ⟨?_, monitored_nil⟩
    rw [List.append_nil]
    exact hi
  obtain ⟨state, events⟩ := h
  cases state with
  | idle =>
    cases move with
    | call args answers => exact rockivaDetectNv12_keeps hi sizeMax args answers
    | _ => exact hstays
  | wild => cases move <;> exact hstays
  | inCall c =>
    have hc : CallInOrder events c := hi
    cases move with
    | call args answers => exact hstays
    | goOn answers => exact callStep_keeps hc answers
    | result result status =>
      simp only [detectStep]
      split
      · exact callback_keeps hc rfl rfl rfl rfl rfl hc.has
      · exact hstays
    | release frames =>
      have hmarks : (frameReleaseCallback c.context frames).globalInitialized = c.context.globalInitialized ∧
          (frameReleaseCallback c.context frames).detectInitialized = c.context.detectInitialized ∧
          (frameReleaseCallback c.context frames).syncInitialized = c.context.syncInitialized := by
        unfold frameReleaseCallback
        split <;> exact ⟨rfl, rfl, rfl⟩
      simp only [detectStep]
      split
      · exact callback_keeps hc hmarks.1 hmarks.2.1 hmarks.2.2 rfl rfl hc.has
      · exact hstays

theorem detectRun_order (sizeMax : Nat) (moves : List DetectMove) : OrderInv (detectRun sizeMax moves) :=
  run_induction _ brings_nil fun _ move _ hi => (detectStep_keeps sizeMax move hi).1

/-- **Order of every run**: whatever fails and whenever RockIVA calls back, its calls come in order, nothing is given
back that is not held, a frame is pushed from memory that is there, callbacks and waits find their mutex, and a call
that returns leaves nothing behind that is not released or freed. A release that reports a failure counts as made. -/
theorem detectRun_orderly (sizeMax : Nat) (moves : List DetectMove) :
    detectPhase (detectRun sizeMax moves).events ≠ none ∧ Sound (detectUses (detectRun sizeMax moves).events) ∧
      Monitored DetectOk (detectRun sizeMax moves).events := by
  have hleads : ∃ p m, Leads (detectRun sizeMax moves).events .off p 0 m := by
    have hi := detectRun_order sizeMax moves
    unfold OrderInv at hi
    split at hi
    · exact ⟨_, _, hi⟩
    · obtain ⟨m, hes⟩ := hi
      exact ⟨_, _, hes⟩
    · obtain ⟨p, -, hes⟩ := hi.phase
      exact ⟨_, _, hes⟩
  obtain ⟨p, m, hes⟩ := hleads
  refine ⟨?_, hes.holds.sound, ?_⟩
  · rw [detectPhase, hes.phase]
    exact Option.some_ne_none p
  · exact run_monitored _ (P := OrderInv) brings_nil fun _ move _ hi => detectStep_keeps sizeMax move hi

end MiniRtsp.PersonPet
