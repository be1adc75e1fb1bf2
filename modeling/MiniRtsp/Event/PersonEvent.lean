import MiniRtsp.Lib.Ring
import MiniRtsp.Lib.Trace

/-!
# The PERSON event tracker

`event/person_event.c`: per-frame detections become ENTER / PRESENT / LEAVE events by N-of-M entry confirmation and
consecutive-miss exit confirmation. Counters are machine words, pointers that may be `NULL` are options, and a call
answers its return value with what its pointers point to afterwards. `trackerStep` makes the calls on one tracker a
machine; what one call can do to it is said by `TrackerStep`.
-/

namespace MiniRtsp.Event

/-- `PERSON_EVENT_MAX_ENTER_WINDOW`. -/
def maxEnterWindow : Nat := 32

inductive PersonEventType where
  | none
  | enter
  | present
  | leave
  deriving DecidableEq, Repr

inductive PersonEventState where
  | idle
  | candidate
  | present
  | exitPending
  deriving DecidableEq, Repr

structure PersonEventConfig where
  enterWindow : UInt32
  enterRequired : UInt32
  leaveCount : UInt32
  deriving DecidableEq, Repr

structure PersonEventInput where
  frameId : UInt32
  timestampMs : Int
  personCount : UInt32
  maxScore : UInt8
  deriving DecidableEq, Repr

structure PersonEventResult where
  event : PersonEventType
  state : PersonEventState
  personPresent : Bool
  eventId : UInt64
  frameId : UInt32
  timestampMs : Int
  personCount : UInt32
  maxScore : UInt8
  enterHits : UInt32
  enterSamples : UInt32
  consecutiveMisses : UInt32
  deriving DecidableEq, Repr

structure PersonEventTracker where
  config : PersonEventConfig
  enterHistory : List UInt8
  historyPos : UInt32
  historyCount : UInt32
  historyHits : UInt32
  active : Bool
  consecutiveMisses : UInt32
  eventId : UInt64
  deriving DecidableEq, Repr

/-- `config_is_valid`. -/
def configIsValid (config : PersonEventConfig) : Bool :=
  if config.enterWindow = 0 ∨ config.enterWindow.toNat > maxEnterWindow then false
  else if config.enterRequired = 0 ∨ config.enterRequired > config.enterWindow then false
  else if config.leaveCount = 0 then false
  else true

/-- The zeroed `enter_history` array. -/
def emptyHistory : List UInt8 := List.replicate maxEnterWindow 0

/-- `clear_entry_history`. -/
def clearEntryHistory (t : PersonEventTracker) : PersonEventTracker :=
  { t with enterHistory := emptyHistory, historyPos := 0, historyCount := 0, historyHits := 0 }

/-- `value` of `add_entry_sample`: `detected ? 1U : 0U`. -/
def sampleValue (detected : Bool) : UInt8 := if detected then 1 else 0

/-- The two branches of `add_entry_sample`, before the position advances. -/
def storeEntrySample (t : PersonEventTracker) (detected : Bool) : PersonEventTracker :=
  let value := sampleValue detected
  let pos := t.historyPos.toNat
  if t.historyCount < t.config.enterWindow then
    { t with
      enterHistory := t.enterHistory.set pos value
      historyHits := t.historyHits + value.toUInt32
      historyCount := t.historyCount + 1 }
  else
    let oldValue := t.enterHistory.getD pos 0
    { t with
      enterHistory := t.enterHistory.set pos value
      historyHits := t.historyHits - oldValue.toUInt32 + value.toUInt32 }

/-- `add_entry_sample`. -/
def addEntrySample (t : PersonEventTracker) (detected : Bool) : PersonEventTracker :=
  let t := storeEntrySample t detected
  let t := { t with historyPos := t.historyPos + 1 }
  if t.historyPos ≥ t.config.enterWindow then { t with historyPos := 0 } else t

/-- `current_state`. -/
def currentState (t : PersonEventTracker) : PersonEventState :=
  if t.active then
    if t.consecutiveMisses > 0 then .exitPending else .present
  else if t.historyHits > 0 then .candidate
  else .idle

/-- `fill_result`. -/
def fillResult (t : PersonEventTracker) (input : PersonEventInput) (event : PersonEventType) : PersonEventResult where
  event := event
  state := currentState t
  personPresent := t.active
  eventId := t.eventId
  frameId := input.frameId
  timestampMs := input.timestampMs
  personCount := input.personCount
  maxScore := input.maxScore
  enterHits := t.historyHits
  enterSamples := t.historyCount
  consecutiveMisses := t.consecutiveMisses

/-- `person_event_default_config`. -/
def personEventDefaultConfig : PersonEventConfig := ⟨3, 2, 5⟩

/-- The tracker after `memset` and the assignment of `config`. -/
def freshTracker (config : PersonEventConfig) : PersonEventTracker where
  config := config
  enterHistory := emptyHistory
  historyPos := 0
  historyCount := 0
  historyHits := 0
  active := false
  consecutiveMisses := 0
  eventId := 0

/-- `person_event_init`: the tracker is written only when the configuration is accepted. -/
def personEventInit (tracker : Option PersonEventTracker) (config : Option PersonEventConfig) :
    Int × Option PersonEventTracker :=
  match tracker, config with
  | some _, some c => if configIsValid c then (0, some (freshTracker c)) else (-1, tracker)
  | _, _ => (-1, tracker)

/-- `person_event_reset`. -/
def personEventReset (tracker : Option PersonEventTracker) : Option PersonEventTracker :=
  tracker.map fun t => freshTracker t.config

/-- The ENTER branch: the tracker becomes active under a new, non-zero event id. -/
def enterTracker (t : PersonEventTracker) : PersonEventTracker :=
  let id := t.eventId + 1
  clearEntryHistory { t with active := true, consecutiveMisses := 0, eventId := if id = 0 then 1 else id }

/-- The LEAVE branch. -/
def leaveTracker (t : PersonEventTracker) : PersonEventTracker :=
  clearEntryHistory { t with active := false, consecutiveMisses := 0 }

/-- The state machine of `person_event_update`: the next tracker and the event. -/
def updateTracker (t : PersonEventTracker) (detected : Bool) : PersonEventTracker × PersonEventType :=
  if !t.active then
    let t := addEntrySample t detected
    if t.historyHits ≥ t.config.enterRequired then (enterTracker t, .enter) else (t, .none)
  else if detected then ({ t with consecutiveMisses := 0 }, .present)
  else
    let t := { t with consecutiveMisses := t.consecutiveMisses + 1 }
    if t.consecutiveMisses ≥ t.config.leaveCount then (leaveTracker t, .leave)
    else (t, .present) -- a short miss does not end the stable PERSON event

/-- `detected` of `person_event_update`. -/
def detected (input : PersonEventInput) : Bool := decide (input.personCount > 0)

/-- `person_event_update`. -/
def personEventUpdate (tracker : Option PersonEventTracker) (input : Option PersonEventInput)
    (result : Option PersonEventResult) : Int × Option PersonEventTracker × Option PersonEventResult :=
  match tracker, input, result with
  | some t, some i, some _ =>
    if configIsValid t.config then
      let (t', event) := updateTracker t (detected i)
      (0, some t', some (fillResult t' i event))
    else (-1, tracker, result)
  | _, _, _ => (-1, tracker, result)

/-! ## Sequences of calls -/

/-- A call on the tracker; `given` tells whether it is given the tracker or `NULL`. -/
inductive TrackerCall where
  | init (given : Bool) (config : Option PersonEventConfig)
  | update (given : Bool) (input : Option PersonEventInput) (result : Option PersonEventResult)
  | reset (given : Bool)

/-- What a call answered. -/
inductive TrackerEvent where
  | initialized (ret : Int)
  /-- The return value, and what the result points to. -/
  | updated (ret : Int) (result : Option PersonEventResult)
  | restarted
  deriving DecidableEq

/-- The pointer that a call is given. -/
def pointerTo (given : Bool) (t : PersonEventTracker) : Option PersonEventTracker := if given then some t else none

/-- A call. -/
def trackerStep : TrackerCall → PersonEventTracker → PersonEventTracker × List TrackerEvent
  | .init given config, t =>
    let (ret, tracker) := personEventInit (pointerTo given t) config
    (tracker.getD t, [.initialized ret])
  | .update given input result, t =>
    let (ret, tracker, result) := personEventUpdate (pointerTo given t) input result
    (tracker.getD t, [.updated ret result])
  | .reset given, t =>
    match personEventReset (pointerTo given t) with
    | some t => (t, [.restarted])
    | none => (t, [])

/-- An accepted update adds its result, a successful `person_event_init` and `person_event_reset` begin anew. -/
def noteResult : List PersonEventResult → TrackerEvent → List PersonEventResult
  | _, .initialized 0 => []
  | _, .restarted => []
  | results, .updated 0 (some result) => results ++ [result]
  | results, _ => results

/-- The results since the last successful `person_event_init` or `person_event_reset`. -/
def results (events : List TrackerEvent) : List PersonEventResult := events.foldl noteResult []

theorem results_append (es fs : List TrackerEvent) : results (es ++ fs) = fs.foldl noteResult (results es) := by
  simp [results]

/-- A rejected call leaves the tracker and the result as they are. -/
theorem personEventUpdate_cases (tracker : Option PersonEventTracker) (input : Option PersonEventInput)
    (result : Option PersonEventResult) :
    personEventUpdate tracker input result = (-1, tracker, result) ∨
    ∃ t i r, tracker = some t ∧ input = some i ∧ result = some r ∧ configIsValid t.config = true ∧
      personEventUpdate tracker input result = (0, some (updateTracker t (detected i)).1,
        some (fillResult (updateTracker t (detected i)).1 i (updateTracker t (detected i)).2)) := by
  cases tracker with
  | none => exact .inl rfl
  | some t =>
    cases input with
    | none => exact .inl rfl
    | some i =>
      cases result with
      | none => exact .inl rfl
      | some r =>
        cases hvalid : configIsValid t.config with
        | false => exact .inl (by simp [personEventUpdate, hvalid])
        | true => exact .inr ⟨t, i, r, rfl, rfl, rfl, hvalid, by simp [personEventUpdate, hvalid]⟩

/-- **What a call does** to the tracker. -/
inductive TrackerStep (t : PersonEventTracker) : PersonEventTracker → List TrackerEvent → Prop where
  | rejected {events : List TrackerEvent} (quiet : ∀ rs, events.foldl noteResult rs = rs) : TrackerStep t t events
  | started {c : PersonEventConfig} (valid : configIsValid c = true) : TrackerStep t (freshTracker c) [.initialized 0]
  | restarted : TrackerStep t (freshTracker t.config) [.restarted]
  | updated (i : PersonEventInput) (valid : configIsValid t.config = true) :
      TrackerStep t (updateTracker t (detected i)).1
        [.updated 0 (some (fillResult (updateTracker t (detected i)).1 i (updateTracker t (detected i)).2))]

theorem trackerStep_cases (call : TrackerCall) (t : PersonEventTracker) :
    TrackerStep t (trackerStep call t).1 (trackerStep call t).2 := by
  cases call with
  | init given config =>
    have hrejected : TrackerStep t t [.initialized (-1)] := .rejected fun _ => rfl
    cases given with
    | false => exact hrejected
    | true =>
      cases config with
      | none => exact hrejected
      | some c =>
        cases hvalid : configIsValid c with
        | false => simpa [trackerStep, pointerTo, personEventInit, hvalid] using hrejected
        | true => simpa [trackerStep, pointerTo, personEventInit, hvalid] using TrackerStep.started hvalid
  | update given input result =>
    rcases personEventUpdate_cases (pointerTo given t) input result with h | ⟨t', i, r, ht, -, -, hvalid, h⟩
    · have hsame : (pointerTo given t).getD t = t := by cases given <;> rfl
      simp only [trackerStep, h, hsame]
      exact .rejected fun _ => rfl
    · have ht' : t = t' := by
        cases given with
        | false => cases ht
        | true => exact Option.some.inj ht
      subst ht'
      simp only [trackerStep, h, Option.getD_some]
      exact .updated i hvalid
  | reset given =>
    cases given with
    | false => exact .rejected fun _ => rfl
    | true => exact .restarted

/-- The first call that a tracker is given. -/
theorem run_init {c : PersonEventConfig} (hc : configIsValid c = true) (t : PersonEventTracker)
    (calls : List TrackerCall) : Trace.run trackerStep t (.init true (some c) :: calls) =
      calls.foldl (Trace.advance trackerStep) ⟨freshTracker c, [.initialized 0]⟩ := by
  simp [Trace.run, Trace.advance, trackerStep, pointerTo, personEventInit, hc]

end MiniRtsp.Event
