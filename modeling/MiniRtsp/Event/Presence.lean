import MiniRtsp.Event.PersonEvent

/-!
# What the tracker is for: N-of-M presence over a list of samples

The abstract rule, on the list of samples alone (newest first, `true` for a frame with a person) and without any
array, position or running counter. An *epoch* is the run of samples since the start or since the last LEAVE; a
person enters when at least `required` of the last `window` samples of the epoch are positive, and leaves at the
`leave`-th consecutive negative sample.
-/

namespace MiniRtsp.Event

/-- The three numbers of a configuration. -/
structure PresenceRule where
  window : Nat
  required : Nat
  leave : Nat

/-- The number of consecutive negative samples that end the list. -/
def misses : List Bool → Nat
  | false :: h => misses h + 1
  | _ => 0

/-- The positive samples among the last `window` of an epoch. -/
def hits (r : PresenceRule) (epoch : List Bool) : Nat := (epoch.take r.window).countP id

/-- What the samples so far say: whether a person is present, and the samples of the current epoch. -/
structure Presence where
  present : Bool
  epoch : List Bool
  deriving DecidableEq, Repr

/-- The event of the sample `d` after the samples `past`, when these left the presence `p`. -/
def eventAfter (r : PresenceRule) (p : Presence) (past : List Bool) (d : Bool) : PersonEventType :=
  if p.present then if misses (d :: past) = r.leave then .leave else .present
  else if r.required ≤ hits r (d :: p.epoch) then .enter
  else .none

/-- The presence after a list of samples. -/
def presence (r : PresenceRule) : List Bool → Presence
  | [] => ⟨false, []⟩
  | d :: past =>
    let p := presence r past
    match eventAfter r p past d with
    | .enter => ⟨true, d :: p.epoch⟩
    | .present => ⟨true, d :: p.epoch⟩
    | .leave => ⟨false, []⟩
    | .none => ⟨false, d :: p.epoch⟩

/-- The event that the newest sample `d` causes. -/
def specEvent (r : PresenceRule) (past : List Bool) (d : Bool) : PersonEventType :=
  eventAfter r (presence r past) past d

/-- Consecutive misses count only while a person is present. -/
def specMisses (r : PresenceRule) (h : List Bool) : Nat := if (presence r h).present then misses h else 0

/-- The state recomputed from the samples. -/
def specState (r : PresenceRule) (h : List Bool) : PersonEventState :=
  if (presence r h).present then if 0 < misses h then .exitPending else .present
  else if 0 < hits r (presence r h).epoch then .candidate
  else .idle

@[simp] theorem misses_true (h : List Bool) : misses (true :: h) = 0 := rfl

@[simp] theorem misses_false (h : List Bool) : misses (false :: h) = misses h + 1 := rfl

section Rule

variable {r : PresenceRule} {past : List Bool} {d : Bool}

/-- The presence after a sample, by the event it causes. -/
theorem presence_cons : presence r (d :: past) =
    match specEvent r past d with
    | .enter => ⟨true, d :: (presence r past).epoch⟩
    | .present => ⟨true, d :: (presence r past).epoch⟩
    | .leave => ⟨false, []⟩
    | .none => ⟨false, d :: (presence r past).epoch⟩ := rfl

theorem specEvent_present (hp : (presence r past).present = true) :
    specEvent r past d = if misses (d :: past) = r.leave then .leave else .present := by
  simp [specEvent, eventAfter, hp]

theorem specEvent_absent (hp : (presence r past).present = false) :
    specEvent r past d = if r.required ≤ hits r (d :: (presence r past).epoch) then .enter else .none := by
  simp [specEvent, eventAfter, hp]

/-- A negative sample adds no hit. -/
theorem hits_false_le (hw : 0 < r.window) (e : List Bool) : hits r (false :: e) ≤ hits r e := by
  obtain ⟨n, hn⟩ : ∃ n, r.window = n + 1 := ⟨r.window - 1, by omega⟩
  simp only [hits, hn, List.take_succ_cons, List.countP_cons, id_eq, Bool.false_eq_true, ↓reduceIte, Nat.add_zero]
  exact (List.take_sublist_take_left (Nat.le_succ n)).countP_le

end Rule

end MiniRtsp.Event
