import MiniRtsp.Lib.Text
import MiniRtsp.Lib.Trace
import MiniRtsp.Lib.Wire
import Mathlib.Logic.Function.Basic

/-!
# The logger

`common/log.c`. Threads log at the same time; a line is written piece by piece while `g_log_lock` is held (`logStep`).
So the streams consist of whole lines, one for each call that passed the level, and of the first pieces of the line of
the thread that holds the lock (`logRun_lines`).
-/

namespace MiniRtsp.Log

open Text Trace

/-! ## Levels -/

inductive LogLevel where
  | error
  | warn
  | info
  | debug
  deriving DecidableEq, Repr

def LogLevel.toNat : LogLevel → Nat
  | .error => 0
  | .warn => 1
  | .info => 2
  | .debug => 3

/-- `tolower`. -/
def toLower (b : UInt8) : UInt8 := if 0x41 ≤ b ∧ b ≤ 0x5a then b + 0x20 else b

/-- `text_equal_ignore_case`. -/
def textEqualIgnoreCase : Bytes → Bytes → Bool
  | a :: left, b :: right => if toLower a ≠ toLower b then false else textEqualIgnoreCase left right
  | left, right => left = [] ∧ right = []

theorem textEqualIgnoreCase_iff (left right : Bytes) :
    textEqualIgnoreCase left right = true ↔ left.map toLower = right.map toLower := by
  induction left generalizing right with
  | nil => cases right <;> simp [textEqualIgnoreCase]
  | cons a left ih =>
    cases right with
    | nil => simp [textEqualIgnoreCase]
    | cons b right =>
      unfold textEqualIgnoreCase
      split
      · rename_i hne
        simp [hne]
      · rename_i heq
        simp only [ne_eq, Decidable.not_not] at heq
        simp [heq, ih]

/-- `log_set_level` on the number of a level. `LogLevel` is unsigned, so a number out of range is too large. -/
def logSetLevel (level : UInt32) : LogLevel :=
  if level = 0 then .error else if level = 1 then .warn else if level = 2 then .info else .debug

/-- `log_level_name`. -/
def logLevelName : LogLevel → Bytes
  | .error => ascii "ERROR"
  | .warn => ascii "WARN"
  | .info => ascii "INFO"
  | .debug => ascii "DEBUG"

/-- `log_level_parse`. -/
def logLevelParse (text : Bytes) : Option LogLevel :=
  if textEqualIgnoreCase text (ascii "error") then some .error
  else if textEqualIgnoreCase text (ascii "warn") || textEqualIgnoreCase text (ascii "warning") then some .warn
  else if textEqualIgnoreCase text (ascii "info") then some .info
  else if textEqualIgnoreCase text (ascii "debug") then some .debug
  else none

/-! ## Lines -/

inductive Stream where
  | out
  | err
  deriving DecidableEq, Repr

/-- A call of `log_write` or `log_write_errno`. -/
structure Record where
  level : LogLevel
  module : Option Bytes
  /-- What `vsnprintf` prints; `none` if it fails. -/
  text : Option Bytes
  /-- What `strerror` says about the error number, and the number. -/
  error : Option (Bytes × Int)

def logMessageMax : Nat := 1024

def Record.stream (r : Record) : Stream := if r.level.toNat ≤ LogLevel.warn.toNat then .err else .out

/-- `%03ld`. -/
def padded (n : Nat) : Bytes := List.replicate (3 - (decimal n).length) 0x30 ++ decimal n

/-- `write_prefix`, with the time as `strftime` prints it and the milliseconds, if there is one. -/
def writePrefix (time : Option (Bytes × Nat)) (level : LogLevel) (module : Option Bytes) : Bytes :=
  let stamp :=
    match time with
    | some (text, milliseconds) => text ++ ascii "." ++ padded milliseconds ++ ascii " "
    | none => []
  stamp ++ ascii "[" ++ logLevelName level ++ ascii "] [" ++ module.getD (ascii "app") ++ ascii "] "

/-- What a call writes to its stream, one piece a call of `stdio`. -/
def Record.pieces (r : Record) (time : Option (Bytes × Nat)) (text : Bytes) : List Bytes :=
  [writePrefix time r.level r.module, text.take (logMessageMax - 1)] ++
    (match r.error with
      | some (message, number) => [ascii ": " ++ message ++ ascii " (errno=" ++ decimalInt number ++ ascii ")"]
      | none => []) ++
    [ascii "\n"]

/-- The line of a call. -/
def Record.line (r : Record) (time : Option (Bytes × Nat)) (text : Bytes) : Bytes := (r.pieces time text).flatten

/-! ## The threads -/

inductive LogPc where
  | idle
  /-- `level > log_get_level()`, then `vsnprintf`. -/
  | check (r : Record)
  | lock (r : Record) (text : Bytes)
  /-- With the lock held: what has been written, and the pieces to come. -/
  | writing (stream : Stream) (written : Bytes) (pieces : List Bytes)

structure LogState where
  /-- `g_log_level`. -/
  level : LogLevel
  /-- Who holds `g_log_lock`. -/
  holder : Option Nat
  contents : Stream → Bytes
  threads : Nat → LogPc

inductive LogMove where
  | call (t : Nat) (r : Record)
  | step (t : Nat) (time : Option (Bytes × Nat))
  | setLevel (level : UInt32)

inductive LogEvent where
  | called (t : Nat) (r : Record)
  /-- The lock is released behind a line. -/
  | line (t : Nat) (stream : Stream) (text : Bytes)

def LogState.start : LogState := { level := .info, holder := none, contents := fun _ => [], threads := fun _ => .idle }

def LogState.goto (s : LogState) (t : Nat) (pc : LogPc) : LogState :=
  { s with threads := Function.update s.threads t pc }

/-- A step of a thread in `log_vwrite`. While another one holds the lock it waits. -/
def threadStep (s : LogState) (t : Nat) (time : Option (Bytes × Nat)) : LogState × List LogEvent :=
  match s.threads t with
  | .idle => (s, [])
  | .check r =>
    if s.holder.isSome then (s, [])
    else if r.level.toNat > s.level.toNat then (s.goto t .idle, [])
    else
      match r.text with
      | none => (s.goto t .idle, [])
      | some text => (s.goto t (.lock r text), [])
  | .lock r text =>
    if s.holder.isSome then (s, [])
    else ({ s with holder := some t }.goto t (.writing r.stream [] (r.pieces time text)), [])
  | .writing stream written (piece :: pieces) =>
    ({ s with contents := Function.update s.contents stream (s.contents stream ++ piece) }.goto t
      (.writing stream (written ++ piece) pieces), [])
  | .writing stream written [] => ({ s with holder := none }.goto t .idle, [.line t stream written])

def logStep : LogMove → LogState → LogState × List LogEvent
  | .call t r, s =>
    match s.threads t with
    | .idle => (s.goto t (.check r), [.called t r])
    | _ => (s, [])
  | .step t time, s => threadStep s t time
  | .setLevel level, s => if s.holder.isSome then (s, []) else ({ s with level := logSetLevel level }, [])

def logRun (moves : List LogMove) : History LogState LogEvent := run logStep .start moves

/-! ## Whole lines -/

/-- The lines that have been finished on a stream. -/
def linesOn (stream : Stream) (events : List LogEvent) : List Bytes :=
  events.filterMap fun e => match e with
    | .line _ on text => if on = stream then some text else none
    | _ => none

/-- What the thread that holds the lock has written of its line. -/
def LogState.unfinished (s : LogState) (stream : Stream) : Bytes :=
  match s.holder with
  | none => []
  | some t =>
    match s.threads t with
    | .writing on written _ => if on = stream then written else []
    | _ => []

def observeCall (t : Nat) : Option Record → LogEvent → Option Record
  | pending, .called t' r => if t' = t then some r else pending
  | pending, .line t' _ _ => if t' = t then none else pending

/-- The last call of a thread that has not written its line. -/
def pendingCall (t : Nat) (events : List LogEvent) : Option Record := events.foldl (observeCall t) none

/-- A line is that of a call that has not written one, on its stream. -/
def LineOk (before : List LogEvent) : LogEvent → Prop
  | .line t stream text => ∃ r, pendingCall t before = some r ∧ stream = r.stream ∧
      ∃ time message, r.text = some message ∧ text = r.line time message
  | .called _ _ => True

/-- Where a thread can be, given who holds the lock and what happened. -/
def PcOk (holder : Option Nat) (events : List LogEvent) (t : Nat) : LogPc → Prop
  | .idle => holder ≠ some t
  | .check r => holder ≠ some t ∧ pendingCall t events = some r
  | .lock r text => holder ≠ some t ∧ pendingCall t events = some r ∧ r.text = some text
  | .writing stream written pieces => holder = some t ∧ ∃ r, pendingCall t events = some r ∧ stream = r.stream ∧
      ∃ time message, r.text = some message ∧ written ++ pieces.flatten = r.line time message

structure LogInv (h : History LogState LogEvent) : Prop where
  threads : ∀ t, PcOk h.state.holder h.events t (h.state.threads t)
  contents : ∀ stream, h.state.contents stream = (linesOn stream h.events).flatten ++ h.state.unfinished stream

variable {h : History LogState LogEvent}

/-- What a thread does is nothing to the others. -/
theorem PcOk.other {holder holder' : Option Nat} {events es : List LogEvent} {t : Nat} {pc : LogPc}
    (hpc : PcOk holder events t pc) (hholder : holder' = some t ↔ holder = some t)
    (hcall : pendingCall t (events ++ es) = pendingCall t events) : PcOk holder' (events ++ es) t pc := by
  cases pc <;> simp only [PcOk, hcall, hholder, ne_eq] at hpc ⊢ <;> exact hpc

/-- A thread moves on without the lock changing hands and without a line. -/
theorem LogInv.goto {t : Nat} {pc : LogPc} {es : List LogEvent} (hi : LogInv h)
    (hpc : PcOk h.state.holder (h.events ++ es) t pc) (hfree : h.state.holder ≠ some t)
    (hcall : ∀ t', t' ≠ t → pendingCall t' (h.events ++ es) = pendingCall t' h.events)
    (hlines : ∀ stream, linesOn stream es = []) : LogInv ⟨h.state.goto t pc, h.events ++ es⟩ := by
  refine ⟨fun t' => ?_, fun stream => ?_⟩
  · by_cases ht : t' = t
    · subst ht
      simpa only [LogState.goto, Function.update_self] using hpc
    · simp only [LogState.goto, Function.update_of_ne ht]
      exact (hi.threads t').other Iff.rfl (hcall t' ht)
  · have hsame : (h.state.goto t pc).unfinished stream = h.state.unfinished stream := by
      unfold LogState.unfinished LogState.goto
      dsimp only
      split
      · rfl
      · rename_i t' hholder
        have hne : t' ≠ t := by
          rintro rfl
          exact hfree hholder
        rw [Function.update_of_ne hne]
    rw [linesOn, List.filterMap_append, ← linesOn, ← linesOn, hlines, List.append_nil, hsame]
    exact hi.contents stream

theorem logInv_start : LogInv ⟨.start, []⟩ := ⟨fun _ => by simp [LogState.start, PcOk], fun _ => rfl⟩

theorem pendingCall_concat (t : Nat) (events : List LogEvent) (e : LogEvent) :
    pendingCall t (events ++ [e]) = observeCall t (pendingCall t events) e := by
  simp [pendingCall]

theorem linesOn_concat_line (stream : Stream) (events : List LogEvent) (t : Nat) (on : Stream) (text : Bytes) :
    (linesOn stream (events ++ [.line t on text])).flatten =
      (linesOn stream events).flatten ++ if on = stream then text else [] := by
  unfold linesOn
  rw [List.filterMap_append, List.flatten_append]
  by_cases hon : on = stream <;> simp [hon]

/-- The lock is taken. -/
theorem LogInv.lock {t : Nat} {r : Record} {text : Bytes} (hi : LogInv h) (time : Option (Bytes × Nat))
    (hpc : h.state.threads t = .lock r text) (hfree : h.state.holder = none) :
    LogInv ⟨{ h.state with holder := some t }.goto t (.writing r.stream [] (r.pieces time text)), h.events⟩ := by
  have hlock := hi.threads t
  rw [hpc] at hlock
  refine ⟨fun t' => ?_, fun stream => ?_⟩
  · by_cases ht : t' = t
    · subst ht
      simp only [LogState.goto, Function.update_self]
      exact ⟨rfl, r, hlock.2.1, rfl, time, text, hlock.2.2, rfl⟩
    · simp only [LogState.goto, Function.update_of_ne ht]
      have hholder : some t = some t' ↔ h.state.holder = some t' := by
        rw [hfree]
        simp [Ne.symm ht]
      have hother : PcOk (some t) (h.events ++ []) t' (h.state.threads t') :=
        (hi.threads t').other hholder (by simp)
      simpa using hother
  · have hbefore := hi.contents stream
    simp only [LogState.unfinished, hfree, List.append_nil] at hbefore
    simp [LogState.unfinished, LogState.goto, hbefore]

/-- A piece is written. -/
theorem LogInv.write {t : Nat} {on : Stream} {written piece : Bytes} {pieces : List Bytes} (hi : LogInv h)
    (hpc : h.state.threads t = .writing on written (piece :: pieces)) :
    LogInv ⟨{ h.state with contents := Function.update h.state.contents on (h.state.contents on ++ piece) }.goto t
      (.writing on (written ++ piece) pieces), h.events⟩ := by
  have hwriting := hi.threads t
  rw [hpc] at hwriting
  obtain ⟨hholder, r, hcall, hstream, time, message, htext, hline⟩ := hwriting
  refine ⟨fun t' => ?_, fun stream => ?_⟩
  · by_cases ht : t' = t
    · subst ht
      simp only [LogState.goto, Function.update_self]
      exact ⟨hholder, r, hcall, hstream, time, message, htext, by rw [← hline]; simp⟩
    · simp only [LogState.goto, Function.update_of_ne ht]
      exact hi.threads t'
  · have hbefore := hi.contents stream
    simp only [LogState.unfinished, hholder, hpc] at hbefore
    by_cases hon : on = stream
    · subst hon
      simp only [if_true] at hbefore
      simp [LogState.unfinished, LogState.goto, hholder, hbefore]
    · simp only [hon, if_false] at hbefore
      simp [LogState.unfinished, LogState.goto, hholder, hon, Function.update_of_ne (Ne.symm hon), hbefore]

/-- The lock is released behind a line. -/
theorem LogInv.unlock {t : Nat} {on : Stream} {written : Bytes} (hi : LogInv h)
    (hpc : h.state.threads t = .writing on written []) :
    LogInv ⟨{ h.state with holder := none }.goto t .idle, h.events ++ [.line t on written]⟩ ∧
      LineOk h.events (.line t on written) := by
  have hwriting := hi.threads t
  rw [hpc] at hwriting
  obtain ⟨hholder, r, hcall, hstream, time, message, htext, hline⟩ := hwriting
  refine ⟨⟨fun t' => ?_, fun stream => ?_⟩, r, hcall, hstream, time, message, htext, by simpa using hline⟩
  · by_cases ht : t' = t
    · subst ht
      simp [LogState.goto, PcOk]
    · simp only [LogState.goto, Function.update_of_ne ht]
      refine (hi.threads t').other ?_ ?_
      · rw [hholder]
        simp [Ne.symm ht]
      · rw [pendingCall_concat, observeCall, if_neg (Ne.symm ht)]
  · have hbefore := hi.contents stream
    simp only [LogState.unfinished, hholder, hpc] at hbefore
    rw [linesOn_concat_line]
    simp [LogState.unfinished, LogState.goto, hbefore]

/-- **Every step** keeps the lines whole. -/
theorem logStep_inv (move : LogMove) (hi : LogInv h) :
    LogInv (advance logStep h move) ∧ Monitored (fun before => LineOk (h.events ++ before)) (logStep move h.state).2 := by
  have hstay : LogInv ⟨h.state, h.events ++ []⟩ := by simpa using hi
  cases move with
  | call t r =>
    unfold advance
    simp only [logStep]
    have hpc := hi.threads t
    cases hwhere : h.state.threads t with
    | idle =>
      rw [hwhere] at hpc
      refine ⟨hi.goto ⟨hpc, ?_⟩ hpc (fun t' ht => ?_) fun _ => rfl, monitored_of_forall ?_⟩
      · rw [pendingCall_concat, observeCall, if_pos rfl]
      · rw [pendingCall_concat, observeCall, if_neg (Ne.symm ht)]
      · simp [LineOk]
    | _ => exact ⟨hstay, monitored_nil⟩
  | step t time =>
    unfold advance
    simp only [logStep, threadStep]
    have hpc := hi.threads t
    cases hwhere : h.state.threads t with
    | idle => exact ⟨hstay, monitored_nil⟩
    | check r =>
      rw [hwhere] at hpc
      obtain ⟨hfree, hcall⟩ := hpc
      have hgoto : ∀ pc, PcOk h.state.holder h.events t pc → LogInv ⟨h.state.goto t pc, h.events ++ []⟩ := fun pc hok =>
        hi.goto (by simpa using hok) hfree (fun _ _ => by simp) fun _ => rfl
      dsimp only
      split
      · exact ⟨hstay, monitored_nil⟩
      · split
        · exact ⟨hgoto _ hfree, monitored_nil⟩
        · split
          · exact ⟨hgoto _ hfree, monitored_nil⟩
          · rename_i text htext
            exact ⟨hgoto _ ⟨hfree, hcall, htext⟩, monitored_nil⟩
    | lock r text =>
      dsimp only
      split
      · exact ⟨hstay, monitored_nil⟩
      · rename_i hholder
        rw [List.append_nil]
        exact ⟨hi.lock time hwhere (by simpa using hholder), monitored_nil⟩
    | writing on written pieces =>
      cases pieces with
      | nil =>
        obtain ⟨hnext, hok⟩ := hi.unlock hwhere
        refine ⟨hnext, monitored_cons.mpr ⟨by simpa using hok, monitored_nil⟩⟩
      | cons piece pieces =>
        dsimp only
        rw [List.append_nil]
        exact ⟨hi.write hwhere, monitored_nil⟩
  | setLevel level =>
    unfold advance
    simp only [logStep]
    split
    · exact ⟨hstay, monitored_nil⟩
    · rw [List.append_nil]
      exact ⟨⟨hi.threads, hi.contents⟩, monitored_nil⟩

/-- **Lines stay whole**, however many threads log at the same time: each stream consists of its finished lines, in the
order in which the lock was held, and of what the thread that holds the lock has written of its own; every finished line
is that of a call of its thread, which writes no other; and the unfinished line is the beginning of such a line. -/
theorem logRun_lines (moves : List LogMove) :
    (∀ stream, (logRun moves).state.contents stream =
      (linesOn stream (logRun moves).events).flatten ++ (logRun moves).state.unfinished stream) ∧
    Monitored LineOk (logRun moves).events ∧
    ∀ stream, (logRun moves).state.unfinished stream ≠ [] → ∃ t r, (logRun moves).state.holder = some t ∧
      pendingCall t (logRun moves).events = some r ∧ stream = r.stream ∧
      ∃ time message, r.text = some message ∧ (logRun moves).state.unfinished stream <+: r.line time message := by
  have hinv : LogInv (logRun moves) := run_induction logStep logInv_start fun _ move _ hi => (logStep_inv move hi).1
  refine ⟨hinv.contents, run_monitored logStep logInv_start fun _ move _ hi => logStep_inv move hi, ?_⟩
  intro stream hsome
  unfold LogState.unfinished at hsome ⊢
  cases hholder : (logRun moves).state.holder with
  | none => simp [hholder] at hsome
  | some t =>
    have hpc := hinv.threads t
    simp only [hholder] at hsome hpc ⊢
    cases hwhere : (logRun moves).state.threads t with
    | writing on written pieces =>
      rw [hwhere] at hpc
      simp only [hwhere] at hsome ⊢
      obtain ⟨-, r, hcall, hstream, time, message, htext, hline⟩ := hpc
      by_cases hon : on = stream
      · exact ⟨t, r, rfl, hcall, hon ▸ hstream, time, message, htext, by
          rw [if_pos hon, ← hline]
          exact List.prefix_append _ _⟩
      · simp [hon] at hsome
    | _ => simp [hwhere] at hsome

end MiniRtsp.Log
