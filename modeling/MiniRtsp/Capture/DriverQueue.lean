import MiniRtsp.Capture.Buffers
import MiniRtsp.Lib.Fifo
import MiniRtsp.Lib.Trace

/-!
# The driver behind the camera calls

The driver owns the buffers that are queued for filling, completes them in any order and at any time, and hands out the
completed ones first in, first out; `select` reports the device readable while there is one. Between two calls of the
program it completes what `Moment` says, so the calls see every interleaving. A completion carries its number, which
says whether it came before or after another point of the run.
-/

namespace MiniRtsp.Capture

open Fifo Trace

/-! ## The buffers of the driver -/

/-- A filled buffer; `serial` is the number of completions before it. -/
structure Completion where
  buffer : V4L2Buffer
  serial : Nat

/-- Every buffer is queued for filling, completed (oldest first), or held by the program. -/
structure Driver (count : Nat) where
  queued : List Nat
  completed : List Completion
  held : List Nat
  completions : Nat
  partition : (queued ++ completed.map (·.buffer.index) ++ held).Perm (List.range count)
  dated : ∀ c ∈ completed, c.serial < completions

variable {count : Nat}

/-- The driver has filled the buffer, if it was queued. -/
def Driver.complete (d : Driver count) (b : V4L2Buffer) : Driver count :=
  if h : b.index ∈ d.queued then
    { queued := d.queued.erase b.index
      completed := d.completed ++ [⟨b, d.completions⟩]
      held := d.held
      completions := d.completions + 1
      partition := by
        refine .trans ?_ d.partition
        have hback := (List.perm_cons_erase h).symm.append_right (d.completed.map (·.buffer.index) ++ d.held)
        rw [List.append_assoc d.queued]
        refine .trans ?_ hback
        simp only [List.map_append, List.map_cons, List.map_nil, List.append_assoc, List.singleton_append]
        exact (List.perm_middle.append_left _).trans List.perm_middle
      dated := by
        intro c hc
        rcases List.mem_append.mp hc with hc | hc
        · exact Nat.lt_succ_of_lt (d.dated c hc)
        · rw [List.mem_singleton.mp hc]
          exact Nat.lt_succ_self _ }
  else d

/-- `VIDIOC_DQBUF`: the oldest completed buffer. -/
def Driver.dequeue (d : Driver count) : Option (Completion × Driver count) :=
  match h : d.completed with
  | [] => none
  | c :: rest =>
    some (c,
      { queued := d.queued
        completed := rest
        held := c.buffer.index :: d.held
        completions := d.completions
        partition := by
          refine .trans ?_ d.partition
          simp only [h, List.map_cons, List.append_assoc, List.cons_append]
          exact List.perm_middle.append_left _
        dated := fun c' hc' => d.dated c' (by rw [h]; exact List.mem_cons_of_mem c hc') })

/-- `VIDIOC_QBUF`: a held buffer is queued again. -/
def Driver.enqueue (d : Driver count) (index : Nat) : Option (Driver count) :=
  if h : index ∈ d.held then
    some
      { queued := d.queued ++ [index]
        completed := d.completed
        held := d.held.erase index
        completions := d.completions
        partition := by
          refine .trans ?_ d.partition
          have hback := (List.perm_cons_erase h).symm
          simp only [List.append_assoc, List.singleton_append]
          exact .append_left _ (List.perm_middle.symm.trans (hback.append_left _))
        dated := d.dated }
  else none

/-! ## The calls of the program -/

/-- What comes before a call: the buffers completed since the last one, in this order, and whether the call fails for a
reason other than an empty queue. A call that a signal interrupts is repeated; both tries belong to one moment. -/
structure Moment where
  fills : List V4L2Buffer
  fault : Bool

/-- The driver, and the number of calls made so far. -/
structure Device (count : Nat) where
  driver : Driver count
  calls : Nat

variable (moments : Nat → Moment)

/-- The time up to the next call. -/
def Device.elapse (s : Device count) : Device count :=
  ⟨(moments s.calls).fills.foldl Driver.complete s.driver, s.calls + 1⟩

/-- `wait_for_frame`: `select` reports the device readable when a completed buffer exists. -/
def waitForFrame (s : Device count) : Except Errno Unit × Device count :=
  let s' := s.elapse moments
  if (moments s.calls).fault then (.error .other, s')
  else if s'.driver.completed.isEmpty then (.error .etimedout, s')
  else (.ok (), s')

/-- `VIDIOC_DQBUF`. -/
def dequeueBuffer (s : Device count) : Except Errno Completion × Device count :=
  let s' := s.elapse moments
  if (moments s.calls).fault then (.error .other, s')
  else
    match s'.driver.dequeue with
    | none => (.error .eagain, s')
    | some (c, driver) => (.ok c, { s' with driver := driver })

/-- `VIDIOC_QBUF`. -/
def queueBuffer (s : Device count) (index : Nat) : Bool × Device count :=
  let s' := s.elapse moments
  if (moments s.calls).fault then (false, s')
  else
    match s'.driver.enqueue index with
    | none => (false, s')
    | some driver => (true, { s' with driver := driver })

/-- A call of the program. -/
inductive DeviceCall where
  | wait
  | dequeue
  | queue (index : Nat)

/-- A call, and the completed buffer it takes from the driver. -/
def deviceStep : DeviceCall → Device count → Device count × List Completion
  | .wait, s => ((waitForFrame moments s).2, [])
  | .dequeue, s =>
    match dequeueBuffer moments s with
    | (.ok c, s') => (s', [c])
    | (.error _, s') => (s', [])
  | .queue index, s => ((queueBuffer moments s index).2, [])

/-! ## First in, first out -/

/-- From `d` to `d'` the program took `taken`, and what was completed in between has a number from `start` on. -/
def Advances (start : Nat) (d : Driver count) (taken : List Completion) (d' : Driver count) : Prop :=
  start ≤ d.completions → start ≤ d'.completions ∧ Flows (start ≤ ·.serial) d.completed taken d'.completed

section Advances

variable {moments} {start : Nat} {d d' d'' : Driver count} {s : Device count} {taken taken' : List Completion}

theorem Advances.trans (h : Advances start d taken d') (h' : Advances start d' taken' d'') :
    Advances start d (taken ++ taken') d'' := fun hd =>
  have ⟨hd', hflows⟩ := h hd
  have ⟨hd'', hflows'⟩ := h' hd'
  ⟨hd'', hflows.trans hflows'⟩

/-- A buffer that is completed joins with the next number. -/
theorem complete_advances (d : Driver count) (b : V4L2Buffer) : Advances start d [] (d.complete b) := by
  intro hd
  unfold Driver.complete
  split
  · exact ⟨Nat.le_succ_of_le hd, @flows_join _ (start ≤ ·.serial) ⟨b, d.completions⟩ hd d.completed⟩
  · exact ⟨hd, .refl _⟩

theorem elapse_advances (s : Device count) : Advances start s.driver [] (s.elapse moments).driver := by
  unfold Device.elapse
  dsimp only
  generalize s.driver = d
  induction (moments s.calls).fills generalizing d with
  | nil => exact fun hd => ⟨hd, .refl _⟩
  | cons b fills ih => exact (complete_advances d b).trans (ih (d.complete b))

theorem dequeue_advances {c : Completion} (h : d.dequeue = some (c, d')) :
    Advances start d [c] d' ∧ c.buffer.index ∈ d'.held := by
  unfold Driver.dequeue at h
  split at h
  · cases h
  · rename_i c' rest hqueue
    rw [Option.some.injEq, Prod.mk.injEq] at h
    obtain ⟨rfl, rfl⟩ := h
    have htake : Flows (start ≤ ·.serial) d.completed [c'] rest := by
      rw [hqueue]
      exact flows_take c' rest
    exact ⟨fun hd => ⟨hd, htake⟩, List.mem_cons_self ..⟩

theorem dequeue_none (h : d.dequeue = none) : d.completed = [] := by
  unfold Driver.dequeue at h
  split at h
  · assumption
  · cases h

theorem enqueue_advances {index : Nat} (h : d.enqueue index = some d') : Advances start d [] d' := by
  unfold Driver.enqueue at h
  split at h
  · obtain rfl := Option.some.inj h
    exact fun hd => ⟨hd, .refl _⟩
  · cases h

/-- **`wait_for_frame`** fails, times out on an empty queue, or finds a completed buffer. -/
theorem waitForFrame_cases (s : Device count) :
    waitForFrame moments s = (.error .other, s.elapse moments) ∨
    waitForFrame moments s = (.error .etimedout, s.elapse moments) ∧ (s.elapse moments).driver.completed = [] ∨
    waitForFrame moments s = (.ok (), s.elapse moments) ∧ (s.elapse moments).driver.completed ≠ [] := by
  unfold waitForFrame
  dsimp only
  split
  · exact .inl rfl
  · split
    · rename_i hempty
      exact .inr (.inl ⟨rfl, List.isEmpty_iff.mp hempty⟩)
    · rename_i hsome
      exact .inr (.inr ⟨rfl, fun h => hsome (List.isEmpty_iff.mpr h)⟩)

theorem waitForFrame_device (s : Device count) : (waitForFrame moments s).2 = s.elapse moments := by
  rcases @waitForFrame_cases count moments s with h | ⟨h, -⟩ | ⟨h, -⟩ <;> rw [h]

theorem dequeueBuffer_ok {c : Completion} {s' : Device count} (h : dequeueBuffer moments s = (.ok c, s')) :
    Advances start s.driver [c] s'.driver ∧ c.buffer.index ∈ s'.driver.held := by
  unfold dequeueBuffer at h
  dsimp only at h
  split at h
  · cases h
  · split at h
    · cases h
    · rename_i hdequeue
      rw [Prod.mk.injEq, Except.ok.injEq] at h
      obtain ⟨rfl, rfl⟩ := h
      obtain ⟨hadvances, hheld⟩ := @dequeue_advances count start _ _ _ hdequeue
      exact ⟨(elapse_advances s).trans hadvances, hheld⟩

theorem dequeueBuffer_error {e : Errno} {s' : Device count} (h : dequeueBuffer moments s = (.error e, s')) :
    s' = s.elapse moments ∧ (e = .other ∨ e = .eagain ∧ (s.elapse moments).driver.completed = []) := by
  unfold dequeueBuffer at h
  dsimp only at h
  split at h
  · rw [Prod.mk.injEq, Except.error.injEq] at h
    exact ⟨h.2.symm, .inl h.1.symm⟩
  · split at h
    · rename_i hnone
      rw [Prod.mk.injEq, Except.error.injEq] at h
      exact ⟨h.2.symm, .inr ⟨h.1.symm, dequeue_none hnone⟩⟩
    · cases h

theorem queueBuffer_advances (s : Device count) (index : Nat) :
    Advances start s.driver [] (queueBuffer moments s index).2.driver := by
  unfold queueBuffer
  dsimp only
  split
  · exact elapse_advances s
  · split
    · exact elapse_advances s
    · rename_i henqueue
      exact (elapse_advances s).trans (enqueue_advances henqueue)

/-- **A call** takes what is oldest. -/
theorem deviceStep_advances (call : DeviceCall) (s : Device count) :
    Advances start s.driver (deviceStep moments call s).2 (deviceStep moments call s).1.driver := by
  cases call with
  | wait =>
    simp only [deviceStep, waitForFrame_device]
    exact elapse_advances s
  | dequeue =>
    simp only [deviceStep]
    rcases hresult : dequeueBuffer moments s with ⟨e | c, s'⟩
    · dsimp only
      rw [(dequeueBuffer_error hresult).1]
      exact elapse_advances s
    · exact (dequeueBuffer_ok hresult).1
  | queue index => exact queueBuffer_advances s index

/-- **Any calls** take what is oldest first. -/
theorem calls_advance (s : Device count) (calls : List DeviceCall) :
    Advances start s.driver (run (deviceStep moments) s calls).events
      (run (deviceStep moments) s calls).state.driver := by
  apply run_induction (deviceStep moments) (P := fun h => Advances start s.driver h.events h.state.driver)
  · exact fun hd => ⟨hd, .refl _⟩
  · intro past call _ h
    exact h.trans (deviceStep_advances call _)

end Advances

end MiniRtsp.Capture
