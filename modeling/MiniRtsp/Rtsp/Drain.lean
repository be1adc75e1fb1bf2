import MiniRtsp.Capture.DriverQueue
import MiniRtsp.Rtsp.Media

/-!
# Draining the camera at PLAY

`drain_stale_capture_buffers` at a driver that goes on completing buffers. It stops when nothing is completed, or after
as many buffers as there are; either way the buffers that were completed before it began are out
(`drainDevice_takes`), so what is acquired later was completed later (`drain_removes_stale`).
-/

namespace MiniRtsp.Rtsp

open Capture Fifo Trace

/-! ## The drain and the device -/

section Device

variable {count : Nat} (moments : Nat → Moment)

/-- What `v4l2_capture_acquire_frame` sees of the device, and the completed buffer it takes. The device is readable when
`VIDIOC_DQBUF` is called, so there is no second round (`acquireRounds_cases`). -/
def acquireRounds (s : Device count) : List AcquireRound × Option Completion × Device count :=
  match waitForFrame moments s with
  | (.error e, s) => ([.selectFailed e], none, s)
  | (.ok _, s) =>
    match dequeueBuffer moments s with
    | (.error e, s) => ([.dqbufFailed e], none, s)
    | (.ok c, s) => ([.dequeued c.buffer], some c, s)

/-- A round of the draining loop: a buffer that was taken is queued again. -/
def drainRound (s : Device count) : DrainRound × Device count :=
  match acquireRounds moments s with
  | (rounds, none, s) => (⟨rounds, true, true⟩, s)
  | (rounds, some c, s) =>
    let (queued, s) := queueBuffer moments s c.buffer.index
    (⟨rounds, queued, queued⟩, s)

/-- The device after `i` rounds. -/
def deviceAt (s : Device count) : Nat → Device count
  | 0 => s
  | i + 1 => (drainRound moments (deviceAt s i)).2

/-- How the device answers the rounds of a drain. -/
def drainAnswers (s : Device count) (i : Nat) : DrainRound := (drainRound moments (deviceAt moments s i)).1

end Device

/-- `drain_stale_capture_buffers` with `n` rounds to go: whether it succeeds, the uses of the buffers, and the device it
leaves. -/
def drainDevice (moments : Nat → Moment) (capture : V4L2Capture) :
    Nat → Device capture.bufferCount → Bool × List BufferUse × Device capture.bufferCount
  | 0, s => (true, [], s)
  | n + 1, s =>
    let (round, s) := drainRound moments s
    let (acquired, buffers) := v4l2CaptureAcquireFrame capture round.rounds round.requeue
    match acquired with
    | .error e => (e = .eagain || e = .etimedout, buffers, s)
    | .ok frame =>
      let (released, releaseUses) := v4l2CaptureReleaseFrame capture frame round.release
      if !released then (false, buffers ++ releaseUses, s)
      else
        let (ok, rest, s) := drainDevice moments capture n s
        (ok, buffers ++ releaseUses ++ rest, s)

/-- **The drain at the device** is the drain with the answers of the device. -/
theorem drainDevice_eq (moments : Nat → Moment) (capture : V4L2Capture) (s : Device capture.bufferCount) (n i : Nat) :
    drainStaleCaptureBuffers (drainAnswers moments s) capture n i =
      ((drainDevice moments capture n (deviceAt moments s i)).1,
        (drainDevice moments capture n (deviceAt moments s i)).2.1) := by
  induction n generalizing i with
  | zero => rfl
  | succ n ih =>
    have hnext : (drainRound moments (deviceAt moments s i)).2 = deviceAt moments s (i + 1) := rfl
    unfold drainStaleCaptureBuffers drainDevice
    dsimp only [drainAnswers]
    rw [hnext]
    rcases v4l2CaptureAcquireFrame capture (drainRound moments (deviceAt moments s i)).1.rounds
      (drainRound moments (deviceAt moments s i)).1.requeue with ⟨e | frame, buffers⟩
    · rfl
    · dsimp only
      split
      · rfl
      · rw [ih]

/-! ## One round -/

theorem index_lt {count : Nat} {d : Driver count} {i : Nat} (h : i ∈ d.held) : i < count :=
  List.mem_range.mp (d.partition.mem_iff.mp (by simp [h]))

/-- **Acquiring at the device**: the queue is found empty, a call fails, or the oldest buffer is taken. -/
theorem acquireRounds_cases {count : Nat} (moments : Nat → Moment) (start : Nat) (s : Device count) :
    (∃ s', acquireRounds moments s = ([.selectFailed .etimedout], none, s') ∧ s'.driver.completed = [] ∧
      Advances start s.driver [] s'.driver) ∨
    (∃ round s', acquireRounds moments s = ([round], none, s') ∧ (round = .selectFailed .other ∨
      round = .dqbufFailed .other)) ∨
    ∃ c s', acquireRounds moments s = ([.dequeued c.buffer], some c, s') ∧ Advances start s.driver [c] s'.driver ∧
      c.buffer.index < count := by
  have helapse : Advances start s.driver [] (s.elapse moments).driver := elapse_advances s
  unfold acquireRounds
  rcases @waitForFrame_cases count moments s with hwait | ⟨hwait, hempty⟩ | ⟨hwait, hready⟩
  · rw [hwait]
    exact .inr (.inl ⟨_, _, rfl, .inl rfl⟩)
  · rw [hwait]
    exact .inl ⟨_, rfl, hempty, helapse⟩
  · rw [hwait]
    dsimp only
    rcases hdequeue : dequeueBuffer moments (s.elapse moments) with ⟨e | c, s'⟩
    · obtain ⟨-, rfl | ⟨-, hempty⟩⟩ := dequeueBuffer_error hdequeue
      · exact .inr (.inl ⟨_, _, rfl, .inr rfl⟩)
      · -- a completed buffer stays until it is taken
        obtain ⟨-, joined, -, hjoined⟩ :=
          @elapse_advances count moments 0 (s.elapse moments) (Nat.zero_le _)
        rw [hempty, List.append_nil, List.append_eq_nil_iff] at hjoined
        exact absurd hjoined.1 hready
    · obtain ⟨htaken, hheld⟩ := dequeueBuffer_ok hdequeue
      exact .inr (.inr ⟨c, s', rfl, helapse.trans htaken, index_lt hheld⟩)

/-- Without a buffer nothing is used. -/
theorem acquireFrame_error {capture : V4L2Capture} {rounds : List AcquireRound} {e : Errno}
    (h : acquireLoop rounds = .error e) (qbuf : Bool) :
    v4l2CaptureAcquireFrame capture rounds qbuf = (.error e, []) ∨
      v4l2CaptureAcquireFrame capture rounds qbuf = (.error .einval, []) := by
  unfold v4l2CaptureAcquireFrame
  split
  · exact .inr rfl
  · rw [h]
    exact .inl rfl

/-- What becomes of a buffer that was taken: it is queued again, unless the drain fails. -/
theorem acquireFrame_taken {capture : V4L2Capture} {b : V4L2Buffer} (hindex : b.index < capture.bufferCount)
    (qbuf : Bool) {buffers : List BufferUse} {acquired : Except Errno V4L2Frame}
    (h : v4l2CaptureAcquireFrame capture [.dequeued b] qbuf = (acquired, buffers)) :
    (∃ e, acquired = .error e ∧ e ≠ .eagain ∧ e ≠ .etimedout) ∨
    ∃ frame, acquired = .ok frame ∧ buffers = [.dequeued b.index] ∧
      v4l2CaptureReleaseFrame capture frame qbuf =
        if qbuf then (true, [.queued b.index]) else (false, [.refused b.index]) := by
  unfold v4l2CaptureAcquireFrame at h
  split at h
  · exact .inl ⟨_, (congrArg Prod.fst h).symm, by decide, by decide⟩
  · rename_i hopen
    have hfd : 0 ≤ capture.fd := by
      by_contra hneg
      exact hopen (.inl (by omega))
    dsimp only [acquireLoop] at h
    rw [if_neg (by omega)] at h
    split at h
    · exact .inl ⟨_, (congrArg Prod.fst h).symm, by decide, by decide⟩
    · obtain ⟨rfl, rfl⟩ := Prod.mk.inj h
      exact .inr ⟨_, rfl, rfl, release_cases hfd rfl hindex qbuf⟩

/-! ## The whole drain -/

/-- A buffer that is taken and queued again. -/
def backAgain (c : Completion) : List BufferUse := [.dequeued c.buffer.index, .queued c.buffer.index]

/-- **A drain that succeeds** took the oldest buffers and queued them again, until nothing was completed or all rounds
were used. -/
theorem drainDevice_takes (moments : Nat → Moment) (capture : V4L2Capture) (start : Nat) :
    ∀ (n : Nat) (s : Device capture.bufferCount), (drainDevice moments capture n s).1 = true →
      ∃ taken, (drainDevice moments capture n s).2.1 = taken.flatMap backAgain ∧
        Advances start s.driver taken (drainDevice moments capture n s).2.2.driver ∧
        (taken.length = n ∨ (drainDevice moments capture n s).2.2.driver.completed = [])
  | 0, s, _ => ⟨[], rfl, fun hd => ⟨hd, .refl _⟩, .inl rfl⟩
  | n + 1, s, hok => by
    unfold drainDevice drainRound at hok ⊢
    rcases acquireRounds_cases moments start s with ⟨s', hrounds, hempty, hadvance⟩ | ⟨round, s', hrounds, hround⟩ |
      ⟨c, s', hrounds, hadvance, hindex⟩
    · rw [hrounds] at hok ⊢
      dsimp only at hok ⊢
      have htimedOut : acquireLoop [.selectFailed .etimedout] = .error .etimedout := rfl
      rcases @acquireFrame_error capture _ _ htimedOut true with h | h
      · rw [h]
        exact ⟨[], rfl, hadvance, .inr hempty⟩
      · rw [h] at hok
        cases hok
    · rw [hrounds] at hok
      dsimp only at hok
      have hfailed : acquireLoop [round] = .error .other := by rcases hround with rfl | rfl <;> rfl
      rcases @acquireFrame_error capture _ _ hfailed true with h | h
      · rw [h] at hok
        cases hok
      · rw [h] at hok
        cases hok
    · rw [hrounds] at hok ⊢
      dsimp only at hok ⊢
      have hback := @queueBuffer_advances capture.bufferCount moments start s' c.buffer.index
      generalize queueBuffer moments s' c.buffer.index = back at hok hback ⊢
      obtain ⟨queued, s''⟩ := back
      dsimp only at hok ⊢ hback
      rcases hframe : v4l2CaptureAcquireFrame capture [.dequeued c.buffer] queued with ⟨acquired, buffers⟩
      rw [hframe] at hok
      rcases acquireFrame_taken hindex queued hframe with ⟨e, rfl, hagain, htimedOut⟩ | ⟨frame, rfl, rfl, hrelease⟩
      · simp [hagain, htimedOut] at hok
      · dsimp only at hok ⊢
        rw [hrelease] at hok ⊢
        cases queued with
        | false => cases hok
        | true =>
          obtain ⟨taken, huses, hrest, hend⟩ := drainDevice_takes moments capture start n s'' hok
          have hone : Advances start s.driver ([c] ++ [] ++ taken) _ := (hadvance.trans hback).trans hrest
          refine ⟨c :: taken, ?_, hone, hend.imp (fun hlen => ?_) id⟩
          · exact congrArg (backAgain c ++ ·) huses
          · rw [List.length_cons, hlen]

/-- The completed buffers are at most all buffers. -/
theorem completed_length_le {count : Nat} (d : Driver count) : d.completed.length ≤ count := by
  have hall := d.partition.length_eq
  simp only [List.length_append, List.length_map, List.length_range] at hall
  omega

/-- What the drain took from the driver. -/
def BufferUse.isDequeue : BufferUse → Bool
  | .dequeued _ => true
  | _ => false

theorem release_dequeues (capture : V4L2Capture) (frame : V4L2Frame) (qbuf : Bool) :
    (v4l2CaptureReleaseFrame capture frame qbuf).2.countP BufferUse.isDequeue = 0 := by
  unfold v4l2CaptureReleaseFrame
  repeat' split
  all_goals rfl

theorem acquire_dequeues (capture : V4L2Capture) (rounds : List AcquireRound) (qbuf : Bool) :
    (v4l2CaptureAcquireFrame capture rounds qbuf).2.countP BufferUse.isDequeue ≤ 1 := by
  unfold v4l2CaptureAcquireFrame
  split
  · exact Nat.zero_le 1
  · split
    · exact Nat.zero_le 1
    · split
      · exact Nat.le_refl 1
      · dsimp only
        split
        · rw [List.countP_cons, release_dequeues]
          exact Nat.le_refl 1
        · exact Nat.le_refl 1

/-- **The drain ends** after at most as many buffers as it has rounds, whatever the driver answers. -/
theorem drain_dequeues (answers : Nat → DrainRound) (capture : V4L2Capture) (n i : Nat) :
    (drainStaleCaptureBuffers answers capture n i).2.countP BufferUse.isDequeue ≤ n := by
  induction n generalizing i with
  | zero => exact Nat.le_refl 0
  | succ n ih =>
    have hone := acquire_dequeues capture (answers i).rounds (answers i).requeue
    unfold drainStaleCaptureBuffers
    generalize v4l2CaptureAcquireFrame capture (answers i).rounds (answers i).requeue = acquired at hone ⊢
    obtain ⟨e | frame, buffers⟩ := acquired
    · exact hone.trans (Nat.succ_le_succ (Nat.zero_le n))
    · have hnone := release_dequeues capture frame (answers i).release
      dsimp only at hone ⊢
      split
      · rw [List.countP_append, hnone]
        omega
      · rw [List.countP_append, List.countP_append, hnone]
        have hrest := ih (i + 1)
        omega

/-- An acquired frame lies in the buffer that was taken, and that buffer is the oldest completed one. -/
theorem acquired_frame {capture : V4L2Capture} {moments : Nat → Moment} {start : Nat}
    {s : Device capture.bufferCount} (hstart : start ≤ s.driver.completions)
    (hfresh : ∀ c ∈ s.driver.completed, start ≤ c.serial) {qbuf : Bool} {frame : V4L2Frame}
    (h : (v4l2CaptureAcquireFrame capture (acquireRounds moments s).1 qbuf).1 = .ok frame) :
    ∃ c, (acquireRounds moments s).2.1 = some c ∧ frame.index = c.buffer.index ∧ frame.sequence = c.buffer.sequence ∧
      start ≤ c.serial := by
  rcases acquireRounds_cases moments start s with ⟨s', hrounds, -, -⟩ | ⟨round, s', hrounds, hround⟩ |
    ⟨c, s', hrounds, hadvance, -⟩
  · rw [hrounds] at h
    rcases @acquireFrame_error capture [.selectFailed .etimedout] .etimedout rfl qbuf with herror | herror
    all_goals
      rw [herror] at h
      cases h
  · rw [hrounds] at h
    have hfailed : acquireLoop [round] = .error .other := by rcases hround with rfl | rfl <;> rfl
    rcases @acquireFrame_error capture _ _ hfailed qbuf with herror | herror
    all_goals
      rw [herror] at h
      cases h
  · have htaken := ((hadvance hstart).2.forall_mem hfresh).1 c (by simp)
    rw [hrounds] at h ⊢
    refine ⟨c, rfl, ?_, ?_, htaken⟩
    all_goals
      unfold v4l2CaptureAcquireFrame at h
      dsimp only [acquireLoop] at h
      repeat' split at h
      all_goals cases h
      rfl

/-- **Draining removes every stale picture.** The driver completes buffers at any moment, and calls may fail; whenever
the drain succeeds, the buffers completed before it began have been taken and queued again, oldest first, and whatever
calls follow, a frame acquired behind them was completed after the drain began. The drain takes at most as many buffers
as there are. -/
theorem drain_removes_stale (moments : Nat → Moment) (capture : V4L2Capture) (s : Device capture.bufferCount) :
    let drained := drainDevice moments capture capture.bufferCount s
    drainStaleCaptureBuffers (drainAnswers moments s) capture capture.bufferCount 0 = (drained.1, drained.2.1) ∧
    drained.2.1.countP BufferUse.isDequeue ≤ capture.bufferCount ∧
    (drained.1 = true →
      (∃ rest, drained.2.1 = s.driver.completed.flatMap backAgain ++ rest) ∧
      ∀ calls qbuf frame,
        let later := run (deviceStep moments) drained.2.2 calls
        (∀ c ∈ later.events, s.driver.completions ≤ c.serial) ∧
        ((v4l2CaptureAcquireFrame capture (acquireRounds moments later.state).1 qbuf).1 = .ok frame →
          ∃ c, (acquireRounds moments later.state).2.1 = some c ∧ frame.index = c.buffer.index ∧
            frame.sequence = c.buffer.sequence ∧ s.driver.completions ≤ c.serial)) := by
  intro drained
  have heq : drainStaleCaptureBuffers (drainAnswers moments s) capture capture.bufferCount 0 =
      (drained.1, drained.2.1) := drainDevice_eq moments capture s capture.bufferCount 0
  refine ⟨heq, ?_, fun hok => ?_⟩
  · have hcount := drain_dequeues (drainAnswers moments s) capture capture.bufferCount 0
    rwa [heq] at hcount
  · obtain ⟨taken, huses, hadvance, hend⟩ :=
      drainDevice_takes moments capture s.driver.completions capture.bufferCount s hok
    obtain ⟨hstart, hflows⟩ := hadvance le_rfl
    have hall : s.driver.completed.length ≤ taken.length ∨ drained.2.2.driver.completed = [] :=
      hend.imp_left fun hlen => (completed_length_le s.driver).trans (Nat.le_of_eq hlen.symm)
    obtain ⟨⟨rest, rfl⟩, hfresh⟩ := hflows.drained hall
    constructor
    · exact ⟨rest.flatMap backAgain, by rw [← List.flatMap_append]; exact huses⟩
    · intro calls qbuf frame later
      obtain ⟨hlater, hcalls⟩ :=
        @calls_advance capture.bufferCount moments s.driver.completions drained.2.2 calls hstart
      obtain ⟨htaken, hqueue⟩ := hcalls.forall_mem hfresh
      exact ⟨htaken, acquired_frame hlater hqueue⟩

/-- A camera that streams with two buffers. -/
def twoBuffers : V4L2Capture :=
  { V4L2Capture.zero with fd := 3, streaming := true, buffers := [⟨true, 6⟩, ⟨true, 6⟩] }

/-- Its driver, which has completed both. -/
def twoStale : Device twoBuffers.bufferCount :=
  ⟨⟨[], [⟨⟨0, 6, 0, 7, 0⟩, 0⟩, ⟨⟨1, 6, 0, 8, 0⟩, 1⟩], [], 2, by decide, by decide⟩, 0⟩

/-- The first buffer is completed as soon as it is queued. -/
def refillsFirst (_ : Nat) : Moment := ⟨[⟨0, 6, 0, 9, 0⟩], false⟩

/-- Of the two stale buffers the first is completed again during the drain; the two stale pictures are gone, and what is
taken behind the drain is the new one. -/
theorem drain_removes_stale_two :
    (drainDevice refillsFirst twoBuffers twoBuffers.bufferCount twoStale).1 = true ∧
    (drainDevice refillsFirst twoBuffers twoBuffers.bufferCount twoStale).2.1 =
      [.dequeued 0, .queued 0, .dequeued 1, .queued 1] ∧
    (run (deviceStep refillsFirst) (drainDevice refillsFirst twoBuffers twoBuffers.bufferCount twoStale).2.2
      [.wait, .dequeue]).events.map (·.buffer.sequence) = [9] ∧
    ∀ c ∈ (run (deviceStep refillsFirst) (drainDevice refillsFirst twoBuffers twoBuffers.bufferCount twoStale).2.2
      [.wait, .dequeue]).events, 2 ≤ c.serial := by
  have hdrained : (drainDevice refillsFirst twoBuffers twoBuffers.bufferCount twoStale).1 = true := by decide
  exact ⟨hdrained, by decide, by decide,
    (((drain_removes_stale refillsFirst twoBuffers twoStale).2.2 hdrained).2 [.wait, .dequeue] true
      ⟨0, 0, 0, 0, 0, false⟩).1⟩

end MiniRtsp.Rtsp
