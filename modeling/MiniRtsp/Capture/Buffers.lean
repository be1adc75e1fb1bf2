import MiniRtsp.Capture.V4L2Capture

/-!
# The camera's buffers

A buffer that the driver hands over with `VIDIOC_DQBUF` belongs to the program until `VIDIOC_QBUF`. A call that acquires
a frame gives it back before it returns, so the uses of the buffers are brackets (`acquire_acquired`,
`release_bracketed`); a frame that is delivered lies inside the mapping of its buffer.
-/

namespace MiniRtsp.Capture

open Ledger Wire

/-! ## Acquired and given back -/

/-- A buffer with a valid index is taken with its `VIDIOC_DQBUF` and given back with a `VIDIOC_QBUF`, unless the driver
refuses that. -/
def BufferUse.use? (count : Nat) : BufferUse → Option (Use Nat)
  | .dequeued index => if index < count then some (.acquire index) else none
  | .queued index | .refused index => some (.release index)

def bufferUses (count : Nat) (buffers : List BufferUse) : List (Use Nat) := buffers.filterMap (BufferUse.use? count)

@[simp] theorem bufferUses_append (count : Nat) (us vs : List BufferUse) :
    bufferUses count (us ++ vs) = bufferUses count us ++ bufferUses count vs := by
  simp [bufferUses]

/-- A frame of a valid buffer, inside its mapping. -/
structure V4L2Frame.Delivered (cap : V4L2Capture) (frame : V4L2Frame) : Prop where
  opened : 0 ≤ cap.fd
  valid : frame.valid = true
  index : frame.index < cap.bufferCount
  inside : frame.data + frame.size ≤ (cap.buffers.getD frame.index ⟨false, 0⟩).length

/-- **What `v4l2_capture_acquire_frame` leaves.** -/
inductive Acquired (cap : V4L2Capture) : Except Errno V4L2Frame × List BufferUse → Prop where
  /-- A buffer that was dequeued has been given back. -/
  | failed (e : Errno) {buffers : List BufferUse} (back : Bracketed (bufferUses cap.bufferCount buffers)) :
      Acquired cap (.error e, buffers)
  | frame {frame : V4L2Frame} (delivered : frame.Delivered cap) : Acquired cap (.ok frame, [.dequeued frame.index])

/-- A valid frame is given back, or the driver refuses it. -/
theorem release_cases {cap : V4L2Capture} {frame : V4L2Frame} (hopen : 0 ≤ cap.fd) (hvalid : frame.valid = true)
    (hindex : frame.index < cap.bufferCount) (qbuf : Bool) :
    v4l2CaptureReleaseFrame cap frame qbuf =
      if qbuf then (true, [.queued frame.index]) else (false, [.refused frame.index]) := by
  unfold v4l2CaptureReleaseFrame
  rw [if_neg (by simp [hvalid]; omega), if_neg (by omega)]

/-- **Taken and given back.** -/
theorem release_bracketed {cap : V4L2Capture} {frame : V4L2Frame} (hopen : 0 ≤ cap.fd) (hvalid : frame.valid = true)
    (hindex : frame.index < cap.bufferCount) (qbuf : Bool) :
    Bracketed (bufferUses cap.bufferCount (.dequeued frame.index :: (v4l2CaptureReleaseFrame cap frame qbuf).2)) := by
  rw [release_cases hopen hvalid hindex]
  cases qbuf <;> simpa [bufferUses, BufferUse.use?, hindex] using bracketed_single frame.index

theorem acquire_acquired (cap : V4L2Capture) (rounds : List AcquireRound) (qbuf : Bool) :
    Acquired cap (v4l2CaptureAcquireFrame cap rounds qbuf) := by
  unfold v4l2CaptureAcquireFrame
  split
  · exact .failed _ .nil
  · rename_i hopen
    split
    · exact .failed _ .nil
    · rename_i buffer _
      split
      · rename_i hindex
        refine .failed _ ?_
        have hforeign : ¬buffer.index < cap.bufferCount := by omega
        simpa [bufferUses, BufferUse.use?, hforeign] using Bracketed.nil
      · rename_i hindex
        have hfd : 0 ≤ cap.fd := by
          by_contra hneg
          exact hopen (.inl (by omega))
        dsimp only
        split
        · -- a frame with invalid metadata is given back here
          exact .failed _ (@release_bracketed cap ⟨0, 0, buffer.index, 0, 0, true⟩ hfd rfl (by dsimp only; omega) qbuf)
        · exact .frame ⟨hfd, rfl, by dsimp only; omega, by dsimp only; omega⟩

/-- **A frame and its release.** -/
theorem V4L2Frame.Delivered.bracketed {cap : V4L2Capture} {frame : V4L2Frame} (h : frame.Delivered cap) (qbuf : Bool) :
    Bracketed (bufferUses cap.bufferCount ([.dequeued frame.index] ++ (v4l2CaptureReleaseFrame cap frame qbuf).2)) :=
  release_bracketed h.opened h.valid h.index qbuf

/-! ## The legacy call -/

/-- What the system answers to `v4l2_capture_get_frame`; `mapping` are the bytes of the mapped buffers. -/
structure GetFrameAnswers where
  rounds : List AcquireRound
  requeue : Bool
  mapping : Nat → Nat → UInt8
  realloc : Bool
  release : Bool

/-- What `v4l2_capture_get_frame` leaves: `*data` and `*size` where they are written, and `cap->legacy_copy`. -/
structure GetFrameResult where
  ret : Int
  out : Option (Bytes × Int)
  legacyCopy : Bytes
  buffers : List BufferUse

/-- `v4l2_capture_get_frame`; `legacyCopy` has `cap->legacy_copy_capacity` bytes. -/
def v4l2CaptureGetFrame (answers : GetFrameAnswers) (cap : V4L2Capture) (legacyCopy : Bytes) : GetFrameResult :=
  let (acquired, buffers) := v4l2CaptureAcquireFrame cap answers.rounds answers.requeue
  match acquired with
  | .error _ => ⟨-1, none, legacyCopy, buffers⟩
  | .ok frame =>
    let (released, back) := v4l2CaptureReleaseFrame cap frame answers.release
    if frame.size > legacyCopy.length ∧ !answers.realloc then ⟨-1, none, legacyCopy, buffers ++ back⟩
    else
      let copied := (List.range frame.size).map fun i => answers.mapping frame.index (frame.data + i)
      -- `realloc` makes the block as large as the frame
      let legacyCopy := copied ++ legacyCopy.drop frame.size
      if !released then ⟨-1, none, legacyCopy, buffers ++ back⟩
      else ⟨0, some (copied, asInt (.ofNat frame.size)), legacyCopy, buffers ++ back⟩

/-- **`v4l2_capture_get_frame`** gives back what it takes. -/
theorem getFrame_bracketed (answers : GetFrameAnswers) (cap : V4L2Capture) (legacyCopy : Bytes) :
    Bracketed (bufferUses cap.bufferCount (v4l2CaptureGetFrame answers cap legacyCopy).buffers) := by
  have hacquired := acquire_acquired cap answers.rounds answers.requeue
  unfold v4l2CaptureGetFrame
  generalize v4l2CaptureAcquireFrame cap answers.rounds answers.requeue = acquired at hacquired
  cases hacquired with
  | failed e back => exact back
  | @frame frame delivered =>
    have hback := delivered.bracketed answers.release
    dsimp only
    split
    · exact hback
    · split <;> exact hback

end MiniRtsp.Capture
