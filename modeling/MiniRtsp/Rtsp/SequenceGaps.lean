import MiniRtsp.Lib.Skipping
import MiniRtsp.Rtsp.RecordedCount

/-!
# The reported gaps

The thread compares the sequence number of every captured frame with the one it expects (`Thread.account`), and adds
what lies between when the number is ahead. Where frames are lost while the 32-bit number wraps it lies behind, and
these frames are not counted; so the reported number of gaps is right exactly when no frames are missing there, modulo
`2 ^ 32` (`gaps_reported`).
-/

namespace MiniRtsp.Rtsp

open Trace

/-! ## What is counted -/

/-- The sequence numbers of the frames that `capture_and_encode` returned. -/
def sequences (events : List ThreadEvent) : List UInt32 :=
  events.filterMap fun | .returned unit => some unit.sequence | _ => none

@[simp] theorem sequences_append (es fs : List ThreadEvent) : sequences (es ++ fs) = sequences es ++ sequences fs := by
  simp [sequences]

/-- The locals of the thread that count gaps. -/
structure GapCounter where
  sequenceGapCount : UInt32
  lastCaptureSequence : UInt32
  sequenceInitialized : Bool

def Thread.gapCounter (t : Thread) : GapCounter :=
  ⟨t.sequenceGapCount, t.lastCaptureSequence, t.sequenceInitialized⟩

/-- What `Thread.account` does to them. -/
def GapCounter.account (c : GapCounter) (captureSequence : UInt32) : GapCounter where
  sequenceGapCount :=
    if c.sequenceInitialized ∧ captureSequence > c.lastCaptureSequence + 1 then
      c.sequenceGapCount + (captureSequence - (c.lastCaptureSequence + 1))
    else c.sequenceGapCount
  lastCaptureSequence := captureSequence
  sequenceInitialized := true

/-- A thread that has captured nothing. -/
def GapCounter.start : GapCounter := ⟨0, 0, false⟩

theorem Thread.account_gapCounter (t : Thread) (captureSequence : UInt32) :
    (t.account captureSequence).gapCounter = t.gapCounter.account captureSequence := by
  unfold Thread.account GapCounter.account Thread.gapCounter
  dsimp only
  cases hinit : t.sequenceInitialized with
  | false => simp
  | true =>
    have hahead : (captureSequence ≠ t.lastCaptureSequence + 1 ∧ captureSequence > t.lastCaptureSequence + 1) ↔
        captureSequence > t.lastCaptureSequence + 1 :=
      and_iff_right_of_imp fun h => (UInt32.ne_of_lt h).symm
    simp only [Bool.not_true, Bool.false_eq_true, if_false, true_and, hahead]
    split <;> simp

/-! ## The counters in the phases of the thread -/

/-- The sequence numbers in `events` were taken in, in order. -/
def Accounts (t t' : Thread) (events : List ThreadEvent) : Prop :=
  t'.gapCounter = (sequences events).foldl GapCounter.account t.gapCounter

/-- Nothing was captured, and the counters are the same. -/
theorem accounts_same {t t' : Thread} {events : List ThreadEvent} (hsame : t'.gapCounter = t.gapCounter)
    (hnone : sequences events = []) : Accounts t t' events := by
  rw [Accounts, hnone, hsame]
  rfl

theorem sequences_uses (uses : List (Ledger.Use Resource)) : sequences (uses.map .use) = [] :=
  filterMap_unseen (fun _ => rfl) uses

theorem sequences_sent (ds : List Rtp.Datagram) : sequences (ds.map .sent) = [] := filterMap_unseen (fun _ => rfl) ds

theorem afterSend_accounts (t : Thread) (complete : Bool) :
    Accounts t (t.afterSend complete).1 (t.afterSend complete).2 := by
  cases complete with
  | false => exact accounts_same rfl rfl
  | true => exact accounts_same rfl rfl

theorem beginSend_accounts (media : RTSPMedia) (t : Thread) (u : Bytes) (prepend : Bool) :
    Accounts t (beginSend media t u prepend).1 (beginSend media t u prepend).2 := by
  unfold beginSend
  dsimp only
  split
  · exact afterSend_accounts t _
  · exact accounts_same rfl rfl

theorem deliver_accounts (answers : ThreadAnswers) (media : RTSPMedia) (t : Thread) (u : Bytes) :
    Accounts t (deliver answers media t u).1 (deliver answers media t u).2 := by
  unfold deliver
  dsimp only
  split
  · exact accounts_same rfl rfl
  · split
    · split
      · exact accounts_same rfl rfl
      · split
        · exact accounts_same rfl rfl
        · exact beginSend_accounts media _ u _
    · exact beginSend_accounts media _ u _

/-- **A captured frame** is accounted for. -/
theorem captureStep_accounts (answers : ThreadAnswers) (live : Live) :
    Accounts live.thread (captureStep answers live).1.thread (captureStep answers live).2 := by
  unfold captureStep
  dsimp only
  cases (captureAndEncode answers.capture live.media).unit with
  | none => exact accounts_same rfl (sequences_uses _)
  | some unit =>
    have hdeliver := deliver_accounts answers (captureAndEncode answers.capture live.media).media
      (live.thread.account unit.sequence) unit.data
    rw [Accounts, Thread.account_gapCounter] at hdeliver
    rw [Accounts, sequences_append, sequences_uses, List.nil_append]
    exact hdeliver

theorem sendStep_accounts (answers : ThreadAnswers) (live : Live) (packet : Bytes) (rest : List Bytes)
    (complete : Bool) :
    Accounts live.thread (sendStep answers live packet rest complete).1.thread
      (sendStep answers live packet rest complete).2 := by
  unfold sendStep
  dsimp only
  split
  · exact accounts_same rfl (sequences_sent _)
  · split
    · have hafter := afterSend_accounts { live.thread with seq := live.thread.seq + 1 } complete
      rw [Accounts, sequences_append, sequences_sent, List.nil_append]
      exact hafter
    · exact accounts_same rfl (sequences_sent _)

/-- **A turn** takes in the sequence number of the frame that it captures. -/
theorem turnStep_accounts (turn : Turn) (live : Live) :
    Accounts live.thread (turnStep turn live).1.thread (turnStep turn live).2 := by
  cases turn with
  | server stopRequested session => exact accounts_same rfl rfl
  | thread answers =>
    simp only [turnStep, threadStep]
    cases live.thread.pc with
    | initSender => exact accounts_same rfl (sequences_uses _)
    | capture => exact captureStep_accounts answers live
    | sending packets complete =>
      cases packets with
      | nil => exact afterSend_accounts live.thread complete
      | cons packet rest => exact sendStep_accounts answers live packet rest complete
    | closeSender => exact accounts_same rfl (sequences_uses _)
    | _ => exact accounts_same rfl rfl

/-- **Over a run** the counters come from the sequence numbers alone. -/
theorem run_accounts (media : RTSPMedia) (session : RTSPSession) (turns : List Turn) :
    let h := run turnStep ⟨media, session, .start⟩ turns
    h.state.thread.gapCounter = (sequences h.events).foldl GapCounter.account .start := by
  intro h
  apply run_induction turnStep (P := fun h =>
    h.state.thread.gapCounter = (sequences h.events).foldl GapCounter.account .start) rfl
  intro past turn _ ih
  have hturn := turnStep_accounts turn (run turnStep ⟨media, session, .start⟩ past).state
  rw [Accounts, ih, ← List.foldl_append, ← sequences_append] at hturn
  exact hturn

/-! ## Lost frames -/

open Skipping in
/-- The next number of the camera adds the frames lost before it, unless the number wraps among them. -/
theorem account_value {first : UInt32} {d : Nat → Nat} {k : Nat} (hd : d k < 2 ^ 32) (gaps : UInt32) :
    GapCounter.account ⟨gaps, value first d k, true⟩ (value first d (k + 1)) =
      ⟨gaps + UInt32.ofNat (if Wraps first d k then 0 else d k), value first d (k + 1), true⟩ := by
  unfold GapCounter.account
  by_cases hwraps : Wraps first d k
  · have hbehind : ¬value first d (k + 1) > value first d k + 1 := UInt32.lt_asymm (value_succ_lt hd hwraps)
    simp [hwraps, hbehind]
  · by_cases hlost : 0 < d k
    · have hahead : value first d (k + 1) > value first d k + 1 := (value_succ_gt hd hwraps).mpr hlost
      simp [hwraps, hahead, value_succ_sub]
    · have hnext : ¬value first d (k + 1) > value first d k + 1 := (value_succ_gt hd hwraps).not.mpr hlost
      simp [hwraps, hnext, Nat.eq_zero_of_not_pos hlost]

open Skipping in
/-- **The frames counted** are those lost where the number did not wrap. -/
theorem foldl_account {first : UInt32} {d : Nat → Nat} (hd : ∀ k, d k < 2 ^ 32) (n : Nat) :
    ((List.range (n + 1)).map (value first d)).foldl GapCounter.account .start =
      ⟨UInt32.ofNat (skippedAhead first d n), value first d n, true⟩ := by
  induction n with
  | zero => rfl
  | succ n ih =>
    rw [List.range_succ, List.map_append, List.foldl_append, ih, skippedAhead_succ, UInt32.ofNat_add]
    exact account_value (hd n) _

/-- The thread reports once, when it ends. -/
theorem run_reported (media : RTSPMedia) (session : RTSPSession) (turns : List Turn) :
    Reported (run turnStep ⟨media, session, .start⟩ turns) := by
  rcases run_reporting media session turns with ⟨-, h⟩ | ⟨-, h⟩
  · exact h.reported
  · exact h.reported

/-- **The gaps reported.** In a run in which the camera's number `k + 1` follows number `k` with `d k` frames lost in
between, whatever the first number is, the thread has counted the frames lost, modulo `2 ^ 32`, exactly when those
lost where the number wraps add up to zero. A thread that ends reports that count. -/
theorem gaps_reported (media : RTSPMedia) (session : RTSPSession) (turns : List Turn) (first : UInt32) {d : Nat → Nat}
    (hd : ∀ k, d k < 2 ^ 31) :
    let h := run turnStep ⟨media, session, .start⟩ turns
    let captured := (sequences h.events).length
    sequences h.events = (List.range captured).map (Skipping.value first d) →
      (h.state.thread.sequenceGapCount.toNat = Skipping.skipped d (captured - 1) % 2 ^ 32 ↔
        Skipping.skippedWrapping first d (captured - 1) % 2 ^ 32 = 0) ∧
      (h.state.thread.pc = .exited → ∃ frames recorded,
        summaries h.events = [(frames, recorded, h.state.thread.sequenceGapCount)]) := by
  intro h captured hnumbers
  have hd' : ∀ k, d k < 2 ^ 32 := fun k => Nat.lt_trans (hd k) (by decide)
  have hcounter : h.state.thread.gapCounter = _ := run_accounts media session turns
  have hgaps : h.state.thread.sequenceGapCount.toNat =
      Skipping.skippedAhead first d (captured - 1) % 2 ^ 32 := by
    rw [hnumbers] at hcounter
    cases hcaptured : captured with
    | zero =>
      rw [hcaptured] at hcounter
      exact congrArg (·.sequenceGapCount.toNat) hcounter
    | succ n =>
      rw [hcaptured, foldl_account hd'] at hcounter
      exact congrArg (·.sequenceGapCount.toNat) hcounter
  have hall := Skipping.skipped_eq first d (captured - 1)
  refine ⟨by omega, fun hexited => ?_⟩
  have hreported : summaries h.events = _ := run_reported media session turns
  rw [if_pos hexited] at hreported
  exact ⟨_, _, hreported⟩

/-- Everything succeeds, the camera's number is `captureSequence`, and the encoder returns an IDR slice. -/
def captures (captureSequence : UInt32) : ThreadAnswers :=
  let answers := encodes [0, 0, 0, 1, 0x65, 0x88]
  { answers with capture := { answers.capture with rounds := [.dequeued ⟨0, expectedSize, 0, captureSequence, 0⟩] } }

/-- Two frames are captured and sent, then the thread is asked to stop. -/
def twoFrames (first second : UInt32) : List Turn :=
  List.replicate 9 (.thread (captures first)) ++ List.replicate 2 (.thread (captures second)) ++
    List.replicate 5 (.thread { captures second with externalStop := true })

/-- Between 5 and 8 two frames are lost, and reported. -/
theorem gaps_reported_two :
    let h := run turnStep ⟨servingMedia, playSession, .start⟩ (twoFrames 5 8)
    sequences h.events = [5, 8] ∧ h.state.thread.sequenceGapCount.toNat = 2 ∧
      ∃ frames recorded, summaries h.events = [(frames, recorded, h.state.thread.sequenceGapCount)] := by
  intro h
  have hnumbers : sequences h.events = [5, 8] := by decide +kernel
  have hexited : h.state.thread.pc = .exited := by decide +kernel
  obtain ⟨hexact, hreport⟩ := gaps_reported servingMedia playSession (twoFrames 5 8) 5
    (d := fun k => if k = 0 then 2 else 0) (fun k => by split <;> omega) (by decide +kernel)
  refine ⟨hnumbers, ?_, hreport hexited⟩
  have hlost := hexact.mpr (by decide +kernel)
  exact hlost.trans (by decide +kernel)

/-- Between `0xfffffffe` and 1 two frames are lost as well, and no gap is reported. -/
theorem gaps_unreported :
    let h := run turnStep ⟨servingMedia, playSession, .start⟩ (twoFrames 0xfffffffe 1)
    sequences h.events = [0xfffffffe, 1] ∧
      sequences h.events = (List.range 2).map (Skipping.value 0xfffffffe fun _ => 2) ∧
      h.state.thread.pc = .exited ∧ summaries h.events = [(2, 0, 0)] ∧
      (0 : UInt32).toNat ≠ Skipping.skipped (fun _ => 2) 1 % 2 ^ 32 := by
  decide +kernel

end MiniRtsp.Rtsp
