import MiniRtsp.Rtsp.Numbering
import MiniRtsp.Rtsp.ControlFrame

/-!
# An accepted PLAY and its media thread

`rtsp_media_start` returns 0 without creating a thread when `thread_running` is set; the media thread never clears that
flag, only the join in `rtsp_media_stop` does. So a PLAY that comes between the end of the thread and that join is
accepted and streams nothing; all others really stream (`media_start_iff`).
-/

namespace MiniRtsp.Rtsp

open Ledger Rtp Text Trace

/-- An accepted PLAY has a media thread: this very call of `rtsp_media_start` created it, or the one created earlier had
not returned when the call examined the state. -/
def ReallyStreams (before : List ServerEvent) (e : ServerEvent) : Prop :=
  ∀ clientIp clientRtpPort, e = .playAccepted clientIp clientRtpPort →
    before.getLast? = some .created ∨ before.getLast? = some .alreadyRunning ∧ threadOf before = .live

/-- No `rtsp_media_start` takes the lock between the end of a media thread and its join. -/
def FindsNoDeadThread (before : List ServerEvent) (e : ServerEvent) : Prop := e = .examined → threadOf before ≠ .dead

section Step

variable {h : History Server ServerEvent}

/-- The two laws are about `rtsp_media_start` only. -/
theorem start_laws_elsewhere {es : List ServerEvent} (past : List ServerEvent)
    (hes : ∀ e ∈ es, e ≠ .examined ∧ ∀ clientIp clientRtpPort, e ≠ .playAccepted clientIp clientRtpPort) :
    Monitored (fun before => ReallyStreams (past ++ before)) es ↔
      Monitored (fun before => FindsNoDeadThread (past ++ before)) es :=
  iff_of_true (monitored_of_forall fun e he _ ip port heq => absurd heq ((hes e he).2 ip port))
    (monitored_of_forall fun e he _ heq => absurd heq (hes e he).1)

theorem startCheck_iff (hi : Inv False False h) (hpc : h.state.pc = .startCheck) :
    Monitored (fun before => ReallyStreams (h.events ++ before)) (startCheck h.state).2 ↔
      Monitored (fun before => FindsNoDeadThread (h.events ++ before)) (startCheck h.state).2 := by
  have hflags : h.state.media.threadRunning = h.state.thread.isSome := by
    have hzone := hi.flags
    rw [hpc] at hzone
    exact hzone
  have hstatus := hi.status
  unfold startCheck
  split
  · exact iff_of_true monitored_nil monitored_nil
  · split
    · rename_i hrunning
      -- there is a thread, dead or alive
      obtain ⟨t, ht⟩ := Option.isSome_iff_exists.mp (hflags.symm.trans hrunning)
      have hlive : threadOf h.events = .live ↔ threadOf h.events ≠ .dead := by
        rw [hstatus]
        simp only [Server.threadStatus, ht]
        split <;> decide
      have hbehind : ∀ es, (∀ e ∈ es, e = .examined ∨ e = .alreadyRunning) →
          threadOf (h.events ++ es) = threadOf h.events :=
        fun es hes => (observe_hidden (fun e he => by rcases hes e he with rfl | rfl <;> rfl) h.events).2
      simp only [monitored_cons, ReallyStreams, FindsNoDeadThread, monitored_nil, reduceCtorEq, false_implies,
        implies_true, true_and, and_true, forall_const, ServerEvent.playAccepted.injEq, List.append_nil]
      constructor
      · intro hreal
        rcases hreal _ _ ⟨rfl, rfl⟩ with hcreated | ⟨-, hthread⟩
        · simp at hcreated
        · rw [hbehind _ (by simp)] at hthread
          exact hlive.mp hthread
      · intro hnot _ _ _
        refine .inr ⟨by simp, ?_⟩
        rw [hbehind _ (by simp)]
        exact hlive.mpr hnot
    · rename_i hrunning
      have hnone : h.state.thread = none := no_thread (hflags.symm.trans (Bool.eq_false_iff.mpr hrunning))
      have hstopped : threadOf h.events = .none := by
        rw [hstatus]
        simp only [Server.threadStatus, hnone]
      simp only [monitored_cons, ReallyStreams, FindsNoDeadThread, monitored_nil, reduceCtorEq, false_implies,
        implies_true, and_true, List.append_nil, hstopped, ne_eq, not_false_eq_true]

theorem createThread_iff (answers : ServerAnswers) :
    Monitored (fun before => ReallyStreams (h.events ++ before)) (createThread answers h.state).2 ↔
      Monitored (fun before => FindsNoDeadThread (h.events ++ before)) (createThread answers h.state).2 := by
  unfold createThread
  split
  · exact iff_of_true monitored_nil monitored_nil
  · refine iff_of_true ?_ (monitored_of_forall ?_)
    · simp [monitored_cons, ReallyStreams, monitored_nil]
    · intro e he _ heq
      subst heq
      simp at he

/-- **A step** breaks both laws or neither. -/
theorem serverStep_start_iff (config : RTSPServerConfig) (move : Move) (hi : Inv False False h) :
    Monitored (fun before => ReallyStreams (h.events ++ before)) (serverStep config move h.state).2 ↔
      Monitored (fun before => FindsNoDeadThread (h.events ++ before)) (serverStep config move h.state).2 := by
  cases move with
  | media answers =>
    apply start_laws_elsewhere h.events
    intro e he
    simp only [serverStep, mediaStep] at he
    split at he
    · cases he
    · rcases List.mem_append.mp he with he | he
      · obtain ⟨x, -, rfl⟩ := List.mem_map.mp he
        simp
      · split at he
        · rw [List.mem_singleton.mp he]
          simp
        · cases he
  | control answers =>
    have hat := controlStep_at config answers h.state
    by_cases hstart : h.state.pc = .startCheck
    · have hstep : serverStep config (.control answers) h.state = startCheck h.state := by
        simp only [serverStep, controlStep, hstart]
      rw [hstep]
      exact startCheck_iff hi hstart
    · by_cases hcreate : h.state.pc = .create
      · have hstep : serverStep config (.control answers) h.state = createThread answers h.state := by
          simp only [serverStep, controlStep, hcreate]
        rw [hstep]
        exact createThread_iff answers
      · refine start_laws_elsewhere h.events fun e he => ⟨?_, ?_⟩
        · rintro rfl
          exact hstart (hat _ he)
        · rintro ip port rfl
          exact (hat _ he).elim hstart hcreate

end Step

/-- **An accepted PLAY really streams** in exactly the runs in which no `rtsp_media_start` comes between the end of a
media thread and the join that takes notice of it. -/
theorem media_start_iff (config : RTSPServerConfig) (moves : List Move) :
    Monitored ReallyStreams (serverRun config moves).events ↔
      Monitored FindsNoDeadThread (serverRun config moves).events :=
  run_monitored_iff (serverStep config) (P := Inv False False) (inv_start False False) fun _ move hi =>
    ⟨serverStep_inv config move hi False.elim False.elim, serverStep_start_iff config move hi⟩

/-! ## A PLAY behind a media thread that is over -/

/-- An IDR access unit with its parameter sets. -/
def idrUnit : Bytes := [0, 0, 0, 1, 0x67, 0x64, 0, 0, 0, 1, 0x68, 0xee, 0, 0, 0, 1, 0x65, 0x88]

/-- Everything `rtsp_media_init` asks for is granted. -/
def opensMedia : MediaInitAnswers :=
  { mutex := true
    capture :=
      { device := some 3, querycap := some ⟨0x04001000, 0⟩
        setFormat := some ⟨2304, 1296, 1, Capture.v4l2PixFmtNv12, 2304, 4478976⟩, setParm := some (1, 30)
        reqbufs := some 2, buffer := fun _ => ⟨some 4478976, true, true⟩, streamon := true }
    warmup := fun _ => ⟨[], true, true⟩
    encoder := ⟨(true, true), (true, true), true, true, true, true, true, true, true, true⟩
    bootstrap := (encodes idrUnit).capture
    allocs := [true, true] }

def homeConfig : RTSPServerConfig :=
  { port := 8554, devicePath := some (ascii "/dev/video0"), recordPath := none, warmupFrameCount := 0, stopFlag := false
    stopFd := false }

/-- Everything the server asks for is granted; the client sends `request`. -/
def answering (request : Bytes) : ServerAnswers :=
  { socket := some 4, bind := true, listen := true, media := opensMedia, flag := false, poll := .ready true false false
    accept := .accepted 5 ⟨10, 0, 0, 2⟩ true, time := 0, pid := 0, recv := .data request, reader := ⟨fun _ => 0⟩
    sends := List.replicate 512 (.sent 1), malloc := true, create := true }

def setupRequest (port : String) : Bytes :=
  ascii "SETUP rtsp://h RTSP/1.0\r\nCSeq: 1\r\nTransport: RTP/AVP;unicast;client_port=" ++ ascii port ++
    ascii "\r\n\r\n"

def playRequest : Bytes := ascii "PLAY rtsp://h RTSP/1.0\r\nCSeq: 2\r\n\r\n"

/-- `n` steps of the server while the client sends `request`. -/
def serves (request : Bytes) (n : Nat) : List Move := List.replicate n (.control (answering request))

/-- `n` steps of the media thread while the encoder returns `u`. -/
def streams (u : Bytes) (n : Nat) : List Move := List.replicate n (.media (encodes u))

/-- A SETUP and a PLAY; the media thread gets no RTP socket and is over; the client sends PLAY again. -/
def playTwice : List Move :=
  serves (setupRequest "6000-6001") 11 ++ serves playRequest 8 ++
    List.replicate 5 (.media { encodes idrUnit with sender := ⟨none, true⟩ }) ++ serves playRequest 7

/-- The second PLAY is accepted, but no media thread is there. -/
theorem playTwice_streams_nothing : ¬ Monitored ReallyStreams (serverRun homeConfig playTwice).events := by
  intro h
  have hsecond : (serverRun homeConfig playTwice).events[30]? = some (.playAccepted (ascii "10.0.0.2") 6000) := by
    decide +kernel
  have hbehind : ((serverRun homeConfig playTwice).events.take 30).getLast? = some .alreadyRunning := by decide +kernel
  have hdead : threadOf ((serverRun homeConfig playTwice).events.take 30) = .dead := by decide +kernel
  rcases h.at hsecond _ _ rfl with hcreated | ⟨-, hlive⟩
  · rw [hbehind] at hcreated
    cases hcreated
  · rw [hdead] at hlive
    cases hlive

end MiniRtsp.Rtsp
