import MiniRtsp.Rtsp.ControlFrame

/-!
# The lifetime of the media thread

`pthread_create` and `pthread_join` alternate, and between the two there is always a session for the thread to point to
and a pipeline for it to use (`ThreadLaw`, `thread_lifetime`): the flag `thread_running` says whether there is a thread
to join wherever the server decides by it (`Zone`), and outside a session there is none.
-/

namespace MiniRtsp.Rtsp

open Ledger Rtp Trace

/-- **The order of a thread's life.** It is joined once it has returned, and only then is another one created, a session
begun or ended, a resource taken or given back by the server, or `rtsp_server_run` left; it acts only between its
creation and its return. -/
def ThreadLaw (before : List ServerEvent) : ServerEvent → Prop
  | .joined => threadOf before = .dead
  | .media _ | .threadExited => threadOf before = .live
  | .created | .use _ | .connected _ | .disconnected | .returned _ => threadOf before = .none
  | _ => True

/-- Events that say nothing of the thread and its surroundings. -/
def ServerEvent.free : ServerEvent → Bool
  | .received _ | .requested _ | .responded _ | .examined | .alreadyRunning | .playAccepted _ _ | .sessionStopped
  | .shutdown => true
  | _ => false

/-- Events that are in order when there is no thread. -/
def ServerEvent.threadless : ServerEvent → Bool
  | .use _ | .connected _ | .disconnected | .returned _ => true
  | _ => false

section Step

variable {h : History Server ServerEvent}

theorem free_lawful {es : List ServerEvent} (past : List ServerEvent) (hfree : ∀ e ∈ es, e.free = true) :
    Monitored (fun before => ThreadLaw (past ++ before)) es := by
  apply monitored_of_forall
  intro e he before
  have hf := hfree e he
  cases e with
  | received _ | requested _ | responded _ | examined | alreadyRunning | playAccepted _ _ | sessionStopped | shutdown =>
    trivial
  | _ => cases hf

/-- Without a thread the server may take and give back, begin and end sessions, and return. -/
theorem threadless_lawful {es : List ServerEvent} {past : List ServerEvent} (hnone : threadOf past = .none)
    (hes : ∀ e ∈ es, e.threadless = true) : Monitored (fun before => ThreadLaw (past ++ before)) es := by
  rintro before e after rfl
  have hbefore : threadOf (past ++ before) = .none := by
    unfold threadOf at hnone ⊢
    rw [List.foldl_append, hnone]
    clear hnone
    induction before with
    | nil => rfl
    | cons x before ih =>
      have hx := hes x (by simp)
      rw [List.foldl_cons]
      have hsame : observeThread .none x = .none := by
        cases x with
        | use _ | connected _ | disconnected | returned _ => rfl
        | _ => cases hx
      rw [hsame]
      exact ih fun y hy => hes y (by rw [List.cons_append]; exact List.mem_cons_of_mem _ hy)
  have he := hes e (by simp)
  cases e with
  | use _ | connected _ | disconnected | returned _ => exact hbefore
  | _ => cases he

/-- Where there is no session there is no thread. -/
theorem Inv.no_thread_outside {printed steady : Prop} (hi : Inv printed steady h)
    (hpc : h.state.pc.inSession = false) : h.state.thread = none ∧ threadOf h.events = .none := by
  have hnone : h.state.thread = none := by
    cases ht : h.state.thread with
    | none => rfl
    | some t => rw [hi.inSession ht] at hpc; cases hpc
  refine ⟨hnone, ?_⟩
  rw [hi.status]
  simp only [Server.threadStatus, hnone]

/-- **A step of the media thread** is one of a live thread. -/
theorem mediaStep_lawful (answers : ThreadAnswers) (hi : Inv False False h) :
    Monitored (fun before => ThreadLaw (h.events ++ before)) (mediaStep answers h.state).2 := by
  unfold mediaStep
  cases ht : h.state.thread with
  | none => exact monitored_nil
  | some t =>
    have hstatus := hi.status
    simp only [Server.threadStatus, ht] at hstatus
    by_cases hexited : t.pc = .exited
    · have hnothing : (threadStep answers ⟨h.state.media, h.state.session, t⟩).2 = [] := by
        simp [threadStep, hexited]
      have hstays : t.pc ≠ .summary := by rw [hexited]; simp
      dsimp only
      rw [hnothing, if_neg hstays]
      exact monitored_nil
    · rw [if_neg hexited] at hstatus
      dsimp only
      have hlive : ∀ before : List ServerEvent, (∀ e ∈ before, e.hidden = true) →
          threadOf (h.events ++ before) = .live :=
        fun before hb => (observe_hidden hb h.events).2.trans hstatus
      have hhidden := hidden_media (threadStep answers ⟨h.state.media, h.state.session, t⟩).2
      rw [monitored_append]
      constructor
      · intro before e after heq
        have he : e ∈ (threadStep answers ⟨h.state.media, h.state.session, t⟩).2.map ServerEvent.media := by
          rw [heq]; simp
        have hbefore := hlive before fun x hx => hhidden x (by rw [heq]; simp [hx])
        obtain ⟨_, -, rfl⟩ := List.mem_map.mp he
        exact hbefore
      · split
        · rw [monitored_cons]
          exact ⟨by rw [List.append_nil]; exact hlive _ hhidden, monitored_nil⟩
        · exact monitored_nil

/-- `pthread_join` returns when its thread has. -/
theorem join_lawful (hi : Inv False False h) {after : AfterStop} (hpc : h.state.pc = .join after) :
    Monitored (fun before => ThreadLaw (h.events ++ before)) (join h.state after).2 := by
  have hflags := hi.flags
  rw [hpc] at hflags
  have hstatus := hi.status
  unfold join
  cases ht : h.state.thread with
  | none =>
    rw [ht] at hflags
    cases after with
    | close => exact hflags.elim
    | teardown | session => cases hflags.2
  | some t =>
    simp only [Server.threadStatus, ht] at hstatus
    dsimp only
    split
    · rename_i hexited
      rw [if_pos hexited] at hstatus
      rw [monitored_cons]
      exact ⟨by rw [List.append_nil]; exact hstatus, monitored_nil⟩
    · exact monitored_nil

theorem createThread_lawful (answers : ServerAnswers) (hi : Inv False False h) (hpc : h.state.pc = .create) :
    Monitored (fun before => ThreadLaw (h.events ++ before)) (createThread answers h.state).2 := by
  have hflags := hi.flags
  rw [hpc] at hflags
  have hnone : threadOf h.events = .none := by
    rw [hi.status]
    simp only [Server.threadStatus, no_thread hflags.2]
  unfold createThread
  split
  · exact monitored_nil
  · rw [monitored_cons, List.append_nil, monitored_cons]
    exact ⟨hnone, trivial, monitored_nil⟩

/-- What the server does where it neither creates nor joins a thread. -/
theorem controlStep_events (config : RTSPServerConfig) (answers : ServerAnswers) (s : Server)
    (hcreate : s.pc ≠ .create) (hjoin : ∀ after, s.pc ≠ .join after) :
    (∀ e ∈ (controlStep config answers s).2, e.free = true) ∨
      (s.pc.inSession = false ∨ s.pc = .closeClient) ∧
        ∀ e ∈ (controlStep config answers s).2, e.threadless = true := by
  have hplace := controlStep_place config answers s
  by_cases hopens : s.pc = .boot ∨ s.pc = .accept ∨ s.pc = .closeClient ∨ s.pc = .closeMedia
  · refine .inr ⟨?_, fun e he => ?_⟩
    · rcases hopens with hpc | hpc | hpc | hpc
      · exact .inl (by rw [hpc]; rfl)
      · exact .inl (by rw [hpc]; rfl)
      · exact .inr hpc
      · exact .inl (by rw [hpc]; rfl)
    · obtain ⟨hat, hreturns⟩ := hplace e he
      cases e with
      | use _ | connected _ | disconnected | returned _ => rfl
      | _ =>
        rcases hopens with hpc | hpc | hpc | hpc <;> rw [hpc] at hat hreturns <;>
          simp [ServerEvent.At, ServerEvent.Returns] at hat hreturns
  · left
    intro e he
    obtain ⟨hat, hreturns⟩ := hplace e he
    cases e with
    | received _ | requested _ | responded _ | examined | alreadyRunning | playAccepted _ _ | sessionStopped
    | shutdown => rfl
    | use u => exact absurd hat hopens
    | connected peer => exact absurd (.inr (.inl hat)) hopens
    | media e | threadExited => exact hat.elim
    | created => exact absurd hat hcreate
    | joined =>
      obtain ⟨after, hpc⟩ := hreturns
      exact absurd hpc (hjoin after)
    | disconnected => exact absurd (.inr (.inr (.inl hreturns))) hopens
    | returned status => exact absurd (hreturns.imp_right fun hpc => .inr (.inr hpc)) hopens

/-- Behind `rtsp_media_stop` there is no thread either. -/
theorem Inv.no_thread_closing (hi : Inv False False h) (hpc : h.state.pc = .closeClient) :
    threadOf h.events = .none := by
  have hflags := hi.flags
  rw [hpc] at hflags
  rw [hi.status]
  simp only [Server.threadStatus, no_thread hflags.2]

/-- **Every step** keeps the order. -/
theorem serverStep_lawful (config : RTSPServerConfig) (move : Move) (hi : Inv False False h) :
    Monitored (fun before => ThreadLaw (h.events ++ before)) (serverStep config move h.state).2 := by
  cases move with
  | media answers => exact mediaStep_lawful answers hi
  | control answers =>
    by_cases hcreate : h.state.pc = .create
    · have hstep : serverStep config (.control answers) h.state = createThread answers h.state := by
        simp only [serverStep, controlStep, hcreate]
      rw [hstep]
      exact createThread_lawful answers hi hcreate
    · by_cases hjoin : ∃ after, h.state.pc = .join after
      · obtain ⟨after, hpc⟩ := hjoin
        have hstep : serverStep config (.control answers) h.state = join h.state after := by
          simp only [serverStep, controlStep, hpc]
        rw [hstep]
        exact join_lawful hi hpc
      · rcases controlStep_events config answers h.state hcreate (fun after hpc => hjoin ⟨after, hpc⟩) with
          hfree | ⟨hpc, hless⟩
        · exact free_lawful h.events hfree
        · refine threadless_lawful ?_ hless
          rcases hpc with hpc | hpc
          · exact (hi.no_thread_outside hpc).2
          · exact hi.no_thread_closing hpc

/-! ## The parameter sets -/

/-- Only the opening and the closing of the pipeline touch the stored parameter sets. -/
theorem serverStep_sets (config : RTSPServerConfig) (move : Move) (hi : Inv False False h) :
    (serverStep config move h.state).1.media.sps = h.state.media.sps ∧
        (serverStep config move h.state).1.media.pps = h.state.media.pps ∨
      h.state.pc = .boot ∨ h.state.pc = .closeMedia := by
  cases move with
  | media answers =>
    left
    simp only [serverStep, mediaStep]
    cases ht : h.state.thread with
    | none => exact ⟨rfl, rfl⟩
    | some t =>
      have hsets := (turnStep_ready (hi.ready t ht) (.thread answers)).2
      exact ⟨hsets.sps, hsets.pps⟩
  | control answers =>
    by_cases hpipeline : h.state.pc = .boot ∨ h.state.pc = .closeMedia
    · exact .inr hpipeline
    · left
      have hboot : h.state.pc ≠ .boot := fun hpc => hpipeline (.inl hpc)
      have hclose : h.state.pc ≠ .closeMedia := fun hpc => hpipeline (.inr hpc)
      obtain ⟨stop, running, hmedia⟩ := (controlStep_frame config answers hboot hclose).media
      rw [serverStep, hmedia]
      exact ⟨rfl, rfl⟩

end Step

/-- **The lifetime of the media thread.** In every run: `pthread_join` is called only while there is a thread that has
not been joined, and it returns after the thread has; a thread is created, a session begins or ends, the server takes or
gives back a resource of the pipeline and `rtsp_server_run` returns only while every thread created before has been
joined (`ThreadLaw`); so do steps that touch the stored SPS and PPS; and while there is a thread, its session is open. -/
theorem thread_lifetime (config : RTSPServerConfig) (moves : List Move) :
    let h := serverRun config moves
    Monitored ThreadLaw h.events ∧
    (∀ after, h.state.pc = .join after → h.state.thread.isSome = true ∧ threadOf h.events ≠ .none) ∧
    (∀ move, (serverStep config move h.state).1.media.sps ≠ h.state.media.sps ∨
        (serverStep config move h.state).1.media.pps ≠ h.state.media.pps →
      h.state.thread = none ∧ threadOf h.events = .none) ∧
    (h.state.thread.isSome = true → ∃ c, connection h.events = some c ∧ c.stopped = false) := by
  intro h
  have hi : Inv False False h := serverRun_inv config False.elim False.elim
  refine ⟨?_, ?_, ?_, ?_⟩
  · refine run_monitored (serverStep config) (inv_start False False) fun past move _ hi => ⟨?_, ?_⟩
    · exact serverStep_inv config move hi False.elim False.elim
    · exact serverStep_lawful config move hi
  · intro after hpc
    have hflags := hi.flags
    rw [hpc] at hflags
    have hsome : h.state.thread.isSome = true := by
      cases after with
      | close => exact hflags.elim
      | teardown | session => exact hflags.2
    refine ⟨hsome, ?_⟩
    obtain ⟨t, ht⟩ := Option.isSome_iff_exists.mp hsome
    rw [hi.status]
    simp only [Server.threadStatus, ht]
    split <;> simp
  · intro move hsets
    rcases serverStep_sets config move hi with ⟨hsps, hpps⟩ | hpc
    · rcases hsets with hsets | hsets
      · exact absurd hsps hsets
      · exact absurd hpps hsets
    · exact hi.no_thread_outside (by rcases hpc with hpc | hpc <;> rw [hpc] <;> rfl)
  · intro hsome
    obtain ⟨t, ht⟩ := Option.isSome_iff_exists.mp hsome
    obtain ⟨c, hc, hcon⟩ := hi.conn.of_inSession (hi.inSession ht)
    refine ⟨c, hc, ?_⟩
    by_contra hstopped
    -- behind the last `rtsp_media_stop` of the session the thread has been joined
    have hflags := hi.flags
    rw [hcon.stopped (by simpa using hstopped)] at hflags
    have hgone : h.state.thread.isSome = false := hflags.2
    rw [hgone] at hsome
    cases hsome

end MiniRtsp.Rtsp
