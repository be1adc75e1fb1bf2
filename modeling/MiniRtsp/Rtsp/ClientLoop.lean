import MiniRtsp.Rtsp.Response

/-!
# The client loop

The inner loop of `rtsp_server_run`: bytes are collected in a buffer until they hold a complete request, which is
processed and the buffer emptied. What arrives behind a request in the same chunk goes down with it, so the requests
processed are those sent if and only if every request ends a chunk (`clientLoop_iff`).
-/

namespace MiniRtsp.Rtsp

open Text Occurrence

/-- `BUFFER_SIZE`. -/
def bufferSize : Nat := 4096

/-- What `recv` answers; it returns at most the free space it is offered. -/
inductive Recv where
  | interrupted
  | failed
  | data (bytes : Bytes)
  deriving DecidableEq, Repr

/-- What the loop does next. -/
inductive ClientMove where
  /-- `continue`, with the bytes in the buffer. -/
  | keep (buffer : Bytes)
  /-- `process_request` with the text in the buffer. -/
  | process (text : Bytes)
  /-- `break`. -/
  | leave
  deriving DecidableEq, Repr

/-- The loop body from the size check to `process_request`; `offset` is the length of the buffer. -/
def clientRecv (buffer : Bytes) (recv : Recv) : ClientMove :=
  if buffer.length ≥ bufferSize - 1 then .leave
  else
    match recv with
    | .interrupted => .keep buffer
    | .failed => .leave
    | .data bytes =>
      if bytes = [] then .leave
      else
        let buffer := buffer ++ bytes
        if !rtspRequestComplete (cString buffer) then .keep buffer else .process (cString buffer)

/-- What `process_request` came to. -/
inductive Processed where
  | ok
  | close
  | failed
  deriving DecidableEq, Repr

section Loop

variable {σ : Type*} (process : σ → Bytes → σ × Processed)

/-- The client loop over the answers of `recv`: the texts given to `process_request`. -/
def clientLoop : σ → Bytes → List Recv → List Bytes
  | _, _, [] => []
  | world, buffer, recv :: recvs =>
    match clientRecv buffer recv with
    | .keep buffer => clientLoop world buffer recvs
    | .leave => []
    | .process text =>
      text ::
        match (process world text).2 with
        | .ok => clientLoop (process world text).1 [] recvs
        | _ => []

/-- The requests that are to be processed: all, up to the first that closes the session or fails. -/
def answered : σ → List Bytes → List Bytes
  | _, [] => []
  | world, request :: requests =>
    request ::
      match (process world request).2 with
      | .ok => answered (process world request).1 requests
      | _ => []

end Loop

/-- The bytes end in a blank line. -/
def hasTerminator (bytes : Bytes) : Prop := ascii "\r\n\r\n" <:+: bytes ∨ ascii "\n\n" <:+: bytes

instance (bytes : Bytes) : Decidable (hasTerminator bytes) := inferInstanceAs (Decidable (_ ∨ _))

/-- A bodyless request: short, without NUL, with a `CSeq` header, and with a blank line only at its very end. -/
structure WellFormed (request : Bytes) : Prop where
  short : request.length ≤ bufferSize - 1
  noNul : 0 ∉ request
  cseq : ascii "CSeq:" <:+: request
  ended : hasTerminator request
  onlyAtEnd : ∀ p, p <+: request → p ≠ request → ¬hasTerminator p

/-- Some chunks end where `bytes` end. -/
def CutAt (chunks : List Bytes) (bytes : Bytes) : Prop := ∃ past, past <+: chunks ∧ past.flatten = bytes

theorem requestComplete_iff (text : Bytes) :
    rtspRequestComplete text = true ↔ ascii "CSeq:" <:+: text ∧ hasTerminator text := by
  unfold rtspRequestComplete contains hasTerminator
  rw [← seek_isSome, ← seek_isSome, ← seek_isSome]
  cases (seek (ascii "CSeq:") text).isSome <;> simp

section Loop

variable {σ : Type*} {process : σ → Bytes → σ × Processed} {world : σ} {request : Bytes} {chunks : List Bytes}

theorem WellFormed.ne_nil (h : WellFormed request) : request ≠ [] := by
  rintro rfl
  have := h.cseq
  simp [ascii] at this

/-- A part of a request is kept. -/
theorem clientRecv_keep (h : WellFormed request) {buffer chunk : Bytes} (hchunk : chunk ≠ [])
    (hpart : buffer ++ chunk <+: request) (hne : buffer ++ chunk ≠ request) :
    clientRecv buffer (.data chunk) = .keep (buffer ++ chunk) := by
  have hlen := hpart.length_le
  have hshort := h.short
  have hpos := List.length_pos_iff.mpr hchunk
  rw [List.length_append] at hlen
  have htext : cString (buffer ++ chunk) = buffer ++ chunk := cString_of_noNul fun hz => h.noNul (hpart.subset hz)
  have hincomplete : rtspRequestComplete (buffer ++ chunk) = false := by
    by_contra hc
    exact h.onlyAtEnd _ hpart hne ((requestComplete_iff _).mp (by simpa using hc)).2
  simp only [clientRecv, htext, hincomplete]
  rw [if_neg (by omega), if_neg hchunk]
  rfl

/-- A whole request is processed. -/
theorem clientRecv_process (h : WellFormed request) {buffer chunk : Bytes} (hchunk : chunk ≠ [])
    (hall : buffer ++ chunk = request) : clientRecv buffer (.data chunk) = .process request := by
  have hshort := h.short
  have hpos := List.length_pos_iff.mpr hchunk
  have hlen := congrArg List.length hall
  rw [List.length_append] at hlen
  have htext : cString request = request := cString_of_noNul h.noNul
  have hcomplete : rtspRequestComplete request = true := (requestComplete_iff _).mpr ⟨h.cseq, h.ended⟩
  simp only [clientRecv, hall, htext, hcomplete]
  rw [if_neg (by omega), if_neg hchunk]
  rfl

/-- **A request that ends a chunk** is processed as it was sent, and the loop goes on with the chunks behind it. -/
theorem clientLoop_request (h : WellFormed request) {past : List Bytes} {buffer : Bytes} (rest : List Bytes)
    (hchunks : ∀ c ∈ past, c ≠ []) (hpast : past ≠ []) (hall : buffer ++ past.flatten = request) :
    clientLoop process world buffer ((past ++ rest).map .data) = request ::
      match (process world request).2 with
      | .ok => clientLoop process (process world request).1 [] (rest.map .data)
      | _ => [] := by
  induction past generalizing buffer with
  | nil => exact absurd rfl hpast
  | cons chunk past ih =>
    have hchunk := hchunks chunk (by simp)
    cases past with
    | nil =>
      rw [List.flatten_singleton] at hall
      rw [List.singleton_append, List.map_cons, clientLoop, clientRecv_process h hchunk hall]
    | cons next past =>
      have hnext := hchunks next (by simp)
      rw [List.flatten_cons, ← List.append_assoc] at hall
      have hne : buffer ++ chunk ≠ request := by
        intro heq
        rw [heq] at hall
        simp [hnext] at hall
      rw [List.cons_append, List.map_cons, clientLoop,
        clientRecv_keep h hchunk (hall ▸ List.prefix_append _ _) hne]
      apply ih
      · intro c hc
        exact hchunks c (by simp [hc])
      · simp
      · exact hall

/-- **The first text processed** is what has arrived so far; the loop goes on with the chunks behind it. -/
theorem clientLoop_cons {buffer text : Bytes} {texts : List Bytes}
    (h : clientLoop process world buffer (chunks.map .data) = text :: texts) : ∃ past rest, chunks = past ++ rest ∧
      text = cString (buffer ++ past.flatten) ∧ texts = match (process world text).2 with
        | .ok => clientLoop process (process world text).1 [] (rest.map .data)
        | _ => [] := by
  induction chunks generalizing buffer with
  | nil => simp [clientLoop] at h
  | cons chunk chunks ih =>
    rw [List.map_cons, clientLoop] at h
    unfold clientRecv at h
    dsimp only at h
    split at h
    · rename_i buffer' hkeep
      have hbuffer : buffer' = buffer ++ chunk := by
        repeat' split at hkeep
        all_goals cases hkeep
        rfl
      subst hbuffer
      obtain ⟨past, rest, rfl, htext, hrest⟩ := ih h
      exact ⟨chunk :: past, rest, rfl, by rw [htext, List.flatten_cons, List.append_assoc], hrest⟩
    · cases h
    · rename_i text' hprocess
      have htext : text' = cString (buffer ++ chunk) := by
        repeat' split at hprocess
        all_goals cases hprocess
        rfl
      rw [List.cons.injEq] at h
      obtain ⟨rfl, rfl⟩ := h
      exact ⟨[chunk], chunks, rfl, by rw [htext, List.flatten_singleton], rfl⟩

/-- A request that ends where a chunk ends: the chunks up to it and those behind it. -/
theorem CutAt.split {tail : Bytes} (h : CutAt chunks request) (hall : chunks.flatten = request ++ tail) :
    ∃ past rest, chunks = past ++ rest ∧ past.flatten = request ∧ rest.flatten = tail := by
  obtain ⟨past, ⟨rest, rfl⟩, hpast⟩ := h
  rw [List.flatten_append, hpast] at hall
  exact ⟨past, rest, rfl, hpast, List.append_cancel_left hall⟩

/-- Cuts behind a cut. -/
theorem cutAt_append_iff {past rest : List Bytes} {tail : Bytes} :
    CutAt (past ++ rest) (past.flatten ++ tail) ↔ CutAt rest tail := by
  constructor
  · rintro ⟨cut, hcut, heq⟩
    rcases List.prefix_or_prefix_of_prefix hcut (List.prefix_append past rest) with hle | hle
    · obtain ⟨more, rfl⟩ := hle
      rw [List.flatten_append, List.append_assoc] at heq
      have hnil : more.flatten ++ tail = [] := by simpa using heq.symm
      exact ⟨[], List.nil_prefix, (List.append_eq_nil_iff.mp hnil).2.symm⟩
    · obtain ⟨more, rfl⟩ := hle
      rw [List.flatten_append] at heq
      exact ⟨more, by simpa using hcut, List.append_cancel_left heq⟩
  · rintro ⟨cut, hcut, heq⟩
    exact ⟨past ++ cut, by simpa using hcut, by rw [List.flatten_append, heq]⟩

/-- A request with its outcome: the cuts that the requests behind it ask for. -/
theorem cuts_cons_iff {past rest : List Bytes} {requests answers : List Bytes} (hpast : past.flatten = request) :
    (∀ k < (request :: answers).length, CutAt (past ++ rest) ((request :: requests).take (k + 1)).flatten) ↔
      ∀ k < answers.length, CutAt rest (requests.take (k + 1)).flatten := by
  have hstep : ∀ k, CutAt (past ++ rest) ((request :: requests).take (k + 1)).flatten ↔
      CutAt rest (requests.take k).flatten := by
    intro k
    rw [List.take_succ_cons, List.flatten_cons, ← hpast]
    exact cutAt_append_iff
  simp only [hstep, List.length_cons]
  constructor
  · exact fun h k hk => h (k + 1) (by omega)
  · intro h k hk
    cases k with
    | zero => exact ⟨[], List.nil_prefix, rfl⟩
    | succ k => exact h k (by omega)

/-- **The requests processed are those sent**, byte for byte and in order up to the first that closes the session or
fails, if and only if every one of them ends where a chunk ends. -/
theorem clientLoop_iff {σ : Type*} (process : σ → Bytes → σ × Processed) (world : σ) {requests chunks : List Bytes}
    (hrequests : ∀ r ∈ requests, WellFormed r) (hchunks : ∀ c ∈ chunks, c ≠ [])
    (hall : chunks.flatten = requests.flatten) :
    clientLoop process world [] (chunks.map .data) = answered process world requests ↔
      ∀ k < (answered process world requests).length, CutAt chunks (requests.take (k + 1)).flatten := by
  induction requests generalizing world chunks with
  | nil =>
    have hnil : chunks = [] := by
      cases chunks with
      | nil => rfl
      | cons c cs => simp [hchunks c (by simp)] at hall
    subst hnil
    simp [clientLoop, answered]
  | cons request requests ih =>
    have hwell := hrequests request (by simp)
    rw [List.flatten_cons] at hall
    -- both sides say that the request ends a chunk
    by_cases hcut : CutAt chunks request
    · obtain ⟨past, rest, rfl, hpast, hrest⟩ := hcut.split hall
      have hne : past ≠ [] := by
        rintro rfl
        exact hwell.ne_nil hpast.symm
      have hloop := @clientLoop_request σ process world request hwell past [] rest
        (fun c hc => hchunks c (by simp [hc])) hne hpast
      rw [hloop, answered, cuts_cons_iff hpast, List.cons.injEq]
      cases hout : (process world request).2 with
      | ok =>
        simpa using ih (process world request).1 (fun r hr => hrequests r (by simp [hr]))
          (fun c hc => hchunks c (by simp [hc])) hrest
      | close => simp
      | failed => simp
    · refine iff_of_false (fun heq => hcut ?_) (fun h => hcut ?_)
      · obtain ⟨past, rest, rfl, htext, -⟩ := clientLoop_cons heq
        have hnul : 0 ∉ past.flatten := by
          intro hz
          have hmem : 0 ∈ (past ++ rest).flatten := by simp [hz]
          rw [hall, ← List.flatten_cons] at hmem
          obtain ⟨r, hr, hr0⟩ := List.mem_flatten.mp hmem
          exact (hrequests r hr).noNul hr0
        rw [List.nil_append, cString_of_noNul hnul] at htext
        exact ⟨past, List.prefix_append _ _, htext.symm⟩
      · have hfirst := h 0 (by simp [answered])
        rwa [List.take_succ_cons, List.take_zero, List.flatten_singleton] at hfirst

end Loop

/-! ## Two requests -/

/-- `process_request` when its response can be sent and the media can be started. -/
def processed (reader : IntReader) (media : RTSPMedia) (session : RTSPSession) (request : Bytes) :
    RTSPSession × Processed :=
  let handled := processRequest reader media session request
  (handled.session,
    if handled.response.isNone then .failed else if handled.after = .teardown then .close else .ok)

def optionsRequest (cseq : String) : Bytes := ascii "OPTIONS * RTSP/1.0\r\nCSeq: " ++ ascii cseq ++ ascii "\r\n\r\n"

theorem wellFormed_of_take {request : Bytes} (short : request.length ≤ bufferSize - 1) (noNul : 0 ∉ request)
    (cseq : ascii "CSeq:" <:+: request) (ended : hasTerminator request)
    (onlyAtEnd : ∀ n < request.length, ¬hasTerminator (request.take n)) : WellFormed request := by
  refine ⟨short, noNul, cseq, ended, ?_⟩
  intro p hp hne
  rw [List.prefix_iff_eq_take.mp hp]
  refine onlyAtEnd p.length (Nat.lt_of_le_of_ne hp.length_le fun hlen => hne ?_)
  exact hp.eq_of_length hlen

theorem optionsRequest_wellFormed : WellFormed (optionsRequest "1") ∧ WellFormed (optionsRequest "2") :=
  ⟨wellFormed_of_take (by decide) (by decide +kernel) (by decide +kernel) (by decide +kernel) (by decide +kernel),
    wellFormed_of_take (by decide) (by decide +kernel) (by decide +kernel) (by decide +kernel) (by decide +kernel)⟩

/-- A request in two chunks and one in a chunk of its own are both processed. -/
theorem clientLoop_two :
    clientLoop (processed ⟨fun _ => 0⟩ .zero) (rtspSessionInit 0 0) []
      ([(optionsRequest "1").take 9, (optionsRequest "1").drop 9, optionsRequest "2"].map .data) =
      answered (processed ⟨fun _ => 0⟩ .zero) (rtspSessionInit 0 0) [optionsRequest "1", optionsRequest "2"] := by
  refine (clientLoop_iff _ (rtspSessionInit 0 0) ?_ (by decide +kernel) (by decide +kernel)).mpr ?_
  · intro r hr
    simp only [List.mem_cons, List.not_mem_nil, or_false] at hr
    rcases hr with rfl | rfl
    · exact optionsRequest_wellFormed.1
    · exact optionsRequest_wellFormed.2
  · intro k hk
    have hboth : (answered (processed ⟨fun _ => 0⟩ .zero) (rtspSessionInit 0 0)
        [optionsRequest "1", optionsRequest "2"]).length = 2 := by decide +kernel
    rw [hboth] at hk
    obtain rfl | rfl : k = 0 ∨ k = 1 := by omega
    · exact ⟨[(optionsRequest "1").take 9, (optionsRequest "1").drop 9], List.prefix_append _ [_], by decide +kernel⟩
    · exact ⟨_, List.prefix_refl _, by decide +kernel⟩

/-- Two requests in one chunk are processed as one. -/
theorem clientLoop_coalesced :
    WellFormed (optionsRequest "1") ∧ WellFormed (optionsRequest "2") ∧
    clientLoop (processed ⟨fun _ => 0⟩ .zero) (rtspSessionInit 0 0) []
        ([optionsRequest "1" ++ optionsRequest "2"].map .data) ≠
      answered (processed ⟨fun _ => 0⟩ .zero) (rtspSessionInit 0 0) [optionsRequest "1", optionsRequest "2"] :=
  ⟨optionsRequest_wellFormed.1, optionsRequest_wellFormed.2, by decide +kernel⟩

end MiniRtsp.Rtsp
