import MiniRtsp.Lib.MessageStream
import MiniRtsp.Rtsp.CseqEcho
import MiniRtsp.Rtsp.Exchange
import MiniRtsp.Rtsp.MediaStart

/-!
# The dialogue with a client

What the server sends on a connection is a stream of RTSP messages. No response is cut off by its buffer
(`render_layout`), so that the client can take the stream apart; and the messages answer the requests that were processed
one by one, in order, each with its CSeq and as its method wants it. At most the last request has no answer
(`serverRun_dialogue`).
-/

namespace MiniRtsp.Rtsp

open Lines Sdp Text Trace

/-! ## Responses as messages -/

/-- What the status line says behind the version. -/
def Response.status : Response → Bytes
  | .unsupportedTransport _ => ascii "461 Unsupported Transport"
  | .methodNotAllowed _ => ascii "405 Method Not Allowed"
  | _ => ascii "200 OK"

/-- The ports in a response. -/
def Response.ports : Response → List Int
  | .setup _ clientRtpPort clientRtcpPort serverRtpPort serverRtcpPort _ =>
    [clientRtpPort, clientRtcpPort, serverRtpPort, serverRtcpPort]
  | _ => []

/-- The lines behind the CSeq line. -/
def Response.fields : Response → List Bytes
  | .options _ => [ascii "Public: OPTIONS, DESCRIBE, SETUP, PLAY, GET_PARAMETER, TEARDOWN"]
  | .describe _ sdp => [ascii "Content-Type: application/sdp", ascii "Content-Length: " ++ decimal sdp.length]
  | .setup _ clientRtpPort clientRtcpPort serverRtpPort serverRtcpPort sessionId =>
    [ascii "Transport: RTP/AVP;unicast;client_port=" ++ decimalInt clientRtpPort ++ ascii "-" ++
        decimalInt clientRtcpPort ++ ascii ";server_port=" ++ decimalInt serverRtpPort ++ ascii "-" ++
        decimalInt serverRtcpPort ++ ascii ";ssrc=12345678",
      ascii "Session: " ++ decimal sessionId.toNat]
  | .play _ sessionId => [ascii "Session: " ++ decimal sessionId.toNat, ascii "Range: npt=0.000-"]
  | .simpleOk _ sessionId => [ascii "Session: " ++ decimal sessionId.toNat]
  | _ => []

def Response.body : Response → Bytes
  | .describe _ sdp => sdp
  | _ => []

/-- The message that a client reads. -/
def Response.message (response : Response) : Message :=
  ⟨(ascii "RTSP/1.0 " ++ response.status) :: (ascii "CSeq: " ++ decimalInt response.cseq) :: response.fields,
    response.body⟩

/-- The numbers are those of an `int`, and the SDP was built in its buffer. -/
structure Response.Fits (response : Response) : Prop where
  cseq : IsInt response.cseq
  ports : ∀ port ∈ response.ports, IsInt port
  body : response.body.length < 2048

def contentLength : Bytes := ascii "Content-Length: "

theorem length_sessionId (sessionId : UInt32) : (decimal sessionId.toNat).length ≤ 10 :=
  length_decimal (by decide) (Nat.lt_of_lt_of_le sessionId.toNat_lt (by decide))

/-- `sizeof(response)` in the handler. -/
def Response.bufferSize : Response → Nat
  | .describe _ _ => 3072
  | .unsupportedTransport _ | .methodNotAllowed _ => 256
  | _ => 512

theorem render_eq (response : Response) : response.render = snprintf response.bufferSize response.message.layout := by
  have hcrlf : crlf = lineEnd := by decide
  cases response <;>
    simp only [Response.render, Response.bufferSize, Response.message, Response.status, Response.cseq, Response.fields,
      Response.body, Message.layout, describeText, responseHead, sessionLine, hcrlf, List.flatMap_cons,
      List.flatMap_nil, List.append_assoc, List.append_nil]

/-- Every response is shorter than its buffer. -/
theorem length_message {response : Response} (h : response.Fits) :
    response.message.layout.length < response.bufferSize := by
  have hcseq := length_decimalInt h.cseq
  have htexts : (ascii "RTSP/1.0 ").length = 9 ∧ (ascii "200 OK").length = 6 ∧
      (ascii "461 Unsupported Transport").length = 25 ∧ (ascii "405 Method Not Allowed").length = 22 ∧
      (ascii "CSeq: ").length = 6 ∧ (ascii "Session: ").length = 9 ∧ lineEnd.length = 2 := by
    decide
  obtain ⟨hversion, hok, hunsupported, hnot, hname, hsession, hline⟩ := htexts
  have hhead : response.message.layout.length =
      (9 + response.status.length + 2) + (6 + (decimalInt response.cseq).length + 2) +
        (response.fields.flatMap fun line : List UInt8 => line ++ lineEnd).length + 2 + response.body.length := by
    simp only [Message.layout, Response.message, List.flatMap_cons, List.length_append, hversion, hname, hline]
    omega
  rw [hhead]
  cases response with
  | options cseq =>
    have hfield : (ascii "Public: OPTIONS, DESCRIBE, SETUP, PLAY, GET_PARAMETER, TEARDOWN").length = 63 := by decide
    simp only [Response.status, Response.fields, Response.body, Response.bufferSize, List.flatMap_cons,
      List.flatMap_nil, List.length_append, List.length_nil, hok, hfield, hline] at hcseq ⊢
    omega
  | describe cseq sdp =>
    have hbody : sdp.length < 2048 := h.body
    have hsize : (decimal sdp.length).length ≤ 4 :=
      length_decimal (by decide) (Nat.lt_of_lt_of_le (by omega : sdp.length < 10000) (by decide))
    have hfields : (ascii "Content-Type: application/sdp").length = 29 ∧ (ascii "Content-Length: ").length = 16 := by
      decide
    obtain ⟨htype, hlength⟩ := hfields
    simp only [Response.status, Response.fields, Response.body, Response.bufferSize, List.flatMap_cons,
      List.flatMap_nil, List.length_append, List.length_nil, hok, htype, hlength, hline] at hcseq ⊢
    omega
  | unsupportedTransport cseq | methodNotAllowed cseq =>
    simp only [Response.status, Response.fields, Response.body, Response.bufferSize, List.flatMap_nil, List.length_nil,
      hunsupported, hnot] at hcseq ⊢
    omega
  | setup cseq clientRtpPort clientRtcpPort serverRtpPort serverRtcpPort sessionId =>
    have hports := fun port hport => length_decimalInt (h.ports port hport)
    simp only [Response.ports, List.forall_mem_cons] at hports
    obtain ⟨h1, h2, h3, h4, -⟩ := hports
    have hfields : (ascii "Transport: RTP/AVP;unicast;client_port=").length = 39 ∧ (ascii "-").length = 1 ∧
        (ascii ";server_port=").length = 13 ∧ (ascii ";ssrc=12345678").length = 14 := by
      decide
    obtain ⟨htransport, hdash, hserver, hssrc⟩ := hfields
    have hid := length_sessionId sessionId
    simp only [Response.status, Response.fields, Response.body, Response.bufferSize, List.flatMap_cons,
      List.flatMap_nil, List.length_append, List.length_nil, hok, htransport, hdash, hserver, hssrc, hsession,
      hline] at hcseq ⊢
    omega
  | play cseq sessionId =>
    have hrange : (ascii "Range: npt=0.000-").length = 17 := by decide
    have hid := length_sessionId sessionId
    simp only [Response.status, Response.fields, Response.body, Response.bufferSize, List.flatMap_cons,
      List.flatMap_nil, List.length_append, List.length_nil, hok, hrange, hsession, hline] at hcseq ⊢
    omega
  | simpleOk cseq sessionId =>
    have hid := length_sessionId sessionId
    simp only [Response.status, Response.fields, Response.body, Response.bufferSize, List.flatMap_cons,
      List.flatMap_nil, List.length_append, List.length_nil, hok, hsession, hline] at hcseq ⊢
    omega

/-- **No response is cut off.** -/
theorem render_layout {response : Response} (h : response.Fits) : response.render = response.message.layout := by
  have hlength := length_message h
  rw [render_eq, snprintf]
  exact List.take_of_length_le (by omega)

/-- The lines of a response, and the length of its body, are what a client expects. -/
theorem message_framed (response : Response) : response.message.Framed contentLength := by
  have htexts : ∀ l ∈ [ascii "RTSP/1.0 ", ascii "CSeq: ", ascii "Content-Type: application/sdp",
      ascii "Content-Length: ", ascii "Session: ", ascii "Range: npt=0.000-", ascii "-", ascii ";server_port=",
      ascii ";ssrc=12345678", ascii "Transport: RTP/AVP;unicast;client_port=",
      ascii "Public: OPTIONS, DESCRIBE, SETUP, PLAY, GET_PARAMETER, TEARDOWN"], l ≠ [] ∧ 0x0d ∉ l := by
    decide
  have hstatus : 0x0d ∉ response.status := by
    have hall : ∀ s ∈ [ascii "200 OK", ascii "461 Unsupported Transport", ascii "405 Method Not Allowed"], 0x0d ∉ s := by
      decide
    cases response <;> exact hall _ (by simp [Response.status])
  have hdecimal : ∀ n : Nat, 0x0d ∉ decimal n := fun n => decimalInt_notMem n
  have hjoin : ∀ {a b : Bytes}, a ≠ [] ∧ 0x0d ∉ a → 0x0d ∉ b → a ++ b ≠ [] ∧ 0x0d ∉ a ++ b := by
    intro a b ha hb
    rw [List.mem_append, not_or]
    exact ⟨List.append_ne_nil_of_left_ne_nil ha.1 b, ha.2, hb⟩
  have hfields : ∀ l ∈ response.fields, l ≠ [] ∧ 0x0d ∉ l := by
    have hsession : ∀ sessionId : UInt32, ascii "Session: " ++ decimal sessionId.toNat ≠ [] ∧
        0x0d ∉ ascii "Session: " ++ decimal sessionId.toNat :=
      fun sessionId => hjoin (htexts _ (by simp)) (hdecimal _)
    cases response with
    | options cseq =>
      simp only [Response.fields, List.forall_mem_cons]
      exact ⟨htexts _ (by simp), by simp⟩
    | describe cseq sdp =>
      simp only [Response.fields, List.forall_mem_cons]
      exact ⟨htexts _ (by simp), hjoin (htexts _ (by simp)) (hdecimal _), by simp⟩
    | setup cseq clientRtpPort clientRtcpPort serverRtpPort serverRtcpPort sessionId =>
      simp only [Response.fields, List.forall_mem_cons]
      refine ⟨?_, hsession sessionId, by simp⟩
      have hclient := hjoin (hjoin (hjoin (htexts (ascii "Transport: RTP/AVP;unicast;client_port=") (by simp))
        (decimalInt_notMem clientRtpPort)) (htexts (ascii "-") (by simp)).2) (decimalInt_notMem clientRtcpPort)
      have hserver := hjoin (hjoin (hjoin (hjoin hclient (htexts (ascii ";server_port=") (by simp)).2)
        (decimalInt_notMem serverRtpPort)) (htexts (ascii "-") (by simp)).2) (decimalInt_notMem serverRtcpPort)
      exact hjoin hserver (htexts (ascii ";ssrc=12345678") (by simp)).2
    | play cseq sessionId =>
      simp only [Response.fields, List.forall_mem_cons]
      exact ⟨hsession sessionId, htexts _ (by simp), by simp⟩
    | simpleOk cseq sessionId =>
      simp only [Response.fields, List.forall_mem_cons]
      exact ⟨hsession sessionId, by simp⟩
    | unsupportedTransport cseq | methodNotAllowed cseq => simp [Response.fields]
  refine ⟨by simp [Response.message], fun l hl => ?_, ?_⟩
  · simp only [Response.message, List.mem_cons] at hl
    rcases hl with rfl | rfl | hl
    · exact hjoin (htexts _ (by simp)) hstatus
    · exact hjoin (htexts _ (by simp)) (decimalInt_notMem _)
    · exact hfields l hl
  · cases response with
    | describe cseq sdp =>
      have hfield : field contentLength (Response.describe cseq sdp).message.head = some (decimal sdp.length) :=
        (field_describeHead cseq sdp.length).2
      rw [bodySize, hfield, Option.bind_some, number_decimal]
      rfl
    | _ => rfl

/-! ## Answers -/

/-- The methods that `process_request` knows. -/
def knownMethods : List Bytes :=
  [ascii "OPTIONS", ascii "DESCRIBE", ascii "SETUP", ascii "PLAY", ascii "GET_PARAMETER", ascii "TEARDOWN"]

/-- The response is one to the method of the request. -/
def Response.Suits (request : Bytes) : Response → Prop
  | .options _ => startsWith request (ascii "OPTIONS")
  | .describe _ _ => startsWith request (ascii "DESCRIBE")
  | .unsupportedTransport _ | .setup _ _ _ _ _ _ => startsWith request (ascii "SETUP")
  | .play _ _ => startsWith request (ascii "PLAY")
  | .simpleOk _ _ => startsWith request (ascii "GET_PARAMETER") ∨ startsWith request (ascii "TEARDOWN")
  | .methodNotAllowed _ => ∀ method ∈ knownMethods, ¬startsWith request method

/-- The response answers the request. -/
structure Reply (request : Bytes) (response : Response) : Prop where
  cseq : ∃ reader : IntReader, reader.Fits ∧ response.cseq = rtspRequestGetCseq reader request
  suits : response.Suits request
  fits : response.Fits

/-- All ports are those of an `int`. -/
def PortsFit (session : RTSPSession) : Prop :=
  ∀ port ∈ [session.clientRtpPort, session.clientRtcpPort, session.serverRtpPort, session.serverRtcpPort], IsInt port

theorem rtspSessionInit_portsFit (time pid : UInt32) : PortsFit (rtspSessionInit time pid) := by
  have hall : ∀ port ∈ [0, 0, 5000, 5001], IsInt port := by
    unfold IsInt intMin
    decide
  exact hall

theorem parseTransport_portsFit (reader : IntReader) {session : RTSPSession} (h : PortsFit session) (request : Bytes) :
    PortsFit (rtspSessionParseTransport reader session request).1 := by
  rcases parseTransport_cases reader session request with hparse | ⟨rtp, rtcp, h1, h2, h3, h4, hparse⟩
  · rw [hparse]
    exact h
  · rw [hparse]
    simp only [PortsFit, List.forall_mem_cons] at h ⊢
    exact ⟨by unfold IsInt intMin; omega, by unfold IsInt intMin; omega, h.2.2⟩

theorem length_sdpBuilderBuild {sps pps : Option Bytes} {sdp : Bytes} (h : sdpBuilderBuild sps pps 2048 = some sdp) :
    sdp.length < 2048 := by
  unfold sdpBuilderBuild at h
  split at h
  · split at h
    · cases h
    · split at h
      · dsimp only at h
        split at h
        · cases h
        · cases h
          omega
      · cases h
  · cases h

/-- **Every response answers its request.** -/
theorem processRequest_reply {reader : IntReader} (hreader : reader.Fits) (media : RTSPMedia) {session : RTSPSession}
    (hports : PortsFit session) (request : Bytes) :
    PortsFit (processRequest reader media session request).session ∧
      ∀ response, (processRequest reader media session request).response = some response → Reply request response := by
  have hcseq := hreader.cseq request
  have hplain : ∀ response : Response, response.cseq = rtspRequestGetCseq reader request → response.ports = [] →
      response.body = [] → response.Suits request → Reply request response := by
    intro response hnumber hports hbody hsuits
    refine ⟨⟨reader, hreader, hnumber⟩, hsuits, hnumber ▸ hcseq, ?_, ?_⟩
    · simp [hports]
    · simp [hbody]
  unfold processRequest
  dsimp only
  split
  · rename_i hmethod
    refine ⟨hports, ?_⟩
    rintro _ ⟨⟩
    exact hplain _ rfl rfl rfl hmethod
  split
  · rename_i hmethod
    unfold handleDescribe
    split
    · exact ⟨hports, by simp⟩
    · rename_i sdp hsdp
      dsimp only
      split
      · exact ⟨hports, by simp⟩
      · refine ⟨hports, ?_⟩
        rintro _ ⟨⟩
        exact ⟨⟨reader, hreader, rfl⟩, hmethod, hcseq, by simp [Response.ports], length_sdpBuilderBuild hsdp⟩
  split
  · rename_i hmethod
    have hafter := parseTransport_portsFit reader hports request
    unfold handleSetup
    generalize rtspSessionParseTransport reader session request = parsed at hafter ⊢
    obtain ⟨session', accepted⟩ := parsed
    cases accepted with
    | false =>
      refine ⟨hafter, ?_⟩
      rintro _ ⟨⟩
      exact hplain _ rfl rfl rfl hmethod
    | true =>
      refine ⟨hafter, ?_⟩
      rintro _ ⟨⟩
      exact ⟨⟨reader, hreader, rfl⟩, hmethod, hcseq, hafter, by simp [Response.body]⟩
  split
  · rename_i hmethod
    unfold handlePlay
    split
    · exact ⟨hports, by simp⟩
    · refine ⟨hports, ?_⟩
      rintro _ ⟨⟩
      exact hplain _ rfl rfl rfl hmethod
  split
  · rename_i hmethod
    refine ⟨hports, ?_⟩
    rintro _ ⟨⟩
    exact hplain _ rfl rfl rfl (.inl hmethod)
  split
  · rename_i hmethod
    refine ⟨hports, ?_⟩
    rintro _ ⟨⟩
    exact hplain _ rfl rfl rfl (.inr hmethod)
  · rename_i hoptions hdescribe hsetup hplay hgetParameter hteardown
    refine ⟨hports, ?_⟩
    rintro _ ⟨⟩
    refine hplain _ rfl rfl rfl ?_
    simp only [Response.Suits, knownMethods, List.forall_mem_cons]
    exact ⟨hoptions, hdescribe, hsetup, hplay, hgetParameter, hteardown, by simp⟩

/-! ## The dialogue -/

def observeResponse : List Response → ServerEvent → List Response
  | _, .connected _ => []
  | responses, .responded response => responses ++ [response]
  | responses, _ => responses

/-- What has been sent on the last connection. -/
def responses (events : List ServerEvent) : List Response := events.foldl observeResponse []

theorem responses_concat (past : List ServerEvent) (e : ServerEvent) :
    responses (past ++ [e]) = observeResponse (responses past) e := by
  simp [responses]

theorem responses_append {es : List ServerEvent}
    (h : ∀ e ∈ es, (∀ peer, e ≠ .connected peer) ∧ ∀ response, e ≠ .responded response) (past : List ServerEvent) :
    responses (past ++ es) = responses past := by
  unfold responses
  rw [List.foldl_append]
  generalize past.foldl observeResponse [] = sent
  induction es with
  | nil => rfl
  | cons e es ih =>
    have he := h e (by simp)
    have hsent : observeResponse sent e = sent := by
      cases e with
      | connected peer => exact absurd rfl (he.1 peer)
      | responded response => exact absurd rfl (he.2 response)
      | _ => rfl
    rw [List.foldl_cons, hsent]
    exact ih fun y hy => h y (by simp [hy])

/-- The requests that have no answer, where the server is: none in the client loop, one while it is being answered, and
at most one when the session is over. -/
def Server.Unanswered (s : Server) (requests : List Bytes) : Prop :=
  match s.pc with
  | .respond response _ => ∃ request, requests = [request] ∧ Reply request response
  | _ => (s.loopBuffer.isSome = true → requests = []) ∧ requests.length ≤ 1

/-- The requests of the last connection, each with its answer but for those that have none yet. -/
structure InDialogue (h : History Server ServerEvent) : Prop where
  ports : PortsFit h.state.session
  answers : ∃ (answered : List (Bytes × Response)) (rest : List Bytes),
    (exchange h.events).requested = answered.map (·.1) ++ rest ∧ responses h.events = answered.map (·.2) ∧
      (∀ p ∈ answered, Reply p.1 p.2) ∧ h.state.Unanswered rest

theorem inDialogue_start : InDialogue ⟨.start, []⟩ :=
  ⟨rtspSessionInit_portsFit 0 0, [], [], rfl, rfl, by simp, by simp [Server.Unanswered, Server.start]⟩

/-- What most steps leave alone. -/
structure Quiet (s s' : Server) : Prop where
  session : ∃ playing, s'.session = { s.session with playing := playing }
  pc : ∀ response after, s'.pc ≠ .respond response after
  loop : s'.loopBuffer.isSome = true → s.loopBuffer.isSome = true

theorem Quiet.of_pc {s s' : Server} (hsession : s'.session = s.session)
    (hpc : ∀ response after, s'.pc ≠ .respond response after)
    (hloop : s'.loopBuffer.isSome = true → s.loopBuffer.isSome = true) : Quiet s s' :=
  ⟨⟨s.session.playing, by rw [hsession]⟩, hpc, hloop⟩

theorem afterStop_quiet {s s' : Server} (after : AfterStop)
    (hsession : ∃ playing, s'.session = { s.session with playing := playing }) : Quiet s (afterStop s' after).1 := by
  cases after <;> exact ⟨hsession, by simp [afterStop], by simp [afterStop, Server.loopBuffer]⟩

theorem waitResult_quiet {s : Server} {waiting : Waiting} (ret : Int)
    (hpc : s.pc = .waitCheck waiting ∨ s.pc = .waitPoll waiting) : Quiet s (waitResult s waiting ret) := by
  cases waiting with
  | listener =>
    simp only [waitResult]
    repeat' split
    all_goals exact .of_pc rfl (by simp) (by simp [Server.loopBuffer])
  | client =>
    have hloop : s.loopBuffer = some s.buffer := by rcases hpc with hpc | hpc <;> simp [Server.loopBuffer, hpc]
    simp only [waitResult]
    split <;> exact .of_pc rfl (by simp) (by simp [hloop])

theorem waitPoll_quiet (config : RTSPServerConfig) (answers : ServerAnswers) {s : Server} {waiting : Waiting}
    (hpc : s.pc = .waitPoll waiting) : Quiet s (waitPoll config answers s waiting).1 := by
  have hresult := fun ret => waitResult_quiet ret (.inr hpc)
  have hagain : Quiet s { s with pc := .waitCheck waiting } := by
    refine .of_pc rfl (by simp) ?_
    cases waiting <;> simp [hpc, Server.loopBuffer]
  unfold waitPoll
  split
  · exact hagain
  · exact hresult (-1)
  · split
    · exact hresult 0
    · split
      · exact hresult 1
      · split
        · exact hresult (-1)
        · exact hagain

/-- **A step of the server** other than `accept`, `process_request` and the sending of a response. -/
theorem controlStep_quiet (config : RTSPServerConfig) (answers : ServerAnswers) {s : Server}
    (haccept : s.pc ≠ .accept) (hprocess : ∀ request, s.pc ≠ .process request)
    (hrespond : ∀ response after, s.pc ≠ .respond response after) : Quiet s (controlStep config answers s).1 := by
  unfold controlStep
  cases hpc : s.pc with
  | accept => exact absurd hpc haccept
  | process request => exact absurd hpc (hprocess request)
  | respond response after => exact absurd hpc (hrespond response after)
  | boot =>
    simp only [boot]
    repeat' split
    all_goals exact .of_pc rfl (by simp) (by simp [Server.loopBuffer])
  | waitCheck waiting =>
    dsimp only
    split
    · exact waitResult_quiet 0 (.inl hpc)
    · refine .of_pc rfl (by simp) ?_
      cases waiting <;> simp [hpc, Server.loopBuffer]
  | waitPoll waiting => exact waitPoll_quiet config answers hpc
  | recv =>
    simp only [receive]
    split <;> exact .of_pc rfl (by simp) (by simp [hpc, Server.loopBuffer])
  | startCheck =>
    simp only [startCheck]
    split
    · exact .of_pc rfl (by simp) (by simp [Server.loopBuffer])
    · split
      · exact .of_pc rfl (by simp [requestDone]) (by simp [hpc, Server.loopBuffer])
      · exact ⟨⟨true, rfl⟩, by simp, by simp [hpc, Server.loopBuffer]⟩
  | create =>
    simp only [createThread]
    split
    · exact .of_pc rfl (by simp) (by simp [Server.loopBuffer])
    · exact .of_pc rfl (by simp [requestDone]) (by simp [hpc, Server.loopBuffer])
  | startFail => exact ⟨⟨false, rfl⟩, by simp [startFail], by simp [startFail, Server.loopBuffer]⟩
  | stopFlags after =>
    cases after with
    | close =>
      simp only [stopFlags, if_true]
      split
      · exact .of_pc rfl (by simp) (by simp [Server.loopBuffer])
      · exact afterStop_quiet .close ⟨s.session.playing, rfl⟩
    | session | teardown =>
      simp only [stopFlags, reduceCtorEq, if_false]
      split
      · exact ⟨⟨false, rfl⟩, by simp, by simp [Server.loopBuffer]⟩
      · exact afterStop_quiet _ ⟨false, rfl⟩
  | join after =>
    simp only [join]
    split
    · split <;> exact .of_pc rfl (by simp [hpc]) (by simp [Server.loopBuffer, hpc])
    · exact .of_pc rfl (by simp) (by simp [Server.loopBuffer])
  | joined after => exact afterStop_quiet after ⟨s.session.playing, rfl⟩
  | serverHead | clientHead | cleanup =>
    dsimp only
    split <;> exact .of_pc rfl (by simp) (by simp [hpc, Server.loopBuffer])
  | closeClient | leave | closeMedia | returned =>
    exact .of_pc rfl (by simp [hpc, closeMedia]) (by simp [hpc, closeMedia, Server.loopBuffer])

/-! ## Every step -/

theorem requested_append {es : List ServerEvent}
    (h : ∀ e ∈ es, (∀ peer, e ≠ .connected peer) ∧ ∀ request, e ≠ .requested request) (past : List ServerEvent) :
    (exchange (past ++ es)).requested = (exchange past).requested := by
  unfold exchange
  rw [List.foldl_append]
  generalize past.foldl observeExchange ⟨[], []⟩ = x
  induction es generalizing x with
  | nil => rfl
  | cons e es ih =>
    have he := h e (by simp)
    have hx : (observeExchange x e).requested = x.requested := by
      cases e with
      | connected peer => exact absurd rfl (he.1 peer)
      | requested request => exact absurd rfl (he.2 request)
      | _ => rfl
    rw [List.foldl_cons, ih (fun y hy => h y (by simp [hy])), hx]

theorem unanswered_iff {s : Server} (h : ∀ response after, s.pc ≠ .respond response after) (requests : List Bytes) :
    s.Unanswered requests ↔ (s.loopBuffer.isSome = true → requests = []) ∧ requests.length ≤ 1 := by
  unfold Server.Unanswered
  split
  · rename_i response after hpc
    exact absurd hpc (h response after)
  · rfl

/-- Events that are no part of the dialogue. -/
def NoDialogue (es : List ServerEvent) : Prop :=
  ∀ e ∈ es, (∀ peer, e ≠ .connected peer) ∧ (∀ request, e ≠ .requested request) ∧ ∀ response, e ≠ .responded response

section Step

variable {h : History Server ServerEvent}

theorem InDialogue.beside (hd : InDialogue h) {s' : Server} {es : List ServerEvent} (hes : NoDialogue es)
    (hsession : ∃ playing, s'.session = { h.state.session with playing := playing })
    (hrest : ∀ rest, h.state.Unanswered rest → s'.Unanswered rest) : InDialogue ⟨s', h.events ++ es⟩ := by
  obtain ⟨answered, rest, hrequested, hresponses, hreplies, hnow⟩ := hd.answers
  obtain ⟨playing, hsession⟩ := hsession
  refine ⟨?_, answered, rest, ?_, ?_, hreplies, hrest rest hnow⟩
  · rw [hsession]
    exact hd.ports
  · rw [requested_append fun e he => ⟨(hes e he).1, (hes e he).2.1⟩]
    exact hrequested
  · rw [responses_append fun e he => ⟨(hes e he).1, (hes e he).2.2⟩]
    exact hresponses

theorem acceptClient_dialogue (answers : ServerAnswers) (hd : InDialogue h) (hpc : h.state.pc = .accept) :
    InDialogue ⟨(acceptClient answers h.state).1, h.events ++ (acceptClient answers h.state).2⟩ := by
  have hnow : ∀ rest, h.state.Unanswered rest → rest.length ≤ 1 := fun rest hrest =>
    ((unanswered_iff (by simp [hpc]) rest).mp hrest).2
  unfold acceptClient
  cases answers.accept with
  | interrupted | failed =>
    refine hd.beside (by simp [NoDialogue]) ⟨h.state.session.playing, rfl⟩ fun rest hrest => ?_
    exact (unanswered_iff (by simp) rest).mpr ⟨by simp [Server.loopBuffer], hnow rest hrest⟩
  | accepted fd peer printed =>
    dsimp only
    rw [List.append_cons]
    refine ⟨rtspSessionInit_portsFit answers.time answers.pid, [], [], ?_, ?_, by simp, by simp [Server.Unanswered]⟩
    · rw [exchange_concat]
      rfl
    · rw [responses_concat]
      rfl

/-- `process_request` is called; its response, if any, answers the request. -/
theorem process_dialogue {answers : ServerAnswers} (hreader : answers.reader.Fits) (hd : InDialogue h)
    {request : Bytes} (hpc : h.state.pc = .process request) :
    InDialogue ⟨(process answers h.state request).1, h.events ++ (process answers h.state request).2⟩ := by
  obtain ⟨answered, rest, hrequested, hresponses, hreplies, hnow⟩ := hd.answers
  have hrest : rest = [] :=
    ((unanswered_iff (by simp [hpc]) rest).mp hnow).1 (by simp [Server.loopBuffer, hpc])
  rw [hrest, List.append_nil] at hrequested
  obtain ⟨hports, hreply⟩ := processRequest_reply hreader h.state.media hd.ports request
  have hnext : (exchange (h.events ++ [.requested request])).requested = answered.map (·.1) ++ [request] := by
    rw [exchange_concat, ← hrequested]
    rfl
  have hsame : responses (h.events ++ [.requested request]) = answered.map (·.2) := by
    rw [responses_append (by simp), hresponses]
  unfold process
  dsimp only
  split
  · refine ⟨hports, answered, [request], hnext, hsame, hreplies, ?_⟩
    exact (unanswered_iff (by simp) _).mpr ⟨by simp [Server.loopBuffer], le_rfl⟩
  · rename_i response hresponse
    exact ⟨hports, answered, [request], hnext, hsame, hreplies, request, rfl, hreply response hresponse⟩

theorem respond_dialogue (answers : ServerAnswers) (hd : InDialogue h) {response : Response} {after : AfterResponse}
    (hpc : h.state.pc = .respond response after) :
    InDialogue ⟨(respond answers h.state response after).1,
      h.events ++ (respond answers h.state response after).2⟩ := by
  obtain ⟨answered, rest, hrequested, hresponses, hreplies, hnow⟩ := hd.answers
  have hwaiting : ∃ request, rest = [request] ∧ Reply request response := by
    simpa only [Server.Unanswered, hpc] using hnow
  obtain ⟨request, rfl, hreply⟩ := hwaiting
  have hsame : (exchange (h.events ++ [.responded response])).requested =
      (answered ++ [(request, response)]).map (·.1) ++ [] := by
    rw [requested_append (by simp), hrequested]
    simp
  have hnext : responses (h.events ++ [.responded response]) = (answered ++ [(request, response)]).map (·.2) := by
    rw [responses_concat, hresponses]
    simp [observeResponse]
  have hall : ∀ p ∈ answered ++ [(request, response)], Reply p.1 p.2 := by
    intro p hp
    rcases List.mem_append.mp hp with hp | hp
    · exact hreplies p hp
    · rw [List.mem_singleton.mp hp]
      exact hreply
  have hanswered : ∀ s' : Server, s'.session = h.state.session → (∀ response after, s'.pc ≠ .respond response after) →
      InDialogue ⟨s', h.events ++ [.responded response]⟩ := by
    intro s' hsession hgoes
    refine ⟨?_, answered ++ [(request, response)], [], hsame, hnext, hall, ?_⟩
    · rw [hsession]
      exact hd.ports
    · exact (unanswered_iff hgoes []).mpr ⟨fun _ => rfl, Nat.zero_le 1⟩
  -- a response that was not sent ends the session
  have hfailed : ∀ stop, InDialogue ⟨{ h.state with pc := .stopFlags stop }, h.events ++ []⟩ := by
    intro stop
    rw [List.append_nil]
    refine ⟨hd.ports, answered, [request], hrequested, hresponses, hreplies, ?_⟩
    exact (unanswered_iff (by simp) _).mpr ⟨by simp [Server.loopBuffer], le_rfl⟩
  unfold respond
  dsimp only
  cases sendAll answers.sends response.render.length with
  | true =>
    cases after with
    | teardown | done | start => exact hanswered _ rfl (by simp [requestDone])
  | false =>
    cases after with
    | teardown | done | start => exact hfailed _

/-- **Every step** keeps the dialogue. -/
theorem serverStep_dialogue (config : RTSPServerConfig) {move : Move} (hd : InDialogue h)
    (hreader : ∀ answers, move = .control answers → answers.reader.Fits) :
    InDialogue (advance (serverStep config) h move) := by
  unfold advance
  cases move with
  | media answers =>
    simp only [serverStep, mediaStep]
    cases ht : h.state.thread with
    | none =>
      rw [List.append_nil]
      exact hd
    | some t =>
      have hframe := threadStep_frame answers ⟨h.state.media, h.state.session, t⟩
      refine hd.beside ?_ ?_ fun rest hrest => hrest
      · intro e he
        rcases List.mem_append.mp he with he | he
        · obtain ⟨_, -, rfl⟩ := List.mem_map.mp he
          simp
        · split at he
          · rw [List.mem_singleton.mp he]
            simp
          · cases he
      · rcases hframe.session with hsame | hstopped
        · exact ⟨h.state.session.playing, hsame⟩
        · exact ⟨false, hstopped⟩
  | control answers =>
    simp only [serverStep]
    by_cases haccept : h.state.pc = .accept
    · simpa only [controlStep, haccept] using acceptClient_dialogue answers hd haccept
    by_cases hprocess : ∃ request, h.state.pc = .process request
    · obtain ⟨request, hpc⟩ := hprocess
      simpa only [controlStep, hpc] using process_dialogue (hreader answers rfl) hd hpc
    by_cases hrespond : ∃ response after, h.state.pc = .respond response after
    · obtain ⟨response, after, hpc⟩ := hrespond
      simpa only [controlStep, hpc] using respond_dialogue answers hd hpc
    · have hnot : ∀ response after, h.state.pc ≠ .respond response after := fun response after hpc =>
        hrespond ⟨response, after, hpc⟩
      have hquiet := controlStep_quiet config answers haccept (fun request hpc => hprocess ⟨request, hpc⟩) hnot
      refine hd.beside ?_ hquiet.session fun rest hrest => ?_
      · intro e he
        obtain ⟨hat, hreturns⟩ := controlStep_place config answers h.state e he
        refine ⟨?_, ?_, ?_⟩
        · rintro peer rfl
          exact haccept hat
        · rintro request rfl
          exact hprocess ⟨request, hat⟩
        · rintro response rfl
          exact hrespond hreturns
      · obtain ⟨hloop, hone⟩ := (unanswered_iff hnot rest).mp hrest
        exact (unanswered_iff hquiet.pc rest).mpr ⟨fun hnow => hloop (hquiet.loop hnow), hone⟩

end Step

/-! ## Runs -/

/-- The message is the answer to the request that a client finds: it shows the CSeq of the request, and is one of the
responses to its method. -/
def Answers (request : Bytes) (message : Message) : Prop :=
  (∃ reader : IntReader, reader.Fits ∧
    field (ascii "CSeq: ") message.head = some (decimalInt (rtspRequestGetCseq reader request))) ∧
    ∃ response : Response, response.Suits request ∧ message = response.message

theorem Reply.answers {request : Bytes} {response : Response} (h : Reply request response) :
    Answers request response.message := by
  obtain ⟨reader, hreader, hcseq⟩ := h.cseq
  refine ⟨⟨reader, hreader, ?_⟩, response, h.suits, rfl⟩
  have hother : field (ascii "CSeq: ") [ascii "RTSP/1.0 " ++ response.status] = none := rfl
  have hfound := field_append_none hother ((ascii "CSeq: " ++ decimalInt response.cseq) :: response.fields)
  rw [field_here] at hfound
  rw [← hcseq]
  exact hfound

/-- **What a client reads** on its connection, in every run of the server and under every interleaving with the media
thread: a stream of complete messages, one for each text that the client loop takes from what `recv` has answered, in the
same order, but for the last text, which may have none. -/
theorem serverRun_dialogue (config : RTSPServerConfig) {moves : List Move}
    (hreaders : ∀ answers, .control answers ∈ moves → answers.reader.Fits) :
    let h := serverRun config moves
    ∃ messages answered rest, readStream contentLength ((responses h.events).flatMap Response.render) = some messages ∧
      loopTexts [] (exchange h.events).received = answered ++ rest ∧ rest.length ≤ 1 ∧
      List.Forall₂ Answers answered messages := by
  intro h
  have hd : InDialogue h := by
    refine run_induction (serverStep config) inDialogue_start fun past move hpast hd => ?_
    refine serverStep_dialogue config hd ?_
    rintro answers rfl
    exact hreaders answers (hpast.subset (by simp))
  obtain ⟨answered, rest, hrequested, hresponses, hreplies, hnow⟩ := hd.answers
  have htexts : loopTexts [] (exchange h.events).received = answered.map (·.1) ++ (rest ++ h.state.pc.calling) := by
    rw [← List.append_assoc, ← hrequested]
    exact serverRun_requests config moves
  have hone : (rest ++ h.state.pc.calling).length ≤ 1 := by
    by_cases hcalled : ∃ request, h.state.pc = .process request
    · obtain ⟨request, hpc⟩ := hcalled
      have hnone : rest = [] := ((unanswered_iff (by simp [hpc]) rest).mp hnow).1 (by simp [Server.loopBuffer, hpc])
      simp [hnone, hpc, ServerPc.calling]
    · have hcalling : h.state.pc.calling = [] := by
        unfold ServerPc.calling
        split
        · rename_i request hpc
          exact absurd ⟨request, hpc⟩ hcalled
        · rfl
      rw [hcalling, List.append_nil]
      unfold Server.Unanswered at hnow
      split at hnow
      · obtain ⟨request, rfl, -⟩ := hnow
        exact le_rfl
      · exact hnow.2
  have hbytes : (responses h.events).flatMap Response.render =
      (answered.map fun p => p.2.message).flatMap Message.layout := by
    rw [hresponses, List.flatMap_map, List.flatMap_map]
    exact List.flatMap_congr fun p hp => render_layout (hreplies p hp).fits
  refine ⟨answered.map fun p => p.2.message, answered.map (·.1), _, ?_, htexts, hone, ?_⟩
  · rw [hbytes]
    apply readStream_layout
    intro m hm
    obtain ⟨p, -, rfl⟩ := List.mem_map.mp hm
    exact message_framed p.2
  · rw [List.forall₂_map_left_iff, List.forall₂_map_right_iff, List.forall₂_same]
    exact fun p hp => (hreplies p hp).answers

/-- A SETUP and a PLAY are answered. -/
theorem serverRun_dialogue_play :
    let h := serverRun homeConfig (serves (setupRequest "6000-6001") 11 ++ serves playRequest 8)
    ∃ setup play, readStream contentLength ((responses h.events).flatMap Response.render) = some [setup, play] ∧
      Answers (setupRequest "6000-6001") setup ∧ Answers playRequest play := by
  intro h
  have hreaders : ∀ answers, .control answers ∈ serves (setupRequest "6000-6001") 11 ++ serves playRequest 8 →
      answers.reader.Fits := by
    intro answers hanswers
    have hreader : answers.reader = ⟨fun _ => 0⟩ := by
      rcases List.mem_append.mp hanswers with hmem | hmem
      · cases List.eq_of_mem_replicate hmem
        rfl
      · cases List.eq_of_mem_replicate hmem
        rfl
    have hzero : intMin ≤ 0 ∧ (0 : Int) ≤ 2147483647 := by decide
    rw [hreader]
    exact fun _ => hzero
  have htexts : loopTexts [] (exchange h.events).received = [setupRequest "6000-6001", playRequest] := by
    decide +kernel
  have hcount : (readStream contentLength ((responses h.events).flatMap Response.render)).map List.length = some 2 := by
    decide +kernel
  obtain ⟨messages, answered, rest, hread, hsplit, -, hanswers⟩ := serverRun_dialogue homeConfig hreaders
  have hlength : messages.length = 2 := by
    rw [show readStream contentLength _ = some messages from hread, Option.map_some] at hcount
    exact Option.some.inj hcount
  obtain ⟨setup, play, rfl⟩ := List.length_eq_two.mp hlength
  refine ⟨setup, play, hread, ?_⟩
  have hboth := htexts.symm.trans hsplit
  have htwo := hanswers.length_eq
  obtain ⟨a, b, rfl⟩ := List.length_eq_two.mp htwo
  simp only [List.cons_append, List.cons.injEq] at hboth
  obtain ⟨rfl, rfl, -⟩ := hboth
  simpa using hanswers

end MiniRtsp.Rtsp
