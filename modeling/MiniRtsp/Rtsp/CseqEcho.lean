import MiniRtsp.Rtsp.Transport

/-!
# The CSeq of a response

`rtsp_request_get_cseq` looks for `CSeq:` anywhere in the request. `CseqRequest` is a request laid out in lines, with one
header of that name; the number that is found is the one of the header unless `CSeq:` also stands in a line before it and
another number is read there (`CseqRequest.getCseq_iff`). Every response shows the number that was found
(`cseqLine_response`).
-/

namespace MiniRtsp.Rtsp

open Lines Occurrence Text

/-! ## Requests in lines -/

/-- A line of a request. -/
structure Line where
  content : Bytes
  ending : Bytes
  noBreak : 0x0d ∉ content ∧ 0x0a ∉ content
  ends : ending = ascii "\r\n" ∨ ending = ascii "\n"

def Line.text (line : Line) : Bytes := line.content ++ line.ending

def cseqName : Bytes := ascii "CSeq:"

/-- A blank or a tab. -/
def IsBlank (b : UInt8) : Prop := b = 0x20 ∨ b = 0x09

/-- A request line and header lines, exactly one of which is named `CSeq`. -/
structure CseqRequest where
  requestLine : Line
  earlier : List Line
  blanks : Bytes
  digits : Bytes
  trailing : Bytes
  ending : Bytes
  later : List Line
  /-- The empty line and what follows it. -/
  rest : Bytes
  blanks_ok : ∀ b ∈ blanks, IsBlank b
  digits_ok : digits ≠ [] ∧ digits.all isDigit = true
  trailing_ok : ∀ b ∈ trailing, IsBlank b
  ends : ending = ascii "\r\n" ∨ ending = ascii "\n"
  only : ∀ line ∈ earlier ++ later, ¬ cseqName <+: line.content
  small : digitsValue digits ≤ 2147483647

namespace CseqRequest

/-- The lines before the CSeq header. -/
def front (r : CseqRequest) : Bytes := (r.requestLine :: r.earlier).flatMap Line.text

/-- What follows the name of the CSeq header. -/
def behind (r : CseqRequest) : Bytes :=
  r.blanks ++ r.digits ++ (r.trailing ++ r.ending ++ r.later.flatMap Line.text ++ r.rest)

def text (r : CseqRequest) : Bytes := r.front ++ (cseqName ++ r.behind)

/-- The number of the CSeq header. -/
def value (r : CseqRequest) : Nat := digitsValue r.digits

/-- `CSeq:` stands in a line before the header, and another number is read behind it. -/
def Decoy (reader : IntReader) (r : CseqRequest) : Prop :=
  ∃ a b, FirstSplit cseqName r.front a b ∧ atoi reader (b ++ (cseqName ++ r.behind)) ≠ r.value

end CseqRequest

/-! ## The number that is found -/

theorem flatMap_text_ends {ls : List Line} (hls : ls ≠ []) : ∃ p, ls.flatMap Line.text = p ++ [0x0a] := by
  obtain ⟨init, last, rfl⟩ := List.eq_nil_or_concat ls |>.resolve_left hls
  have hend : ∃ p, last.text = p ++ [0x0a] := by
    unfold Line.text
    rcases last.ends with h | h
    · exact ⟨last.content ++ [0x0d], by rw [h]; simp [ascii]⟩
    · exact ⟨last.content, by rw [h]; simp [ascii]⟩
  obtain ⟨p, hp⟩ := hend
  exact ⟨init.flatMap Line.text ++ p, by simp [hp]⟩

theorem isDigit_unsigned : ∀ d : UInt8, isDigit d = true → isSpace d = false ∧ d ≠ 0x2d ∧ d ≠ 0x2b :=
  Wire.forall_byte (by decide +kernel)

theorem scanInt_unsigned {text ds : Bytes} {d : UInt8} (h : text.dropWhile isSpace = d :: ds) (hminus : d ≠ 0x2d)
    (hplus : d ≠ 0x2b) (hdigits : (d :: ds).takeWhile isDigit ≠ []) :
    scanInt text = some ((digitsValue ((d :: ds).takeWhile isDigit) : Int), (d :: ds).dropWhile isDigit) := by
  unfold scanInt
  rw [h]
  dsimp only
  split
  · next hd => exact absurd (List.cons.inj hd).1 hminus
  · next hd => exact absurd (List.cons.inj hd).1 hplus
  · exact if_neg hdigits

/-- Blanks, digits and what is none are read as the number of the digits. -/
theorem scanInt_digits {blanks digits rest : Bytes} (hblanks : ∀ b ∈ blanks, IsBlank b) (hne : digits ≠ [])
    (hdigits : digits.all isDigit = true) (hrest : rest.takeWhile isDigit = []) :
    scanInt (blanks ++ digits ++ rest) = some ((digitsValue digits : Int), rest.dropWhile isDigit) := by
  obtain ⟨d, ds, rfl⟩ := List.exists_cons_of_ne_nil hne
  have hd : isDigit d = true := List.all_eq_true.mp hdigits d (List.mem_cons_self ..)
  have hspace : ∀ b ∈ blanks, isSpace b = true := fun b hb => by
    rcases hblanks b hb with rfl | rfl <;> rfl
  obtain ⟨hnospace, hminus, hplus⟩ := isDigit_unsigned d hd
  have hskip : (blanks ++ (d :: ds) ++ rest).dropWhile isSpace = d :: (ds ++ rest) := by
    rw [List.append_assoc, List.dropWhile_append_of_pos hspace, List.cons_append,
      List.dropWhile_cons_of_neg (by simp [hnospace])]
  have hall : ∀ b ∈ d :: ds, isDigit b = true := List.all_eq_true.mp hdigits
  have htake : (d :: (ds ++ rest)).takeWhile isDigit = d :: ds := by
    rw [← List.cons_append, List.takeWhile_append_of_pos hall, hrest, List.append_nil]
  have hdrop : (d :: (ds ++ rest)).dropWhile isDigit = rest.dropWhile isDigit := by
    rw [← List.cons_append, List.dropWhile_append_of_pos hall]
  rw [scanInt_unsigned hskip hminus hplus (by rw [htake]; simp), htake, hdrop]

namespace CseqRequest

theorem atoi_behind (reader : IntReader) (r : CseqRequest) : atoi reader r.behind = r.value := by
  have hrest : (r.trailing ++ r.ending ++ r.later.flatMap Line.text ++ r.rest).takeWhile isDigit = [] := by
    rcases htrailing : r.trailing with _ | ⟨b, bs⟩
    · rcases r.ends with h | h <;> simp [h, ascii, isDigit]
    · have hb := r.trailing_ok b (by rw [htrailing]; exact List.mem_cons_self ..)
      rcases hb with rfl | rfl <;> simp [isDigit]
  have hsmall := r.small
  unfold atoi behind
  rw [scanInt_digits r.blanks_ok r.digits_ok.1 r.digits_ok.2 hrest]
  dsimp only
  unfold IntReader.deliver intMin
  rw [if_pos (by omega)]
  rfl

/-- **The number that is found** is the one of the CSeq header exactly when no other one stands before it. -/
theorem getCseq_iff (reader : IntReader) (r : CseqRequest) :
    rtspRequestGetCseq reader r.text = r.value ↔ ¬ r.Decoy reader := by
  have hfound : ∀ {a b}, FirstSplit cseqName r.text a b → rtspRequestGetCseq reader r.text = atoi reader b := by
    intro a b h
    have hseek : seek (ascii "CSeq:") r.text = some (cseqName ++ b) := h.seek_eq
    unfold rtspRequestGetCseq
    rw [hseek]
    rfl
  obtain ⟨p, hp⟩ := flatMap_text_ends (List.cons_ne_nil r.requestLine r.earlier)
  by_cases hin : cseqName <:+: r.front
  · obtain ⟨a, b, hsplit⟩ := exists_firstSplit hin
    rw [hfound (hsplit.append_right (cseqName ++ r.behind))]
    constructor
    · rintro heq ⟨a', b', hsplit', hne⟩
      rw [← (hsplit.unique hsplit').2] at hne
      exact hne heq
    · intro hnot
      by_contra hne
      exact hnot ⟨a, b, hsplit, hne⟩
  · have hsplit : FirstSplit cseqName r.text r.front r.behind := by
      have hbehind := @firstSplit_behind _ cseqName p 0x0a (by decide) (by rw [← hp]; exact hin) r.behind
      rw [← hp] at hbehind
      exact hbehind
    rw [hfound hsplit, atoi_behind]
    exact iff_of_true rfl fun ⟨a, b, h, _⟩ => hin h.infix

end CseqRequest

/-! ## The responses -/

/-- The number a response shows. -/
def Response.cseq : Response → Int
  | .options cseq | .describe cseq _ | .unsupportedTransport cseq | .setup cseq _ _ _ _ _ | .play cseq _
  | .simpleOk cseq _ | .methodNotAllowed cseq => cseq

/-- The value of the CSeq line of a text. -/
def cseqLine (text : Bytes) : Option Bytes := field (ascii "CSeq: ") (lines text)

/-- Every response begins with a status line and its CSeq line. -/
theorem render_head (response : Response) : ∃ status ∈ [ascii "200 OK", ascii "461 Unsupported Transport",
    ascii "405 Method Not Allowed"], ∃ size text, 256 ≤ size ∧ response.render = snprintf size text ∧
      responseHead status response.cseq <+: text := by
  cases response with
  | options => exact ⟨ascii "200 OK", by simp, 512, _, by omega, rfl, by simp [Response.cseq]⟩
  | describe => exact ⟨ascii "200 OK", by simp, 3072, _, by omega, rfl, by simp [Response.cseq, describeText]⟩
  | unsupportedTransport =>
    exact ⟨ascii "461 Unsupported Transport", by simp, 256, _, by omega, rfl, by simp [Response.cseq]⟩
  | setup => exact ⟨ascii "200 OK", by simp, 512, _, by omega, rfl, by simp [Response.cseq]⟩
  | play => exact ⟨ascii "200 OK", by simp, 512, _, by omega, rfl, by simp [Response.cseq]⟩
  | simpleOk => exact ⟨ascii "200 OK", by simp, 512, _, by omega, rfl, by simp [Response.cseq]⟩
  | methodNotAllowed => exact ⟨ascii "405 Method Not Allowed", by simp, 256, _, by omega, rfl, by simp [Response.cseq]⟩

/-- **The CSeq line of a response** shows its number. -/
theorem cseqLine_response {response : Response} (h : intMin ≤ response.cseq ∧ response.cseq ≤ 2147483647) :
    cseqLine response.render = some (decimalInt response.cseq) := by
  obtain ⟨status, hstatus, size, _, hsize, hrender, rest, rfl⟩ := render_head response
  have hcr : 0x0d ∉ ascii "RTSP/1.0 " ++ status ∧ status.length ≤ 25 ∧
      ∀ ls, field (ascii "CSeq: ") ((ascii "RTSP/1.0 " ++ status) :: ls) = field (ascii "CSeq: ") ls := by
    simp only [List.mem_cons, List.not_mem_nil, or_false] at hstatus
    rcases hstatus with rfl | rfl | rfl
    · exact ⟨by decide, by decide, fun ls => rfl⟩
    · exact ⟨by decide, by decide, fun ls => rfl⟩
    · exact ⟨by decide, by decide, fun ls => rfl⟩
  obtain ⟨hstatusCr, hstatusLen, hfield⟩ := hcr
  have hnumber := length_decimalInt h
  have htexts : (ascii "RTSP/1.0 ").length = 9 ∧ (ascii "CSeq: ").length = 6 ∧ crlf.length = 2 ∧
      0x0d ∉ ascii "CSeq: " := by
    decide
  obtain ⟨h1, h2, h3, hcr⟩ := htexts
  have hlen : (responseHead status response.cseq).length ≤ size - 1 := by
    simp only [responseHead, List.length_append, h1, h2, h3]
    omega
  have hlayout : snprintf size (responseHead status response.cseq ++ rest) = (ascii "RTSP/1.0 " ++ status) ++
      (lineEnd ++ ((ascii "CSeq: " ++ decimalInt response.cseq) ++
        (lineEnd ++ rest.take (size - 1 - (responseHead status response.cseq).length)))) := by
    unfold snprintf
    rw [List.take_append, List.take_of_length_le hlen]
    simp only [responseHead, show crlf = lineEnd from by decide, List.append_assoc]
  unfold cseqLine
  rw [hrender, hlayout, lines_append hstatusCr, hfield, lines_append (by simp [hcr, decimalInt_notMem]), field_here]

/-- What process_request answers shows the number that was found. -/
theorem processRequest_cseq {reader : IntReader} {media : RTSPMedia} {session : RTSPSession} {request : Bytes}
    {response : Response} (h : (processRequest reader media session request).response = some response) :
    response.cseq = rtspRequestGetCseq reader request := by
  revert h
  unfold processRequest handleOptions handleDescribe handleSetup handlePlay
  dsimp only
  repeat' split
  all_goals
    intro h
    first
    | cases h
      rfl
    | cases h

/-- A pipeline with parameter sets that can be described. -/
def describableMedia : RTSPMedia :=
  { RTSPMedia.zero with sps := some [0x67, 0x64, 0, 0x1f, 0xac], pps := some [0x68, 0xee, 0x3c] }

/-- With parameter sets and a port every request is answered. -/
theorem processRequest_answers {reader : IntReader} (hreader : reader.Fits) {session : RTSPSession}
    (hport : 0 < session.clientRtpPort) (request : Bytes) :
    ∃ response, (processRequest reader describableMedia session request).response = some response := by
  have hdescribe := @handleDescribe_eq reader hreader describableMedia _ _ rfl rfl session request
  rw [if_pos (by decide)] at hdescribe
  unfold processRequest
  dsimp only
  repeat' split
  · exact ⟨_, rfl⟩
  · rw [hdescribe]
    exact ⟨_, rfl⟩
  · unfold handleSetup
    dsimp only
    split
    · exact ⟨_, rfl⟩
    · exact ⟨_, rfl⟩
  · rw [handlePlay, if_neg (by omega)]
    exact ⟨_, rfl⟩
  · exact ⟨_, rfl⟩
  · exact ⟨_, rfl⟩
  · exact ⟨_, rfl⟩

/-- Different numbers are printed differently. -/
theorem decimalInt_eq_decimal {m : Int} {n : Nat} (h : decimalInt m = decimal n) : m = n := by
  cases m with
  | ofNat m =>
    have hread := congrArg number h
    have hm : number (decimalInt (.ofNat m)) = some m := number_decimal m
    rw [hm, number_decimal, Option.some_inj] at hread
    rw [hread]
    rfl
  | negSucc m =>
    -- a number begins with a digit
    have hdigit := List.all_eq_true.mp (decimal_digits n).2.1 0x2d (by rw [← h]; simp [decimalInt, ascii])
    exact absurd hdigit (by decide)

/-- **The CSeq of a request is echoed** in every response exactly when `CSeq:` does not also stand in a line before the
header with another number behind it. -/
theorem processRequest_echoes {reader : IntReader} (hreader : reader.Fits) (r : CseqRequest) :
    (∀ media session response, (processRequest reader media session r.text).response = some response →
        cseqLine response.render = some (decimal r.value)) ↔
      ¬ r.Decoy reader := by
  rw [← r.getCseq_iff]
  have hline : ∀ {media session response}, (processRequest reader media session r.text).response = some response →
      cseqLine response.render = some (decimalInt (rtspRequestGetCseq reader r.text)) := by
    intro media session response h
    have hcseq := processRequest_cseq h
    rw [← hcseq]
    exact cseqLine_response (by rw [hcseq]; exact hreader.cseq _)
  constructor
  · intro hall
    have hport : 0 < { rtspSessionInit 0 0 with clientRtpPort := 6000 }.clientRtpPort := by decide
    obtain ⟨response, hresponse⟩ := processRequest_answers hreader hport r.text
    have hshown := hall _ _ _ hresponse
    rw [hline hresponse, Option.some_inj] at hshown
    exact decimalInt_eq_decimal hshown
  · intro hfound media session response h
    rw [hline h, hfound]
    rfl

/-! ## Two requests -/

/-- A line that ends in CRLF. -/
def crlfLine (content : Bytes) (h : 0x0d ∉ content ∧ 0x0a ∉ content) : Line := ⟨content, ascii "\r\n", h, .inl rfl⟩

/-- An OPTIONS request with `CSeq: 2`. -/
def uriRequest (requestLine : Line) : CseqRequest where
  requestLine := requestLine
  earlier := []
  blanks := ascii " "
  digits := ascii "2"
  trailing := []
  ending := ascii "\r\n"
  later := []
  rest := ascii "\r\n"
  blanks_ok := fun b hb => .inl (by simpa [ascii] using hb)
  digits_ok := by decide
  trailing_ok := nofun
  ends := .inl rfl
  only := nofun
  small := by decide

/-- A plain URI: the number of the header is echoed. -/
theorem processRequest_echoes_plain :
    let r := uriRequest (crlfLine (ascii "OPTIONS rtsp://h/live RTSP/1.0") (by decide))
    (processRequest clampingReader RTSPMedia.zero (rtspSessionInit 0 0) r.text).response = some (.options 2) ∧
      cseqLine (Response.options 2).render = some (decimal r.value) ∧ r.value = 2 := by
  intro r
  have hanswer : (processRequest clampingReader RTSPMedia.zero (rtspSessionInit 0 0) r.text).response =
      some (.options 2) := by decide +kernel
  refine ⟨hanswer, (processRequest_echoes clampingReader_fits r).mpr ?_ _ _ _ hanswer, rfl⟩
  rintro ⟨_, _, h, _⟩
  exact absurd (seek_isSome.mpr h.infix) (by decide +kernel)

/-- With `CSeq:7` in the URI, 7 is answered. -/
theorem processRequest_decoy :
    let r := uriRequest (crlfLine (ascii "OPTIONS rtsp://h/?CSeq:7 RTSP/1.0") (by decide))
    r.text = ascii "OPTIONS rtsp://h/?CSeq:7 RTSP/1.0\r\nCSeq: 2\r\n\r\n" ∧ rtspRequestComplete r.text = true ∧
      r.value = 2 ∧
      ¬ ∀ media session response, (processRequest clampingReader media session r.text).response = some response →
        cseqLine response.render = some (decimal r.value) := by
  have hanswer : (processRequest clampingReader RTSPMedia.zero (rtspSessionInit 0 0)
      (ascii "OPTIONS rtsp://h/?CSeq:7 RTSP/1.0\r\nCSeq: 2\r\n\r\n")).response = some (.options 7) := by decide +kernel
  have htext : (uriRequest (crlfLine (ascii "OPTIONS rtsp://h/?CSeq:7 RTSP/1.0") (by decide))).text =
      ascii "OPTIONS rtsp://h/?CSeq:7 RTSP/1.0\r\nCSeq: 2\r\n\r\n" := by decide +kernel
  refine ⟨htext, by rw [htext]; decide +kernel, by decide +kernel, fun hall => ?_⟩
  have hline := hall _ _ _ (by rw [htext]; exact hanswer)
  exact absurd hline (by decide +kernel)

end MiniRtsp.Rtsp
