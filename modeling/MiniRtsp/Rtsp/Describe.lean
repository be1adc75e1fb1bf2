import MiniRtsp.H264.Segments
import MiniRtsp.Rtsp.Numbering
import MiniRtsp.Rtsp.Response
import MiniRtsp.Sdp.Announcement

/-!
# From the encoder to the DESCRIBE response

The parameter sets of the bootstrap access unit go through the split, the selection of the first SPS and PPS, base64,
the SDP and the response. A client that reads the response finds them again, byte for byte, for all sizes that fit the
base64 buffers; for the others nothing is sent (`describe_bootstrap`).
-/

namespace MiniRtsp.Rtsp

open H264 Lines SdpFormat Sdp Text

/-- The library delivers an `int`. -/
def IntReader.Fits (reader : IntReader) : Prop := ∀ v, intMin ≤ reader.overflow v ∧ reader.overflow v ≤ 2147483647

theorem IntReader.Fits.deliver {reader : IntReader} (h : reader.Fits) (v : Int) :
    intMin ≤ reader.deliver v ∧ reader.deliver v ≤ 2147483647 := by
  unfold IntReader.deliver
  split
  · assumption
  · exact h v

theorem IntReader.Fits.cseq {reader : IntReader} (h : reader.Fits) (request : Bytes) :
    intMin ≤ rtspRequestGetCseq reader request ∧ rtspRequestGetCseq reader request ≤ 2147483647 := by
  have hsmall : ∀ v : Int, v = -1 ∨ v = 0 → intMin ≤ v ∧ v ≤ 2147483647 := by
    unfold intMin
    omega
  unfold rtspRequestGetCseq
  split
  · exact hsmall _ (.inl rfl)
  · unfold atoi
    split
    · exact h.deliver _
    · exact hsmall _ (.inr rfl)

/-! ## The response text -/

/-- The header lines of the response. -/
def describeHead (cseq : Int) (size : Nat) : List Bytes :=
  [ascii "RTSP/1.0 200 OK", ascii "CSeq: " ++ decimalInt cseq, ascii "Content-Type: application/sdp",
    ascii "Content-Length: " ++ decimal size]

theorem describeText_eq (cseq : Int) (sdp : Bytes) :
    describeText cseq sdp = (describeHead cseq sdp.length).flatMap (· ++ lineEnd) ++ (lineEnd ++ sdp) := by
  have hstatus : ascii "RTSP/1.0 200 OK" = ascii "RTSP/1.0 " ++ ascii "200 OK" := by decide
  have hend : crlf = lineEnd := by decide
  unfold describeText responseHead describeHead
  rw [hstatus, hend]
  simp only [List.flatMap_cons, List.flatMap_nil, List.append_assoc, List.append_nil]

/-- **A client reads** the SDP behind the header. -/
theorem readMessage_describeText (cseq : Int) (sdp : Bytes) :
    readMessage (describeText cseq sdp) = some ⟨describeHead cseq sdp.length, sdp⟩ := by
  rw [describeText_eq]
  apply readMessage_layout (by simp [describeHead])
  intro l hl
  have htexts : ∀ l ∈ [ascii "RTSP/1.0 200 OK", ascii "CSeq: ", ascii "Content-Type: application/sdp",
      ascii "Content-Length: "], l ≠ [] ∧ 0x0d ∉ l := by
    decide
  have hnumber : ∀ (name : Bytes) (n : Int), name ≠ [] ∧ 0x0d ∉ name →
      name ++ decimalInt n ≠ [] ∧ 0x0d ∉ name ++ decimalInt n := by
    intro name n hname
    rw [List.mem_append, not_or]
    exact ⟨by simp [hname.1], hname.2, decimalInt_notMem n⟩
  simp only [describeHead, List.mem_cons, List.not_mem_nil, or_false] at hl
  rcases hl with rfl | rfl | rfl | rfl
  · exact htexts _ (by simp)
  · exact hnumber _ cseq (htexts _ (by simp))
  · exact htexts _ (by simp)
  · exact hnumber _ sdp.length (htexts _ (by simp))

theorem field_describeHead (cseq : Int) (size : Nat) :
    field (ascii "CSeq: ") (describeHead cseq size) = some (decimalInt cseq) ∧
      field (ascii "Content-Length: ") (describeHead cseq size) = some (decimal size) := by
  constructor
  · have hother : field (ascii "CSeq: ") [ascii "RTSP/1.0 200 OK"] = none := by decide
    have hfound := field_append_none hother ((ascii "CSeq: " ++ decimalInt cseq) ::
      [ascii "Content-Type: application/sdp", ascii "Content-Length: " ++ decimal size])
    rw [field_here] at hfound
    exact hfound
  · have hother : field (ascii "Content-Length: ") [ascii "RTSP/1.0 200 OK", ascii "CSeq: " ++ decimalInt cseq,
        ascii "Content-Type: application/sdp"] = none := rfl
    have hfound := field_append_none hother [ascii "Content-Length: " ++ decimal size]
    rw [field_here] at hfound
    exact hfound

theorem length_decimalInt {n : Int} (h : intMin ≤ n ∧ n ≤ 2147483647) : (decimalInt n).length ≤ 11 := by
  unfold intMin at h
  cases n with
  | ofNat n =>
    have hn : (n : Int) ≤ 2147483647 := h.2
    have hdigits : (decimal n).length ≤ 10 :=
      length_decimal (by decide) (Nat.lt_of_lt_of_le (by omega : n < 10000000000) (by decide))
    exact hdigits.trans (by decide)
  | negSucc n =>
    have hdigits : (decimal (n + 1)).length ≤ 10 :=
      length_decimal (by decide) (Nat.lt_of_lt_of_le (by omega : n + 1 < 10000000000) (by decide))
    have hsign : (ascii "-").length = 1 := by decide
    simp only [decimalInt, List.length_append, hsign]
    omega

/-- **The check for a too large response** never fires. -/
theorem describeText_fits {cseq : Int} (hcseq : intMin ≤ cseq ∧ cseq ≤ 2147483647) {sdp : Bytes}
    (hsdp : sdp.length < 2048) : (describeText cseq sdp).length < 3072 := by
  have hnumber := length_decimalInt hcseq
  have hsize : (decimal sdp.length).length ≤ 4 :=
    length_decimal (by decide) (Nat.lt_of_lt_of_le (by omega : sdp.length < 10000) (by decide))
  have htexts : (ascii "RTSP/1.0 200 OK").length = 15 ∧ (ascii "CSeq: ").length = 6 ∧
      (ascii "Content-Type: application/sdp").length = 29 ∧ (ascii "Content-Length: ").length = 16 ∧
      lineEnd.length = 2 := by
    decide
  obtain ⟨h1, h2, h3, h4, h5⟩ := htexts
  rw [describeText_eq]
  simp only [describeHead, List.flatMap_cons, List.flatMap_nil, List.length_append, List.length_nil, h1, h2, h3, h4, h5]
  omega

/-! ## The handler -/

/-- What a client finds in the response to a DESCRIBE: one complete message whose body is an SDP with these parameter
sets. -/
def Describes (cseq : Int) (sps pps : Bytes) (response : Response) : Prop :=
  ∃ message description, readMessage response.render = some message ∧
    message.head.head? = some (ascii "RTSP/1.0 200 OK") ∧
    field (ascii "CSeq: ") message.head = some (decimalInt cseq) ∧
    (field (ascii "Content-Length: ") message.head).bind number = some message.body.length ∧
    readSdp message.body = some description ∧ description.parameterSets = [sps, pps] ∧
    description.profileLevelId = (sps.drop 1).take 3

/-- The SDP of parameter sets that fit is not too large. -/
theorem length_sdp {sps pps : Bytes} (h : Announceable sps pps) (profileIdc profileIop levelIdc : UInt8) :
    (sdpText profileIdc profileIop levelIdc (Base64Format.encode sps) (Base64Format.encode pps)).length < 2048 := by
  obtain ⟨hsps, hpps⟩ := h
  rw [length_sdpText, Base64Format.length_encode, Base64Format.length_encode]
  omega

/-- **`handle_describe`** with stored parameter sets. -/
theorem handleDescribe_eq {reader : IntReader} (hreader : reader.Fits) {media : RTSPMedia} {sps pps : Bytes}
    (hsps : media.sps = some sps) (hpps : media.pps = some pps) (session : RTSPSession) (request : Bytes) :
    handleDescribe reader media session request =
      if Announceable sps pps then
        ⟨session, some (.describe (rtspRequestGetCseq reader request) (sdpText (sps.getD 1 0) (sps.getD 2 0)
          (sps.getD 3 0) (Base64Format.encode sps) (Base64Format.encode pps))), .done⟩
      else ⟨session, none, .done⟩ := by
  unfold handleDescribe
  rw [hsps, hpps, sdpBuilderBuild_eq]
  by_cases hfit : Announceable sps pps
  · have hroom := length_sdp hfit (sps.getD 1 0) (sps.getD 2 0) (sps.getD 3 0)
    have htext := describeText_fits (hreader.cseq request) hroom
    rw [if_pos hfit, if_pos hfit]
    dsimp only
    rw [if_neg (by omega)]
  · rw [if_neg hfit, if_neg hfit]

/-- A client that can read the SDP can read it in the response. -/
theorem describes_of_read {cseq : Int} (hcseq : intMin ≤ cseq ∧ cseq ≤ 2147483647) {sdp sps pps : Bytes}
    (hsize : sdp.length < 2048) {description : Description} (hread : readSdp sdp = some description)
    (hsets : description.parameterSets = [sps, pps]) (hprofile : description.profileLevelId = (sps.drop 1).take 3) :
    Describes cseq sps pps (.describe cseq sdp) := by
  have hrender : (Response.describe cseq sdp).render = describeText cseq sdp := by
    have htext := describeText_fits hcseq hsize
    exact List.take_of_length_le (by omega)
  obtain ⟨hcseqField, hlengthField⟩ := field_describeHead cseq sdp.length
  refine ⟨⟨describeHead cseq sdp.length, sdp⟩, description, ?_, rfl, hcseqField, ?_, hread, hsets, hprofile⟩
  · rw [hrender, readMessage_describeText]
  · dsimp only
    rw [hlengthField, Option.bind_some, number_decimal]

theorem describes_of_announceable {cseq : Int} (hcseq : intMin ≤ cseq ∧ cseq ≤ 2147483647) {sps pps : Bytes}
    (h : Announceable sps pps) :
    Describes cseq sps pps (.describe cseq (sdpText (sps.getD 1 0) (sps.getD 2 0) (sps.getD 3 0)
      (Base64Format.encode sps) (Base64Format.encode pps))) := by
  have hprofile : [sps.getD 1 0, sps.getD 2 0, sps.getD 3 0] = (sps.drop 1).take 3 := by
    have hfour := h.1.1
    match sps, hfour with
    | _ :: _ :: _ :: _ :: _, _ => rfl
  exact describes_of_read hcseq (length_sdp h _ _ _) (readSdp_sdpText _ _ _ sps pps) rfl hprofile

/-- An accepted bootstrap access unit, and what is stored of it. -/
theorem prepareBootstrap_some {answers : CaptureAnswers} {allocs : List Bool} {media prepared : RTSPMedia}
    {uses : List (Ledger.Use Resource)}
    (h : prepareBootstrapAccessUnit answers allocs media = (prepared, uses, true)) :
    ∃ unit sps pps, (captureAndEncode answers media).unit = some unit ∧
      h264AnnexbCopyParameterSets unit.data allocs = some (sps, pps) ∧ prepared.sps = some sps ∧
      prepared.pps = some pps := by
  unfold prepareBootstrapAccessUnit at h
  dsimp only at h
  split at h
  · cases h
  · rename_i unit hunit
    split at h
    · cases h
    · split at h
      · cases h
      · rename_i sps pps hcopy
        cases h
        exact ⟨unit, sps, pps, hunit, hcopy, rfl, rfl⟩

/-- **From the encoder to DESCRIBE.** Whatever the encoder returned for the bootstrap access unit, its first SPS and PPS
reach a client that sends DESCRIBE byte for byte, if they fit; otherwise no response is sent. The SDP and the response
never outgrow their buffers. -/
theorem describe_bootstrap {reader : IntReader} (hreader : reader.Fits) {answers : CaptureAnswers} {allocs : List Bool}
    {media prepared : RTSPMedia} {uses : List (Ledger.Use Resource)}
    (hprepared : prepareBootstrapAccessUnit answers allocs media = (prepared, uses, true)) {served : RTSPMedia}
    (hsps : served.sps = prepared.sps) (hpps : served.pps = prepared.pps) (session : RTSPSession) (request : Bytes) :
    ∃ unit sps pps, (captureAndEncode answers media).unit = some unit ∧
      (nalUnits unit.data).find? (fun u => unitType u == nalSps) = some sps ∧
      (nalUnits unit.data).find? (fun u => unitType u == nalPps) = some pps ∧
      (Announceable sps pps → ∃ response, handleDescribe reader served session request = ⟨session, some response, .done⟩ ∧
        Describes (rtspRequestGetCseq reader request) sps pps response) ∧
      (¬Announceable sps pps → handleDescribe reader served session request = ⟨session, none, .done⟩) ∧
      (∀ spsBase64 ppsBase64, base64Encode sps base64BufferSize = some spsBase64 →
        base64Encode pps base64BufferSize = some ppsBase64 → ∀ profileIdc profileIop levelIdc,
          ((sdpText profileIdc profileIop levelIdc spsBase64 ppsBase64).length : Int) < 2048) ∧
      ∀ sdp, sdpBuilderBuild served.sps served.pps 2048 = some sdp →
        (describeText (rtspRequestGetCseq reader request) sdp).length < 3072 := by
  obtain ⟨unit, sps, pps, hunit, hcopy, hprepsps, hpreppps⟩ := prepareBootstrap_some hprepared
  obtain ⟨hfirstSps, hfirstPps⟩ := copyParameterSets_some hcopy
  have hhandled := handleDescribe_eq hreader (hsps.trans hprepsps) (hpps.trans hpreppps) session request
  refine ⟨unit, sps, pps, hunit, hfirstSps, hfirstPps, ?_, ?_, ?_, ?_⟩
  · intro hfit
    rw [if_pos hfit] at hhandled
    exact ⟨_, hhandled, describes_of_announceable (hreader.cseq request) hfit⟩
  · intro hfit
    rw [if_neg hfit] at hhandled
    exact hhandled
  · intro spsBase64 ppsBase64 hspsBase64 hppsBase64
    exact sdpText_fits hspsBase64 hppsBase64
  · intro sdp hbuilt
    rw [hsps, hpps, hprepsps, hpreppps, sdpBuilderBuild_eq] at hbuilt
    split at hbuilt
    · rename_i hfit
      rw [← Option.some.inj hbuilt]
      exact describeText_fits (hreader.cseq request) (length_sdp hfit _ _ _)
    · cases hbuilt

/-- An SPS of five bytes, a PPS of three and an IDR slice. -/
def bootstrapUnit : Bytes := [0, 0, 0, 1, 0x67, 0x64, 0, 0x1f, 0xac, 0, 0, 0, 1, 0x68, 0xee, 0x3c, 0, 0, 0, 1, 0x65, 0x88]

/-- A client that sends DESCRIBE gets the two parameter sets. -/
theorem describe_bootstrap_idr :
    ∃ response, handleDescribe ⟨fun _ => 0⟩
        (prepareBootstrapAccessUnit (encodes bootstrapUnit).capture [true, true] servingMedia).1 playSession
        (ascii "DESCRIBE rtsp://h RTSP/1.0\r\nCSeq: 2\r\n\r\n") = ⟨playSession, some response, .done⟩ ∧
      Describes 2 [0x67, 0x64, 0, 0x1f, 0xac] [0x68, 0xee, 0x3c] response := by
  have hfits : IntReader.Fits ⟨fun _ => 0⟩ := fun _ => (by decide : intMin ≤ 0 ∧ (0 : Int) ≤ 2147483647)
  have hok : prepareBootstrapAccessUnit (encodes bootstrapUnit).capture [true, true] servingMedia =
      ((prepareBootstrapAccessUnit (encodes bootstrapUnit).capture [true, true] servingMedia).1,
        (prepareBootstrapAccessUnit (encodes bootstrapUnit).capture [true, true] servingMedia).2.1, true) :=
    Prod.ext rfl (Prod.ext rfl (by decide +kernel))
  obtain ⟨unit, sps, pps, hunit, hsps, hpps, hsent, -⟩ := describe_bootstrap hfits hok rfl rfl playSession
    (ascii "DESCRIBE rtsp://h RTSP/1.0\r\nCSeq: 2\r\n\r\n")
  have hdata : (captureAndEncode (encodes bootstrapUnit).capture servingMedia).unit.map (·.data) =
      some bootstrapUnit := by
    decide +kernel
  rw [hunit, Option.map_some, Option.some.injEq] at hdata
  have hfirst : (nalUnits bootstrapUnit).find? (fun u => unitType u == nalSps) = some [0x67, 0x64, 0, 0x1f, 0xac] ∧
      (nalUnits bootstrapUnit).find? (fun u => unitType u == nalPps) = some [0x68, 0xee, 0x3c] := by
    decide +kernel
  rw [hdata] at hsps hpps
  obtain rfl := Option.some.inj (hsps.symm.trans hfirst.1)
  obtain rfl := Option.some.inj (hpps.symm.trans hfirst.2)
  have hcseq : rtspRequestGetCseq ⟨fun _ => 0⟩ (ascii "DESCRIBE rtsp://h RTSP/1.0\r\nCSeq: 2\r\n\r\n") = 2 := by
    decide +kernel
  rw [hcseq] at hsent
  exact hsent (by decide)

end MiniRtsp.Rtsp
