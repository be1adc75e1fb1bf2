import MiniRtsp.Lib.SdpFormat
import MiniRtsp.Sdp.SdpBuilder

/-!
# What the SDP announces

A client that reads the text of `sdp_builder_build` finds the two parameter sets it was built from, byte for byte
(`readSdp_sdpText`). The SDP is built exactly for the sizes that fit the base64 buffers, and is never too large for its
own (`sdpBuilderBuild_eq`).
-/

namespace MiniRtsp.Sdp

open Lines Occurrence SdpFormat Text

/-! ## The lines -/

/-- The lines before the format parameters. -/
def sdpFront : List Bytes :=
  [ascii "v=0", ascii "o=- 0 0 IN IP4 0.0.0.0", ascii "s=Mini RTSP Live Camera", ascii "c=IN IP4 0.0.0.0",
    ascii "t=0 0", ascii "a=control:*", ascii "m=video 0 RTP/AVP 96", ascii "a=rtpmap:96 H264/90000",
    ascii "a=framerate:25"]

/-- The format parameters. -/
def sdpParameters (profile spsBase64 ppsBase64 : Bytes) : Bytes :=
  ascii "packetization-mode=1" ++ ([0x3b] ++ (ascii "profile-level-id=" ++ profile ++ ([0x3b] ++
    (ascii "sprop-parameter-sets=" ++ (spsBase64 ++ ([0x2c] ++ ppsBase64))))))

/-- What stands behind `a=fmtp:`. -/
def sdpFmtp (profile spsBase64 ppsBase64 : Bytes) : Bytes :=
  ascii "96" ++ ([0x20] ++ sdpParameters profile spsBase64 ppsBase64)

theorem sdpText_lines (profileIdc profileIop levelIdc : UInt8) (spsBase64 ppsBase64 : Bytes) :
    sdpText profileIdc profileIop levelIdc spsBase64 ppsBase64 =
      (sdpFront ++ [ascii "a=fmtp:" ++ sdpFmtp (hexByte profileIdc ++ hexByte profileIop ++ hexByte levelIdc) spsBase64
        ppsBase64, ascii "a=control:track1"]).flatMap (· ++ lineEnd) := by
  have hfront :
      ascii "v=0\r\no=- 0 0 IN IP4 0.0.0.0\r\ns=Mini RTSP Live Camera\r\nc=IN IP4 0.0.0.0\r\nt=0 0\r\na=control:*\r\n" ++
      ascii "m=video 0 RTP/AVP 96\r\na=rtpmap:96 H264/90000\r\na=framerate:25\r\n" =
      sdpFront.flatMap (· ++ lineEnd) := by
    decide +kernel
  have hfmtp : ascii "a=fmtp:96 packetization-mode=1;profile-level-id=" =
      ascii "a=fmtp:" ++ (ascii "96" ++ ([0x20] ++ (ascii "packetization-mode=1" ++ ([0x3b] ++
        ascii "profile-level-id=")))) := by
    decide
  have hsets : ascii ";sprop-parameter-sets=" = [0x3b] ++ ascii "sprop-parameter-sets=" := by decide
  have hcomma : ascii "," = [0x2c] := by decide
  have hend : ascii "\r\na=control:track1\r\n" = lineEnd ++ (ascii "a=control:track1" ++ lineEnd) := by decide
  rw [List.flatMap_append, ← hfront]
  unfold sdpText sdpFmtp sdpParameters
  rw [hfmtp, hsets, hcomma, hend]
  simp only [List.flatMap_cons, List.flatMap_nil, List.append_assoc, List.append_nil]

/-! ## Reading it -/

/-- What an encoding does not contain: the separators of the SDP. -/
theorem separator_notMem (bytes : Bytes) : ∀ x ∈ [0x0d, 0x20, 0x3b, 0x2c], x ∉ Base64Format.encode bytes := by
  intro x hx
  have hother : ∀ y ∈ ([0x0d, 0x20, 0x3b, 0x2c] : Bytes), y ∉ Base64Format.alphabet ∧ y ≠ Base64Format.pad := by
    decide +kernel
  exact Base64Format.notMem_encode (hother x hx).1 (hother x hx).2 bytes

theorem hexByte_notMem (b : UInt8) : ∀ x ∈ [0x0d, 0x20, 0x3b], x ∉ hexByte b := by
  revert b
  apply Wire.forall_byte
  decide +kernel

/-- Two hexadecimal digits are read back. -/
theorem hexBytes_hexByte (b : UInt8) (rest : Bytes) : hexBytes (hexByte b ++ rest) = (hexBytes rest).map (b :: ·) := by
  have hdigits : ∀ b : UInt8, ((hexValue (hexDigit (b.toNat / 16))).bind fun high =>
      (hexValue (hexDigit (b.toNat % 16))).map fun low => UInt8.ofNat (high * 16 + low)) = some b := by
    apply Wire.forall_byte
    decide +kernel
  obtain ⟨high, hhigh, hlow⟩ := Option.bind_eq_some_iff.mp (hdigits b)
  obtain ⟨low, hlow, hb⟩ := Option.map_eq_some_iff.mp hlow
  simp only [hexByte, List.cons_append, List.nil_append, hexBytes, hhigh, hlow, hb, Option.bind_eq_bind,
    Option.bind_some]
  cases hexBytes rest <;> rfl

section Read

variable (profileIdc profileIop levelIdc : UInt8) (sps pps : Bytes)

/-- The format parameters contain neither a blank nor the end of a line. -/
theorem sdpParameters_notMem : ∀ x ∈ [0x0d, 0x20], x ∉ sdpParameters (hexByte profileIdc ++ hexByte profileIop ++
    hexByte levelIdc) (Base64Format.encode sps) (Base64Format.encode pps) := by
  intro x hx
  have htexts : ∀ y ∈ ([0x0d, 0x20] : Bytes), y ∉ ascii "packetization-mode=1" ∧ y ∉ ascii "profile-level-id=" ∧
      y ∉ ascii "sprop-parameter-sets=" ∧ y ≠ 0x3b ∧ y ≠ 0x2c := by
    decide +kernel
  obtain ⟨h1, h2, h3, h4, h5⟩ := htexts x hx
  have hx' : x ∈ ([0x0d, 0x20, 0x3b] : Bytes) := by
    rcases List.mem_cons.mp hx with rfl | hx
    · decide
    · rw [List.mem_singleton.mp hx]
      decide
  have hx'' : x ∈ ([0x0d, 0x20, 0x3b, 0x2c] : Bytes) := List.mem_append_left [0x2c] hx'
  simp only [sdpParameters, List.mem_append, List.mem_singleton, not_or]
  exact ⟨h1, h4, ⟨h2, ⟨hexByte_notMem _ x hx', hexByte_notMem _ x hx'⟩, hexByte_notMem _ x hx'⟩, h4, h3,
    separator_notMem _ x hx'', h5, separator_notMem _ x hx''⟩

theorem lines_sdpText :
    lines (sdpText profileIdc profileIop levelIdc (Base64Format.encode sps) (Base64Format.encode pps)) =
      sdpFront ++ [ascii "a=fmtp:" ++ sdpFmtp (hexByte profileIdc ++ hexByte profileIop ++ hexByte levelIdc)
        (Base64Format.encode sps) (Base64Format.encode pps), ascii "a=control:track1"] := by
  rw [sdpText_lines]
  apply lines_flatMap
  intro l hl
  rcases List.mem_append.mp hl with hl | hl
  · have hfront : ∀ l ∈ sdpFront, 0x0d ∉ l := by decide
    exact hfront l hl
  · rcases List.mem_cons.mp hl with rfl | hl
    · have htexts : (0x0d : UInt8) ∉ ascii "a=fmtp:" ∧ (0x0d : UInt8) ∉ ascii "96" := by decide
      have hparameters := sdpParameters_notMem profileIdc profileIop levelIdc sps pps 0x0d (by decide)
      simp only [sdpFmtp, List.mem_append, List.mem_singleton, not_or]
      exact ⟨htexts.1, htexts.2, by decide, hparameters⟩
    · rw [List.mem_singleton.mp hl]
      decide

theorem parameters_sdpFmtp :
    parameters (sdpFmtp (hexByte profileIdc ++ hexByte profileIop ++ hexByte levelIdc) (Base64Format.encode sps)
      (Base64Format.encode pps)) =
      [ascii "packetization-mode=1",
        ascii "profile-level-id=" ++ (hexByte profileIdc ++ hexByte profileIop ++ hexByte levelIdc),
        ascii "sprop-parameter-sets=" ++ (Base64Format.encode sps ++ ([0x2c] ++ Base64Format.encode pps))] := by
  have hwords : words (sdpFmtp (hexByte profileIdc ++ hexByte profileIop ++ hexByte levelIdc)
      (Base64Format.encode sps) (Base64Format.encode pps)) = [ascii "96", sdpParameters (hexByte profileIdc ++
        hexByte profileIop ++ hexByte levelIdc) (Base64Format.encode sps) (Base64Format.encode pps)] := by
    unfold words sdpFmtp
    rw [pieces_append (by decide), pieces_single (sdpParameters_notMem _ _ _ _ _ 0x20 (by decide))]
  have hprofile :
      0x3b ∉ ascii "profile-level-id=" ++ (hexByte profileIdc ++ hexByte profileIop ++ hexByte levelIdc) := by
    simp only [List.mem_append, not_or]
    exact ⟨by decide, ⟨hexByte_notMem _ _ (by decide), hexByte_notMem _ _ (by decide)⟩, hexByte_notMem _ _ (by decide)⟩
  have hsets :
      0x3b ∉ ascii "sprop-parameter-sets=" ++ (Base64Format.encode sps ++ ([0x2c] ++ Base64Format.encode pps)) := by
    simp only [List.mem_append, not_or]
    exact ⟨by decide, separator_notMem _ _ (by decide), by decide, separator_notMem _ _ (by decide)⟩
  unfold parameters
  rw [hwords]
  simp only [List.getD_cons_succ, List.getD_cons_zero]
  unfold sdpParameters
  rw [pieces_append (by decide), pieces_append hprofile, pieces_single hsets]

/-- **What a client reads.** -/
theorem readSdp_sdpText :
    readSdp (sdpText profileIdc profileIop levelIdc (Base64Format.encode sps) (Base64Format.encode pps)) =
      some { payloadType := 96, mapped := 96, encoding := ascii "H264", clockRate := 90000, frameRate := 25
             profileLevelId := [profileIdc, profileIop, levelIdc], parameterSets := [sps, pps] } := by
  have hprofile : hexBytes (hexByte profileIdc ++ hexByte profileIop ++ hexByte levelIdc) =
      some [profileIdc, profileIop, levelIdc] := by
    have hlast := hexBytes_hexByte levelIdc []
    rw [List.append_nil] at hlast
    rw [List.append_assoc, hexBytes_hexByte, hexBytes_hexByte, hlast]
    rfl
  have hdecoded : (pieces [0x2c] (Base64Format.encode sps ++ ([0x2c] ++ Base64Format.encode pps))).mapM
      Base64Format.decode = some [sps, pps] := by
    rw [pieces_append (separator_notMem _ _ (by decide)), pieces_single (separator_notMem _ _ (by decide))]
    simp [Base64Format.decode_encode]
  have hmedia : ∀ entries, field (ascii "m=video ") (sdpFront ++ entries) = some (ascii "0 RTP/AVP 96") :=
    field_append_some (by decide)
  have hrtpmap : ∀ entries, field (ascii "a=rtpmap:") (sdpFront ++ entries) = some (ascii "96 H264/90000") :=
    field_append_some (by decide)
  have hrate : ∀ entries, field (ascii "a=framerate:") (sdpFront ++ entries) = some (ascii "25") :=
    field_append_some (by decide)
  have hfmtp : ∀ value entries, field (ascii "a=fmtp:") (sdpFront ++ ((ascii "a=fmtp:" ++ value) :: entries)) =
      some value := by
    intro value entries
    rw [field_append_none (by decide), field_here]
  have hlevel : ∀ value entries, field (ascii "profile-level-id=")
      (ascii "packetization-mode=1" :: (ascii "profile-level-id=" ++ value) :: entries) = some value := by
    intro value entries
    rw [← List.singleton_append, field_append_none (by decide), field_here]
  have hsets : ∀ profile value, field (ascii "sprop-parameter-sets=") [ascii "packetization-mode=1",
      ascii "profile-level-id=" ++ profile, ascii "sprop-parameter-sets=" ++ value] = some value := by
    intro profile value
    have hother : field (ascii "sprop-parameter-sets=") [ascii "packetization-mode=1",
        ascii "profile-level-id=" ++ profile] = none := rfl
    have hfound := field_append_none hother [ascii "sprop-parameter-sets=" ++ value]
    rw [field_here] at hfound
    exact hfound
  unfold readSdp
  rw [lines_sdpText, hmedia, hrtpmap, hrate, hfmtp]
  simp only [Option.bind_eq_bind, Option.bind_some, parameters_sdpFmtp, hlevel, hsets, hprofile, hdecoded]
  rfl

end Read

/-! ## Sizes -/

theorem length_sdpText (profileIdc profileIop levelIdc : UInt8) (spsBase64 ppsBase64 : Bytes) :
    (sdpText profileIdc profileIop levelIdc spsBase64 ppsBase64).length = 251 + spsBase64.length + ppsBase64.length := by
  have hfront : (sdpFront.flatMap (· ++ lineEnd)).length = 154 := by decide +kernel
  have htexts : (ascii "a=fmtp:").length = 7 ∧ (ascii "96").length = 2 ∧ (ascii "packetization-mode=1").length = 20 ∧
      (ascii "profile-level-id=").length = 17 ∧ (ascii "sprop-parameter-sets=").length = 21 ∧
      (ascii "a=control:track1").length = 16 ∧ lineEnd.length = 2 := by
    decide
  obtain ⟨h1, h2, h3, h4, h5, h6, h7⟩ := htexts
  rw [sdpText_lines, List.flatMap_append, List.length_append, hfront]
  simp only [List.flatMap_cons, List.flatMap_nil, sdpFmtp, sdpParameters, hexByte, List.length_append,
    List.length_cons, List.length_nil, h1, h2, h3, h4, h5, h6, h7]
  omega

/-- What is written into a base64 buffer leaves room for the NUL. -/
theorem base64Encode_fits {input r : Bytes} (h : base64Encode input base64BufferSize = some r) : r.length ≤ 508 := by
  by_cases hnil : input = []
  · subst hnil
    have hr : r = [] := by simpa [base64Encode, base64Loop] using h.symm
    rw [hr, List.length_nil]
    omega
  · rw [base64Encode_eq hnil] at h
    split at h
    · rename_i hroom
      rw [← Option.some.inj h, Base64Format.length_encode]
      unfold base64BufferSize at hroom
      omega
    · cases h

/-- **The check for a too large SDP** never fires. -/
theorem sdpText_fits {sps pps spsBase64 ppsBase64 : Bytes} (hsps : base64Encode sps base64BufferSize = some spsBase64)
    (hpps : base64Encode pps base64BufferSize = some ppsBase64) (profileIdc profileIop levelIdc : UInt8) :
    ((sdpText profileIdc profileIop levelIdc spsBase64 ppsBase64).length : Int) < 2048 := by
  have hspsFit := base64Encode_fits hsps
  have hppsFit := base64Encode_fits hpps
  have hlength := length_sdpText profileIdc profileIop levelIdc spsBase64 ppsBase64
  omega

/-- The sizes of parameter sets that an SDP can be built from. -/
def Announceable (sps pps : Bytes) : Prop := (4 ≤ sps.length ∧ sps.length ≤ 381) ∧ 1 ≤ pps.length ∧ pps.length ≤ 381

instance (sps pps : Bytes) : Decidable (Announceable sps pps) := inferInstanceAs (Decidable (_ ∧ _))

/-- **`sdp_builder_build`** succeeds exactly for these sizes. -/
theorem sdpBuilderBuild_eq (sps pps : Bytes) :
    sdpBuilderBuild (some sps) (some pps) 2048 =
      if Announceable sps pps then
        some (sdpText (sps.getD 1 0) (sps.getD 2 0) (sps.getD 3 0) (Base64Format.encode sps) (Base64Format.encode pps))
      else none := by
  unfold sdpBuilderBuild
  dsimp only
  split
  · rename_i hshort
    have hnot : ¬Announceable sps pps := by
      unfold Announceable
      omega
    rw [if_neg hnot]
  · rename_i hlong
    have hsps : sps ≠ [] := fun h => by
      rw [h, List.length_nil] at hlong
      omega
    have hpps : pps ≠ [] := fun h => by
      rw [h, List.length_nil] at hlong
      omega
    by_cases hfit : Announceable sps pps
    · have hspsFit : base64Encode sps base64BufferSize = some (Base64Format.encode sps) := by
        rw [base64Encode_eq hsps, if_pos]
        unfold base64BufferSize
        have := hfit.1.2
        omega
      have hppsFit : base64Encode pps base64BufferSize = some (Base64Format.encode pps) := by
        rw [base64Encode_eq hpps, if_pos]
        unfold base64BufferSize
        have := hfit.2.2
        omega
      have hroom := sdpText_fits hspsFit hppsFit (sps.getD 1 0) (sps.getD 2 0) (sps.getD 3 0)
      rw [hspsFit, hppsFit, if_pos hfit]
      dsimp only
      rw [if_neg (by omega)]
    · -- one of the two encodings does not fit its buffer
      rw [if_neg hfit]
      unfold Announceable at hfit
      by_cases hlarge : 381 < sps.length
      · rw [base64Encode_eq hsps, if_neg (by unfold base64BufferSize; omega)]
      · rw [base64Encode_eq hpps, if_neg (by unfold base64BufferSize; omega)]
        cases base64Encode sps base64BufferSize <;> rfl

end MiniRtsp.Sdp
