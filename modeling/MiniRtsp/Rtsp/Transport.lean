import MiniRtsp.Rtsp.Describe

/-!
# The arithmetic of the transport header

`rtsp_session_parse_transport` with the sums it computes, as they are before they are stored in an `int`. The default of
the RTCP port is computed before the RTP port is checked, so that the largest `int` as the only number overflows
(`parseTransport_contract`).
-/

namespace MiniRtsp.Rtsp

open Text Occurrence

/-- A value of an `int`. -/
def IsInt (v : Int) : Prop := intMin ≤ v ∧ v ≤ 2147483647

/-- `rtsp_session_parse_transport`: the session, the return value, and the sums that are evaluated. -/
def parseTransportSums (reader : IntReader) (session : RTSPSession) (request : Bytes) :
    RTSPSession × Int × List Int :=
  if contains request (ascii "RTP/AVP/TCP") || contains request (ascii "interleaved=") then (session, -1, [])
  else
    match seek (ascii "client_port=") request with
    | none => (session, -1, [])
    | some p =>
      match scanPorts reader p with
      | none => (session, -1, [])
      | some (rtpPort, second) =>
        let (rtcpPort, sums) :=
          match second with
          | none => (rtpPort + 1, [rtpPort + 1])
          | some rtcpPort => (rtcpPort, [])
        if rtpPort ≤ 0 ∨ rtpPort > 65535 ∨ rtcpPort ≤ 0 ∨ rtcpPort > 65535 then (session, -1, sums)
        else ({ session with clientRtpPort := rtpPort, clientRtcpPort := rtcpPort }, 0, sums)

/-- Without the sums it is `rtspSessionParseTransport`. -/
theorem parseTransportSums_forget (reader : IntReader) (session : RTSPSession) (request : Bytes) :
    rtspSessionParseTransport reader session request =
      ((parseTransportSums reader session request).1, decide ((parseTransportSums reader session request).2.1 = 0)) := by
  unfold rtspSessionParseTransport parseTransportSums
  by_cases htcp : (contains request (ascii "RTP/AVP/TCP") || contains request (ascii "interleaved=")) = true
  · rw [if_pos htcp, if_pos htcp]
    rfl
  rw [if_neg htcp, if_neg htcp]
  cases seek (ascii "client_port=") request with
  | none => rfl
  | some p =>
    cases hscan : scanPorts reader p with
    | none => simp only [hscan]; rfl
    | some numbers =>
      obtain ⟨rtp, second⟩ := numbers
      simp only [hscan]
      cases second with
      | none =>
        dsimp only [Option.getD_none]
        split <;> rfl
      | some rtcp =>
        dsimp only [Option.getD_some]
        split <;> rfl

/-- The numbers behind the first `client_port=`. -/
def ReadPorts (reader : IntReader) (request : Bytes) (rtp : Int) (second : Option Int) : Prop :=
  ∃ p, seek (ascii "client_port=") request = some p ∧ scanPorts reader p = some (rtp, second)

/-- UDP is asked for, with the largest `int` as the only port number. -/
def LoneIntMax (reader : IntReader) (request : Bytes) : Prop :=
  contains request (ascii "RTP/AVP/TCP") = false ∧ contains request (ascii "interleaved=") = false ∧
    ReadPorts reader request 2147483647 none

/-- What a caller may expect of the transport header. -/
structure TransportContract (reader : IntReader) (session : RTSPSession) (request : Bytes) : Prop where
  accepted : (parseTransportSums reader session request).2.1 = 0 → ∃ rtp second,
    ReadPorts reader request rtp second ∧ (1 ≤ rtp ∧ rtp ≤ 65535) ∧
    (1 ≤ second.getD (rtp + 1) ∧ second.getD (rtp + 1) ≤ 65535) ∧
    (parseTransportSums reader session request).1 =
      { session with clientRtpPort := rtp, clientRtcpPort := second.getD (rtp + 1) }
  refused : (parseTransportSums reader session request).2.1 ≠ 0 →
    (parseTransportSums reader session request).2.1 = -1 ∧ (parseTransportSums reader session request).1 = session
  ints : ∀ v ∈ (parseTransportSums reader session request).2.2, IsInt v

/-- What is computed and stored, by what could be read. -/
theorem parseTransportSums_cases (reader : IntReader) (session : RTSPSession) (request : Bytes) :
    parseTransportSums reader session request = (session, -1, []) ∧ ¬ LoneIntMax reader request ∨
    ∃ rtp second, ReadPorts reader request rtp second ∧ (LoneIntMax reader request ↔ rtp = 2147483647 ∧ second = none) ∧
      parseTransportSums reader session request =
        (if rtp ≤ 0 ∨ rtp > 65535 ∨ second.getD (rtp + 1) ≤ 0 ∨ second.getD (rtp + 1) > 65535 then
          (session, -1, if second = none then [rtp + 1] else [])
        else ({ session with clientRtpPort := rtp, clientRtcpPort := second.getD (rtp + 1) }, 0,
          if second = none then [rtp + 1] else [])) := by
  unfold parseTransportSums
  by_cases htcp : (contains request (ascii "RTP/AVP/TCP") || contains request (ascii "interleaved=")) = true
  · rw [if_pos htcp]
    rw [Bool.or_eq_true] at htcp
    exact .inl ⟨rfl, fun h => by simp [h.1, h.2.1] at htcp⟩
  rw [if_neg htcp]
  rw [Bool.not_eq_true, Bool.or_eq_false_iff] at htcp
  cases hseek : seek (ascii "client_port=") request with
  | none => exact .inl ⟨rfl, fun ⟨_, _, p, hp, _⟩ => by rw [hseek] at hp; cases hp⟩
  | some p =>
    cases hscan : scanPorts reader p with
    | none =>
      refine .inl ⟨by simp only [hscan], fun ⟨_, _, q, hq, hports⟩ => ?_⟩
      rw [hseek] at hq
      cases hq
      rw [hscan] at hports
      cases hports
    | some numbers =>
      obtain ⟨rtp, second⟩ := numbers
      refine .inr ⟨rtp, second, ⟨p, hseek, hscan⟩, ⟨fun ⟨_, _, q, hq, hports⟩ => ?_, ?_⟩, ?_⟩
      · rw [hseek] at hq
        cases hq
        rw [hscan] at hports
        cases hports
        exact ⟨rfl, rfl⟩
      · rintro ⟨rfl, rfl⟩
        exact ⟨htcp.1, htcp.2, p, hseek, hscan⟩
      · cases second <;> simp only [hscan] <;> rfl

theorem readPorts_isInt {reader : IntReader} (hreader : reader.Fits) {request : Bytes} {rtp : Int}
    {second : Option Int} (h : ReadPorts reader request rtp second) : IsInt rtp := by
  obtain ⟨p, -, hscan⟩ := h
  unfold scanPorts at hscan
  split at hscan
  · cases hscan
  · split at hscan
    · split at hscan
      · cases hscan
        exact hreader.deliver _
      · cases hscan
        exact hreader.deliver _
    · cases hscan
      exact hreader.deliver _

/-- **The transport header.** An accepted one stores the ports that were read, in their range; a refused one stores
nothing. The arithmetic stays in an `int` except for the largest one as the only number. -/
theorem parseTransport_contract {reader : IntReader} (hreader : reader.Fits) (session : RTSPSession)
    (request : Bytes) : TransportContract reader session request ↔ ¬ LoneIntMax reader request := by
  rcases parseTransportSums_cases reader session request with ⟨hnothing, hnot⟩ | ⟨rtp, second, hread, hlone, hboth⟩
  · refine iff_of_true ⟨?_, ?_, ?_⟩ hnot <;> rw [hnothing]
    · intro h
      cases h
    · exact fun _ => ⟨rfl, rfl⟩
    · exact fun v hv => nomatch hv
  have hrtp := readPorts_isInt hreader hread
  rw [hlone]
  constructor
  · rintro hcontract ⟨rfl, rfl⟩
    have hsum := hcontract.ints 2147483648 (by rw [hboth]; simp)
    exact absurd hsum.2 (by decide)
  · intro hnot
    have hsums : ∀ v ∈ (if second = none then [rtp + 1] else [] : List Int), IsInt v := by
      intro v hv
      split at hv
      · next hnone =>
        rw [List.mem_singleton.mp hv]
        have : rtp ≠ 2147483647 := fun h => hnot ⟨h, hnone⟩
        unfold IsInt at hrtp ⊢
        omega
      · cases hv
    constructor
    · rw [hboth]
      split
      · intro h
        cases h
      · intro _
        exact ⟨rtp, second, hread, by omega, by omega, rfl⟩
    · rw [hboth]
      split
      · exact fun _ => ⟨rfl, rfl⟩
      · exact fun h => absurd rfl h
    · rw [hboth]
      split <;> exact hsums

/-- A reader that clamps. -/
def clampingReader : IntReader := ⟨fun v => if v < 0 then intMin else 2147483647⟩

theorem clampingReader_fits : clampingReader.Fits := fun v => by
  unfold clampingReader
  dsimp only
  split <;> decide

/-- Two ports, or one and the next. -/
theorem parseTransport_contract_udp :
    TransportContract clampingReader (rtspSessionInit 0 0)
      (ascii "Transport: RTP/AVP;unicast;client_port=6000-6001\r\n") :=
  (parseTransport_contract clampingReader_fits _ _).mpr fun h => by
    obtain ⟨-, -, p, hp, hscan⟩ := h
    have hseek : seek (ascii "client_port=") (ascii "Transport: RTP/AVP;unicast;client_port=6000-6001\r\n") =
        some (ascii "client_port=6000-6001\r\n") := by decide +kernel
    rw [hseek] at hp
    cases hp
    have : scanPorts clampingReader (ascii "client_port=6000-6001\r\n") = some (6000, some 6001) := by decide +kernel
    rw [this] at hscan
    cases hscan

/-- The largest `int` as the only number: the sum is not an `int`. -/
theorem parseTransport_overflows :
    (parseTransportSums clampingReader (rtspSessionInit 0 0) (ascii "Transport: RTP/AVP;client_port=2147483647")).2.2 =
        [2147483648] ∧
      ¬ TransportContract clampingReader (rtspSessionInit 0 0)
        (ascii "Transport: RTP/AVP;client_port=2147483647") := by
  have hsums : (parseTransportSums clampingReader (rtspSessionInit 0 0)
      (ascii "Transport: RTP/AVP;client_port=2147483647")).2.2 = [2147483648] := by decide +kernel
  refine ⟨hsums, fun h => ?_⟩
  have hint := h.ints 2147483648 (by rw [hsums]; simp)
  exact absurd hint.2 (by decide)

end MiniRtsp.Rtsp
