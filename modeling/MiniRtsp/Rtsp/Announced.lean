import MiniRtsp.Rtsp.Describe
import MiniRtsp.Rtsp.FreshStart

/-!
# The stream against its announcement

The SDP announces payload type 96, a clock rate of 90000 and a frame rate of 25. The packets have that payload type, but
the timestamps go on by 3000, the step of 30 frames a second, and not by the announced 3600 (`stream_announced_iff`).
-/

namespace MiniRtsp.Rtsp

open Lines Rtp RtpFormat Sdp SdpFormat Trace

/-! ## What is announced -/

/-- **What DESCRIBE announces**, whatever the parameter sets are. -/
theorem describe_announces {reader : IntReader} {media : RTSPMedia} {session : RTSPSession} {request : Bytes} {cseq : Int}
    {sdp : Bytes} (h : (handleDescribe reader media session request).response = some (.describe cseq sdp)) :
    ∃ description, readSdp sdp = some description ∧ description.payloadType = 96 ∧ description.mapped = 96 ∧
      description.clockRate = 90000 ∧ description.frameRate = 25 := by
  unfold handleDescribe at h
  split at h
  · cases h
  · rename_i built hbuilt
    dsimp only at h
    split at h
    · cases h
    · obtain ⟨-, rfl⟩ : _ ∧ built = sdp := by simpa using h
      cases hsps : media.sps with
      | none => simp [hsps, sdpBuilderBuild] at hbuilt
      | some sps =>
        cases hpps : media.pps with
        | none => simp [hsps, hpps, sdpBuilderBuild] at hbuilt
        | some pps =>
          rw [hsps, hpps, sdpBuilderBuild_eq] at hbuilt
          split at hbuilt
          · rw [← Option.some.inj hbuilt]
            exact ⟨_, readSdp_sdpText _ _ _ sps pps, rfl, rfl, rfl, rfl⟩
          · cases hbuilt

/-! ## What is streamed -/

/-- Every packet has the payload type of the `m=` and of the `a=rtpmap` line. -/
def CarriesType (description : Description) (events : List ThreadEvent) : Prop :=
  ∀ packet ∈ sentPackets events, ∃ header payload, parsePacket packet = some (header, payload) ∧
    header.payloadType.toNat = description.payloadType ∧ header.payloadType.toNat = description.mapped

/-- From one access unit to the next the RTP timestamp goes on by `step`, modulo 2^32. -/
def Paced (step : Nat) (events : List ThreadEvent) : Prop :=
  ∀ n unit next packet packet' header header' payload payload', (unitPackets events)[n]? = some unit →
    (unitPackets events)[n + 1]? = some next → packet ∈ unit → packet' ∈ next →
    parsePacket packet = some (header, payload) → parsePacket packet' = some (header', payload') →
    (header'.timestamp - header.timestamp).toNat = step

/-- At most one access unit of the session is streamed. -/
def OneUnit (events : List ThreadEvent) : Prop := ∀ unit, (unitPackets events)[1]? = some unit → unit = []

section Packets

variable {media : RTSPMedia} {allSent : Prop} {t : Thread} {S : List Call} {U : List (List Bytes)} {k : Nat}

/-- The header of a packet of the `n`-th access unit. -/
theorem Progress.header (h : Progress media allSent t S U k) {n : Nat} {unit : List Bytes} (hn : U[n]? = some unit)
    {packet : Bytes} (hp : packet ∈ unit) : ∃ header payload, parsePacket packet = some (header, payload) ∧
      header.payloadType = 96 ∧ header.timestamp = UInt32.ofNat (3000 * n) := by
  obtain ⟨c, rest, -, sends, -⟩ := h.get hn
  have hmem :
      packet ∈ numbered c.timestamp (nextSeq (U.take n)) (accessUnitPlan media c.accessUnit c.prepend).payloads := by
    rw [← sends.packets]
    exact List.mem_append_left _ hp
  obtain ⟨i, hi⟩ := List.mem_iff_getElem?.mp hmem
  rw [getElem?_numbered] at hi
  obtain ⟨p, -, rfl⟩ := Option.map_eq_some_iff.mp hi
  exact ⟨_, p.2, parsePacket_packetOf _ _ p.1 p.2, rfl, sends.timestamp⟩

/-- An access unit that is followed by another one has packets. -/
theorem Progress.unit_ne_nil (h : Progress media allSent t S U k) {n : Nat} {unit : List Bytes}
    (hn : U[n]? = some unit) (hnext : n + 1 < U.length) : unit ≠ [] := by
  obtain ⟨c, rest, -, sends, hdone, -⟩ := h.get hn
  have hlength := h.length_eq.2
  obtain ⟨rfl, hcomplete⟩ := hdone (by omega)
  rintro rfl
  have hnone := congrArg List.length sends.packets
  rw [length_numbered] at hnone
  exact accessUnitPlan_ne_nil hcomplete (List.length_eq_zero_iff.mp hnone.symm)

/-- From one access unit to the next the timestamp goes on by 3000. -/
theorem timestamp_step (n : Nat) : (UInt32.ofNat (3000 * (n + 1)) - UInt32.ofNat (3000 * n)).toNat = 3000 := by
  have hstep : UInt32.ofNat (3000 * (n + 1)) = UInt32.ofNat (3000 * n) + 3000 := by
    rw [Nat.mul_add, UInt32.ofNat_add]
    rfl
  rw [hstep, UInt32.add_comm, UInt32.add_sub_cancel]
  rfl

end Packets

/-! ## The run -/

section Run

variable (media : RTSPMedia) (playing : RTSPSession) (turns : List Turn)

/-- The packets are those of a stream in progress. -/
theorem run_progress : ∃ t S k, Progress media False t S
    (unitPackets (run turnStep ⟨media, playing, .start⟩ turns).events) k :=
  ⟨_, _, _, (@run_numbering media playing turns False False.elim).progress⟩

/-- **The pace of the stream.** -/
theorem run_paced : Paced 3000 (run turnStep ⟨media, playing, .start⟩ turns).events := by
  obtain ⟨t, S, k, hprogress⟩ := run_progress media playing turns
  intro n unit next packet packet' header header' payload payload' hunit hnext hp hp' hparse hparse'
  obtain ⟨_, _, hheader, -, htime⟩ := hprogress.header hunit hp
  obtain ⟨_, _, hheader', -, htime'⟩ := hprogress.header hnext hp'
  obtain ⟨rfl, rfl⟩ := Prod.mk.inj (Option.some.inj (hparse.symm.trans hheader))
  obtain ⟨rfl, rfl⟩ := Prod.mk.inj (Option.some.inj (hparse'.symm.trans hheader'))
  rw [htime, htime', timestamp_step]

/-- Another pace is kept only while there is nothing to pace. -/
theorem run_paced_iff {step : Nat} (hstep : step ≠ 3000) :
    Paced step (run turnStep ⟨media, playing, .start⟩ turns).events ↔
      OneUnit (run turnStep ⟨media, playing, .start⟩ turns).events := by
  obtain ⟨t, S, k, hprogress⟩ := run_progress media playing turns
  have hpace := run_paced media playing turns
  generalize (run turnStep ⟨media, playing, .start⟩ turns).events = events at hprogress hpace ⊢
  constructor
  · intro hother next hnext
    by_contra hne
    have hlt := (List.getElem?_eq_some_iff.mp hnext).1
    obtain ⟨unit, hunit⟩ : ∃ unit, (unitPackets events)[0]? = some unit := ⟨_, List.getElem?_eq_getElem (by omega)⟩
    obtain ⟨packet, hp⟩ := List.exists_mem_of_ne_nil _ (hprogress.unit_ne_nil hunit hlt)
    obtain ⟨packet', hp'⟩ := List.exists_mem_of_ne_nil _ hne
    obtain ⟨header, payload, hparse, -⟩ := hprogress.header hunit hp
    obtain ⟨header', payload', hparse', -⟩ := hprogress.header hnext hp'
    have hreal := hpace 0 unit next packet packet' header header' payload payload' hunit hnext hp hp' hparse hparse'
    rw [hother 0 unit next packet packet' header header' payload payload' hunit hnext hp hp' hparse hparse'] at hreal
    exact hstep hreal
  · intro hone n unit next packet packet' header header' payload payload' hunit hnext hp hp'
    have hlt := (List.getElem?_eq_some_iff.mp hnext).1
    obtain ⟨second, hsecond⟩ : ∃ second, (unitPackets events)[1]? = some second :=
      ⟨_, List.getElem?_eq_getElem (by omega)⟩
    have hnil := hone second hsecond
    -- the second access unit has no packet, so it is the last one
    have hlast : n = 0 ∨ 1 + 1 < (unitPackets events).length := by omega
    rcases hlast with rfl | hmore
    · rw [hsecond, Option.some.injEq] at hnext
      rw [← hnext, hnil] at hp'
      cases hp'
    · exact absurd hnil (hprogress.unit_ne_nil hsecond hmore)

/-- **The payload type** of the stream. -/
theorem run_carriesType {description : Description} (hpayload : description.payloadType = 96)
    (hmapped : description.mapped = 96) :
    CarriesType description (run turnStep ⟨media, playing, .start⟩ turns).events := by
  have hn : Numbering media False (run turnStep ⟨media, playing, .start⟩ turns) :=
    run_numbering media playing False.elim
  intro packet hp
  rw [hn.flat] at hp
  obtain ⟨unit, hunit, hmem⟩ := List.mem_flatten.mp hp
  obtain ⟨n, hunit⟩ := List.mem_iff_getElem?.mp hunit
  obtain ⟨header, payload, hparse, htype, -⟩ := hn.progress.header hunit hmem
  exact ⟨header, payload, hparse, by rw [htype, hpayload]; rfl, by rw [htype, hmapped]; rfl⟩

end Run

/-- **The stream that follows a DESCRIBE** carries the announced payload type. Every two consecutive access units are
3000 apart, and not what the announced clock and frame rate make: these are kept only while there is nothing to pace. -/
theorem stream_announced_iff {reader : IntReader} {media : RTSPMedia} {session : RTSPSession} {request : Bytes}
    {cseq : Int} {sdp : Bytes}
    (hdescribe : (handleDescribe reader media session request).response = some (.describe cseq sdp))
    (playing : RTSPSession) (turns : List Turn) :
    let events := (run turnStep ⟨media, playing, .start⟩ turns).events
    ∃ description, readSdp sdp = some description ∧ CarriesType description events ∧ Paced 3000 events ∧
      (Paced (description.clockRate / description.frameRate) events ↔ OneUnit events) := by
  intro events
  obtain ⟨description, hread, hpayload, hmapped, hclock, hrate⟩ := describe_announces hdescribe
  have hother : description.clockRate / description.frameRate ≠ 3000 := by
    rw [hclock, hrate]
    decide
  exact ⟨description, hread, run_carriesType media playing turns hpayload hmapped, run_paced media playing turns,
    run_paced_iff media playing turns hother⟩

/-! ## Two access units -/

/-- The pipeline after a bootstrap access unit. -/
def describedMedia : RTSPMedia :=
  (prepareBootstrapAccessUnit (encodes bootstrapUnit).capture [true, true] servingMedia).1

def describeRequest : Bytes := Text.ascii "DESCRIBE rtsp://h RTSP/1.0\r\nCSeq: 2\r\n\r\n"

/-- The encoder returns the same IDR slice again and again. -/
def idrTurns (n : Nat) : List Turn := List.replicate n (.thread (encodes [0, 0, 0, 1, 0x65, 0x88]))

/-- DESCRIBE is answered. -/
theorem described : ∃ sdp, (handleDescribe ⟨fun _ => 0⟩ describedMedia playSession describeRequest).response =
    some (.describe 2 sdp) := by
  have hsps : describedMedia.sps = some [0x67, 0x64, 0, 0x1f, 0xac] := by decide +kernel
  have hpps : describedMedia.pps = some [0x68, 0xee, 0x3c] := by decide +kernel
  have hfits : IntReader.Fits ⟨fun _ => 0⟩ := fun _ => (by decide : intMin ≤ 0 ∧ (0 : Int) ≤ 2147483647)
  have hcseq : rtspRequestGetCseq ⟨fun _ => 0⟩ describeRequest = 2 := by decide +kernel
  rw [handleDescribe_eq hfits hsps hpps, if_pos (by decide), hcseq]
  exact ⟨_, rfl⟩

/-- After one access unit nothing is wrong yet. -/
theorem stream_announced_first :
    ∃ sdp description, (handleDescribe ⟨fun _ => 0⟩ describedMedia playSession describeRequest).response =
        some (.describe 2 sdp) ∧ readSdp sdp = some description ∧
      Paced (description.clockRate / description.frameRate)
        (run turnStep ⟨describedMedia, playSession, .start⟩ (idrTurns 9)).events := by
  obtain ⟨sdp, hdescribe⟩ := described
  obtain ⟨description, hread, -, -, hiff⟩ := stream_announced_iff hdescribe playSession (idrTurns 9)
  have hone : (unitPackets (run turnStep ⟨describedMedia, playSession, .start⟩ (idrTurns 9)).events)[1]? = none := by
    decide +kernel
  refine ⟨sdp, description, hdescribe, hread, hiff.mpr ?_⟩
  intro unit hunit
  rw [hone] at hunit
  cases hunit

/-- Two access units: 3600 ticks are announced, 3000 lie between them. -/
theorem stream_not_announced :
    ∃ sdp description, (handleDescribe ⟨fun _ => 0⟩ describedMedia playSession describeRequest).response =
        some (.describe 2 sdp) ∧ readSdp sdp = some description ∧
      ¬Paced (description.clockRate / description.frameRate)
        (run turnStep ⟨describedMedia, playSession, .start⟩ (idrTurns 13)).events := by
  obtain ⟨sdp, hdescribe⟩ := described
  obtain ⟨description, hread, -, -, hclock, hrate⟩ := describe_announces hdescribe
  refine ⟨sdp, description, hdescribe, hread, ?_⟩
  rw [hclock, hrate, run_paced_iff describedMedia playSession (idrTurns 13) (by decide)]
  intro hone
  have hsecond : ∃ unit, (unitPackets (run turnStep ⟨describedMedia, playSession, .start⟩ (idrTurns 13)).events)[1]? =
      some unit ∧ unit ≠ [] := by
    have hlength : (unitPackets (run turnStep ⟨describedMedia, playSession, .start⟩ (idrTurns 13)).events)[1]?.map
        List.length = some 1 := by
      decide +kernel
    obtain ⟨unit, hunit, hlength⟩ := Option.map_eq_some_iff.mp hlength
    exact ⟨unit, hunit, by rintro rfl; cases hlength⟩
  obtain ⟨unit, hunit, hne⟩ := hsecond
  exact hne (hone unit hunit)

end MiniRtsp.Rtsp
