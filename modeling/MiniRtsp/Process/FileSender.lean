import MiniRtsp.H264.ReaderOpen
import MiniRtsp.Rtsp.Reception

/-!
# Sending a file

`rtp/test_h264_udp.c`: the NAL units of a file, read by `h264/h264_reader.c`, go to `127.0.0.1:5000` through the older
interface of `rtp/h264_rtp.c`, each with a timestamp of its own. A packet that `sendto` does not take whole ends its NAL
unit and nothing else, so whatever `sendto` answers, every unit is on its way up to its own first such packet
(`testH264Udp_sent`); when all of them go out, a receiver gets the units of the file (`testH264Udp_received`).
-/

namespace MiniRtsp.Process

open H264 Rtp RtpFormat Rtsp Attempt Ledger Text

/-! ## The older interface -/

section Legacy

variable {σ : Type*} (callback : Option (σ → Bytes → σ × Int))

/-- `legacy_send_adapter`; `none` is a callback that is `NULL`. -/
def legacySendAdapter (context : σ) (packet : Bytes) : σ × Int :=
  match callback with
  | none => (context, -1)
  | some callback => callback context packet

/-- `h264_rtp_send_nalu`. -/
def h264RtpSendNalu (nalu : Bytes) (seq : UInt16) (timestamp : UInt32) (context : σ) : SendResult σ :=
  h264RtpSendNaluCtx (legacySendAdapter callback) nalu seq timestamp true context

end Legacy

/-! ## The program -/

/-- What `main` carries from one NAL to the next: the datagrams on their way, `seq` and `timestamp`. -/
structure Stream where
  network : List Datagram
  seq : UInt16
  timestamp : UInt32
  deriving DecidableEq, Repr

/-- The body of the loop of `main`; what `h264_rtp_send_nalu` returns is not looked at. -/
def sendNalu (sendto : List Datagram → Bytes → Int) (sender : RTPSender) (s : Stream) (nalu : Bytes) : Stream :=
  let sent := h264RtpSendNalu (some (rtpSenderSend sendto sender)) nalu s.seq s.timestamp s.network
  ⟨sent.context, sent.seq, s.timestamp + 3000⟩

/-- What `main` left behind. -/
structure FileRun where
  network : List Datagram
  uses : List (Use Resource)
  /-- `none` when the reader read outside a buffer. -/
  ret : Option Int

/-- `rtp_sender_init`. -/
def rtpSenderInit (answers : SenderAnswers) (sender : RTPSender) (ip : Bytes) (port : Int) :
    RTPSender × List (Use Resource) × Bool :=
  rtpSenderInitEx answers sender 0 ip port

/-- `main` of `test_h264_udp.c`; `file` is what `test.h264` holds, if it can be opened. -/
def testH264Udp (answers : SenderAnswers) (sendto : List Datagram → Bytes → Int) (file : Option Bytes) : FileRun :=
  let (sender, uses, ok) := rtpSenderInit answers .zero (ascii "127.0.0.1") 5000
  if !ok then ⟨[], uses, some (-1)⟩
  else
    match file with
    | none => ⟨[], uses, some (-1)⟩
    | some content =>
      match h264ReaderOpen content with
      | none => ⟨[], uses, none⟩
      | some (reader, _) =>
        match readAll (reader.size + 1) reader with
        | .done nalus =>
          let s := (nalus.map (·.data)).foldl (sendNalu sendto sender) ⟨[], 100, 0⟩
          ⟨s.network, uses ++ (rtpSenderClose sender).2, some 0⟩
        | _ => ⟨[], uses, none⟩

/-- Where the packets go. -/
def destination : SockAddr := ⟨⟨127, 0, 0, 1⟩, 5000⟩

/-- The sender over socket `fd`. -/
def fileSender (fd : Nat) : RTPSender := ⟨fd, ascii "127.0.0.1", 5000, 0, destination⟩

/-- **The sender of the program**, when there is a socket. -/
theorem rtpSenderInit_some {answers : SenderAnswers} {fd : Nat} (h : answers.socket = some fd) (sender : RTPSender) :
    rtpSenderInit answers sender (ascii "127.0.0.1") 5000 =
      (fileSender fd, [opened fd], true) := by
  have haddr : inetPton (ascii "127.0.0.1") = some ⟨127, 0, 0, 1⟩ := by decide +kernel
  simp [rtpSenderInit, rtpSenderInitEx, h, haddr, fileSender, destination]

/-- The program on a clean file. -/
theorem testH264Udp_clean {answers : SenderAnswers} {fd : Nat} {content : Bytes} (hsocket : answers.socket = some fd)
    (hclean : Clean content) (sendto : List Datagram → Bytes → Int) :
    testH264Udp answers sendto (some content) =
      ⟨((nalUnits content).foldl (sendNalu sendto (fileSender fd)) ⟨[], 100, 0⟩).network, [opened fd, closed fd],
        some 0⟩ := by
  obtain ⟨nalus, hdone, -, hunits⟩ := readAll_clean hclean
  have hclose : (rtpSenderClose (fileSender fd)).2 = [closed fd] := by simp [rtpSenderClose, fileSender]
  simp only [testH264Udp, rtpSenderInit_some hsocket, h264ReaderOpen_clean hclean, H264Reader.size, hdone, hunits,
    hclose]
  rfl

/-! ## What is on its way -/

section Sender

variable (sendto : List Datagram → Bytes → Int) (dest : SockAddr)

/-- `sendto` takes each of the packets whole, the first one behind `network` and every other behind those before it. -/
def TakesAll (network : List Datagram) (packets : List Bytes) : Prop :=
  ∀ i packet, packets[i]? = some packet →
    sendto (network ++ (packets.take i).map (Datagram.mk dest)) packet = packet.length

/-- What becomes of the packets of one NAL that is sent behind `network`: how many of them count as sent, and those that
are on their way. Only a packet that `sendto` did not take whole ends a NAL: one that it refused is not on its way, one
that it took in part is, but does not count. -/
inductive UnitSent (network : List Datagram) (packets : List Bytes) : Nat → List Bytes → Prop
  | whole (taken : TakesAll sendto dest network packets) : UnitSent network packets packets.length packets
  | refused {sent : Nat} {packet : Bytes} (at_packet : packets[sent]? = some packet)
      (before : TakesAll sendto dest network (packets.take sent))
      (negative : sendto (network ++ (packets.take sent).map (Datagram.mk dest)) packet < 0) :
      UnitSent network packets sent (packets.take sent)
  | short {sent : Nat} {packet : Bytes} (at_packet : packets[sent]? = some packet)
      (before : TakesAll sendto dest network (packets.take sent))
      (taken : 0 ≤ sendto (network ++ (packets.take sent).map (Datagram.mk dest)) packet)
      (ne : sendto (network ++ (packets.take sent).map (Datagram.mk dest)) packet ≠ packet.length) :
      UnitSent network packets sent (packets.take (sent + 1))

variable {sendto dest}

theorem TakesAll.nil (network : List Datagram) : TakesAll sendto dest network [] :=
  fun i packet h => by simp at h

theorem TakesAll.cons {network : List Datagram} {packet : Bytes} {packets : List Bytes}
    (h : sendto network packet = packet.length)
    (rest : TakesAll sendto dest (network ++ [⟨dest, packet⟩]) packets) :
    TakesAll sendto dest network (packet :: packets) := by
  intro i q hi
  cases i with
  | zero =>
    obtain rfl : packet = q := by simpa using hi
    simpa using h
  | succ i => simpa using rest i q (by simpa using hi)

/-- A packet that `sendto` takes whole, before the others. -/
theorem UnitSent.cons {network : List Datagram} {packet : Bytes} {packets part : List Bytes} {sent : Nat}
    (h : sendto network packet = packet.length)
    (rest : UnitSent sendto dest (network ++ [⟨dest, packet⟩]) packets sent part) :
    UnitSent sendto dest network (packet :: packets) (sent + 1) (packet :: part) := by
  cases rest with
  | whole taken => exact .whole (taken.cons h)
  | refused at_packet before negative =>
    refine .refused at_packet ?_ (by simpa using negative)
    rw [List.take_succ_cons]
    exact before.cons h
  | short at_packet before taken ne =>
    refine .short at_packet ?_ (by simpa using taken) (by simpa using ne)
    rw [List.take_succ_cons]
    exact before.cons h

/-- Where `sendto` takes everything, the whole NAL is on its way. -/
theorem UnitSent.eq_whole (hsend : ∀ network packet, sendto network packet = packet.length) {network : List Datagram}
    {packets part : List Bytes} {sent : Nat} (h : UnitSent sendto dest network packets sent part) :
    sent = packets.length ∧ part = packets := by
  cases h with
  | whole => exact ⟨rfl, rfl⟩
  | refused _ _ negative =>
    rw [hsend] at negative
    omega
  | short _ _ _ ne => exact absurd (hsend _ _) ne

/-- A send through an open socket: the packet goes out, it is refused, or it goes out in part. -/
theorem rtpSenderSend_open (sendto : List Datagram → Bytes → Int) {sender : RTPSender} (hsock : 0 ≤ sender.sockfd)
    {packet : Bytes} (hne : packet ≠ []) (network : List Datagram) :
    (sendto network packet = packet.length ∧
      rtpSenderSend sendto sender network packet = (network ++ [⟨sender.remoteAddr, packet⟩], (packet.length : Int))) ∨
    (sendto network packet < 0 ∧ rtpSenderSend sendto sender network packet = (network, -1)) ∨
    (0 ≤ sendto network packet ∧ sendto network packet ≠ packet.length ∧
      rtpSenderSend sendto sender network packet = (network ++ [⟨sender.remoteAddr, packet⟩], -1)) := by
  have hopen : ¬(sender.sockfd < 0 ∨ packet = []) := by
    rintro (hclosed | hnil)
    · exact absurd hsock (Int.not_le.mpr hclosed)
    · exact hne hnil
  unfold rtpSenderSend
  rw [if_neg hopen]
  dsimp only
  by_cases hneg : sendto network packet < 0
  · exact .inr (.inl ⟨hneg, if_pos hneg⟩)
  · rw [if_neg hneg]
    by_cases hlen : sendto network packet = packet.length
    · exact .inl ⟨hlen, by rw [if_neg (not_not.mpr hlen), hlen]⟩
    · exact .inr (.inr ⟨Int.not_lt.mp hneg, hlen, if_pos hlen⟩)

/-- Packets that are attempted in order become what `UnitSent` says. -/
theorem attempt_rtpSenderSend (sendto : List Datagram → Bytes → Int) {sender : RTPSender} (hsock : 0 ≤ sender.sockfd)
    {packets : List Bytes} (hne : ∀ p ∈ packets, p ≠ []) (network : List Datagram) :
    ∃ part, UnitSent sendto sender.remoteAddr network packets
        (attempt (callback (rtpSenderSend sendto sender)) packets network).done part ∧
      (attempt (callback (rtpSenderSend sendto sender)) packets network).state =
        network ++ part.map (Datagram.mk sender.remoteAddr) := by
  induction packets generalizing network with
  | nil => exact ⟨[], .whole (.nil network), by simp⟩
  | cons packet packets ih =>
    rcases rtpSenderSend_open sendto hsock (hne packet (by simp)) network with
      ⟨hlen, hsend⟩ | ⟨hneg, hsend⟩ | ⟨htaken, hlen, hsend⟩
    · have hok : (callback (rtpSenderSend sendto sender) network packet).2 = true := by simp [callback, hsend]
      have hstate : (callback (rtpSenderSend sendto sender) network packet).1 =
          network ++ [⟨sender.remoteAddr, packet⟩] := by
        simp [callback, hsend]
      obtain ⟨part, hpart, hnetwork⟩ :=
        ih (fun p hp => hne p (by simp [hp])) (network ++ [⟨sender.remoteAddr, packet⟩])
      rw [attempt_cons_ok hok, hstate]
      exact ⟨packet :: part, hpart.cons hlen, by simp [hnetwork]⟩
    · have hfail : (callback (rtpSenderSend sendto sender) network packet).2 = false := by simp [callback, hsend]
      rw [attempt_cons_fail hfail]
      exact ⟨[], .refused rfl (.nil network) (by simpa using hneg), by simp [callback, hsend]⟩
    · have hfail : (callback (rtpSenderSend sendto sender) network packet).2 = false := by simp [callback, hsend]
      rw [attempt_cons_fail hfail]
      exact ⟨[packet], .short rfl (.nil network) (by simpa using htaken) (by simpa using hlen),
        by simp [callback, hsend]⟩

/-- The packets of one NAL. -/
def naluPackets (seq : UInt16) (timestamp : UInt32) (nalu : Bytes) : List Bytes :=
  numbered timestamp seq (naluPayloads nalu true)

theorem naluPackets_ne_nil (seq : UInt16) (timestamp : UInt32) (nalu : Bytes) :
    ∀ p ∈ naluPackets seq timestamp nalu, p ≠ [] := by
  intro p hp
  obtain ⟨i, hi⟩ := List.getElem?_of_mem hp
  rw [naluPackets, getElem?_numbered] at hi
  obtain ⟨x, -, rfl⟩ := Option.map_eq_some_iff.mp hi
  simp [packetOf, rtpPacketPack]

variable (sendto dest)

/-- What is on its way of NAL units sent one after the other, the first one behind `network` and from `seq` and
`timestamp` on. The packet with which a NAL unit ended does not count: the next NAL unit starts with its number. -/
inductive OnTheWay : List Datagram → UInt16 → UInt32 → List Bytes → List (List Bytes) → Prop
  | nil (network : List Datagram) (seq : UInt16) (timestamp : UInt32) : OnTheWay network seq timestamp [] []
  | cons {network : List Datagram} {seq : UInt16} {timestamp : UInt32} {nalu : Bytes} {nalus part : List Bytes}
      {parts : List (List Bytes)} {sent : Nat}
      (unit : UnitSent sendto dest network (naluPackets seq timestamp nalu) sent part)
      (rest : OnTheWay (network ++ part.map (Datagram.mk dest)) (seq + UInt16.ofNat sent) (timestamp + 3000) nalus
        parts) :
      OnTheWay network seq timestamp (nalu :: nalus) (part :: parts)

variable {sendto dest}

/-- One NAL is attempted packet by packet. -/
theorem sendNalu_eq (sendto : List Datagram → Bytes → Int) {nalu : Bytes} (hne : nalu ≠ []) (sender : RTPSender)
    (s : Stream) :
    sendNalu sendto sender s nalu =
      let outcome := attempt (callback (rtpSenderSend sendto sender)) (naluPackets s.seq s.timestamp nalu) s.network
      ⟨outcome.state, s.seq + UInt16.ofNat outcome.done, s.timestamp + 3000⟩ := by
  have hadapter : legacySendAdapter (some (rtpSenderSend sendto sender)) = rtpSenderSend sendto sender := rfl
  simp only [sendNalu, h264RtpSendNalu, hadapter, h264RtpSendNaluCtx_eq _ hne, SendResult.ofOutcome, naluPackets]

/-- **Whatever `sendto` answers**, every NAL unit is sent up to its own first packet that `sendto` does not take. -/
theorem sendNalus_onTheWay (sendto : List Datagram → Bytes → Int) {sender : RTPSender} (hsock : 0 ≤ sender.sockfd) :
    ∀ (nalus : List Bytes) (s : Stream), (∀ n ∈ nalus, n ≠ []) →
      ∃ parts, (nalus.foldl (sendNalu sendto sender) s).network =
          s.network ++ parts.flatten.map (Datagram.mk sender.remoteAddr) ∧
        OnTheWay sendto sender.remoteAddr s.network s.seq s.timestamp nalus parts
  | [], s, _ => ⟨[], by simp, .nil _ _ _⟩
  | nalu :: nalus, s, hne => by
    obtain ⟨part, hunit, hstate⟩ :=
      attempt_rtpSenderSend sendto hsock (naluPackets_ne_nil s.seq s.timestamp nalu) s.network
    have hsent := sendNalu_eq sendto (hne nalu (by simp)) sender s
    dsimp only at hsent
    obtain ⟨parts, hnetwork, hrest⟩ :=
      sendNalus_onTheWay sendto hsock nalus (sendNalu sendto sender s nalu) fun n hn => hne n (by simp [hn])
    rw [hsent, hstate] at hnetwork hrest
    refine ⟨part :: parts, ?_, .cons hunit hrest⟩
    rw [List.foldl_cons, hsent, hstate, hnetwork]
    simp

/-- The NAL units of a file through the sender of the program. -/
theorem fileSender_onTheWay (sendto : List Datagram → Bytes → Int) (fd : Nat) (content : Bytes) :
    ∃ parts, ((nalUnits content).foldl (sendNalu sendto (fileSender fd)) ⟨[], 100, 0⟩).network =
        parts.flatten.map (Datagram.mk destination) ∧
      OnTheWay sendto destination [] 100 0 (nalUnits content) parts :=
  sendNalus_onTheWay sendto (Int.natCast_nonneg fd) (nalUnits content) ⟨[], 100, 0⟩
    fun _ hn => (isUnit_of_mem hn).ne_nil

end Sender

/-- **The program on a clean file**: whatever `sendto` answers, it goes through all NAL units and gives the socket back,
and each unit is on its way up to the first of its packets that `sendto` does not take. -/
theorem testH264Udp_sent {answers : SenderAnswers} {fd : Nat} {content : Bytes} (hsocket : answers.socket = some fd)
    (hclean : Clean content) (sendto : List Datagram → Bytes → Int) :
    ∃ parts, (testH264Udp answers sendto (some content)).network = parts.flatten.map (Datagram.mk destination) ∧
      OnTheWay sendto destination [] 100 0 (nalUnits content) parts ∧
      (testH264Udp answers sendto (some content)).uses = [opened fd, closed fd] ∧
      (testH264Udp answers sendto (some content)).ret = some 0 := by
  obtain ⟨parts, hnetwork, hparts⟩ := fileSender_onTheWay sendto fd content
  rw [testH264Udp_clean hsocket hclean]
  exact ⟨parts, hnetwork, hparts, rfl, rfl⟩

/-- A sequence parameter set, a picture parameter set and an IDR slice. -/
def smallFile : List (Nat × Bytes) := [(3, [0x67, 0x42]), (3, [0x68, 0xce]), (2, [0x65, 0x88, 0x84])]

theorem smallFile_nals : ∀ p ∈ smallFile, (p.1 = 2 ∨ p.1 = 3) ∧ IsNal p.2 := by
  have hnals : smallFile.map (·.2) = [[0x67, 0x42], [0x68, 0xce], [0x65, 0x88, 0x84]] := rfl
  intro p hp
  have hmem : p.2 ∈ [[0x67, 0x42], [0x68, 0xce], [0x65, 0x88, 0x84]] := hnals ▸ List.mem_map_of_mem hp
  refine ⟨?_, ?_⟩
  · revert p
    decide
  · simp only [List.mem_cons, List.not_mem_nil, or_false] at hmem
    rcases hmem with h | h | h <;> rw [h] <;> exact ⟨by decide, by decide, by decide⟩

/-- `sendto` that cannot send the picture parameter set of `smallFile`. -/
def refusing (_ : List Datagram) (packet : Bytes) : Int := if packet.getD 12 0 = 0x68 then -1 else packet.length

theorem testH264Udp_sent_small :
    ∃ parts, (testH264Udp ⟨some 3, true⟩ refusing (some (serialize smallFile))).network =
        parts.flatten.map (Datagram.mk destination) ∧
      OnTheWay refusing destination [] 100 0 (nalUnits (serialize smallFile)) parts ∧
      (testH264Udp ⟨some 3, true⟩ refusing (some (serialize smallFile))).uses = [opened (3 : Nat), closed (3 : Nat)] ∧
      (testH264Udp ⟨some 3, true⟩ refusing (some (serialize smallFile))).ret = some 0 :=
  testH264Udp_sent rfl (clean_serialize smallFile_nals) refusing

/-! ## When everything goes out -/

/-- The packets of NAL units sent one after the other, the first one from `seq` and `timestamp` on. -/
def wholeParts : UInt16 → UInt32 → List Bytes → List (List Bytes)
  | _, _, [] => []
  | seq, timestamp, nalu :: nalus =>
    naluPackets seq timestamp nalu ::
      wholeParts (seq + UInt16.ofNat (naluPackets seq timestamp nalu).length) (timestamp + 3000) nalus

section Whole

variable {sendto : List Datagram → Bytes → Int}

/-- All packets of all NAL units are on their way. -/
theorem OnTheWay.eq_wholeParts (hsend : ∀ network packet, sendto network packet = packet.length) {dest : SockAddr}
    {network : List Datagram} {seq : UInt16} {timestamp : UInt32} {nalus : List Bytes} {parts : List (List Bytes)}
    (h : OnTheWay sendto dest network seq timestamp nalus parts) : parts = wholeParts seq timestamp nalus := by
  induction h with
  | nil => rfl
  | cons unit _ ih =>
    obtain ⟨rfl, rfl⟩ := unit.eq_whole hsend
    rw [wholeParts, ih]

end Whole

/-- What a receiver makes of a file's packets, NAL unit by NAL unit. -/
structure FileReceived (units : List Bytes) (parts : List (List Bytes)) : Prop where
  /-- All packets together give the units. -/
  units_eq : receiveAll none parts.flatten = some (none, units)
  /-- Each part is one unit. -/
  each : parts.map (receiveAll none) = units.map fun u => some (none, [u])
  /-- The parts are 3000 ticks apart. -/
  timestamps : ∀ k part, parts[k]? = some part → ∀ p ∈ part,
    (parsePacket p).map (·.1.timestamp) = some (UInt32.ofNat (3000 * k))
  /-- The packets are numbered consecutively from 100 on. -/
  sequence : ∀ i p, parts.flatten[i]? = some p → (parsePacket p).map (·.1.sequence) = some (100 + UInt16.ofNat i)

theorem receiveAll_naluPackets {nalu : Bytes} (h : Receivable nalu) (seq : UInt16) (timestamp : UInt32) :
    receiveAll none (naluPackets seq timestamp nalu) = some (none, [nalu]) := by
  obtain ⟨hne, hlo, hhi⟩ := h
  rw [naluPackets, receiveAll_numbered]
  exact acceptAll_naluPayloads hne true ⟨hlo, hhi⟩

theorem receiveAll_wholeParts {units : List Bytes} (h : ∀ u ∈ units, Receivable u) (seq : UInt16) (timestamp : UInt32) :
    receiveAll none (wholeParts seq timestamp units).flatten = some (none, units) ∧
      (wholeParts seq timestamp units).map (receiveAll none) = units.map fun u => some (none, [u]) := by
  induction units generalizing seq timestamp with
  | nil => exact ⟨rfl, rfl⟩
  | cons u units ih =>
    have hone := receiveAll_naluPackets (h u (by simp)) seq timestamp
    obtain ⟨hall, heach⟩ := ih (fun v hv => h v (by simp [hv]))
      (seq + UInt16.ofNat (naluPackets seq timestamp u).length) (timestamp + 3000)
    constructor
    · rw [wholeParts, List.flatten_cons, receiveAll_append, hone]
      simp [hall]
    · rw [wholeParts, List.map_cons, List.map_cons, hone, heach]

/-- The packets of a NAL carry its timestamp and consecutive numbers. -/
theorem naluPackets_header {seq : UInt16} {timestamp : UInt32} {nalu p : Bytes} {i : Nat}
    (h : (naluPackets seq timestamp nalu)[i]? = some p) :
    (parsePacket p).map (·.1.sequence) = some (seq + UInt16.ofNat i) ∧
      (parsePacket p).map (·.1.timestamp) = some timestamp := by
  rw [naluPackets, getElem?_numbered] at h
  obtain ⟨x, -, rfl⟩ := Option.map_eq_some_iff.mp h
  simp [parsePacket_packetOf, headerOf]

theorem wholeParts_timestamps {units : List Bytes} {seq : UInt16} {timestamp : UInt32} {k : Nat} {part : List Bytes}
    (h : (wholeParts seq timestamp units)[k]? = some part) :
    ∀ p ∈ part, (parsePacket p).map (·.1.timestamp) = some (timestamp + UInt32.ofNat (3000 * k)) := by
  induction units generalizing seq timestamp k with
  | nil => simp [wholeParts] at h
  | cons u units ih =>
    intro p hp
    cases k with
    | zero =>
      obtain rfl : naluPackets seq timestamp u = part := by simpa [wholeParts] using h
      obtain ⟨i, hi⟩ := List.getElem?_of_mem hp
      simp [(naluPackets_header hi).2]
    | succ k =>
      have hticks : timestamp + 3000 + UInt32.ofNat (3000 * k) = timestamp + UInt32.ofNat (3000 * (k + 1)) := by
        rw [Nat.mul_succ, Nat.add_comm, UInt32.ofNat_add, UInt32.add_assoc]
        rfl
      rw [← hticks]
      exact ih (by simpa [wholeParts] using h) p hp

theorem wholeParts_sequence {units : List Bytes} {seq : UInt16} {timestamp : UInt32} {i : Nat} {p : Bytes}
    (h : (wholeParts seq timestamp units).flatten[i]? = some p) :
    (parsePacket p).map (·.1.sequence) = some (seq + UInt16.ofNat i) := by
  induction units generalizing seq timestamp i with
  | nil => simp [wholeParts] at h
  | cons u units ih =>
    rw [wholeParts, List.flatten_cons, List.getElem?_append] at h
    split at h
    · exact (naluPackets_header h).1
    · rename_i hi
      rw [ih h, UInt16.add_assoc, ← UInt16.ofNat_add]
      congr 3
      omega

/-- **A clean file arrives**: when every datagram goes out whole, they go to `127.0.0.1:5000` and a receiver of them
gets the NAL units of the file. -/
theorem testH264Udp_received {answers : SenderAnswers} {fd : Nat} {content : Bytes} (hsocket : answers.socket = some fd)
    {sendto : List Datagram → Bytes → Int} (hsend : ∀ network packet, sendto network packet = packet.length)
    (hclean : Clean content) (hunits : ∀ u ∈ nalUnits content, Receivable u) :
    ∃ parts, (testH264Udp answers sendto (some content)).network = parts.flatten.map (Datagram.mk destination) ∧
      FileReceived (nalUnits content) parts := by
  obtain ⟨parts, hnetwork, hparts⟩ := fileSender_onTheWay sendto fd content
  obtain rfl := hparts.eq_wholeParts hsend
  obtain ⟨hall, heach⟩ := receiveAll_wholeParts hunits 100 0
  refine ⟨wholeParts 100 0 (nalUnits content), ?_, hall, heach, fun k part hk p hp => ?_, fun i p hi => ?_⟩
  · rw [testH264Udp_clean hsocket hclean, hnetwork]
  · rw [wholeParts_timestamps hk p hp, UInt32.zero_add]
  · exact wholeParts_sequence hi

theorem testH264Udp_received_small :
    ∃ parts, (testH264Udp ⟨some 3, true⟩ (fun _ packet => packet.length) (some (serialize smallFile))).network =
        parts.flatten.map (Datagram.mk destination) ∧
      FileReceived (nalUnits (serialize smallFile)) parts := by
  refine testH264Udp_received rfl (fun _ _ => rfl) (clean_serialize smallFile_nals) fun u hu => ?_
  have hunits : nalUnits (serialize smallFile) = smallFile.map (·.2) :=
    nalUnits_serialize fun p hp => ⟨by have := (smallFile_nals p hp).1; omega, (smallFile_nals p hp).2⟩
  rw [hunits] at hu
  revert u
  decide

end MiniRtsp.Process
