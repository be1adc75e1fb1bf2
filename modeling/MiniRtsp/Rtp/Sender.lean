import MiniRtsp.Common.Resource
import MiniRtsp.Lib.Text
import MiniRtsp.Rtp.Packet

/-!
# The UDP sender

`rtp/rtp_sender.c` over a socket interface whose answers come from outside: `SenderAnswers` for the calls of
`rtp_sender_init_ex`, a function for those of `sendto`. `inet_ntop` and `inet_pton` are the dotted decimal form of an
IPv4 address and its reader; reading back what was printed gives the address (`inetPton_inetNtop`). What the functions
open and close is listed for the ledger.
-/

namespace MiniRtsp.Rtp

open Text Ledger

/-- `struct in_addr`: the four octets of an IPv4 address. -/
structure InAddr where
  a : UInt8
  b : UInt8
  c : UInt8
  d : UInt8
  deriving DecidableEq, Repr

/-! ## Addresses as text -/

/-- `inet_ntop(AF_INET, ..)`. -/
def inetNtop (addr : InAddr) : Bytes :=
  decimal addr.a.toNat ++ 0x2e :: (decimal addr.b.toNat ++ 0x2e :: (decimal addr.c.toNat ++ 0x2e ::
    decimal addr.d.toNat))

/-- One digit of an octet; `none` before the first one. Leading zeros and values over 255 are refused. -/
def octetDigit : Option Nat → UInt8 → Option Nat
  | none, ch => some (digitVal ch)
  | some v, ch => if v = 0 ∨ v * 10 + digitVal ch > 255 then none else some (v * 10 + digitVal ch)

/-- The loop of `inet_pton(AF_INET, ..)`: the octets read so far and the one being read. -/
def ptonLoop (octets : List UInt8) (current : Option Nat) : Bytes → Option (List UInt8)
  | [] =>
    match current with
    | some v => if octets.length = 3 then some (octets ++ [.ofNat v]) else none
    | none => none
  | ch :: src =>
    if isDigit ch then
      if current = none ∧ octets.length ≥ 4 then none
      else
        match octetDigit current ch with
        | some v => ptonLoop octets (some v) src
        | none => none
    else if ch = 0x2e then
      match current with
      | some v => if octets.length = 3 then none else ptonLoop (octets ++ [.ofNat v]) none src
      | none => none
    else none

/-- `inet_pton(AF_INET, ..)`. -/
def inetPton (ip : Bytes) : Option InAddr :=
  match ptonLoop [] none ip with
  | some [a, b, c, d] => some ⟨a, b, c, d⟩
  | _ => none

/-- Reading digits one after the other. -/
def octetDigits : Option Nat → Bytes → Option Nat
  | current, [] => current
  | current, ch :: src =>
    match octetDigit current ch with
    | some v => octetDigits (some v) src
    | none => none

theorem ptonLoop_digits (octets : List UInt8) (hlen : octets.length < 4) (v : Nat) (src : Bytes) :
    ∀ (digits : Bytes) (current : Option Nat), digits.all isDigit = true → octetDigits current digits = some v →
      ptonLoop octets current (digits ++ src) = ptonLoop octets (some v) src := by
  intro digits
  induction digits with
  | nil =>
    intro current _ h
    rw [octetDigits] at h
    rw [h, List.nil_append]
  | cons ch digits ih =>
    intro current hall h
    rw [List.all_cons, Bool.and_eq_true] at hall
    rw [octetDigits] at h
    cases hd : octetDigit current ch with
    | none => rw [hd] at h; cases h
    | some w =>
      rw [hd] at h
      have hguard : ¬(current = none ∧ octets.length ≥ 4) := fun hg => by omega
      simp only [List.cons_append, ptonLoop, hall.1, if_true, if_neg hguard, hd, ih (some w) hall.2 h]

/-- The printed octets are read as they are. -/
theorem decimal_octet (b : UInt8) :
    (decimal b.toNat).all isDigit = true ∧ octetDigits none (decimal b.toNat) = some b.toNat := by
  revert b
  apply Wire.forall_byte
  decide +kernel

theorem ptonLoop_octet (octets : List UInt8) (hlen : octets.length < 4) (b : UInt8) (src : Bytes) :
    ptonLoop octets none (decimal b.toNat ++ src) = ptonLoop octets (some b.toNat) src :=
  ptonLoop_digits octets hlen b.toNat src _ none (decimal_octet b).1 (decimal_octet b).2

/-- The dot closes the octet. -/
theorem ptonLoop_dot (octets : List UInt8) (hlen : octets.length < 3) (b : UInt8) (src : Bytes) :
    ptonLoop octets (some b.toNat) (0x2e :: src) = ptonLoop (octets ++ [b]) none src := by
  have hdot : isDigit 0x2e = false := by decide
  rw [ptonLoop, hdot]
  simp [show octets.length ≠ 3 by omega]

/-- **Printing and reading an address.** -/
theorem inetPton_inetNtop (addr : InAddr) : inetPton (inetNtop addr) = some addr := by
  have hlast := ptonLoop_octet [addr.a, addr.b, addr.c] (by simp) addr.d []
  rw [List.append_nil] at hlast
  unfold inetPton inetNtop
  rw [ptonLoop_octet [] (by simp), ptonLoop_dot [] (by simp), List.nil_append,
    ptonLoop_octet [addr.a] (by simp), ptonLoop_dot [addr.a] (by simp), List.singleton_append,
    ptonLoop_octet [addr.a, addr.b] (by simp), ptonLoop_dot [addr.a, addr.b] (by simp)]
  simp [hlast, ptonLoop]

/-! ## The sender -/

/-- `struct sockaddr_in`. -/
structure SockAddr where
  sinAddr : InAddr
  sinPort : UInt16
  deriving DecidableEq, Repr

/-- `RTPSender`; `sockfd` is negative when no socket is open. -/
structure RTPSender where
  sockfd : Int
  ip : Bytes
  port : Int
  localPort : Int
  remoteAddr : SockAddr
  deriving DecidableEq, Repr

/-- A sender as `memset` leaves it. -/
def RTPSender.zero : RTPSender := ⟨0, [], 0, 0, ⟨⟨0, 0, 0, 0⟩, 0⟩⟩

/-- What `socket` and `bind` answer. -/
structure SenderAnswers where
  socket : Option Nat
  bind : Bool

/-- `rtp_sender_close`. -/
def rtpSenderClose (sender : RTPSender) : RTPSender × List (Use Resource) :=
  ({ sender with sockfd := -1 }, if sender.sockfd ≥ 0 then [closed sender.sockfd] else [])

/-- `rtp_sender_init_ex`: the sender, what was opened and closed, and whether it succeeded. -/
def rtpSenderInitEx (answers : SenderAnswers) (sender : RTPSender) (localPort : Int) (ip : Bytes) (port : Int) :
    RTPSender × List (Use Resource) × Bool :=
  if port ≤ 0 ∨ port > 65535 ∨ localPort < 0 ∨ localPort > 65535 then (sender, [], false)
  else
    match answers.socket with
    | none => ({ RTPSender.zero with sockfd := -1 }, [], false)
    | some fd =>
      let sender := { RTPSender.zero with sockfd := fd }
      if localPort > 0 ∧ !answers.bind then
        let (sender, uses) := rtpSenderClose sender
        (sender, opened fd :: uses, false)
      else
        match inetPton ip with
        | none =>
          let (sender, uses) := rtpSenderClose sender
          (sender, opened fd :: uses, false)
        | some addr =>
          let remoteAddr := ⟨addr, UInt16.ofNat port.toNat⟩
          ({ sender with ip := ip, port := port, localPort := localPort, remoteAddr := remoteAddr }, [opened fd], true)

/-- A datagram on its way. -/
structure Datagram where
  dest : SockAddr
  packet : Bytes
  deriving DecidableEq, Repr

/-- `rtp_sender_send` over the datagrams sent so far; `sendto` answers the call. A datagram is on its way unless
`sendto` failed; a short one counts as a failure. -/
def rtpSenderSend (sendto : List Datagram → Bytes → Int) (sender : RTPSender) (network : List Datagram)
    (packet : Bytes) : List Datagram × Int :=
  if sender.sockfd < 0 ∨ packet = [] then (network, -1)
  else
    let ret := sendto network packet
    if ret < 0 then (network, -1)
    else
      let network := network ++ [⟨sender.remoteAddr, packet⟩]
      if ret ≠ packet.length then (network, -1) else (network, ret)

/-- What `rtp_sender_init_ex` did: on success the socket is open and the destination is the given address and port, on
failure nothing is left open. -/
theorem rtpSenderInitEx_cases {answers : SenderAnswers} {sender sender' : RTPSender} {localPort port : Int} {ip : Bytes}
    {uses : List (Use Resource)} {ok : Bool}
    (h : rtpSenderInitEx answers sender localPort ip port = (sender', uses, ok)) :
    (ok = true ∧ ∃ fd addr, uses = [opened (Nat.cast fd)] ∧ sender'.sockfd = Nat.cast fd ∧ inetPton ip = some addr ∧
      0 < port ∧ port ≤ 65535 ∧ sender'.remoteAddr = ⟨addr, UInt16.ofNat port.toNat⟩) ∨
    (ok = false ∧ (sender' = sender ∨ sender'.sockfd = -1) ∧
      (uses = [] ∨ ∃ fd : Nat, uses = [opened fd, closed fd])) := by
  unfold rtpSenderInitEx at h
  split at h
  · cases h
    exact .inr ⟨rfl, .inl rfl, .inl rfl⟩
  · rename_i hport
    split at h
    · cases h
      exact .inr ⟨rfl, .inr rfl, .inl rfl⟩
    · rename_i fd _
      have hclose : rtpSenderClose { RTPSender.zero with sockfd := fd } =
          ({ RTPSender.zero with sockfd := -1 }, [closed fd]) := by
        simp [rtpSenderClose]
      simp only [hclose] at h
      split at h
      · cases h
        exact .inr ⟨rfl, .inr rfl, .inr ⟨fd, rfl⟩⟩
      · split at h
        · cases h
          exact .inr ⟨rfl, .inr rfl, .inr ⟨fd, rfl⟩⟩
        · rename_i addr haddr
          cases h
          exact .inl ⟨rfl, fd, addr, rfl, rfl, haddr, by omega, by omega, rfl⟩

/-! ## Descriptors -/

/-- What an open socket contributes to the holdings. -/
def RTPSender.held (sender : RTPSender) : Multiset Resource :=
  if sender.sockfd ≥ 0 then {.descriptor sender.sockfd} else 0

theorem rtpSenderClose_moves (sender : RTPSender) (m : Multiset Resource) :
    Moves (rtpSenderClose sender).2 (sender.held + m) m := by
  unfold rtpSenderClose RTPSender.held
  split
  · exact moves_release _ m
  · simpa using moves_nil m

/-- **A failed initialisation leaves no socket open**, a successful one exactly its own. -/
theorem rtpSenderInitEx_moves {answers : SenderAnswers} {sender sender' : RTPSender} {localPort port : Int} {ip : Bytes}
    {uses : List (Use Resource)} {ok : Bool} (hclosed : sender.sockfd < 0)
    (h : rtpSenderInitEx answers sender localPort ip port = (sender', uses, ok)) (m : Multiset Resource) :
    Moves uses m (sender'.held + m) := by
  rcases rtpSenderInitEx_cases h with ⟨-, fd, -, rfl, hfd, -⟩ | ⟨-, hsender, huses⟩
  · have hheld : sender'.held = {.descriptor (Nat.cast fd)} := by
      rw [RTPSender.held, hfd, if_pos (Int.natCast_nonneg fd)]
    rw [hheld]
    exact moves_acquire _ m
  · have hheld : sender'.held = 0 := by
      unfold RTPSender.held
      rcases hsender with rfl | hsock
      · rw [if_neg (by omega)]
      · rw [if_neg (by omega)]
    rw [hheld, Multiset.zero_add]
    rcases huses with rfl | ⟨fd, rfl⟩
    · exact moves_nil m
    · exact moves_bracket _ (moves_nil _)

/-- What `rtp_sender_send` did: the packet left, or the call failed. -/
theorem rtpSenderSend_cases (sendto : List Datagram → Bytes → Int) (sender : RTPSender) (network : List Datagram)
    (packet : Bytes) :
    (rtpSenderSend sendto sender network packet = (network ++ [⟨sender.remoteAddr, packet⟩], (packet.length : Int)) ∧
      packet ≠ [] ∧ 0 ≤ sender.sockfd ∧ sendto network packet = packet.length) ∨
    ((rtpSenderSend sendto sender network packet).2 < 0 ∧
      (packet = [] ∨ sender.sockfd < 0 ∨ sendto network packet ≠ packet.length) ∧
      ((rtpSenderSend sendto sender network packet).1 = network ∨
        (rtpSenderSend sendto sender network packet).1 = network ++ [⟨sender.remoteAddr, packet⟩])) := by
  have hneg : (-1 : Int) < 0 := by decide
  unfold rtpSenderSend
  dsimp only
  split
  · rename_i h
    exact .inr ⟨hneg, by tauto, .inl rfl⟩
  · rename_i h
    rw [not_or] at h
    split
    · exact .inr ⟨hneg, .inr (.inr (by omega)), .inl rfl⟩
    · split
      · rename_i hlen
        exact .inr ⟨hneg, .inr (.inr hlen), .inr rfl⟩
      · rename_i hlen
        rw [not_not] at hlen
        exact .inl ⟨by rw [hlen], h.2, Int.not_lt.mp h.1, hlen⟩

end MiniRtsp.Rtp
