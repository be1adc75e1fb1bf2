import MiniRtsp.Lib.Text

/-!
# Base64 as RFC 4648 defines it

Three bytes are four digits of six bits (`encode`); a last group of one or two bytes is padded with `=`. `decode` reads
digits back, padding only at the end, and gives back what was encoded (`decode_encode`).
-/

namespace MiniRtsp.Base64Format

open Text

def alphabet : List UInt8 := ascii "ABCDEFGHIJKLMNOPQRSTUVWXYZabcdefghijklmnopqrstuvwxyz0123456789+/"

/-- The digit of six bits. -/
def digit (n : Nat) : UInt8 := alphabet.getD (n % 64) 0

def pad : UInt8 := 0x3d

/-- The six bits of a digit. -/
def value (b : UInt8) : Option Nat :=
  if 0x41 ≤ b ∧ b ≤ 0x5a then some (b.toNat - 0x41)
  else if 0x61 ≤ b ∧ b ≤ 0x7a then some (b.toNat - 0x61 + 26)
  else if 0x30 ≤ b ∧ b ≤ 0x39 then some (b.toNat - 0x30 + 52)
  else if b = 0x2b then some 62
  else if b = 0x2f then some 63
  else none

/-- The digits of up to three bytes. -/
def encodeGroup (a : UInt8) (b c : Option UInt8) : List UInt8 :=
  let n := a.toNat * 65536 + (b.getD 0).toNat * 256 + (c.getD 0).toNat
  [digit (n / 262144), digit (n / 4096), if b.isSome then digit (n / 64) else pad, if c.isSome then digit n else pad]

def encode : List UInt8 → List UInt8
  | [] => []
  | [a] => encodeGroup a none none
  | [a, b] => encodeGroup a (some b) none
  | a :: b :: c :: rest => encodeGroup a (some b) (some c) ++ encode rest

/-- The three bytes of four digits. -/
def decodeGroup (a b c d : UInt8) : Option (List UInt8) := do
  let n := (← value a) * 262144 + (← value b) * 4096 + (← value c) * 64 + (← value d)
  some [.ofNat (n / 65536), .ofNat (n / 256), .ofNat n]

/-- The bytes of the last four characters. -/
def decodeLast (a b c d : UInt8) : Option (List UInt8) :=
  if d = pad then
    if c = pad then (decodeGroup a b 0x41 0x41).map (·.take 1) else (decodeGroup a b c 0x41).map (·.take 2)
  else decodeGroup a b c d

def decode : List UInt8 → Option (List UInt8)
  | [] => some []
  | a :: b :: c :: d :: rest =>
    if rest = [] then decodeLast a b c d
    else do
      let group ← decodeGroup a b c d
      let bytes ← decode rest
      some (group ++ bytes)
  | _ => none

/-! ## Digits -/

/-- A digit stands for its six bits. -/
theorem value_digit (n : Nat) : value (digit n) = some (n % 64) := by
  have h : ∀ k < 64, value (alphabet.getD k 0) = some k := by decide +kernel
  exact h (n % 64) (Nat.mod_lt n (by decide))

/-- No digit is the padding, a blank or another separator. -/
theorem digit_mem (n : Nat) : digit n ∈ alphabet := by
  unfold digit
  rw [List.getD_eq_getElem?_getD]
  have hlt : n % 64 < alphabet.length := Nat.mod_lt n (by decide)
  rw [List.getElem?_eq_getElem hlt, Option.getD_some]
  exact List.getElem_mem hlt

theorem digit_ne_pad (n : Nat) : digit n ≠ pad := by
  have h : ∀ b ∈ alphabet, b ≠ pad := by decide +kernel
  exact h _ (digit_mem n)

/-- What an encoding consists of. -/
theorem mem_encode {bytes : List UInt8} : ∀ b ∈ encode bytes, b ∈ alphabet ∨ b = pad := by
  have hgroup : ∀ a (b c : Option UInt8), ∀ x ∈ encodeGroup a b c, x ∈ alphabet ∨ x = pad := by
    intro a b c x hx
    simp only [encodeGroup, List.mem_cons, List.not_mem_nil, or_false] at hx
    rcases hx with rfl | rfl | rfl | rfl
    · exact .inl (digit_mem _)
    · exact .inl (digit_mem _)
    · split
      · exact .inl (digit_mem _)
      · exact .inr rfl
    · split
      · exact .inl (digit_mem _)
      · exact .inr rfl
  induction bytes using encode.induct with
  | case1 => simp [encode]
  | case2 a => exact hgroup _ _ _
  | case3 a b => exact hgroup _ _ _
  | case4 a b c rest ih =>
    intro x hx
    rw [encode, List.mem_append] at hx
    exact hx.elim (hgroup _ _ _ x) (ih x)

/-- A byte that is neither a digit nor padding does not occur. -/
theorem notMem_encode {x : UInt8} (hx : x ∉ alphabet) (hpad : x ≠ pad) (bytes : List UInt8) : x ∉ encode bytes :=
  fun h => (mem_encode x h).elim hx hpad

theorem length_encode (bytes : List UInt8) : (encode bytes).length = 4 * ((bytes.length + 2) / 3) := by
  induction bytes using encode.induct with
  | case1 => rfl
  | case2 a => simp [encode, encodeGroup]
  | case3 a b => simp [encode, encodeGroup]
  | case4 a b c rest ih =>
    rw [encode, List.length_append, ih]
    simp only [encodeGroup, List.length_cons, List.length_nil]
    omega

/-! ## The round trip -/

theorem ofNat_eq {n : Nat} {b : UInt8} (h : n % 256 = b.toNat) : UInt8.ofNat n = b := by
  apply UInt8.toNat_inj.mp
  rw [UInt8.toNat_ofNat', h]

theorem decodeGroup_digits (a b c : UInt8) :
    let n := a.toNat * 65536 + b.toNat * 256 + c.toNat
    decodeGroup (digit (n / 262144)) (digit (n / 4096)) (digit (n / 64)) (digit n) = some [a, b, c] := by
  have ha := a.toNat_lt
  have hb := b.toNat_lt
  have hc := c.toNat_lt
  simp only [decodeGroup, value_digit, Option.bind_eq_bind, Option.bind_some, Option.some.injEq, List.cons.injEq,
    and_true]
  exact ⟨ofNat_eq (by omega), ofNat_eq (by omega), ofNat_eq (by omega)⟩

/-- The digit `A` stands for no bits. -/
theorem digit_zero {n : Nat} (h : n % 64 = 0) : digit n = 0x41 := by
  rw [digit, h]
  rfl

/-- **The round trip.** -/
theorem decode_encode (bytes : List UInt8) : decode (encode bytes) = some bytes := by
  induction bytes using encode.induct with
  | case1 => rfl
  | case2 a =>
    have hgroup := decodeGroup_digits a 0 0
    simp only [UInt8.toNat_zero, Nat.zero_mul, Nat.add_zero] at hgroup
    rw [digit_zero (n := a.toNat * 65536 / 64) (by omega), digit_zero (n := a.toNat * 65536) (by omega)] at hgroup
    simp [encode, encodeGroup, decode, decodeLast, hgroup]
  | case3 a b =>
    have hgroup := decodeGroup_digits a b 0
    simp only [UInt8.toNat_zero, Nat.add_zero] at hgroup
    rw [digit_zero (n := a.toNat * 65536 + b.toNat * 256) (by omega)] at hgroup
    simp [encode, encodeGroup, decode, decodeLast, digit_ne_pad, hgroup]
  | case4 a b c rest ih =>
    have hgroup := decodeGroup_digits a b c
    simp only at hgroup
    simp only [encode, encodeGroup, Option.getD_some, Option.isSome_some, if_true, List.cons_append, List.nil_append,
      decode]
    split
    · rename_i hrest
      rw [hrest] at ih
      have hnil : rest = [] := by simpa [decode] using ih.symm
      simp [decodeLast, digit_ne_pad, hgroup, hnil]
    · rw [hgroup, ih]
      rfl

end MiniRtsp.Base64Format
