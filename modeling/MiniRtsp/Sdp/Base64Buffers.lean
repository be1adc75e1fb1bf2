import MiniRtsp.Lib.Memory
import MiniRtsp.Sdp.Base64

/-!
# Base64 in its buffers

`base64_encode` with every byte it reads and writes inside its buffers and every sum inside `int`; what lies outside is
an outcome of its own (`none`). The groups it writes are those of `base64Encode` (`base64Rounds_refines`), so the space
check before each group is exact for the whole output and its NUL (`base64_contract`).
-/

namespace MiniRtsp.Sdp

open Memory

/-- A sum of type `int`. -/
def intSum (n : Nat) : Option Nat := if n ≤ 2147483647 then some n else none

/-- `input[i + k]`, read only when `remain > k`. -/
def readBehind (input : Bytes) (i k : Nat) (remain : Int) : Option (Option UInt8) :=
  if remain > k then (input[i + k]?).map some else some none

/-- The `while` loop at `i` and `out`, at most `n` rounds of it, and the NUL: the return value and the output. -/
def base64Rounds (input : Bytes) (inputLen outputSize : Int) : Nat → Nat → Nat → Bytes → Option (Int × Bytes)
  | 0, _, _, _ => none
  | n + 1, i, out, output =>
    if (i : Int) < inputLen then do
      let remain := inputLen - i
      let a ← input[i]?
      let b ← readBehind input i 1 remain
      let c ← readBehind input i 2 remain
      let limit ← intSum (out + 4)
      if (limit : Int) ≥ outputSize then some (-1, output)
      else
        let output ← writeAll output out (base64Group a b c)
        let i ← intSum (i + 3)
        base64Rounds input inputLen outputSize n i (out + 4) output
    else do
      let output ← write output out 0x00
      some (out, output)

/-- `base64_encode` on an input of `input.length` bytes and an output of `output.length` bytes. -/
def base64EncodeCall (input : Bytes) (inputLen : Int) (output : Bytes) (outputSize : Int) : Option (Int × Bytes) :=
  base64Rounds input inputLen outputSize (inputLen.toNat + 1) 0 0 output

/-- What a call leaves, when `chars` are the characters before the NUL. -/
def Leaves (chars : Option Bytes) (ret : Int) (output : Bytes) : Prop :=
  match chars with
  | none => ret = -1
  | some chars => ret = chars.length ∧ output.take chars.length = chars ∧ output[chars.length]? = some 0x00

/-- A group of the loop of `base64Encode`, of one to three bytes. -/
theorem base64Loop_cons (outputSize : Int) (a : UInt8) (rest out : Bytes) :
    base64Loop outputSize (a :: rest) out =
      if (out.length : Int) + 4 ≥ outputSize then none
      else base64Loop outputSize (rest.drop 2) (out ++ base64Group a rest[0]? rest[1]?) := by
  match rest with
  | [] => rfl
  | [b] => rfl
  | b :: c :: rest => rfl

/-- A byte of a group that may be missing is read inside the input. -/
theorem readBehind_eq (input : Bytes) (i k : Nat) :
    readBehind input i k (input.length - i) = some (input.drop i)[k]? := by
  rw [readBehind, List.getElem?_drop]
  split
  · rename_i hlt
    rw [List.getElem?_eq_getElem (by omega)]
    rfl
  · rename_i hlt
    rw [List.getElem?_eq_none (by omega)]

/-- A round that finds a byte. -/
theorem base64Rounds_byte {input : Bytes} {outputSize : Int} (n : Nat) {i out : Nat} {output : Bytes}
    (hmore : i < input.length) (hi : i + 3 ≤ 2147483647) (hout : out + 4 ≤ 2147483647)
    (hsize : outputSize = output.length) :
    base64Rounds input input.length outputSize (n + 1) i out output =
      let group := base64Group input[i] (input.drop i)[1]? (input.drop i)[2]?
      if (out : Int) + 4 ≥ outputSize then some (-1, output)
      else base64Rounds input input.length outputSize n (i + 3) (out + 4)
        (output.take out ++ group ++ output.drop (out + 4)) := by
  have hlimit : intSum (out + 4) = some (out + 4) := if_pos hout
  have hnext : intSum (i + 3) = some (i + 3) := if_pos hi
  rw [base64Rounds, if_pos (by omega)]
  simp only [Option.bind_eq_bind, List.getElem?_eq_getElem hmore, readBehind_eq, hlimit, hnext, Option.bind_some]
  by_cases hfull : (out : Int) + 4 ≥ outputSize
  · rw [if_pos (show ((out + 4 : Nat) : Int) ≥ outputSize from hfull), if_pos hfull]
  · rw [if_neg (show ¬((out + 4 : Nat) : Int) ≥ outputSize from hfull), if_neg hfull]
    have hgroup : (base64Group input[i] (input.drop i)[1]? (input.drop i)[2]?).length = 4 := rfl
    rw [writeAll_eq (by rw [hgroup]; omega), hgroup, Option.bind_some]

/-- **The loop in memory** writes what the loop of `base64Encode` appends. -/
theorem base64Rounds_refines {input : Bytes} {outputSize : Int} : ∀ (n : Nat) {i out : Nat} {output : Bytes},
    outputSize = output.length → input.length - i < n → input.length + 2 ≤ 2147483647 → out < output.length →
    out + 4 * ((input.length - i + 2) / 3) ≤ 2147483647 →
    ∃ ret output', base64Rounds input input.length outputSize n i out output = some (ret, output') ∧
      output'.length = output.length ∧ Leaves (base64Loop outputSize (input.drop i) (output.take out)) ret output'
  | 0, _, _, _, _, hn, _, _, _ => absurd hn (Nat.not_lt_zero _)
  | n + 1, i, out, output, hsize, hn, hint, hout, hsum => by
    have htake : (output.take out).length = out := List.length_take_of_le (Nat.le_of_lt hout)
    by_cases hmore : i < input.length
    · have hsecond : (input.drop i)[1]? = (input.drop (i + 1))[0]? := by rw [List.getElem?_drop, List.getElem?_drop]
      have hthird : (input.drop i)[2]? = (input.drop (i + 1))[1]? := by
        rw [List.getElem?_drop, List.getElem?_drop, Nat.add_assoc]
      rw [base64Rounds_byte n hmore (by omega) (by omega) hsize, List.drop_eq_getElem_cons hmore, base64Loop_cons,
        htake, ← List.drop_eq_getElem_cons hmore, hsecond, hthird, List.drop_drop]
      dsimp only
      generalize hg : base64Group input[i] (input.drop (i + 1))[0]? (input.drop (i + 1))[1]? = group
      have hlen : group.length = 4 := by rw [← hg]; rfl
      split
      · exact ⟨-1, output, rfl, rfl, rfl⟩
      · rename_i hroom
        have hwritten : (output.take out ++ group ++ output.drop (out + 4)).length = output.length := by
          rw [List.length_append, List.length_append, htake, hlen, List.length_drop]
          omega
        have hwrote : (output.take out ++ group ++ output.drop (out + 4)).take (out + 4) = output.take out ++ group :=
          List.take_left' (by rw [List.length_append, htake, hlen])
        obtain ⟨ret, output', hcall, hlength, hleaves⟩ := @base64Rounds_refines input outputSize n (i + 3) (out + 4)
          (output.take out ++ group ++ output.drop (out + 4)) (by rw [hwritten, hsize]) (by omega) hint
          (by rw [hwritten]; omega) (by omega)
        rw [hwrote] at hleaves
        exact ⟨ret, output', hcall, hlength.trans hwritten, hleaves⟩
    · rw [base64Rounds, if_neg (by omega), write, if_pos hout]
      refine ⟨out, output.set out 0x00, rfl, List.length_set, ?_⟩
      have hnil : input.drop i = [] := List.drop_of_length_le (by omega)
      rw [hnil, base64Loop, Leaves, htake]
      exact ⟨rfl, List.take_set_of_le (Nat.le_refl out), List.getElem?_set_self hout⟩

/-- **The contract of `base64_encode`.** For every input and every output of at least one byte the call stays inside its
buffers. It returns the length of the encoding exactly when that is smaller than the size of the output; the output then
ends there with a NUL and decodes to the input. Otherwise it returns `-1`. -/
theorem base64_contract (input output : Bytes) (hinput : 4 * ((input.length + 2) / 3) < 2147483647 - 4)
    (houtput : 1 ≤ output.length ∧ output.length ≤ 2147483647) :
    ∃ ret output', base64EncodeCall input input.length output output.length = some (ret, output') ∧
      output'.length = output.length ∧
      (ret = (4 * ((input.length + 2) / 3) : Nat) ↔ 4 * ((input.length + 2) / 3) < output.length) ∧
      (4 * ((input.length + 2) / 3) < output.length →
        output'[4 * ((input.length + 2) / 3)]? = some 0x00 ∧
        Base64Format.decode (output'.take (4 * ((input.length + 2) / 3))) = some input) ∧
      (output.length ≤ 4 * ((input.length + 2) / 3) → ret = -1) := by
  obtain ⟨ret, output', hcall, hlength, hleaves⟩ := @base64Rounds_refines input output.length (input.length + 1) 0 0
    output rfl (by omega) (by omega) houtput.1 (by omega)
  refine ⟨ret, output', hcall, hlength, ?_⟩
  have hchars : base64Loop output.length input [] =
      if 4 * ((input.length + 2) / 3) < output.length then some (Base64Format.encode input) else none := by
    by_cases hnil : input = []
    · subst hnil
      rw [if_pos (show 4 * ((([] : Bytes).length + 2) / 3) < output.length from houtput.1)]
      rfl
    · have heq := base64Encode_eq hnil output.length
      rw [base64Encode] at heq
      rw [heq]
      congr 1
      exact propext (by omega)
  rw [List.drop_zero, List.take_zero, hchars] at hleaves
  by_cases hroom : 4 * ((input.length + 2) / 3) < output.length
  · rw [if_pos hroom, Leaves, Base64Format.length_encode] at hleaves
    obtain ⟨hret, htake, hnul⟩ := hleaves
    refine ⟨iff_of_true hret hroom, fun _ => ⟨hnul, ?_⟩, fun hfull => absurd hroom (by omega)⟩
    rw [htake]
    exact Base64Format.decode_encode input
  · rw [if_neg hroom, Leaves] at hleaves
    exact ⟨iff_of_false (by omega) hroom, fun h => absurd h hroom, fun _ => hleaves⟩

/-- Two bytes and the five bytes of output that just hold their encoding. -/
theorem base64_contract_fits :
    ∃ ret output', base64EncodeCall [0x4d, 0x61] 2 (List.replicate 5 0xff) 5 = some (ret, output') ∧
      output'.length = 5 ∧ ret = 4 ∧ output'[4]? = some 0x00 ∧
      Base64Format.decode (output'.take 4) = some [0x4d, 0x61] := by
  obtain ⟨ret, output', hcall, hlength, hret, hfits, -⟩ :=
    base64_contract [0x4d, 0x61] (List.replicate 5 0xff) (by decide) (by decide)
  obtain ⟨hnul, hdecode⟩ := hfits (by decide)
  exact ⟨ret, output', hcall, hlength, hret.mpr (by decide), hnul, hdecode⟩

end MiniRtsp.Sdp
