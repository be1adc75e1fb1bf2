import MiniRtsp.H264.Serialization
import MiniRtsp.Lib.Memory

/-!
# Reading NAL units from a file

`h264/h264_reader.c` over the bytes of a file. Every byte is read through the bounds of the buffer it lies in, so a read
outside is an outcome of its own (`none`). The sizes and positions are `int` in the source and never exceed the size of
the file.
-/

namespace MiniRtsp.H264

open Memory Occurrence

/-- `H264NALU`; `data` is the copy that was allocated. -/
structure H264NALU where
  data : Bytes
  size : Nat
  type : UInt8
  deriving DecidableEq, Repr

/-- `H264Reader` without the parameter sets, which `h264_reader_read` does not use. -/
structure H264Reader where
  buffer : Bytes
  pos : Nat
  deriving DecidableEq, Repr

/-- `reader->size`. -/
def H264Reader.size (reader : H264Reader) : Nat := reader.buffer.length

/-- The loop of `find_start_code` on the bytes from `base` on, at `i` with `n` rounds left. -/
def findStartCodeRounds (buf : Bytes) (base : Nat) : Nat → Nat → Option (Option Nat)
  | 0, _ => some none
  | n + 1, i => do
    if ← compareAt buf (base + i) [0x00, 0x00, 0x00, 0x01] then some (some i)
    else if ← compareAt buf (base + i) [0x00, 0x00, 0x01] then some (some i)
    else findStartCodeRounds buf base n (i + 1)

/-- `find_start_code` of `h264_reader.c`, which looks at the offsets below `size - 3`; the inner `none` is `-1`. -/
def findStartCode (buf : Bytes) (base size : Nat) : Option (Option Nat) := findStartCodeRounds buf base (size - 3) 0

/-- `h264_reader_read`: the NAL and the reader behind it; the inner `none` is the return value 0. The `malloc` of the
copy is taken to succeed. -/
def h264ReaderRead (reader : H264Reader) : Option (Option (H264NALU × H264Reader)) :=
  if reader.pos ≥ reader.size then some none
  else do
    let remain := reader.size - reader.pos
    match ← findStartCode reader.buffer reader.pos remain with
    | none => some none
    | some start =>
      let start := start + reader.pos
      let third ← reader.buffer[start + 2]?
      let startLen := if third = 0x01 then 3 else 4
      let naluStart := start + startLen
      let next ← findStartCode reader.buffer naluStart (reader.size - naluStart)
      let naluEnd :=
        match next with
        | some next => naluStart + next
        | none => reader.size
      let naluSize := naluEnd - naluStart
      let data := (reader.buffer.drop naluStart).take naluSize
      let header ← data[0]?
      some (some (⟨data, naluSize, nalType header⟩, { reader with pos := naluEnd }))

/-- What came of calling `h264_reader_read` again and again. -/
inductive Reading where
  /-- It returned 0. -/
  | done (nalus : List H264NALU)
  /-- It read outside a buffer. -/
  | fault (nalus : List H264NALU)
  /-- It would be called again. -/
  | more (nalus : List H264NALU)
  deriving DecidableEq, Repr

/-- One more NAL in front. -/
def Reading.cons (nalu : H264NALU) : Reading → Reading
  | .done nalus => .done (nalu :: nalus)
  | .fault nalus => .fault (nalu :: nalus)
  | .more nalus => .more (nalu :: nalus)

/-- `while (h264_reader_read(reader, &nalu) > 0)`, with at most `n` calls. -/
def readAll : Nat → H264Reader → Reading
  | 0, _ => .more []
  | n + 1, reader =>
    match h264ReaderRead reader with
    | none => .fault []
    | some none => .done []
    | some (some (nalu, reader)) => (readAll n reader).cons nalu

example : readAll 3 ⟨[0, 0, 0, 1, 0x67, 0x42, 0, 0, 1, 0x65, 0x88], 0⟩ =
    .done [⟨[0x67, 0x42], 2, 7⟩, ⟨[0x65, 0x88], 2, 5⟩] := by
  decide +kernel

/-! ## One call -/

/-- The start code the reader finds is the first one, unless that is the last three bytes. -/
def readerCode (d : Bytes) : Option Nat := (findCode d).bind fun r => if r.1 + 3 < d.length then some r.1 else none

theorem readerCode_head {d : Bytes} (hcode : headCodeSize d ≠ 0) (hlong : 3 < d.length) : readerCode d = some 0 := by
  obtain ⟨x, l, rfl⟩ := List.exists_cons_of_ne_nil (List.ne_nil_of_length_pos (by omega : 0 < d.length))
  rw [readerCode, findCode, if_pos hcode]
  exact if_pos (by omega)

theorem readerCode_skip {x : UInt8} {l : Bytes} (hcode : headCodeSize (x :: l) = 0) :
    readerCode (x :: l) = (readerCode l).map (· + 1) := by
  unfold readerCode
  rw [findCode, if_neg (by simpa using hcode)]
  cases findCode l with
  | none => rfl
  | some r =>
    simp only [Option.map_some, Option.bind_some, List.length_cons]
    by_cases hr : r.1 + 3 < l.length
    · rw [if_pos hr, if_pos (by omega)]
      rfl
    · rw [if_neg hr, if_neg (by omega)]
      rfl

theorem readerCode_short {d : Bytes} (h : d.length ≤ 3) : readerCode d = none := by
  unfold readerCode
  cases findCode d with
  | none => rfl
  | some r => exact if_neg (by omega)

/-- The loop stays inside the buffer. -/
theorem findStartCodeRounds_eq (buf : Bytes) (base : Nat) : ∀ n i, n = buf.length - base - 3 - i →
    findStartCodeRounds buf base n i = some ((readerCode (buf.drop (base + i))).map (i + ·))
  | 0, i, hn => by
    rw [readerCode_short (by rw [List.length_drop]; omega)]
    rfl
  | n + 1, i, hn => by
    have hlong : base + i + 4 ≤ buf.length := by omega
    have ih := findStartCodeRounds_eq buf base n (i + 1) (by omega)
    have hdrop := List.drop_eq_getElem_cons (show base + i < buf.length by omega)
    rw [findStartCodeRounds, compareAt_eq hlong, compareAt_eq (show base + i + 3 ≤ buf.length by omega)]
    have hsize : headCodeSize (buf.drop (base + i)) =
        if [0x00, 0x00, 0x00, 0x01] <+: buf.drop (base + i) then 4
        else if [0x00, 0x00, 0x01] <+: buf.drop (base + i) then 3 else 0 := rfl
    have hhead : headCodeSize (buf.drop (base + i)) ≠ 0 → readerCode (buf.drop (base + i)) = some 0 := fun h =>
      readerCode_head h (by rw [List.length_drop]; omega)
    simp only [Option.bind_eq_bind, Option.bind_some, decide_eq_true_eq]
    split
    · rename_i h4
      rw [hhead (by rw [hsize, if_pos h4]; decide)]
      rfl
    · rename_i h4
      split
      · rename_i h3
        rw [hhead (by rw [hsize, if_neg h4, if_pos h3]; decide)]
        rfl
      · rename_i h3
        rw [if_neg h4, if_neg h3, hdrop] at hsize
        rw [ih, hdrop, readerCode_skip hsize, Option.map_map]
        congr 2
        funext k
        simp only [Function.comp_apply]
        omega

theorem findStartCode_eq (buf : Bytes) (base : Nat) :
    findStartCode buf base (buf.length - base) = some (readerCode (buf.drop base)) := by
  rw [findStartCode, findStartCodeRounds_eq buf base _ 0 (Nat.sub_zero _).symm]
  simp

/-- The first start code is where one begins, and none begins before. -/
theorem findCode_at {d : Bytes} {o s : Nat} (h : findCode d = some (o, s)) :
    s = headCodeSize (d.drop o) ∧ s ≠ 0 ∧ ∀ i < o, headCodeSize (d.drop i) = 0 := by
  induction d generalizing o with
  | nil => cases h
  | cons x l ih =>
    simp only [findCode] at h
    split at h
    · rename_i hcode
      obtain ⟨rfl, rfl⟩ := Prod.mk.inj (Option.some.inj h)
      exact ⟨rfl, hcode, fun i hi => absurd hi (Nat.not_lt_zero i)⟩
    · rename_i hcode
      obtain ⟨⟨o', s'⟩, hl, heq⟩ := Option.map_eq_some_iff.mp h
      obtain ⟨rfl, rfl⟩ := Prod.mk.inj heq
      obtain ⟨hs, hne, hfirst⟩ := ih hl
      refine ⟨by simpa using hs, hne, fun i hi => ?_⟩
      cases i with
      | zero => simpa using hcode
      | succ i => simpa using hfirst i (by omega)

theorem findCode_drop {d : Bytes} {o s : Nat} (h : findCode d = some (o, s)) : findCode (d.drop o) = some (0, s) := by
  obtain ⟨hs, hne, -⟩ := findCode_at h
  have hdrop : d.drop o ≠ [] := by
    intro hnil
    rw [hs, hnil] at hne
    exact hne rfl
  obtain ⟨x, l, hl⟩ := List.exists_cons_of_ne_nil hdrop
  rw [hs, hl] at hne ⊢
  rw [findCode, if_pos hne]

/-- The third byte tells the two start codes apart. -/
theorem third_of_code {d : Bytes} (hcode : headCodeSize d ≠ 0) :
    ∃ third, d[2]? = some third ∧ (if third = 0x01 then 3 else 4) = headCodeSize d ∧ headCodeSize d ≤ d.length := by
  unfold headCodeSize at hcode ⊢
  split
  · rename_i h4
    obtain ⟨t, rfl⟩ := h4
    exact ⟨0x00, rfl, rfl, by simp [startCode]⟩
  · rename_i h4
    split
    · rename_i h3
      obtain ⟨t, rfl⟩ := h3
      exact ⟨0x01, rfl, rfl, by simp [startCode]⟩
    · rename_i h3
      rw [if_neg h4, if_neg h3] at hcode
      exact absurd rfl hcode

/-- What the reader takes from behind a start code: everything up to the next one it finds. -/
def readerNal (b : Bytes) : Bytes :=
  match readerCode b with
  | some j => b.take j
  | none => b

theorem readerCode_some {d : Bytes} {j : Nat} (h : readerCode d = some j) :
    ∃ s, findCode d = some (j, s) ∧ j + 3 < d.length := by
  obtain ⟨r, hfind, hr⟩ := Option.bind_eq_some_iff.mp h
  split at hr
  · rename_i hlt
    obtain rfl := Option.some.inj hr
    exact ⟨r.2, hfind, hlt⟩
  · cases hr

theorem readerNal_isPrefix (b : Bytes) : readerNal b <+: b := by
  unfold readerNal
  split
  · exact List.take_prefix _ b
  · exact List.prefix_refl b

theorem h264ReaderRead_none {reader : H264Reader} (h : readerCode (reader.buffer.drop reader.pos) = none) :
    h264ReaderRead reader = some none := by
  unfold h264ReaderRead
  split
  · rfl
  · dsimp only [H264Reader.size]
    rw [findStartCode_eq, h]
    rfl

/-- **A call** takes the NAL behind the first start code; of an empty one it reads a byte that is not there. -/
theorem h264ReaderRead_some {reader : H264Reader} {o s : Nat} {d : Bytes} (hd : reader.buffer.drop reader.pos = d)
    (hfind : findCode d = some (o, s)) (hlong : o + 3 < d.length) :
    h264ReaderRead reader =
      if readerNal (d.drop (o + s)) = [] then none
      else some (some (⟨readerNal (d.drop (o + s)), (readerNal (d.drop (o + s))).length,
        unitType (readerNal (d.drop (o + s)))⟩,
        { reader with pos := reader.pos + (o + s) + (readerNal (d.drop (o + s))).length })) := by
  have hread : readerCode d = some o := by
    rw [readerCode, hfind]
    exact if_pos hlong
  obtain ⟨hs, hne, -⟩ := findCode_at hfind
  obtain ⟨third, hthird, hstart, hfits⟩ := third_of_code (hs ▸ hne)
  rw [← hs] at hstart hfits
  have hlen := congrArg List.length hd
  rw [List.length_drop] at hlen
  rw [List.length_drop] at hfits
  have hthird' : reader.buffer[o + reader.pos + 2]? = some third := by
    rw [← hd, List.drop_drop, List.getElem?_drop] at hthird
    rw [← hthird]
    congr 1
    omega
  have hbehind : reader.buffer.drop (o + reader.pos + s) = d.drop (o + s) := by
    rw [← hd, List.drop_drop]
    congr 1
    omega
  unfold h264ReaderRead
  rw [if_neg (by rw [H264Reader.size]; omega)]
  dsimp only [H264Reader.size]
  rw [findStartCode_eq, hd, hread]
  simp only [Option.bind_eq_bind, Option.bind_some, hthird', hstart, findStartCode_eq, hbehind]
  generalize d.drop (o + s) = b at hbehind
  have hend : (match readerCode b with
      | some next => o + reader.pos + s + next
      | none => reader.buffer.length) = o + reader.pos + s + (readerNal b).length := by
    have hlength := congrArg List.length hbehind
    rw [List.length_drop] at hlength
    unfold readerNal
    cases hnext : readerCode b with
    | none =>
      dsimp only
      omega
    | some j =>
      obtain ⟨-, -, hj⟩ := readerCode_some hnext
      dsimp only
      rw [List.length_take, Nat.min_eq_left (by omega)]
  have htake : b.take (readerNal b).length = readerNal b := (List.prefix_iff_eq_take.mp (readerNal_isPrefix b)).symm
  rw [hend, Nat.add_sub_cancel_left, htake]
  have hpos : o + reader.pos + s = reader.pos + (o + s) := by omega
  rw [hpos]
  cases readerNal b with
  | nil => rfl
  | cons x u => rfl

end MiniRtsp.H264
