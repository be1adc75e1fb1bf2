import MiniRtsp.Lib.Wire

/-!
# Annex-B access units

`h264/h264_annexb.c`: the start-code search, the split of an access unit into NAL views, and the two readers of that
split. An access unit is a list of bytes; a view is a start index and a size in it. `NULL` data is the empty list, a
return value `-1` is `none`.
-/

namespace MiniRtsp.H264

/-- `H264_ANNEXB_MAX_NALUS`. -/
def annexbMaxNalus : Nat := 64

def nalIdr : UInt8 := 5
def nalSps : UInt8 := 7
def nalPps : UInt8 := 8

/-- The NAL type of a header byte: its low five bits. -/
def nalType (header : UInt8) : UInt8 := header &&& 0x1f

structure H264NaluView where
  start : Nat
  size : Nat
  type : UInt8
  deriving DecidableEq, Repr

/-- The bytes a view points to. -/
def H264NaluView.bytes (data : Bytes) (v : H264NaluView) : Bytes := (data.drop v.start).take v.size

/-- `start_code_size`: 4, 3 or 0. -/
def startCodeSize (data : Bytes) (offset : Nat) : Nat :=
  if offset ≥ data.length then 0
  else if offset + 4 ≤ data.length ∧ data.getD offset 0 = 0x00 ∧ data.getD (offset + 1) 0 = 0x00 ∧
      data.getD (offset + 2) 0 = 0x00 ∧ data.getD (offset + 3) 0 = 0x01 then 4
  else if offset + 3 ≤ data.length ∧ data.getD offset 0 = 0x00 ∧ data.getD (offset + 1) 0 = 0x00 ∧
      data.getD (offset + 2) 0 = 0x01 then 3
  else 0

/-- The loop of `find_next_start_code`; the first argument is `size - i`. -/
def findStartCodeLoop (data : Bytes) : Nat → Nat → Option (Nat × Nat)
  | 0, _ => none
  | n + 1, i =>
    let currentSize := startCodeSize data i
    if currentSize ≠ 0 then some (i, currentSize) else findStartCodeLoop data n (i + 1)

/-- `find_next_start_code`: the offset and the size of the first start code from `start` on. -/
def findNextStartCode (data : Bytes) (start : Nat) : Option (Nat × Nat) :=
  findStartCodeLoop data (data.length - start) start

/-- `while (nalu_end > nalu_start && data[nalu_end - 1U] == 0x00U) --nalu_end`. -/
def trimTrailingZeros (data : Bytes) (naluStart : Nat) : Nat → Nat
  | 0 => 0
  | e + 1 => if e + 1 > naluStart ∧ data.getD e 0 = 0x00 then trimTrailingZeros data naluStart e else e + 1

/-- One NAL of `h264_annexb_collect`: the view is stored unless it is empty; `none` when `nalus` is full. -/
def storeNalu (data : Bytes) (capacity : Nat) (nalus : List H264NaluView) (naluStart naluEnd : Nat) :
    Option (List H264NaluView) :=
  if naluEnd > naluStart then
    if nalus.length ≥ capacity then none
    else some (nalus ++ [⟨naluStart, naluEnd - naluStart, nalType (data.getD naluStart 0)⟩])
  else some nalus

/-- The `while` loop of `h264_annexb_collect`. Every round passes over at least one byte, so `data.length + 1` rounds
suffice; the first argument is the number of rounds left. -/
def collectLoop (data : Bytes) (capacity : Nat) :
    Nat → Nat → Nat → List H264NaluView → Option (List H264NaluView)
  | 0, _, _, _ => none
  | n + 1, currentStart, currentCodeSize, nalus =>
    if currentStart < data.length then
      let naluStart := currentStart + currentCodeSize
      if naluStart ≥ data.length then some nalus
      else
        match findNextStartCode data naluStart with
        | some (nextStart, nextCodeSize) => do
          let nalus ← storeNalu data capacity nalus naluStart (trimTrailingZeros data naluStart nextStart)
          if nextStart ≥ data.length then some nalus
          else collectLoop data capacity n nextStart nextCodeSize nalus
        | none => storeNalu data capacity nalus naluStart (trimTrailingZeros data naluStart data.length)
    else some nalus

/-- `h264_annexb_collect`. -/
def h264AnnexbCollect (data : Bytes) (capacity : Nat) : Option (List H264NaluView) :=
  if data.length = 0 ∨ capacity = 0 then none
  else
    match findNextStartCode data 0 with
    | none => none
    | some (currentStart, currentCodeSize) => do
      let nalus ← collectLoop data capacity (data.length + 1) currentStart currentCodeSize []
      if nalus.length = 0 then none else some nalus

/-- `h264_annexb_contains_type`. -/
def h264AnnexbContainsType (data : Bytes) (type : UInt8) : Bool :=
  match h264AnnexbCollect data annexbMaxNalus with
  | none => false
  | some nalus => nalus.any fun v => v.type == type

/-- The parameter sets found so far, as the loop of `h264_annexb_copy_parameter_sets` updates them; `alloc` answers
the next `malloc`. -/
structure ParameterSets where
  sps : Option Bytes
  pps : Option Bytes
  deriving DecidableEq, Repr

/-- The loop of `h264_annexb_copy_parameter_sets`: the first SPS and the first PPS are copied. `allocs` are the answers
of `malloc`; a failed one (or a missing answer) is `FAIL`. -/
def copyLoop (data : Bytes) : List H264NaluView → List Bool → ParameterSets → Option ParameterSets
  | [], _, found => some found
  | v :: vs, allocs, found =>
    if v.type = nalSps ∧ found.sps = none then
      match allocs with
      | true :: allocs => copyLoop data vs allocs { found with sps := some (v.bytes data) }
      | _ => none
    else if v.type = nalPps ∧ found.pps = none then
      match allocs with
      | true :: allocs => copyLoop data vs allocs { found with pps := some (v.bytes data) }
      | _ => none
    else copyLoop data vs allocs found

/-- `h264_annexb_copy_parameter_sets`: the copies of the first SPS and the first PPS. -/
def h264AnnexbCopyParameterSets (data : Bytes) (allocs : List Bool) : Option (Bytes × Bytes) :=
  match h264AnnexbCollect data annexbMaxNalus with
  | none => none
  | some nalus =>
    match copyLoop data nalus allocs ⟨none, none⟩ with
    | some ⟨some sps, some pps⟩ => some (sps, pps)
    | _ => none

end MiniRtsp.H264
