import MiniRtsp.H264.ReaderAgreement
import MiniRtsp.Lib.Ledger
import Mathlib.Data.Multiset.Replicate

/-!
# Opening and closing the file reader

`h264_reader_open` goes through the whole file once and keeps a copy of the last sequence and the last picture parameter
set (`h264ReaderOpen_clean`). It does not free a copy before it stores the next one: of a file with more than one set of
a kind `h264_reader_close` leaves all copies but the last behind (`readerLife_holds`).
-/

namespace MiniRtsp.H264

open Ledger

/-- `reader->sps` and `reader->pps`. -/
structure ReaderSets where
  sps : Option Bytes
  pps : Option Bytes
  deriving DecidableEq, Repr

/-- The body of the loop of `h264_reader_parse_parameter`. -/
def takeParameter (sets : ReaderSets) (nalu : H264NALU) : ReaderSets :=
  let sets := if nalu.type = 7 then { sets with sps := some nalu.data } else sets
  if nalu.type = 8 then { sets with pps := some nalu.data } else sets

/-- `h264_reader_parse_parameter`; `none` when it reads outside a buffer. -/
def h264ReaderParseParameter (reader : H264Reader) : Option ReaderSets :=
  match readAll (reader.size + 1) { reader with pos := 0 } with
  | .done nalus => some (nalus.foldl takeParameter ⟨none, none⟩)
  | _ => none

/-- `h264_reader_open` on a file that is there. The allocations are taken to succeed. -/
def h264ReaderOpen (content : Bytes) : Option (H264Reader × ReaderSets) := do
  let reader : H264Reader := ⟨content, 0⟩
  let sets ← h264ReaderParseParameter reader
  some (reader, sets)

/-- **A clean file** is read without leaving a buffer, and its NAL units are those of the split. -/
theorem readAll_clean {content : Bytes} (h : Clean content) :
    ∃ nalus, readAll (content.length + 1) ⟨content, 0⟩ = .done nalus ∧
      (∀ nalu ∈ nalus, nalu.type = unitType nalu.data) ∧ nalus.map (·.data) = nalUnits content := by
  obtain ⟨nalus, hdone, hok, hunits⟩ := (readsLikeCollect_iff content).mp ((reader_agrees_iff content).2.mpr h)
  exact ⟨nalus, hdone, fun nalu hn => (hok nalu hn).2.2, hunits⟩

/-- The parameter sets are the last ones among the NALs. -/
theorem foldl_takeParameter (nalus : List H264NALU) (sets : ReaderSets) :
    (nalus.foldl takeParameter sets).sps = ((nalus.filter (·.type = 7)).getLast?.map (·.data)).or sets.sps ∧
      (nalus.foldl takeParameter sets).pps = ((nalus.filter (·.type = 8)).getLast?.map (·.data)).or sets.pps := by
  induction nalus using List.reverseRecOn with
  | nil => simp
  | append_singleton nalus nalu ih =>
    rw [List.foldl_concat, List.filter_append, List.filter_append]
    by_cases hsps : nalu.type = 7
    · simp [takeParameter, hsps, ih]
    · by_cases hpps : nalu.type = 8
      · simp [takeParameter, hpps, ih]
      · simp [takeParameter, hsps, hpps, ih]

/-- The last NAL of a type is the last unit of that type. -/
theorem getLast_filter_type {nalus : List H264NALU} (h : ∀ nalu ∈ nalus, nalu.type = unitType nalu.data)
    (type : UInt8) :
    (nalus.filter (·.type = type)).getLast?.map (·.data) =
      ((nalus.map (·.data)).filter (unitType · = type)).getLast? := by
  have hsame : nalus.filter (·.type = type) = nalus.filter fun nalu => unitType nalu.data = type :=
    List.filter_congr fun nalu hn => by rw [h nalu hn]
  rw [hsame, List.filter_map, List.getLast?_map]
  rfl

/-- **Opening a clean file** leaves the last sequence parameter set and the last picture parameter set of the file. -/
theorem h264ReaderOpen_clean {content : Bytes} (h : Clean content) :
    h264ReaderOpen content = some (⟨content, 0⟩, {
      sps := ((nalUnits content).filter (unitType · = 7)).getLast?
      pps := ((nalUnits content).filter (unitType · = 8)).getLast? }) := by
  obtain ⟨nalus, hdone, htype, hunits⟩ := readAll_clean h
  obtain ⟨hsps, hpps⟩ := foldl_takeParameter nalus ⟨none, none⟩
  rw [getLast_filter_type htype, hunits, Option.or_none] at hsps hpps
  have hsets : nalus.foldl takeParameter ⟨none, none⟩ = ⟨_, _⟩ := congrArg₂ ReaderSets.mk hsps hpps
  simp [h264ReaderOpen, h264ReaderParseParameter, H264Reader.size, hdone, hsets]

/-! ## Memory -/

/-- What the reader allocates; the copies of both kinds of parameter sets are one resource. -/
inductive Block where
  | reader
  | buffer
  | data
  | parameterSet
  deriving DecidableEq, Repr

/-- The `malloc` and `free` of a round of `h264_reader_parse_parameter`, that of `h264_reader_read` first. -/
def takeParameterUses (nalu : H264NALU) : List (Use Block) :=
  .acquire .data :: ((if nalu.type = 7 then [.acquire .parameterSet] else []) ++
    if nalu.type = 8 then [.acquire .parameterSet] else []) ++ [.release .data]

/-- The `malloc` and `free` of `h264_reader_open`, when the loop goes through these NALs. -/
def h264ReaderOpenUses (nalus : List H264NALU) : List (Use Block) :=
  [.acquire .reader, .acquire .buffer] ++ nalus.flatMap takeParameterUses

/-- `h264_reader_close`. -/
def h264ReaderClose (sets : ReaderSets) : List (Use Block) :=
  .release .buffer :: ((if sets.sps.isSome then [.release .parameterSet] else []) ++
    ((if sets.pps.isSome then [.release .parameterSet] else []) ++ [.release .reader]))

/-- How many NALs of a type there are. -/
def typeCount (nalus : List H264NALU) (type : UInt8) : Nat := nalus.countP (·.type = type)

theorem typeCount_cons (nalu : H264NALU) (nalus : List H264NALU) (type : UInt8) :
    typeCount (nalu :: nalus) type = typeCount nalus type + if nalu.type = type then 1 else 0 := by
  simp [typeCount, List.countP_cons]

/-- A round keeps the copies it makes. -/
theorem moves_takeParameter (nalu : H264NALU) (m : Multiset Block) :
    Moves (takeParameterUses nalu) m
      ((if nalu.type = 8 then {.parameterSet} else 0) + ((if nalu.type = 7 then {.parameterSet} else 0) + m)) := by
  unfold takeParameterUses
  apply moves_bracket
  have hsps := moves_acquire_if (decide (nalu.type = 7)) Block.parameterSet (.data ::ₘ m)
  have hpps := moves_acquire_if (decide (nalu.type = 8)) Block.parameterSet
    ((if decide (nalu.type = 7) then {Block.parameterSet} else 0) + (.data ::ₘ m))
  simpa only [decide_eq_true_eq, Multiset.add_cons] using hsps.append hpps

/-- All rounds together. -/
theorem moves_takeParameters (nalus : List H264NALU) (m : Multiset Block) :
    Moves (nalus.flatMap takeParameterUses) m
      (Multiset.replicate (typeCount nalus 7 + typeCount nalus 8) .parameterSet + m) := by
  induction nalus generalizing m with
  | nil => simpa [typeCount] using moves_nil m
  | cons nalu nalus ih =>
    have hall := (moves_takeParameter nalu m).append (ih _)
    have hsum : Multiset.replicate (typeCount nalus 7 + typeCount nalus 8) Block.parameterSet +
          ((if nalu.type = 8 then {.parameterSet} else 0) + ((if nalu.type = 7 then {.parameterSet} else 0) + m)) =
        Multiset.replicate (typeCount (nalu :: nalus) 7 + typeCount (nalu :: nalus) 8) .parameterSet + m := by
      ext r
      rw [typeCount_cons, typeCount_cons]
      cases r <;> split_ifs <;> simp [Multiset.count_replicate] <;> omega
    rw [List.flatMap_cons, ← hsum]
    exact hall

/-- There is a parameter set exactly if there is a NAL of its type. -/
theorem isSome_getLast_type (nalus : List H264NALU) (type : UInt8) :
    ((nalus.filter (·.type = type)).getLast?.map (·.data)).isSome = decide (0 < typeCount nalus type) := by
  rw [typeCount, List.countP_eq_length_filter, Option.isSome_map, Bool.eq_iff_iff, decide_eq_true_eq,
    List.getLast?_isSome, List.length_pos_iff]

/-- Closing frees one copy of each kind. -/
theorem moves_close (sets : ReaderSets) (m : Multiset Block) :
    Moves (h264ReaderClose sets) (.buffer ::ₘ ((if sets.sps.isSome then {.parameterSet} else 0) +
      ((if sets.pps.isSome then {.parameterSet} else 0) + (.reader ::ₘ m)))) m := by
  have hpps := (moves_release_if sets.pps.isSome Block.parameterSet _).append (moves_release .reader m)
  exact (moves_release .buffer _).cons ((moves_release_if sets.sps.isSome Block.parameterSet _).append hpps)

/-- **What stays behind** when a file is opened and closed: of each kind of parameter set all copies but one. -/
theorem readerLife_holds {content : Bytes} {nalus : List H264NALU}
    (hdone : readAll (content.length + 1) ⟨content, 0⟩ = .done nalus) :
    ∃ sets, h264ReaderOpen content = some (⟨content, 0⟩, sets) ∧
      Holds (h264ReaderOpenUses nalus ++ h264ReaderClose sets)
        (Multiset.replicate (typeCount nalus 7 - 1 + (typeCount nalus 8 - 1)) .parameterSet) := by
  obtain ⟨hsps, hpps⟩ := foldl_takeParameter nalus ⟨none, none⟩
  rw [Option.or_none] at hsps hpps
  refine ⟨nalus.foldl takeParameter ⟨none, none⟩, ?_, ?_⟩
  · simp [h264ReaderOpen, h264ReaderParseParameter, H264Reader.size, hdone]
  · have hopen : Moves (h264ReaderOpenUses nalus) 0
        (Multiset.replicate (typeCount nalus 7 + typeCount nalus 8) .parameterSet + (.buffer ::ₘ .reader ::ₘ 0)) :=
      ((moves_acquire Block.reader 0).cons (moves_acquire Block.buffer _)).append (moves_takeParameters nalus _)
    have hclose := moves_close (nalus.foldl takeParameter ⟨none, none⟩)
      (Multiset.replicate (typeCount nalus 7 - 1 + (typeCount nalus 8 - 1)) .parameterSet)
    rw [hsps, hpps, isSome_getLast_type, isSome_getLast_type] at hclose
    have hheld : Multiset.replicate (typeCount nalus 7 + typeCount nalus 8) Block.parameterSet +
          (.buffer ::ₘ .reader ::ₘ 0) =
        .buffer ::ₘ ((if decide (0 < typeCount nalus 7) then {.parameterSet} else 0) +
          ((if decide (0 < typeCount nalus 8) then {.parameterSet} else 0) + (.reader ::ₘ
            Multiset.replicate (typeCount nalus 7 - 1 + (typeCount nalus 8 - 1)) .parameterSet))) := by
      ext r
      simp only [decide_eq_true_eq]
      cases r <;> split_ifs <;> simp [Multiset.count_replicate] <;> omega
    rw [hheld] at hopen
    exact (hopen.append hclose) [] holds_nil

/-- A file with two sequence parameter sets and a slice. -/
def twoSets : Bytes := [0x00, 0x00, 0x01, 0x67, 0x42, 0x00, 0x00, 0x01, 0x67, 0x4d, 0x00, 0x00, 0x01, 0x65, 0x88]

def twoSetsNalus : List H264NALU := [⟨[0x67, 0x42], 2, 7⟩, ⟨[0x67, 0x4d], 2, 7⟩, ⟨[0x65, 0x88], 2, 5⟩]

/-- The first one is lost. -/
theorem readerLife_holds_twoSets :
    ∃ sets, h264ReaderOpen twoSets = some (⟨twoSets, 0⟩, sets) ∧
      Holds (h264ReaderOpenUses twoSetsNalus ++ h264ReaderClose sets) (Multiset.replicate 1 .parameterSet) :=
  readerLife_holds (by decide +kernel)

end MiniRtsp.H264
