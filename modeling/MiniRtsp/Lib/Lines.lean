import MiniRtsp.Lib.Occurrence
import MiniRtsp.Lib.Text

/-!
# Texts of lines and fields

A text of lines ended by CRLF (`lines`), what stands behind the name of a field (`field`), numbers in decimal and bytes in
hexadecimal digits, and a message of header lines, an empty line and a body (`readMessage`). Each reader gives back what
was laid out: `lines_flatMap`, `number_decimal`, `readMessage_layout`.
-/

namespace MiniRtsp.Lines

open Occurrence Text

def lineEnd : List UInt8 := [0x0d, 0x0a]

/-- The lines of a text; what no CRLF ends is none. -/
def lines (text : List UInt8) : List (List UInt8) := (pieces lineEnd text).dropLast

theorem lines_append {line : List UInt8} (h : 0x0d ∉ line) (rest : List UInt8) :
    lines (line ++ (lineEnd ++ rest)) = line :: lines rest := by
  unfold lines lineEnd
  rw [pieces_append h, List.dropLast_cons_of_ne_nil (pieces_ne_nil rest)]

/-- **The lines** of a text of lines. -/
theorem lines_flatMap {ls : List (List UInt8)} (h : ∀ l ∈ ls, 0x0d ∉ l) : lines (ls.flatMap (· ++ lineEnd)) = ls := by
  induction ls with
  | nil => rfl
  | cons l ls ih =>
    rw [List.flatMap_cons, List.append_assoc, lines_append (h l (by simp)), ih fun x hx => h x (by simp [hx])]

/-! ## Fields -/

/-- What stands behind the name, in the first entry that begins with it. -/
def field (name : List UInt8) (entries : List (List UInt8)) : Option (List UInt8) :=
  (entries.find? (name.isPrefixOf ·)).map (·.drop name.length)

theorem field_here (name value : List UInt8) (entries : List (List UInt8)) :
    field name ((name ++ value) :: entries) = some value := by
  have hprefix : name.isPrefixOf (name ++ value) = true := List.isPrefixOf_iff_prefix.mpr (List.prefix_append _ _)
  unfold field
  rw [List.find?_cons_of_pos hprefix, Option.map_some, List.drop_left]

theorem field_append_some {name value : List UInt8} {front : List (List UInt8)} (h : field name front = some value)
    (entries : List (List UInt8)) : field name (front ++ entries) = some value := by
  unfold field at h ⊢
  obtain ⟨entry, hfind, hvalue⟩ := Option.map_eq_some_iff.mp h
  rw [List.find?_append, hfind, Option.some_or, Option.map_some, hvalue]

theorem field_append_none {name : List UInt8} {front : List (List UInt8)} (h : field name front = none)
    (entries : List (List UInt8)) : field name (front ++ entries) = field name entries := by
  unfold field at h ⊢
  rw [List.find?_append, Option.map_eq_none_iff.mp h, Option.none_or]

/-! ## Numbers -/

/-- The number of decimal digits. -/
def number (digits : List UInt8) : Option Nat :=
  if digits ≠ [] ∧ digits.all isDigit then some (digits.foldl (fun n b => n * 10 + digitVal b) 0) else none

theorem isDigit_digitChar {d : Nat} (h : d < 10) :
    isDigit (UInt8.ofNat (Nat.digitChar d).toNat) = true ∧ digitVal (UInt8.ofNat (Nat.digitChar d).toNat) = d := by
  have hall : ∀ d < 10, isDigit (UInt8.ofNat (Nat.digitChar d).toNat) = true ∧
      digitVal (UInt8.ofNat (Nat.digitChar d).toNat) = d := by decide
  exact hall d h

/-- The digits of a number. -/
theorem decimal_digits (n : Nat) : decimal n ≠ [] ∧ (decimal n).all isDigit = true ∧
    (decimal n).foldl (fun n b => n * 10 + digitVal b) 0 = n := by
  unfold decimal
  induction n using Nat.strong_induction_on with
  | _ n ih =>
    by_cases hn : n < 10
    · obtain ⟨hdigit, hval⟩ := isDigit_digitChar hn
      rw [Nat.toDigits_of_lt_base hn]
      simp [hdigit, hval]
    · obtain ⟨hdigit, hval⟩ := isDigit_digitChar (Nat.mod_lt n (by decide : 0 < 10))
      obtain ⟨-, hall, hfold⟩ := ih (n / 10) (by omega)
      rw [Nat.toDigits_of_base_le (by decide) (by omega), List.map_append, List.all_append, List.foldl_append, hall,
        hfold]
      refine ⟨by simp, by simp [hdigit], ?_⟩
      simp only [List.map_cons, List.map_nil, List.foldl_cons, List.foldl_nil, hval]
      omega

/-- **What is printed** is read back. -/
theorem number_decimal (n : Nat) : number (decimal n) = some n := by
  obtain ⟨hne, hall, hvalue⟩ := decimal_digits n
  unfold number
  rw [if_pos ⟨hne, hall⟩, hvalue]

/-- A number has at most as many digits as the power of ten that bounds it. -/
theorem length_decimal {n k : Nat} (hk : 0 < k) (h : n < Nat.pow 10 k) : (decimal n).length ≤ k := by
  unfold decimal
  rw [List.length_map]
  exact (Nat.length_toDigits_le_iff (by decide) hk).mpr h

/-- No digit ends a line. -/
theorem decimalInt_notMem (n : Int) : 0x0d ∉ decimalInt n := by
  have hdecimal : ∀ n, 0x0d ∉ decimal n := by
    intro n hmem
    have hdigit := List.all_eq_true.mp (decimal_digits n).2.1 _ hmem
    exact absurd hdigit (by decide)
  cases n with
  | ofNat n => exact hdecimal n
  | negSucc n =>
    unfold decimalInt
    rw [List.mem_append, not_or]
    exact ⟨by decide, hdecimal _⟩

/-- The value of a hexadecimal digit. -/
def hexValue (b : UInt8) : Option Nat :=
  if 0x30 ≤ b ∧ b ≤ 0x39 then some (b.toNat - 0x30)
  else if 0x41 ≤ b ∧ b ≤ 0x46 then some (b.toNat - 0x41 + 10)
  else if 0x61 ≤ b ∧ b ≤ 0x66 then some (b.toNat - 0x61 + 10)
  else none

/-- The bytes of pairs of hexadecimal digits. -/
def hexBytes : List UInt8 → Option (List UInt8)
  | [] => some []
  | a :: b :: rest => do
    let high ← hexValue a
    let low ← hexValue b
    let bytes ← hexBytes rest
    some (.ofNat (high * 16 + low) :: bytes)
  | [_] => none

/-! ## Messages -/

/-- Header lines and a body. -/
structure Message where
  head : List (List UInt8)
  body : List UInt8
  deriving DecidableEq

/-- The message up to the first empty line, and what follows it. -/
def readMessage (text : List UInt8) : Option Message :=
  (seek (lineEnd ++ lineEnd) text).map fun s =>
    ⟨lines (text.take (text.length - s.length) ++ lineEnd), s.drop (lineEnd ++ lineEnd).length⟩

/-- The first empty line is behind the header lines. -/
theorem firstSplit_head {head : List (List UInt8)} (hne : head ≠ []) (h : ∀ l ∈ head, l ≠ [] ∧ 0x0d ∉ l)
    (body : List UInt8) : ∃ a, a ++ lineEnd = head.flatMap (· ++ lineEnd) ∧
      FirstSplit (lineEnd ++ lineEnd) (head.flatMap (· ++ lineEnd) ++ (lineEnd ++ body)) a body := by
  induction head with
  | nil => exact absurd rfl hne
  | cons line head ih =>
    obtain ⟨hline, hcr⟩ := h line (by simp)
    cases head with
    | nil =>
      refine ⟨line, by simp, ?_⟩
      have hsplit := (firstSplit_self (lineEnd ++ lineEnd) body).append_left hcr
      simpa [lineEnd] using hsplit
    | cons next head =>
      obtain ⟨a, ha, hsplit⟩ := ih (by simp) fun l hl => h l (by simp [hl])
      obtain ⟨hnext, hncr⟩ := h next (by simp)
      obtain ⟨c, cs, rfl⟩ := List.exists_cons_of_ne_nil hnext
      rw [List.mem_cons, not_or] at hncr
      refine ⟨line ++ (lineEnd ++ a), ?_, ?_⟩
      · rw [List.flatMap_cons, ← ha]
        simp
      · -- the CRLF of the line is followed by the next line, which is not empty
        have hstarts : ((c :: cs) :: head).flatMap (· ++ lineEnd) ++ (lineEnd ++ body) =
            c :: (cs ++ (lineEnd ++ (head.flatMap (· ++ lineEnd) ++ (lineEnd ++ body)))) := by
          simp
        rw [List.flatMap_cons, List.append_assoc, List.append_assoc]
        apply FirstSplit.append_left _ hcr
        apply FirstSplit.cons
        · rw [hstarts]
          simp [lineEnd, List.cons_prefix_cons, hncr.1]
        · apply hsplit.cons
          simp [lineEnd, List.cons_prefix_cons]

/-- **A message that was laid out** is read back. -/
theorem readMessage_layout {head : List (List UInt8)} (hne : head ≠ []) (h : ∀ l ∈ head, l ≠ [] ∧ 0x0d ∉ l)
    (body : List UInt8) :
    readMessage (head.flatMap (· ++ lineEnd) ++ (lineEnd ++ body)) = some ⟨head, body⟩ := by
  obtain ⟨a, ha, hsplit⟩ := firstSplit_head hne h body
  unfold readMessage
  rw [hsplit.seek_eq, Option.map_some, List.drop_left]
  have htake : (head.flatMap (· ++ lineEnd) ++ (lineEnd ++ body)).take
      ((head.flatMap (· ++ lineEnd) ++ (lineEnd ++ body)).length - (lineEnd ++ lineEnd ++ body).length) = a := by
    rw [hsplit.eq, List.length_append, Nat.add_sub_cancel, List.take_left]
  rw [htake, ha, lines_flatMap fun l hl => (h l hl).2]

end MiniRtsp.Lines
