import MiniRtsp.Lib.Lines

/-!
# Streams of messages

Messages one behind the other, each with header lines, an empty line and a body, whose length is a field of the header
(`readStream`). What was laid out is read back, message by message (`readStream_layout`).
-/

namespace MiniRtsp.Lines

/-- The message as it is written. -/
def Message.layout (m : Message) : List UInt8 := m.head.flatMap (· ++ lineEnd) ++ (lineEnd ++ m.body)

section Stream

variable (name : List UInt8)

/-- The length of the body that belongs to a header; 0 where the field is missing. -/
def bodySize (head : List (List UInt8)) : Nat := ((field name head).bind number).getD 0

/-- The first message and what follows it; `none` where it is not complete. -/
def takeMessage (text : List UInt8) : Option (Message × List UInt8) :=
  (readMessage text).bind fun m =>
    let size := bodySize name m.head
    if size ≤ m.body.length then some (⟨m.head, m.body.take size⟩, m.body.drop size) else none

/-- The messages of a text, as many as there may be. -/
def readMessages : Nat → List UInt8 → Option (List Message)
  | _, [] => some []
  | 0, _ :: _ => none
  | n + 1, b :: text =>
    (takeMessage name (b :: text)).bind fun next => (readMessages n next.2).map (next.1 :: ·)

/-- The messages of a text; `none` where it is anything else. -/
def readStream (text : List UInt8) : Option (List Message) := readMessages name text.length text

/-- A message that a reader of the stream can take apart. -/
structure Message.Framed (m : Message) : Prop where
  nonempty : m.head ≠ []
  lines : ∀ l ∈ m.head, l ≠ [] ∧ 0x0d ∉ l
  size : bodySize name m.head = m.body.length

end Stream

variable {name : List UInt8}

theorem Message.layout_ne_nil (m : Message) : m.layout ≠ [] := by
  unfold Message.layout lineEnd
  simp

/-- **One message** is taken, and what follows it is left. -/
theorem takeMessage_layout {m : Message} (h : m.Framed name) (rest : List UInt8) :
    takeMessage name (m.layout ++ rest) = some (m, rest) := by
  have hread : readMessage (m.layout ++ rest) = some ⟨m.head, m.body ++ rest⟩ := by
    unfold Message.layout
    rw [List.append_assoc, List.append_assoc]
    exact readMessage_layout h.nonempty h.lines (m.body ++ rest)
  have hsize : bodySize name m.head ≤ (m.body ++ rest).length := by
    rw [h.size, List.length_append]
    exact Nat.le_add_right _ _
  unfold takeMessage
  rw [hread, Option.bind_some]
  dsimp only
  rw [if_pos hsize, h.size, List.take_left, List.drop_left]

theorem readMessages_layout {ms : List Message} (h : ∀ m ∈ ms, m.Framed name) {n : Nat} (hn : ms.length ≤ n) :
    readMessages name n (ms.flatMap Message.layout) = some ms := by
  induction ms generalizing n with
  | nil =>
    rw [List.flatMap_nil, readMessages]
  | cons m ms ih =>
    obtain ⟨n, rfl⟩ : ∃ k, n = k + 1 := Nat.exists_eq_add_one_of_ne_zero (by simp at hn; omega)
    have hrest := ih (fun m' hm' => h m' (by simp [hm'])) (Nat.le_of_succ_le_succ hn)
    have htake := takeMessage_layout (h m (by simp)) (ms.flatMap Message.layout)
    rw [List.flatMap_cons]
    obtain ⟨b, text, htext⟩ := List.exists_cons_of_ne_nil (List.append_ne_nil_of_left_ne_nil m.layout_ne_nil
      (ms.flatMap Message.layout))
    rw [htext] at htake ⊢
    rw [readMessages, htake, Option.bind_some, hrest, Option.map_some]

/-- **A stream of messages** is read back. -/
theorem readStream_layout {ms : List Message} (h : ∀ m ∈ ms, m.Framed name) :
    readStream name (ms.flatMap Message.layout) = some ms := by
  apply readMessages_layout h
  induction ms with
  | nil => exact Nat.zero_le _
  | cons m ms ih =>
    have hne := List.length_pos_iff.mpr m.layout_ne_nil
    have hrest := ih fun m' hm' => h m' (by simp [hm'])
    rw [List.flatMap_cons, List.length_append, List.length_cons]
    omega

end MiniRtsp.Lines
