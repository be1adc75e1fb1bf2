import MiniRtsp.Detector.LivePersonDetector
import Mathlib.Data.Nat.ModEq

/-!
# Frame ids and slots

The frame ids go round from 1 to 2^32 - 1 (`frameIdAt`). A slot is in use under a frame id (`InUse`); what is done to
one slot leaves the others alone.
-/

namespace MiniRtsp.Detector

/-! ## Frame ids -/

/-- The frame id of submission `k`. -/
def frameIdAt (k : Nat) : UInt32 := .ofNat (1 + k % 4294967295)

theorem frameIdAt_toNat (k : Nat) : (frameIdAt k).toNat = 1 + k % 4294967295 := by
  unfold frameIdAt
  rw [UInt32.toNat_ofNat_of_lt']
  have := Nat.mod_lt k (show 0 < 4294967295 by decide)
  show 1 + k % 4294967295 < 4294967296
  omega

/-- **The counter** skips zero. -/
theorem frameIdAt_succ (k : Nat) : frameIdAt (k + 1) = followingFrameId (frameIdAt k) := by
  have hnext : (frameIdAt k + 1).toNat = (1 + k % 4294967295 + 1) % 4294967296 := by
    rw [UInt32.toNat_add, frameIdAt_toNat]
    rfl
  apply UInt32.toNat_inj.mp
  rw [frameIdAt_toNat]
  unfold followingFrameId
  split
  · rename_i hzero
    rw [hzero] at hnext
    have hwrap : (1 + k % 4294967295 + 1) % 4294967296 = 0 := hnext.symm
    show 1 + (k + 1) % 4294967295 = 1
    omega
  · rename_i hnonzero
    have hinside : (frameIdAt k + 1).toNat ≠ 0 := fun h => hnonzero (UInt32.toNat_inj.mp h)
    rw [hnext] at hinside ⊢
    omega

theorem frameIdAt_ne_zero (k : Nat) : frameIdAt k ≠ 0 := by
  intro h
  have hzero := frameIdAt_toNat k
  rw [h] at hzero
  have : (0 : UInt32).toNat = 0 := rfl
  omega

/-- A frame id comes back after a whole round. -/
theorem frameIdAt_round (a b : Nat) (h : frameIdAt a = frameIdAt b) : a ≡ b [MOD 4294967295] := by
  have hmod := congrArg UInt32.toNat h
  rw [frameIdAt_toNat, frameIdAt_toNat] at hmod
  show a % 4294967295 = b % 4294967295
  omega

/-! ## Slots in use -/

/-- Slot `i` is in use under the frame id. -/
def LivePersonDetector.InUse (detector : LivePersonDetector) (i : Nat) (frameId : UInt32) : Prop :=
  ∃ slot, detector.slots[i]? = some slot ∧ slot.inUse = true ∧ slot.frameId = frameId

/-- `slots` that are in use. -/
def LivePersonDetector.inUseCount (detector : LivePersonDetector) : Nat := detector.slots.countP (·.inUse)

/-- The frame id that RockIVA reads from `slot->image`. -/
def LivePersonDetector.imageFrameId (detector : LivePersonDetector) (i : Nat) : UInt32 :=
  (detector.slots[i]?.map (·.image.frameId)).getD 0

/-! ## Changes of the slots -/

section Slots

variable {detector detector' : LivePersonDetector} {i j : Nat} {x y : UInt32} {f : DetectorSlot → DetectorSlot}

theorem inUse_unique (hx : detector.InUse i x) (hy : detector.InUse i y) : x = y := by
  obtain ⟨slot, hslot, -, rfl⟩ := hx
  obtain ⟨slot', hslot', -, rfl⟩ := hy
  rw [hslot] at hslot'
  rw [Option.some.inj hslot']

theorem inUse_modify (h : detector'.slots = detector.slots.modify i f) :
    detector'.InUse j x ↔
      if i = j then ∃ slot, detector.slots[i]? = some slot ∧ (f slot).inUse = true ∧ (f slot).frameId = x
      else detector.InUse j x := by
  unfold LivePersonDetector.InUse
  rw [h, List.getElem?_modify]
  split
  · rename_i hij
    subst hij
    simp
  · simp

/-- A slot that is freed. -/
theorem inUse_freed (h : detector'.slots = detector.slots.modify i f) (hf : ∀ slot, (f slot).inUse = false) :
    detector'.InUse j x ↔ detector.InUse j x ∧ i ≠ j := by
  rw [inUse_modify h]
  split
  · rename_i hij
    simp [hf, hij]
  · rename_i hij
    simp [hij]

/-- A slot whose use stays as it is. -/
theorem inUse_kept (h : detector'.slots = detector.slots.modify i f)
    (hf : ∀ slot, (f slot).inUse = slot.inUse ∧ (f slot).frameId = slot.frameId) :
    detector'.InUse j x ↔ detector.InUse j x := by
  rw [inUse_modify h]
  split
  · rename_i hij
    subst hij
    simp [hf, LivePersonDetector.InUse]
  · rfl

theorem imageFrameId_modify (h : detector'.slots = detector.slots.modify i f)
    (hf : ∀ slot, (f slot).image.frameId = slot.image.frameId) :
    detector'.imageFrameId j = detector.imageFrameId j := by
  unfold LivePersonDetector.imageFrameId
  rw [h, List.getElem?_modify]
  cases detector.slots[j]? with
  | none => rfl
  | some slot =>
    by_cases hij : i = j
    · simp [hij, hf]
    · simp [hij]

theorem countP_modify {α : Type*} {p : α → Bool} {g : α → α} :
    ∀ {l : List α} {i : Nat} {a : α}, l[i]? = some a →
      (l.modify i g).countP p + (if p a then 1 else 0) = l.countP p + (if p (g a) then 1 else 0)
  | [], i, a, h => by simp at h
  | b :: l, 0, a, h => by
    obtain rfl : b = a := by simpa using h
    simp only [List.modify_zero_cons, List.countP_cons]
    omega
  | b :: l, i + 1, a, h => by
    have ih := @countP_modify α p g l i a (by simpa using h)
    simp only [List.modify_succ_cons, List.countP_cons]
    omega

theorem findFree_some (h : findFreeSlot detector.slots = some i) :
    ∃ slot, detector.slots[i]? = some slot ∧ slot.inUse = false := by
  obtain ⟨hlt, hfree, -⟩ := List.findIdx?_eq_some_iff_getElem.mp h
  exact ⟨_, List.getElem?_eq_getElem hlt, by simpa using hfree⟩

theorem findFree_none (h : findFreeSlot detector.slots = none) {i : Nat} (hi : i < detector.slots.length) :
    ∃ x, detector.InUse i x := by
  have hall := List.findIdx?_eq_none_iff.mp h _ (List.getElem_mem hi)
  exact ⟨_, _, List.getElem?_eq_getElem hi, by simpa using hall, rfl⟩

theorem findSlot_some (h : findSlotByFrameId detector.slots x = some i) : detector.InUse i x := by
  obtain ⟨hlt, hfound, -⟩ := List.findIdx?_eq_some_iff_getElem.mp h
  rw [Bool.and_eq_true, beq_iff_eq] at hfound
  exact ⟨_, List.getElem?_eq_getElem hlt, hfound⟩

theorem findSlot_isSome (h : detector.InUse i x) : ∃ j, findSlotByFrameId detector.slots x = some j := by
  obtain ⟨slot, hslot, huse, hx⟩ := h
  cases hfind : findSlotByFrameId detector.slots x with
  | some j => exact ⟨j, rfl⟩
  | none =>
    have hnone := List.findIdx?_eq_none_iff.mp hfind slot (List.mem_of_getElem? hslot)
    simp [huse, hx] at hnone

theorem inUseCount_kept (h : detector'.slots = detector.slots.modify i f)
    (hf : ∀ slot, (f slot).inUse = slot.inUse) : detector'.inUseCount = detector.inUseCount := by
  unfold LivePersonDetector.inUseCount
  rw [h]
  cases hslot : detector.slots[i]? with
  | none => rw [List.modify_eq_self (List.getElem?_eq_none_iff.mp hslot)]
  | some slot => simpa [hf] using @countP_modify _ (·.inUse) f _ _ _ hslot

/-- A slot that was not in use. -/
theorem inUseCount_reserved {slot : DetectorSlot} (h : detector'.slots = detector.slots.modify i f)
    (hf : ∀ slot, (f slot).inUse = true) (hslot : detector.slots[i]? = some slot) (hfree : slot.inUse = false) :
    detector'.inUseCount = detector.inUseCount + 1 := by
  unfold LivePersonDetector.inUseCount
  rw [h]
  simpa [hf, hfree] using @countP_modify _ (·.inUse) f _ _ _ hslot

/-- The slot that is freed was in use. -/
theorem inUseCount_freed (h : detector'.slots = detector.slots.modify i f) (hf : ∀ slot, (f slot).inUse = false)
    (hi : detector.InUse i x) : detector'.inUseCount + 1 = detector.inUseCount := by
  obtain ⟨slot, hslot, huse, -⟩ := hi
  unfold LivePersonDetector.inUseCount
  rw [h]
  simpa [hf, huse] using @countP_modify _ (·.inUse) f _ _ _ hslot

end Slots

end MiniRtsp.Detector
