import MiniRtsp.Encoder.EncodeFrame

/-!
# The size of the input buffer

`mpp_encoder_init_ex` stores the size of the visible picture and requests a buffer for the picture padded to multiples
of 64 in both directions. Both products are taken modulo the size of a `size_t`. `SizesFit` is the exact condition on
the dimensions under which the stored size is that of the picture and the buffer is large enough for it
(`mppEncoderInitEx_buffer`).
-/

namespace MiniRtsp.Encoder

/-- A dimension padded to a multiple of 64. -/
def padded (n : Nat) : Nat := (n + 63) / 64 * 64

/-- The visible bytes are below the range of `size_t`, and what the padded product loses by wrapping is no more than
what the padding adds. -/
def SizesFit (width height : Nat) : Prop :=
  width * height * 3 < 4294967296 ∧
    width * height * 3 / 2 + 2147483648 * (padded width * padded height * 3 / 4294967296) ≤
      padded width * padded height * 3 / 2

instance (width height : Nat) : Decidable (SizesFit width height) := inferInstanceAs (Decidable (_ ∧ _))

/-- The sizes of the `memset` and of the `memcpy` with which `mpp_encoder_encode` fills `frm_buf`. -/
def frameWrites (encoder : MppEncoder) : List UInt32 :=
  [allocatedNv12Size encoder.width encoder.height, encoder.frameSize]

/-! ## The products -/

/-- Clearing the low six bits rounds down to a multiple of 64. -/
theorem and_not_63 {y : Nat} (h : y < UInt32.size) : y &&& 4294967232 = y / 64 * 64 := by
  have hmask : (4294967232 : Nat) = (2 ^ 26 - 1) <<< 6 := rfl
  have hdiv : y / 64 * 64 = (y >>> 6) <<< 6 := by rw [Nat.shiftLeft_eq, Nat.shiftRight_eq_div_pow]
  rw [hdiv, hmask]
  refine Nat.eq_of_testBit_eq fun i => ?_
  rw [Nat.testBit_and, Nat.testBit_shiftLeft, Nat.testBit_shiftLeft, Nat.testBit_shiftRight,
    Nat.testBit_two_pow_sub_one]
  rcases Nat.lt_or_ge i 32 with hlt | hge
  · by_cases hi : 6 ≤ i
    · simp [hi, show i - 6 < 26 by omega]
    · simp [hi]
  · have hbit : y.testBit i = false :=
      Nat.testBit_lt_two_pow (h.trans_le (Nat.pow_le_pow_right (n := 2) (by omega) hge))
    simp [show 6 ≤ i by omega, hbit]

/-- `align_up_size` does what it says where nothing wraps. -/
theorem toNat_alignUpSize {x : UInt32} (h : x.toNat ≤ 2147483647) : (alignUpSize x 64).toNat = padded x.toNat := by
  have hsum : (x + 64 - 1).toNat = x.toNat + 63 := by
    rw [UInt32.toNat_sub, UInt32.toNat_add]
    simp
    omega
  unfold alignUpSize
  rw [UInt32.toNat_and, hsum, show (~~~(64 - 1 : UInt32)).toNat = 4294967232 from rfl]
  exact and_not_63 (by rw [show UInt32.size = 4294967296 from rfl]; omega)

/-- A product of machine words that is wrapped at every step is wrapped once. -/
theorem toNat_nv12 (a b : UInt32) : (a * b * 3 / 2).toNat = a.toNat * b.toNat * 3 % 4294967296 / 2 := by
  rw [UInt32.toNat_div, UInt32.toNat_mul, UInt32.toNat_mul]
  simp

/-- A positive `int` as `size_t`. -/
theorem toNat_ofInt {x : Int} (hpos : 0 ≤ x) (h : x ≤ 2147483647) : (UInt32.ofInt x).toNat = x.toNat := by
  have hmod : x % 2 ^ 32 = x := Int.emod_eq_of_lt hpos (by omega)
  unfold UInt32.ofInt
  rw [hmod, UInt32.toNat_ofNat']
  omega

theorem toNat_visibleNv12Size {width height : Int} (hw : 0 < width) (hw' : width ≤ 2147483647) (hh : 0 < height)
    (hh' : height ≤ 2147483647) :
    (visibleNv12Size width height).toNat = width.toNat * height.toNat * 3 % 4294967296 / 2 := by
  rw [visibleNv12Size, toNat_nv12, toNat_ofInt (by omega) hw', toNat_ofInt (by omega) hh']

theorem toNat_allocatedNv12Size {width height : Int} (hw : 0 < width) (hw' : width ≤ 2147483647) (hh : 0 < height)
    (hh' : height ≤ 2147483647) :
    (allocatedNv12Size width height).toNat = padded width.toNat * padded height.toNat * 3 % 4294967296 / 2 := by
  have hwn := toNat_ofInt (by omega) hw'
  have hhn := toNat_ofInt (by omega) hh'
  rw [allocatedNv12Size, toNat_nv12, toNat_alignUpSize (by omega), toNat_alignUpSize (by omega), hwn, hhn]

/-! ## The buffer -/

/-- What a successful initialisation has checked and stored. -/
theorem mppEncoderInitEx_stored {answers : InitAnswers} {encoder e : MppEncoder} {width height fps gop bitRate : Int}
    {uses : List (Ledger.Use Resource)}
    (hinit : mppEncoderInitEx answers encoder width height fps gop bitRate = (e, uses, true)) :
    (0 < width ∧ 0 < height) ∧ e.width = width ∧ e.height = height ∧ e.frameSize = visibleNv12Size width height := by
  unfold mppEncoderInitEx at hinit
  split at hinit
  · cases hinit
  · next hparams =>
    dsimp only at hinit
    split at hinit
    · cases hinit
    · split at hinit
      · next hok =>
        obtain ⟨rfl, -⟩ := Prod.mk.inj hinit
        refine ⟨by omega, ?_⟩
        unfold takeHandles at hok ⊢
        dsimp only at hok ⊢
        repeat' split
        all_goals exact ⟨rfl, rfl, rfl⟩
      · cases hinit

/-- **The input buffer is large enough** exactly when the sizes fit. -/
theorem mppEncoderInitEx_buffer {answers : InitAnswers} {encoder e : MppEncoder} {width height fps gop bitRate : Int}
    {uses : List (Ledger.Use Resource)} (hw : width ≤ 2147483647) (hh : height ≤ 2147483647)
    (hinit : mppEncoderInitEx answers encoder width height fps gop bitRate = (e, uses, true)) :
    (e.frameSize ≤ allocatedNv12Size width height ∧ (e.frameSize.toNat : Int) = width * height * 3 / 2 ∧
        ∀ n ∈ frameWrites e, n ≤ allocatedNv12Size width height) ↔
      SizesFit width.toNat height.toNat := by
  obtain ⟨⟨hw0, hh0⟩, hwidth, hheight, hsize⟩ := mppEncoderInitEx_stored hinit
  have hvisible := toNat_visibleNv12Size hw0 hw hh0 hh
  have halloc := toNat_allocatedNv12Size hw0 hw hh0 hh
  have hwrites : (∀ n ∈ frameWrites e, n ≤ allocatedNv12Size width height) ↔
      e.frameSize ≤ allocatedNv12Size width height := by
    simp [frameWrites, hwidth, hheight]
  have hexact : width * height * 3 / 2 = ((width.toNat * height.toNat * 3 / 2 : Nat) : Int) := by
    push_cast
    rw [Int.toNat_of_nonneg (by omega), Int.toNat_of_nonneg (by omega)]
  rw [hwrites, hsize, hexact, Int.natCast_inj, UInt32.le_iff_toNat_le, hvisible, halloc]
  unfold SizesFit
  generalize width.toNat * height.toNat * 3 = visible
  generalize padded width.toNat * padded height.toNat * 3 = allocated
  omega

/-- Two by two pixels need six bytes, and the buffer has 6144. -/
theorem mppEncoderInitEx_buffer_small :
    smallEncoder.frameSize ≤ allocatedNv12Size 2 2 ∧ (smallEncoder.frameSize.toNat : Int) = 2 * 2 * 3 / 2 ∧
      ∀ n ∈ frameWrites smallEncoder, n ≤ allocatedNv12Size 2 2 :=
  (@mppEncoderInitEx_buffer ⟨(true, true), (true, true), true, true, true, true, true, true, true, true⟩ .zero _ 2 2 30
    30 4000000 _ (by decide) (by decide) rfl).mpr (by decide)

/-- One column of 67108928 pixels has a hundred megabytes, and the buffer again 6144. -/
theorem mppEncoderInitEx_overrun :
    ∃ e uses, mppEncoderInitEx ⟨(true, true), (true, true), true, true, true, true, true, true, true, true⟩ .zero 1
        67108928 30 30 4000000 = (e, uses, true) ∧
      e.frameSize = 100663392 ∧ allocatedNv12Size 1 67108928 = 6144 ∧
      ¬ ∀ n ∈ frameWrites e, n ≤ allocatedNv12Size 1 67108928 :=
  ⟨_, _, rfl, rfl, rfl, fun h => absurd (h 100663392 (by decide)) (by decide)⟩

end MiniRtsp.Encoder
