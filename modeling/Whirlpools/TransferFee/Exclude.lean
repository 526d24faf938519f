/-
  Whirlpools.TransferFee.Exclude
  ──────────────────────────────
  **WHAT ARRIVES: THE FEE-EXCLUDED AMOUNT.**

  Everything here follows from `calculateFee_le_iff`.  The fee reaches the
  uncapped rate or the cap (`calculateFee_attained`), so it lies in
  `[0, min maximumFee A]`.  It grows with the amount, and by no more than the
  amount grows.  What arrives, `A - fee`, is therefore never negative, and it
  is monotone and 1-Lipschitz in what is sent.

  Main result:
    * `calculateTransferFeeExcludedAmount_monotone_lipschitz` — the above,
      for `TokenExtensionUtil.calculateTransferFeeExcludedAmount`, with or
      without a transfer-fee extension.
-/
import Whirlpools.TokenExtensionUtil

namespace Whirlpools

namespace TransferFee

variable {tf : TransferFee}

@[simp] theorem calculateTransferFeeExcludedAmount_amount (A : Int) :
    (tf.calculateTransferFeeExcludedAmount A).amount = A - calculateFee tf A := rfl

@[simp] theorem calculateTransferFeeExcludedAmount_fee (A : Int) :
    (tf.calculateTransferFeeExcludedAmount A).fee = calculateFee tf A := rfl

@[simp] theorem calculateTransferFeeExcludedAmount_isFeeIncludedAmount (A : Int) :
    (tf.calculateTransferFeeExcludedAmount A).isFeeIncludedAmount = false := rfl

/-! ## §1. The fee's bounds. -/

section Bounds

variable {A : Int}

/-- The fee reaches the uncapped rate, or it is the cap. -/
theorem calculateFee_attained (hv : tf.Valid) (hA : 0 ≤ A) :
    A * tf.transferFeeBasisPoints ≤ calculateFee tf A * ONE_IN_BASIS_POINTS ∨
      tf.maximumFee ≤ calculateFee tf A :=
  (calculateFee_le_iff hv hA _).1 le_rfl

theorem calculateFee_nonneg (hv : tf.Valid) (hA : 0 ≤ A) : 0 ≤ calculateFee tf A := by
  rcases calculateFee_attained hv hA with h | h
  · have := Int.mul_nonneg hA hv.bps_nonneg
    simp only [ONE_IN_BASIS_POINTS] at h
    omega
  · exact hv.maximumFee_nonneg.trans h

theorem calculateFee_le_maximumFee (hv : tf.Valid) (hA : 0 ≤ A) :
    calculateFee tf A ≤ tf.maximumFee :=
  (calculateFee_le_iff hv hA _).2 (.inr le_rfl)

theorem calculateFee_le_self (hv : tf.Valid) (hA : 0 ≤ A) : calculateFee tf A ≤ A :=
  (calculateFee_le_iff hv hA _).2 (.inl (Int.mul_le_mul_of_nonneg_left hv.bps_le hA))

end Bounds

/-! ## §2. How the fee grows. -/

section Growth

variable {A A' : Int}

theorem calculateFee_mono (hv : tf.Valid) (hA : 0 ≤ A) (h : A ≤ A') :
    calculateFee tf A ≤ calculateFee tf A' := by
  rw [calculateFee_le_iff hv hA]
  rcases calculateFee_attained hv (hA.trans h) with h' | h'
  · exact .inl ((Int.mul_le_mul_of_nonneg_right h hv.bps_nonneg).trans h')
  · exact .inr h'

/-- A rate of at most 100% charges at most one more unit per unit sent. -/
theorem calculateFee_le_add (hv : tf.Valid) (hA : 0 ≤ A) (h : A ≤ A') :
    calculateFee tf A' ≤ calculateFee tf A + (A' - A) := by
  rw [calculateFee_le_iff hv (hA.trans h)]
  rcases calculateFee_attained hv hA with h' | h'
  · left
    calc A' * tf.transferFeeBasisPoints
        = A * tf.transferFeeBasisPoints + (A' - A) * tf.transferFeeBasisPoints := by ring
      _ ≤ calculateFee tf A * ONE_IN_BASIS_POINTS + (A' - A) * ONE_IN_BASIS_POINTS :=
          add_le_add h' (Int.mul_le_mul_of_nonneg_left hv.bps_le (by omega))
      _ = (calculateFee tf A + (A' - A)) * ONE_IN_BASIS_POINTS := by ring
  · exact .inr (by omega)

end Growth

end TransferFee

/-! ## §3. `TokenExtensionUtil.calculateTransferFeeExcludedAmount`. -/

namespace TokenExtensionUtil

open TransferFee

/-- **What arrives is bounded, monotone and 1-Lipschitz.**  For every mint and
epoch whose schedule Token-2022 accepts, and amounts `0 ≤ A ≤ A'`: the result
splits `A` into `amount + fee` with `0 ≤ fee ≤ min (maximumFee, A)` (so
`amount` is never negative), and
`amount(A) ≤ amount(A') ≤ amount(A) + (A' - A)`. -/
theorem calculateTransferFeeExcludedAmount_monotone_lipschitz
    (tokenInfo : MintWithTokenProgram) (currentEpoch : Int)
    (hfee : ∀ config, getTransferFeeConfig tokenInfo = some config →
      (getEpochFee config currentEpoch).Valid)
    (A A' : Int) (hA : 0 ≤ A) (hAA' : A ≤ A') :
    let excl := fun B => calculateTransferFeeExcludedAmount B tokenInfo currentEpoch
    (excl A).isFeeIncludedAmount = false ∧ (excl A).amount + (excl A).fee = A ∧
      0 ≤ (excl A).fee ∧ (excl A).fee ≤ A ∧ 0 ≤ (excl A).amount ∧
      (∀ config, getTransferFeeConfig tokenInfo = some config →
        (excl A).fee ≤ (getEpochFee config currentEpoch).maximumFee) ∧
      (excl A).amount ≤ (excl A').amount ∧ (excl A').amount ≤ (excl A).amount + (A' - A) := by
  have hv := epochTransferFee_valid hfee
  have h1 := calculateFee_nonneg hv hA
  have h2 := calculateFee_le_self hv hA
  have h3 := calculateFee_mono hv hA hAA'
  have h4 := calculateFee_le_add hv hA hAA'
  simp only [calculateTransferFeeExcludedAmount_eq, calculateTransferFeeExcludedAmount_amount,
    calculateTransferFeeExcludedAmount_fee, calculateTransferFeeExcludedAmount_isFeeIncludedAmount]
  refine ⟨trivial, by omega, h1, h2, by omega, fun config hc => ?_, by omega, by omega⟩
  rw [epochTransferFee_of_some currentEpoch hc]
  exact calculateFee_le_maximumFee (hfee config hc) hA

/-- A mint whose schedule changes at epoch 5 to the spec's 5% with a cap of
1,000,000. -/
def sampleMint : MintWithTokenProgram :=
  ⟨some ⟨⟨0, 0, 0⟩, ⟨5, 1000000, 500⟩⟩⟩

theorem sampleMint_valid (currentEpoch : Int) :
    ∀ config, getTransferFeeConfig sampleMint = some config →
      (getEpochFee config currentEpoch).Valid := by
  rintro _ ⟨⟩
  unfold getEpochFee
  split <;> exact ⟨by decide, by decide, by decide⟩

theorem calculateTransferFeeExcludedAmount_monotone_lipschitz_sample :
    (∀ config, getTransferFeeConfig sampleMint = some config → (getEpochFee config 7).Valid) ∧
    (0 : Int) ≤ 100000 ∧ (100000 : Int) ≤ 200000 ∧
    (let excl := fun B => calculateTransferFeeExcludedAmount B sampleMint 7
    (excl 100000).isFeeIncludedAmount = false ∧
      (excl 100000).amount + (excl 100000).fee = 100000 ∧
      0 ≤ (excl 100000).fee ∧ (excl 100000).fee ≤ 100000 ∧ 0 ≤ (excl 100000).amount ∧
      (∀ config, getTransferFeeConfig sampleMint = some config →
        (excl 100000).fee ≤ (getEpochFee config 7).maximumFee) ∧
      (excl 100000).amount ≤ (excl 200000).amount ∧
      (excl 200000).amount ≤ (excl 100000).amount + (200000 - 100000)) :=
  ⟨sampleMint_valid 7, by decide, by decide,
    calculateTransferFeeExcludedAmount_monotone_lipschitz sampleMint 7 (sampleMint_valid 7)
      100000 200000 (by decide) (by decide)⟩

end TokenExtensionUtil

end Whirlpools
