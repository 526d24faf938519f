/-
  Whirlpools.TransferFee.Include
  ──────────────────────────────
  **WHAT TO SEND: THE FEE-INCLUDED AMOUNT.**

  `calculateTransferFeeIncludedAmount x` inverts the fee-excluded amount.  What
  arrives from `A` reaches `x` exactly when `A` reaches one threshold
  (`le_excludedAmount_iff`), and the function returns that threshold, or
  throws when the threshold passes `U64_MAX`
  (`calculateTransferFeeIncludedAmount_threshold`).  What arrives is
  1-Lipschitz, so at the threshold it is `x` exactly
  (`excludedAmount_threshold_exact`).

  Main result:
    * `calculateTransferFeeIncludedAmount_least` — for every mint and epoch,
      the fee-included amount is the least amount that delivers `x`, the
      include-then-exclude round trip is exact, and including what arrives
      from `A` never asks for more than `A`.
    * `calculateTransferFeeIncludedAmount_mono` — delivering more never asks
      for less or charges a smaller fee, and the fee stays under the cap.
-/
import Whirlpools.TransferFee.Exclude
import Mathlib.Order.Bounds.Basic

namespace Whirlpools

namespace TransferFee

variable {tf : TransferFee}

/-- What arrives from `A` reaches `x` iff the uncapped fee leaves `x`, or the
cap does. -/
theorem le_excludedAmount_iff (hv : tf.Valid) {A : Int} (hA : 0 ≤ A) (x : Int) :
    x ≤ (tf.calculateTransferFeeExcludedAmount A).amount ↔
      A * tf.transferFeeBasisPoints ≤ (A - x) * ONE_IN_BASIS_POINTS ∨
        x + tf.maximumFee ≤ A := by
  rw [calculateTransferFeeExcludedAmount_amount,
    show x ≤ A - calculateFee tf A ↔ calculateFee tf A ≤ A - x by omega,
    calculateFee_le_iff hv hA]
  omega

/-- The fee-included amount is the threshold at which what arrives reaches
`x`, unless the threshold passes `U64_MAX`. -/
theorem calculateTransferFeeIncludedAmount_threshold (hv : tf.Valid) {x : Int} (hx : 0 ≤ x)
    (hxM : x ≤ U64_MAX) :
    ∃ Astar, 0 ≤ Astar ∧
      (∀ A, 0 ≤ A → (x ≤ (tf.calculateTransferFeeExcludedAmount A).amount ↔ Astar ≤ A)) ∧
      tf.calculateTransferFeeIncludedAmount x =
        if Astar > U64_MAX then .error (.error "The total amount and fees overflow")
        else .ok ⟨true, Astar, Astar - x⟩ := by
  have hM := hv.maximumFee_nonneg
  have hbD := hv.bps_le
  unfold calculateTransferFeeIncludedAmount
  by_cases hb0 : tf.transferFeeBasisPoints = 0
  · -- nothing is charged: `x` itself
    refine ⟨x, hx, fun A hA => ?_, by simp [hb0, not_lt.2 hxM]⟩
    rw [le_excludedAmount_iff hv hA, hb0, ONE_IN_BASIS_POINTS]
    omega
  by_cases hx0 : x = 0
  · -- nothing to deliver: `0`
    subst hx0
    refine ⟨0, le_rfl, fun A hA => ?_, by simp [hb0, U64_MAX]⟩
    have := calculateFee_le_self hv hA
    simp only [calculateTransferFeeExcludedAmount_amount]
    omega
  by_cases hb1 : tf.transferFeeBasisPoints = ONE_IN_BASIS_POINTS
  · -- a 100% rate: only the cap bounds the fee
    refine ⟨x + tf.maximumFee, by omega, fun A hA => ?_, by simp [hb1, hx0, ONE_IN_BASIS_POINTS]⟩
    rw [le_excludedAmount_iff hv hA, hb1, ONE_IN_BASIS_POINTS]
    omega
  -- the general case: the uncapped inverse, or `x` plus the cap
  have hd : 0 < ONE_IN_BASIS_POINTS - tf.transferFeeBasisPoints := by omega
  have hn : 0 ≤ x * ONE_IN_BASIS_POINTS := Int.mul_nonneg hx (by decide)
  have hraw := fun q => ceilDivBN_le_iff q hn hd
  simp only [hb0, hx0, hb1, if_false]
  generalize ceilDivBN (x * ONE_IN_BASIS_POINTS)
    (ONE_IN_BASIS_POINTS - tf.transferFeeBasisPoints) = raw at hraw ⊢
  have hraw0 : 0 ≤ raw := by
    by_contra hneg
    have := (hraw (-1)).1 (by omega)
    omega
  refine ⟨min raw (x + tf.maximumFee), le_min hraw0 (by omega), fun A hA => ?_, ?_⟩
  · rw [le_excludedAmount_iff hv hA, min_le_iff, hraw, sub_mul, mul_sub]
    omega
  · by_cases hcap : raw - x ≥ tf.maximumFee
    · rw [if_pos hcap, min_eq_right (by omega), add_sub_cancel_left]
    · rw [if_neg hcap, min_eq_left (by omega)]

/-- At the threshold, what arrives is exactly `x`. -/
theorem excludedAmount_threshold_exact (hv : tf.Valid) {x Astar : Int} (hx : 0 ≤ x)
    (h0 : 0 ≤ Astar)
    (hth : ∀ A, 0 ≤ A → (x ≤ (tf.calculateTransferFeeExcludedAmount A).amount ↔ Astar ≤ A)) :
    tf.calculateTransferFeeExcludedAmount Astar = ⟨false, x, Astar - x⟩ := by
  have hge := (hth Astar h0).2 le_rfl
  have hle : (tf.calculateTransferFeeExcludedAmount Astar).amount ≤ x := by
    rcases h0.eq_or_lt with rfl | hpos
    · have := calculateFee_nonneg hv h0
      simp only [calculateTransferFeeExcludedAmount_amount]
      omega
    · -- one unit less falls short, and one unit adds at most one
      have hlt := mt (hth (Astar - 1) (by omega)).1 (by omega)
      have := calculateFee_mono hv (by omega : 0 ≤ Astar - 1) (by omega : Astar - 1 ≤ Astar)
      simp only [calculateTransferFeeExcludedAmount_amount] at hlt ⊢
      omega
  simp only [calculateTransferFeeExcludedAmount_amount] at hge hle
  simp only [calculateTransferFeeExcludedAmount, TokenAmountWithFee.mk.injEq, true_and]
  omega

end TransferFee

namespace TokenExtensionUtil

open TransferFee

/-- **The fee-included amount is the least amount that delivers `x`.**  For
every mint and epoch whose schedule Token-2022 accepts and every
`0 ≤ x ≤ U64_MAX`, let `A*` be the least `A ≥ 0` whose fee-excluded amount
reaches `x`.  `calculateTransferFeeIncludedAmount x` throws
"The total amount and fees overflow" iff `A* > U64_MAX`; otherwise it returns
`A*` with fee `A* - x`, and excluding the fee from `A*` returns exactly `x`
with the same fee.  Including what arrives from any `A ≤ U64_MAX` asks for at
most `A`. -/
theorem calculateTransferFeeIncludedAmount_least
    (tokenInfo : MintWithTokenProgram) (currentEpoch : Int)
    (hfee : ∀ config, getTransferFeeConfig tokenInfo = some config →
      (getEpochFee config currentEpoch).Valid)
    (x : Int) (hx : 0 ≤ x) (hxM : x ≤ U64_MAX) :
    let excl := fun A => calculateTransferFeeExcludedAmount A tokenInfo currentEpoch
    let incl := fun y => calculateTransferFeeIncludedAmount y tokenInfo currentEpoch
    (∃ Astar, IsLeast {A : Int | 0 ≤ A ∧ x ≤ (excl A).amount} Astar ∧
      (U64_MAX < Astar → incl x = .error (.error "The total amount and fees overflow")) ∧
      (Astar ≤ U64_MAX →
        incl x = .ok ⟨true, Astar, Astar - x⟩ ∧ excl Astar = ⟨false, x, Astar - x⟩)) ∧
    ∀ A, 0 ≤ A → A ≤ U64_MAX → ∃ r, incl (excl A).amount = .ok r ∧ r.amount ≤ A := by
  have hv := epochTransferFee_valid hfee
  simp only [calculateTransferFeeExcludedAmount_eq, calculateTransferFeeIncludedAmount_eq]
  generalize epochTransferFee tokenInfo currentEpoch = tf at hv ⊢
  refine ⟨?_, fun A hA hAM => ?_⟩
  · obtain ⟨Astar, h0, hth, hinc⟩ := calculateTransferFeeIncludedAmount_threshold hv hx hxM
    refine ⟨Astar, ⟨⟨h0, (hth Astar h0).2 le_rfl⟩, fun A hA => (hth A hA.1).1 hA.2⟩,
      fun hgt => by rw [hinc, if_pos hgt], fun hle => ⟨by rw [hinc, if_neg (not_lt.2 hle)],
        excludedAmount_threshold_exact hv hx h0 hth⟩⟩
  · -- what arrives from `A` lies in `[0, A]`, and `A` delivers it
    have h1 := calculateFee_nonneg hv hA
    have h2 := calculateFee_le_self hv hA
    obtain ⟨Astar, -, hth, hinc⟩ := calculateTransferFeeIncludedAmount_threshold hv
      (x := (tf.calculateTransferFeeExcludedAmount A).amount) (by simp; omega) (by simp; omega)
    exact ⟨_, by rw [hinc, if_neg (not_lt.2 ((hth A hA).1 le_rfl |>.trans hAM))],
      (hth A hA).1 le_rfl⟩

theorem calculateTransferFeeIncludedAmount_least_sample :
    (∀ config, getTransferFeeConfig sampleMint = some config → (getEpochFee config 7).Valid) ∧
    (0 : Int) ≤ 200000 ∧ (200000 : Int) ≤ U64_MAX ∧
    (let excl := fun A => calculateTransferFeeExcludedAmount A sampleMint 7
    let incl := fun y => calculateTransferFeeIncludedAmount y sampleMint 7
    (∃ Astar, IsLeast {A : Int | 0 ≤ A ∧ 200000 ≤ (excl A).amount} Astar ∧
      (U64_MAX < Astar → incl 200000 = .error (.error "The total amount and fees overflow")) ∧
      (Astar ≤ U64_MAX → incl 200000 = .ok ⟨true, Astar, Astar - 200000⟩ ∧
        excl Astar = ⟨false, 200000, Astar - 200000⟩)) ∧
    ∀ A, 0 ≤ A → A ≤ U64_MAX → ∃ r, incl (excl A).amount = .ok r ∧ r.amount ≤ A) :=
  ⟨sampleMint_valid 7, by decide, by decide,
    calculateTransferFeeIncludedAmount_least sampleMint 7 (sampleMint_valid 7) 200000
      (by decide) (by decide)⟩

/-- The spec's scenario: 5%, cap 1,000,000, 200,000 to deliver. -/
example : calculateTransferFeeIncludedAmount 200000 sampleMint 7 = .ok ⟨true, 210527, 10527⟩ :=
  rfl

/-- **Delivering more never costs less.**  For every mint and epoch whose
schedule Token-2022 accepts and every `0 ≤ x ≤ x' ≤ U64_MAX`: when including
the fee on `x'` succeeds, including it on `x` succeeds too, asks for no more and
charges no more fee, and no fee passes the epoch schedule's maximum fee. -/
theorem calculateTransferFeeIncludedAmount_mono
    (tokenInfo : MintWithTokenProgram) (currentEpoch : Int)
    (hfee : ∀ config, getTransferFeeConfig tokenInfo = some config →
      (getEpochFee config currentEpoch).Valid)
    (x x' : Int) (hx : 0 ≤ x) (hxx' : x ≤ x') (hxM : x' ≤ U64_MAX) (r' : TokenAmountWithFee)
    (h' : calculateTransferFeeIncludedAmount x' tokenInfo currentEpoch = .ok r') :
    ∃ r, calculateTransferFeeIncludedAmount x tokenInfo currentEpoch = .ok r ∧
      r.amount ≤ r'.amount ∧ 0 ≤ r.fee ∧ r.fee ≤ r'.fee ∧
      r'.fee ≤ (epochTransferFee tokenInfo currentEpoch).maximumFee := by
  have hv := epochTransferFee_valid hfee
  simp only [calculateTransferFeeIncludedAmount_eq] at h' ⊢
  generalize epochTransferFee tokenInfo currentEpoch = tf at hv h' ⊢
  obtain ⟨B, hB0, hthB, hincB⟩ :=
    calculateTransferFeeIncludedAmount_threshold hv (hx.trans hxx') hxM
  obtain ⟨A, hA0, hthA, hincA⟩ :=
    calculateTransferFeeIncludedAmount_threshold hv hx (hxx'.trans hxM)
  rw [hincB] at h'
  split_ifs at h' with hBM
  cases h'
  -- both thresholds deliver exactly, so their fees are `A - x` and `B - x'`
  have hexA := congrArg TokenAmountWithFee.fee (excludedAmount_threshold_exact hv hx hA0 hthA)
  have hexB := congrArg TokenAmountWithFee.fee
    (excludedAmount_threshold_exact hv (hx.trans hxx') hB0 hthB)
  simp only [calculateTransferFeeExcludedAmount_fee] at hexA hexB
  -- `B` delivers `x' ≥ x`, so the least amount delivering `x` is at most `B`
  have hAB : A ≤ B := (hthA B hB0).1 (by
    rw [calculateTransferFeeExcludedAmount_amount, hexB]
    omega)
  have := calculateFee_mono hv hA0 hAB
  have := calculateFee_nonneg hv hA0
  have := calculateFee_le_maximumFee hv hB0
  exact ⟨_, by rw [hincA, if_neg (by omega)], by dsimp only; omega⟩

theorem calculateTransferFeeIncludedAmount_mono_sample :
    (∀ config, getTransferFeeConfig sampleMint = some config → (getEpochFee config 7).Valid) ∧
    (0 : Int) ≤ 100000 ∧ (100000 : Int) ≤ 200000 ∧ (200000 : Int) ≤ U64_MAX ∧
    calculateTransferFeeIncludedAmount 200000 sampleMint 7 = .ok ⟨true, 210527, 10527⟩ ∧
    ∃ r, calculateTransferFeeIncludedAmount 100000 sampleMint 7 = .ok r ∧
      r.amount ≤ 210527 ∧ 0 ≤ r.fee ∧ r.fee ≤ 10527 ∧
      (10527 : Int) ≤ (epochTransferFee sampleMint 7).maximumFee :=
  ⟨sampleMint_valid 7, by decide, by decide, by decide, rfl,
    calculateTransferFeeIncludedAmount_mono sampleMint 7 (sampleMint_valid 7) 100000 200000
      (by decide) (by decide) (by decide) _ rfl⟩

end TokenExtensionUtil

end Whirlpools
