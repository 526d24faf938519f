/-
  Whirlpools.TokenExtensionUtil
  ─────────────────────────────
  **TRANSFER-FEE-INCLUDED AND TRANSFER-FEE-EXCLUDED AMOUNTS.**

  `token-extension-util.ts` converts between what a Token-2022 transfer
  sends and what arrives under the mint's transfer fee.  `BN` and `bigint`
  amounts are unbounded integers, so `Int`; their division truncates toward
  zero, so `Int.tdiv`.  The spl-token helpers the file calls
  (`getTransferFeeConfig`, `getEpochFee`, `calculateFee`) are not in the
  source and are modelled from the library as the file uses them.

  The one fact every later proof goes through is the ceiling-division bound
  `calculateFee_le_iff`:

    `calculateFee tf A ≤ f  ↔  A * bps ≤ f * 10000  ∨  maximumFee ≤ f`

  for every amount `A ≥ 0` under a schedule `Valid` for Token-2022.  The
  `TokenExtensionUtil` methods are the module functions at the epoch's
  schedule, or at the schedule that charges nothing when the mint has no
  transfer-fee extension (`calculateTransferFeeExcludedAmount_eq` and
  `calculateTransferFeeIncludedAmount_eq`).
-/
import Whirlpools.Types
import Mathlib.Tactic.Ring

namespace Whirlpools

/-! ## §1. The spl-token side. -/

/-- spl-token's `TransferFee`: one epoch's fee schedule. -/
structure TransferFee where
  epoch : Int
  maximumFee : Int
  transferFeeBasisPoints : Int
  deriving DecidableEq, Repr

/-- spl-token's `TransferFeeConfig`, reduced to the two schedules
`getEpochFee` chooses from. -/
structure TransferFeeConfig where
  olderTransferFee : TransferFee
  newerTransferFee : TransferFee
  deriving DecidableEq, Repr

/-- spl-token's `getEpochFee`: the newer schedule from its epoch on. -/
def getEpochFee (transferFeeConfig : TransferFeeConfig) (epoch : Int) : TransferFee :=
  if epoch ≥ transferFeeConfig.newerTransferFee.epoch then transferFeeConfig.newerTransferFee
  else transferFeeConfig.olderTransferFee

/-- common-sdk's `MintWithTokenProgram`, reduced to what `getTransferFeeConfig`
decodes from its `tlvData`: the transfer-fee extension, if the mint has one. -/
structure MintWithTokenProgram where
  transferFeeConfig : Option TransferFeeConfig
  deriving DecidableEq, Repr

/-- spl-token's `getTransferFeeConfig`. -/
def getTransferFeeConfig (mint : MintWithTokenProgram) : Option TransferFeeConfig :=
  mint.transferFeeConfig

/-- `ONE_IN_BASIS_POINTS`: 100% in basis points (spl-token's
`MAX_FEE_BASIS_POINTS`). -/
def ONE_IN_BASIS_POINTS : Int := 10000

/-- spl-token's `calculateFee`: `⌈preFeeAmount * bps / 10000⌉`, capped at the
maximum fee, and `0` when nothing is charged. -/
def calculateFee (transferFee : TransferFee) (preFeeAmount : Int) : Int :=
  if transferFee.transferFeeBasisPoints = 0 ∨ preFeeAmount = 0 then 0
  else
    let numerator := preFeeAmount * transferFee.transferFeeBasisPoints
    let rawFee := (numerator + ONE_IN_BASIS_POINTS - 1).tdiv ONE_IN_BASIS_POINTS
    if rawFee > transferFee.maximumFee then transferFee.maximumFee else rawFee

/-- common-sdk's `U64_MAX`. -/
def U64_MAX : Int := 2 ^ 64 - 1

/-! ## §2. `token-extension-util.ts`. -/

/-- `TokenAmountWithFee`. -/
structure TokenAmountWithFee where
  isFeeIncludedAmount : Bool
  amount : Int
  fee : Int
  deriving DecidableEq, Repr

/-- `ceilDivBN`. -/
def ceilDivBN (num denom : Int) : Int := (num + (denom - 1)).tdiv denom

namespace TransferFee

/-- The module function `calculateTransferFeeIncludedAmount`: what to send for
`amount` to arrive. -/
def calculateTransferFeeIncludedAmount (transferFee : TransferFee) (amount : Int) :
    Except SdkError TokenAmountWithFee :=
  let maxFeeBN := transferFee.maximumFee
  if transferFee.transferFeeBasisPoints = 0 then .ok ⟨true, amount, 0⟩
  else if amount = 0 then .ok ⟨true, amount, 0⟩
  else if transferFee.transferFeeBasisPoints = ONE_IN_BASIS_POINTS then
    if amount + maxFeeBN > U64_MAX then .error (.error "The total amount and fees overflow")
    else .ok ⟨true, amount + maxFeeBN, maxFeeBN⟩
  else
    let num := amount * ONE_IN_BASIS_POINTS
    let denom := ONE_IN_BASIS_POINTS - transferFee.transferFeeBasisPoints
    let rawFeeIncludedAmount := ceilDivBN num denom
    let result : Int × Int :=
      if rawFeeIncludedAmount - amount ≥ maxFeeBN then (amount + maxFeeBN, maxFeeBN)
      else (rawFeeIncludedAmount, rawFeeIncludedAmount - amount)
    if result.1 > U64_MAX then .error (.error "The total amount and fees overflow")
    else .ok ⟨true, result.1, result.2⟩

/-- The module function `calculateTransferFeeExcludedAmount`: what arrives when
`amount` is sent. -/
def calculateTransferFeeExcludedAmount (transferFee : TransferFee) (amount : Int) :
    TokenAmountWithFee :=
  let feeBN := calculateFee transferFee amount
  ⟨false, amount - feeBN, feeBN⟩

end TransferFee

namespace TokenExtensionUtil

/-- `TokenExtensionUtil.calculateTransferFeeIncludedAmount`. -/
def calculateTransferFeeIncludedAmount (transferFeeExcludedAmount : Int)
    (tokenInfo : MintWithTokenProgram) (currentEpoch : Int) :
    Except SdkError TokenAmountWithFee :=
  match getTransferFeeConfig tokenInfo with
  | none => .ok ⟨true, transferFeeExcludedAmount, 0⟩
  | some config =>
    (getEpochFee config currentEpoch).calculateTransferFeeIncludedAmount transferFeeExcludedAmount

/-- `TokenExtensionUtil.calculateTransferFeeExcludedAmount`. -/
def calculateTransferFeeExcludedAmount (transferFeeIncludedAmount : Int)
    (tokenInfo : MintWithTokenProgram) (currentEpoch : Int) : TokenAmountWithFee :=
  match getTransferFeeConfig tokenInfo with
  | none => ⟨false, transferFeeIncludedAmount, 0⟩
  | some config =>
    (getEpochFee config currentEpoch).calculateTransferFeeExcludedAmount transferFeeIncludedAmount

end TokenExtensionUtil

/-! ## §3. The schedule a mint charges in an epoch. -/

namespace TransferFee

/-- The schedules Token-2022 accepts: a rate of at most 100% and a
non-negative cap. -/
structure Valid (transferFee : TransferFee) : Prop where
  bps_nonneg : 0 ≤ transferFee.transferFeeBasisPoints
  bps_le : transferFee.transferFeeBasisPoints ≤ ONE_IN_BASIS_POINTS
  maximumFee_nonneg : 0 ≤ transferFee.maximumFee

/-- The schedule that charges nothing. -/
def noFee : TransferFee := ⟨0, 0, 0⟩

theorem noFee_valid : noFee.Valid := ⟨le_refl _, by decide, le_refl _⟩

end TransferFee

/-- The schedule the mint charges in the epoch: the epoch's schedule, or
`noFee` without a transfer-fee extension. -/
def epochTransferFee (tokenInfo : MintWithTokenProgram) (currentEpoch : Int) : TransferFee :=
  match getTransferFeeConfig tokenInfo with
  | none => TransferFee.noFee
  | some config => getEpochFee config currentEpoch

theorem epochTransferFee_valid {tokenInfo : MintWithTokenProgram} {currentEpoch : Int}
    (h : ∀ config, getTransferFeeConfig tokenInfo = some config →
      (getEpochFee config currentEpoch).Valid) :
    (epochTransferFee tokenInfo currentEpoch).Valid := by
  unfold epochTransferFee
  split
  · exact TransferFee.noFee_valid
  · exact h _ ‹_›

theorem epochTransferFee_of_some {tokenInfo : MintWithTokenProgram} {config : TransferFeeConfig}
    (currentEpoch : Int) (h : getTransferFeeConfig tokenInfo = some config) :
    epochTransferFee tokenInfo currentEpoch = getEpochFee config currentEpoch := by
  simp [epochTransferFee, h]

theorem TokenExtensionUtil.calculateTransferFeeExcludedAmount_eq
    (A : Int) (tokenInfo : MintWithTokenProgram) (currentEpoch : Int) :
    TokenExtensionUtil.calculateTransferFeeExcludedAmount A tokenInfo currentEpoch =
      (epochTransferFee tokenInfo currentEpoch).calculateTransferFeeExcludedAmount A := by
  unfold TokenExtensionUtil.calculateTransferFeeExcludedAmount epochTransferFee
  split <;> simp [TransferFee.calculateTransferFeeExcludedAmount, calculateFee, TransferFee.noFee]

theorem TokenExtensionUtil.calculateTransferFeeIncludedAmount_eq
    (x : Int) (tokenInfo : MintWithTokenProgram) (currentEpoch : Int) :
    TokenExtensionUtil.calculateTransferFeeIncludedAmount x tokenInfo currentEpoch =
      (epochTransferFee tokenInfo currentEpoch).calculateTransferFeeIncludedAmount x := by
  unfold TokenExtensionUtil.calculateTransferFeeIncludedAmount epochTransferFee
  split <;> simp [TransferFee.calculateTransferFeeIncludedAmount, TransferFee.noFee]

/-! ## §4. Ceiling division. -/

theorem ceilDiv_le_iff (n : Int) {d : Int} (q : Int) (hd : 0 < d) :
    (n + d - 1) / d ≤ q ↔ n ≤ q * d := by
  rw [← Int.lt_add_one_iff, Int.ediv_lt_iff_lt_mul hd, Int.add_mul, one_mul]
  omega

theorem ceilDivBN_le_iff {n d : Int} (q : Int) (hn : 0 ≤ n) (hd : 0 < d) :
    ceilDivBN n d ≤ q ↔ n ≤ q * d := by
  rw [ceilDivBN, Int.tdiv_eq_ediv (by omega) hd.le, ← add_sub_assoc, ceilDiv_le_iff n q hd]

/-! ## §5. The fee, as a bound. -/

namespace TransferFee

variable {tf : TransferFee}

/-- `calculateFee` is the least `f` with `A * bps ≤ f * 10000`, capped at the
maximum fee. -/
theorem calculateFee_le_iff (hv : tf.Valid) {A : Int} (hA : 0 ≤ A) (f : Int) :
    calculateFee tf A ≤ f ↔
      A * tf.transferFeeBasisPoints ≤ f * ONE_IN_BASIS_POINTS ∨ tf.maximumFee ≤ f := by
  have hn : 0 ≤ A * tf.transferFeeBasisPoints := Int.mul_nonneg hA hv.bps_nonneg
  have hM := hv.maximumFee_nonneg
  simp only [calculateFee, ONE_IN_BASIS_POINTS, Int.tdiv_eq_ediv
    (by omega : 0 ≤ A * tf.transferFeeBasisPoints + 10000 - 1) (by decide : (0 : Int) ≤ 10000)]
  split_ifs with h0
  · have : A * tf.transferFeeBasisPoints = 0 := by rcases h0 with h | h <;> simp [h]
    omega
  all_goals omega

end TransferFee

end Whirlpools
