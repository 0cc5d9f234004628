import AlethiaReth.Lib.Outcome
import AlethiaReth.Primitives

/-!
The base fee of the next block, which follows the gas used and the time taken by its parent: the
rule as it is computed is the one in the natural numbers where two products fit and the gas target
divides, and there only (`calculateNextBlock_eq`, `baseFeeFits_of_on`).
-/

namespace AlethiaReth

open MachineInt Outcome

/-! ### Constants -/

variable (gasLimit : ℕ) (checks : OverflowChecks)

/-- The fee after the genesis block. -/
def shastaInitialBaseFee : U64 := 25000000

/-- The fee changes by an eighth at most. -/
def baseFeeMaxChangeDenominator : U128 := 8

/-- The largest target, in percent of the limit. -/
def maxGasTargetPercent : U64 := 95

/-- The limit is twice the target. -/
def elasticityMultiplier : U64 := 2

/-- The seconds a block should take. -/
def blockTimeTarget : U64 := 2

/-- The smallest fee. -/
def minBaseFee : U64 := 5000000

/-- The smallest fee of the main network. -/
def mainnetMinBaseFee : U64 := 10000000

/-- The largest fee. -/
def maxBaseFee : U64 := 1000000000

/-! ### The rule as it is computed -/

/-- Clamps a base fee to its bounds, which must be in order. -/
def clampShastaBaseFee (baseFee minBaseFeeToClamp : U64) : Except Panic U64 :=
  if minBaseFeeToClamp > maxBaseFee then .error .assertion
  else if baseFee < minBaseFeeToClamp then .ok minBaseFeeToClamp
  else if baseFee > maxBaseFee then .ok maxBaseFee
  else .ok baseFee

section

/-- The gas target for the time the parent took. -/
def parentAdjustedGasTarget (gasLimit blockTime : U64) : Except Panic U64 := do
  let timed ← plainMul checks (gasLimit / elasticityMultiplier) blockTime
  let capped ← plainMul checks gasLimit maxGasTargetPercent
  let timed := timed / blockTimeTarget
  let capped := capped / 100
  pure (if timed ≤ capped then timed else capped)

/-- The change of a base fee for a distance from the gas target. -/
def baseFeePerGasDelta (baseFee gasUsedDelta baseGasTarget : U64) : Except Panic U128 := do
  let product ← plainMul checks (baseFee.setWidth 128) (gasUsedDelta.setWidth 128)
  let quotient ← plainDiv product (baseGasTarget.setWidth 128)
  pure (quotient / baseFeeMaxChangeDenominator)

/-- The base fee after a parent with given gas limit, gas used and adjusted target. -/
def nextBaseFee (gasLimit gasUsed adjustedGasTarget baseFee : U64) : Except Panic U64 :=
  if gasUsed = adjustedGasTarget then
    .ok baseFee
  else if gasUsed > adjustedGasTarget then do
    let delta ← baseFeePerGasDelta checks baseFee (gasUsed - adjustedGasTarget)
      (gasLimit / elasticityMultiplier)
    let delta := if delta ≤ 1 then 1 else delta
    pure (saturatingAdd baseFee (delta.setWidth 64))
  else do
    let delta ← baseFeePerGasDelta checks baseFee (adjustedGasTarget - gasUsed)
      (gasLimit / elasticityMultiplier)
    pure (saturatingSub baseFee (delta.setWidth 64))

/-- The fee of the block after a parent. -/
def calculateNextBlockEip4396BaseFee (parent : Header)
    (parentBlockTime parentBaseFeePerGas minBaseFeeToClamp : U64) : Except Panic U64 :=
  if parent.number = 0 then
    .ok shastaInitialBaseFee
  else do
    let target ← parentAdjustedGasTarget checks parent.gasLimit parentBlockTime
    let baseFee ← nextBaseFee checks parent.gasLimit parent.gasUsed target parentBaseFeePerGas
    clampShastaBaseFee baseFee minBaseFeeToClamp

end

/-! ### The rule in the natural numbers -/

/-- The gas target for the time the parent took, at most 95 percent of the limit. -/
def idealGasTarget (blockTime : ℕ) : ℕ :=
  min (gasLimit / 2 * blockTime / 2) (gasLimit * 95 / 100)

/-- The change of a base fee for a distance from the gas target. -/
def idealDelta (baseFee gasUsedDelta gasLimit : ℕ) : ℕ :=
  baseFee * gasUsedDelta / (gasLimit / 2) / 8

/-- The base fee moved towards the gas used. -/
def idealNextBaseFee (gasUsed target baseFee : ℕ) : ℕ :=
  if gasUsed = target then baseFee
  else if target < gasUsed then
    baseFee + max (idealDelta baseFee (gasUsed - target) gasLimit) 1
  else
    baseFee - idealDelta baseFee (target - gasUsed) gasLimit

/-- The base fee after a parent, in the natural numbers. -/
def eip4396BaseFee (parent : Header) (blockTime baseFee minFee : ℕ) : ℕ :=
  if parent.number = 0 then shastaInitialBaseFee.toNat
  else
    max minFee (min maxBaseFee.toNat (idealNextBaseFee parent.gasLimit.toNat parent.gasUsed.toNat
      (idealGasTarget parent.gasLimit.toNat blockTime) baseFee))

/-- The two products of the gas target fit, and its division is never by zero. -/
structure TargetFits (gasLimit gasUsed blockTime : ℕ) : Prop where
  timed : gasLimit / 2 * blockTime < 2 ^ 64
  capped : gasLimit * 95 < 2 ^ 64
  target : ¬ (gasLimit = 1 ∧ gasUsed = 1)

/-- Where the rule can be computed in 64 bits. -/
def BaseFeeFits (parent : Header) (blockTime : ℕ) : Prop :=
  parent.number = 0 ∨ TargetFits parent.gasLimit.toNat parent.gasUsed.toNat blockTime

/-! ### Where the two agree -/

lemma elasticity_toNat (gasLimit : U64) :
    (gasLimit / elasticityMultiplier).toNat = gasLimit.toNat / 2 := by
  rw [BitVec.toNat_udiv]
  rfl

/-- A checking build computes a gas target only from products that fit. -/
lemma parentAdjustedGasTarget_on {gasLimit blockTime target : U64}
    (h : parentAdjustedGasTarget .on gasLimit blockTime = .ok target) :
    gasLimit.toNat / 2 * blockTime.toNat < 2 ^ 64 ∧ gasLimit.toNat * 95 < 2 ^ 64 := by
  obtain ⟨timed, htimed, h⟩ := bind_eq_ok.mp h
  obtain ⟨capped, hcapped, -⟩ := bind_eq_ok.mp h
  have htimed := (plainMul_on_eq_ok_iff.mp htimed).1
  have hcapped := (plainMul_on_eq_ok_iff.mp hcapped).1
  rw [elasticity_toNat] at htimed
  exact ⟨htimed, hcapped⟩

/-- From products that fit every build computes the ideal gas target. -/
lemma parentAdjustedGasTarget_eq_ok {gasLimit blockTime : U64}
    (htimed : gasLimit.toNat / 2 * blockTime.toNat < 2 ^ 64)
    (hcapped : gasLimit.toNat * 95 < 2 ^ 64) :
    ∃ target, parentAdjustedGasTarget checks gasLimit blockTime = .ok target ∧
      target.toNat = idealGasTarget gasLimit.toNat blockTime.toNat := by
  have htimed' : (gasLimit / elasticityMultiplier).toNat * blockTime.toNat < 2 ^ 64 := by
    rw [elasticity_toNat]
    exact htimed
  have hcapped' : gasLimit.toNat * maxGasTargetPercent.toNat < 2 ^ 64 := hcapped
  have htimedNat : (gasLimit / elasticityMultiplier * blockTime / blockTimeTarget).toNat
      = gasLimit.toNat / 2 * blockTime.toNat / 2 := by
    rw [BitVec.toNat_udiv, BitVec.toNat_mul_of_lt htimed', elasticity_toNat]
    rfl
  have hcappedNat : (gasLimit * maxGasTargetPercent / 100).toNat = gasLimit.toNat * 95 / 100 := by
    rw [BitVec.toNat_udiv, BitVec.toNat_mul_of_lt hcapped']
    rfl
  rw [parentAdjustedGasTarget, plainMul_eq_ok_of_lt checks htimed',
    plainMul_eq_ok_of_lt checks hcapped']
  refine ⟨_, rfl, ?_⟩
  rw [idealGasTarget, apply_ite BitVec.toNat, htimedNat, hcappedNat]
  simp only [BitVec.le_def, htimedNat, hcappedNat]
  split <;> omega

/-- A distance within the gas limit moves a base fee by at most itself. -/
lemma idealDelta_le {baseFee gasUsedDelta gasLimit : ℕ} (htarget : 0 < gasLimit / 2)
    (hdelta : gasUsedDelta ≤ gasLimit) : idealDelta baseFee gasUsedDelta gasLimit ≤ baseFee := by
  have hlimit : gasLimit ≤ 8 * (gasLimit / 2) := by omega
  rw [idealDelta, Nat.div_div_eq_div_mul]
  refine Nat.div_le_of_le_mul ?_
  calc baseFee * gasUsedDelta
      ≤ baseFee * (gasLimit / 2 * 8) := Nat.mul_le_mul_left _ (by omega)
    _ = gasLimit / 2 * 8 * baseFee := Nat.mul_comm _ _

/-- The change of a base fee is computed where the gas target is not zero. -/
lemma baseFeePerGasDelta_eq_ok (baseFee gasUsedDelta : U64) {gasLimit : U64}
    (htarget : 0 < gasLimit.toNat / 2) (hdelta : gasUsedDelta.toNat ≤ gasLimit.toNat) :
    ∃ delta, baseFeePerGasDelta checks baseFee gasUsedDelta (gasLimit / elasticityMultiplier)
        = .ok delta ∧
      delta.toNat = idealDelta baseFee.toNat gasUsedDelta.toNat gasLimit.toNat ∧
      delta.toNat ≤ baseFee.toNat := by
  have hwide : ∀ x : U64, (x.setWidth 128).toNat = x.toNat := fun x =>
    BitVec.toNat_setWidth_of_le (by omega)
  have hmul : (baseFee.setWidth 128).toNat * (gasUsedDelta.setWidth 128).toNat < 2 ^ 128 := by
    rw [hwide, hwide]
    calc baseFee.toNat * gasUsedDelta.toNat
        < 2 ^ 64 * 2 ^ 64 := Nat.mul_lt_mul'' baseFee.isLt gasUsedDelta.isLt
      _ = 2 ^ 128 := by norm_num
  have hpos : 0 < ((gasLimit / elasticityMultiplier).setWidth 128).toNat := by
    rw [hwide, elasticity_toNat]
    exact htarget
  rw [baseFeePerGasDelta, plainMul_eq_ok_of_lt checks hmul]
  dsimp only [bind, Except.bind]
  rw [plainDiv_eq_ok_of_pos hpos]
  refine ⟨_, rfl, ?_⟩
  rw [BitVec.toNat_udiv, BitVec.toNat_udiv, BitVec.toNat_mul_of_lt hmul, hwide, hwide, hwide,
    elasticity_toNat]
  exact ⟨rfl, idealDelta_le htarget hdelta⟩

/-- With no gas target the change divides by zero. -/
lemma baseFeePerGasDelta_eq_error {baseFee gasUsedDelta gasLimit : U64}
    (htarget : gasLimit.toNat / 2 = 0) :
    ∀ delta, baseFeePerGasDelta checks baseFee gasUsedDelta (gasLimit / elasticityMultiplier)
      ≠ .ok delta := by
  intro delta h
  obtain ⟨product, -, h⟩ := bind_eq_ok.mp h
  obtain ⟨quotient, hdiv, -⟩ := bind_eq_ok.mp h
  have hzero : ((gasLimit / elasticityMultiplier).setWidth 128).toNat = 0 := by
    rw [BitVec.toNat_setWidth_of_le (by omega), elasticity_toNat]
    exact htarget
  rw [plainDiv, if_pos hzero] at hdiv
  cases hdiv

/-- No target exceeds the gas limit. -/
lemma idealGasTarget_le (blockTime : ℕ) :
    idealGasTarget gasLimit blockTime ≤ gasLimit := by
  rw [idealGasTarget]
  omega

/-- Every build moves the base fee as the ideal rule does, up to its range. -/
lemma nextBaseFee_eq_ok {gasLimit gasUsed target : U64} (baseFee : U64)
    (hused : gasUsed.toNat ≤ gasLimit.toNat) (htarget : target.toNat ≤ gasLimit.toNat)
    (hdiv : gasUsed = target ∨ 0 < gasLimit.toNat / 2) :
    ∃ next, nextBaseFee checks gasLimit gasUsed target baseFee = .ok next ∧
      next.toNat = min (2 ^ 64 - 1)
        (idealNextBaseFee gasLimit.toNat gasUsed.toNat target.toNat baseFee.toNat) := by
  have hfee := baseFee.isLt
  rw [nextBaseFee, idealNextBaseFee]
  by_cases heq : gasUsed = target
  · rw [if_pos heq, if_pos (congrArg BitVec.toNat heq)]
    exact ⟨baseFee, rfl, by omega⟩
  · have hpos : 0 < gasLimit.toNat / 2 := hdiv.resolve_left heq
    have hne : gasUsed.toNat ≠ target.toNat := fun h => heq (BitVec.eq_of_toNat_eq h)
    rw [if_neg heq, if_neg hne]
    -- the delta is at most the fee, so narrowing it loses nothing
    by_cases hgt : gasUsed > target
    · have hlt : target.toNat < gasUsed.toNat := BitVec.lt_def.mp hgt
      have hsub : (gasUsed - target).toNat = gasUsed.toNat - target.toNat :=
        BitVec.toNat_sub_of_le (BitVec.le_def.mpr (le_of_lt hlt))
      rw [if_pos hgt, if_pos hlt]
      obtain ⟨delta, hdelta, hdeltaNat, hle⟩ := baseFeePerGasDelta_eq_ok checks baseFee
        (gasUsed - target) hpos (by omega)
      rw [hsub] at hdeltaNat
      have hmax : (if delta ≤ 1 then (1 : U128) else delta).toNat = max delta.toNat 1 := by
        simp only [BitVec.le_def]
        split
        · next h => have : (1 : U128).toNat = 1 := rfl; omega
        · next h => have : (1 : U128).toNat = 1 := rfl; omega
      have hnarrow : ((if delta ≤ 1 then (1 : U128) else delta).setWidth 64).toNat
          = max delta.toNat 1 := by
        rw [BitVec.toNat_setWidth, hmax, Nat.mod_eq_of_lt (by omega)]
      rw [hdelta]
      refine ⟨_, rfl, ?_⟩
      rw [toNat_saturatingAdd, hnarrow, ← hdeltaNat, Nat.min_comm]
    · have hlt : gasUsed.toNat < target.toNat := by
        have := BitVec.le_def.mp (BitVec.not_lt.mp hgt)
        omega
      have hsub : (target - gasUsed).toNat = target.toNat - gasUsed.toNat :=
        BitVec.toNat_sub_of_le (BitVec.le_def.mpr (le_of_lt hlt))
      rw [if_neg hgt, if_neg (by omega)]
      obtain ⟨delta, hdelta, hdeltaNat, hle⟩ := baseFeePerGasDelta_eq_ok checks baseFee
        (target - gasUsed) hpos (by omega)
      rw [hsub] at hdeltaNat
      have hnarrow : (delta.setWidth 64).toNat = delta.toNat := by
        rw [BitVec.toNat_setWidth, Nat.mod_eq_of_lt (by omega)]
      rw [hdelta]
      refine ⟨_, rfl, ?_⟩
      rw [toNat_saturatingSub, hnarrow, ← hdeltaNat]
      omega

lemma clampShastaBaseFee_eq_ok (baseFee : U64) {minFee : U64}
    (hmin : minFee.toNat ≤ maxBaseFee.toNat) :
    ∃ fee, clampShastaBaseFee baseFee minFee = .ok fee ∧
      fee.toNat = max minFee.toNat (min maxBaseFee.toNat baseFee.toNat) := by
  rw [clampShastaBaseFee, if_neg (by simpa [BitVec.lt_def] using hmin)]
  by_cases hlow : baseFee < minFee
  · rw [if_pos hlow]
    rw [BitVec.lt_def] at hlow
    exact ⟨minFee, rfl, by omega⟩
  · rw [if_neg hlow]
    rw [BitVec.lt_def] at hlow
    by_cases hhigh : baseFee > maxBaseFee
    · rw [if_pos hhigh]
      rw [gt_iff_lt, BitVec.lt_def] at hhigh
      exact ⟨maxBaseFee, rfl, by omega⟩
    · rw [if_neg hhigh]
      rw [gt_iff_lt, BitVec.lt_def] at hhigh
      exact ⟨baseFee, rfl, by omega⟩

section Agreement

variable {parent : Header} {blockTime minFee : U64}

/-- Where it fits, every build computes the ideal base fee. -/
theorem calculateNextBlock_eq (checks : OverflowChecks)
    (hused : parent.gasUsed.toNat ≤ parent.gasLimit.toNat)
    (hmin : minFee.toNat ≤ maxBaseFee.toNat) (baseFee : U64)
    (hfits : BaseFeeFits parent blockTime.toNat) :
    ∃ fee, calculateNextBlockEip4396BaseFee checks parent blockTime baseFee minFee = .ok fee ∧
      fee.toNat = eip4396BaseFee parent blockTime.toNat baseFee.toNat minFee.toNat := by
  rw [calculateNextBlockEip4396BaseFee, eip4396BaseFee]
  by_cases hgenesis : parent.number = 0
  · rw [if_pos hgenesis, if_pos hgenesis]
    exact ⟨_, rfl, rfl⟩
  · have hfits := hfits.resolve_left hgenesis
    rw [if_neg hgenesis, if_neg hgenesis]
    obtain ⟨target, htarget, htargetNat⟩ :=
      parentAdjustedGasTarget_eq_ok checks hfits.timed hfits.capped
    have hle : target.toNat ≤ parent.gasLimit.toNat := by
      rw [htargetNat]
      exact idealGasTarget_le _ _
    -- with a gas limit of at most one the target is zero, and so is the gas used
    have hdiv : parent.gasUsed = target ∨ 0 < parent.gasLimit.toNat / 2 := by
      by_cases hsmall : parent.gasLimit.toNat ≤ 1
      · refine .inl (BitVec.eq_of_toNat_eq ?_)
        have hnot := hfits.target
        have hzero : parent.gasLimit.toNat / 2 = 0 := by omega
        rw [htargetNat, idealGasTarget, hzero]
        omega
      · exact .inr (by omega)
    obtain ⟨next, hnext, hnextNat⟩ := nextBaseFee_eq_ok checks baseFee hused hle hdiv
    obtain ⟨fee, hfee, hfeeNat⟩ := clampShastaBaseFee_eq_ok next hmin
    refine ⟨fee, ?_, ?_⟩
    · rw [htarget]
      dsimp only [bind, Except.bind]
      rw [hnext]
      exact hfee
    · have hmax : maxBaseFee.toNat = 1000000000 := rfl
      rw [hfeeNat, hnextNat, htargetNat]
      omega

/-- A checking build computes a base fee only where it fits. -/
theorem baseFeeFits_of_on {baseFee fee : U64}
    (h : calculateNextBlockEip4396BaseFee .on parent blockTime baseFee minFee = .ok fee) :
    BaseFeeFits parent blockTime.toNat := by
  rw [calculateNextBlockEip4396BaseFee] at h
  by_cases hgenesis : parent.number = 0
  · exact .inl hgenesis
  · rw [if_neg hgenesis] at h
    obtain ⟨target, htarget, h⟩ := bind_eq_ok.mp h
    obtain ⟨next, hnext, -⟩ := bind_eq_ok.mp h
    obtain ⟨htimed, hcapped⟩ := parentAdjustedGasTarget_on htarget
    refine .inr ⟨htimed, hcapped, ?_⟩
    rintro ⟨hlimit, hone⟩
    -- a full block with room for one gas has a target of zero to divide by
    obtain ⟨target', htarget', htargetNat⟩ := parentAdjustedGasTarget_eq_ok .on htimed hcapped
    rw [htarget] at htarget'
    cases htarget'
    have hzero : target.toNat = 0 := by
      rw [htargetNat, idealGasTarget, hlimit]
      simp
    have hgt : parent.gasUsed > target := by
      rw [gt_iff_lt, BitVec.lt_def]
      omega
    have hne : parent.gasUsed ≠ target := by
      intro heq
      rw [heq] at hone
      omega
    rw [nextBaseFee, if_neg hne, if_pos hgt] at hnext
    obtain ⟨delta, hdelta, -⟩ := bind_eq_ok.mp hnext
    exact baseFeePerGasDelta_eq_error .on (by rw [hlimit]) delta hdelta

end Agreement

end AlethiaReth
