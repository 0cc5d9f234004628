import AlethiaReth.Consensus.Validation

/-!
How the base fee of the next block moves with what it depends on: the computed fee is the exact one
over the integers and moves as it does (`calculateNextBlock_laws`).
-/

namespace AlethiaReth

open MachineInt Outcome

/-! ### The rule over the integers -/

/-- The base fee moved towards the gas used. -/
def exactNextBaseFee (gasLimit gasUsed target baseFee : ℤ) : ℤ :=
  if gasUsed = target then baseFee
  else if target < gasUsed then
    baseFee + max (baseFee * (gasUsed - target) / (gasLimit / 2) / 8) 1
  else
    baseFee - baseFee * (target - gasUsed) / (gasLimit / 2) / 8

/-- The gas target for the time the parent took. -/
def exactGasTarget (gasLimit blockTime : ℤ) : ℤ :=
  min (gasLimit / 2 * blockTime / 2) (gasLimit * 95 / 100)

/-- The base fee after a parent that is not the genesis block. -/
def exactBaseFee (gasLimit gasUsed blockTime baseFee minFee : ℤ) : ℤ :=
  max minFee (min maxBaseFee.toNat
    (exactNextBaseFee gasLimit gasUsed (exactGasTarget gasLimit blockTime) baseFee))

lemma exactGasTarget_eq (gasLimit blockTime : ℕ) :
    exactGasTarget gasLimit blockTime = idealGasTarget gasLimit blockTime := by
  rw [exactGasTarget, idealGasTarget]
  push_cast
  rfl

/-- No subtraction of the rule is cut off. -/
lemma exactNextBaseFee_eq {gasLimit gasUsed target : ℕ} (baseFee : ℕ) (hlimit : 2 ≤ gasLimit)
    (hused : gasUsed ≤ gasLimit) (htarget : target ≤ gasLimit) :
    exactNextBaseFee gasLimit gasUsed target baseFee
      = idealNextBaseFee gasLimit gasUsed target baseFee := by
  have hpos : 0 < gasLimit / 2 := by omega
  rw [exactNextBaseFee, idealNextBaseFee]
  rcases lt_trichotomy gasUsed target with hlt | heq | hgt
  · have hdelta : idealDelta baseFee (target - gasUsed) gasLimit ≤ baseFee :=
      idealDelta_le hpos (by omega)
    rw [if_neg (by omega), if_neg (by omega), if_neg (by omega), if_neg (by omega),
      Nat.cast_sub hdelta, idealDelta]
    push_cast [Nat.cast_sub (le_of_lt hlt)]
    rfl
  · rw [if_pos (by omega), if_pos heq]
  · rw [if_neg (by omega), if_pos (by omega), if_neg (by omega), if_pos hgt, idealDelta]
    push_cast [Nat.cast_sub (le_of_lt hgt)]
    rfl

/-! ### The rule in each of its arguments -/

lemma idealDelta_mono_delta {baseFee gasLimit d d' : ℕ} (h : d ≤ d') :
    idealDelta baseFee d gasLimit ≤ idealDelta baseFee d' gasLimit :=
  Nat.div_le_div_right (Nat.div_le_div_right (Nat.mul_le_mul_left _ h))

lemma idealDelta_mono_baseFee {baseFee baseFee' gasLimit d : ℕ} (h : baseFee ≤ baseFee') :
    idealDelta baseFee d gasLimit ≤ idealDelta baseFee' d gasLimit :=
  Nat.div_le_div_right (Nat.div_le_div_right (Nat.mul_le_mul_right _ h))

/-- Within the gas limit, a change never grows faster than the fee it changes. -/
lemma idealDelta_add_le {gasLimit d : ℕ} (baseFee k : ℕ) (hlimit : 2 ≤ gasLimit)
    (hd : d ≤ gasLimit) :
    idealDelta (baseFee + k) d gasLimit ≤ idealDelta baseFee d gasLimit + k := by
  have hpos : 0 < gasLimit / 2 * 8 := by omega
  have hwide : d ≤ gasLimit / 2 * 8 := by omega
  rw [idealDelta, idealDelta, Nat.div_div_eq_div_mul, Nat.div_div_eq_div_mul]
  calc (baseFee + k) * d / (gasLimit / 2 * 8)
      = (baseFee * d + k * d) / (gasLimit / 2 * 8) := by rw [Nat.add_mul]
    _ ≤ (baseFee * d + k * (gasLimit / 2 * 8)) / (gasLimit / 2 * 8) :=
        Nat.div_le_div_right (Nat.add_le_add_left (Nat.mul_le_mul_left _ hwide) _)
    _ = baseFee * d / (gasLimit / 2 * 8) + k := Nat.add_mul_div_right _ _ hpos

lemma idealGasTarget_mono {gasLimit blockTime blockTime' : ℕ} (h : blockTime ≤ blockTime') :
    idealGasTarget gasLimit blockTime ≤ idealGasTarget gasLimit blockTime' :=
  min_le_min_right _ (Nat.div_le_div_right (Nat.mul_le_mul_left _ h))

lemma idealNextBaseFee_of_lt {gasLimit gasUsed target : ℕ} (baseFee : ℕ) (h : gasUsed < target) :
    idealNextBaseFee gasLimit gasUsed target baseFee
      = baseFee - idealDelta baseFee (target - gasUsed) gasLimit := by
  rw [idealNextBaseFee, if_neg (by omega), if_neg (by omega)]

lemma idealNextBaseFee_of_gt {gasLimit gasUsed target : ℕ} (baseFee : ℕ) (h : target < gasUsed) :
    idealNextBaseFee gasLimit gasUsed target baseFee
      = baseFee + max (idealDelta baseFee (gasUsed - target) gasLimit) 1 := by
  rw [idealNextBaseFee, if_neg (by omega), if_pos h]

lemma idealNextBaseFee_self (gasLimit target baseFee : ℕ) :
    idealNextBaseFee gasLimit target target baseFee = baseFee := if_pos rfl

/-- More gas against the same or a lower target never lowers the fee. -/
lemma idealNextBaseFee_mono {gasLimit baseFee gasUsed gasUsed' target target' : ℕ}
    (hused : gasUsed ≤ gasUsed') (htarget : target' ≤ target) :
    idealNextBaseFee gasLimit gasUsed target baseFee
      ≤ idealNextBaseFee gasLimit gasUsed' target' baseFee := by
  rcases lt_trichotomy gasUsed target with hlt | heq | hgt
  · rw [idealNextBaseFee_of_lt baseFee hlt]
    rcases lt_trichotomy gasUsed' target' with hlt' | heq' | hgt'
    · rw [idealNextBaseFee_of_lt baseFee hlt']
      exact Nat.sub_le_sub_left (idealDelta_mono_delta (by omega)) _
    · rw [heq', idealNextBaseFee_self]
      exact Nat.sub_le _ _
    · rw [idealNextBaseFee_of_gt baseFee hgt']
      omega
  · subst heq
    rw [idealNextBaseFee_self]
    rcases Nat.eq_or_lt_of_le (htarget.trans hused) with heq' | hgt'
    · rw [heq', idealNextBaseFee_self]
    · rw [idealNextBaseFee_of_gt baseFee hgt']
      omega
  · have hgt' : target' < gasUsed' := by omega
    rw [idealNextBaseFee_of_gt baseFee hgt, idealNextBaseFee_of_gt baseFee hgt']
    exact Nat.add_le_add_left (max_le_max_right _ (idealDelta_mono_delta (by omega))) _

/-- A higher parent fee never lowers the fee. -/
lemma idealNextBaseFee_mono_baseFee {gasLimit gasUsed target baseFee baseFee' : ℕ}
    (hlimit : 2 ≤ gasLimit) (htarget : target ≤ gasLimit) (h : baseFee ≤ baseFee') :
    idealNextBaseFee gasLimit gasUsed target baseFee
      ≤ idealNextBaseFee gasLimit gasUsed target baseFee' := by
  rcases lt_trichotomy gasUsed target with hlt | heq | hgt
  · -- the fee drops by at most what it was raised by
    obtain ⟨k, rfl⟩ := Nat.exists_eq_add_of_le h
    have hadd := idealDelta_add_le baseFee k hlimit (by omega : target - gasUsed ≤ gasLimit)
    rw [idealNextBaseFee_of_lt _ hlt, idealNextBaseFee_of_lt _ hlt]
    omega
  · rw [heq, idealNextBaseFee_self, idealNextBaseFee_self]
    exact h
  · rw [idealNextBaseFee_of_gt _ hgt, idealNextBaseFee_of_gt _ hgt]
    exact Nat.add_le_add h (max_le_max_right _ (idealDelta_mono_baseFee h))

/-! ### The computed fee -/

section Laws

variable {parent : Header} {blockTime baseFee minFee : U64}

/-- The fee after a parent that is not the genesis block moves with the rule. -/
lemma eip4396BaseFee_mono {parent parent' : Header} {time time' fee fee' minFee : ℕ}
    (hnumber : parent.number ≠ 0) (hnumber' : parent'.number ≠ 0)
    (h : idealNextBaseFee parent.gasLimit.toNat parent.gasUsed.toNat
        (idealGasTarget parent.gasLimit.toNat time) fee
      ≤ idealNextBaseFee parent'.gasLimit.toNat parent'.gasUsed.toNat
        (idealGasTarget parent'.gasLimit.toNat time') fee') :
    eip4396BaseFee parent time fee minFee ≤ eip4396BaseFee parent' time' fee' minFee := by
  rw [eip4396BaseFee, eip4396BaseFee, if_neg hnumber, if_neg hnumber']
  exact max_le_max_left _ (min_le_min_left _ h)

/-- For a parent that is not the genesis block, has room for two gas and did not use more
than it had, wherever the two products of the gas target fit: every build computes the
target, the fee before the clamp and the fee, and they are those of the exact rule over
the integers, the fee before the clamp up to the range of 64 bits.  The fee does not fall
with the gas used, does not rise with the time of the parent, and does not fall with the
fee of the parent.  At the target it is the parent's, clamped; above the target the fee
before the clamp is strictly above the parent's, unless it is the last 64-bit one; below
the target it is never above. -/
theorem calculateNextBlock_laws (checks : OverflowChecks) (hnumber : 1 ≤ parent.number.toNat)
    (hlimit : 2 ≤ parent.gasLimit.toNat) (hused : parent.gasUsed.toNat ≤ parent.gasLimit.toNat)
    (hmin : minFee = minBaseFee ∨ minFee = mainnetMinBaseFee)
    (htimed : parent.gasLimit.toNat / 2 * blockTime.toNat < 2 ^ 64)
    (hcapped : parent.gasLimit.toNat * 95 < 2 ^ 64) :
    ∃ target next fee,
      parentAdjustedGasTarget checks parent.gasLimit blockTime = .ok target ∧
      nextBaseFee checks parent.gasLimit parent.gasUsed target baseFee = .ok next ∧
      calculateNextBlockEip4396BaseFee checks parent blockTime baseFee minFee = .ok fee ∧
      (target.toNat : ℤ) = exactGasTarget parent.gasLimit.toNat blockTime.toNat ∧
      (next.toNat : ℤ) = min (2 ^ 64 - 1) (exactNextBaseFee parent.gasLimit.toNat
        parent.gasUsed.toNat target.toNat baseFee.toNat) ∧
      (fee.toNat : ℤ) = exactBaseFee parent.gasLimit.toNat parent.gasUsed.toNat blockTime.toNat
        baseFee.toNat minFee.toNat ∧
      (∀ gasUsed : U64, parent.gasUsed.toNat ≤ gasUsed.toNat →
        gasUsed.toNat ≤ parent.gasLimit.toNat →
        ∃ fee', calculateNextBlockEip4396BaseFee checks { parent with gasUsed := gasUsed }
          blockTime baseFee minFee = .ok fee' ∧ fee.toNat ≤ fee'.toNat) ∧
      (∀ blockTime' : U64, blockTime.toNat ≤ blockTime'.toNat →
        parent.gasLimit.toNat / 2 * blockTime'.toNat < 2 ^ 64 →
        ∃ fee', calculateNextBlockEip4396BaseFee checks parent blockTime' baseFee minFee
          = .ok fee' ∧ fee'.toNat ≤ fee.toNat) ∧
      (∀ baseFee' : U64, baseFee.toNat ≤ baseFee'.toNat →
        ∃ fee', calculateNextBlockEip4396BaseFee checks parent blockTime baseFee' minFee
          = .ok fee' ∧ fee.toNat ≤ fee'.toNat) ∧
      (parent.gasUsed = target →
        fee.toNat = max minFee.toNat (min maxBaseFee.toNat baseFee.toNat)) ∧
      (target.toNat < parent.gasUsed.toNat →
        baseFee.toNat < next.toNat ∨ next.toNat = 2 ^ 64 - 1) ∧
      (parent.gasUsed.toNat < target.toNat → next.toNat ≤ baseFee.toNat) := by
  have hgenesis : parent.number ≠ 0 := by
    intro h
    rw [h] at hnumber
    exact absurd hnumber (by decide)
  have hmin : minFee.toNat ≤ maxBaseFee.toNat := by
    rcases hmin with rfl | rfl <;> decide
  have hfits : ∀ gasUsed time, parent.gasLimit.toNat / 2 * time < 2 ^ 64 →
      TargetFits parent.gasLimit.toNat gasUsed time :=
    fun _ _ htime => ⟨htime, hcapped, by omega⟩
  -- the target, the fee before the clamp and the fee, each as the rule over ℕ gives it
  obtain ⟨target, htarget, htargetNat⟩ :=
    parentAdjustedGasTarget_eq_ok checks htimed hcapped
  have htargetLe : target.toNat ≤ parent.gasLimit.toNat := by
    rw [htargetNat]
    exact idealGasTarget_le _ _
  obtain ⟨next, hnext, hnextNat⟩ := nextBaseFee_eq_ok checks baseFee hused htargetLe
    (.inr (by omega))
  obtain ⟨fee, hfee, hfeeNat⟩ := calculateNextBlock_eq checks hused hmin baseFee
    (.inr (hfits _ _ htimed))
  have hexact := exactNextBaseFee_eq baseFee.toNat hlimit hused htargetLe
  have hfeeEq : fee.toNat = max minFee.toNat (min maxBaseFee.toNat
      (idealNextBaseFee parent.gasLimit.toNat parent.gasUsed.toNat target.toNat
        baseFee.toNat)) := by
    rw [hfeeNat, eip4396BaseFee, if_neg hgenesis, htargetNat]
  refine ⟨target, next, fee, htarget, hnext, hfee, ?_, ?_, ?_, ?_, ?_, ?_, ?_, ?_, ?_⟩
  -- that rule is the exact one
  · rw [exactGasTarget_eq, htargetNat]
  · rw [hexact, hnextNat]
    push_cast
    rfl
  · rw [exactBaseFee, exactGasTarget_eq, ← htargetNat, hexact, hfeeEq]
    push_cast
    rfl
  -- monotone in the gas used, the time and the fee of the parent
  · intro gasUsed hle hgas
    obtain ⟨fee', hfee', hfeeNat'⟩ := calculateNextBlock_eq checks
      (show ({ parent with gasUsed := gasUsed } : Header).gasUsed.toNat ≤ _ from hgas) hmin
      baseFee (.inr (hfits _ _ htimed))
    refine ⟨fee', hfee', ?_⟩
    rw [hfeeNat, hfeeNat']
    exact eip4396BaseFee_mono hgenesis hgenesis (idealNextBaseFee_mono hle le_rfl)
  · intro blockTime' hle htimed'
    obtain ⟨fee', hfee', hfeeNat'⟩ := calculateNextBlock_eq checks hused hmin baseFee
      (.inr (hfits _ _ htimed'))
    refine ⟨fee', hfee', ?_⟩
    rw [hfeeNat, hfeeNat']
    exact eip4396BaseFee_mono hgenesis hgenesis
      (idealNextBaseFee_mono le_rfl (idealGasTarget_mono hle))
  · intro baseFee' hle
    obtain ⟨fee', hfee', hfeeNat'⟩ := calculateNextBlock_eq checks hused hmin baseFee'
      (.inr (hfits _ _ htimed))
    refine ⟨fee', hfee', ?_⟩
    rw [hfeeNat, hfeeNat']
    exact eip4396BaseFee_mono hgenesis hgenesis
      (idealNextBaseFee_mono_baseFee hlimit (idealGasTarget_le _ _) hle)
  -- at, above and below the target
  · intro heq
    rw [hfeeEq, heq, idealNextBaseFee_self]
  · intro hlt
    rw [hnextNat, idealNextBaseFee_of_gt _ hlt]
    omega
  · intro hlt
    rw [hnextNat, idealNextBaseFee_of_lt _ hlt]
    omega

end Laws

/-- A parent two thirds full, and a fuller one. -/
theorem calculateNextBlock_laws_plainParent :
    ∃ fee fee' : U64,
      calculateNextBlockEip4396BaseFee .on (plainParent 30000000 20000000) 2 25000000
        mainnetMinBaseFee = .ok fee ∧
      (fee.toNat : ℤ) = exactBaseFee 30000000 20000000 2 25000000 10000000 ∧
      calculateNextBlockEip4396BaseFee .on (plainParent 30000000 25000000) 2 25000000
        mainnetMinBaseFee = .ok fee' ∧ fee.toNat ≤ fee'.toNat := by
  obtain ⟨-, -, fee, -, -, hfee, -, -, hexact, hgas, -⟩ :=
    @calculateNextBlock_laws (plainParent 30000000 20000000) 2 25000000 mainnetMinBaseFee .on
      (by decide) (by decide) (by decide) (.inr rfl) (by decide) (by decide)
  obtain ⟨fee', hfee', hle⟩ := hgas 25000000 (by decide) (by decide)
  exact ⟨fee, fee', hfee, hexact, hfee', hle⟩

end AlethiaReth
