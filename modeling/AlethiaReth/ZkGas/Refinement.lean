import AlethiaReth.ZkGas.Meter

/-!
The machine meter refines an ideal budget over the naturals: every sequence of operations of a new
meter answers as the ideal one (`run_refines`).
-/

namespace AlethiaReth

open MachineInt Run

namespace ZkGasMeter

variable {schedule : ZkGasSchedule} {m : ZkGasMeter} {b : Budget schedule.blockLimit.toNat}

/-- An attempt on the budget: the new budget, or the old one and the failure. -/
def attempt {limit : ℕ} (b : Budget limit) :
    Option (Budget limit) → Except ZkGasOutcome Unit × Budget limit
  | some b' => (.ok (), b')
  | none => (.error .limitExceeded, b)

/-- The ideal meter: exact products against an unbounded budget. -/
def idealApply (schedule : ZkGasSchedule) (b : Budget schedule.blockLimit.toNat) (op : Op) :
    Except ZkGasOutcome Unit × Budget schedule.blockLimit.toNat :=
  match op with
  | .resetTransaction => (.ok (), b.discard)
  | .commitTransaction => (.ok (), b.settle)
  | .reserveBlockBudget amount => attempt b (b.reserve amount.toNat)
  | .chargeOpcode opcode rawGas =>
    attempt b (b.charge (rawGas.toNat * (schedule.opcodeMultipliers opcode).toNat))
  | .chargeSpawnOpcode opcode =>
    attempt b (b.charge ((spawnEstimate schedule opcode).toNat *
      (schedule.opcodeMultipliers opcode.val).toNat))
  | .chargePrecompile address gasUsed =>
    attempt b (b.charge (gasUsed.toNat * (schedule.precompileMultiplier address).toNat))
  | .chargeTxIntrinsic => attempt b (b.charge schedule.txIntrinsicZkGas.toNat)

/-- A meter and a budget show the same counts. -/
structure Meters (m : ZkGasMeter) (b : Budget schedule.blockLimit.toNat) : Prop where
  schedule_eq : m.schedule = schedule
  block_eq : m.blockZkGasUsed.toNat = b.settled
  tx_eq : m.txZkGasUsed.toNat = b.pending
  remaining_eq : m.remainingZkGas.toNat = b.remaining

lemma Meters.balanced (h : Meters m b) : Balanced m := by
  have hsum := b.settled_add_pending_add_remaining
  rw [Balanced, h.schedule_eq, h.block_eq, h.tx_eq, h.remaining_eq, hsum]

lemma meters_new (schedule : ZkGasSchedule) :
    Meters (new schedule) (Budget.empty schedule.blockLimit.toNat) where
  schedule_eq := rfl
  block_eq := rfl
  tx_eq := rfl
  remaining_eq := by simp [new, Budget.empty, Budget.remaining]

/-! ### One operation -/

/-- What one operation refines: the same answer, and the relation kept. -/
def Refines (a : Answer) (i : Except ZkGasOutcome Unit × Budget schedule.blockLimit.toNat) : Prop :=
  a.1 = i.1 ∧ Meters a.2 i.2

lemma chargeAmount_refines (h : Meters m b) (charge : U64) :
    Refines (m.chargeAmount charge) (attempt b (b.charge charge.toNat)) := by
  have hbal := h.balanced
  by_cases hle : charge.toNat ≤ b.remaining
  · have hrem : charge.toNat ≤ m.remainingZkGas.toNat := by rw [h.remaining_eq]; exact hle
    have htx : (m.txZkGasUsed + charge).toNat = m.txZkGasUsed.toNat + charge.toNat := by
      have hlimit := m.schedule.blockLimit.isLt
      unfold Balanced at hbal
      exact BitVec.toNat_add_of_lt (by omega)
    rw [chargeAmount_of_le hbal hrem, Budget.charge, dif_pos hle]
    refine ⟨rfl, h.schedule_eq, h.block_eq, ?_, ?_⟩
    · change (m.txZkGasUsed + charge).toNat = b.pending + charge.toNat
      rw [htx, h.tx_eq]
    · change (m.remainingZkGas - charge).toNat
        = _ - b.settled - (b.pending + charge.toNat)
      rw [BitVec.toNat_sub_of_le (BitVec.le_def.mpr hrem), h.remaining_eq, Budget.remaining]
      omega
  · rw [chargeAmount_of_lt (by rw [h.remaining_eq]; omega), Budget.charge, dif_neg hle]
    exact ⟨rfl, h⟩

lemma chargeScaled_refines (h : Meters m b) (rawGas : U64) (multiplier : U16) :
    Refines (m.chargeScaled rawGas multiplier)
      (attempt b (b.charge (rawGas.toNat * multiplier.toNat))) := by
  by_cases hle : rawGas.toNat * multiplier.toNat ≤ m.remainingZkGas.toNat
  · obtain ⟨charge, hcharge, heq⟩ := chargeScaled_of_le hle
    rw [heq, ← hcharge]
    exact chargeAmount_refines h charge
  · rw [chargeScaled_of_lt (by omega), Budget.charge,
      dif_neg (by rw [← h.remaining_eq]; exact hle)]
    exact ⟨rfl, h⟩

lemma resetTransaction_refines (h : Meters m b) : Meters m.resetTransaction b.discard where
  schedule_eq := h.schedule_eq
  block_eq := h.block_eq
  tx_eq := rfl
  remaining_eq := by
    simp only [resetTransaction, toNat_saturatingSub, Budget.remaining, Budget.discard,
      h.block_eq, h.schedule_eq]
    omega

lemma commitTransaction_refines (h : Meters m b) :
    Refines m.commitTransaction (.ok (), b.settle) := by
  have hbal := h.balanced
  rw [commitTransaction_of_balanced hbal]
  refine ⟨rfl, h.schedule_eq, ?_, rfl, ?_⟩
  · have hlimit := m.schedule.blockLimit.isLt
    unfold Balanced at hbal
    change (m.blockZkGasUsed + m.txZkGasUsed).toNat = b.settled + b.pending
    rw [BitVec.toNat_add_of_lt (by omega), h.block_eq, h.tx_eq]
  · change m.remainingZkGas.toNat = _ - (b.settled + b.pending) - 0
    rw [h.remaining_eq, Budget.remaining]
    omega

lemma reserveBlockBudget_refines (h : Meters m b) (amount : U64) :
    Refines (m.reserveBlockBudget amount) (attempt b (b.reserve amount.toNat)) := by
  have hbal := h.balanced
  by_cases hle : amount.toNat ≤ b.remaining
  · have hrem : amount.toNat ≤ m.remainingZkGas.toNat := by rw [h.remaining_eq]; exact hle
    rw [reserveBlockBudget_of_le hbal hrem, Budget.reserve, dif_pos hle]
    refine ⟨rfl, h.schedule_eq, ?_, h.tx_eq, ?_⟩
    · have hlimit := m.schedule.blockLimit.isLt
      unfold Balanced at hbal
      change (m.blockZkGasUsed + amount).toNat = b.settled + amount.toNat
      rw [BitVec.toNat_add_of_lt (by omega), h.block_eq]
    · change (m.remainingZkGas - amount).toNat = _ - (b.settled + amount.toNat) - b.pending
      rw [BitVec.toNat_sub_of_le (BitVec.le_def.mpr hrem), h.remaining_eq, Budget.remaining]
      omega
  · rw [reserveBlockBudget_of_lt (by rw [h.remaining_eq]; omega), Budget.reserve, dif_neg hle]
    exact ⟨rfl, h⟩

/-- Every operation of the machine meter is the operation of the ideal one. -/
theorem apply_refines (h : Meters m b) (op : Op) :
    Refines (m.apply op) (idealApply schedule b op) := by
  cases op with
  | chargeOpcode opcode rawGas =>
    simp only [apply, chargeOpcode, idealApply, h.schedule_eq]
    exact chargeScaled_refines h _ _
  | chargeSpawnOpcode opcode =>
    simp only [apply, chargeSpawnOpcode, chargeOpcode, idealApply, h.schedule_eq]
    exact chargeScaled_refines h _ _
  | chargePrecompile address gasUsed =>
    simp only [apply, chargePrecompile, idealApply, h.schedule_eq]
    exact chargeScaled_refines h _ _
  | chargeTxIntrinsic =>
    simp only [apply, chargeTxIntrinsic, idealApply, h.schedule_eq]
    exact chargeAmount_refines h _
  | resetTransaction => exact ⟨rfl, resetTransaction_refines h⟩
  | commitTransaction => exact commitTransaction_refines h
  | reserveBlockBudget amount => exact reserveBlockBudget_refines h amount

/-- Every run of a new meter answers as the ideal run and ends at its counts. -/
theorem run_refines (schedule : ZkGasSchedule) (ops : List Op) :
    (Run.run apply (new schedule) ops).1
        = (Run.run (idealApply schedule) (Budget.empty schedule.blockLimit.toNat) ops).1 ∧
      Meters (Run.run apply (new schedule) ops).2
        (Run.run (idealApply schedule) (Budget.empty schedule.blockLimit.toNat) ops).2 :=
  run_simulation Meters (fun _ _ op h => apply_refines h op) ops (meters_new schedule)

/-! ### Success and failure of one operation -/

/-- Every charge of the ideal meter is one attempt at its exact amount. -/
lemma idealApply_of_charge {op : Op} {charge : ℕ} (h : op.charge? schedule = some charge) :
    idealApply schedule b op = attempt b (b.charge charge) := by
  cases op with
  | chargeOpcode opcode rawGas => cases h; rfl
  | chargeSpawnOpcode opcode => cases h; rfl
  | chargePrecompile address gasUsed => cases h; rfl
  | chargeTxIntrinsic => cases h; rfl
  | resetTransaction => cases h
  | commitTransaction => cases h
  | reserveBlockBudget amount => cases h

/-- A charge succeeds exactly when its amount still fits. -/
lemma apply_charge_ok_iff (h : Meters m b) {op : Op} {charge : ℕ}
    (hcharge : op.charge? schedule = some charge) :
    (m.apply op).1 = .ok () ↔
      charge ≤ schedule.blockLimit.toNat - m.blockZkGasUsed.toNat - m.txZkGasUsed.toNat := by
  rw [(apply_refines h op).1, idealApply_of_charge hcharge, h.block_eq, h.tx_eq, Budget.charge]
  change _ ↔ charge ≤ b.remaining
  split
  · next hle => exact ⟨fun _ => hle, fun _ => rfl⟩
  · next hgt =>
    refine ⟨fun hok => ?_, fun hle => absurd hle hgt⟩
    cases hok

/-- An answer that succeeds, or leaves the meter as it was. -/
def OkOrSame (m : ZkGasMeter) (a : Answer) : Prop := a.1 = .ok () ∨ a.2 = m

lemma chargeAmount_okOrSame (m : ZkGasMeter) (charge : U64) :
    OkOrSame m (m.chargeAmount charge) := by
  rw [chargeAmount]
  split
  · exact .inr rfl
  · cases checkedAdd m.txZkGasUsed charge with
    | none => exact .inr rfl
    | some nextTx => exact .inl rfl

lemma chargeScaled_okOrSame (m : ZkGasMeter) (rawGas : U64) (multiplier : U16) :
    OkOrSame m (m.chargeScaled rawGas multiplier) := by
  rw [chargeScaled]
  cases checkedMul rawGas (multiplier.setWidth 64) with
  | none => exact .inr rfl
  | some charge => exact chargeAmount_okOrSame m charge

/-- An operation that fails has no effect. -/
lemma apply_okOrSame (m : ZkGasMeter) (op : Op) : OkOrSame m (m.apply op) := by
  cases op with
  | chargeOpcode opcode rawGas => exact chargeScaled_okOrSame m _ _
  | chargeSpawnOpcode opcode => exact chargeScaled_okOrSame m _ _
  | chargePrecompile address gasUsed => exact chargeScaled_okOrSame m _ _
  | chargeTxIntrinsic => exact chargeAmount_okOrSame m _
  | resetTransaction => exact .inl rfl
  | commitTransaction =>
    rw [apply, commitTransaction]
    split
    · exact .inr rfl
    · split
      · exact .inr rfl
      · exact .inl rfl
  | reserveBlockBudget amount =>
    rw [apply, reserveBlockBudget]
    split
    · exact .inr rfl
    · split
      · exact .inr rfl
      · exact .inl rfl

end ZkGasMeter

end AlethiaReth
