import AlethiaReth.Lib.Budget
import AlethiaReth.Lib.Run
import AlethiaReth.ZkGas.Schedule

/-!
The checked zk gas meter of one block: three machine counters that an ideal
budget over the naturals explains.
-/

namespace AlethiaReth

open MachineInt

/-- What a charge beyond the budget answers. -/
inductive ZkGasOutcome where
  | limitExceeded
  deriving DecidableEq, Repr

/-- The zk gas accounting of one block: finalized, in flight, and remaining. -/
structure ZkGasMeter where
  schedule : ZkGasSchedule
  blockZkGasUsed : U64
  txZkGasUsed : U64
  remainingZkGas : U64

namespace ZkGasMeter

variable (schedule : ZkGasSchedule) (m : ZkGasMeter)

/-- The answer of an operation, and the meter it leaves. -/
abbrev Answer := Except ZkGasOutcome Unit × ZkGasMeter

/-- A meter that has counted nothing. -/
def new : ZkGasMeter where
  schedule := schedule
  blockZkGasUsed := 0
  txZkGasUsed := 0
  remainingZkGas := schedule.blockLimit

/-- Drops the in-flight zk gas. -/
def resetTransaction : ZkGasMeter :=
  { m with
    txZkGasUsed := 0
    remainingZkGas := saturatingSub m.schedule.blockLimit m.blockZkGasUsed }

/-- Promotes the in-flight zk gas into the finalized total. -/
def commitTransaction : Answer :=
  match checkedAdd m.blockZkGasUsed m.txZkGasUsed with
  | none => (.error .limitExceeded, m)
  | some nextBlock =>
    if nextBlock > m.schedule.blockLimit then
      (.error .limitExceeded, m)
    else
      (.ok (), { m with blockZkGasUsed := nextBlock, txZkGasUsed := 0 })

/-- Finalizes `amount` without touching the transaction in flight. -/
def reserveBlockBudget (amount : U64) : Answer :=
  match checkedAdd m.blockZkGasUsed amount with
  | none => (.error .limitExceeded, m)
  | some nextBlock =>
    if nextBlock > m.schedule.blockLimit ∨ amount > m.remainingZkGas then
      (.error .limitExceeded, m)
    else
      (.ok (), { m with
        blockZkGasUsed := nextBlock
        remainingZkGas := m.remainingZkGas - amount })

/-- The current transaction does not fit. -/
def commitWouldExceedBlockLimit : Bool :=
  match checkedAdd m.blockZkGasUsed m.txZkGasUsed with
  | some nextBlock => nextBlock > m.schedule.blockLimit
  | none => true

/-- Whether the budget left after finalized usage pays one more intrinsic charge. -/
def canFitTxIntrinsic : Bool :=
  saturatingSub m.schedule.blockLimit m.blockZkGasUsed ≥ m.schedule.txIntrinsicZkGas

/-- Charges an amount that fits. -/
def chargeAmount (charge : U64) : Answer :=
  if charge > m.remainingZkGas then
    (.error .limitExceeded, m)
  else
    match checkedAdd m.txZkGasUsed charge with
    | none => (.error .limitExceeded, m)
    | some nextTx =>
      (.ok (), { m with
        txZkGasUsed := nextTx
        remainingZkGas := m.remainingZkGas - charge })

/-- Charges `rawGas` scaled by a multiplier of the schedule. -/
def chargeScaled (rawGas : U64) (multiplier : U16) : Answer :=
  match checkedMul rawGas (multiplier.setWidth 64) with
  | none => (.error .limitExceeded, m)
  | some charge => m.chargeAmount charge

/-- Charges an opcode. -/
def chargeOpcode (opcode : U8) (rawGas : U64) : Answer :=
  m.chargeScaled rawGas (m.schedule.opcodeMultipliers opcode)

/-- Charges an opcode that opens a frame, by estimate. -/
def chargeSpawnOpcode (opcode : SpawnOpcode) : Answer :=
  m.chargeOpcode opcode.val (spawnEstimate m.schedule opcode)

/-- Charges a precompile. -/
def chargePrecompile (address : Address) (gasUsed : U64) : Answer :=
  m.chargeScaled gasUsed (m.schedule.precompileMultiplier address)

/-- Charges a transaction for being there. -/
def chargeTxIntrinsic : Answer :=
  m.chargeAmount m.schedule.txIntrinsicZkGas

/-! ### Operations as data -/

/-- The operations of the meter with their arguments. -/
inductive Op where
  | chargeOpcode (opcode : U8) (rawGas : U64)
  | chargeSpawnOpcode (opcode : SpawnOpcode)
  | chargePrecompile (address : Address) (gasUsed : U64)
  | chargeTxIntrinsic
  | resetTransaction
  | commitTransaction
  | reserveBlockBudget (amount : U64)

/-- One operation. -/
def apply : Op → Answer
  | .chargeOpcode opcode rawGas => m.chargeOpcode opcode rawGas
  | .chargeSpawnOpcode opcode => m.chargeSpawnOpcode opcode
  | .chargePrecompile address gasUsed => m.chargePrecompile address gasUsed
  | .chargeTxIntrinsic => m.chargeTxIntrinsic
  | .resetTransaction => (.ok (), m.resetTransaction)
  | .commitTransaction => m.commitTransaction
  | .reserveBlockBudget amount => m.reserveBlockBudget amount

/-- The exact zk gas an operation charges to the transaction in flight, none for
the operations that are no charge. -/
def Op.charge? : Op → Option ℕ
  | .chargeOpcode opcode rawGas =>
    some (rawGas.toNat * (schedule.opcodeMultipliers opcode).toNat)
  | .chargeSpawnOpcode opcode =>
    some ((spawnEstimate schedule opcode).toNat * (schedule.opcodeMultipliers opcode.val).toNat)
  | .chargePrecompile address gasUsed =>
    some (gasUsed.toNat * (schedule.precompileMultiplier address).toNat)
  | .chargeTxIntrinsic => some schedule.txIntrinsicZkGas.toNat
  | .resetTransaction => none
  | .commitTransaction => none
  | .reserveBlockBudget _ => none

/-! ### The invariant of the three counters -/

/-- The three counters make up the block limit. -/
def Balanced : Prop :=
  m.blockZkGasUsed.toNat + m.txZkGasUsed.toNat + m.remainingZkGas.toNat
    = m.schedule.blockLimit.toNat

lemma balanced_new : Balanced (new schedule) := by
  simp [Balanced, new]

/-- With the counters balanced the checks of a charge are one check. -/
lemma chargeAmount_of_le {m : ZkGasMeter} (h : Balanced m) {charge : U64}
    (hle : charge.toNat ≤ m.remainingZkGas.toNat) :
    m.chargeAmount charge = (.ok (), { m with
      txZkGasUsed := m.txZkGasUsed + charge
      remainingZkGas := m.remainingZkGas - charge }) := by
  have hlimit := m.schedule.blockLimit.isLt
  have hfit : m.txZkGasUsed.toNat + charge.toNat < 2 ^ 64 := by
    unfold Balanced at h
    omega
  have hadd : checkedAdd m.txZkGasUsed charge = some (m.txZkGasUsed + charge) := if_pos hfit
  rw [chargeAmount, if_neg (by rw [gt_iff_lt, BitVec.lt_def]; omega), hadd]

lemma chargeAmount_of_lt {m : ZkGasMeter} {charge : U64}
    (hlt : m.remainingZkGas.toNat < charge.toNat) :
    m.chargeAmount charge = (.error .limitExceeded, m) := by
  rw [chargeAmount, if_pos (by rw [gt_iff_lt, BitVec.lt_def]; exact hlt)]

/-- A product that leaves the machine range is beyond every budget, so scaling
never rejects a charge that would have fitted. -/
lemma chargeScaled_of_lt {m : ZkGasMeter} {rawGas : U64} {multiplier : U16}
    (hlt : m.remainingZkGas.toNat < rawGas.toNat * multiplier.toNat) :
    m.chargeScaled rawGas multiplier = (.error .limitExceeded, m) := by
  unfold chargeScaled
  have hwidth : (multiplier.setWidth 64).toNat = multiplier.toNat :=
    BitVec.toNat_setWidth_of_le (by omega)
  cases hmul : checkedMul rawGas (multiplier.setWidth 64) with
  | none => rfl
  | some charge =>
    rw [checkedMul_eq_some, hwidth] at hmul
    exact chargeAmount_of_lt (by omega)

lemma chargeScaled_of_le {m : ZkGasMeter} {rawGas : U64} {multiplier : U16}
    (hle : rawGas.toNat * multiplier.toNat ≤ m.remainingZkGas.toNat) :
    ∃ charge : U64, charge.toNat = rawGas.toNat * multiplier.toNat ∧
      m.chargeScaled rawGas multiplier = m.chargeAmount charge := by
  have hwidth : (multiplier.setWidth 64).toNat = multiplier.toNat :=
    BitVec.toNat_setWidth_of_le (by omega)
  unfold chargeScaled
  cases hmul : checkedMul rawGas (multiplier.setWidth 64) with
  | none =>
    rw [checkedMul_eq_none, hwidth] at hmul
    have hrem := m.remainingZkGas.isLt
    omega
  | some charge =>
    rw [checkedMul_eq_some, hwidth] at hmul
    exact ⟨charge, hmul, rfl⟩

/-- A commit of balanced counters never meets the limit. -/
lemma commitTransaction_of_balanced {m : ZkGasMeter} (h : Balanced m) :
    m.commitTransaction = (.ok (), { m with
      blockZkGasUsed := m.blockZkGasUsed + m.txZkGasUsed
      txZkGasUsed := 0 }) := by
  have hlimit := m.schedule.blockLimit.isLt
  unfold Balanced at h
  have hfit : m.blockZkGasUsed.toNat + m.txZkGasUsed.toNat < 2 ^ 64 := by omega
  have hadd : checkedAdd m.blockZkGasUsed m.txZkGasUsed
      = some (m.blockZkGasUsed + m.txZkGasUsed) := if_pos hfit
  have hle : ¬ m.blockZkGasUsed + m.txZkGasUsed > m.schedule.blockLimit := by
    rw [gt_iff_lt, BitVec.lt_def, BitVec.toNat_add_of_lt hfit]
    omega
  simp only [commitTransaction, hadd, if_neg hle]

lemma commitWouldExceedBlockLimit_of_balanced {m : ZkGasMeter} (h : Balanced m) :
    m.commitWouldExceedBlockLimit = false := by
  have hlimit := m.schedule.blockLimit.isLt
  unfold Balanced at h
  have hfit : m.blockZkGasUsed.toNat + m.txZkGasUsed.toNat < 2 ^ 64 := by omega
  have hadd : checkedAdd m.blockZkGasUsed m.txZkGasUsed
      = some (m.blockZkGasUsed + m.txZkGasUsed) := if_pos hfit
  simp only [commitWouldExceedBlockLimit, hadd, decide_eq_false_iff_not, gt_iff_lt, BitVec.lt_def,
    BitVec.toNat_add_of_lt hfit]
  omega

lemma reserveBlockBudget_of_le {m : ZkGasMeter} (h : Balanced m) {amount : U64}
    (hle : amount.toNat ≤ m.remainingZkGas.toNat) :
    m.reserveBlockBudget amount = (.ok (), { m with
      blockZkGasUsed := m.blockZkGasUsed + amount
      remainingZkGas := m.remainingZkGas - amount }) := by
  have hlimit := m.schedule.blockLimit.isLt
  unfold Balanced at h
  have hfit : m.blockZkGasUsed.toNat + amount.toNat < 2 ^ 64 := by omega
  have hadd : checkedAdd m.blockZkGasUsed amount = some (m.blockZkGasUsed + amount) :=
    if_pos hfit
  have hchecks : ¬ (m.blockZkGasUsed + amount > m.schedule.blockLimit ∨
      amount > m.remainingZkGas) := by
    simp only [gt_iff_lt, BitVec.lt_def, BitVec.toNat_add_of_lt hfit]
    omega
  simp only [reserveBlockBudget, hadd, if_neg hchecks]

lemma reserveBlockBudget_of_lt {m : ZkGasMeter} {amount : U64}
    (hlt : m.remainingZkGas.toNat < amount.toNat) :
    m.reserveBlockBudget amount = (.error .limitExceeded, m) := by
  unfold reserveBlockBudget
  cases checkedAdd m.blockZkGasUsed amount with
  | none => rfl
  | some nextBlock => exact if_pos (Or.inr hlt)

end ZkGasMeter

end AlethiaReth
