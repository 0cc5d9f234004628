import AlethiaReth.Evm.Metering
import AlethiaReth.Block.Executor

/-!
The zk gas bracket of a transaction, function by function: what each exit of the executor keeps of
the block so far (`executeTransactionWithoutCommit_spec`), and that the second half of a
transaction never panics and adds exactly the transaction (`commitTransaction_spec`).
-/

namespace AlethiaReth

open MachineInt Outcome

/-! ### Meters between transactions -/

variable {m m' : Option ZkGasMeter}

/-- No meter in either place, or the same schedule and finalized total with the
counters still balanced. -/
def MeterKept : Option ZkGasMeter → Option ZkGasMeter → Prop
  | none, none => True
  | some m, some m' =>
    m'.schedule = m.schedule ∧ m'.blockZkGasUsed = m.blockZkGasUsed ∧
      (m.Balanced → m'.Balanced)
  | _, _ => False

@[simp] lemma MeterKept.refl (m : Option ZkGasMeter) : MeterKept m m := by
  cases m with
  | none => trivial
  | some m => exact ⟨rfl, rfl, id⟩

lemma MeterKept.trans {m₁ m₂ m₃ : Option ZkGasMeter} (h : MeterKept m₁ m₂)
    (h' : MeterKept m₂ m₃) : MeterKept m₁ m₃ := by
  cases m₁ <;> cases m₂ <;> cases m₃ <;> simp_all [MeterKept]

lemma MeterKept.schedule_eq (h : MeterKept m m') :
    m'.map (·.schedule) = m.map (·.schedule) := by
  cases m with
  | none =>
    cases m' with
    | none => rfl
    | some m' => exact h.elim
  | some m =>
    cases m' with
    | none => exact h.elim
    | some m' => exact congrArg some h.1

/-- A kept meter was there before, with the same schedule and finalized total. -/
lemma MeterKept.exists_of_some {m' : ZkGasMeter} (h : MeterKept m (some m')) :
    ∃ m₀, m = some m₀ ∧ m'.schedule = m₀.schedule ∧
      m'.blockZkGasUsed = m₀.blockZkGasUsed ∧ (m₀.Balanced → m'.Balanced) := by
  cases m with
  | none => exact h.elim
  | some m₀ => exact ⟨m₀, rfl, h.1, h.2.1, h.2.2⟩

lemma OptCharged.kept (h : OptCharged m m') : MeterKept m m' := by
  cases m <;> cases m' <;> simp_all [OptCharged, MeterKept]
  exact ⟨h.schedule_eq, h.block_eq, h.balanced⟩

lemma ZkGasMeter.resetTransaction_balanced {m : ZkGasMeter} (h : m.Balanced) :
    m.resetTransaction.Balanced := by
  rw [Balanced] at h
  change m.blockZkGasUsed.toNat + 0 + (saturatingSub _ _).toNat = m.schedule.blockLimit.toNat
  rw [toNat_saturatingSub]
  omega

lemma MeterKept.map_reset (m : Option ZkGasMeter) :
    MeterKept m (m.map ZkGasMeter.resetTransaction) := by
  cases m with
  | none => trivial
  | some m => exact ⟨rfl, rfl, m.resetTransaction_balanced⟩

/-- The meter after its in-flight total was promoted. -/
def ZkGasMeter.promoted (m : ZkGasMeter) : ZkGasMeter :=
  { m with blockZkGasUsed := m.blockZkGasUsed + m.txZkGasUsed, txZkGasUsed := 0 }

lemma ZkGasMeter.promoted_spec {m : ZkGasMeter} (h : m.Balanced) :
    (promoted m).Balanced ∧
      (promoted m).blockZkGasUsed.toNat = m.blockZkGasUsed.toNat + m.txZkGasUsed.toNat := by
  have hlimit := m.schedule.blockLimit.isLt
  rw [ZkGasMeter.Balanced] at h
  have hsum : (promoted m).blockZkGasUsed.toNat
      = m.blockZkGasUsed.toNat + m.txZkGasUsed.toNat := BitVec.toNat_add_of_lt (by omega)
  refine ⟨?_, hsum⟩
  rw [ZkGasMeter.Balanced, hsum]
  change _ + 0 + m.remainingZkGas.toNat = m.schedule.blockLimit.toNat
  omega

namespace TaikoEvmWrapper

variable (evm : TaikoEvmWrapper) {m : ZkGasMeter} (evm' : TaikoEvmWrapper) {a b c : TaikoEvmWrapper}

@[simp] lemma meter_resetTransactionZkGas :
    evm.resetTransactionZkGas.meter = evm.meter.map ZkGasMeter.resetTransaction := by
  simp only [meter, resetTransactionZkGas]
  cases evm.zkGasMeter <;> cases evm.inspector <;> rfl

lemma meter_setMeter {evm : TaikoEvmWrapper} {m' : ZkGasMeter} (h : evm.meter = some m) :
    (evm.setMeter m').meter = some m' := by
  simp only [meter] at h
  rw [setMeter]
  split
  · simp [meter]
  · next hzk =>
    cases hi : evm.inspector <;> simp_all [meter]

/-- A change of meters leaves the rest of the EVM alone. -/
def SameBut : Prop :=
  evm' = { evm with zkGasMeter := evm'.zkGasMeter, inspector := evm'.inspector }

lemma SameBut.trans (h : SameBut a b) (h' : SameBut b c) :
    SameBut a c := by
  rw [SameBut] at h h' ⊢
  rw [h', h]

lemma setMeter_same (m : ZkGasMeter) : SameBut evm (evm.setMeter m) := by
  rw [SameBut, setMeter]
  split <;> rfl

lemma resetTransactionZkGas_same :
    SameBut evm evm.resetTransactionZkGas := rfl

/-- Whatever the meters of the second EVM hold in flight, a reset brings both EVMs
to the same meters. -/
def SameAtRest : Prop :=
  InspectorTidy evm.inspector → InspectorTidy evm'.inspector ∧
    evm'.zkGasMeter.map ZkGasMeter.resetTransaction
      = evm.zkGasMeter.map ZkGasMeter.resetTransaction ∧
    evm'.inspector.map ZkGasMeteringState.resetTransaction
      = evm.inspector.map ZkGasMeteringState.resetTransaction

lemma SameAtRest.refl : SameAtRest evm evm := fun ht => ⟨ht, rfl, rfl⟩

lemma SameAtRest.trans (h : SameAtRest a b) (h' : SameAtRest b c) :
    SameAtRest a c := by
  intro ht
  obtain ⟨htb, hmeter, hinspector⟩ := h ht
  obtain ⟨htc, hmeter', hinspector'⟩ := h' htb
  exact ⟨htc, hmeter'.trans hmeter, hinspector'.trans hinspector⟩

lemma SameAtRest.of_charged {evm evm' : TaikoEvmWrapper}
    (h : HomesCharged ⟨evm.zkGasMeter, evm.inspector⟩ ⟨evm'.zkGasMeter, evm'.inspector⟩) :
    SameAtRest evm evm' := fun ht =>
  ⟨h.inspected.tidy ht, h.production.map_reset_eq, h.inspected.map_reset_eq ht⟩

lemma setMeter_sameAtRest {evm : TaikoEvmWrapper} {m' : ZkGasMeter} (hm : evm.meter = some m)
    (h : Charged m m') : SameAtRest evm (evm.setMeter m') := by
  refine .of_charged ?_
  simp only [meter] at hm
  cases hzk : evm.zkGasMeter with
  | some m₀ =>
    rw [hzk] at hm
    cases hm
    simp only [setMeter, hzk, Option.isSome_some, if_true]
    exact ⟨h, .refl _⟩
  | none =>
    rw [hzk, Option.none_or] at hm
    obtain ⟨s, hs, rfl⟩ := Option.map_eq_some_iff.mp hm
    simp only [setMeter, hzk, hs, Option.isSome_none, Bool.false_eq_true, if_false]
    exact ⟨trivial, .of_meter h⟩

lemma resetTransactionZkGas_sameAtRest :
    SameAtRest evm evm.resetTransactionZkGas := by
  intro ht
  refine ⟨?_, ?_, ?_⟩
  · intro s hs
    obtain ⟨s₀, hs₀, rfl⟩ := Option.map_eq_some_iff.mp hs
    intro depth _
    rw [ZkGasMeteringState.resetTransaction_of_tidy (ht s₀ hs₀)]
  · cases hm : evm.zkGasMeter <;> simp only [resetTransactionZkGas, hm] <;> rfl
  · cases hs : evm.inspector with
    | none => simp only [resetTransactionZkGas, hs, Option.map_none]
    | some s =>
      have hreset := ZkGasMeteringState.resetTransaction_of_tidy (ht s hs)
      simp only [resetTransactionZkGas, hs, Option.map_some, hreset]
      rw [ZkGasMeteringState.resetTransaction_of_tidy fun _ _ => rfl]
      rfl

/-- An operation on the active meter: its answer, and the meter it leaves. -/
lemma withMeter_of_some {evm : TaikoEvmWrapper} (hm : evm.meter = some m)
    (op : ZkGasMeter → ZkGasMeter.Answer) :
    evm.withMeter op
      = ((op m).1.map fun _ => some (op m).2.blockZkGasUsed, evm.setMeter (op m).2) := by
  simp only [withMeter, hm]
  obtain ⟨answer, m'⟩ := op m
  cases answer <;> rfl

lemma withMeter_of_none {evm : TaikoEvmWrapper} (hm : evm.meter = none)
    (op : ZkGasMeter → ZkGasMeter.Answer) : evm.withMeter op = (.ok none, evm) := by
  rw [withMeter, hm]

/-- A meter operation touches nothing but the meter. -/
lemma withMeter_same (op : ZkGasMeter → ZkGasMeter.Answer) :
    SameBut evm (evm.withMeter op).2 ∧
      (InspectorTidy evm.inspector → InspectorTidy (evm.withMeter op).2.inspector) := by
  cases hm : evm.meter with
  | none => rw [withMeter_of_none hm]; exact ⟨rfl, id⟩
  | some m =>
    rw [withMeter_of_some hm]
    refine ⟨evm.setMeter_same _, fun ht => ?_⟩
    dsimp only [setMeter]
    split
    · exact ht
    · intro s hs
      obtain ⟨s₀, hs₀, rfl⟩ := Option.map_eq_some_iff.mp hs
      exact ht s₀ hs₀

lemma chargeTxIntrinsicZkGas_of_some {evm : TaikoEvmWrapper} (hm : evm.meter = some m) :
    evm.chargeTxIntrinsicZkGas = (m.chargeTxIntrinsic.1, evm.setMeter m.chargeTxIntrinsic.2) := by
  rw [chargeTxIntrinsicZkGas, withMeter_of_some hm]
  obtain ⟨answer, m'⟩ := m.chargeTxIntrinsic
  cases answer <;> rfl

lemma chargeTxIntrinsicZkGas_of_none {evm : TaikoEvmWrapper} (hm : evm.meter = none) :
    evm.chargeTxIntrinsicZkGas = (.ok (), evm) := by
  rw [chargeTxIntrinsicZkGas, withMeter_of_none hm]

/-- The intrinsic charge touches nothing but the active meter. -/
lemma chargeTxIntrinsicZkGas_spec :
    SameBut evm evm.chargeTxIntrinsicZkGas.2 ∧ SameAtRest evm evm.chargeTxIntrinsicZkGas.2 ∧
      OptCharged evm.meter evm.chargeTxIntrinsicZkGas.2.meter := by
  cases hm : evm.meter with
  | none =>
    rw [chargeTxIntrinsicZkGas_of_none hm, hm]
    exact ⟨rfl, .refl _, trivial⟩
  | some m =>
    rw [chargeTxIntrinsicZkGas_of_some hm, meter_setMeter hm]
    have hcharged : Charged m m.chargeTxIntrinsic.2 := m.chargeAmount_charged _
    exact ⟨evm.setMeter_same _, setMeter_sameAtRest hm hcharged, hcharged⟩

/-- An intrinsic charge that succeeds is in the in-flight total. -/
lemma chargeTxIntrinsicZkGas_ok {evm : TaikoEvmWrapper}
    (h : evm.chargeTxIntrinsicZkGas.1 = .ok ()) {m : ZkGasMeter}
    (hm : evm.chargeTxIntrinsicZkGas.2.meter = some m) :
    m.schedule.txIntrinsicZkGas.toNat ≤ m.txZkGasUsed.toNat := by
  cases hmeter : evm.meter with
  | none =>
    rw [chargeTxIntrinsicZkGas_of_none hmeter, hmeter] at hm
    cases hm
  | some m₀ =>
    rw [chargeTxIntrinsicZkGas_of_some hmeter, meter_setMeter hmeter] at hm
    rw [chargeTxIntrinsicZkGas_of_some hmeter] at h
    cases hm
    have hcharged := m₀.chargeAmount_charged m₀.schedule.txIntrinsicZkGas
    have htx := ZkGasMeter.chargeAmount_tx h
    rw [ZkGasMeter.chargeTxIntrinsic, hcharged.schedule_eq, htx]
    exact Nat.le_add_left _ _

end TaikoEvmWrapper

/-! ### Blocks between transactions -/

namespace TaikoBlockExecutor

variable (e : TaikoBlockExecutor) (revm : Revm) (checks : OverflowChecks) {e' : TaikoBlockExecutor}

/-- The published total is the finalized total of the meter. -/
def Published : Prop :=
  ∀ m, e.evm.meter = some m → e.ctx.finalizedBlockZkGas = m.blockZkGasUsed

/-- The second executor stands at the same block: nothing but meters, published
total and exhaustion flag may differ, and the finalized zk gas does not. -/
structure Kept (e e' : TaikoBlockExecutor) : Prop where
  same : e' = { e with
    evm := { e.evm with zkGasMeter := e'.evm.zkGasMeter, inspector := e'.evm.inspector }
    ctx := { e.ctx with finalizedBlockZkGas := e'.ctx.finalizedBlockZkGas }
    zkGasExhausted := e'.zkGasExhausted }
  meter : MeterKept e.evm.meter e'.evm.meter
  atRest : TaikoEvmWrapper.SameAtRest e.evm e'.evm
  published : e.Published → e'.Published
  finalized : e.Published → e'.ctx.finalizedBlockZkGas = e.ctx.finalizedBlockZkGas

lemma Kept.refl : Kept e e :=
  ⟨rfl, .refl _, .refl _, id, fun _ => rfl⟩

lemma Kept.trans {e₁ e₂ e₃ : TaikoBlockExecutor} (h : Kept e₁ e₂) (h' : Kept e₂ e₃) :
    Kept e₁ e₃ where
  same := by
    have h₁ := h.same
    have h₂ := h'.same
    rw [h₂, h₁]
  meter := h.meter.trans h'.meter
  atRest := h.atRest.trans h'.atRest
  published hp := h'.published (h.published hp)
  finalized hp := (h'.finalized (h.published hp)).trans (h.finalized hp)

/-- Replacing the EVM by one with other meters keeps the block, provided the
finalized total is the same. -/
lemma Kept.of_evm {e : TaikoBlockExecutor} {evm : TaikoEvmWrapper}
    (hsame : TaikoEvmWrapper.SameBut e.evm evm) (hrest : TaikoEvmWrapper.SameAtRest e.evm evm)
    (hmeter : MeterKept e.evm.meter evm.meter) : Kept e { e with evm := evm } where
  same := by
    rw [TaikoEvmWrapper.SameBut] at hsame
    conv_lhs => rw [hsame]
  meter := hmeter
  atRest := hrest
  published hp m' hm' := by
    change evm.meter = some m' at hm'
    rw [hm'] at hmeter
    obtain ⟨m, hm, -, hblock, -⟩ := hmeter.exists_of_some
    exact (hp m hm).trans hblock.symm
  finalized _ := rfl

lemma syncFinalizedBlockZkGas_kept :
    Kept e e.syncFinalizedBlockZkGas := by
  rw [syncFinalizedBlockZkGas]
  cases hz : e.evm.blockZkGasUsed with
  | none => exact .refl e
  | some zkGas =>
    have hread : ∀ m, e.evm.meter = some m → zkGas = m.blockZkGasUsed := by
      intro m hm
      rw [TaikoEvmWrapper.blockZkGasUsed, hm] at hz
      exact (Option.some.inj hz).symm
    refine ⟨rfl, .refl _, .refl _, fun _ m hm => hread m hm, fun hp => ?_⟩
    obtain ⟨m, hm, -⟩ := Option.map_eq_some_iff.mp hz
    exact (hread m hm).trans (hp m hm).symm

@[simp] lemma syncFinalizedBlockZkGas_evm :
    e.syncFinalizedBlockZkGas.evm = e.evm := by
  rw [syncFinalizedBlockZkGas]
  split <;> rfl

@[simp] lemma syncFinalizedBlockZkGas_exhausted :
    e.syncFinalizedBlockZkGas.zkGasExhausted = e.zkGasExhausted := by
  rw [syncFinalizedBlockZkGas]
  split <;> rfl

lemma resetCurrentTransactionZkGas_kept :
    Kept e e.resetCurrentTransactionZkGas := by
  refine Kept.trans (Kept.of_evm e.evm.resetTransactionZkGas_same
    e.evm.resetTransactionZkGas_sameAtRest ?_) (syncFinalizedBlockZkGas_kept _)
  rw [TaikoEvmWrapper.meter_resetTransactionZkGas]
  exact .map_reset _

@[simp] lemma resetCurrentTransactionZkGas_exhausted :
    e.resetCurrentTransactionZkGas.zkGasExhausted = e.zkGasExhausted := by
  simp [resetCurrentTransactionZkGas]

lemma Kept.of_exhausted (exhausted : Bool) :
    Kept e { e with zkGasExhausted := exhausted } :=
  ⟨rfl, .refl _, .refl _, id, fun _ => rfl⟩

lemma exhaustZkGas_kept : Kept e e.exhaustZkGas :=
  (Kept.of_exhausted e true).trans (resetCurrentTransactionZkGas_kept _)

@[simp] lemma exhaustZkGas_exhausted :
    e.exhaustZkGas.zkGasExhausted = true := by
  simp [exhaustZkGas]

lemma clearZkGasExhaustion_kept : Kept e e.clearZkGasExhaustion :=
  (Kept.of_exhausted e false).trans (resetCurrentTransactionZkGas_kept _)

@[simp] lemma clearZkGasExhaustion_exhausted :
    e.clearZkGasExhaustion.zkGasExhausted = false := by
  simp [clearZkGasExhaustion]

/-! ### The first half of a transaction -/

/-- The EVM panics with `p` on some transaction. -/
def EvmPanics (p : Panic) : Prop :=
  ∃ (evm : TaikoEvmWrapper) (tx : TxEnv), evm.transactRaw revm checks tx = .error p

/-- The executor owns the anchor context and the zk gas bracket of its EVM. -/
structure OwnsEvm (e : TaikoBlockExecutor) : Prop where
  reset : e.evm.resetZkGasPerTransact = false
  derive : e.evm.deriveAnchorCtx = false

lemma Kept.owns {e : TaikoBlockExecutor} (h : Kept e e') (ho : OwnsEvm e) : OwnsEvm e' := by
  rw [h.same]
  exact ⟨ho.reset, ho.derive⟩

/-- What the exits of the run of a charged transaction keep: an overflow, and only
an overflow, sets the exhaustion flag, and a result comes with the meter charged. -/
def TransactSpec (tx : Recovered) : Answered EthTxResult → Prop
  | (.error error, e') =>
    Kept e e' ∧ e'.zkGasExhausted = (e.zkGasExhausted || isZkGasLimitExceeded error)
  | (.ok output, e') =>
    Kept e e' ∧ e'.zkGasExhausted = e.zkGasExhausted ∧
      OptCharged e.evm.meter e'.evm.meter ∧
      output.result.result.txGasUsed.toNat ≤ tx.tx.gasLimit.toNat

lemma isZkGasLimitExceeded_evm (error : EVMError) (hash : B256) :
    isZkGasLimitExceeded (.evm error hash) = false := by
  cases error <;> rfl

lemma transactCharged_kept {e : TaikoBlockExecutor} (ho : OwnsEvm e) (tx : Recovered) :
    Satisfies (fun _ => True) (fun out => Kept e out.2) (e.transactCharged revm checks tx) := by
  refine Satisfies.bind (e.evm.transactRaw_spec revm checks tx.toTxEnv ho.reset ho.derive)
    fun out hout => ?_
  obtain ⟨outcome, evm⟩ := out
  have hkept : Kept e { e with evm := evm } :=
    Kept.of_evm hout.same (.of_charged hout.charged) hout.meter.kept
  cases outcome with
  | error error =>
    dsimp only
    split
    · exact hkept.trans (exhaustZkGas_kept _)
    · exact hkept.trans (resetCurrentTransactionZkGas_kept _)
  | ok result =>
    dsimp only
    split
    · exact hkept.trans (exhaustZkGas_kept _)
    · exact hkept

lemma transactCharged_spec {revm : Revm} (hgas : revm.ReportsGasWithinLimit)
    (checks : OverflowChecks) {e : TaikoBlockExecutor} (ho : OwnsEvm e) (tx : Recovered) :
    Satisfies (EvmPanics revm checks) (TransactSpec e tx) (e.transactCharged revm checks tx) := by
  have hspec := e.evm.transactRaw_spec revm checks tx.toTxEnv ho.reset ho.derive
  rw [transactCharged]
  cases hrun : e.evm.transactRaw revm checks tx.toTxEnv with
  | error p => exact ⟨_, _, hrun⟩
  | ok out =>
    obtain ⟨outcome, evm⟩ := out
    have hout : e.evm.Transacted evm := hspec.of_ok hrun
    have hkept : Kept e { e with evm := evm } :=
      Kept.of_evm hout.same (.of_charged hout.charged) hout.meter.kept
    cases outcome with
    | error error =>
      dsimp only [bind, Except.bind]
      split
      · refine ⟨hkept.trans (exhaustZkGas_kept _), ?_⟩
        simp [isZkGasLimitExceeded, BlockExecutionError.zkGasLimitError]
      · refine ⟨hkept.trans (resetCurrentTransactionZkGas_kept _), ?_⟩
        simp [isZkGasLimitExceeded_evm]
    | ok result =>
      dsimp only [bind, Except.bind]
      split
      · refine ⟨hkept.trans (exhaustZkGas_kept _), ?_⟩
        simp [isZkGasLimitExceeded, BlockExecutionError.zkGasLimitError]
      · exact ⟨hkept, rfl, hout.meter, TaikoEvmWrapper.transactRaw_gas hgas hrun⟩

/-- What the exits of the first half of a transaction keep; a result comes with
the checks it passed and the intrinsic charge in the in-flight total. -/
def WithoutCommitSpec (tx : Recovered) : Answered EthTxResult → Prop
  | (.error error, e') =>
    Kept e e' ∧ e'.zkGasExhausted = (e.zkGasExhausted || isZkGasLimitExceeded error)
  | (.ok output, e') =>
    Kept e e' ∧ e.zkGasExhausted = false ∧ e'.zkGasExhausted = false ∧
      e.gasUsed.toNat + tx.tx.gasLimit.toNat ≤ e.evm.block.gasLimit.toNat ∧
      output.result.result.txGasUsed.toNat ≤ tx.tx.gasLimit.toNat ∧
      ∀ m, e'.evm.meter = some m → m.schedule.txIntrinsicZkGas.toNat ≤ m.txZkGasUsed.toNat

lemma executeTransactionWithoutCommit_spec {revm : Revm} (hgas : revm.ReportsGasWithinLimit)
    (checks : OverflowChecks) {e : TaikoBlockExecutor} (ho : OwnsEvm e)
    (hle : e.gasUsed.toNat ≤ e.evm.block.gasLimit.toNat) (tx : Recovered) :
    Satisfies (EvmPanics revm checks) (WithoutCommitSpec e tx)
      (e.executeTransactionWithoutCommit revm checks tx) := by
  rw [executeTransactionWithoutCommit]
  split
  · next hexhausted => exact ⟨.refl e, by simp [hexhausted]⟩
  · next hexhausted =>
    have hexhausted : e.zkGasExhausted = false := by simpa using hexhausted
    rw [plainSub_eq_ok_of_le checks hle]
    change Satisfies _ _ (if _ then _ else _)
    split
    · exact ⟨.refl e, by simp [hexhausted, isZkGasLimitExceeded]⟩
    · next hfits =>
      rw [gt_iff_lt, BitVec.lt_def, BitVec.toNat_sub_of_le (BitVec.le_def.mpr hle)] at hfits
      -- the transaction starts with no zk gas and is charged its intrinsic cost
      have hreset := e.resetCurrentTransactionZkGas_kept
      have hflag := e.resetCurrentTransactionZkGas_exhausted
      rw [hexhausted] at hflag
      generalize e.resetCurrentTransactionZkGas = e₁ at hreset hflag ⊢
      obtain ⟨hsame, hrest, hcharged⟩ := e₁.evm.chargeTxIntrinsicZkGas_spec
      have hintrinsic := @TaikoEvmWrapper.chargeTxIntrinsicZkGas_ok e₁.evm
      generalize e₁.evm.chargeTxIntrinsicZkGas = answer at hsame hrest hcharged hintrinsic ⊢
      obtain ⟨answer, evm⟩ := answer
      have hkept := hreset.trans (Kept.of_evm hsame hrest hcharged.kept)
      cases answer with
      | error outcome =>
        refine ⟨hkept.trans (exhaustZkGas_kept _), ?_⟩
        simp [isZkGasLimitExceeded, BlockExecutionError.zkGasLimitError]
      | ok u =>
        refine (transactCharged_spec hgas checks (hkept.owns ho) tx).mono fun out hout => ?_
        obtain ⟨answer, e'⟩ := out
        cases answer with
        | error error =>
          refine ⟨hkept.trans hout.1, ?_⟩
          rw [hexhausted, ← hflag]
          exact hout.2
        | ok output =>
          obtain ⟨hkept', hflag', hcharged', hused⟩ := hout
          refine ⟨hkept.trans hkept', hexhausted, hflag'.trans hflag, by omega, hused, ?_⟩
          intro m hm
          rw [hm] at hcharged'
          obtain ⟨m₀, hm₀, hfrom⟩ := hcharged'.exists_of_some
          rw [hfrom.schedule_eq]
          exact (hintrinsic rfl hm₀).trans hfrom.tx_le

/-- Whatever the first half of a transaction answers, it keeps the block. -/
lemma executeTransactionWithoutCommit_kept {e : TaikoBlockExecutor} (ho : OwnsEvm e)
    (tx : Recovered) :
    Satisfies (fun _ => True) (fun out => Kept e out.2)
      (e.executeTransactionWithoutCommit revm checks tx) := by
  rw [executeTransactionWithoutCommit]
  split
  · exact .refl e
  · refine Satisfies.bind (P := fun _ => True) ?_ fun blockAvailableGas _ => ?_
    · cases plainSub checks e.evm.block.gasLimit e.gasUsed <;> trivial
    · split
      · exact .refl e
      · have hreset := e.resetCurrentTransactionZkGas_kept
        generalize e.resetCurrentTransactionZkGas = e₁ at hreset ⊢
        obtain ⟨hsame, hrest, hcharged⟩ := e₁.evm.chargeTxIntrinsicZkGas_spec
        dsimp only
        generalize e₁.evm.chargeTxIntrinsicZkGas = answer at hsame hrest hcharged ⊢
        obtain ⟨answer, evm⟩ := answer
        have hkept := hreset.trans (Kept.of_evm hsame hrest hcharged.kept)
        cases answer with
        | error outcome => exact hkept.trans (exhaustZkGas_kept _)
        | ok u =>
          exact (transactCharged_kept revm checks (hkept.owns ho) tx).mono
            fun _ hout => hkept.trans hout

/-! ### The second half of a transaction -/

/-- The active meter, if there is one, has balanced counters. -/
def MeterBalanced : Prop :=
  ∀ m, e.evm.meter = some m → m.Balanced

lemma Kept.balanced {e : TaikoBlockExecutor} (h : Kept e e') (hb : MeterBalanced e) :
    MeterBalanced e' := by
  intro m' hm'
  have hmeter := h.meter
  rw [hm'] at hmeter
  obtain ⟨m, hm, -, -, hbalanced⟩ := hmeter.exists_of_some
  exact hbalanced (hb m hm)

/-- With balanced counters the commit reaches no unreachable code: it promotes the
in-flight total and publishes it. -/
theorem commitCurrentTransactionZkGas_spec {e : TaikoBlockExecutor} (hb : MeterBalanced e) :
    ∃ evm ctx, e.commitCurrentTransactionZkGas = .ok { e with evm := evm, ctx := ctx } ∧
      TaikoEvmWrapper.SameBut e.evm evm ∧
      evm.meter = e.evm.meter.map ZkGasMeter.promoted ∧
      ctx = { e.ctx with finalizedBlockZkGas := ctx.finalizedBlockZkGas } ∧
      ∀ m, evm.meter = some m → ctx.finalizedBlockZkGas = m.blockZkGasUsed := by
  rw [commitCurrentTransactionZkGas, TaikoEvmWrapper.commitTransactionZkGas]
  cases hm : e.evm.meter with
  | none =>
    rw [TaikoEvmWrapper.withMeter_of_none hm]
    refine ⟨e.evm, e.ctx, rfl, rfl, hm, rfl, fun m hm' => ?_⟩
    rw [hm] at hm'
    cases hm'
  | some m =>
    rw [TaikoEvmWrapper.withMeter_of_some hm,
      ZkGasMeter.commitTransaction_of_balanced (hb m hm)]
    refine ⟨_, _, rfl, e.evm.setMeter_same _, TaikoEvmWrapper.meter_setMeter hm, rfl, ?_⟩
    intro m' hm'
    rw [TaikoEvmWrapper.meter_setMeter hm] at hm'
    cases hm'
    rfl

/-- The receipt of an executed transaction. -/
def receiptOf (output : EthTxResult) (cumulativeGasUsed : U64) : Receipt :=
  ⟨output.txType, output.result.result.success, cumulativeGasUsed, output.result.result.logs⟩

/-- The block grew by exactly one transaction. -/
structure GrewBy (output : EthTxResult) (e e' : TaikoBlockExecutor) : Prop where
  gasUsed : e'.gasUsed.toNat = e.gasUsed.toNat + output.result.result.txGasUsed.toNat
  receipts : e'.receipts = e.receipts ++ [receiptOf output e'.gasUsed]
  db : e'.evm.db = e.evm.db.commit output.result.state
  block : e'.evm.block = e.evm.block
  exhausted : e'.zkGasExhausted = e.zkGasExhausted
  owns : OwnsEvm e → OwnsEvm e'
  meter : e'.evm.meter = e.evm.meter.map ZkGasMeter.promoted
  published : e'.Published

/-- A commit whose gas fits the block never panics and grows the block. -/
theorem commitTransaction_spec {e : TaikoBlockExecutor} (hb : MeterBalanced e)
    (output : EthTxResult)
    (hfit : e.gasUsed.toNat + output.result.result.txGasUsed.toNat < 2 ^ 64) :
    ∃ e', e.commitTransaction checks output = .ok (output.result.result.txGasUsed, e') ∧
      GrewBy output e e' := by
  obtain ⟨evm, ctx, hcommit, hsame, hmeter, hctx, hpublished⟩ :=
    commitCurrentTransactionZkGas_spec hb
  have hadd := plainAdd_eq_ok_of_lt checks hfit
  refine ⟨{ e with
    gasUsed := e.gasUsed + output.result.result.txGasUsed
    receipts := e.receipts ++ [receiptOf output (e.gasUsed + output.result.result.txGasUsed)]
    evm := { evm with db := evm.db.commit output.result.state }
    ctx := ctx }, ?_, ?_⟩
  · rw [commitTransaction, hcommit]
    change (plainAdd checks e.gasUsed output.result.result.txGasUsed >>= _) = _
    rw [hadd]
    rfl
  · rw [TaikoEvmWrapper.SameBut] at hsame
    refine ⟨BitVec.toNat_add_of_lt hfit, rfl, ?_, ?_, rfl, ?_, hmeter, hpublished⟩
    · change evm.db.commit _ = _
      rw [hsame]
    · change evm.block = _
      rw [hsame]
    · intro ho
      refine ⟨?_, ?_⟩
      · change evm.resetZkGasPerTransact = false
        rw [hsame]
        exact ho.reset
      · change evm.deriveAnchorCtx = false
        rw [hsame]
        exact ho.derive

/-! ### Reservations -/

/-- The meter after a reservation. -/
def reservedMeter (amount : U64) (m : ZkGasMeter) : ZkGasMeter :=
  { m with
    blockZkGasUsed := m.blockZkGasUsed + amount
    remainingZkGas := m.remainingZkGas - amount }

/-- The block's budget, and nothing else, gave up an amount. -/
structure ReservedBy (amount : U64) (e e' : TaikoBlockExecutor) : Prop where
  same : e' = { e with
    evm := { e.evm with zkGasMeter := e'.evm.zkGasMeter, inspector := e'.evm.inspector }
    ctx := { e.ctx with finalizedBlockZkGas := e'.ctx.finalizedBlockZkGas } }
  meter : e'.evm.meter = e.evm.meter.map (reservedMeter amount)
  fits : ∀ m, e.evm.meter = some m → amount.toNat ≤ m.remainingZkGas.toNat
  published : e'.Published

lemma reservedMeter_spec {amount : U64} {m : ZkGasMeter} (h : m.Balanced)
    (hle : amount.toNat ≤ m.remainingZkGas.toNat) :
    (reservedMeter amount m).Balanced ∧
      (reservedMeter amount m).blockZkGasUsed.toNat
        = m.blockZkGasUsed.toNat + amount.toNat := by
  have hlimit := m.schedule.blockLimit.isLt
  rw [ZkGasMeter.Balanced] at h
  have hblock : (m.blockZkGasUsed + amount).toNat = m.blockZkGasUsed.toNat + amount.toNat :=
    BitVec.toNat_add_of_lt (by omega)
  have hremaining : (m.remainingZkGas - amount).toNat
      = m.remainingZkGas.toNat - amount.toNat :=
    BitVec.toNat_sub_of_le (BitVec.le_def.mpr hle)
  refine ⟨?_, hblock⟩
  change (m.blockZkGasUsed + amount).toNat + m.txZkGasUsed.toNat
    + (m.remainingZkGas - amount).toNat = m.schedule.blockLimit.toNat
  rw [hblock, hremaining]
  omega

/-- A reservation takes its amount from the budget, or keeps the block. -/
theorem reserveBlockZkGas_spec {e : TaikoBlockExecutor} (hb : MeterBalanced e)
    (hp : e.Published) (amount : U64) :
    (∃ e', e.reserveBlockZkGas amount = (.ok (), e') ∧ ReservedBy amount e e') ∨
      ∃ e', e.reserveBlockZkGas amount = (.error .zkGasLimitError, e') ∧ Kept e e' ∧
        e'.zkGasExhausted = e.zkGasExhausted := by
  rw [reserveBlockZkGas, TaikoEvmWrapper.reserveBlockZkGas]
  cases hm : e.evm.meter with
  | none =>
    rw [TaikoEvmWrapper.withMeter_of_none hm]
    refine .inl ⟨_, rfl, rfl, ?_, ?_, hp⟩
    · change e.evm.meter = _
      rw [hm]
      rfl
    · intro m hm'
      rw [hm] at hm'
      cases hm'
  | some m =>
    rw [TaikoEvmWrapper.withMeter_of_some hm]
    -- the reserve fits what is left, or nothing is booked
    by_cases hle : amount.toNat ≤ m.remainingZkGas.toNat
    · rw [ZkGasMeter.reserveBlockBudget_of_le (hb m hm) hle]
      have hsame := e.evm.setMeter_same (reservedMeter amount m)
      rw [TaikoEvmWrapper.SameBut] at hsame
      refine .inl ⟨_, rfl, ?_, ?_, ?_, ?_⟩
      · conv_lhs => rw [← reservedMeter, hsame]
        rfl
      · change (e.evm.setMeter (reservedMeter amount m)).meter = _
        rw [TaikoEvmWrapper.meter_setMeter hm, hm]
        rfl
      · intro m' hm'
        rw [hm] at hm'
        cases hm'
        exact hle
      · intro m' hm'
        change (e.evm.setMeter (reservedMeter amount m)).meter = _ at hm'
        rw [TaikoEvmWrapper.meter_setMeter hm] at hm'
        cases hm'
        rfl
    · rw [ZkGasMeter.reserveBlockBudget_of_lt (by omega)]
      refine .inr ⟨_, rfl, Kept.of_evm (e.evm.setMeter_same m)
        (TaikoEvmWrapper.setMeter_sameAtRest hm (.refl m)) ?_, rfl⟩
      rw [TaikoEvmWrapper.meter_setMeter hm, hm]
      exact .refl _

end TaikoBlockExecutor

end AlethiaReth
