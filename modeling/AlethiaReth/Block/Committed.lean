import AlethiaReth.Block.Invariant
import AlethiaReth.Block.Replay

/-!
What stands behind a committed transaction (`Commits.run`), and behind the executor the
transactions start from (`applyPreExecutionChanges_anchored`).
-/

namespace AlethiaReth

open MachineInt Outcome

/-- A transaction of an executor that owns the bracket runs on the EVM as it is. -/
lemma TaikoEvmWrapper.transactRaw_eq_ok {revm : Revm} {checks : OverflowChecks}
    {evm evm' : TaikoEvmWrapper} {tx : TxEnv} {answer : Except EVMError ResultAndState}
    (h : evm.transactRaw revm checks tx = .ok (answer, evm'))
    (hreset : evm.resetZkGasPerTransact = false) (hderive : evm.deriveAnchorCtx = false) :
    ∃ outcome homes', handlerRun revm checks evm.inspect ⟨evm.db, evm.block, evm.cfg, tx⟩
        evm.extraExecutionCtx ⟨evm.zkGasMeter, evm.inspector⟩ = .ok (outcome, homes') ∧
      answer = outcome.map fun (result, state) => ⟨result, state⟩ := by
  have hkeep : evm.maybeDeriveAnchorExecutionCtx tx = .ok evm := by
    rw [maybeDeriveAnchorExecutionCtx, if_pos (by simp [hderive])]
  simp only [transactRaw, hreset, Bool.false_eq_true, if_false, hkeep] at h
  obtain ⟨⟨outcome, homes'⟩, hrun, h⟩ := bind_eq_ok.mp h
  cases h
  exact ⟨outcome, homes', hrun, rfl⟩

namespace TaikoBlockExecutor

/-- What the EVM of the executor reads when it runs a transaction. -/
def env (e : TaikoBlockExecutor) (tx : Recovered) : Env :=
  ⟨e.evm.db, e.evm.block, e.evm.cfg, tx.toTxEnv⟩

variable {revm : Revm} {checks : OverflowChecks} {e e' : TaikoBlockExecutor} {tx : Recovered}

/-! ### Commits -/

variable (revm checks) in
/-- The handler's run of a committed transaction.  Of the EVM, only the database and
the meters moved. -/
structure CommittedRun (e : TaikoBlockExecutor) (tx : Recovered) (e' : TaikoBlockExecutor) where
  homes : MeterHomes
  homes' : MeterHomes
  outcome : ExecutionResult × EvmState
  ran : Ran revm checks e.evm.inspect (e.env tx) e.evm.extraExecutionCtx homes outcome homes'
  evm_eq : e'.evm = { e.evm with
    db := e.evm.db.commit outcome.2
    zkGasMeter := e'.evm.zkGasMeter
    inspector := e'.evm.inspector }

lemma Kept.sameBut (h : Kept e e') : TaikoEvmWrapper.SameBut e.evm e'.evm :=
  congrArg TaikoBlockExecutor.evm h.same

/-- The reset and the intrinsic charge before a run move only meters. -/
lemma charged_sameBut (e : TaikoBlockExecutor) : TaikoEvmWrapper.SameBut e.evm
    e.resetCurrentTransactionZkGas.evm.chargeTxIntrinsicZkGas.2 :=
  e.resetCurrentTransactionZkGas_kept.sameBut.trans
    e.resetCurrentTransactionZkGas.evm.chargeTxIntrinsicZkGas_spec.1

/-- The meters a transaction's frames start with: its intrinsic zk gas is charged. -/
def startMeters (e : TaikoBlockExecutor) : MeterHomes :=
  let evm := e.resetCurrentTransactionZkGas.evm.chargeTxIntrinsicZkGas.2
  ⟨evm.zkGasMeter, evm.inspector⟩

/-- A committed transaction ran from those meters, reported the gas of its run, and its
changeset was written. -/
theorem executeTransaction_transacted (ho : OwnsEvm e) {gasUsed : U64}
    (hrun : e.executeTransaction revm checks tx = .ok (.ok gasUsed, e')) :
    ∃ homes' outcome, Nonempty (Ran revm checks e.evm.inspect (e.env tx)
        e.evm.extraExecutionCtx e.startMeters outcome homes') ∧
      gasUsed = outcome.1.txGasUsed ∧
      e'.evm = { e.evm with
        db := e.evm.db.commit outcome.2
        zkGasMeter := e'.evm.zkGasMeter
        inspector := e'.evm.inspector } := by
  obtain ⟨output, e₁, hresult, hkept, hcommit⟩ := executeTransaction_committed ho hrun
  obtain ⟨-, -, -, htransact⟩ := executeTransactionWithoutCommit_eq_ok.mp hresult
  have hcharged := e.charged_sameBut
  obtain ⟨result, evm, hraw, -, rfl, rfl⟩ := transactCharged_eq_ok.mp htransact
  rw [startMeters]
  dsimp only at hraw ⊢
  generalize e.resetCurrentTransactionZkGas.evm.chargeTxIntrinsicZkGas.2 = evm₁
    at hraw hcharged ⊢
  rw [TaikoEvmWrapper.SameBut] at hcharged
  rw [hcharged] at hraw
  obtain ⟨outcome, homes', hhandler, hanswer⟩ :=
    TaikoEvmWrapper.transactRaw_eq_ok hraw ho.reset ho.derive
  obtain ⟨outcome, rfl⟩ : ∃ ran, outcome = .ok ran := by
    cases outcome <;> cases hanswer
    exact ⟨_, rfl⟩
  cases hanswer
  obtain ⟨ran⟩ := handlerRun_eq_ok hhandler
  have hsame := hkept.sameBut.trans (evm.withMeter_same ZkGasMeter.commitTransaction).1
  rw [TaikoEvmWrapper.SameBut] at hsame
  refine ⟨_, _, ⟨ran⟩, (commitTransaction_gasUsed hcommit).1, ?_⟩
  rw [(commitTransaction_evm hcommit).1]
  dsimp only
  conv_lhs => rw [hsame]

/-- A transaction commits what its run left. -/
theorem Commits.run (ho : OwnsEvm e) (h : Commits revm checks e tx e') :
    Nonempty (CommittedRun revm checks e tx e') := by
  obtain ⟨gasUsed, hrun⟩ := h
  obtain ⟨homes', outcome, ⟨ran⟩, -, hevm⟩ := executeTransaction_transacted ho hrun
  exact ⟨⟨_, _, _, ran, hevm⟩⟩

lemma Commits.block (ho : OwnsEvm e) (h : Commits revm checks e tx e') :
    e'.evm.block = e.evm.block := by
  obtain ⟨run⟩ := h.run ho
  rw [run.evm_eq]

/-! ### The anchor context of a block -/

/-- The executor has its anchor context: the share of the block, and the golden-touch
nonce, which is that of the database when the context was installed. -/
structure Anchored (e : TaikoBlockExecutor) (pctg nonce : U64) : Prop where
  tended : Tended e
  context : e.evm.extraExecutionCtx = some (.new pctg goldenTouch nonce)

lemma Fresh.tended {e : TaikoBlockExecutor} (h : Fresh e) :
    Tended e ∧ e.zkGasExhausted = false := by
  obtain ⟨db, cfg, block, heq | heq⟩ := h.made
  · rw [heq]
    refine ⟨⟨⟨rfl, rfl⟩, ?_⟩, rfl⟩
    rintro s ⟨⟩
  · rw [heq]
    refine ⟨⟨⟨rfl, rfl⟩, ?_⟩, rfl⟩
    intro s hs depth _
    obtain ⟨schedule, -, rfl⟩ := Option.map_eq_some_iff.mp hs
    rfl

/-- The calls before the first transaction install the anchor context: the share of
the block, and the golden-touch nonce in the database they leave. -/
theorem applyPreExecutionChanges_anchored {e₀ : TaikoBlockExecutor} (hfresh : Fresh e₀)
    (h : e₀.applyPreExecutionChanges revm checks = .ok (.ok (), e)) :
    ∃ pctg account, e₀.baseFeeSharePctg = .ok pctg ∧
      e.evm.db.basic goldenTouch = .ok account ∧
      e.Anchored pctg ((account.map (·.nonce)).getD 0) ∧
      e.evm.cfg = e₀.evm.cfg ∧ e.evm.block = e₀.evm.block ∧ e.spec = e₀.spec := by
  have ht := hfresh.tended.1
  have htended := (applyPreExecutionChanges_tended ht h).1
  obtain ⟨e₁, hstart, hanchor⟩ := applyPreExecutionChanges_eq_ok ht h
  have hsame := hstart.same
  rcases initializeAnchorContext_eq_ok hanchor with ⟨hinit, -⟩ | ⟨account, pctg, hbasic, hpctg, rfl⟩
  · have hunset : e₀.evmExtraExecutionCtxInitialized = false := by
      obtain ⟨db, cfg, block, heq | heq⟩ := hfresh.made <;> rw [heq] <;> rfl
    rw [hsame] at hinit
    exact absurd (hunset.symm.trans hinit) Bool.false_ne_true
  · refine ⟨pctg, account, ?_, hbasic, ⟨htended, rfl⟩, ?_, ?_, ?_⟩
    · rw [hsame] at hpctg
      exact hpctg
    all_goals dsimp only; rw [hsame]

/-- A commit leaves the anchor context, the block and the configuration alone. -/
lemma Anchored.commit {pctg nonce : U64} (h : e.Anchored pctg nonce)
    (hcommit : Commits revm checks e tx e') :
    e'.Anchored pctg nonce ∧ e'.evm.cfg = e.evm.cfg ∧ e'.evm.block = e.evm.block := by
  obtain ⟨run⟩ := hcommit.run h.tended.owns
  have hevm := run.evm_eq
  refine ⟨⟨hcommit.tended h.tended, ?_⟩, by rw [hevm], by rw [hevm]⟩
  rw [hevm]
  exact h.context

/-- The executor before the first transaction of a block of transfers. -/
def transferStarted : TaikoBlockExecutor :=
  leftBy transferExecutor (transferExecutor.applyPreExecutionChanges transferRevm .on)

end TaikoBlockExecutor

/-! ### The fee cap -/

/-- The interpreter accepts no transaction whose fee cap is below the base fee. -/
def Revm.ChecksFeeCap (revm : Revm) : Prop :=
  ∀ env initialGas, revm.validate env = .ok initialGas →
    env.block.basefee.setWidth 128 ≤ env.tx.gasPrice

lemma transferRevm_checksFeeCap : transferRevm.ChecksFeeCap := by
  intro env initialGas h
  by_contra hlt
  have herror : transferRevm.validate env
      = .error (.transaction (.other "gas price is less than basefee")) :=
    if_pos (BitVec.not_le.mp hlt)
  rw [herror] at h
  cases h

lemma Ran.feeCap {revm : Revm} {checks : OverflowChecks} {inspect : Bool} {env : Env}
    {extra : Option TaikoEvmExtraExecutionCtx} {homes homes' : MeterHomes}
    {outcome : ExecutionResult × EvmState}
    (ran : Ran revm checks inspect env extra homes outcome homes') (hcap : revm.ChecksFeeCap) :
    env.block.basefee.setWidth 128 ≤ env.tx.gasPrice := by
  obtain ⟨initialGas, hvalidate, -⟩ := bind_eq_ok.mp ran.prepare_eq
  exact hcap env initialGas hvalidate

lemma TransactionSigned.effectiveTipPerGas_isSome {tx : TransactionSigned} {baseFee : U64}
    (h : baseFee.setWidth 128 ≤ tx.maxFeePerGas) : (tx.effectiveTipPerGas baseFee).isSome := by
  rw [effectiveTipPerGas, if_neg (BitVec.not_lt.mpr h)]
  cases tx.maxPriorityFeePerGas <;> rfl

namespace TaikoBlockExecutor

/-- A committed transaction pays at least the base fee of the block. -/
lemma Commits.feeCap {revm : Revm} {checks : OverflowChecks} {e e' : TaikoBlockExecutor}
    {tx : Recovered} (h : Commits revm checks e tx e') (ho : OwnsEvm e)
    (hcap : revm.ChecksFeeCap) : e.evm.block.basefee.setWidth 128 ≤ tx.tx.maxFeePerGas := by
  obtain ⟨run⟩ := h.run ho
  exact run.ran.feeCap hcap

end TaikoBlockExecutor

end AlethiaReth
