import AlethiaReth.Block.Replay

/-!
The difficulty of a block's environment plays no part in its execution
(`withDifficulty_executeBlock`).

A block under construction has difficulty zero in its environment, and on Unzen the block that is
imported has there the zk gas of its header. After the merge `PREVRANDAO` has taken the place of
the opcode that read it.
-/

namespace AlethiaReth

open MachineInt Outcome

/-- The block with another difficulty. -/
def BlockEnv.withDifficulty (block : BlockEnv) (d : U256) : BlockEnv :=
  { block with difficulty := d }

/-- The environment with another difficulty. -/
def Env.withDifficulty (env : Env) (d : U256) : Env :=
  { env with block := env.block.withDifficulty d }

/-- An interpreter that does not read the difficulty. -/
structure Revm.IgnoresDifficulty (revm : Revm) : Prop where
  step env d : revm.step (env.withDifficulty d) = revm.step env
  initWithContext env d : revm.initWithContext (env.withDifficulty d) = revm.initWithContext env
  processNextAction env d :
    revm.processNextAction (env.withDifficulty d) = revm.processNextAction env
  returnResult env d : revm.returnResult (env.withDifficulty d) = revm.returnResult env
  validate env d : revm.validate (env.withDifficulty d) = revm.validate env
  loadAccounts env d : revm.loadAccounts (env.withDifficulty d) = revm.loadAccounts env
  applyEip7702AuthList env d :
    revm.applyEip7702AuthList (env.withDifficulty d) = revm.applyEip7702AuthList env
  firstFrameInput env d : revm.firstFrameInput (env.withDifficulty d) = revm.firstFrameInput env
  settleGas env d : revm.settleGas (env.withDifficulty d) = revm.settleGas env
  executionResult env d : revm.executionResult (env.withDifficulty d) = revm.executionResult env

/-! ### The run of a transaction -/

section Run

variable {revm : Revm} (laws : revm.IgnoresDifficulty) (env : Env) (d : U256) (evm : TaikoEvm revm)
  (s : Phase revm × TaikoEvm revm) (checks : OverflowChecks)
  (extra : Option TaikoEvmExtraExecutionCtx)

include laws

lemma frameInit_withDifficulty (input : FrameInput revm.Input) :
    frameInit (env.withDifficulty d) evm input = frameInit env evm input := by
  rw [frameInit, frameInit, laws.initWithContext]

lemma continueLoop_withDifficulty (frame : Frame revm.Input revm.Interpreter)
    (frames : List (Frame revm.Input revm.Interpreter)) (ends : Bool) :
    continueLoop (env.withDifficulty d) evm frame frames ends
      = continueLoop env evm frame frames ends := by
  rw [continueLoop, continueLoop, finishLoop, finishLoop, laws.processNextAction]

lemma frameReturnResult_withDifficulty (result : FrameResult revm.Output) :
    frameReturnResult (env.withDifficulty d) evm result = frameReturnResult env evm result := by
  rw [frameReturnResult, frameReturnResult, laws.returnResult]

lemma execStep_withDifficulty :
    execStep (env.withDifficulty d) s = execStep env s := by
  obtain ⟨phase, evm⟩ := s
  cases phase with
  | init input => rw [execStep, execStep, frameInit_withDifficulty laws]
  | run =>
    simp only [execStep, plainStep, meteredStep, laws.step, continueLoop_withDifficulty laws]
  | result result => exact frameReturnResult_withDifficulty laws env d evm result
  | done outcome => rfl

lemma inspectExecStep_withDifficulty :
    inspectExecStep (env.withDifficulty d) s = inspectExecStep env s := by
  obtain ⟨phase, evm⟩ := s
  cases phase with
  | init input =>
    rw [inspectExecStep, inspectExecStep, inspectFrameInit, inspectFrameInit,
      frameInit_withDifficulty laws]
  | run =>
    simp only [inspectExecStep, inspectedStep, laws.step, continueLoop_withDifficulty laws]
  | result result =>
    rw [inspectExecStep, inspectExecStep, frameReturnResult_withDifficulty laws]
  | done outcome => rfl

lemma exec_withDifficulty (inspect : Bool) (n : ℕ) (s : Phase revm × TaikoEvm revm) :
    exec inspect (env.withDifficulty d) n s = exec inspect env n s := by
  induction n generalizing s with
  | zero => rfl
  | succ n ih =>
    have hstep : stepOn inspect (env.withDifficulty d) s = stepOn inspect env s := by
      rw [stepOn, stepOn, inspectExecStep_withDifficulty laws, execStep_withDifficulty laws]
    rw [exec_succ, exec_succ, hstep]
    exact bind_congr fun s => ih s

lemma prepare_withDifficulty :
    prepare revm (env.withDifficulty d) extra = prepare revm env extra := by
  have hdeduct (ctx : Context revm.Scratch) :
      validateAgainstStateAndDeductCaller revm (env.withDifficulty d) ctx extra
        = validateAgainstStateAndDeductCaller revm env ctx extra := rfl
  simp only [prepare, hdeduct, laws.validate, laws.loadAccounts, laws.applyEip7702AuthList,
    laws.firstFrameInput]

lemma settle_withDifficulty (prepared : Prepared revm) (ctx : Context revm.Scratch)
    (result : FrameResult revm.Output) :
    settle revm checks (env.withDifficulty d) extra prepared ctx result
      = settle revm checks env extra prepared ctx result := by
  have hpost (journal : Journal revm.Scratch) (gas : Gas) :
      postExecution checks (env.withDifficulty d) journal gas extra
        = postExecution checks env journal gas extra := rfl
  rw [settle, settle, laws.settleGas, laws.executionResult]
  simp only [hpost]

/-- A transaction runs alike under every difficulty. -/
theorem handlerRun_withDifficulty (inspect : Bool) (extra : Option TaikoEvmExtraExecutionCtx)
    (meters : MeterHomes) :
    handlerRun revm checks inspect (env.withDifficulty d) extra meters
      = handlerRun revm checks inspect env extra meters := by
  simp only [handlerRun, prepare_withDifficulty laws, exec_withDifficulty laws,
    settle_withDifficulty laws]

end Run

namespace TaikoEvmWrapper

/-! ### EVMs -/

/-- The EVM with another difficulty. -/
def withDifficulty (evm : TaikoEvmWrapper) (d : U256) : TaikoEvmWrapper :=
  { evm with block := evm.block.withDifficulty d }

variable (evm : TaikoEvmWrapper) (d : U256)

lemma withDifficulty_withMeter (op : ZkGasMeter → ZkGasMeter.Answer) :
    (evm.withDifficulty d).withMeter op
      = ((evm.withMeter op).1, (evm.withMeter op).2.withDifficulty d) := by
  have hset (meter : ZkGasMeter) :
      (evm.withDifficulty d).setMeter meter = (evm.setMeter meter).withDifficulty d := by
    rw [setMeter, setMeter, apply_ite (withDifficulty · d)]
    rfl
  have hmeter : (evm.withDifficulty d).meter = evm.meter := rfl
  simp only [withMeter, hmeter]
  cases evm.meter with
  | none => rfl
  | some meter =>
    dsimp only
    rcases op meter with ⟨outcome | _, meter'⟩ <;> simp only [hset]

lemma withDifficulty_chargeTxIntrinsicZkGas :
    (evm.withDifficulty d).chargeTxIntrinsicZkGas
      = (evm.chargeTxIntrinsicZkGas.1, evm.chargeTxIntrinsicZkGas.2.withDifficulty d) := by
  simp only [chargeTxIntrinsicZkGas, withDifficulty_withMeter]
  rcases evm.withMeter ZkGasMeter.chargeTxIntrinsic with ⟨outcome | _, evm'⟩ <;> rfl

lemma withDifficulty_maybeDeriveAnchorExecutionCtx (tx : TxEnv) :
    (evm.withDifficulty d).maybeDeriveAnchorExecutionCtx tx
      = (evm.maybeDeriveAnchorExecutionCtx tx).map (withDifficulty · d) := by
  rw [maybeDeriveAnchorExecutionCtx, maybeDeriveAnchorExecutionCtx, apply_ite (Except.map _),
    apply_ite (Except.map _)]
  refine if_congr Iff.rfl rfl (if_congr Iff.rfl rfl ?_)
  simp only [withDifficulty]
  cases evm.db.basic goldenTouch <;> rfl

variable {revm : Revm} (laws : revm.IgnoresDifficulty) (checks : OverflowChecks)

include laws

/-- A transaction has the same outcome under every difficulty. -/
theorem withDifficulty_transactRaw (tx : TxEnv) :
    (evm.withDifficulty d).transactRaw revm checks tx
      = (evm.transactRaw revm checks tx).map fun out => (out.1, out.2.withDifficulty d) := by
  have hrun (evm : TaikoEvmWrapper) :
      handlerRun revm checks evm.inspect ⟨evm.db, evm.block.withDifficulty d, evm.cfg, tx⟩
          evm.extraExecutionCtx ⟨evm.zkGasMeter, evm.inspector⟩
        = handlerRun revm checks evm.inspect ⟨evm.db, evm.block, evm.cfg, tx⟩
          evm.extraExecutionCtx ⟨evm.zkGasMeter, evm.inspector⟩ :=
    handlerRun_withDifficulty laws ⟨evm.db, evm.block, evm.cfg, tx⟩ d checks _ _ _
  have hreset : (if (evm.withDifficulty d).resetZkGasPerTransact then
        (evm.withDifficulty d).resetTransactionZkGas else evm.withDifficulty d)
      = (if evm.resetZkGasPerTransact then evm.resetTransactionZkGas else evm).withDifficulty
          d := by
    rw [apply_ite (withDifficulty · d)]
    rfl
  rw [transactRaw, transactRaw, hreset]
  generalize (if evm.resetZkGasPerTransact then evm.resetTransactionZkGas else evm) = reset
  dsimp only
  rw [withDifficulty_maybeDeriveAnchorExecutionCtx]
  cases reset.maybeDeriveAnchorExecutionCtx tx with
  | error error => rfl
  | ok derived =>
    simp only [Except.map, withDifficulty]
    rw [hrun derived]
    cases handlerRun revm checks derived.inspect ⟨derived.db, derived.block, derived.cfg, tx⟩
      derived.extraExecutionCtx ⟨derived.zkGasMeter, derived.inspector⟩ <;> rfl

lemma withDifficulty_transactSystemCall (caller contract : Address) (data : Bytes) :
    (evm.withDifficulty d).transactSystemCall revm checks caller contract data
      = (evm.transactSystemCall revm checks caller contract data).map
        fun out => (out.1, out.2.withDifficulty d) := by
  rw [transactSystemCall, transactSystemCall]
  by_cases hanchor : caller = goldenTouch ∧ contract = getTreasuryAddress evm.cfg.chainId
  · have hanchor' : caller = goldenTouch
        ∧ contract = getTreasuryAddress (evm.withDifficulty d).cfg.chainId := hanchor
    rw [if_pos hanchor, if_pos hanchor', anchorSystemCall, anchorSystemCall]
    cases decodeAnchorSystemCallData data with
    | none => rfl
    | some decoded =>
      simp only [withDifficulty]
      cases evm.db.basic caller with
      | error error => rfl
      | ok account => cases evm.db.basic contract <;> rfl
  · have hanchor' : ¬ (caller = goldenTouch
        ∧ contract = getTreasuryAddress (evm.withDifficulty d).cfg.chainId) := hanchor
    rw [if_neg hanchor, if_neg hanchor']
    have hcall := withDifficulty_transactRaw
      { evm with
        block := { evm.block with gasLimit := maxSystemCallGasLimit, basefee := 0 }
        cfg := { evm.cfg with disableNonceCheck := true } }
      d laws checks (systemCallTx caller contract data)
    simp only [withDifficulty, BlockEnv.withDifficulty] at hcall ⊢
    rw [hcall]
    cases transactRaw revm checks
      { evm with
        block := { evm.block with gasLimit := maxSystemCallGasLimit, basefee := 0 }
        cfg := { evm.cfg with disableNonceCheck := true } }
      (systemCallTx caller contract data) <;> rfl

end TaikoEvmWrapper

namespace TaikoBlockExecutor

/-! ### Blocks -/

/-- An executor under another difficulty. -/
def withDifficulty (e : TaikoBlockExecutor) (d : U256) : TaikoBlockExecutor :=
  { e with evm := e.evm.withDifficulty d }

section Zk

variable (e : TaikoBlockExecutor) (d : U256)

lemma withDifficulty_resetCurrentTransactionZkGas :
    (e.withDifficulty d).resetCurrentTransactionZkGas
      = e.resetCurrentTransactionZkGas.withDifficulty d := by
  have hzkGas : (e.withDifficulty d).evm.resetTransactionZkGas.blockZkGasUsed
      = e.evm.resetTransactionZkGas.blockZkGasUsed := rfl
  simp only [resetCurrentTransactionZkGas, syncFinalizedBlockZkGas, hzkGas]
  cases e.evm.resetTransactionZkGas.blockZkGasUsed <;> rfl

lemma withDifficulty_commitTransaction (checks : OverflowChecks) (output : EthTxResult) :
    (e.withDifficulty d).commitTransaction checks output
      = (e.commitTransaction checks output).map fun out => (out.1, out.2.withDifficulty d) := by
  have hcommit : (e.withDifficulty d).evm.commitTransactionZkGas
      = (e.evm.commitTransactionZkGas.1, e.evm.commitTransactionZkGas.2.withDifficulty d) :=
    e.evm.withDifficulty_withMeter d ZkGasMeter.commitTransaction
  simp only [commitTransaction, commitCurrentTransactionZkGas, hcommit]
  rcases e.evm.commitTransactionZkGas with ⟨outcome | _ | zkGas, evm⟩
  · rfl
  · dsimp only [bind, Except.bind, withDifficulty]
    cases plainAdd checks e.gasUsed output.result.result.txGasUsed <;> rfl
  · dsimp only [bind, Except.bind, withDifficulty, setFinalizedBlockZkGas]
    cases plainAdd checks e.gasUsed output.result.result.txGasUsed <;> rfl

lemma withDifficulty_finish : (e.withDifficulty d).finish = e.finish := by
  have hzkGas : (e.withDifficulty d).evm.blockZkGasUsed = e.evm.blockZkGasUsed := rfl
  simp only [finish, syncFinalizedBlockZkGas, hzkGas]
  cases e.evm.blockZkGasUsed <;> rfl

end Zk

section Execution

variable {revm : Revm} (laws : revm.IgnoresDifficulty) {checks : OverflowChecks}
  {e e' : TaikoBlockExecutor} (d : U256) {tx : Recovered} {txs : List Recovered}

include laws

lemma withDifficulty_transactCharged {output : EthTxResult}
    (h : e.transactCharged revm checks tx = .ok (.ok output, e')) :
    (e.withDifficulty d).transactCharged revm checks tx
      = .ok (.ok output, e'.withDifficulty d) := by
  obtain ⟨result, evm, hraw, hfits, rfl, rfl⟩ := transactCharged_eq_ok.mp h
  refine transactCharged_eq_ok.mpr ⟨result, evm.withDifficulty d, ?_, hfits, rfl, rfl⟩
  refine (e.evm.withDifficulty_transactRaw d laws checks tx.toTxEnv).trans ?_
  rw [hraw]
  rfl

/-- A transaction that commits does so under every difficulty. -/
lemma Commits.withDifficulty (h : Commits revm checks e tx e') :
    Commits revm checks (e.withDifficulty d) tx (e'.withDifficulty d) := by
  obtain ⟨gasUsed, h⟩ := h
  obtain ⟨output, e₁, hrun, hcommit⟩ := executeTransaction_eq_ok.mp h
  obtain ⟨hready, hgas, hcharge, hrun⟩ := executeTransactionWithoutCommit_eq_ok.mp hrun
  have hcharged := e.resetCurrentTransactionZkGas.evm.withDifficulty_chargeTxIntrinsicZkGas d
  refine ⟨gasUsed, executeTransaction_eq_ok.mpr ⟨output, e₁.withDifficulty d,
    executeTransactionWithoutCommit_eq_ok.mpr ⟨hready, hgas, ?_, ?_⟩, ?_⟩⟩
  · rw [withDifficulty_resetCurrentTransactionZkGas]
    exact (congrArg Prod.fst hcharged).trans hcharge
  · rw [withDifficulty_resetCurrentTransactionZkGas]
    refine Eq.trans ?_ (withDifficulty_transactCharged laws d hrun)
    exact congrArg (fun evm : TaikoEvmWrapper => transactCharged revm checks
      { e.resetCurrentTransactionZkGas with evm := evm } tx) (congrArg Prod.snd hcharged)
  · rw [withDifficulty_commitTransaction, hcommit]
    rfl

lemma withDifficulty_executeTransactions
    (h : e.executeTransactions revm checks txs = .ok (.ok (), e')) :
    (e.withDifficulty d).executeTransactions revm checks txs
      = .ok (.ok (), e'.withDifficulty d) := by
  rw [executeTransactions_eq_ok] at h ⊢
  induction h with
  | nil e => exact .nil _
  | cons h _ ih => exact .cons (h.withDifficulty laws d) ih

/-- A system call that succeeds does so under every difficulty. -/
lemma withDifficulty_callsAlike :
    CallsAlike revm checks fun evm evm' => evm' = evm.withDifficulty d := by
  constructor
  case call =>
    rintro before _ after rfl caller contract data res hcall
    rw [before.withDifficulty_transactSystemCall d laws, hcall]
    exact ⟨_, rfl, rfl⟩
  all_goals
    rintro before _ rfl
    intros
    rfl

/-- A block executes alike under every difficulty of its environment. -/
theorem withDifficulty_executeBlock {fin : Finished}
    (h : e.executeBlock revm checks txs = .ok (.ok fin)) :
    (e.withDifficulty d).executeBlock revm checks txs = .ok (.ok fin) := by
  obtain ⟨e₁, e₂, hpre, htxs, hfinish⟩ := executeBlock_eq_ok.mp h
  obtain ⟨e₁', hpre', hsame, hevm⟩ := applyPreExecutionChanges_alike
    (withDifficulty_callsAlike laws d) (⟨rfl, rfl⟩ : Alike id _ e (e.withDifficulty d)) hpre
  obtain rfl : e₁' = e₁.withDifficulty d := by
    rw [hsame, hevm]
    rfl
  exact executeBlock_eq_ok.mpr ⟨_, _, hpre', withDifficulty_executeTransactions laws d htxs,
    (e₂.withDifficulty_finish d).trans hfinish⟩

end Execution

end TaikoBlockExecutor

end AlethiaReth
