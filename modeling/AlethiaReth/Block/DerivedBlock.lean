import AlethiaReth.Block.Difficulty
import AlethiaReth.Block.FeeLedger
import AlethiaReth.Block.Strict
import AlethiaReth.Engine.Payload
import AlethiaReth.Payload.Execution

/-!
Blocks that the prover derives (`block/src/derived_block.rs`): a candidate block is executed on its
parent, what does not commit is dropped, and a block is assembled of the rest, which is imported
with the result of the derivation (`derivedBlock_imports`).
-/

namespace AlethiaReth

open MachineInt Outcome Filtering

/-! ### The derivation -/

/-- What a derivation leaves. The source hashes the changes of the state; here it is the state. -/
structure DerivedBlockExecutionOutcome where
  committedTransactions : List Recovered
  executionResult : BlockExecutionResult
  db : Db
  finalizedBlockZkGas : U64

/-- The attributes of the next block, from the header of the candidate. -/
def attributesFromDerivedBlock (derivedBlock : RecoveredBlock) :
    Except BlockExecutionError TaikoNextBlockEnvAttributes :=
  let header := derivedBlock.block.header
  match header.baseFeePerGas with
  | none => .error (.internal (.other (ConfigError.missingBaseFee header.number).toString))
  | some baseFeePerGas =>
    .ok
      { timestamp := header.timestamp
        suggestedFeeRecipient := header.beneficiary
        prevRandao := header.mixHash
        gasLimit := header.gasLimit
        extraData := header.extraData
        baseFeePerGas
        parentBeaconBlockRoot := header.parentBeaconBlockRoot }

/-- The executor of the block after a parent. -/
def nextExecutor (spec : TaikoChainSpec) (db : Db) (parent : SealedHeader)
    (attributes : TaikoNextBlockEnvAttributes) (env : EvmEnv) : TaikoBlockExecutor :=
  .new (.createEvm db env.cfgEnv env.blockEnv) (contextForNextBlock spec parent attributes) spec

section

variable (revm : Revm) (checks : OverflowChecks) (roots : Roots) (spec : TaikoChainSpec)
  (parent : SealedHeader) (derivedBlock : RecoveredBlock)

/-- Executes a derived block with its candidates. -/
def executeDerivedBlock (db : Db) :
    Except Panic (Except BlockExecutionError DerivedBlockExecutionOutcome) :=
  match attributesFromDerivedBlock derivedBlock with
  | .error error => .ok (.error error)
  | .ok attributes => do
    let env ← nextEvmEnv spec checks parent.header attributes
    let e := nextExecutor spec db parent attributes env
    let outcome ← e.executeBlockWithCommittedTransactions revm checks
      derivedBlock.transactionsRecovered
    pure (outcome.map fun outcome =>
      { committedTransactions := outcome.committedTransactions
        executionResult := outcome.executionResult.result
        db := outcome.executionResult.db
        finalizedBlockZkGas := outcome.executionResult.finalizedBlockZkGas })

/-- A block with its senders, from its transactions with theirs. -/
def recoveredOf (block : Block) (transactions : List Recovered)
    (h : block.body.transactions = transactions.map (·.tx)) : RecoveredBlock where
  block
  senders := transactions.map (·.signer)
  length_eq := by rw [h, List.length_map, List.length_map]

lemma builtBlock_transactions (attributes : TaikoNextBlockEnvAttributes) (env : EvmEnv)
    (built : BuildOutput) :
    (builtBlock roots spec parent attributes env built).body.transactions = built.transactions :=
  rfl

/-- The block of the transactions that were committed. -/
def assembleFilteredBlock (committedTransactions : List Recovered)
    (executionResult : BlockExecutionResult) (finalizedBlockZkGas : U64) (stateRoot : B256) :
    Except Panic (Except BlockExecutionError RecoveredBlock) :=
  match attributesFromDerivedBlock derivedBlock with
  | .error error => .ok (.error error)
  | .ok attributes => do
    let env ← nextEvmEnv spec checks parent.header attributes
    let block := builtBlock roots spec parent attributes env
      ⟨finalizedBlockZkGas, committedTransactions.map (·.tx), executionResult, stateRoot⟩
    pure (.ok (recoveredOf block committedTransactions (builtBlock_transactions ..)))

end

@[simp] lemma transactionsRecovered_recoveredOf (block : Block) (transactions : List Recovered)
    (h : block.body.transactions = transactions.map (·.tx)) :
    (recoveredOf block transactions h).transactionsRecovered = transactions := by
  rw [RecoveredBlock.transactionsRecovered, recoveredOf]
  dsimp only
  rw [h, List.zipWith_map, List.zipWith_self]
  simp

/-! ### Importing what was filtered -/

/-- An environment that was derived from a parent is one of the attributes. -/
lemma nextEvmEnv_eq_buildingEnv {spec : TaikoChainSpec} {checks : OverflowChecks}
    {parent : Header} {attributes : TaikoNextBlockEnvAttributes} {env : EvmEnv}
    (h : nextEvmEnv spec checks parent attributes = .ok env) :
    ∃ number, env = buildingEnv spec attributes number := by
  obtain ⟨number, -, h⟩ := bind_eq_ok.mp h
  cases h
  exact ⟨number, rfl⟩

section

variable {revm : Revm} {checks : OverflowChecks} {roots : Roots} {spec : TaikoChainSpec}
  {parent : SealedHeader} {attributes : TaikoNextBlockEnvAttributes} {db : Db} {number : U64}
  {hashSlow : Header → B256}

lemma nextExecutor_fresh (env : EvmEnv) : (nextExecutor spec db parent attributes env).Fresh :=
  ⟨rfl, _, _, _, .inl rfl⟩

/-- The executor a built block is imported with is that of its building, under the difficulty of
its header and with the expectation of it. -/
lemma executorForBlock_builtSealed (built : BuildOutput) :
    executorForBlock spec db (builtSealed roots spec parent attributes built number hashSlow)
      = .ok (((nextExecutor spec db parent attributes
          (buildingEnv spec attributes number)).expecting
            (publishedDifficulty spec attributes built)).withDifficulty
          (if spec.isUnzenActive attributes.timestamp then built.zkGas.setWidth 256 else 0)) := by
  rw [executorForBlock, evmEnv_builtSealed, contextForBlock_builtSealed]
  rfl

/-- What a filtering execution on a parent committed executes to the same end in the executor
that the block assembled of it is imported with. -/
theorem builtSealed_executes (laws : revm.IgnoresDifficulty) {env : EvmEnv}
    (henv : nextEvmEnv spec checks parent.header attributes = .ok env)
    {started ended : TaikoBlockExecutor} {txs : List Recovered}
    {fin : TaikoBlockExecutor.Finished}
    (hpre : (nextExecutor spec db parent attributes env).applyPreExecutionChanges revm checks
      = .ok (.ok (), started))
    (hrun : Filtered (TaikoBlockExecutor.Commits revm checks)
      (TaikoBlockExecutor.Discards revm checks) started txs ended)
    (hfinish : ended.finish = .ok fin) {built : BuildOutput}
    (hbuilt : built.zkGas = fin.finalizedBlockZkGas) :
    ∃ e, executorForBlock spec db
        ((builtBlock roots spec parent attributes env built).sealSlow hashSlow) = .ok e ∧
      e.executeBlock revm checks txs = .ok (.ok fin) := by
  obtain ⟨number, rfl⟩ := nextEvmEnv_eq_buildingEnv henv
  refine ⟨_, executorForBlock_builtSealed built, ?_⟩
  refine TaikoBlockExecutor.withDifficulty_executeBlock laws _
    (TaikoBlockExecutor.executeBlock_of_filtered (nextExecutor_fresh _).tended.1
      (nextExecutor_fresh _).tended.2 hpre hrun hfinish ?_)
  rw [publishedDifficulty, hbuilt]
  split
  · exact .inr rfl
  · exact .inl rfl

end

/-! ### Derived blocks -/

section

variable {revm : Revm} {checks : OverflowChecks} {roots : Roots} {spec : TaikoChainSpec}
  {parent : SealedHeader} {derivedBlock : RecoveredBlock} {db : Db}

/-- The stages of a derivation. -/
lemma executeDerivedBlock_eq_ok {outcome : DerivedBlockExecutionOutcome}
    (h : executeDerivedBlock revm checks spec parent derivedBlock db = .ok (.ok outcome)) :
    ∃ attributes env, attributesFromDerivedBlock derivedBlock = .ok attributes ∧
      nextEvmEnv spec checks parent.header attributes = .ok env ∧
      (nextExecutor spec db parent attributes env).executeBlockWithCommittedTransactions revm
          checks derivedBlock.transactionsRecovered
        = .ok (.ok ⟨⟨outcome.executionResult, outcome.db, outcome.finalizedBlockZkGas⟩,
            outcome.committedTransactions⟩) := by
  rw [executeDerivedBlock] at h
  cases hattributes : attributesFromDerivedBlock derivedBlock with
  | error error =>
    rw [hattributes] at h
    cases h
  | ok attributes =>
    rw [hattributes] at h
    obtain ⟨env, henv, h⟩ := bind_eq_ok.mp h
    obtain ⟨error | committed, hrun, h⟩ := bind_eq_ok.mp h
    · cases h
    · cases h
      exact ⟨attributes, env, rfl, henv, hrun⟩

/-- The block assembled of a derivation is imported by an execution without filtering, with the
result of the derivation. -/
theorem derivedBlock_imports (laws : revm.IgnoresDifficulty) (roots : Roots)
    (hashSlow : Header → B256) (stateRoot : B256) {outcome : DerivedBlockExecutionOutcome}
    (h : executeDerivedBlock revm checks spec parent derivedBlock db = .ok (.ok outcome)) :
    ∃ block e,
      assembleFilteredBlock checks roots spec parent derivedBlock outcome.committedTransactions
          outcome.executionResult outcome.finalizedBlockZkGas stateRoot = .ok (.ok block) ∧
      block.transactionsRecovered = outcome.committedTransactions ∧
      executorForBlock spec db (block.block.sealSlow hashSlow) = .ok e ∧
      e.executeBlock revm checks block.transactionsRecovered
        = .ok (.ok ⟨outcome.executionResult, outcome.db, outcome.finalizedBlockZkGas⟩) := by
  obtain ⟨attributes, env, hattributes, henv, hrun⟩ := executeDerivedBlock_eq_ok h
  obtain ⟨started, ended, hpre, hfiltered, hfinish⟩ :=
    TaikoBlockExecutor.executeBlockWithCommittedTransactions_filtered hrun
  obtain ⟨importer, himporter, hexecuted⟩ :=
    @builtSealed_executes revm checks roots spec parent attributes db hashSlow laws env henv
      started ended _ _ hpre hfiltered hfinish
      ⟨outcome.finalizedBlockZkGas, outcome.committedTransactions.map (·.tx),
        outcome.executionResult, stateRoot⟩ rfl
  refine ⟨recoveredOf (builtBlock roots spec parent attributes env _)
    outcome.committedTransactions (builtBlock_transactions ..), importer, ?_,
    transactionsRecovered_recoveredOf .., himporter, ?_⟩
  · rw [assembleFilteredBlock, hattributes]
    exact bind_eq_ok.mpr ⟨env, henv, rfl⟩
  · rw [transactionsRecovered_recoveredOf]
    exact hexecuted

end

/-! A candidate block of an anchor and three transfers, one of them repeated. -/

lemma transferRevm_ignoresDifficulty : transferRevm.IgnoresDifficulty := by
  constructor <;> intro env d <;> rfl

/-- An anchor and transfers, one of them twice. -/
def candidateTransactions : List Recovered :=
  [transferAnchor, transferTx 0xa1 0, transferTx 0xa1 0, transferTx 0xa1 1]

/-- The block of the candidates. -/
def candidateBlock : RecoveredBlock :=
  recoveredOf
    { header := { genesisHeader.header with number := 1, timestamp := 1, baseFeePerGas := some 7 }
      body := ⟨candidateTransactions.map (·.tx), [], none⟩ }
    candidateTransactions rfl

/-- The repeated transfer is dropped, and the block of the other three is imported. -/
theorem derivedBlock_imports_transfers :
    ∃ (outcome : DerivedBlockExecutionOutcome) (block : RecoveredBlock) (e : TaikoBlockExecutor),
      executeDerivedBlock transferRevm .on transferSpec genesisHeader candidateBlock transferDb
        = .ok (.ok outcome) ∧
      block.transactionsRecovered = [transferAnchor, transferTx 0xa1 0, transferTx 0xa1 1] ∧
      executorForBlock transferSpec transferDb (block.block.sealSlow Header.stateRoot) = .ok e ∧
      e.executeBlock transferRevm .on block.transactionsRecovered
        = .ok (.ok ⟨outcome.executionResult, outcome.db, outcome.finalizedBlockZkGas⟩) := by
  obtain ⟨block, e, -, htransactions, hexecutor, hexecuted⟩ :=
    @derivedBlock_imports transferRevm .on transferSpec genesisHeader candidateBlock transferDb
      transferRevm_ignoresDifficulty emptyRoots Header.stateRoot 0 _ rfl
  exact ⟨_, block, e, rfl, htransactions.trans rfl, hexecutor, hexecuted⟩

end AlethiaReth
