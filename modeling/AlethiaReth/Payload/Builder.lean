import AlethiaReth.Block.OverflowMemory
import AlethiaReth.Payload.Attributes
import AlethiaReth.Payload.Execution

/-!
The transaction phase of a payload build, which fails for the gas of the block only at an anchor
whose gas limit is above that of the block (`taikoPayload_blockGas`).
-/

namespace AlethiaReth

open MachineInt Outcome TxSelection

section Build

variable {Digest : Type} (revm : Revm) (checks : OverflowChecks) (codec : Codec)
  (spec : TaikoChainSpec) (parent : SealedHeader) (job : TaikoPayloadBuilderAttributes Digest)

/-- Amsterdam is not active. -/
def ensureAmsterdamInactive (timestamp : U64) : Except PayloadBuilderError Unit :=
  if spec.isAmsterdamActiveAtTimestamp timestamp then
    .error (.internal ("cannot build a Taiko payload with the Amsterdam fork active: "
      ++ "EIP-7928 block access lists are unsupported"))
  else
    .ok ()

/-- What the pool is selected under: the gas limit of the block less that of the anchor. -/
def poolExecutionContext (anchorTx : Recovered) (baseFee : U64) (zkOverflows : ZkOverflowMemory) :
    PoolExecutionContext where
  anchorTx
  parentNumber := parent.header.number
  blockStateSeed := selectionStateSeed codec parent.hash job.nextBlockEnv []
  blockTimestamp := job.timestamp
  baseFee
  gasLimit := saturatingSub job.gasLimit anchorV3V4GasLimit
  zkOverflows

/-- Fills the block of a job whose calls before the first transaction are done. -/
def fillPayload (pool : Pool) (zkOverflows : ZkOverflowMemory) (isCancelled : ℕ → Bool)
    (builder : BlockBuilder) :
    Except Panic (Except PayloadBuilderError ExecutionOutcome × BlockBuilder) :=
  let baseFee := builder.executor.evm.block.basefee
  match job.transactions with
  | some transactions =>
    match executeProvidedTransactions revm checks baseFee builder transactions isCancelled with
    | (.error panic, _) => .error panic
    | (.ok answer, builder) => .ok (answer, builder)
  | none =>
    match job.anchorTransaction with
    | none => .ok (.error .missingPayload, builder)
    | some anchorTx =>
      executeAnchorAndPoolTransactions revm checks codec spec builder pool
        (poolExecutionContext codec parent job anchorTx baseFee zkOverflows) isCancelled

/-- The transactions of a payload, on the state its parent left; a build that fails drops
its builder. -/
def taikoPayload (db : Db) (parent : SealedHeader) (job : TaikoPayloadBuilderAttributes Digest)
    (pool : Pool) (zkOverflows : ZkOverflowMemory) (isCancelled : ℕ → Bool) :
    Except Panic (Except PayloadBuilderError (ExecutionOutcome × BlockBuilder)) :=
  match ensureAmsterdamInactive spec job.timestamp with
  | .error error => .ok (.error error)
  | .ok () => do
    let builder ← builderForNextBlock spec checks db parent job.nextBlockEnv
    match ← builder.executor.applyPreExecutionChanges revm checks with
    | (.error error, _) => pure (.error (.otherExecution error))
    | (.ok (), executor) =>
      let (answer, builder) ← fillPayload revm checks codec spec parent job pool zkOverflows
        isCancelled { builder with executor := executor }
      pure (answer.map fun outcome => (outcome, builder))

end Build

/-! ### The gas of the block -/

section BlockGas

variable {Digest : Type} {revm : Revm} {checks : OverflowChecks} {codec : Codec}
  {spec : TaikoChainSpec} {gasLimit available : U64} {ctx : PoolExecutionContext}

/-- A given list is not stopped by the gas of the block: what does not fit is skipped. -/
lemma executeProvided_not_blockGas (baseFee : U64) (totalFees : U256) (isCancelled : ℕ → Bool)
    (builder : BlockBuilder) (txs : List Recovered) :
    (executeProvided revm checks baseFee totalFees isCancelled builder txs).1
      ≠ .ok (.error (.evm (.validation
        (.transactionGasLimitMoreThanAvailableBlockGas gasLimit available)))) := by
  induction txs generalizing totalFees isCancelled builder with
  | nil =>
    intro h
    cases h
  | cons tx txs ih =>
    rw [executeProvided]
    split
    · intro h
      cases h
    · split
      · exact ih _ _ _
      · split
        · intro h
          cases h
        · split
          · intro h
            cases h
          · exact ih _ _ _
        · split
          · intro h
            cases h
          · split
            · exact ih _ _ _
            · exact ih _ _ _
            · next hother =>
              intro h
              cases h
              exact hother _ _ rfl

/-- An anchor has at most the gas limit of the latest forks. -/
lemma ValidAnchor.gasLimit_le {tx : TransactionSigned} {ctx : AnchorValidationContext}
    (h : ValidAnchor tx spec ctx) : tx.gasLimit.toNat ≤ anchorV3V4GasLimit.toNat := by
  rw [h.gasLimit, anchorGasLimit]
  split <;> decide

/-- The outcome of a payload is a failed execution only where its selection failed so. -/
lemma poolOutcome_eq_evm {error : BlockExecutionError}
    {outcome : Except BlockExecutionError SelectionOutcome}
    (h : poolOutcome ctx outcome = .error (.evm error)) : outcome = .error error := by
  have htips : ∀ total etxs, sumTips ctx.baseFee total etxs ≠ .error (.evm error) := by
    intro total etxs
    induction etxs generalizing total with
    | nil =>
      intro h
      cases h
    | cons etx etxs ih =>
      rw [sumTips]
      split
      · intro h
        cases h
      · exact ih _
  rcases outcome with _ | (_ | (_ | ⟨list, _⟩))
  · cases h
    rfl
  · cases h
  · cases h
  · rw [poolOutcome] at h
    cases hsum : sumTips ctx.baseFee 0 list.transactions with
    | error tipError =>
      rw [hsum] at h
      cases h
      exact absurd hsum (htips _ _)
    | ok total =>
      rw [hsum] at h
      cases h

/-- With the gas limit of the anchor left out of its list, selection after the anchor is not
stopped by the gas of the block; only the anchor itself can be. -/
lemma executeAnchorAndPoolTransactions_blockGas (hgas : revm.ReportsGasWithinLimit)
    {builder b : BlockBuilder} {pool : Pool} {isCancelled : ℕ → Bool}
    (hready : builder.executor.Ready) (hunused : builder.executor.gasUsed = 0)
    (hlimit : ctx.gasLimit
      = saturatingSub builder.executor.evm.block.gasLimit anchorV3V4GasLimit)
    (h : executeAnchorAndPoolTransactions revm checks codec spec builder pool ctx isCancelled
      = .ok (.error (.evm (.validation
        (.transactionGasLimitMoreThanAvailableBlockGas gasLimit available))), b)) :
    builder.executor.evm.block.gasLimit < ctx.anchorTx.tx.gasLimit := by
  obtain ⟨blockNumber, -, h⟩ := bind_eq_ok.mp h
  split at h
  · cases h
  · next hanchor =>
    have hanchorLimit := (validateAnchorTransaction_eq_ok.mp hanchor).gasLimit_le
    obtain ⟨⟨answer, b₁⟩, hrun, h⟩ := bind_eq_ok.mp h
    cases answer with
    | error error =>
      obtain ⟨e, hexecutor, rfl⟩ := BlockBuilder.executeTransaction_eq_error.mp hrun
      cases h
      have hlt := TaikoBlockExecutor.executeTransaction_blockGas hready hexecutor
      rw [hunused] at hlt
      simpa [BitVec.lt_def] using hlt
    | ok gasUsed =>
      obtain ⟨e, hexecutor, rfl⟩ := BlockBuilder.executeTransaction_eq_ok.mp hrun
      obtain ⟨hready', hblock, hused, hle⟩ :=
        TaikoBlockExecutor.executeTransaction_gas hgas hready hexecutor
      obtain ⟨⟨outcome, selection⟩, hselect, h⟩ := bind_eq_ok.mp h
      have houtcome := congrArg Prod.fst (Except.ok.inj h)
      have hfailed : outcome = _ := poolOutcome_eq_evm houtcome
      rw [hfailed] at hselect
      have hlimit' : ctx.gasLimit.toNat = e.evm.block.gasLimit.toNat - 1000000 := by
        rw [hlimit, toNat_saturatingSub, hblock]
        rfl
      -- after the anchor the pool has its gas limit left, so selection cannot fail so
      refine absurd hselect (selection_keeps_blockGas hgas le_rfl hready' ?_ ?_)
      · intro hall
        have hmax := congrArg BitVec.toNat (show ctx.gasLimit = _ from hall)
        rw [hlimit', BitVec.toNat_allOnes] at hmax
        have hlt := e.evm.block.gasLimit.isLt
        omega
      · have hwithin := hready'.within
        have hconst : anchorV3V4GasLimit.toNat = 1000000 := rfl
        rw [hunused] at hused
        change e.gasUsed.toNat + 1 * ctx.gasLimit.toNat ≤ e.evm.block.gasLimit.toNat
        rw [hlimit']
        simp at hused
        omega

/-- A build fails for the gas of the block only where the anchor does not fit it. -/
theorem taikoPayload_blockGas (hgas : revm.ReportsGasWithinLimit) {db : Db}
    {parent : SealedHeader} {job : TaikoPayloadBuilderAttributes Digest} {pool : Pool}
    {zkOverflows : ZkOverflowMemory} {isCancelled : ℕ → Bool}
    (h : taikoPayload revm checks codec spec db parent job pool zkOverflows isCancelled
      = .ok (.error (.evm (.validation
        (.transactionGasLimitMoreThanAvailableBlockGas gasLimit available))))) :
    ∃ anchorTx, job.transactions = none ∧ job.anchorTransaction = some anchorTx ∧
      job.gasLimit < anchorTx.tx.gasLimit := by
  rw [taikoPayload, ensureAmsterdamInactive] at h
  split at h
  · next hinactive =>
    split at hinactive <;> cases hinactive
    cases h
  · obtain ⟨builder, hbuilder, h⟩ := bind_eq_ok.mp h
    obtain ⟨hfresh, -, hlimit⟩ := builderForNextBlock_fresh hbuilder
    obtain ⟨⟨answer, e⟩, hpre, h⟩ := bind_eq_ok.mp h
    cases answer with
    | error error => cases h
    | ok u =>
      -- the pre-execution calls use no gas, so the fill starts with all of the block's
      have htended := (TaikoBlockExecutor.applyPreExecutionChanges_tended hfresh.tended.1 hpre).1
      obtain ⟨hunused, hblock⟩ :=
        TaikoBlockExecutor.applyPreExecutionChanges_gasUsed hfresh.tended.1 hpre
      have hunused' : e.gasUsed = 0 := hunused.trans hfresh.gasUsed
      have hlimit' : e.evm.block.gasLimit = job.gasLimit :=
        (congrArg BlockEnv.gasLimit hblock).trans hlimit
      obtain ⟨⟨answer, b⟩, hfill, h⟩ := bind_eq_ok.mp h
      have hanswer : answer = .error (.evm (.validation
          (.transactionGasLimitMoreThanAvailableBlockGas gasLimit available))) := by
        cases answer with
        | error error =>
          cases h
          rfl
        | ok outcome => cases h
      subst hanswer
      rw [fillPayload] at hfill
      dsimp only at hfill
      split at hfill
      · split at hfill
        · cases hfill
        · next hrun =>
          cases hfill
          exact absurd (congrArg Prod.fst hrun) (executeProvided_not_blockGas _ _ _ _ _)
      · next hnone =>
        split at hfill
        · cases hfill
        · next anchorTx hsome =>
          refine ⟨anchorTx, hnone, hsome, ?_⟩
          have hlt := executeAnchorAndPoolTransactions_blockGas hgas
            ⟨htended, ?_⟩ hunused' ?_ hfill
          · rw [← hlimit']
            exact hlt
          · dsimp only
            rw [hunused']
            exact Nat.zero_le _
          · change saturatingSub job.gasLimit _ = saturatingSub e.evm.block.gasLimit _
            rw [hlimit']

end BlockGas

/-! ### The state of selection -/

section Starts

variable {Digest : Type} (codec : Codec) (parent : SealedHeader)
  (job : TaikoPayloadBuilderAttributes Digest) (anchorTx : Recovered) (baseFee : U64)
  (zkOverflows : ZkOverflowMemory) (builder : BlockBuilder) (pool : Pool) (isCancelled : ℕ → Bool)

/-- The selection of a payload, with a builder that holds the anchor. -/
def payloadSelectionCall : SelectionCall where
  parentHash := parent.hash
  env := job.nextBlockEnv
  config := poolSelectionConfig codec
    (poolExecutionContext codec parent job anchorTx baseFee zkOverflows)
  builder := builder
  pool := pool
  isCancelled := isCancelled

variable {codec parent job anchorTx builder}

/-- The selection of a payload starts after the anchor, under the digest of that history. -/
lemma payloadSelection_starts {revm : Revm} {checks : OverflowChecks}
    {start : B256 → TaikoNextBlockEnvAttributes → TaikoBlockExecutor}
    {e : TaikoBlockExecutor} {gasUsed : U64}
    (hstart : start parent.hash job.nextBlockEnv = e) (htended : e.Tended)
    (hanchor : BlockBuilder.executeTransaction revm checks ⟨e, []⟩ anchorTx
      = .ok (.ok gasUsed, builder)) :
    (payloadSelectionCall codec parent job anchorTx baseFee zkOverflows builder pool
      isCancelled).Starts revm checks codec start := by
  obtain ⟨executor, hexecutor, rfl⟩ := BlockBuilder.executeTransaction_eq_ok.mp hanchor
  have hcommits : TaikoBlockExecutor.Commits revm checks e anchorTx executor :=
    ⟨gasUsed, hexecutor⟩
  refine ⟨rfl, ?_, hcommits.tended htended, hcommits.ready⟩
  have hnone : e.executeTransactions revm checks [] = .ok (.ok (), e) := rfl
  dsimp only [payloadSelectionCall]
  rw [hstart]
  exact TaikoBlockExecutor.executeTransactions_concat hnone hexecutor

end Starts

end AlethiaReth
