import AlethiaReth.Payload.Builder
import AlethiaReth.Rpc.Debug

/-!
Candidate transaction lists from the pool, on the state of the latest block.

* `selection_callers_memory`: what either caller of selection leaves in the memory of overflows
  is sound.
* `selection_callers_blockGas_iff`: neither caller of selection is stopped by the gas of
  the block at a candidate, unless one list with the largest gas limit there is was asked
  for; there the limit of the list saturates and lets every candidate through.
-/

namespace AlethiaReth

open MachineInt Outcome TxSelection

variable (blockMaxGasLimit maxTransactionsLists : U64) {checks : OverflowChecks}
  {zkOverflows memory : ZkOverflowMemory}

/-- The zk gas held back for the anchor of the block the lists are for. -/
def txPoolAnchorZkGasReserve : U64 := 2000000

/-- The limits of a request. -/
structure TxPoolContentWithMinTipParams where
  beneficiary : Address
  baseFee : U64
  blockMaxGasLimit : U64
  maxBytesPerTxList : U64
  locals : Option (List Address)
  maxTransactionsLists : U64
  minTip : U64
  deriving DecidableEq, Repr

/-- A list of the answer. -/
structure PreBuiltTxList (RpcTx : Type) where
  txList : List RpcTx
  estimatedGasUsed : U64
  bytesLength : U64
  deriving DecidableEq, Repr

/-- What a request reads of the node: the latest block, where there is one and the provider
answers, the states, the conversion to answers, and the pool. -/
structure TxPoolNode (RpcTx : Type) where
  latest : Option (Option SealedHeader)
  stateByBlockHash : B256 → Option Db
  fillPending : Recovered → Except String RpcTx
  pool : Pool

/-- The gas of all lists together. -/
def combinedTxListsGasLimit :
    Except EthApiError U64 :=
  match checkedMul blockMaxGasLimit maxTransactionsLists with
  | some gasLimit => .ok gasLimit
  | none =>
    .error (.invalidParams "`blockMaxGasLimit` * `maxTransactionsLists` overflows u64")

/-- The block the lists are simulated in: that of the parent again, with another fee
recipient, base fee and gas limit. -/
def txPoolBlockEnv (parent : SealedHeader) (params : TxPoolContentWithMinTipParams)
    (gasLimit : U64) : TaikoNextBlockEnvAttributes where
  timestamp := parent.header.timestamp
  suggestedFeeRecipient := params.beneficiary
  prevRandao := parent.header.mixHash
  gasLimit
  extraData := parent.header.extraData
  baseFeePerGas := params.baseFee
  parentBeaconBlockRoot := none

section Request

variable {RpcTx : Type} (revm : Revm) (checks : OverflowChecks) (codec : Codec)
  (spec : TaikoChainSpec) (node : TxPoolNode RpcTx)

/-- The limits as selection takes them. -/
def txPoolSelectionConfig (params : TxPoolContentWithMinTipParams) (stateSeed : B256) :
    TxSelectionConfig where
  baseFee := params.baseFee
  gasLimitPerList := params.blockMaxGasLimit
  maxDaBytesPerList := params.maxBytesPerTxList
  daSizeZlibGuardBytes := defaultDaZlibGuardBytes
  maxLists := params.maxTransactionsLists.toNat
  minTip := params.minTip
  locals := params.locals.getD []
  stateSeed

/-- The entry of a list. -/
def preBuiltTxList (fillPending : Recovered → Except String RpcTx) (list : ExecutedTxList) :
    Except EthApiError (PreBuiltTxList RpcTx) := do
  let txList ← list.transactions.mapM fun etx => (fillPending etx.tx).mapError .other
  pure ⟨txList, list.totalGasUsed, list.totalDaBytes⟩

/-- The lists of a builder that waits for its first transaction, and the memory after. -/
def txPoolLists (config : TxSelectionConfig) (builder : BlockBuilder)
    (zkOverflows : ZkOverflowMemory) :
    Except Panic (Except EthApiError (List (PreBuiltTxList RpcTx)) × ZkOverflowMemory) := do
  let (outcome, selection) ← selectAndExecutePoolTransactions revm checks codec config builder
    node.pool zkOverflows fun _ => false
  match outcome with
  | .ok (.completed lists) =>
    pure (lists.mapM (preBuiltTxList node.fillPending), selection.overflows)
  | .ok .cancelled => throw .unreachable
  | .error error => pure (.error (.internal error), selection.overflows)

/-- A request for candidate lists, and the memory of overflows it leaves. -/
def txPoolContentWithMinTip (params : TxPoolContentWithMinTipParams)
    (zkOverflows : ZkOverflowMemory) :
    Except Panic (Except EthApiError (List (PreBuiltTxList RpcTx)) × ZkOverflowMemory) :=
  if params.maxTransactionsLists = 0 then
    .ok (.error (.invalidParams "`maxTransactionsLists` must not be `0`"), zkOverflows)
  else
    match combinedTxListsGasLimit params.blockMaxGasLimit params.maxTransactionsLists with
    | .error error => .ok (.error error, zkOverflows)
    | .ok combinedGasLimit =>
      match node.latest with
      | none => .ok (.error .internalEthError, zkOverflows)
      | some none => .ok (.error .headerNotFound, zkOverflows)
      | some (some parent) =>
        match node.stateByBlockHash parent.hash with
        | none =>
          .ok (.error (.evmCustom "Failed to initialize EVM state provider"), zkOverflows)
        | some db => do
          let env := txPoolBlockEnv parent params combinedGasLimit
          let stateSeed := selectionStateSeed codec parent.hash env []
          let builder ← builderForNextBlock spec checks db parent env
          match builder.executor.reserveBlockZkGas txPoolAnchorZkGasReserve with
          | (.error error, _) => pure (.error (.internal error), zkOverflows)
          | (.ok (), executor) =>
            txPoolLists revm checks codec node (txPoolSelectionConfig params stateSeed)
              { builder with executor := executor } zkOverflows

end Request

/-! ### The gas of the block -/

section BlockGas

variable {RpcTx : Type} {revm : Revm} {checks : OverflowChecks} {codec : Codec}
  {spec : TaikoChainSpec} {gasLimit available : U64} {node : TxPoolNode RpcTx}
  {zkOverflows memory : ZkOverflowMemory}

/-- Lists fail to convert only where one of their transactions does. -/
lemma mapM_preBuiltTxList (fillPending : Recovered → Except String RpcTx)
    (lists : List ExecutedTxList) :
    Satisfies (fun error => ∃ message, error = .other message) (fun _ => True)
      (lists.mapM (preBuiltTxList fillPending)) := by
  refine Satisfies.mapM (fun list => ?_) lists
  refine Satisfies.bind (Satisfies.mapM (fun etx => ?_) list.transactions) fun _ _ => trivial
  cases fillPending etx.tx with
  | error message => exact ⟨message, rfl⟩
  | ok tx => exact trivial

/-- A candidate of the lists is refused for the gas of the block only where they may use
all the gas there is. -/
lemma txPoolLists_blockGas (hgas : revm.ReportsGasWithinLimit) {config : TxSelectionConfig}
    {builder : BlockBuilder} (hmax : 1 ≤ config.maxLists) (hready : builder.executor.Ready)
    (hfits : builder.executor.gasUsed.toNat + config.maxLists * config.gasLimitPerList.toNat
      ≤ builder.executor.evm.block.gasLimit.toNat)
    (h : txPoolLists revm checks codec node config builder zkOverflows
      = .ok (.error (.internal (.validation
        (.transactionGasLimitMoreThanAvailableBlockGas gasLimit available))), memory)) :
    config.gasLimitPerList = BitVec.allOnes 64 := by
  obtain ⟨⟨outcome, selection⟩, hselect, h⟩ := bind_eq_ok.mp h
  match outcome with
  | .error error =>
    cases h
    by_contra hlimit
    exact selection_keeps_blockGas hgas hmax hready hlimit hfits hselect
  | .ok .cancelled => cases h
  | .ok (.completed lists) =>
    have hconverted := mapM_preBuiltTxList node.fillPending lists
    have hfailed : lists.mapM (preBuiltTxList node.fillPending) = .error _ :=
      congrArg Prod.fst (Except.ok.inj h)
    rw [hfailed] at hconverted
    obtain ⟨message, hother⟩ := hconverted
    cases hother

/-- A request is stopped by the gas of the block only where it asks for one list with all
the gas there is. -/
lemma txPoolContentWithMinTip_blockGas (hgas : revm.ReportsGasWithinLimit)
    {params : TxPoolContentWithMinTipParams}
    (h : txPoolContentWithMinTip revm checks codec spec node params zkOverflows
      = .ok (.error (.internal (.validation
        (.transactionGasLimitMoreThanAvailableBlockGas gasLimit available))), memory)) :
    params.blockMaxGasLimit = BitVec.allOnes 64 ∧ params.maxTransactionsLists = 1 := by
  rw [txPoolContentWithMinTip, combinedTxListsGasLimit] at h
  split at h
  · cases h
  · next hsome =>
    have hpos : 1 ≤ params.maxTransactionsLists.toNat := by
      refine Nat.one_le_iff_ne_zero.mpr fun hzero => hsome ?_
      exact BitVec.eq_of_toNat_eq hzero
    cases hcombined : checkedMul params.blockMaxGasLimit params.maxTransactionsLists with
    | none =>
      rw [hcombined] at h
      cases h
    | some combined =>
      have hproduct := checkedMul_eq_some.mp hcombined
      rw [hcombined] at h
      dsimp only at h
      split at h
      · cases h
      · cases h
      · split at h
        · cases h
        · obtain ⟨builder, hbuilder, h⟩ := bind_eq_ok.mp h
          obtain ⟨hfresh, -, hlimit⟩ := builderForNextBlock_fresh hbuilder
          obtain ⟨hsame, htended, hunused, -⟩ := TaikoBlockExecutor.reserveBlockZkGas_tended
            hfresh.tended.1 txPoolAnchorZkGasReserve
          split at h
          · next hreserved =>
            cases h
            rw [TaikoBlockExecutor.reserveBlockZkGas] at hreserved
            split at hreserved <;> cases hreserved
          · next executor hreserved =>
            rw [hreserved] at hsame htended hunused
            have hzero : executor.gasUsed = 0 := hunused.trans hfresh.gasUsed
            have hblock : executor.evm.block.gasLimit = combined := by
              rw [TaikoEvmWrapper.SameBut] at hsame
              rw [hsame]
              exact hlimit
            have hall := txPoolLists_blockGas hgas hpos ⟨htended, ?_⟩ ?_ h
            · -- any more lists of so much gas would not have fit together
              refine ⟨hall, BitVec.eq_of_toNat_eq ?_⟩
              have hfull : params.blockMaxGasLimit.toNat = 2 ^ 64 - 1 := by
                rw [show params.blockMaxGasLimit = BitVec.allOnes 64 from hall]
                rfl
              have hlt := combined.isLt
              rw [hproduct, hfull] at hlt
              change params.maxTransactionsLists.toNat = 1
              omega
            · dsimp only
              rw [hzero]
              exact Nat.zero_le _
            · change executor.gasUsed.toNat + params.maxTransactionsLists.toNat
                * params.blockMaxGasLimit.toNat ≤ executor.evm.block.gasLimit.toNat
              rw [hzero, hblock, hproduct, Nat.mul_comm]
              simp

end BlockGas

/-! ### The state of selection -/

lemma txPoolLists_memory {RpcTx : Type} {revm : Revm} {codec : Codec} {node : TxPoolNode RpcTx}
    {parentHash : B256} {env : TaikoNextBlockEnvAttributes} {config : TxSelectionConfig}
    {builder : BlockBuilder} {answer : Except EthApiError (List (PreBuiltTxList RpcTx))}
    (h : txPoolLists revm checks codec node config builder zkOverflows = .ok (answer, memory)) :
    memory = SelectionCall.memoryAfter revm checks codec
      ⟨parentHash, env, config, builder, node.pool, fun _ => false⟩ zkOverflows := by
  obtain ⟨⟨outcome, selection⟩, hselect, h⟩ := bind_eq_ok.mp h
  have hafter : SelectionCall.memoryAfter revm checks codec
      ⟨parentHash, env, config, builder, node.pool, fun _ => false⟩ zkOverflows
        = selection.overflows := SelectionCall.memoryAfter_of_ok hselect
  match outcome with
  | .error error =>
    cases h
    exact hafter.symm
  | .ok .cancelled => cases h
  | .ok (.completed lists) =>
    rw [hafter]
    exact (congrArg Prod.snd (Except.ok.inj h)).symm

/-- The memory a request leaves is the one it found, or that of a selection that starts with
an empty block, under the digest of its parent and its environment. -/
lemma txPoolContentWithMinTip_memory {RpcTx : Type} {revm : Revm} {codec : Codec}
    {spec : TaikoChainSpec} {start : B256 → TaikoNextBlockEnvAttributes → TaikoBlockExecutor}
    {node : TxPoolNode RpcTx} {params : TxPoolContentWithMinTipParams}
    {answer : Except EthApiError (List (PreBuiltTxList RpcTx))}
    (hstart : ∀ db parent env builder, node.latest = some (some parent) →
      node.stateByBlockHash parent.hash = some db →
      builderForNextBlock spec checks db parent env = .ok builder →
      start parent.hash env = (builder.executor.reserveBlockZkGas txPoolAnchorZkGasReserve).2)
    (h : txPoolContentWithMinTip revm checks codec spec node params zkOverflows
      = .ok (answer, memory)) :
    memory = zkOverflows ∨ ∃ call : SelectionCall,
      call.Starts revm checks codec start ∧ call.pool = node.pool ∧
        call.builder.transactions = [] ∧
        memory = call.memoryAfter revm checks codec zkOverflows := by
  rw [txPoolContentWithMinTip] at h
  split at h
  · cases h
    exact .inl rfl
  · split at h
    · cases h
      exact .inl rfl
    · next combinedGasLimit _ =>
      split at h
      · cases h
        exact .inl rfl
      · cases h
        exact .inl rfl
      · next parent hlatest =>
        split at h
        · cases h
          exact .inl rfl
        · next db hdb =>
          obtain ⟨builder, hbuilder, h⟩ := bind_eq_ok.mp h
          obtain ⟨hfresh, hempty, -⟩ := builderForNextBlock_fresh hbuilder
          have hexecutor := hstart db parent _ builder hlatest hdb hbuilder
          split at h
          · cases h
            exact .inl rfl
          -- every refusal up to here leaves the memory; now selection is called
          · next executor hreserved =>
            obtain ⟨-, htended, -, hready⟩ :=
              TaikoBlockExecutor.reserveBlockZkGas_tended hfresh.tended.1
                txPoolAnchorZkGasReserve
            rw [hreserved] at hexecutor htended hready
            refine .inr ⟨⟨parent.hash, txPoolBlockEnv parent params combinedGasLimit, _,
              { builder with executor := executor }, node.pool, fun _ => false⟩,
              ⟨?_, ?_, htended, hready.trans hfresh.tended.2⟩, rfl, hempty,
              txPoolLists_memory h⟩
            · rw [History.digest, History.hashes, SelectionCall.history, hempty]
              rfl
            · dsimp only
              rw [hempty, hexecutor]
              rfl

/-- Either caller of selection leaves a sound memory, if calls like these left the one it found:
the selection of a payload starts after the anchor, and that of a request with an empty block,
each under the digest of its history. -/
theorem selection_callers_memory {Digest RpcTx : Type} {revm : Revm} {codec : Codec}
    {spec : TaikoChainSpec} {start : B256 → TaikoNextBlockEnvAttributes → TaikoBlockExecutor}
    {strings : Set Bytes} {txs : Set Recovered}
    (h : Reached revm checks codec start strings txs zkOverflows) :
    (∀ (parent : SealedHeader) (job : TaikoPayloadBuilderAttributes Digest) anchorTx e gasUsed
        builder baseFee pool isCancelled, start parent.hash job.nextBlockEnv = e → e.Tended →
      BlockBuilder.executeTransaction revm checks ⟨e, []⟩ anchorTx
        = .ok (.ok gasUsed, builder) →
      let call := payloadSelectionCall codec parent job anchorTx baseFee zkOverflows builder pool
        isCancelled
      call.InPlay revm checks codec strings txs zkOverflows →
      Sound revm checks codec start strings txs
        (call.memoryAfter revm checks codec zkOverflows)) ∧
    ∀ (node : TxPoolNode RpcTx) params answer memory,
      (∀ db parent env builder, node.latest = some (some parent) →
        node.stateByBlockHash parent.hash = some db →
        builderForNextBlock spec checks db parent env = .ok builder →
        start parent.hash env
          = (builder.executor.reserveBlockZkGas txPoolAnchorZkGasReserve).2) →
      (∀ call : SelectionCall, call.pool = node.pool → call.builder.transactions = [] →
        call.InPlay revm checks codec strings txs zkOverflows) →
      txPoolContentWithMinTip revm checks codec spec node params zkOverflows
        = .ok (answer, memory) →
      Sound revm checks codec start strings txs memory := by
  refine ⟨?_, ?_⟩
  · intro parent job anchorTx e gasUsed builder baseFee pool isCancelled hstart htended hanchor
      call hplay
    exact (h.call (payloadSelection_starts _ _ _ _ hstart htended hanchor) hplay).sound
  · intro node params answer memory hstart hplay hrequest
    rcases txPoolContentWithMinTip_memory hstart hrequest with
      rfl | ⟨call, hstarts, hpool, hempty, rfl⟩
    · exact h.sound
    · exact (h.call hstarts (hplay call hpool hempty)).sound

/-! ### A request for all the gas -/

/-- The parent of the transfers. -/
def transferParent : SealedHeader :=
  ⟨⟨0, 0, 0, 0, 0, 0, none, 0, 0, 0, 30000000, 0, 1, [], 0, none, some 7, none, none, none, none,
    none, none⟩, 0⟩

/-- A node with a funded account. -/
def transferNode (txs : List Recovered) : TxPoolNode TransactionSigned where
  latest := some (some transferParent)
  stateByBlockHash _ := some transferDb
  fillPending tx := .ok tx.tx
  pool := listPool txs

/-- One list with the largest gas limit there is. -/
def allGasParams : TxPoolContentWithMinTipParams :=
  ⟨0xc0, 7, BitVec.allOnes 64, 1000, none, 1, 0⟩

/-- A transaction that may use all the gas. -/
def allGasTx : Recovered :=
  ⟨{ (transferTx 0xa1 1).tx with gasLimit := BitVec.allOnes 64 }, 0xa1⟩

/-- The answer to a request for all the gas, after a transfer. -/
def allGasAnswer :
    Except Panic (Except EthApiError (List (PreBuiltTxList TransactionSigned)) ×
      ZkOverflowMemory) :=
  txPoolContentWithMinTip transferRevm .on unitCodec transferSpec
    (transferNode [transferTx 0xa1 0, allGasTx]) allGasParams fun _ => none

lemma allGasAnswer_eq : ∃ memory, allGasAnswer = .ok (.error (.internal (.validation
    (.transactionGasLimitMoreThanAvailableBlockGas (BitVec.allOnes 64)
      (BitVec.allOnes 64 - 21000)))), memory) := ⟨_, rfl⟩

/-- A request for one list with the largest gas limit, from a pool with a transfer and a
transaction that may use all the gas: the gas of the block stops the request at the
second. -/
theorem selection_refused_for_blockGas :
    transferRevm.ReportsGasWithinLimit ∧
      ∃ memory, txPoolContentWithMinTip transferRevm .on unitCodec transferSpec
        (transferNode [transferTx 0xa1 0, allGasTx])
        ⟨0xc0, 7, BitVec.allOnes 64, 1000, none, 1, 0⟩ (fun _ => none)
          = .ok (.error (.internal (.validation (.transactionGasLimitMoreThanAvailableBlockGas
            (BitVec.allOnes 64) (BitVec.allOnes 64 - 21000)))), memory) :=
  ⟨transferRevm_reportsGasWithinLimit, allGasAnswer_eq⟩

/-! ### Both callers -/

/-- The gas of the block stops no payload but one whose anchor exceeds it, before anything is
selected.  It stops no request with given limits, whatever is in the pool and however it
executes, exactly where they are not those of one list with the largest gas limit. -/
theorem selection_callers_blockGas_iff :
    (∀ (Digest : Type) (revm : Revm) (checks : OverflowChecks) (codec : Codec)
        (spec : TaikoChainSpec) (db : Db) (parent : SealedHeader)
        (job : TaikoPayloadBuilderAttributes Digest) (pool : Pool)
        (zkOverflows : ZkOverflowMemory) (isCancelled : ℕ → Bool) (gasLimit available : U64),
      revm.ReportsGasWithinLimit →
      taikoPayload revm checks codec spec db parent job pool zkOverflows isCancelled
        = .ok (.error (.evm (.validation
          (.transactionGasLimitMoreThanAvailableBlockGas gasLimit available)))) →
      ∃ anchorTx, job.transactions = none ∧ job.anchorTransaction = some anchorTx ∧
        job.gasLimit < anchorTx.tx.gasLimit) ∧
    ((∀ (RpcTx : Type) (revm : Revm) (checks : OverflowChecks) (codec : Codec)
          (spec : TaikoChainSpec) (node : TxPoolNode RpcTx)
          (params : TxPoolContentWithMinTipParams) (zkOverflows memory : ZkOverflowMemory)
          (gasLimit available : U64),
        revm.ReportsGasWithinLimit →
        params.blockMaxGasLimit = blockMaxGasLimit →
        params.maxTransactionsLists = maxTransactionsLists →
        txPoolContentWithMinTip revm checks codec spec node params zkOverflows
          ≠ .ok (.error (.internal (.validation
            (.transactionGasLimitMoreThanAvailableBlockGas gasLimit available))), memory)) ↔
      ¬ (blockMaxGasLimit = BitVec.allOnes 64 ∧ maxTransactionsLists = 1)) := by
  refine ⟨?_, ?_, ?_⟩
  · intro Digest revm checks codec spec db parent job pool zkOverflows isCancelled gasLimit
      available hgas h
    exact taikoPayload_blockGas hgas h
  · rintro h ⟨rfl, rfl⟩
    obtain ⟨memory, hanswer⟩ := allGasAnswer_eq
    exact h _ _ _ _ _ _ allGasParams _ memory _ _ transferRevm_reportsGasWithinLimit rfl rfl
      hanswer
  · intro hlimits RpcTx revm checks codec spec node params zkOverflows memory gasLimit available
      hgas hmax hlists h
    have hall := txPoolContentWithMinTip_blockGas hgas h
    rw [hmax, hlists] at hall
    exact hlimits hall

/-- A job for a block with less gas than its anchor may use. -/
def smallBlockJob : TaikoPayloadBuilderAttributes Unit :=
  ⟨⟨payloadIdVersionV2, ()⟩, 0, 0xc0, 0, [], some 0, 0, 0xc0, 500000, 1, 0, 7, none, [],
    some transferAnchor⟩

/-- The small block fails at its anchor, and no request for two small lists fails. -/
theorem selection_callers_blockGas_small :
    (∃ anchorTx, smallBlockJob.transactions = none ∧
      smallBlockJob.anchorTransaction = some anchorTx ∧
      smallBlockJob.gasLimit < anchorTx.tx.gasLimit) ∧
    ∀ (node : TxPoolNode Unit) (zkOverflows memory : ZkOverflowMemory) (gasLimit available : U64),
      txPoolContentWithMinTip transferRevm .on unitCodec transferSpec node
        ⟨0xc0, 7, 30000, 1000, none, 2, 0⟩ zkOverflows
          ≠ .ok (.error (.internal (.validation
            (.transactionGasLimitMoreThanAvailableBlockGas gasLimit available))), memory) := by
  obtain ⟨hpayload, hrequest⟩ := selection_callers_blockGas_iff 30000 2
  refine ⟨?_, fun node zkOverflows memory gasLimit available => ?_⟩
  · exact hpayload Unit transferRevm .on unitCodec transferSpec transferDb transferParent
      smallBlockJob (listPool []) (fun _ => none) (fun _ => false) 1000000 500000
      transferRevm_reportsGasWithinLimit rfl
  · exact hrequest.mpr (by decide) Unit transferRevm .on unitCodec transferSpec node _
      zkOverflows memory gasLimit available transferRevm_reportsGasWithinLimit rfl rfl

end AlethiaReth
