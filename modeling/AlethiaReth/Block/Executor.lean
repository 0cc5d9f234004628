import AlethiaReth.Evm.Wrapper

/-!
The block executor: pre-execution system calls, the zk gas bracket and the block
gas check around every transaction, the commit, and the checks at the end.

A function that can panic answers in `Except Panic`; below that it answers an
error of the block or a value, beside the executor it leaves.
-/

namespace AlethiaReth

open MachineInt

/-! ### Errors -/

/-- The transaction or the header is invalid. -/
inductive BlockValidationError where
  | invalidTx (hash : B256) (error : InvalidTransaction)
  | transactionGasLimitMoreThanAvailableBlockGas (transactionGasLimit blockAvailableGas : U64)
  | missingParentBeaconBlockRoot
  | cancunGenesisParentBeaconBlockRootNotZero (parentBeaconBlockRoot : B256)
  | blockHashContractCall (message : String)
  | beaconRootContractCall (parentBeaconBlockRoot : B256) (message : String)
  deriving DecidableEq, Repr

/-- The execution failed. -/
inductive InternalBlockExecutionError where
  | evm (hash : B256) (error : EVMError)
  | zkGasLimitExceeded
  | zkGasDifficultyMismatch (expected got : U256)
  | other (message : String)
  deriving DecidableEq, Repr

/-- Why a block or a transaction is not executed. -/
inductive BlockExecutionError where
  | validation (error : BlockValidationError)
  | internal (error : InternalBlockExecutionError)
  deriving DecidableEq, Repr

namespace BlockExecutionError

/-- The zk gas of the block is used up. -/
def zkGasLimitError : BlockExecutionError := .internal .zkGasLimitExceeded

/-- The block error of a failed transaction run. -/
def evm (error : EVMError) (hash : B256) : BlockExecutionError :=
  match error with
  | .transaction error => .validation (.invalidTx hash error)
  | error => .internal (.evm hash error)

end BlockExecutionError

/-- That is the error. -/
def isZkGasLimitExceeded : BlockExecutionError → Bool
  | .internal .zkGasLimitExceeded => true
  | _ => false

/-- The failures of a non-anchor transaction that filtering execution skips. -/
def isRecoverableNonAnchorTxError (error : BlockExecutionError) : Bool :=
  isZkGasLimitExceeded error ||
    match error with
    | .validation (.invalidTx _ _) => true
    | .validation (.transactionGasLimitMoreThanAvailableBlockGas _ _) => true
    | _ => false

/-! ### The executor -/

/-- The context of a block's execution.  `finalizedBlockZkGas` is the shared cell the
assembler reads. -/
structure TaikoBlockExecutionCtx where
  parentHash : B256
  parentBeaconBlockRoot : Option B256
  extraData : Bytes
  isUnzenActive : Bool
  expectedDifficulty : Option U256
  finalizedBlockZkGas : U64
  deriving DecidableEq, Repr

/-- The receipt of a transaction. -/
structure Receipt where
  txType : TxType
  success : Bool
  cumulativeGasUsed : U64
  logs : List Log
  deriving DecidableEq, Repr

/-- An executed transaction before its commit. -/
structure EthTxResult where
  result : ResultAndState
  txType : TxType

/-- What a block leaves besides its state. -/
structure BlockExecutionResult where
  receipts : List Receipt
  gasUsed : U64
  deriving DecidableEq, Repr

/-- The state of an execution. -/
structure TaikoBlockExecutor where
  spec : TaikoChainSpec
  ctx : TaikoBlockExecutionCtx
  evm : TaikoEvmWrapper
  receipts : List Receipt
  gasUsed : U64
  zkGasExhausted : Bool
  evmExtraExecutionCtxInitialized : Bool

/-- The answer of an executor function and the executor it leaves. -/
abbrev Answered (α : Type) := Except BlockExecutionError α × TaikoBlockExecutor

namespace TaikoBlockExecutor

variable (e : TaikoBlockExecutor) (revm : Revm) (checks : OverflowChecks)

/-- A fresh executor: it owns the anchor context and the zk gas bracket of its EVM. -/
def new (evm : TaikoEvmWrapper) (ctx : TaikoBlockExecutionCtx) (spec : TaikoChainSpec) :
    TaikoBlockExecutor where
  spec := spec
  ctx := ctx
  evm := { evm with deriveAnchorCtx := false, resetZkGasPerTransact := false }
  receipts := []
  gasUsed := 0
  zkGasExhausted := false
  evmExtraExecutionCtxInitialized := false

/-- Publishes the zk gas of the block. -/
def setFinalizedBlockZkGas (zkGas : U64) : TaikoBlockExecutor :=
  { e with ctx := { e.ctx with finalizedBlockZkGas := zkGas } }

/-- Publishes the finalized total of the meter, when there is one. -/
def syncFinalizedBlockZkGas : TaikoBlockExecutor :=
  match e.evm.blockZkGasUsed with
  | some zkGas => e.setFinalizedBlockZkGas zkGas
  | none => e

/-- Takes zk gas of the block, and publishes what is used. -/
def reserveBlockZkGas (amount : U64) :
    Except BlockExecutionError Unit × TaikoBlockExecutor :=
  match e.evm.reserveBlockZkGas amount with
  | (.ok (some zkGas), evm) => (.ok (), { e with evm := evm }.setFinalizedBlockZkGas zkGas)
  | (.ok none, evm) => (.ok (), { e with evm := evm })
  | (.error .limitExceeded, evm) => (.error .zkGasLimitError, { e with evm := evm })

/-- Drops what the current transaction used. -/
def resetCurrentTransactionZkGas : TaikoBlockExecutor :=
  { e with evm := e.evm.resetTransactionZkGas }.syncFinalizedBlockZkGas

/-- Commits the in-flight zk gas.  A commit beyond the budget is unreachable code. -/
def commitCurrentTransactionZkGas : Except Panic TaikoBlockExecutor :=
  match e.evm.commitTransactionZkGas with
  | (.ok (some zkGas), evm) => .ok ({ e with evm := evm }.setFinalizedBlockZkGas zkGas)
  | (.ok none, evm) => .ok { e with evm := evm }
  | (.error .limitExceeded, _) => .error .unreachable

/-- The zk gas is the expected difficulty. -/
def validateExpectedZkGasDifficulty : Except BlockExecutionError Unit :=
  match e.ctx.expectedDifficulty with
  | none => .ok ()
  | some expected =>
    let got := e.ctx.finalizedBlockZkGas.setWidth 256
    if got = expected then .ok ()
    else .error (.internal (.zkGasDifficultyMismatch expected got))

/-- Lets selection go on after an overflow: the flag and the in-flight zk gas go. -/
def clearZkGasExhaustion : TaikoBlockExecutor :=
  { e with zkGasExhausted := false }.resetCurrentTransactionZkGas

/-- There is zk gas for one more transaction. -/
def canFitAnotherTransactionZkGas : Bool :=
  e.evm.canFitTxIntrinsicZkGas

/-! ### Transactions -/

/-- The exit of a transaction that overflowed the zk gas budget. -/
def exhaustZkGas : TaikoBlockExecutor :=
  { e with zkGasExhausted := true }.resetCurrentTransactionZkGas

/-- Runs a transaction whose intrinsic zk gas is charged. -/
def transactCharged (e : TaikoBlockExecutor) (tx : Recovered) :
    Except Panic (Answered EthTxResult) := do
  let (outcome, evm) ← e.evm.transactRaw revm checks tx.toTxEnv
  let e := { e with evm := evm }
  match outcome with
  | .error error =>
    if error.toString = zkGasLimitErr then
      pure (.error .zkGasLimitError, e.exhaustZkGas)
    else
      pure (.error (.evm error tx.tx.hash), e.resetCurrentTransactionZkGas)
  | .ok result =>
    if e.evm.transactionZkGasCommitWouldExceed then
      pure (.error .zkGasLimitError, e.exhaustZkGas)
    else
      pure (.ok ⟨result, tx.tx.txType⟩, e)

/-- Executes a transaction and leaves the state. -/
def executeTransactionWithoutCommit (e : TaikoBlockExecutor) (tx : Recovered) :
    Except Panic (Answered EthTxResult) :=
  if e.zkGasExhausted then
    .ok (.error .zkGasLimitError, e)
  else do
    let blockAvailableGas ← plainSub checks e.evm.block.gasLimit e.gasUsed
    if tx.tx.gasLimit > blockAvailableGas then
      pure (.error (.validation (.transactionGasLimitMoreThanAvailableBlockGas
        tx.tx.gasLimit blockAvailableGas)), e)
    else
      let e := e.resetCurrentTransactionZkGas
      match e.evm.chargeTxIntrinsicZkGas with
      | (.error .limitExceeded, evm) =>
        pure (.error .zkGasLimitError, exhaustZkGas { e with evm := evm })
      | (.ok (), evm) => ({ e with evm := evm } : TaikoBlockExecutor).transactCharged revm checks tx

/-- Commits an executed transaction, and answers the gas it used. -/
def commitTransaction (e : TaikoBlockExecutor) (output : EthTxResult) :
    Except Panic (U64 × TaikoBlockExecutor) := do
  let gasUsed := output.result.result.txGasUsed
  let e ← e.commitCurrentTransactionZkGas
  let cumulativeGasUsed ← plainAdd checks e.gasUsed gasUsed
  let receipt : Receipt :=
    ⟨output.txType, output.result.result.success, cumulativeGasUsed, output.result.result.logs⟩
  pure (gasUsed, { e with
    gasUsed := cumulativeGasUsed
    receipts := e.receipts ++ [receipt]
    evm := { e.evm with db := e.evm.db.commit output.result.state } })

/-- Executes a transaction and commits it when the condition says so; otherwise its
zk gas is dropped. -/
def executeTransactionWithCommitCondition (e : TaikoBlockExecutor) (tx : Recovered)
    (shouldCommit : EthTxResult → Bool) :
    Except Panic (Answered (Option U64)) := do
  match ← e.executeTransactionWithoutCommit revm checks tx with
  | (.error error, e) => pure (.error error, e)
  | (.ok output, e) =>
    if shouldCommit output then do
      let (gasUsed, e) ← e.commitTransaction checks output
      pure (.ok (some gasUsed), e)
    else
      pure (.ok none, e.resetCurrentTransactionZkGas)

/-- Executes a transaction and commits it. -/
def executeTransaction (e : TaikoBlockExecutor) (tx : Recovered) : Except Panic (Answered U64) := do
  let (answer, e) ← e.executeTransactionWithCommitCondition revm checks tx fun _ => true
  pure (answer.map (·.getD 0), e)

/-! ### Before the first transaction -/

/-- The caller of the Ethereum system calls. -/
def systemAddress : Address := 0xfffffffffffffffffffffffffffffffffffffffe

/-- The contract of the parent block hashes. -/
def historyStorageAddress : Address := 0x0000f90827f1c53a10cb7a02335b175320002935

/-- The contract of the beacon block roots. -/
def beaconRootsAddress : Address := 0x000f3df6d732807ef1319fb7b8bb8522d0beac02

/-- The 32 big-endian bytes of a hash. -/
def hashBytes (hash : B256) : Bytes :=
  (List.range 32).map fun i => (hash >>> (8 * (31 - i))).setWidth 8

/-- A system call of the block: its changeset is committed, its error rendered. -/
def applySystemCall (e : TaikoBlockExecutor) (contract : Address) (data : Bytes)
    (failure : String → BlockValidationError) :
    Except Panic (Answered Unit) := do
  let (outcome, evm) ← e.evm.transactSystemCall revm checks systemAddress contract data
  match outcome with
  | .error error =>
    pure (.error (.validation (failure error.toString)), { e with evm := evm })
  | .ok res => pure (.ok (), { e with evm := { evm with db := evm.db.commit res.state } })

/-- The system call of EIP-2935. -/
def applyBlockhashesContractCall (e : TaikoBlockExecutor) : Except Panic (Answered Unit) :=
  if !e.spec.isPragueActiveAtTimestamp e.evm.block.timestamp ∨ e.evm.block.number = 0 then
    .ok (.ok (), e)
  else
    e.applySystemCall revm checks historyStorageAddress (hashBytes e.ctx.parentHash)
      .blockHashContractCall

/-- The system call of EIP-4788. -/
def applyBeaconRootContractCall (e : TaikoBlockExecutor) : Except Panic (Answered Unit) :=
  if !e.spec.isCancunActiveAtTimestamp e.evm.block.timestamp then
    .ok (.ok (), e)
  else
    match e.ctx.parentBeaconBlockRoot with
    | none => .ok (.error (.validation .missingParentBeaconBlockRoot), e)
    | some root =>
      if e.evm.block.number = 0 then
        if root = 0 then .ok (.ok (), e)
        else .ok (.error (.validation (.cancunGenesisParentBeaconBlockRootNotZero root)), e)
      else
        e.applySystemCall revm checks beaconRootsAddress (hashBytes root)
          (.beaconRootContractCall root)

/-- The base-fee share percentage of a block, read by the fork's decoder. -/
def baseFeeSharePctg : Except Panic U64 :=
  if e.spec.isShastaActive e.evm.block.timestamp then
    .ok ((decodeShastaBasefeeSharingPctg e.ctx.extraData).setWidth 64)
  else if e.spec.isOntakeActiveAtBlock e.evm.block.number then
    decodePostOntakeExtraData e.ctx.extraData
  else
    .ok 0

/-- Snapshots the golden-touch nonce and installs the anchor context, once. -/
def initializeAnchorContext (e : TaikoBlockExecutor) :
    Except Panic (Answered Unit) :=
  if e.evmExtraExecutionCtxInitialized then
    .ok (.ok (), e)
  else
    match e.evm.db.basic goldenTouch with
    | .error error => .ok (.error (.internal (.other error.message)), e)
    | .ok account => do
      let pctg ← e.baseFeeSharePctg
      let (outcome, evm) ← e.evm.transactSystemCall revm checks goldenTouch
        (getTreasuryAddress e.evm.cfg.chainId)
        (encodeAnchorSystemCallData pctg ((account.map (·.nonce)).getD 0))
      match outcome with
      | .error error => pure (.error (.internal (.other error.toString)), { e with evm := evm })
      | .ok _ =>
        pure (.ok (), { e with evm := evm, evmExtraExecutionCtxInitialized := true })

/-- The calls before the first transaction. -/
def applyPreExecutionChanges (e : TaikoBlockExecutor) :
    Except Panic (Answered Unit) := do
  match ← e.applyBlockhashesContractCall revm checks with
  | (.error error, e) => pure (.error error, e)
  | (.ok (), e) =>
    match ← e.applyBeaconRootContractCall revm checks with
    | (.error error, e) => pure (.error error, e)
    | (.ok (), e) => e.initializeAnchorContext revm checks

/-! ### The end of a block -/

/-- The result of a block, with the database it leaves and the finalized zk gas it
publishes. -/
structure Finished where
  result : BlockExecutionResult
  db : Db
  finalizedBlockZkGas : U64

/-- Ends the block. -/
def finish : Except BlockExecutionError Finished := do
  let e := e.syncFinalizedBlockZkGas
  e.validateExpectedZkGasDifficulty
  pure ⟨⟨e.receipts, e.gasUsed⟩, e.evm.db, e.ctx.finalizedBlockZkGas⟩

/-- Executes the transactions of a block in order; the first failure ends it. -/
def executeTransactions (revm : Revm) (checks : OverflowChecks) :
    TaikoBlockExecutor → List Recovered → Except Panic (Answered Unit)
  | e, [] => .ok (.ok (), e)
  | e, tx :: txs => do
    match ← e.executeTransaction revm checks tx with
    | (.error error, e) => pure (.error error, e)
    | (.ok _, e) => executeTransactions revm checks e txs

/-- Executes a block without filtering. -/
def executeBlock (e : TaikoBlockExecutor) (txs : List Recovered) :
    Except Panic (Except BlockExecutionError Finished) := do
  match ← e.applyPreExecutionChanges revm checks with
  | (.error error, _) => pure (.error error)
  | (.ok (), e) =>
    match ← e.executeTransactions revm checks txs with
    | (.error error, _) => pure (.error error)
    | (.ok (), e) => pure e.finish

/-! ### Prover execution -/

/-- Executes a transaction of a candidate block: whether it committed, or the error
of a fatal failure.  No failure of the anchor is recoverable. -/
def tryExecuteFiltered (e : TaikoBlockExecutor) (tx : Recovered) (isAnchorTransaction : Bool) :
    Except Panic (Answered Bool) := do
  match ← e.executeTransaction revm checks tx with
  | (.ok _, e) => pure (.ok true, e)
  | (.error error, e) =>
    if !isAnchorTransaction ∧ isRecoverableNonAnchorTxError error then
      pure (.ok false, e)
    else
      pure (.error error, e)

/-- The loop of the prover over the transactions of a block; the zero address stands for a
signer that was not recovered. -/
def executeSkipping (revm : Revm) (checks : OverflowChecks) :
    TaikoBlockExecutor → Bool → List Recovered → Except Panic (Answered Unit)
  | e, _, [] => .ok (.ok (), e)
  | e, isAnchorTransaction, tx :: txs =>
    if !isAnchorTransaction ∧ tx.signer = 0 then
      executeSkipping revm checks e false txs
    else do
      match ← e.tryExecuteFiltered revm checks tx isAnchorTransaction with
      | (.error error, e) => pure (.error error, e)
      | (.ok _, e) =>
        if e.zkGasExhausted then pure (.ok (), e)
        else executeSkipping revm checks e false txs

/-- Executes a block as the prover does: invalid transactions are skipped, and an exhausted
zk gas budget ends it. -/
def executeBlockProver (e : TaikoBlockExecutor) (txs : List Recovered) :
    Except Panic (Except BlockExecutionError Finished) := do
  match ← e.applyPreExecutionChanges revm checks with
  | (.error error, _) => pure (.error error)
  | (.ok (), e) =>
    match ← executeSkipping revm checks e true txs with
    | (.error error, _) => pure (.error error)
    | (.ok (), e) => pure e.finish

/-- The loop over a candidate block between two candidates: the executor and the
transactions it has committed. -/
structure CandidateLoop where
  executor : TaikoBlockExecutor
  committedTransactions : List Recovered

/-- The loop over a candidate block; the zero address stands for a signer that was not
recovered.  A panic leaves the loop where it was. -/
def executeCandidates (revm : Revm) (checks : OverflowChecks) :
    CandidateLoop → Bool → List Recovered →
      Except Panic (Except BlockExecutionError Unit) × CandidateLoop
  | loop, _, [] => (.ok (.ok ()), loop)
  | loop, isAnchorTransaction, tx :: txs =>
    if !isAnchorTransaction ∧ tx.signer = 0 then
      executeCandidates revm checks loop false txs
    else
      match loop.executor.tryExecuteFiltered revm checks tx isAnchorTransaction with
      | .error panic => (.error panic, loop)
      | .ok (.error error, e) => (.ok (.error error), { loop with executor := e })
      | .ok (.ok hasCommitted, e) =>
        let loop : CandidateLoop := ⟨e,
          if hasCommitted then loop.committedTransactions ++ [tx]
          else loop.committedTransactions⟩
        if e.zkGasExhausted then (.ok (.ok ()), loop)
        else executeCandidates revm checks loop false txs

/-- What a filtering execution keeps. -/
structure CommittedBlockExecutionOutcome where
  executionResult : Finished
  committedTransactions : List Recovered

/-- Executes a candidate block, and answers the transactions it committed. -/
def executeBlockWithCommittedTransactions (e : TaikoBlockExecutor) (txs : List Recovered) :
    Except Panic (Except BlockExecutionError CommittedBlockExecutionOutcome) := do
  match ← e.applyPreExecutionChanges revm checks with
  | (.error error, _) => pure (.error error)
  | (.ok (), e) =>
    match executeCandidates revm checks ⟨e, []⟩ true txs with
    | (.error panic, _) => throw panic
    | (.ok (.error error), _) => pure (.error error)
    | (.ok (.ok ()), loop) =>
      pure (loop.executor.finish.map (⟨·, loop.committedTransactions⟩))

end TaikoBlockExecutor

end AlethiaReth
