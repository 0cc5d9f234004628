import AlethiaReth.Block.Executor
import AlethiaReth.Consensus.Validation

/-!
Block validation before and after execution.
-/

namespace AlethiaReth

open MachineInt Outcome

/-- No transaction carries blobs. -/
def validateNoBlobTransactions (transactions : List TransactionSigned) :
    Except ConsensusError Unit :=
  ensure (transactions.all isAllowedTxType = true) (.msg "Blob transactions are not allowed")

/-- The body of a block against its header.  A body with no root of its ommers has the empty
one. -/
def validateBlockPreExecution (calculateOmmersRoot : List Header → Option B256)
    (calculateTransactionRoot : List TransactionSigned → B256) (block : Block) :
    Except ConsensusError Unit := do
  let ommersHash := block.header.ommersHash
  ensure (ommersHash = emptyOmmerRootHash) (.bodyOmmersHashDiff ommersHash emptyOmmerRootHash)
  let bodyOmmersHash := (calculateOmmersRoot block.body.ommers).getD emptyOmmerRootHash
  ensure (bodyOmmersHash = emptyOmmerRootHash)
    (.bodyOmmersHashDiff bodyOmmersHash emptyOmmerRootHash)
  let calculatedRoot := calculateTransactionRoot block.body.transactions
  ensure (block.header.transactionsRoot = calculatedRoot)
    (.bodyTransactionRootDiff calculatedRoot block.header.transactionsRoot)
  validateNoBlobTransactions block.body.transactions

/-- On Unzen every transaction has a receipt. -/
def validateZkGasPostExecution (block : RecoveredBlock) (spec : TaikoChainSpec)
    (receipts : List Receipt) : Except ConsensusError Unit :=
  let bodyTransactionCount := block.block.body.transactions.length
  let committedReceiptCount := receipts.length
  ensure (spec.isUnzenActive block.block.header.timestamp = false ∨
      bodyTransactionCount = committedReceiptCount)
    (.msg ("Unzen block body extends past zk gas truncation point: body has "
      ++ reprStr bodyTransactionCount ++ " transactions but execution committed "
      ++ reprStr committedReceiptCount))

/-- The checks after execution. -/
def validateBlockPostExecution
    (ethereum : RecoveredBlock → BlockExecutionResult → Except ConsensusError Unit)
    (block : RecoveredBlock) (spec : TaikoChainSpec) (result : BlockExecutionResult) :
    Except ConsensusError Unit := do
  ethereum block result
  validateZkGasPostExecution block spec result.receipts
  validateAnchorTransactionInBlock block.block.header.timestamp block.block.header.number
    block.block.header.baseFeePerGas block.block.body.transactions spec

/-- On Unzen the rule is one receipt for each transaction. -/
theorem validateZkGasPostExecution_eq_ok {block : RecoveredBlock} {spec : TaikoChainSpec}
    (hunzen : spec.isUnzenActive block.block.header.timestamp = true)
    {receipts : List Receipt} :
    validateZkGasPostExecution block spec receipts = .ok () ↔
      block.block.body.transactions.length = receipts.length := by
  simp only [validateZkGasPostExecution, ensure_eq_ok, hunzen]
  simp

end AlethiaReth
