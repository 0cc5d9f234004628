import AlethiaReth.Block.Config

/-!
The block made of an execution: a header from the environment and the context it ran in,
with the roots of what it produced.
-/

namespace AlethiaReth

open MachineInt

/-- The roots and the bloom of a block's contents. -/
structure Roots where
  calculateTransactionRoot : List TransactionSigned → B256
  calculateReceiptRoot : List Receipt → B256
  logsBloom : List Log → Bloom

/-- What a block is assembled from. -/
structure BlockAssemblerInput where
  evmEnv : EvmEnv
  executionCtx : TaikoBlockExecutionCtx
  transactions : List TransactionSigned
  output : BlockExecutionResult
  stateRoot : B256

/-- The block of an execution. -/
def assembleBlock (roots : Roots) (input : BlockAssemblerInput) : Block :=
  let blockEnv := input.evmEnv.blockEnv
  let ctx := input.executionCtx
  let receipts := input.output.receipts
  { header :=
      { parentHash := ctx.parentHash
        ommersHash := emptyOmmerRootHash
        beneficiary := blockEnv.beneficiary
        stateRoot := input.stateRoot
        transactionsRoot := roots.calculateTransactionRoot input.transactions
        receiptsRoot := roots.calculateReceiptRoot receipts
        withdrawalsRoot := some emptyWithdrawals
        logsBloom := roots.logsBloom (receipts.flatMap Receipt.logs)
        timestamp := blockEnv.timestamp
        mixHash := blockEnv.prevrandao.getD 0
        nonce := some 0
        baseFeePerGas := some blockEnv.basefee
        number := blockEnv.number
        gasLimit := blockEnv.gasLimit
        difficulty :=
          if ctx.isUnzenActive then ctx.finalizedBlockZkGas.setWidth 256
          else blockEnv.difficulty
        gasUsed := input.output.gasUsed
        extraData := ctx.extraData
        parentBeaconBlockRoot := ctx.parentBeaconBlockRoot
        blobGasUsed := if ctx.isUnzenActive then some 0 else none
        excessBlobGas := if ctx.isUnzenActive then some 0 else none
        requestsHash := if ctx.isUnzenActive then some emptyRequestsHash else none
        blockAccessListHash := none
        slotNumber := none }
    body :=
      { transactions := input.transactions
        ommers := []
        withdrawals := some [] } }

/-- What the execution of a block under construction leaves for its assembly. -/
structure BuildOutput where
  zkGas : U64
  transactions : List TransactionSigned
  output : BlockExecutionResult
  stateRoot : B256

section

variable (roots : Roots) (spec : TaikoChainSpec) (parent : SealedHeader)
  (attributes : TaikoNextBlockEnvAttributes) (env : EvmEnv) (built : BuildOutput)

/-- The block assembled after building on a parent: the execution has published its zk gas
in the context. -/
def builtBlock : Block :=
  assembleBlock roots
    { evmEnv := env
      executionCtx :=
        { contextForNextBlock spec parent attributes with finalizedBlockZkGas := built.zkGas }
      transactions := built.transactions
      output := built.output
      stateRoot := built.stateRoot }

end

end AlethiaReth
