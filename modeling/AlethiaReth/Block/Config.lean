import AlethiaReth.Block.Executor

/-!
The environment and the context a block executes in, from its header or, for a block
that is being built, from its parent and the attributes of the next block.
-/

namespace AlethiaReth

open MachineInt

/-- The Ethereum forks the EVM runs under. -/
inductive SpecId where
  | shanghai
  | cancun
  | prague
  | osaka
  deriving DecidableEq, Repr

/-- A fork is at or after another. -/
def SpecId.isEnabledIn (spec other : SpecId) : Bool := other.ctorIdx ≤ spec.ctorIdx

/-- The Ethereum fork that is executed. -/
def TaikoSpecId.intoEthSpec : TaikoSpecId → SpecId
  | .genesis | .ontake | .pacaya | .shasta => .shanghai
  | .unzen => .osaka

/-- The price of a unit of blob gas where there is one: that of no excess. -/
def taikoBlobGasprice (spec : TaikoSpecId) : Option U128 :=
  if spec.intoEthSpec.isEnabledIn .cancun then some 1 else none

/-- The cap Osaka puts on the gas limit of a transaction. -/
def maxTxGasLimitOsaka : U64 := 16777216

/-- What can be missing from a header or a payload. -/
inductive ConfigError where
  | missingBaseFee (blockNumber : U64)
  | missingUnzenHeaderDifficulty (blockNumber : U64)
  deriving DecidableEq, Repr

/-- The text of an error. -/
def ConfigError.toString : ConfigError → String
  | .missingBaseFee blockNumber =>
    "missing base_fee_per_gas in block " ++ reprStr blockNumber.toNat
  | .missingUnzenHeaderDifficulty blockNumber =>
    "missing header difficulty for Unzen payload at block " ++ reprStr blockNumber.toNat

/-- The environment of a block. -/
structure EvmEnv where
  cfgEnv : CfgEnv
  blockEnv : BlockEnv
  deriving DecidableEq, Repr

/-- The environment the constructors below share.  The fork is that of the timestamp and
number, the gas cap that of the timestamp, and the blobs of a transaction have no limit. -/
def evmEnvAt (spec : TaikoChainSpec) (number : U64) (beneficiary : Address) (timestamp : U64)
    (difficulty : U256) (prevrandao : B256) (gasLimit basefee : U64) : EvmEnv :=
  let specId := taikoSpecByTimestampAndBlockNumber spec timestamp number
  { cfgEnv :=
      { chainId := spec.chainId
        spec := specId
        maxBlobsPerTx := none
        txGasLimitCap :=
          if spec.isOsakaActiveAtTimestamp timestamp then some maxTxGasLimitOsaka else none
        disableNonceCheck := false
        disableBalanceCheck := false }
    blockEnv :=
      { number
        beneficiary
        timestamp
        gasLimit
        basefee
        difficulty
        prevrandao := some prevrandao
        blobGasprice := taikoBlobGasprice specId } }

/-- The attributes of the next block, which its parent does not determine. -/
structure TaikoNextBlockEnvAttributes where
  timestamp : U64
  suggestedFeeRecipient : Address
  prevRandao : B256
  gasLimit : U64
  extraData : Bytes
  baseFeePerGas : U64
  parentBeaconBlockRoot : Option B256
  deriving DecidableEq, Repr

/-- Unzen needs a beacon root, and has the zero root where none is given. -/
def normalizeParentBeaconBlockRoot (isUnzenActive : Bool)
    (parentBeaconBlockRoot : Option B256) : Option B256 :=
  if isUnzenActive then parentBeaconBlockRoot.or (some 0) else none

section

variable (spec : TaikoChainSpec)

/-- The environment of a block that is imported. -/
def evmEnv (header : Header) : Except ConfigError EvmEnv :=
  match header.baseFeePerGas with
  | none => .error (.missingBaseFee header.number)
  | some basefee =>
    .ok (evmEnvAt spec header.number header.beneficiary header.timestamp
      (if spec.isUnzenActive header.timestamp then header.difficulty else 0)
      header.mixHash header.gasLimit basefee)

/-- The environment of a block that is built. -/
def nextEvmEnv (checks : OverflowChecks) (parent : Header)
    (attributes : TaikoNextBlockEnvAttributes) : Except Panic EvmEnv := do
  let number ← plainAdd checks parent.number 1
  pure (evmEnvAt spec number attributes.suggestedFeeRecipient attributes.timestamp 0
    attributes.prevRandao attributes.gasLimit attributes.baseFeePerGas)

/-- The context of a block that is imported. -/
def contextForBlock (block : SealedBlock) : Except ConfigError TaikoBlockExecutionCtx :=
  let header := block.block.header
  let isUnzenActive := spec.isUnzenActive header.timestamp
  match header.baseFeePerGas with
  | none => .error (.missingBaseFee header.number)
  | some _ =>
    .ok
      { parentHash := header.parentHash
        parentBeaconBlockRoot := header.parentBeaconBlockRoot
        extraData := header.extraData
        isUnzenActive
        expectedDifficulty := if isUnzenActive then some header.difficulty else none
        finalizedBlockZkGas := 0 }

/-- The context of a block that is built. -/
def contextForNextBlock (parent : SealedHeader) (ctx : TaikoNextBlockEnvAttributes) :
    TaikoBlockExecutionCtx :=
  let isUnzenActive := spec.isUnzenActive ctx.timestamp
  { parentHash := parent.hash
    parentBeaconBlockRoot :=
      normalizeParentBeaconBlockRoot isUnzenActive ctx.parentBeaconBlockRoot
    extraData := ctx.extraData
    isUnzenActive
    expectedDifficulty := none
    finalizedBlockZkGas := 0 }

end

/-- A beacon root that is absent or zero. -/
def ZeroRoot (root : Option B256) : Prop := root = none ∨ root = some 0

/-- Normalized, an absent or zero root is the one an absent root gives. -/
theorem ZeroRoot.normalize {root : Option B256} (h : ZeroRoot root) (isUnzenActive : Bool) :
    normalizeParentBeaconBlockRoot isUnzenActive root =
      normalizeParentBeaconBlockRoot isUnzenActive none := by
  rcases h with rfl | rfl <;> rfl

/-- Two pairs of environment and context that agree on everything the execution of a
transaction without blobs reads. -/
structure ExecutesAs (env env' : EvmEnv) (ctx ctx' : TaikoBlockExecutionCtx) : Prop where
  spec : env.cfgEnv.spec = env'.cfgEnv.spec
  chainId : env.cfgEnv.chainId = env'.cfgEnv.chainId
  txGasLimitCap : env.cfgEnv.txGasLimitCap = env'.cfgEnv.txGasLimitCap
  number : env.blockEnv.number = env'.blockEnv.number
  beneficiary : env.blockEnv.beneficiary = env'.blockEnv.beneficiary
  timestamp : env.blockEnv.timestamp = env'.blockEnv.timestamp
  prevrandao : env.blockEnv.prevrandao = env'.blockEnv.prevrandao
  gasLimit : env.blockEnv.gasLimit = env'.blockEnv.gasLimit
  basefee : env.blockEnv.basefee = env'.blockEnv.basefee
  blobGasprice : env.blockEnv.blobGasprice = env'.blockEnv.blobGasprice
  parentHash : ctx.parentHash = ctx'.parentHash
  parentBeaconBlockRoot : ctx.parentBeaconBlockRoot = ctx'.parentBeaconBlockRoot
  extraData : ctx.extraData = ctx'.extraData
  isUnzenActive : ctx.isUnzenActive = ctx'.isUnzenActive

/-- Environments of one block that differ in the difficulty alone execute alike, in contexts
that differ in the expectation and the published zk gas alone. -/
theorem executesAs_evmEnvAt (spec : TaikoChainSpec) (number : U64) (beneficiary : Address)
    (timestamp : U64) (difficulty difficulty' : U256) (prevrandao : B256)
    (gasLimit basefee : U64) (ctx : TaikoBlockExecutionCtx) (expected : Option U256)
    (zkGas : U64) :
    ExecutesAs
      (evmEnvAt spec number beneficiary timestamp difficulty prevrandao gasLimit basefee)
      (evmEnvAt spec number beneficiary timestamp difficulty' prevrandao gasLimit basefee)
      { ctx with expectedDifficulty := expected, finalizedBlockZkGas := zkGas } ctx := by
  constructor <;> rfl

/-- Sets the limit on the blobs of a transaction. -/
def EvmEnv.setMaxBlobsPerTx (env : EvmEnv) (maxBlobsPerTx : U64) : EvmEnv :=
  { env with cfgEnv := { env.cfgEnv with maxBlobsPerTx := some maxBlobsPerTx } }

lemma ExecutesAs.setMaxBlobsPerTx {env env' : EvmEnv} {ctx ctx' : TaikoBlockExecutionCtx}
    (h : ExecutesAs env env' ctx ctx') (maxBlobsPerTx : U64) :
    ExecutesAs (env.setMaxBlobsPerTx maxBlobsPerTx) env' ctx ctx' := by
  cases h
  constructor <;> assumption

end AlethiaReth
