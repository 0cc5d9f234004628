import AlethiaReth.Block.Assembler

/-!
Execution payloads: a block as the engine API carries it, with the header fields a payload does not
have in a sidecar.  A block that was built executes on import, as a block or as a payload, in the
environment it was built in; only the import of a payload limits the blobs of a transaction
(`builtBlock_imports`).
-/

namespace AlethiaReth

open MachineInt

/-- The fields of a payload. -/
structure PayloadV1 (Transactions : Type) where
  parentHash : B256
  feeRecipient : Address
  stateRoot : B256
  receiptsRoot : B256
  logsBloom : Bloom
  prevRandao : B256
  blockNumber : U64
  gasLimit : U64
  gasUsed : U64
  timestamp : U64
  extraData : Bytes
  baseFeePerGas : U256
  blockHash : B256
  transactions : Transactions
  deriving DecidableEq, Repr

/-- Payloads of Ethereum. -/
abbrev ExecutionPayloadV1 (Encoded : Type) := PayloadV1 (List Encoded)

/-- Payloads whose transactions may be left out. -/
abbrev TaikoExecutionPayloadV1 (Encoded : Type) := PayloadV1 (Option (List Encoded))

section

variable {Encoded : Type} (encode : TransactionSigned → Encoded)

/-- Taiko's payload of a payload. -/
def TaikoExecutionPayloadV1.ofPayload (payload : ExecutionPayloadV1 Encoded) :
    TaikoExecutionPayloadV1 Encoded :=
  { payload with transactions := some payload.transactions }

/-- The payload of Taiko's payload. -/
def TaikoExecutionPayloadV1.intoPayload (payload : TaikoExecutionPayloadV1 Encoded) :
    ExecutionPayloadV1 Encoded :=
  { payload with transactions := payload.transactions.getD [] }

/-- The payload of a block under a hash that is not checked. -/
def ExecutionPayloadV1.fromBlockUnchecked (blockHash : B256) (block : Block) :
    ExecutionPayloadV1 Encoded where
  parentHash := block.header.parentHash
  feeRecipient := block.header.beneficiary
  stateRoot := block.header.stateRoot
  receiptsRoot := block.header.receiptsRoot
  logsBloom := block.header.logsBloom
  prevRandao := block.header.mixHash
  blockNumber := block.header.number
  gasLimit := block.header.gasLimit
  gasUsed := block.header.gasUsed
  timestamp := block.header.timestamp
  extraData := block.header.extraData
  baseFeePerGas := (block.header.baseFeePerGas.getD 0).setWidth 256
  blockHash
  transactions := block.body.transactions.map encode

/-- What a payload needs besides itself. -/
structure TaikoExecutionDataSidecar where
  txHash : B256
  withdrawalsHash : Option B256
  headerDifficulty : Option U256
  taikoBlock : Option Bool
  blockAccessList : Option Bytes
  slotNumber : Option U64
  deriving DecidableEq, Repr

/-- A payload with its sidecar. -/
structure TaikoExecutionData (Encoded : Type) where
  executionPayload : TaikoExecutionPayloadV1 Encoded
  taikoSidecar : TaikoExecutionDataSidecar
  deriving DecidableEq, Repr

/-- A payload names no beacon root. -/
def TaikoExecutionData.parentBeaconBlockRoot (_ : TaikoExecutionData Encoded) : Option B256 :=
  none

/-- The payload of a block. -/
def blockToPayload (block : SealedBlock) (bal : Option Bytes) : TaikoExecutionData Encoded where
  executionPayload := .ofPayload (.fromBlockUnchecked encode block.hash block.block)
  taikoSidecar :=
    { txHash := block.block.header.transactionsRoot
      withdrawalsHash := block.block.header.withdrawalsRoot
      headerDifficulty := some block.block.header.difficulty
      taikoBlock := some true
      blockAccessList := bal
      slotNumber := none }

/-! ### Executing a payload -/

/-- A 256-bit number in 64 bits, the largest where it does not fit. -/
def saturatingToU64 (x : U256) : U64 :=
  if x.toNat < 2 ^ 64 then x.setWidth 64 else BitVec.allOnes 64

lemma saturatingToU64_setWidth (x : U64) : saturatingToU64 (x.setWidth 256) = x := by
  have hwide : (x.setWidth 256).toNat = x.toNat := by
    rw [BitVec.toNat_setWidth]
    exact Nat.mod_eq_of_lt (by omega)
  rw [saturatingToU64, if_pos (hwide ▸ x.isLt)]
  refine BitVec.eq_of_toNat_eq ?_
  rw [BitVec.toNat_setWidth, hwide, Nat.mod_eq_of_lt x.isLt]

/-- What an environment takes of the blob parameters of a fork. -/
structure BlobParams where
  maxBlobsPerTx : U64
  deriving DecidableEq, Repr

variable (blobParamsAtTimestamp : U64 → Option BlobParams) (spec : TaikoChainSpec)
  (payload : TaikoExecutionData Encoded)

/-- The environment of a payload.  Where the fork of its timestamp has blob parameters, which
are `blobParamsAtTimestamp`, it alone limits the blobs of a transaction. -/
def evmEnvForPayload : EvmEnv :=
  let env := evmEnvAt spec payload.executionPayload.blockNumber
    payload.executionPayload.feeRecipient payload.executionPayload.timestamp 0
    payload.executionPayload.prevRandao payload.executionPayload.gasLimit
    (saturatingToU64 payload.executionPayload.baseFeePerGas)
  match blobParamsAtTimestamp payload.executionPayload.timestamp with
  | none => env
  | some blobParams => env.setMaxBlobsPerTx blobParams.maxBlobsPerTx

/-- On Unzen the sidecar must carry the difficulty, so that the check of the zk gas is never
left out. -/
def contextForPayload : Except ConfigError TaikoBlockExecutionCtx :=
  let isUnzenActive := spec.isUnzenActive payload.executionPayload.timestamp
  let ctx (expectedDifficulty : Option U256) : TaikoBlockExecutionCtx :=
    { parentHash := payload.executionPayload.parentHash
      parentBeaconBlockRoot :=
        normalizeParentBeaconBlockRoot isUnzenActive payload.parentBeaconBlockRoot
      extraData := payload.executionPayload.extraData
      isUnzenActive
      expectedDifficulty
      finalizedBlockZkGas := 0 }
  if isUnzenActive then
    match payload.taikoSidecar.headerDifficulty with
    | none => .error (.missingUnzenHeaderDifficulty payload.executionPayload.blockNumber)
    | some difficulty => .ok (ctx (some difficulty))
  else .ok (ctx none)

end

/-! ### Importing a built block -/

/-- An import that executes in the environment and context of the building, and that on
Unzen expects the zk gas the builder published. -/
structure ImportsAs (env : EvmEnv) (ctx : TaikoBlockExecutionCtx) (zkGas : U64)
    (env' : EvmEnv) (ctx' : TaikoBlockExecutionCtx) : Prop where
  executes : ExecutesAs env' env ctx' ctx
  expects : ctx.isUnzenActive = true → ctx'.expectedDifficulty = some (zkGas.setWidth 256)

section

variable (roots : Roots) (spec : TaikoChainSpec) (parent : SealedHeader)
  (attributes : TaikoNextBlockEnvAttributes) (built : BuildOutput) (number : U64)

/-- The environment of a block under construction, once it has a number. -/
def buildingEnv : EvmEnv :=
  evmEnvAt spec number attributes.suggestedFeeRecipient attributes.timestamp 0
    attributes.prevRandao attributes.gasLimit attributes.baseFeePerGas

/-- The difficulty a built block expects on import. -/
def publishedDifficulty : Option U256 :=
  if spec.isUnzenActive attributes.timestamp then some (built.zkGas.setWidth 256) else none

/-- The context of an import, from that of the building. -/
def importCtx : TaikoBlockExecutionCtx :=
  { contextForNextBlock spec parent attributes with
    expectedDifficulty := publishedDifficulty spec attributes built
    finalizedBlockZkGas := 0 }

lemma importsAs_importCtx (difficulty : U256) :
    ImportsAs (buildingEnv spec attributes number) (contextForNextBlock spec parent attributes)
      built.zkGas
      (evmEnvAt spec number attributes.suggestedFeeRecipient attributes.timestamp difficulty
        attributes.prevRandao attributes.gasLimit attributes.baseFeePerGas)
      (importCtx spec parent attributes built) where
  executes := executesAs_evmEnvAt ..
  expects hunzen := if_pos hunzen

variable (hashSlow : Header → B256)

/-- The block a build ends with. -/
def builtSealed : SealedBlock :=
  (builtBlock roots spec parent attributes (buildingEnv spec attributes number) built).sealSlow
    hashSlow

lemma evmEnv_builtSealed :
    evmEnv spec (builtSealed roots spec parent attributes built number hashSlow).block.header =
      .ok (evmEnvAt spec number attributes.suggestedFeeRecipient attributes.timestamp
        (if spec.isUnzenActive attributes.timestamp then built.zkGas.setWidth 256 else 0)
        attributes.prevRandao attributes.gasLimit attributes.baseFeePerGas) := by
  cases hunzen : spec.isUnzenActive attributes.timestamp <;>
    simp [evmEnv, builtSealed, builtBlock, assembleBlock, Block.sealSlow, buildingEnv, evmEnvAt,
      contextForNextBlock, hunzen]

lemma contextForBlock_builtSealed :
    contextForBlock spec (builtSealed roots spec parent attributes built number hashSlow) =
      .ok (importCtx spec parent attributes built) := by
  cases hunzen : spec.isUnzenActive attributes.timestamp <;>
    simp [contextForBlock, builtSealed, builtBlock, assembleBlock, Block.sealSlow, buildingEnv,
      evmEnvAt, contextForNextBlock, importCtx, publishedDifficulty, hunzen]

variable {Encoded : Type} (encode : TransactionSigned → Encoded) (bal : Option Bytes)

lemma evmEnvForPayload_builtSealed (blobParamsAtTimestamp : U64 → Option BlobParams) :
    evmEnvForPayload blobParamsAtTimestamp spec (blockToPayload encode
      (builtSealed roots spec parent attributes built number hashSlow) bal) =
        match blobParamsAtTimestamp attributes.timestamp with
        | none => buildingEnv spec attributes number
        | some blobParams =>
          (buildingEnv spec attributes number).setMaxBlobsPerTx blobParams.maxBlobsPerTx := by
  have hbasefee : saturatingToU64 (blockToPayload encode (builtSealed roots spec parent attributes
      built number hashSlow) bal).executionPayload.baseFeePerGas = attributes.baseFeePerGas :=
    saturatingToU64_setWidth attributes.baseFeePerGas
  rw [evmEnvForPayload, hbasefee]
  rfl

/-- The payload carries no beacon root, so that it must have been absent or zero. -/
theorem contextForPayload_builtSealed (hroot : ZeroRoot attributes.parentBeaconBlockRoot) :
    contextForPayload spec (blockToPayload encode
      (builtSealed roots spec parent attributes built number hashSlow) bal) =
        .ok (importCtx spec parent attributes built) := by
  cases hunzen : spec.isUnzenActive attributes.timestamp <;>
    simp [contextForPayload, blockToPayload, TaikoExecutionPayloadV1.ofPayload,
      ExecutionPayloadV1.fromBlockUnchecked, TaikoExecutionData.parentBeaconBlockRoot,
      builtSealed, builtBlock, assembleBlock, Block.sealSlow, buildingEnv, evmEnvAt,
      contextForNextBlock, importCtx, publishedDifficulty, hunzen, hroot.normalize]

lemma nextEvmEnv_eq_ok (checks : OverflowChecks)
    (hnumber : parent.header.number.toNat < 2 ^ 64 - 1) :
    nextEvmEnv spec checks parent.header attributes =
      .ok (buildingEnv spec attributes (parent.header.number + 1)) := by
  have hfits : parent.header.number.toNat + (1 : U64).toNat < 2 ^ 64 := by
    have hone : (1 : U64).toNat = 1 := rfl
    omega
  rw [nextEvmEnv, plainAdd_eq_ok_of_lt checks hfits]
  rfl

end

/-- A block that was built under any fork table executes, when it is imported as a block or
as a payload, in the environment it was built in; on Unzen both imports expect as its
difficulty the zk gas the builder published.  The one field of the configuration that
differs is the limit on the blobs of a transaction, which the interpreter's validation of a
blob transaction reads: the import of a payload has that of the blob parameters, the
building and the import of a block none. -/
theorem builtBlock_imports {Encoded : Type} (checks : OverflowChecks) (roots : Roots)
    (hashSlow : Header → B256) (encode : TransactionSigned → Encoded) (bal : Option Bytes)
    (chainId : U64) (table : ChainHardforks) (parent : SealedHeader)
    (attributes : TaikoNextBlockEnvAttributes) (built : BuildOutput)
    (blobParamsAtTimestamp : U64 → Option BlobParams)
    (hnumber : parent.header.number.toNat < 2 ^ 64 - 1)
    (hroot : attributes.parentBeaconBlockRoot = none ∨
      attributes.parentBeaconBlockRoot = some 0) :
    let spec := TaikoChainSpec.ofHardforks chainId (extendWithSharedHardforks table)
    let ctx := contextForNextBlock spec parent attributes
    ∃ env, nextEvmEnv spec checks parent.header attributes = .ok env ∧
      let block := (builtBlock roots spec parent attributes env built).sealSlow hashSlow
      let payload := blockToPayload encode block bal
      (∃ env' ctx', evmEnv spec block.block.header = .ok env' ∧
        contextForBlock spec block = .ok ctx' ∧ ImportsAs env ctx built.zkGas env' ctx' ∧
        env'.cfgEnv = env.cfgEnv) ∧
      ∃ env' ctx', evmEnvForPayload blobParamsAtTimestamp spec payload = env' ∧
        contextForPayload spec payload = .ok ctx' ∧ ImportsAs env ctx built.zkGas env' ctx' ∧
        env'.cfgEnv = { env.cfgEnv with
          maxBlobsPerTx :=
            (blobParamsAtTimestamp attributes.timestamp).map (·.maxBlobsPerTx) } := by
  intro spec ctx
  refine ⟨_, nextEvmEnv_eq_ok spec parent attributes checks hnumber, ?_, ?_⟩
  · refine ⟨_, _, evmEnv_builtSealed roots spec parent attributes built _ hashSlow,
      contextForBlock_builtSealed roots spec parent attributes built _ hashSlow, ?_, ?_⟩
    · exact importsAs_importCtx ..
    · simp only [buildingEnv, evmEnvAt]
  -- from the payload only the blob count of the fork is added
  · have henv := evmEnvForPayload_builtSealed roots spec parent attributes built
      (parent.header.number + 1) hashSlow encode bal blobParamsAtTimestamp
    rw [builtSealed] at henv
    refine ⟨_, _, henv, contextForPayload_builtSealed roots spec parent attributes built _
      hashSlow encode bal hroot, ?_⟩
    have himports : ImportsAs (buildingEnv spec attributes (parent.header.number + 1)) ctx
        built.zkGas (buildingEnv spec attributes (parent.header.number + 1))
        (importCtx spec parent attributes built) := importsAs_importCtx ..
    cases blobParamsAtTimestamp attributes.timestamp with
    | none => exact ⟨himports, by simp [buildingEnv, evmEnvAt]⟩
    | some blobParams =>
      refine ⟨⟨himports.executes.setMaxBlobsPerTx _, himports.expects⟩, ?_⟩
      simp [EvmEnv.setMaxBlobsPerTx]

/-! The first block of a network under Unzen. -/

/-- A first header. -/
def genesisHeader : SealedHeader where
  header :=
    { parentHash := 0
      ommersHash := emptyOmmerRootHash
      beneficiary := 0
      transactionsRoot := emptyRootHash
      receiptsRoot := emptyRootHash
      difficulty := 0
      number := 0
      gasLimit := 30000000
      gasUsed := 0
      timestamp := 0
      extraData := []
      nonce := some 0
      baseFeePerGas := some 25000000
      blockAccessListHash := none
      slotNumber := none }
  hash := 1

/-- The attributes of a block on it. -/
def firstAttributes : TaikoNextBlockEnvAttributes where
  timestamp := 2
  suggestedFeeRecipient := 5
  prevRandao := 9
  gasLimit := 30000000
  extraData := [75, 0, 0, 0, 0, 0, 1]
  baseFeePerGas := 25000000
  parentBeaconBlockRoot := some 0

/-- What it was built from. -/
def firstOutput : BuildOutput where
  zkGas := 21000
  transactions := []
  output := { receipts := [], gasUsed := 21000 }
  stateRoot := 3

/-- Roots that are those of the empty list. -/
def emptyRoots : Roots := ⟨fun _ => emptyRootHash, fun _ => emptyRootHash, fun _ => 0⟩

/-- The first block is imported with the zk gas it published. -/
theorem builtBlock_imports_first :
    let spec := TaikoChainSpec.ofHardforks 167001
      (extendWithSharedHardforks [(.taiko .unzen, .timestamp 0)])
    let block := (builtBlock emptyRoots spec genesisHeader firstAttributes
      (buildingEnv spec firstAttributes 1) firstOutput).sealSlow Header.stateRoot
    ∃ ctx, contextForPayload spec (blockToPayload id block none) = .ok ctx ∧
      ctx.expectedDifficulty = some 21000 := by
  intro spec block
  obtain ⟨env, henv, -, env', ctx, -, hctx, himports, -⟩ := builtBlock_imports .on emptyRoots
    Header.stateRoot id none 167001 [(.taiko .unzen, .timestamp 0)] genesisHeader
    firstAttributes firstOutput (fun _ => some ⟨6⟩) (by decide) (.inr rfl)
  cases henv
  exact ⟨ctx, hctx, himports.expects (by decide)⟩

end AlethiaReth
