import AlethiaReth.Consensus.Validation
import AlethiaReth.Engine.Payload

/-!
The way back from a payload to a sealed block: every block that was built comes back from its own
payload, and no payload is accepted under a hash that is not its block's
(`convertPayloadToBlock_roundTrip`).
-/

namespace AlethiaReth

open MachineInt Outcome

/-- What Taiko refuses. -/
inductive TaikoPayloadValidationError where
  | missingUnzenHeaderDifficulty
  | blockAccessListUnsupported
  | slotNumberUnsupported
  deriving DecidableEq, Repr

/-- The text of the error. -/
def TaikoPayloadValidationError.toString : TaikoPayloadValidationError → String
  | .missingUnzenHeaderDifficulty => "missing header difficulty for Unzen payload"
  | .blockAccessListUnsupported => "block access lists are unsupported on Taiko"
  | .slotNumberUnsupported => "slot numbers are unsupported on Taiko"

/-- The errors of the payload parser, and of the check of the hash. -/
inductive PayloadError where
  | blockHash (execution consensus : B256)
  | parse (message : String)
  deriving DecidableEq, Repr

/-- Why a payload is refused. -/
inductive NewPayloadError where
  | taiko (error : TaikoPayloadValidationError)
  | payload (error : PayloadError)
  deriving DecidableEq, Repr

/-- Restores what a payload does not carry. -/
def restoreHeader (isUnzenActive : Bool) (sidecar : TaikoExecutionDataSidecar) (block : Block) :
    Block where
  header :=
    { block.header with
      difficulty := sidecar.headerDifficulty.getD block.header.difficulty
      parentBeaconBlockRoot := if isUnzenActive then some 0 else none
      blobGasUsed := if isUnzenActive then some 0 else none
      excessBlobGas := if isUnzenActive then some 0 else none
      requestsHash := if isUnzenActive then some emptyRequestsHash else none
      transactionsRoot :=
        if sidecar.txHash = 0 then block.header.transactionsRoot else sidecar.txHash
      withdrawalsRoot :=
        match sidecar.withdrawalsHash with
        | none => block.header.withdrawalsRoot
        | some hash => if hash = 0 then some emptyRootHash else some hash }
  body :=
    { block.body with
      withdrawals :=
        match sidecar.withdrawalsHash with
        | none => block.body.withdrawals
        | some _ => some [] }

section

variable {Encoded : Type} (hashSlow : Header → B256)
  (tryIntoBlock : ExecutionPayloadV1 Encoded → Except PayloadError Block)
  (calculateTransactionRoot : List TransactionSigned → B256) {input : BlockAssemblerInput}

/-- The block of a payload. -/
def convertPayloadToBlock (spec : TaikoChainSpec) (payload : TaikoExecutionData Encoded) :
    Except NewPayloadError SealedBlock := do
  let sidecar := payload.taikoSidecar
  ensure (sidecar.blockAccessList = none) (.taiko .blockAccessListUnsupported)
  ensure (sidecar.slotNumber = none) (.taiko .slotNumberUnsupported)
  let expectedHash := payload.executionPayload.blockHash
  let isUnzenActive := spec.isUnzenActive payload.executionPayload.timestamp
  ensure (isUnzenActive = false ∨ sidecar.headerDifficulty.isSome = true)
    (.taiko .missingUnzenHeaderDifficulty)
  let block ← (tryIntoBlock payload.executionPayload.intoPayload).mapError .payload
  let sealedBlock := (restoreHeader isUnzenActive sidecar block).sealSlow hashSlow
  ensure (expectedHash = sealedBlock.hash)
    (.payload (.blockHash sealedBlock.hash expectedHash))
  pure sealedBlock

/-! ### The round trip -/

/-- The block a payload is parsed to: the header fields the payload carries, the root of the
transactions, and defaults for the others. -/
def parsedBlock (block : Block) :
    Block where
  header :=
    { parentHash := block.header.parentHash
      ommersHash := emptyOmmerRootHash
      beneficiary := block.header.beneficiary
      stateRoot := block.header.stateRoot
      transactionsRoot := calculateTransactionRoot block.body.transactions
      receiptsRoot := block.header.receiptsRoot
      logsBloom := block.header.logsBloom
      difficulty := 0
      number := block.header.number
      gasLimit := block.header.gasLimit
      gasUsed := block.header.gasUsed
      timestamp := block.header.timestamp
      extraData := block.header.extraData
      mixHash := block.header.mixHash
      nonce := some 0
      baseFeePerGas := some (block.header.baseFeePerGas.getD 0)
      blockAccessListHash := none
      slotNumber := none }
  body := { transactions := block.body.transactions, ommers := [], withdrawals := none }

/-- The parser recovers the transactions it is given encoded and rebuilds the standard header
fields, from the payload of any block whose extra data has an admitted size. -/
def RebuildsBlocks (encode : TransactionSigned → Encoded)
    (tryIntoBlock : ExecutionPayloadV1 Encoded → Except PayloadError Block) : Prop :=
  ∀ (blockHash : B256) (block : Block), block.header.extraData.length ≤ maximumExtraDataSize →
    tryIntoBlock (.fromBlockUnchecked encode blockHash block) =
      .ok (parsedBlock calculateTransactionRoot block)

variable {hashSlow tryIntoBlock} {roots : Roots} {encode : TransactionSigned → Encoded}
  {spec : TaikoChainSpec}

/-- The fields of an assembled header a payload does not carry are restored. -/
theorem restoreHeader_assembled (hroot : input.executionCtx.parentBeaconBlockRoot =
      normalizeParentBeaconBlockRoot input.executionCtx.isUnzenActive none) :
    let block := assembleBlock roots input
    restoreHeader input.executionCtx.isUnzenActive
      (blockToPayload encode (block.sealSlow hashSlow) none).taikoSidecar
      (parsedBlock roots.calculateTransactionRoot block) = block := by
  cases hunzen : input.executionCtx.isUnzenActive <;> rw [hunzen] at hroot <;>
    simp [restoreHeader, parsedBlock, blockToPayload, Block.sealSlow, assembleBlock, hunzen, hroot,
      emptyWithdrawals, normalizeParentBeaconBlockRoot]

/-- What it takes for a payload to be converted, and to what. -/
theorem convertPayloadToBlock_eq_ok {payload : TaikoExecutionData Encoded} {block : SealedBlock} :
    convertPayloadToBlock hashSlow tryIntoBlock spec payload = .ok block ↔
      payload.taikoSidecar.blockAccessList = none ∧ payload.taikoSidecar.slotNumber = none ∧
      (spec.isUnzenActive payload.executionPayload.timestamp = false ∨
        payload.taikoSidecar.headerDifficulty.isSome = true) ∧
      ∃ parsed, tryIntoBlock payload.executionPayload.intoPayload = .ok parsed ∧
        block = (restoreHeader (spec.isUnzenActive payload.executionPayload.timestamp)
          payload.taikoSidecar parsed).sealSlow hashSlow ∧
        block.hash = payload.executionPayload.blockHash := by
  simp only [convertPayloadToBlock, ensure_bind_eq_ok]
  refine and_congr_right fun _ => and_congr_right fun _ => and_congr_right fun _ => ?_
  rw [bind_eq_ok]
  simp only [ensure_bind_eq_ok]
  refine exists_congr fun parsed => and_congr ?_ ?_
  · cases tryIntoBlock payload.executionPayload.intoPayload <;> simp [Except.mapError]
  · constructor
    · rintro ⟨hhash, hblock⟩
      cases hblock
      exact ⟨rfl, hhash.symm⟩
    · rintro ⟨rfl, hhash⟩
      exact ⟨hhash.symm, rfl⟩

/-- A block assembled on a normalized beacon root comes back from its own payload. -/
theorem convertPayloadToBlock_assembled
    (hrebuilds : RebuildsBlocks roots.calculateTransactionRoot encode tryIntoBlock)
    (hunzen : input.executionCtx.isUnzenActive =
      spec.isUnzenActive input.evmEnv.blockEnv.timestamp)
    (hroot : input.executionCtx.parentBeaconBlockRoot =
      normalizeParentBeaconBlockRoot input.executionCtx.isUnzenActive none)
    (hextra : input.executionCtx.extraData.length ≤ maximumExtraDataSize) :
    let block := (assembleBlock roots input).sealSlow hashSlow
    convertPayloadToBlock hashSlow tryIntoBlock spec (blockToPayload encode block none) =
      .ok block := by
  intro block
  have hrestore : restoreHeader (spec.isUnzenActive input.evmEnv.blockEnv.timestamp)
      (blockToPayload encode block none).taikoSidecar
      (parsedBlock roots.calculateTransactionRoot block.block) = block.block :=
    hunzen ▸ restoreHeader_assembled hroot
  refine convertPayloadToBlock_eq_ok.mpr ⟨rfl, rfl, .inr rfl, _,
    hrebuilds block.hash block.block hextra, ?_, rfl⟩
  exact congrArg (Block.sealSlow hashSlow) hrestore.symm

end

/-- Every block that is built on an absent or zero beacon root and has a valid header comes
back from its own payload, header, body, withdrawals and hash; and every payload that is
accepted carries the hash of the block it is converted to. -/
theorem convertPayloadToBlock_roundTrip {Encoded : Type} {hashSlow : Header → B256}
    {tryIntoBlock : ExecutionPayloadV1 Encoded → Except PayloadError Block} {roots : Roots}
    {encode : TransactionSigned → Encoded}
    (hrebuilds : RebuildsBlocks roots.calculateTransactionRoot encode tryIntoBlock)
    (spec : TaikoChainSpec) :
    (∀ (checks : OverflowChecks) (parent : SealedHeader)
      (attributes : TaikoNextBlockEnvAttributes) (env : EvmEnv) (built : BuildOutput),
      (attributes.parentBeaconBlockRoot = none ∨ attributes.parentBeaconBlockRoot = some 0) →
      nextEvmEnv spec checks parent.header attributes = .ok env →
      let block := (builtBlock roots spec parent attributes env built).sealSlow hashSlow
      validateHeader spec block.block.header = .ok () →
      convertPayloadToBlock hashSlow tryIntoBlock spec (blockToPayload encode block none) =
        .ok block) ∧
    ∀ (payload : TaikoExecutionData Encoded) (block : SealedBlock),
      convertPayloadToBlock hashSlow tryIntoBlock spec payload = .ok block →
        block.hash = payload.executionPayload.blockHash := by
  refine ⟨?_, ?_⟩
  · intro checks parent attributes env built hroot henv block hvalid
    have htimestamp : env.blockEnv.timestamp = attributes.timestamp := by
      obtain ⟨number, -, hok⟩ := bind_eq_ok.mp henv
      cases hok
      rfl
    refine convertPayloadToBlock_assembled hrebuilds ?_ ?_ ?_
    · exact congrArg spec.isUnzenActive htimestamp.symm
    · exact ZeroRoot.normalize hroot _
    · exact (validateHeader_eq_ok.mp hvalid).extraData
  · intro payload block hconvert
    obtain ⟨-, -, -, -, -, -, hhash⟩ := convertPayloadToBlock_eq_ok.mp hconvert
    exact hhash

/-- A parser of payloads whose transactions are not encoded. -/
def plainTryIntoBlock (payload : ExecutionPayloadV1 TransactionSigned) :
    Except PayloadError Block :=
  .ok
    { header :=
        { parentHash := payload.parentHash
          ommersHash := emptyOmmerRootHash
          beneficiary := payload.feeRecipient
          stateRoot := payload.stateRoot
          transactionsRoot := emptyRoots.calculateTransactionRoot payload.transactions
          receiptsRoot := payload.receiptsRoot
          logsBloom := payload.logsBloom
          difficulty := 0
          number := payload.blockNumber
          gasLimit := payload.gasLimit
          gasUsed := payload.gasUsed
          timestamp := payload.timestamp
          extraData := payload.extraData
          mixHash := payload.prevRandao
          nonce := some 0
          baseFeePerGas := some (saturatingToU64 payload.baseFeePerGas)
          blockAccessListHash := none
          slotNumber := none }
      body := { transactions := payload.transactions, ommers := [], withdrawals := none } }

lemma plainTryIntoBlock_rebuilds :
    RebuildsBlocks emptyRoots.calculateTransactionRoot id plainTryIntoBlock := by
  intro blockHash block _
  simp [plainTryIntoBlock, parsedBlock, ExecutionPayloadV1.fromBlockUnchecked,
    saturatingToU64_setWidth]

/-- The first block of a network under Unzen comes back. -/
theorem convertPayloadToBlock_roundTrip_first :
    let spec := TaikoChainSpec.ofHardforks 167001
      (extendWithSharedHardforks [(.taiko .unzen, .timestamp 0)])
    let block := (builtBlock emptyRoots spec genesisHeader firstAttributes
      (buildingEnv spec firstAttributes 1) firstOutput).sealSlow Header.stateRoot
    convertPayloadToBlock Header.stateRoot plainTryIntoBlock spec
      (blockToPayload id block none) = .ok block := by
  intro spec block
  exact (convertPayloadToBlock_roundTrip plainTryIntoBlock_rebuilds spec).1 .on genesisHeader
    firstAttributes _ firstOutput (.inr rfl) rfl rfl

end AlethiaReth
