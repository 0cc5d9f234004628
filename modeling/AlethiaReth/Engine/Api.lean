import AlethiaReth.Db.L1Origin
import AlethiaReth.Engine.Payload
import AlethiaReth.Payload.Attributes
import AlethiaReth.Payload.Execution

/-!
The fork choice update that starts a payload job, and what it records of the block built: number
and timestamp of the record are those of the request, so it is the record of the block exactly
where they agree with the block's (`forkChoiceUpdatedV2_describes`).
-/

namespace AlethiaReth

open MachineInt Outcome

/-- Payload attributes with the L1 origin of the block they ask for. -/
structure OriginPayloadAttributes extends TaikoPayloadAttributes where
  l1Origin : RpcL1Origin
  deriving DecidableEq, Repr

/-! ### Validation -/

/-- Why attributes are refused. -/
inductive InvalidPayloadAttributesError where
  | invalidTimestamp
  deriving DecidableEq, Repr

/-- A timestamp may be that of the parent. -/
def validatePayloadAttributesAgainstHeader (attr : TaikoPayloadAttributes) (header : Header) :
    Except InvalidPayloadAttributesError Unit :=
  ensure (header.timestamp ≤ attr.payloadAttributes.timestamp) .invalidTimestamp

/-- Why an object is refused. -/
inductive EngineObjectValidationError where
  | invalidParams (message : String)
  deriving DecidableEq, Repr

/-- A beacon root of the caller's own could not be imported. -/
def validateVersionSpecificFields (attr : TaikoPayloadAttributes) :
    Except EngineObjectValidationError Unit :=
  ensure (¬ attr.payloadAttributes.parentBeaconBlockRoot.any (· ≠ 0))
    (.invalidParams "non-zero parent beacon block roots are unsupported on Taiko")

/-! ### The update -/

/-- The head and what is settled below it. -/
structure ForkchoiceState where
  headBlockHash : B256
  safeBlockHash : B256
  finalizedBlockHash : B256
  deriving DecidableEq, Repr

/-- The answer of an update, as far as it is read here. -/
structure ForkchoiceUpdated (Digest : Type) where
  payloadId : Option (PayloadId Digest)
  deriving DecidableEq, Repr

/-- Why a call fails. -/
inductive EngineApiError where
  | attributesValidation (error : EngineObjectValidationError)
  | invalidPayloadAttributes (error : InvalidPayloadAttributesError)
  | unknownHead
  | internal (message : String)
  | database (error : L1Error)
  | getPayloadError (error : PayloadBuilderError)
  deriving DecidableEq, Repr

/-- The engine of reth, and the store its payload jobs leave their blocks in. -/
structure RethEngine (Digest : Type) where
  forkChoiceUpdatedV2 : ForkchoiceState → Option OriginPayloadAttributes →
    Except EngineApiError (ForkchoiceUpdated Digest)
  resolveKind : PayloadId Digest → Option (Except PayloadBuilderError Block)

section Update

variable {Digest : Type} (spec : TaikoChainSpec) (hashSlow : Header → B256)
  (reth : RethEngine Digest) (faults : Faults) (tables : L1Tables)

/-- The batch of a request, where Shasta is active at the timestamp of its attributes. -/
def OriginPayloadAttributes.batchId (attributes : OriginPayloadAttributes) : Option U64 :=
  if spec.isShastaActive attributes.payloadAttributes.timestamp then
    decodeShastaProposalId attributes.blockMetadata.extraData
  else none

/-- The block of a job. -/
def waitForBuiltPayload (payloadId : PayloadId Digest) : Except EngineApiError Block :=
  match reth.resolveKind payloadId with
  | some (.ok payload) => .ok payload
  | _ => .error (.getPayloadError .missingPayload)

/-- Updates the head, and stores the origin of a block that is built. -/
def forkChoiceUpdatedV2 (forkChoiceState : ForkchoiceState)
    (payloadAttributes : Option OriginPayloadAttributes) :
    Except Panic (Except EngineApiError (ForkchoiceUpdated Digest) × L1Tables) :=
  match reth.forkChoiceUpdatedV2 forkChoiceState payloadAttributes with
  | .error error => .ok (.error error, tables)
  | .ok status =>
    match payloadAttributes with
    | none => .ok (.ok status, tables)
    | some attributes =>
      match status.payloadId with
      | none => .ok (.error (.internal "missing payload id"), tables)
      | some payloadId =>
        match waitForBuiltPayload reth payloadId with
        | .error error => .ok (.error error, tables)
        | .ok builtPayload => do
          let (answer, tables) ← persistL1Origin faults tables
            { StoredL1Origin.ofRpc attributes.l1Origin with
              l2BlockHash := hashSlow builtPayload.header }
            attributes.l1Origin.isPreconfBlock (attributes.batchId spec)
          pure (match answer with
            | .error error => (.error (.database error), tables)
            | .ok () => (.ok status, tables))

end Update

/-! ### Blocks and their records -/

section Record

variable {Digest : Type} (codec : PayloadCodec Digest) (spec : TaikoChainSpec)
  (checks : OverflowChecks) (roots : Roots)

/-- A block the payload builder makes of attributes on a parent. -/
def BuiltFrom (parent : SealedHeader) (attributes : TaikoPayloadAttributes) (block : Block) :
    Prop :=
  ∃ job env built,
    TaikoPayloadBuilderAttributes.tryNew codec parent.hash attributes = .ok (.ok job) ∧
    nextEvmEnv spec checks parent.header job.nextBlockEnv = .ok env ∧
    block = builtBlock roots spec parent job.nextBlockEnv env built

/-- What the update relies on where a job shares its identifier with no other: reth starts it
on the head if its attributes are valid, and resolves it to the block built for it. -/
structure RethEngine.RunsJob (reth : RethEngine Digest) (state : ForkchoiceState)
    (head : SealedHeader) (attributes : OriginPayloadAttributes) : Prop where
  accepts : ∀ status, reth.forkChoiceUpdatedV2 state (some attributes) = .ok status →
    head.hash = state.headBlockHash ∧
    validateVersionSpecificFields attributes.toTaikoPayloadAttributes = .ok () ∧
    validatePayloadAttributesAgainstHeader attributes.toTaikoPayloadAttributes head.header
      = .ok ()
  resolves : ∀ status id block,
    reth.forkChoiceUpdatedV2 state (some attributes) = .ok status →
    status.payloadId = some id → reth.resolveKind id = some (.ok block) →
    BuiltFrom codec spec checks roots head attributes.toTaikoPayloadAttributes block

/-- The record a block should have: its row at its number, with its hash, and where an L1
block includes it, the head and the batch of its proposal at it. -/
def recordBlock (hashSlow : Header → B256) (origin : RpcL1Origin) (block : Block)
    (tables : L1Tables) : L1Tables where
  storedL1Origin := Function.update tables.storedL1Origin block.header.number
    (some { StoredL1Origin.ofRpc origin with l2BlockHash := hashSlow block.header })
  storedL1HeadOrigin :=
    if origin.isPreconfBlock then tables.storedL1HeadOrigin
    else Function.update tables.storedL1HeadOrigin storedL1HeadOriginKey
      (some block.header.number)
  batchToLastBlock :=
    if origin.isPreconfBlock = false ∧ spec.isShastaActive block.header.timestamp = true then
      (decodeShastaProposalId block.header.extraData).elim tables.batchToLastBlock fun batch =>
        Function.update tables.batchToLastBlock batch (some block.header.number)
    else tables.batchToLastBlock

/-- Tables whose row at the number of a block has its hash, and in which the batch of its
proposal ends with it iff an L1 block includes it and Shasta is active at its timestamp. -/
structure L1Tables.Describes (hashSlow : Header → B256) (origin : RpcL1Origin) (block : Block)
    (tables tables' : L1Tables) : Prop where
  row : tables'.storedL1Origin block.header.number =
    some { StoredL1Origin.ofRpc origin with l2BlockHash := hashSlow block.header }
  batch : ∀ batch, decodeShastaProposalId block.header.extraData = some batch →
    tables'.batchToLastBlock batch =
      if origin.isPreconfBlock = false ∧ spec.isShastaActive block.header.timestamp = true then
        some block.header.number
      else tables.batchToLastBlock batch

/-- A request that names a block: by the number in its origin, and where it records the batch
of a proposal, by the fork its timestamp is in. -/
structure OriginPayloadAttributes.Names (attributes : OriginPayloadAttributes) (block : Block) :
    Prop where
  number : attributes.l1Origin.blockId = block.header.number.setWidth 256
  shasta : attributes.l1Origin.isPreconfBlock = false →
    (decodeShastaProposalId block.header.extraData).isSome = true →
    spec.isShastaActive attributes.payloadAttributes.timestamp
      = spec.isShastaActive block.header.timestamp

lemma recordBlock_describes (hashSlow : Header → B256) (origin : RpcL1Origin) (block : Block)
    (tables : L1Tables) :
    tables.Describes spec hashSlow origin block
      (recordBlock spec hashSlow origin block tables) where
  row := Function.update_self ..
  batch batch hbatch := by
    dsimp only [recordBlock]
    rw [hbatch]
    split_ifs
    · exact Function.update_self ..
    · rfl

variable {codec spec checks roots} {parent : SealedHeader} {attributes : TaikoPayloadAttributes}
  {block : Block}

/-- A job has the timestamp and the extra data of the metadata. -/
lemma tryNew_metadata {parent : B256} {job : TaikoPayloadBuilderAttributes Digest}
    (h : TaikoPayloadBuilderAttributes.tryNew codec parent attributes = .ok (.ok job)) :
    job.timestamp = attributes.blockMetadata.timestamp.setWidth 64 ∧
      job.extraData = attributes.blockMetadata.extraData := by
  obtain ⟨-, -, -, timestamp, baseFeePerGas, anchor, htimestamp, -, -, hinputs⟩ := tryNew_eq_ok h
  rw [tryToU64, Option.ite_none_right_eq_some] at htimestamp
  refine ⟨(congrArg PayloadInputs.timestamp hinputs).trans ?_,
    congrArg PayloadInputs.extraData hinputs⟩
  exact (Option.some.inj htimestamp.2).symm

/-- The block has the number after its parent's, and timestamp and extra data of the metadata,
whatever it executes. -/
lemma BuiltFrom.header (h : BuiltFrom codec spec checks roots parent attributes block) :
    block.header.number = parent.header.number + 1 ∧
      block.header.timestamp = attributes.blockMetadata.timestamp.setWidth 64 ∧
      block.header.extraData = attributes.blockMetadata.extraData := by
  obtain ⟨job, env, built, hjob, henv, rfl⟩ := h
  obtain ⟨htimestamp, hextra⟩ := tryNew_metadata hjob
  obtain ⟨number, hnumber, henv⟩ := bind_eq_ok.mp henv
  cases henv
  exact ⟨eq_add_of_plainAdd hnumber, htimestamp, hextra⟩

end Record

section Describes

variable {Digest : Type} {codec : PayloadCodec Digest} {spec : TaikoChainSpec}
  {hashSlow : Header → B256} {reth : RethEngine Digest} {faults : Faults}
  {tables tables' : L1Tables} {state : ForkchoiceState} {attributes : OriginPayloadAttributes}
  {status : ForkchoiceUpdated Digest}

/-- An update with attributes that succeeds has resolved its job and stored the origin. -/
lemma forkChoiceUpdatedV2_eq_ok
    (h : forkChoiceUpdatedV2 spec hashSlow reth faults tables state (some attributes)
      = .ok (.ok status, tables')) :
    reth.forkChoiceUpdatedV2 state (some attributes) = .ok status ∧
      ∃ id block, status.payloadId = some id ∧ reth.resolveKind id = some (.ok block) ∧
        persistL1Origin faults tables
          { StoredL1Origin.ofRpc attributes.l1Origin with l2BlockHash := hashSlow block.header }
          attributes.l1Origin.isPreconfBlock (attributes.batchId spec)
          = .ok (.ok (), tables') := by
  rw [forkChoiceUpdatedV2] at h
  split at h
  · cases h
  · next status' hstatus =>
    dsimp only at h
    split at h
    · cases h
    · next id hid =>
      split at h
      · cases h
      · next block hblock =>
        obtain ⟨⟨answer, tables''⟩, hpersist, h⟩ := bind_eq_ok.mp h
        cases answer with
        | error error => cases h
        | ok u =>
          cases h
          refine ⟨hstatus, id, block, hid, ?_, hpersist⟩
          rw [waitForBuiltPayload] at hblock
          split at hblock
          · next hresolve =>
            cases hblock
            exact hresolve
          · cases hblock

variable {block : Block}

/-- What an update stores for a request that names the block is the record of the block. -/
lemma persist_eq_recordBlock (hnames : attributes.Names spec block)
    (hextra : block.header.extraData = attributes.blockMetadata.extraData) :
    tables.persist
        { StoredL1Origin.ofRpc attributes.l1Origin with l2BlockHash := hashSlow block.header }
        attributes.l1Origin.isPreconfBlock (attributes.batchId spec)
      = recordBlock spec hashSlow attributes.l1Origin block tables := by
  have hkey : (StoredL1Origin.ofRpc attributes.l1Origin).blockId.setWidth 64
      = block.header.number := by
    show attributes.l1Origin.blockId.setWidth 64 = _
    rw [hnames.number]
    exact BitVec.setWidth_setWidth_of_le _ (by decide)
  rw [OriginPayloadAttributes.batchId, ← hextra, L1Tables.persist.eq_def, recordBlock, hkey]
  congr 1
  cases hpreconf : attributes.l1Origin.isPreconfBlock with
  | true => rfl
  | false =>
    cases hbatch : decodeShastaProposalId block.header.extraData with
    | none => simp
    | some batch =>
      rw [hnames.shasta hpreconf (by rw [hbatch]; rfl)]
      cases spec.isShastaActive block.header.timestamp <;> rfl

/-- Tables that were empty describe the block only after a request that names it. -/
lemma names_of_describes (hfits : attributes.l1Origin.blockId.toNat < 2 ^ 64)
    (hextra : block.header.extraData = attributes.blockMetadata.extraData)
    (h : L1Tables.empty.Describes spec hashSlow attributes.l1Origin block
      (L1Tables.empty.persist
        { StoredL1Origin.ofRpc attributes.l1Origin with l2BlockHash := hashSlow block.header }
        attributes.l1Origin.isPreconfBlock (attributes.batchId spec))) :
    attributes.Names spec block where
  number := by
    have hrow : Function.update L1Tables.empty.storedL1Origin
        (attributes.l1Origin.blockId.setWidth 64) (some _) block.header.number = some _ := h.row
    by_contra hne
    rw [Function.update_of_ne] at hrow
    · cases hrow
    · rintro hkey
      rw [hkey, setWidth_setWidth_of_fits hfits] at hne
      exact hne rfl
  shasta hconfirmed hsome := by
    obtain ⟨batch, hbatch⟩ := Option.isSome_iff_exists.mp hsome
    have hset := h.batch batch hbatch
    rw [OriginPayloadAttributes.batchId, ← hextra, hbatch, hconfirmed] at hset
    -- a batch that is recorded on one side only is absent on the other
    cases hrequest : spec.isShastaActive attributes.payloadAttributes.timestamp <;>
      cases hblock : spec.isShastaActive block.header.timestamp <;>
      simp [hrequest, hblock, L1Tables.empty, L1Tables.persist] at hset ⊢

end Describes

/-- An update that succeeds describes the block it built, in every table, exactly if the number
of the origin is that of the block and, where the batch of its proposal is to be recorded,
Shasta is active at the timestamp of the attributes as it is at the block's.  Nothing compares
either with the block.  Where they agree, nothing else is written. -/
theorem forkChoiceUpdatedV2_describes {Digest : Type} (codec : PayloadCodec Digest)
    (spec : TaikoChainSpec) (checks : OverflowChecks) (roots : Roots) (hashSlow : Header → B256)
    (reth : RethEngine Digest) (faults : Faults) (tables tables' : L1Tables)
    (state : ForkchoiceState) (head : SealedHeader) (attributes : OriginPayloadAttributes)
    (status : ForkchoiceUpdated Digest)
    (hjob : reth.RunsJob codec spec checks roots state head attributes)
    (h : forkChoiceUpdatedV2 spec hashSlow reth faults tables state (some attributes)
      = .ok (.ok status, tables')) :
    ∃ id block, status.payloadId = some id ∧ reth.resolveKind id = some (.ok block) ∧
      BuiltFrom codec spec checks roots head attributes.toTaikoPayloadAttributes block ∧
      ((∀ faults tables tables',
        forkChoiceUpdatedV2 spec hashSlow reth faults tables state (some attributes)
          = .ok (.ok status, tables') →
        tables.Describes spec hashSlow attributes.l1Origin block tables') ↔
          attributes.Names spec block) ∧
      (attributes.Names spec block →
        tables' = recordBlock spec hashSlow attributes.l1Origin block tables) := by
  obtain ⟨hstatus, id, block, hid, hresolve, hpersist⟩ := forkChoiceUpdatedV2_eq_ok h
  have hbuilt := hjob.resolves status id block hstatus hid hresolve
  obtain ⟨-, -, hextra⟩ := hbuilt.header
  obtain ⟨hfits, htables⟩ := persistL1Origin_eq_ok hpersist
  refine ⟨id, block, hid, hresolve, hbuilt, ⟨fun hall => ?_, fun hnames => ?_⟩, fun hnames =>
    htables.trans (persist_eq_recordBlock hnames hextra)⟩
  · -- the job is resolved without the tables, so it is in empty ones too
    refine names_of_describes hfits hextra (hall .none .empty _ ?_)
    rw [forkChoiceUpdatedV2, hstatus]
    dsimp only
    rw [hid]
    dsimp only
    rw [waitForBuiltPayload, hresolve]
    dsimp only
    rw [persistL1Origin_none _ _ hfits]
    rfl
  · intro faults₁ tables₁ tables₁' h₁
    obtain ⟨-, id₁, block₁, hid₁, hresolve₁, hpersist₁⟩ := forkChoiceUpdatedV2_eq_ok h₁
    cases Option.some.inj (hid.symm.trans hid₁)
    cases hresolve.symm.trans hresolve₁
    rw [(persistL1Origin_eq_ok hpersist₁).2, persist_eq_recordBlock hnames hextra]
    exact recordBlock_describes ..

section OneJob

variable {Digest : Type} (codec : PayloadCodec Digest) (spec : TaikoChainSpec)
  (checks : OverflowChecks) (roots : Roots) (head : SealedHeader)
  (attributes : OriginPayloadAttributes) (built : BuildOutput)

/-- The block of a job, given what its execution leaves. -/
def jobBlock : Option Block :=
  match TaikoPayloadBuilderAttributes.tryNew codec head.hash
      attributes.toTaikoPayloadAttributes with
  | .ok (.ok job) =>
    match nextEvmEnv spec checks head.header job.nextBlockEnv with
    | .ok env => some (builtBlock roots spec head job.nextBlockEnv env built)
    | .error _ => none
  | _ => none

/-- An engine that knows one head and runs one job. -/
def jobEngine : RethEngine Digest where
  forkChoiceUpdatedV2 state payloadAttributes := do
    ensure (head.hash = state.headBlockHash) .unknownHead
    match payloadAttributes with
    | none => pure ⟨none⟩
    | some attributes =>
      (validateVersionSpecificFields attributes.toTaikoPayloadAttributes).mapError
        .attributesValidation
      (validatePayloadAttributesAgainstHeader attributes.toTaikoPayloadAttributes
        head.header).mapError .invalidPayloadAttributes
      pure ⟨some (payloadIdTaiko codec head.hash attributes.toTaikoPayloadAttributes
        payloadIdVersionV2)⟩
  resolveKind _ := (jobBlock codec spec checks roots head attributes built).map .ok

lemma jobBlock_builtFrom {block : Block}
    (h : jobBlock codec spec checks roots head attributes built = some block) :
    BuiltFrom codec spec checks roots head attributes.toTaikoPayloadAttributes block := by
  rw [jobBlock] at h
  split at h
  · next job hjob =>
    split at h
    · next env henv =>
      cases h
      exact ⟨job, env, built, hjob, henv, rfl⟩
    · cases h
  · cases h

lemma jobEngine_runsJob (state : ForkchoiceState) :
    (jobEngine codec spec checks roots head attributes built).RunsJob codec spec checks roots
      state head attributes where
  accepts status h := by
    obtain ⟨u, hhead, h⟩ := bind_eq_ok.mp h
    obtain ⟨u', hversion, h⟩ := bind_eq_ok.mp h
    obtain ⟨u'', hheader, h⟩ := bind_eq_ok.mp h
    refine ⟨ensure_eq_ok.mp hhead, ?_, ?_⟩
    · revert hversion
      cases validateVersionSpecificFields attributes.toTaikoPayloadAttributes with
      | ok => exact fun _ => rfl
      | error => exact fun h => nomatch h
    · revert hheader
      cases validatePayloadAttributesAgainstHeader attributes.toTaikoPayloadAttributes
          head.header with
      | ok => exact fun _ => rfl
      | error => exact fun h => nomatch h
  resolves status id block _ _ hresolve := by
    obtain ⟨block', hblock, heq⟩ := Option.map_eq_some_iff.mp hresolve
    cases heq
    exact jobBlock_builtFrom codec spec checks roots head attributes built hblock

end OneJob

/-- A network with Shasta from timestamp 500 on. -/
def shastaFrom500 : TaikoChainSpec :=
  .ofHardforks 167001 (extendWithSharedHardforks [(.taiko .shasta, .timestamp 500)])

/-- A request on genesis for the block of an origin, at a timestamp of the metadata. -/
def originRequest (blockId timestamp : U256) : OriginPayloadAttributes where
  toTaikoPayloadAttributes :=
    { poolAttributes with
      blockMetadata := { poolAttributes.blockMetadata with timestamp := timestamp } }
  l1Origin := { confirmedOrigin with blockId := blockId }

/-- The engine that runs such a request. -/
def originEngine (request : OriginPayloadAttributes) : RethEngine Bytes :=
  jobEngine plainCodec shastaFrom500 .off emptyRoots genesisHeader request firstOutput

/-- The head of a chain of one block. -/
def genesisState : ForkchoiceState := ⟨1, 1, 1⟩

/-- A request whose origin and timestamps are those of the block is recorded as it should. -/
theorem forkChoiceUpdatedV2_describes_first :
    ∃ status tables' block,
      forkChoiceUpdatedV2 shastaFrom500 Header.stateRoot (originEngine (originRequest 1 1000))
        .none .empty genesisState (some (originRequest 1 1000)) = .ok (.ok status, tables') ∧
      tables' = recordBlock shastaFrom500 Header.stateRoot (originRequest 1 1000).l1Origin block
        .empty ∧
      tables'.batchToLastBlock 1 = some 1 := by
  obtain ⟨id, block, -, hresolve, -, -, hrecord⟩ := forkChoiceUpdatedV2_describes plainCodec
    shastaFrom500 .off emptyRoots Header.stateRoot (originEngine (originRequest 1 1000)) .none
    .empty _ genesisState genesisHeader (originRequest 1 1000) _ (jobEngine_runsJob ..) rfl
  cases hresolve
  exact ⟨_, _, _, rfl, hrecord ⟨by decide, fun _ _ => by decide⟩, rfl⟩

/-- Two requests the engine accepts.  The first has the origin of another block, and the block
built has no row.  The second has a timestamp in the attributes past Shasta and one in the
metadata before it, and the batch of a block that is none of Shasta's is recorded. -/
theorem forkChoiceUpdatedV2_misplaces :
    (∃ status tables' block,
      forkChoiceUpdatedV2 shastaFrom500 Header.stateRoot (originEngine (originRequest 7 1000))
        .none .empty genesisState (some (originRequest 7 1000)) = .ok (.ok status, tables') ∧
      BuiltFrom plainCodec shastaFrom500 .off emptyRoots genesisHeader
        (originRequest 7 1000).toTaikoPayloadAttributes block ∧
      block.header.number = 1 ∧ tables'.storedL1Origin 1 = none ∧
      tables'.batchToLastBlock 1 = some 7) ∧
    ∃ status tables' block,
      forkChoiceUpdatedV2 shastaFrom500 Header.stateRoot (originEngine (originRequest 1 5))
        .none .empty genesisState (some (originRequest 1 5)) = .ok (.ok status, tables') ∧
      BuiltFrom plainCodec shastaFrom500 .off emptyRoots genesisHeader
        (originRequest 1 5).toTaikoPayloadAttributes block ∧
      shastaFrom500.isShastaActive block.header.timestamp = false ∧
      tables'.batchToLastBlock 1 = some 1 := by
  constructor
  · refine ⟨_, _, _, rfl, jobBlock_builtFrom plainCodec shastaFrom500 .off emptyRoots
      genesisHeader (originRequest 7 1000) firstOutput rfl, rfl, rfl, rfl⟩
  · refine ⟨_, _, _, rfl, jobBlock_builtFrom plainCodec shastaFrom500 .off emptyRoots
      genesisHeader (originRequest 1 5) firstOutput rfl, ?_, rfl⟩
    decide

end AlethiaReth
