import AlethiaReth.Debank.Genesis
import AlethiaReth.Rpc.ReplayOutput

/-!
The request for the traces of a block, from the block it names to the answer or the error.

* `genesis_answers`: the first block is answered exactly if its header is that of the allocation,
  and what is shipped leads from nothing to the allocation.
* `builtPayload_stored`: the blocks the node builds pass the checks before a replay.
* `debank_answers`: an answer is for a block that is canonical at the start and at the end and
  whose receipts are those of its header; an error is one of a reorganization if the last look
  at the chain sees one, and only if some look does.
-/

namespace AlethiaReth.Debank

open MachineInt Outcome

/-! ### The node -/

/-- What the handler has: the execution of the chain, its first state, and its configuration. -/
structure DebankTraceExt where
  revm : Revm
  checks : OverflowChecks
  spec : TaikoChainSpec
  roots : Roots
  trieRoot : List (B256 × Bytes) → B256
  tools : ReplayTools
  genesis : Genesis
  /-- The root in the header of the first block, as the chain specification has it. -/
  genesisStateRoot : B256
  verifyStateRoots : Bool

variable (ext : DebankTraceExt)

/-- A block and its receipts as they are stored. -/
structure StoredBlock where
  hash : B256
  block : RecoveredBlock
  receipts : List Receipt

/-- Its header. -/
def StoredBlock.header (stored : StoredBlock) : Header := stored.block.block.header

/-- Why there is no permit. -/
inductive PermitFault where
  | deadline
  | closed (error : String)
  deriving DecidableEq, Repr

/-- The moments a request asks for the canonical hash at the height of its block. -/
inductive Look where
  | initial
  | final
  | recheck
  deriving DecidableEq, Repr

/-- What a request sees of the node and of its deadline. -/
structure Observed where
  permit : Except PermitFault Unit
  /-- Nothing, if the deadline passes first. -/
  loaded : Option (Except String (Option StoredBlock))
  view : ParentView
  canonical : Look → Except String (Option B256)
  /-- Whether the response is there before the deadline. -/
  answersInTime : Bool
  /-- Whether the deadline is still ahead before the last check. -/
  endsInTime : Bool

/-! ### The first block -/

section Genesis

variable (stored : StoredBlock)

/-- A block of nothing. -/
def StoredBlock.Empty : Prop :=
  stored.block.block.body.transactions = [] ∧ stored.receipts = [] ∧
    stored.header.transactionsRoot = emptyRootHash ∧ stored.header.receiptsRoot = emptyRootHash ∧
    stored.header.logsBloom = 0 ∧ stored.header.gasUsed = 0

instance : Decidable stored.Empty := inferInstanceAs (Decidable (_ ∧ _))

/-- The diff of the first block. -/
def genesisDiff : BlockStorageDiff :=
  buildGenesisStorageDiff ext.tools.keccak256 ext.genesis stored.header.stateRoot

/-- The answer for the first block. It has no transactions, and so no traces. -/
def genesisAnswer : DebankOutput :=
  let file : CompleteBlockFile :=
    { block := .ofBlock stored.hash stored.header ext.tools.now
      transactions := []
      storageContracts := genesisStorageContracts ext.genesis }
  { blockFile := file
    header := buildRpcHeader stored.hash stored.header
    stateDiff := storageDiffRlp.encode (genesisDiff ext stored)
    validationHash := file.validationHash ext.tools.sha1 }

/-- The answer for the first block. -/
def genesisOutput : Except ErrorObject DebankOutput := do
  let header := stored.header
  ensure stored.Empty
    (mismatch (.text "Genesis body, receipts, roots, logsBloom, or gasUsed is non-empty"))
  ensure (header.stateRoot = ext.genesisStateRoot)
    (mismatch (.text "stored Genesis stateRoot differs from configured chain allocation"))
  let stateDiff := genesisDiff ext stored
  let encoded := storageDiffRlp.encode stateDiff
  let decodedState ← (decodeAndValidateStorageDiffExact ext.tools.keccak256 storageDiffRlp encoded
    stateDiff).mapError fun error => mismatch (.storageDiff error)
  let decodedRoot ← (completeStateRoot ext.trieRoot stateDiff).mapError
    fun error => mismatch (.text error)
  ensure (decodedState.accountsLen stateDiff = ext.genesis.alloc.entries.length ∧
      decodedRoot = header.stateRoot)
    (mismatch (.text ("Genesis decoded state is incomplete or has root "
      ++ displayHash decodedRoot ++ ", expected " ++ displayHash header.stateRoot)))
  pure (genesisAnswer ext stored)

end Genesis

/-! ### The request -/

section Request

variable (id : BlockId) (observed : Observed) (stored : StoredBlock)

/-- Waits for a permit. -/
def acquireReplayPermit : Except ErrorObject Unit :=
  observed.permit.mapError fun fault =>
    match fault with
    | .deadline => cancelled "tracing permit deadline"
    | .closed error => unavailable (.provider error)

/-- The block of a request. -/
def loadStored : Except ErrorObject StoredBlock :=
  match observed.loaded with
  | none => .error (cancelled "provider deadline")
  | some (.error error) => .error (unavailable (.provider error))
  | some (.ok none) => .error (unavailable (.target id))
  | some (.ok (some stored)) => .ok stored

/-- The block is the canonical one. -/
def assertCanonical (number : U64) (expected : B256) (canonical : Except String (Option B256)) :
    Except ErrorObject Unit := do
  let canonical ← fromProvider canonical
  ensure (canonical = some expected) ⟨.blockReorged, .notCanonical number expected canonical⟩

/-- The error of a request, unless another look at the chain sees that its block is gone. -/
def preferReorgError (number : U64) (expected : B256) (canonical : Except String (Option B256))
    (original : ErrorObject) : ErrorObject :=
  match assertCanonical number expected canonical with
  | .error error => if error.code = .blockReorged then error else original
  | .ok () => original

/-- The response, if the deadline does not pass first. -/
def respond (isUnzenActive : Bool) : Except ErrorObject DebankOutput :=
  if stored.header.number = 0 then do
    let output ← genesisOutput ext stored
    ensure (observed.answersInTime = true) (cancelled "serialization deadline")
    pure output
  else if observed.answersInTime then
    -- the request holds the replay's token until it has the answer
    replayOutput ext.revm ext.checks ext.spec ext.tools observed.view (fun _ => false)
      ext.verifyStateRoots stored.hash stored.block stored.receipts isUnzenActive
  else
    .error (cancelled "replay deadline")

/-- What follows the first look at the chain. -/
def answerStored : Except ErrorObject DebankOutput := do
  let isUnzenActive := ext.spec.isUnzenActive stored.header.timestamp
  validateStoredConsensus ext.roots stored.block.block stored.receipts isUnzenActive
  ensure (∀ tx ∈ stored.block.block.body.transactions, tx.txType ≠ .eip4844)
    (mismatch (.text "transaction type 3 is unsupported by Taiko"))
  let output ← respond ext observed stored isUnzenActive
  ensure (observed.endsInTime = true) (cancelled "final canonical-check deadline")
  assertCanonical stored.header.number stored.hash (observed.canonical .final)
  pure output

/-- The request for a block. -/
def debankBlock : Except ErrorObject DebankOutput := do
  ensure (id ≠ .pending) (unavailable (.text "pending is not a stable replay target"))
  acquireReplayPermit observed
  let stored ← loadStored id observed
  assertCanonical stored.header.number stored.hash (observed.canonical .initial)
  (answerStored ext observed stored).mapError
    (preferReorgError stored.header.number stored.hash (observed.canonical .recheck))

end Request

/-! ### Answers for the first block -/

section GenesisAnswers

variable {ext} {stored : StoredBlock} {output : DebankOutput}
  (haddress : Function.Injective (hashedAddress ext.tools.keccak256))
  (hslot : Function.Injective (hashedSlot ext.tools.keccak256)) (htrie : OrderFree ext.trieRoot)
  (hsize : (storageDiffRlp.encode (genesisDiff ext stored)).length < 2 ^ 64)

include haddress hslot htrie hsize in
/-- The checks of the diff pass, and what is left is the root. -/
lemma genesisOutput_eq_ok : genesisOutput ext stored = .ok output ↔
    stored.Empty ∧ stored.header.stateRoot = ext.genesisStateRoot ∧
      ext.genesis.stateRoot ext.tools.keccak256 ext.trieRoot = stored.header.stateRoot ∧
      output = genesisAnswer ext stored := by
  have hdecoded : decodeAndValidateStorageDiffExact ext.tools.keccak256 storageDiffRlp
      (storageDiffRlp.encode (genesisDiff ext stored)) (genesisDiff ext stored)
      = .ok (genesisDiff ext stored).postState :=
    decodeAndValidate_of_wellFormed (storageDiffRlp_decode_encode hsize)
      (Genesis.wellFormed haddress hslot)
  have hroot : completeStateRoot ext.trieRoot (genesisDiff ext stored)
      = .ok (ext.genesis.stateRoot ext.tools.keccak256 ext.trieRoot) :=
    Genesis.completeStateRoot_eq haddress hslot htrie
  have hlength : (genesisDiff ext stored).postState.accountsLen (genesisDiff ext stored)
      = ext.genesis.alloc.entries.length := Genesis.accountsLen_eq haddress hslot
  rw [genesisOutput, ensure_bind_eq_ok, ensure_bind_eq_ok]
  dsimp only
  rw [hdecoded, hroot]
  refine and_congr_right fun _ => and_congr_right fun _ => ?_
  change (ensure _ _ >>= _) = _ ↔ _
  rw [ensure_bind_eq_ok, and_assoc]
  refine ⟨fun ⟨_, hroot, houtput⟩ => ⟨hroot, (Except.ok.inj houtput).symm⟩, ?_⟩
  rintro ⟨hroot, rfl⟩
  exact ⟨hlength, hroot, rfl⟩

end GenesisAnswers

/-- The first block is answered exactly if it is empty and its root is that of the configured
header and of the allocation. Its diff decodes, and leads from nothing to the allocation. -/
theorem genesis_answers (stored : StoredBlock)
    (haddress : Function.Injective (hashedAddress ext.tools.keccak256))
    (hslot : Function.Injective (hashedSlot ext.tools.keccak256)) (htrie : OrderFree ext.trieRoot)
    (hsize : (storageDiffRlp.encode (genesisDiff ext stored)).length < 2 ^ 64) :
    ((∃ output, genesisOutput ext stored = .ok output) ↔
      stored.Empty ∧ stored.header.stateRoot = ext.genesisStateRoot ∧
        ext.genesis.stateRoot ext.tools.keccak256 ext.trieRoot = stored.header.stateRoot) ∧
    ∀ output, genesisOutput ext stored = .ok output → ∃ diff,
      decodeStorageDiffExact ext.tools.keccak256 storageDiffRlp output.stateDiff
        = .ok (diff, diff.postState) ∧
      diff.applyTo .nothing
        = (ext.genesis.world ext.tools.keccak256).hashed ext.tools.keccak256 := by
  refine ⟨⟨?_, ?_⟩, fun output houtput => ?_⟩
  · rintro ⟨output, houtput⟩
    obtain ⟨hempty, hheader, hroot, -⟩ :=
      (genesisOutput_eq_ok haddress hslot htrie hsize).mp houtput
    exact ⟨hempty, hheader, hroot⟩
  · rintro ⟨hempty, hheader, hroot⟩
    exact ⟨genesisAnswer ext stored, (genesisOutput_eq_ok haddress hslot htrie hsize).mpr
      ⟨hempty, hheader, hroot, rfl⟩⟩
  · obtain ⟨-, -, -, rfl⟩ := (genesisOutput_eq_ok haddress hslot htrie hsize).mp houtput
    exact ⟨genesisDiff ext stored,
      decodeStorageDiffExact_of_wellFormed (storageDiffRlp_decode_encode hsize)
        (Genesis.wellFormed haddress hslot),
      Genesis.applyTo_nothing haddress hslot⟩

/-- A root that only sums up what is in a trie. -/
def sumRoot (entries : List (B256 × Bytes)) : B256 :=
  BitVec.ofNat 256 (entries.map fun entry => entry.1.toNat + entry.2.length).sum

lemma sumRoot_orderFree : OrderFree sumRoot := by
  intro l l' _ hperm
  rw [sumRoot, sumRoot, (hperm.map _).sum_eq]

/-- An allocation of two accounts. -/
def twoAccounts : Genesis where
  alloc :=
    [⟨5, ⟨some 1, 10, some [1, 2], some [⟨1, 6⟩].toAList⟩⟩, ⟨4, ⟨none, 1, none, none⟩⟩].toAList

/-- A node that replays the transfer. -/
def debankExt : DebankTraceExt where
  revm := TaikoBlockExecutor.loopRevm 0xbad
  checks := .on
  spec := transferSpec
  roots := emptyRoots
  trieRoot := sumRoot
  tools := replayTools
  genesis := twoAccounts
  genesisStateRoot := twoAccounts.stateRoot numberHash sumRoot
  verifyStateRoots := true

/-- Its first block. -/
def genesisStored : StoredBlock where
  hash := 1
  block := recoveredOf
    { header := { genesisHeader.header with stateRoot := twoAccounts.stateRoot numberHash sumRoot }
      body := ⟨[], [], some []⟩ } [] rfl
  receipts := []

/-- The slot of an account of two is in the state that the first diff leads to. -/
theorem genesis_answers_alloc :
    ∃ output diff, genesisOutput debankExt genesisStored = .ok output ∧
      decodeStorageDiffExact numberHash storageDiffRlp output.stateDiff
        = .ok (diff, diff.postState) ∧
      (diff.applyTo .nothing).storage (hashedAddress numberHash 5) (hashedSlot numberHash 1)
        = 6 := by
  have hsize : (storageDiffRlp.encode (genesisDiff debankExt genesisStored)).length < 2 ^ 64 := by
    decide +kernel
  obtain ⟨hanswered, hall⟩ := genesis_answers debankExt genesisStored hashedAddress_numberHash
    hashedSlot_numberHash sumRoot_orderFree hsize
  obtain ⟨output, houtput⟩ := hanswered.mpr ⟨by decide +kernel, rfl, rfl⟩
  obtain ⟨diff, hdecoded, happlied⟩ := hall output houtput
  refine ⟨output, diff, houtput, hdecoded, ?_⟩
  rw [happlied]
  exact WorldState.hashed_storage _ hashedAddress_numberHash hashedSlot_numberHash 5 1

/-! ### Built blocks -/

section Built

variable {roots : Roots} {spec : TaikoChainSpec} {checks : OverflowChecks} {parent : SealedHeader}
  {attributes : TaikoNextBlockEnvAttributes} {env : EvmEnv} {built : BuildOutput}

/-- A block that is assembled of its execution has the fields the check of stored blocks asks
for, but for the root of the beacon block. -/
lemma validateStoredConsensus_builtBlock
    (henv : nextEvmEnv spec checks parent.header attributes = .ok env)
    (hlength : built.output.receipts.length = built.transactions.length)
    (hcumulative : cumulativeGas built.output.receipts = built.output.gasUsed) :
    validateStoredConsensus roots (builtBlock roots spec parent attributes env built)
        built.output.receipts (spec.isUnzenActive attributes.timestamp) = .ok () ↔
      (spec.isUnzenActive attributes.timestamp = true →
        attributes.parentBeaconBlockRoot.getD 0 = 0) := by
  obtain ⟨number, rfl⟩ := nextEvmEnv_eq_buildingEnv henv
  rw [validateStoredConsensus, ensure_eq_ok]
  cases hunzen : spec.isUnzenActive attributes.timestamp with
  | true =>
    simp only [builtBlock, assembleBlock, contextForNextBlock, hunzen,
      normalizeParentBeaconBlockRoot, if_true, hlength, hcumulative, true_and, and_true,
      forall_const]
    cases attributes.parentBeaconBlockRoot with
    | none => simp
    | some root => simp
  | false =>
    simp [builtBlock, assembleBlock, contextForNextBlock, hunzen,
      normalizeParentBeaconBlockRoot, hlength, hcumulative, buildingEnv, evmEnvAt]

end Built

section Frozen

variable {Digest : Type} {roots : Roots} {stateRoot : Db → Except String B256}
  {spec : TaikoChainSpec} {revm : Revm} {checks : OverflowChecks} {codec : TxSelection.Codec}
  {payloadCodec : PayloadCodec Digest} {db : Db} {args : BuildArguments Digest}
  {pool : TxSelection.Pool} {zkOverflows : TxSelection.ZkOverflowMemory} {isCancelled : ℕ → Bool}
  {job : TaikoPayloadBuilderAttributes Digest} {block : RecoveredBlock} {totalFees : U256}

/-- A job names no beacon block, or the zero root. -/
lemma normalizePayloadConfig_beaconRoot
    (h : normalizePayloadConfig payloadCodec args = .ok (.ok job)) :
    job.parentBeaconBlockRoot.getD 0 = 0 := by
  obtain ⟨attributes, hattributes, h⟩ := bind_eq_ok.mp h
  cases attributes with
  | error error => cases h
  | ok attributes =>
    cases h
    change attributes.parentBeaconBlockRoot.getD 0 = 0
    rw [TaikoPayloadBuilderAttributes.tryNew] at hattributes
    split at hattributes
    · cases hattributes
    · next hzero =>
      have hkept : attributes.parentBeaconBlockRoot
          = args.attributes.payloadAttributes.parentBeaconBlockRoot := by
        repeat' split at hattributes
        all_goals cases hattributes
        rfl
      rw [hkept]
      cases hroot : args.attributes.payloadAttributes.parentBeaconBlockRoot with
      | none => rfl
      | some root => simpa [hroot] using hzero

/-- The block a build freezes, after an anchor of an allowed type if it has one, executes when it
is imported. With the receipts of that execution it passes what a request checks of a stored block
before its replay. -/
theorem builtPayload_stored (laws : revm.IgnoresDifficulty) (hgas : revm.ReportsGasWithinLimit)
    (hashSlow : Header → B256) (hjob : normalizePayloadConfig payloadCodec args = .ok (.ok job))
    (hanchor : job.transactions = none →
      ∀ anchorTx, job.anchorTransaction = some anchorTx → AllowedType anchorTx)
    (h : tryBuild roots stateRoot spec revm checks codec payloadCodec db args pool zkOverflows
      isCancelled = .ok (.ok (.freeze block totalFees))) :
    ∃ e fin, executorForBlock spec db (block.block.sealSlow hashSlow) = .ok e ∧
      e.executeBlock revm checks block.transactionsRecovered = .ok (.ok fin) ∧
      validateStoredConsensus roots block.block fin.result.receipts
        (spec.isUnzenActive block.block.header.timestamp) = .ok () ∧
      ∀ tx ∈ block.block.body.transactions, tx.txType ≠ .eip4844 := by
  obtain ⟨-, env, e, b, fin, root, henv, hpre, hrun, hfill, hfiltered, hfinish, -, -, rfl⟩ :=
    tryBuild_frozen hgas hjob h
  let built : BuildOutput :=
    ⟨fin.finalizedBlockZkGas, b.transactions.map (·.tx), fin.result, root⟩
  obtain ⟨hallowed, -⟩ := fillPayload_adds hanchor hfill
  obtain ⟨hlength, hcumulative⟩ := hfiltered.finished (nextExecutor_fresh env) hfinish
  obtain ⟨importer, himporter, hexecuted⟩ :=
    @builtSealed_executes revm checks roots spec args.parentHeader job.nextBlockEnv db hashSlow
      laws env henv e b.executor b.transactions fin hpre hrun hfinish built rfl
  have htimestamp : env.blockEnv.timestamp = job.timestamp := by
    obtain ⟨number, rfl⟩ := nextEvmEnv_eq_buildingEnv henv
    rfl
  refine ⟨importer, fin, himporter, ?_, ?_, ?_⟩
  · rw [transactionsRecovered_recoveredOf]
    exact hexecuted
  · change validateStoredConsensus _ _ _ (spec.isUnzenActive env.blockEnv.timestamp) = _
    rw [htimestamp]
    exact (@validateStoredConsensus_builtBlock roots spec checks args.parentHeader
      job.nextBlockEnv env built henv (hlength.trans (List.length_map _).symm) hcumulative).mpr
      fun _ => normalizePayloadConfig_beaconRoot hjob
  · intro tx htx hblob
    obtain ⟨recovered, hrecovered, rfl⟩ := List.mem_map.mp htx
    have htype := hallowed recovered hrecovered
    rw [AllowedType, isAllowedTxType, hblob] at htype
    exact absurd htype (by decide)

end Frozen

/-- The block of a build from the pool can be replayed. -/
theorem builtPayload_stored_pool :
    buildFromPool = .ok (.ok (.freeze (frozenBlock buildFromPool) 126000)) ∧
    ∃ e fin, executorForBlock transferSpec transferDb
        ((frozenBlock buildFromPool).block.sealSlow Header.stateRoot) = .ok e ∧
      e.executeBlock transferRevm .on (frozenBlock buildFromPool).transactionsRecovered
        = .ok (.ok fin) ∧
      validateStoredConsensus emptyRoots (frozenBlock buildFromPool).block fin.result.receipts
        true = .ok () := by
  have hbuild : buildFromPool = .ok (.ok (.freeze (frozenBlock buildFromPool) 126000)) := rfl
  obtain ⟨e, fin, hexecutor, hexecuted, hstored, -⟩ := builtPayload_stored
    transferRevm_ignoresDifficulty transferRevm_reportsGasWithinLimit Header.stateRoot rfl (by
      rintro - anchorTx ⟨⟩
      rfl) hbuild
  exact ⟨hbuild, e, fin, hexecutor, hexecuted, hstored⟩

/-! ### Errors that are no reorganization -/

section Errors

variable {md5 : String → BitVec 128} {tracers : Tracers} {ext} {stored : StoredBlock}

lemma unavailable_ne (detail : Detail) : (unavailable detail).code ≠ .blockReorged := by
  intro h
  cases h

lemma mismatch_ne (detail : Detail) : (mismatch detail).code ≠ .blockReorged := by
  intro h
  cases h

lemma cancelled_ne (message : String) : (cancelled message).code ≠ .blockReorged := by
  intro h
  cases h

/-- A computation whose failure, if any, is no reorganization of the chain. -/
def NoReorg {α : Type} (x : Except ErrorObject α) : Prop :=
  Satisfies (fun error : ErrorObject => error.code ≠ .blockReorged) (fun _ => True) x

namespace NoReorg

variable {α β : Type} {x : Except ErrorObject α} {f : α → Except ErrorObject β}
  (y : Except String α)

lemma ok (a : α) : NoReorg (.ok a) := trivial

lemma bind (hx : NoReorg x) (hf : ∀ a, NoReorg (f a)) : NoReorg (x >>= f) :=
  Satisfies.bind hx fun a _ => hf a

lemma mapError {ε : Type} {y : Except ε α} {g : ε → ErrorObject}
    (hg : ∀ error, (g error).code ≠ .blockReorged) : NoReorg (y.mapError g) :=
  Satisfies.mapError hg

lemma ensure {p : Prop} [Decidable p] {error : ErrorObject} (h : error.code ≠ .blockReorged) :
    NoReorg (Outcome.ensure p error) := by
  by_cases hp : p
  · rw [ensure_of hp]
    exact trivial
  · rw [ensure_of_not hp]
    exact h

lemma fromProvider : NoReorg (Debank.fromProvider y) :=
  mapError fun _ => unavailable_ne _

lemma fromReplay : NoReorg (Debank.fromReplay y) :=
  mapError fun _ => mismatch_ne _

lemma checkCancelled (isCancelled : ReplayStage → Bool) (stage : ReplayStage) :
    NoReorg (Debank.checkCancelled isCancelled stage) :=
  ensure (cancelled_ne _)

lemma answered (out : Except Panic (Answered α)) : NoReorg (Debank.answered out) := by
  rcases out with panic | ⟨error | a, e⟩
  · exact unavailable_ne _
  · exact mismatch_ne _
  · exact trivial

end NoReorg

/-! The stages of a replay. -/

variable {revm : Revm} {checks : OverflowChecks} {spec : TaikoChainSpec} {tools : ReplayTools}
  {view : ParentView} {isCancelled : ReplayStage → Bool} {verifyStateRoots isUnzenActive : Bool}

lemma resolveParent_noReorg (header : Header) : NoReorg (resolveParent view header) := by
  rw [resolveParent]
  split
  · exact .fromProvider _
  · split
    · exact mismatch_ne _
    · exact .bind (.fromProvider _) fun _ => .ok _

lemma loadParent_noReorg (header : Header) :
    NoReorg (loadParent view isCancelled verifyStateRoots header) := by
  refine .bind (resolveParent_noReorg header) fun _ => .bind (.ensure (mismatch_ne _)) fun _ =>
    .bind (.checkCancelled _ _) fun _ => .bind ?_ fun _ => .bind ?_ fun _ =>
    .bind (.ensure (mismatch_ne _)) fun _ => .bind ?_ fun _ => .bind ?_ fun _ => .ok _
  · rw [openState]
    split
    · exact .fromProvider _
    · exact .ok _
  · refine .bind (.fromProvider _) fun found => ?_
    cases found with
    | none => exact unavailable_ne _
    | some parent => exact .ok _
  · rw [checkParentRoot]
    split
    · exact .bind (.checkCancelled _ _) fun _ => .bind (.fromProvider _) fun _ =>
        .ensure (mismatch_ne _)
    · exact .ok _
  · exact .bind (.fromProvider _) fun _ => .bind (.ensure (unavailable_ne _)) fun _ =>
      .ensure (unavailable_ne _)

lemma traceLoop_noReorg (txs : List Recovered) :
    ∀ index logIndex e,
      NoReorg (traceLoop revm checks md5 tracers isCancelled index logIndex e txs) := by
  induction txs with
  | nil => exact fun _ _ _ => .ok _
  | cons tx txs ih =>
    intro index logIndex e
    refine .bind (.checkCancelled _ _) fun _ => .bind (.answered _) fun _ =>
      .bind (.checkCancelled _ _) fun _ => .bind (.mapError fun _ => mismatch_ne _) fun _ =>
      .bind (.checkCancelled _ _) fun _ => .bind (.mapError fun _ => mismatch_ne _) fun _ =>
      .bind (.checkCancelled _ _) fun _ => .bind (.mapError fun _ => unavailable_ne _) fun _ =>
      .bind (.checkCancelled _ _) fun _ => .bind (ih _ _ _) fun _ => .ok _

lemma traceExecution_noReorg {db : Db} {block : SealedBlock} {txs : List Recovered} :
    NoReorg (traceExecution revm checks spec md5 tracers isCancelled db block txs) :=
  .bind (.mapError fun _ => mismatch_ne _) fun _ => .bind (.mapError fun _ => mismatch_ne _)
    fun _ => .bind (.checkCancelled _ _) fun _ => .bind (.answered _) fun _ =>
    .bind (.checkCancelled _ _) fun _ => .bind (traceLoop_noReorg _ _ _ _) fun _ =>
    .bind (.mapError fun _ => mismatch_ne _) fun _ => .ok _

lemma stateDiffOf_noReorg {keccak256 : Bytes → B256} {header parent : Header}
    {bundle : BundleState} :
    NoReorg (stateDiffOf keccak256 view isCancelled verifyStateRoots header parent bundle) := by
  refine .bind ?_ fun rootA => .bind (.mapError fun _ => mismatch_ne _) fun _ =>
    .bind (.checkCancelled _ _) fun _ => .bind (.checkCancelled _ _) fun _ => .bind ?_ fun _ =>
    .bind ?_ fun _ => .ok _
  · rw [replayRoot]
    split
    · exact .bind (.checkCancelled _ _) fun _ => .bind (.fromReplay _) fun _ =>
        .bind (.fromReplay _) fun _ => .bind (.ensure (mismatch_ne _)) fun _ =>
        .bind (.checkCancelled _ _) fun _ => .ok _
    · exact .ok _
  · rw [decodeStateDiff]
    split
    · exact .ok _
    · exact .mapError fun _ => mismatch_ne _
  · cases rootA with
    | none => exact .ok _
    | some rootA =>
      exact .bind (.checkCancelled _ _) fun _ => .bind (.mapError fun _ => mismatch_ne _)
        fun _ => .bind (.fromReplay _) fun _ => .bind (.ensure (mismatch_ne _)) fun _ =>
        .checkCancelled _ _

/-- A replay knows nothing of the chain it is on. -/
lemma replayOutput_noReorg {hash : B256} {block : RecoveredBlock} {receipts : List Receipt} :
    NoReorg (replayOutput revm checks spec tools view isCancelled verifyStateRoots hash block
      receipts isUnzenActive) :=
  .bind (loadParent_noReorg _) fun _ => .bind traceExecution_noReorg fun _ =>
    .bind (.ensure (mismatch_ne _)) fun _ => .bind stateDiffOf_noReorg fun _ =>
    .bind (.bind (.mapError fun _ => mismatch_ne _) fun _ => .ok _) fun _ =>
    .bind (.checkCancelled _ _) fun _ => .bind (.checkCancelled _ _) fun _ => .ok _

lemma genesisOutput_noReorg :
    NoReorg (genesisOutput ext stored) :=
  .bind (.ensure (mismatch_ne _)) fun _ => .bind (.ensure (mismatch_ne _)) fun _ =>
    .bind (.mapError fun _ => mismatch_ne _) fun _ => .bind (.mapError fun _ => mismatch_ne _)
    fun _ => .bind (.ensure (mismatch_ne _)) fun _ => .ok _

lemma respond_noReorg {observed : Observed} :
    NoReorg (respond ext observed stored isUnzenActive) := by
  rw [respond]
  split
  · exact .bind genesisOutput_noReorg fun _ => .bind (.ensure (cancelled_ne _)) fun _ => .ok _
  · split
    · exact replayOutput_noReorg
    · exact cancelled_ne _

end Errors

/-! ### Answers and errors of a request -/

/-- A look at the chain that sees another block at the height, or none. -/
def Observed.Moved (observed : Observed) (stored : StoredBlock) (look : Look) : Prop :=
  ∃ canonical, observed.canonical look = .ok canonical ∧ canonical ≠ some stored.hash

section Looks

variable {number : U64} {expected : B256} {canonical : Except String (Option B256)}

lemma assertCanonical_eq_ok :
    assertCanonical number expected canonical = .ok () ↔ canonical = .ok (some expected) := by
  rw [assertCanonical, bind_eq_ok]
  constructor
  · rintro ⟨found, hfound, h⟩
    rw [ensure_eq_ok.mp h] at hfound
    exact mapError_eq_ok.mp hfound
  · rintro rfl
    exact ⟨some expected, rfl, ensure_of rfl⟩

/-- The error of a look is a reorganization exactly if it sees another hash. -/
lemma assertCanonical_eq_error {error : ErrorObject}
    (h : assertCanonical number expected canonical = .error error) :
    error.code = .blockReorged ↔ ∃ found, canonical = .ok found ∧ found ≠ some expected := by
  cases canonical with
  | error message =>
    cases h
    refine ⟨fun hcode => absurd hcode (unavailable_ne _), ?_⟩
    rintro ⟨found, ⟨⟩, -⟩
  | ok found =>
    by_cases hfound : found = some expected
    · rw [assertCanonical_eq_ok.mpr (congrArg Except.ok hfound)] at h
      cases h
    · change ensure (found = some expected) _ = _ at h
      rw [ensure_of_not hfound] at h
      cases h
      exact ⟨fun _ => ⟨found, rfl, hfound⟩, fun _ => rfl⟩

lemma preferReorgError_of_moved {found : Option B256} (hfound : found ≠ some expected)
    (original : ErrorObject) :
    (preferReorgError number expected (.ok found) original).code = .blockReorged := by
  rw [preferReorgError]
  split
  · next error herror =>
    rw [if_pos ((assertCanonical_eq_error herror).mpr ⟨found, rfl, hfound⟩)]
    exact (assertCanonical_eq_error herror).mpr ⟨found, rfl, hfound⟩
  · next hok => exact absurd (Except.ok.inj (assertCanonical_eq_ok.mp hok)) hfound

/-- An error that is preferred to another one is a reorganization that the look sees. -/
lemma preferReorgError_cases (original : ErrorObject) :
    preferReorgError number expected canonical original = original ∨
      ∃ found, canonical = .ok found ∧ found ≠ some expected := by
  rw [preferReorgError]
  split
  · next error herror =>
    split
    · next hcode => exact .inr ((assertCanonical_eq_error herror).mp hcode)
    · exact .inl rfl
  · exact .inl rfl

end Looks

section Requests

variable {ext} {id : BlockId} {observed : Observed} {stored : StoredBlock} {output : DebankOutput}
  {error : ErrorObject}

lemma loadStored_eq_ok :
    loadStored id observed = .ok stored ↔ observed.loaded = some (.ok (some stored)) := by
  rw [loadStored]
  split
  · next hloaded => simp [hloaded]
  · next hloaded => simp [hloaded]
  · next hloaded => simp [hloaded]
  · next hloaded => simp [hloaded]

lemma answerStored_eq_ok (h : answerStored ext observed stored = .ok output) :
    observed.canonical .final = .ok (some stored.hash) ∧
    validateStoredConsensus ext.roots stored.block.block stored.receipts
      (ext.spec.isUnzenActive stored.header.timestamp) = .ok () ∧
    (∀ tx ∈ stored.block.block.body.transactions, tx.txType ≠ .eip4844) ∧
    respond ext observed stored (ext.spec.isUnzenActive stored.header.timestamp) = .ok output := by
  obtain ⟨_, hconsensus, h⟩ := bind_eq_ok.mp h
  obtain ⟨htypes, h⟩ := ensure_bind_eq_ok.mp h
  obtain ⟨answer, hanswer, h⟩ := bind_eq_ok.mp h
  obtain ⟨-, h⟩ := ensure_bind_eq_ok.mp h
  obtain ⟨_, hfinal, h⟩ := bind_eq_ok.mp h
  cases h
  exact ⟨assertCanonical_eq_ok.mp hfinal, hconsensus, htypes, hanswer⟩

/-- Only the last check of a request fails with a reorganization. -/
lemma answerStored_eq_error (h : answerStored ext observed stored = .error error)
    (hcode : error.code = .blockReorged) : observed.Moved stored .final := by
  have hbind {α β : Type} {x : Except ErrorObject α} {f : α → Except ErrorObject β}
      (hx : NoReorg x) (h : (x >>= f) = .error error) : ∃ a, f a = .error error := by
    cases x with
    | error e =>
      cases h
      exact absurd hcode hx
    | ok a => exact ⟨a, h⟩
  obtain ⟨_, h⟩ := hbind (.ensure (mismatch_ne _)) h
  obtain ⟨_, h⟩ := hbind (.ensure (mismatch_ne _)) h
  obtain ⟨answer, h⟩ := hbind respond_noReorg h
  obtain ⟨_, h⟩ := hbind (.ensure (cancelled_ne _)) h
  cases hfinal : assertCanonical stored.header.number stored.hash (observed.canonical .final) with
  | ok u =>
    rw [hfinal] at h
    cases h
  | error e =>
    rw [hfinal] at h
    cases h
    exact (assertCanonical_eq_error hfinal).mp hcode

lemma respond_eq_ok {isUnzenActive : Bool}
    (h : respond ext observed stored isUnzenActive = .ok output) :
    (stored.header.number = 0 → genesisOutput ext stored = .ok output) ∧
      (stored.header.number ≠ 0 → replayOutput ext.revm ext.checks ext.spec ext.tools
        observed.view (fun _ => false) ext.verifyStateRoots stored.hash stored.block
        stored.receipts isUnzenActive = .ok output) := by
  rw [respond] at h
  split at h
  · next hzero =>
    obtain ⟨answer, hanswer, h⟩ := bind_eq_ok.mp h
    obtain ⟨-, h⟩ := ensure_bind_eq_ok.mp h
    cases h
    exact ⟨fun _ => hanswer, fun hne => absurd hzero hne⟩
  · next hne =>
    split at h
    · exact ⟨fun hzero => absurd hzero hne, fun _ => h⟩
    · cases h

end Requests

/-- An answer is for a block that is canonical when it is loaded and when the request ends, whose
body and receipts are those of its header, and is that of the allocation or of the replay. Once the
block was canonical, an error is a reorganization if the last look sees one, and only if the
last look or the one before the answer does. -/
theorem debank_answers (id : BlockId) (observed : Observed) :
    (∀ output, debankBlock ext id observed = .ok output → ∃ stored,
      id ≠ .pending ∧ observed.loaded = some (.ok (some stored)) ∧
      observed.canonical .initial = .ok (some stored.hash) ∧
      observed.canonical .final = .ok (some stored.hash) ∧
      validateStoredConsensus ext.roots stored.block.block stored.receipts
        (ext.spec.isUnzenActive stored.header.timestamp) = .ok () ∧
      (∀ tx ∈ stored.block.block.body.transactions, tx.txType ≠ .eip4844) ∧
      (stored.header.number = 0 → genesisOutput ext stored = .ok output) ∧
      (stored.header.number ≠ 0 → replayOutput ext.revm ext.checks ext.spec ext.tools
        observed.view (fun _ => false) ext.verifyStateRoots stored.hash stored.block
        stored.receipts (ext.spec.isUnzenActive stored.header.timestamp) = .ok output)) ∧
    ∀ error stored, debankBlock ext id observed = .error error → id ≠ .pending →
      observed.permit = .ok () → observed.loaded = some (.ok (some stored)) →
      observed.canonical .initial = .ok (some stored.hash) →
      (observed.Moved stored .recheck → error.code = .blockReorged) ∧
      (error.code = .blockReorged → observed.Moved stored .recheck ∨
        observed.Moved stored .final) := by
  refine ⟨fun output h => ?_, fun error stored h hid hpermit hloaded hinitial => ?_⟩
  · obtain ⟨hid, h⟩ := ensure_bind_eq_ok.mp h
    obtain ⟨_, -, h⟩ := bind_eq_ok.mp h
    obtain ⟨stored, hstored, h⟩ := bind_eq_ok.mp h
    obtain ⟨_, hinitial, h⟩ := bind_eq_ok.mp h
    obtain ⟨hfinal, hconsensus, htypes, hanswer⟩ := answerStored_eq_ok (mapError_eq_ok.mp h)
    exact ⟨stored, hid, loadStored_eq_ok.mp hstored, assertCanonical_eq_ok.mp hinitial, hfinal,
      hconsensus, htypes, respond_eq_ok hanswer⟩
  -- past the first check an error is replaced if the block has moved
  · rw [debankBlock, ensure_of hid, acquireReplayPermit, hpermit, loadStored_eq_ok.mpr hloaded]
      at h
    change (assertCanonical _ _ _ >>= _) = _ at h
    rw [assertCanonical_eq_ok.mpr hinitial] at h
    change (answerStored ext observed stored).mapError _ = _ at h
    cases hanswer : answerStored ext observed stored with
    | ok output =>
      rw [hanswer] at h
      cases h
    | error original =>
      rw [hanswer] at h
      cases h
      refine ⟨?_, fun hcode => ?_⟩
      · rintro ⟨found, hfound, hmoved⟩
        rw [hfound]
        exact preferReorgError_of_moved hmoved original
      · rcases @preferReorgError_cases stored.header.number stored.hash
          (observed.canonical .recheck) original with hsame | hmoved
        · rw [hsame] at hcode
          exact .inr (answerStored_eq_error hanswer hcode)
        · exact .inl hmoved

/-- The block of the transfer. -/
def replayedStored : StoredBlock :=
  ⟨2, replayedBlock, TaikoBlockExecutor.transferResult.receipts⟩

/-- A request that finds its block canonical at the first look, and then what is given. -/
def observedWith (final recheck : Option B256) : Observed where
  permit := .ok ()
  loaded := some (.ok (some replayedStored))
  view := recreatedView
  canonical
    | .initial => .ok (some 2)
    | .final => .ok final
    | .recheck => .ok recheck
  answersInTime := true
  endsInTime := true

/-- The block is answered where it stays canonical, and its error is a reorganization else. -/
theorem debank_answers_recreated :
    (∃ output, debankBlock debankExt (.number 1) (observedWith (some 2) none) = .ok output ∧
      replayRecreated = .ok output) ∧
    ∃ error, debankBlock debankExt (.number 1) (observedWith (some 3) (some 3)) = .error error ∧
      error.code = .blockReorged := by
  constructor
  · cases h : debankBlock debankExt (.number 1) (observedWith (some 2) none) with
    | error e =>
      have hok : (debankBlock debankExt (.number 1) (observedWith (some 2) none)).isOk
          = true := by
        decide +kernel
      rw [h] at hok
      cases hok
    | ok output =>
      obtain ⟨stored, -, hloaded, -, -, -, -, -, hreplay⟩ := (debank_answers _ _ _).1 output h
      obtain rfl : replayedStored = stored :=
        Option.some.inj (Except.ok.inj (Option.some.inj hloaded))
      exact ⟨output, rfl, hreplay (by decide)⟩
  · cases h : debankBlock debankExt (.number 1) (observedWith (some 3) (some 3)) with
    | error error =>
      exact ⟨error, rfl, ((debank_answers _ _ _).2 error replayedStored h (by decide) rfl rfl
        rfl).1 ⟨some 3, rfl, by decide⟩⟩
    | ok output =>
      obtain ⟨stored, -, hloaded, -, hfinal, -⟩ := (debank_answers _ _ _).1 output h
      obtain rfl : replayedStored = stored :=
        Option.some.inj (Except.ok.inj (Option.some.inj hloaded))
      exact absurd (Except.ok.inj hfinal) (by decide)

end AlethiaReth.Debank
