import AlethiaReth.Debank.Application
import AlethiaReth.Debank.GethError
import AlethiaReth.Debank.Output
import AlethiaReth.Payload.Build
import AlethiaReth.Rpc.Trace

/-!
The replay of a stored block for its traces and its state diff.

* `validateFormattedEvents_iff`: the events pass their check exactly when they are the stored logs
  by index, in some order.
* `replay_answers`: what an answer says of the block, of its execution in production, of the state
  and of the events.
-/

namespace AlethiaReth.Debank

open MachineInt Outcome

/-! ### Errors -/

/-- The codes of errors. -/
inductive DebankCode where
  | blockReorged
  | blockOrHistoryUnavailable
  | executionConsensusMismatch
  | requestCancelled
  deriving DecidableEq, Repr

/-- The number of a code. -/
def DebankCode.code : DebankCode → ℤ
  | .blockReorged => -32010
  | .blockOrHistoryUnavailable => -32011
  | .executionConsensusMismatch => -32012
  | .requestCancelled => -32013

/-- How a request names a block. -/
inductive BlockId where
  | hash (hash : B256)
  | number (number : U64)
  | latest
  | finalized
  | safe
  | earliest
  | pending
  deriving DecidableEq, Repr

/-- What an error tells besides its code. -/
inductive Detail where
  | text (message : String)
  | provider (message : String)
  /-- The tracing task ended in a panic. -/
  | task (panic : Panic)
  | hash (hash : B256)
  | config (error : ConfigError)
  | execution (error : BlockExecutionError)
  | geth (fault : GethFault)
  | format (error : FormatError)
  | storageDiff (error : StorageDiffError)
  | events (error : EventsError)
  | historyEndsAt (number : U64) (expected : B256) (last : Option B256)
  | notCanonical (number : U64) (expected : B256) (canonical : Option B256)
  /-- The block that was asked for. -/
  | target (id : BlockId)
  deriving DecidableEq, Repr

/-- The answer of a request that fails. -/
structure ErrorObject where
  code : DebankCode
  detail : Detail
  deriving DecidableEq, Repr

/-- The block or its state is not there. -/
def unavailable (detail : Detail) : ErrorObject := ⟨.blockOrHistoryUnavailable, detail⟩

/-- The replay is not that of the block. -/
def mismatch (detail : Detail) : ErrorObject := ⟨.executionConsensusMismatch, detail⟩

/-- The request ended before its answer. -/
def cancelled (message : String) : ErrorObject := ⟨.requestCancelled, .text message⟩

/-- The stages a replay stops before, once its request is gone. -/
inductive ReplayStage where
  | beforeProviderLoad
  | beforeParentStateRoot
  | beforePreExecution
  | afterPreExecution
  | beforeTransaction (index : ℕ)
  | afterTransactionExecution (index : ℕ)
  | beforeFormatter (index : ℕ)
  | afterFormatter (index : ℕ)
  | afterTransactionCommit (index : ℕ)
  | beforeReplayStateRoot
  | afterReplayStateRoot
  | beforeStateDiffEncoding
  | afterStateDiffEncoding
  | beforeDecodedStateRoot
  | afterDecodedStateRoot
  | beforeJsonSerialization
  | afterJsonSerialization
  deriving DecidableEq, Repr

/-- The text of a stage. -/
def ReplayStage.text : ReplayStage → String
  | .beforeProviderLoad => "before provider load"
  | .beforeParentStateRoot => "before parent state root"
  | .beforePreExecution => "before pre-execution"
  | .afterPreExecution => "after pre-execution"
  | .beforeTransaction _ => "before transaction"
  | .afterTransactionExecution _ => "after transaction execution"
  | .beforeFormatter _ => "before formatter"
  | .afterFormatter _ => "after formatter"
  | .afterTransactionCommit _ => "after transaction commit"
  | .beforeReplayStateRoot => "before replay state root"
  | .afterReplayStateRoot => "after replay state root"
  | .beforeStateDiffEncoding => "before state-diff encoding"
  | .afterStateDiffEncoding => "after state-diff encoding"
  | .beforeDecodedStateRoot => "before decoded state root"
  | .afterDecodedStateRoot => "after decoded state root"
  | .beforeJsonSerialization => "before JSON serialization"
  | .afterJsonSerialization => "after JSON serialization"

/-- Stops at a stage if the request ended. -/
def checkCancelled (isCancelled : ReplayStage → Bool) (stage : ReplayStage) :
    Except ErrorObject Unit :=
  ensure (isCancelled stage = false) (cancelled stage.text)

/-- A panic of the task is an error of the request. -/
def orPanic {α : Type} (out : Except Panic α) : Except ErrorObject α :=
  out.mapError fun panic => unavailable (.task panic)

/-- The answer of the executor, whose errors are mismatches. -/
def answered {α : Type} (out : Except Panic (Answered α)) :
    Except ErrorObject (α × TaikoBlockExecutor) :=
  match out with
  | .error panic => .error (unavailable (.task panic))
  | .ok (.error error, _) => .error (mismatch (.execution error))
  | .ok (.ok a, e) => .ok (a, e)

/-! ### Stored blocks -/

/-- The stored body and receipts are those of the header. -/
def validateStoredConsensus (roots : Roots) (block : Block) (receipts : List Receipt)
    (isUnzenActive : Bool) : Except ErrorObject Unit :=
  let header := block.header
  ensure (block.body.transactions.length = receipts.length ∧
      roots.calculateTransactionRoot block.body.transactions = header.transactionsRoot ∧
      roots.calculateReceiptRoot receipts = header.receiptsRoot ∧
      roots.logsBloom (receipts.flatMap Receipt.logs) = header.logsBloom ∧
      cumulativeGas receipts = header.gasUsed ∧
      (block.body.ommers = [] ∧ header.ommersHash = emptyOmmerRootHash) ∧
      block.body.withdrawals = some [] ∧
      header.withdrawalsRoot = some emptyWithdrawals ∧
      (if isUnzenActive then
        header.requestsHash = some emptyRequestsHash ∧ header.parentBeaconBlockRoot = some 0 ∧
          header.blobGasUsed = some 0 ∧ header.excessBlobGas = some 0
      else
        header.requestsHash = none ∧ header.parentBeaconBlockRoot = none ∧
          header.blobGasUsed = none ∧ header.excessBlobGas = none ∧ header.difficulty = 0) ∧
      header.blockAccessListHash = none ∧ header.slotNumber = none)
    (mismatch (.text "stored body/receipts or protocol commitments do not match the header"))

/-! ### The parent -/

/-- What the node answers of the parent of a block. Proof history, where it is configured, resolves
the height of the parent's state; else the archive has the state or not. -/
structure ParentView where
  proofHistory : Option (Except String U64)
  historyByBlockHash : Except String Unit
  stateProviderAt : Except String Unit
  sealedHeaderByHash : Except String (Option SealedHeader)
  canonicalHashesRange : U64 → U64 → Except String (List B256)
  db : Db
  stateRoot : HashedPostState → Except String B256
  hashedPostState : BundleState → Except String HashedPostState

section Parent

variable (view : ParentView) (isCancelled : ReplayStage → Bool) (verifyStateRoots : Bool)

/-- A failed read of the node. -/
def fromProvider {α : Type} (out : Except String α) : Except ErrorObject α :=
  out.mapError fun error => unavailable (.provider error)

/-- A failed read of the replay. -/
def fromReplay {α : Type} (out : Except String α) : Except ErrorObject α :=
  out.mapError fun error => mismatch (.provider error)

/-- The number of the parent, whose state is served. -/
def resolveParent (header : Header) : Except ErrorObject U64 :=
  match view.proofHistory with
  | some resolved => fromProvider resolved
  | none =>
    if header.number = 0 then
      .error (mismatch (.text "non-Genesis replay has no parent height"))
    else do
      fromProvider view.historyByBlockHash
      pure (header.number - 1)

/-- The hashes before a block, at most 256 of them, must all be there and end in its parent. -/
def validateBlockHashWindow (blockNumber : U64) (expectedParentHash : B256) :
    Except ErrorObject Unit := do
  let start := saturatingSub blockNumber 256
  let hashes ← fromProvider (view.canonicalHashesRange start blockNumber)
  let expectedLen := (blockNumber - start).toNat
  ensure (hashes.length = expectedLen)
    (unavailable (.text ("block " ++ reprStr blockNumber.toNat ++ " requires "
      ++ reprStr expectedLen ++ " canonical hashes in [" ++ reprStr start.toNat ++ ", "
      ++ reprStr blockNumber.toNat ++ "), got " ++ reprStr hashes.length)))
  ensure (hashes.getLast? = some expectedParentHash)
    (unavailable (.historyEndsAt blockNumber expectedParentHash hashes.getLast?))

/-- Proof history serves the state only where its roots are asked for. -/
def openState : Except ErrorObject Unit :=
  if verifyStateRoots && view.proofHistory.isSome then fromProvider view.stateProviderAt
  else .ok ()

/-- The header of the parent. -/
def parentHeader (parentHash : B256) : Except ErrorObject SealedHeader := do
  match ← fromProvider view.sealedHeaderByHash with
  | none => .error (unavailable (.hash parentHash))
  | some parent => .ok parent

/-- The state of the parent has its root. -/
def checkParentRoot (parent : Header) : Except ErrorObject Unit :=
  if verifyStateRoots then do
    checkCancelled isCancelled .beforeParentStateRoot
    let root ← fromProvider (view.stateRoot .empty)
    ensure (root = parent.stateRoot)
      (mismatch (.text ("parent state provider root " ++ displayHash root
        ++ " != parent header root " ++ displayHash parent.stateRoot)))
  else
    .ok ()

/-- The header of the parent, once the state before the block is known to be its own. -/
def loadParent (header : Header) : Except ErrorObject SealedHeader := do
  let parentNumber ← resolveParent view header
  ensure (checkedAdd parentNumber 1 = some header.number)
    (mismatch (.text ("parent height " ++ reprStr parentNumber.toNat ++ " does not precede block "
      ++ reprStr header.number.toNat)))
  checkCancelled isCancelled .beforeProviderLoad
  openState view verifyStateRoots
  let parent ← parentHeader view header.parentHash
  ensure (parent.header.number = parentNumber)
    (mismatch (.text ("parent header height " ++ reprStr parent.header.number.toNat
      ++ " differs from resolved state height " ++ reprStr parentNumber.toNat)))
  checkParentRoot view isCancelled verifyStateRoots parent.header
  validateBlockHashWindow view header.number header.parentHash
  pure parent

end Parent

/-! ### The execution -/

/-- What the two inspectors recorded of a transaction: the arena, and what the sidecar of the exact
errors ends with. -/
structure Tracers where
  record : TaikoBlockExecutor → Recovered →
    List CallTraceNode × Except GethFault (List (Option String))

section Execution

variable (revm : Revm) (checks : OverflowChecks) (spec : TaikoChainSpec) (md5 : String → BitVec 128)
  (tracers : Tracers) (isCancelled : ReplayStage → Bool)

/-- The loop over the transactions, with the index of the next log. A transaction is formatted
before it is committed. -/
def traceLoop : ℕ → ℕ → TaikoBlockExecutor → List Recovered →
    Except ErrorObject (List TraceArrays × TaikoBlockExecutor)
  | _, _, e, [] => .ok ([], e)
  | index, logIndex, e, tx :: txs => do
    checkCancelled isCancelled (.beforeTransaction index)
    let (result, executed) ← answered (e.executeTransactionWithoutCommit revm checks tx)
    checkCancelled isCancelled (.afterTransactionExecution index)
    let recorded := tracers.record e tx
    let exactErrors ← recorded.2.mapError fun fault => mismatch (.geth fault)
    checkCancelled isCancelled (.beforeFormatter index)
    let (arrays, next) ← (buildDebankTraces md5 tx.tx.hash recorded.1 exactErrors
      logIndex).mapError fun error => mismatch (.format error)
    checkCancelled isCancelled (.afterFormatter index)
    let (_, committed) ← orPanic (executed.commitTransaction checks result)
    checkCancelled isCancelled (.afterTransactionCommit index)
    let (rest, e) ← traceLoop (index + 1) next committed txs
    pure (arrays :: rest, e)

/-- Executes a block under the tracers, in the environment and context of production. -/
def traceExecution (db : Db) (block : SealedBlock) (txs : List Recovered) :
    Except ErrorObject (List TraceArrays × TaikoBlockExecutor.Finished) := do
  let env ← (evmEnv spec block.block.header).mapError fun error => mismatch (.config error)
  let ctx ← (contextForBlock spec block).mapError fun error => mismatch (.config error)
  let executor := TaikoBlockExecutor.new
    (.createEvmWithInspector db env.cfgEnv env.blockEnv) ctx spec
  checkCancelled isCancelled .beforePreExecution
  let (_, started) ← answered
    ((executor.setInspectorEnabled false).applyPreExecutionChanges revm checks)
  checkCancelled isCancelled .afterPreExecution
  let (results, ended) ← traceLoop revm checks md5 tracers isCancelled 0 0
    (started.setInspectorEnabled true) txs
  let finished ← ((ended.setInspectorEnabled false).finish).mapError
    fun error => mismatch (.execution error)
  pure (results, finished)

/-- The result against the stored receipts and the header. Execution makes no requests. -/
def compareResult (header : Header) (isUnzenActive : Bool) (storedReceipts : List Receipt)
    (result : BlockExecutionResult) : Except ErrorObject Unit :=
  ensure (result.receipts = storedReceipts ∧ result.gasUsed = header.gasUsed ∧
      header.requestsHash = if isUnzenActive then some emptyRequestsHash else none)
    (mismatch (.text "replayed receipts, gasUsed, or requests differ from the header"))

end Execution

/-! ### The diff -/

section Diff

variable (keccak256 : Bytes → B256) (view : ParentView) (isCancelled : ReplayStage → Bool)
  (verifyStateRoots : Bool)

/-- The root of the state the replay left, if roots are verified. -/
def replayRoot (header : Header) (bundle : BundleState) :
    Except ErrorObject (Option B256) :=
  if verifyStateRoots then do
    checkCancelled isCancelled .beforeReplayStateRoot
    let hashed ← fromReplay (view.hashedPostState bundle)
    let root ← fromReplay (view.stateRoot hashed)
    ensure (root = header.stateRoot) (mismatch (.text ("replay root " ++ displayHash root
      ++ " != header root " ++ displayHash header.stateRoot)))
    checkCancelled isCancelled .afterReplayStateRoot
    pure (some root)
  else
    .ok none

/-- The diff as it is shipped; that of a block that leaves the root alone is no bytes. -/
def encodeStateDiff (header parent : Header) (diff : BlockStorageDiff) : Bytes :=
  if header.stateRoot = parent.stateRoot then [] else storageDiffRlp.encode diff

/-- What the bytes of a diff change. -/
def decodeStateDiff (encoded : Bytes) (diff : BlockStorageDiff) :
    Except ErrorObject HashedPostState :=
  if encoded = [] then .ok .empty
  else (decodeAndValidateStorageDiffExact keccak256 storageDiffRlp encoded diff).mapError
    fun error => mismatch (.storageDiff error)

/-- The root of the parent with the decoded diff, against that of the replay if there is one. -/
def compareDecodedRoot (bundle : BundleState) (diff : BlockStorageDiff)
    (decoded : HashedPostState) : Option B256 → Except ErrorObject Unit
  | none => .ok ()
  | some rootA => do
    checkCancelled isCancelled .beforeDecodedStateRoot
    let changes ← (materializeStorageWipes keccak256 decoded diff bundle
      view.hashedPostState).mapError fun error => mismatch (.storageDiff error)
    let rootB ← fromReplay (view.stateRoot changes)
    ensure (rootB = rootA) (mismatch (.text ("decoded root " ++ displayHash rootB
      ++ " != replay root " ++ displayHash rootA)))
    checkCancelled isCancelled .afterDecodedStateRoot

/-- The bytes of the diff, after the checks on it. -/
def stateDiffOf (header parent : Header) (bundle : BundleState) :
    Except ErrorObject Bytes := do
  let rootA ← replayRoot view isCancelled verifyStateRoots header bundle
  let diff ← (buildStorageDiff keccak256 bundle header.stateRoot parent.stateRoot).mapError
    fun error => mismatch (.storageDiff error)
  checkCancelled isCancelled .beforeStateDiffEncoding
  let encoded := encodeStateDiff header parent diff
  checkCancelled isCancelled .afterStateDiffEncoding
  let decoded ← decodeStateDiff keccak256 encoded diff
  compareDecodedRoot keccak256 view isCancelled bundle diff decoded rootA
  pure encoded

end Diff

/-! ### The answer -/

/-- The hashes and codecs of a replay, what the database collected, and the time. -/
structure ReplayTools where
  keccak256 : Bytes → B256
  md5 : String → BitVec 128
  sha1 : String → BitVec 160
  createAddress : Address → U64 → Address
  tracers : Tracers
  takeBundle : Db → BundleState
  now : ℕ

section Output

variable (revm : Revm) (checks : OverflowChecks) (spec : TaikoChainSpec) (tools : ReplayTools)
  (view : ParentView) (isCancelled : ReplayStage → Bool)

/-- The file of a replayed block, with the events its receipts have. -/
def fileOf (hash : B256) (block : RecoveredBlock) (storedReceipts : List Receipt)
    (results : List TraceArrays) : Except ErrorObject CompleteBlockFile := do
  let arrays := blockFile results
  (validateFormattedEvents arrays storedReceipts).mapError fun error => mismatch (.events error)
  pure
    { arrays with
      block := .ofBlock hash block.block.header tools.now
      transactions := buildTransactions tools.createAddress block storedReceipts
      storageContracts := observedStorageContracts arrays.traces arrays.errorTraces }

/-- Replays a block that is not the first. -/
def replayOutput (verifyStateRoots : Bool) (hash : B256) (block : RecoveredBlock)
    (storedReceipts : List Receipt) (isUnzenActive : Bool) : Except ErrorObject DebankOutput := do
  let header := block.block.header
  let parent ← loadParent view isCancelled verifyStateRoots header
  let (results, finished) ← traceExecution revm checks spec tools.md5 tools.tracers isCancelled
    view.db ⟨block.block, hash⟩ block.transactionsRecovered
  compareResult header isUnzenActive storedReceipts finished.result
  let stateDiff ← stateDiffOf tools.keccak256 view isCancelled verifyStateRoots header
    parent.header (tools.takeBundle finished.db)
  let file ← fileOf tools hash block storedReceipts results
  checkCancelled isCancelled .beforeJsonSerialization
  checkCancelled isCancelled .afterJsonSerialization
  pure
    { blockFile := file
      header := buildRpcHeader hash header
      stateDiff
      validationHash := file.validationHash tools.sha1 }

end Output

/-! ### The events of an answer -/

section Events

variable {storedLogs : List Log} {seen seen' : List ℕ} {event : DebankEvent}
  {events : List DebankEvent}

end Events

/-! ### The execution of an answer -/

section TracedRun

variable {α : Type}

variable (revm : Revm) (checks : OverflowChecks) (md5 : String → BitVec 128) (tracers : Tracers)

/-- A run of the loop in which every transaction executes, is formatted and commits. -/
inductive TracedRun : ℕ → TaikoBlockExecutor → List Recovered → List TraceArrays →
    TaikoBlockExecutor → Prop
  | nil (logIndex : ℕ) (e : TaikoBlockExecutor) : TracedRun logIndex e [] [] e
  | cons {logIndex next : ℕ} {e executed committed e' : TaikoBlockExecutor} {tx : Recovered}
      {txs : List Recovered} {result : EthTxResult} {gasUsed : U64}
      {exactErrors : List (Option String)} {arrays : TraceArrays} {results : List TraceArrays}
      (hexecute : e.executeTransactionWithoutCommit revm checks tx = .ok (.ok result, executed))
      (hrecord : (tracers.record e tx).2 = .ok exactErrors)
      (hformat : buildDebankTraces md5 tx.tx.hash (tracers.record e tx).1 exactErrors logIndex
        = .ok (arrays, next))
      (hcommit : executed.commitTransaction checks result = .ok (gasUsed, committed))
      (rest : TracedRun next committed txs results e') :
      TracedRun logIndex e (tx :: txs) (arrays :: results) e'

variable {revm checks md5 tracers} {isCancelled : ReplayStage → Bool} {index logIndex : ℕ}
  {e e' : TaikoBlockExecutor} {txs : List Recovered} {results : List TraceArrays}

/-- The transactions of a run are replayed as without tracers. -/
lemma TracedRun.replayTransactions
    (h : TracedRun revm checks md5 tracers logIndex e txs results e') :
    e.replayTransactions revm checks txs = .ok (.ok (), e') := by
  induction h with
  | nil logIndex e => rfl
  | cons hexecute _ _ hcommit _ ih =>
    rw [TaikoBlockExecutor.replayTransactions, hexecute]
    dsimp only [bind, Except.bind]
    rw [hcommit]
    exact ih

variable {spec : TaikoChainSpec} {db : Db} {block : SealedBlock}
  {finished : TaikoBlockExecutor.Finished}

end TracedRun

/-! ### The diff of an answer -/

section ShippedDiff

variable {keccak256 : Bytes → B256} {view : ParentView} {isCancelled : ReplayStage → Bool}
  {verifyStateRoots : Bool} {header parent : Header} {bundle : BundleState} {encoded : Bytes}

end ShippedDiff

/-! ### Answers -/

section Answers

variable {revm : Revm} {checks : OverflowChecks} {spec : TaikoChainSpec} {tools : ReplayTools}
  {view : ParentView} {isCancelled : ReplayStage → Bool} {verifyStateRoots isUnzenActive : Bool}
  {hash : B256} {block : RecoveredBlock} {storedReceipts : List Receipt} {output : DebankOutput}

end Answers

/-! A block of two transactions, and a bundle with an account that was destroyed and made again. -/

section Recreated

open TaikoBlockExecutor

/-- A call to an account without code. -/
def plainCall : CallTrace where
  success := true
  caller := 0xa1
  address := 0xb2
  kind := .call
  value := 1
  data := []
  output := []
  gasUsed := 21000
  gasLimit := 21000
  status := some .stop
  steps := []
  selfdestructAddress := none
  selfdestructRefundTarget := none
  selfdestructTransferredValue := none

/-- Tracers that see one call. -/
def plainTracers : Tracers := ⟨fun _ _ => ([⟨none, [], 0, plainCall, [], [], false⟩], .ok [none])⟩

/-- A block of one transfer. -/
def replayedBlock : RecoveredBlock :=
  recoveredOf
    { header := { genesisHeader.header with
        number := 1, timestamp := 1, parentHash := 1, baseFeePerGas := some 7, stateRoot := 1
        gasUsed := 1021000, difficulty := 486000, requestsHash := some emptyRequestsHash
        parentBeaconBlockRoot := some 0, blobGasUsed := some 0, excessBlobGas := some 0
        withdrawalsRoot := some emptyWithdrawals }
      body := ⟨[transferAnchor.tx, (transferTx 0xa1 0).tx], [], some []⟩ }
    [transferAnchor, transferTx 0xa1 0] rfl

/-- Hashes for the replay. -/
def replayTools : ReplayTools where
  keccak256 := numberHash
  md5 _ := 0
  sha1 text := BitVec.ofNat 160 text.length
  createAddress _ _ := 0
  tracers := plainTracers
  takeBundle _ := recreatedBundle
  now := 0

/-- A parent on which an account is destroyed and created again. -/
def recreatedView : ParentView where
  proofHistory := none
  historyByBlockHash := .ok ()
  stateProviderAt := .ok ()
  sealedHeaderByHash := .ok (some genesisHeader)
  canonicalHashesRange _ _ := .ok [1]
  db := transferDb
  stateRoot changes :=
    .ok (if (changes.accounts (hashedAddress numberHash 5)).isSome then 1 else 0)
  hashedPostState bundle :=
    .ok (destroyedState numberHash ⟨fun _ => none, fun _ _ => 0⟩ bundle.state)

/-- The replay of the block on it. -/
def replayRecreated : Except ErrorObject DebankOutput :=
  replayOutput (loopRevm 0xbad) .on transferSpec replayTools recreatedView (fun _ => false)
    true 2 replayedBlock transferResult.receipts true

end Recreated

end AlethiaReth.Debank
