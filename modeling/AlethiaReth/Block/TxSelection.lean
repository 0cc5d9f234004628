import AlethiaReth.Block.Replay

/-!
Selection of transactions from the pool: candidates in pool order, filtered by
sender, tip, type, size and remembered zk gas overflows, executed one by one.
-/

namespace AlethiaReth

open MachineInt Outcome Filtering

/-! ### Block builders -/

/-- A block under construction: the executor and the transactions it committed. -/
structure BlockBuilder where
  executor : TaikoBlockExecutor
  transactions : List Recovered

namespace BlockBuilder

/-- Executes a transaction and appends it to the block if it commits. -/
def executeTransaction (revm : Revm) (checks : OverflowChecks) (builder : BlockBuilder)
    (tx : Recovered) : Except Panic (Except BlockExecutionError U64 × BlockBuilder) := do
  let (answer, executor) ← builder.executor.executeTransaction revm checks tx
  match answer with
  | .ok gasUsed => pure (.ok gasUsed, ⟨executor, builder.transactions ++ [tx]⟩)
  | .error error => pure (.error error, ⟨executor, builder.transactions⟩)

section ExecuteTransaction

variable {revm : Revm} {checks : OverflowChecks} {builder builder' : BlockBuilder} {tx : Recovered}

lemma executeTransaction_eq_ok {gasUsed : U64} :
    builder.executeTransaction revm checks tx = .ok (.ok gasUsed, builder') ↔
      ∃ executor, builder.executor.executeTransaction revm checks tx =
          .ok (.ok gasUsed, executor) ∧
        builder' = ⟨executor, builder.transactions ++ [tx]⟩ := by
  rw [executeTransaction, bind_eq_ok]
  constructor
  · rintro ⟨⟨answer, executor⟩, hrun, hbuilder⟩
    cases answer with
    | error error => cases hbuilder
    | ok gas =>
      cases hbuilder
      exact ⟨executor, hrun, rfl⟩
  · rintro ⟨executor, hrun, rfl⟩
    exact ⟨_, hrun, rfl⟩

lemma executeTransaction_eq_error {error : BlockExecutionError} :
    builder.executeTransaction revm checks tx = .ok (.error error, builder') ↔
      ∃ executor, builder.executor.executeTransaction revm checks tx =
          .ok (.error error, executor) ∧
        builder' = ⟨executor, builder.transactions⟩ := by
  rw [executeTransaction, bind_eq_ok]
  constructor
  · rintro ⟨⟨answer, executor⟩, hrun, hbuilder⟩
    cases answer with
    | ok gas => cases hbuilder
    | error error =>
      cases hbuilder
      exact ⟨executor, hrun, rfl⟩
  · rintro ⟨executor, hrun, rfl⟩
    exact ⟨_, hrun, rfl⟩

end ExecuteTransaction

end BlockBuilder

namespace TxSelection

/-- The codecs selection measures and hashes with. -/
structure Codec where
  keccak256 : Bytes → B256
  encoded2718 : TransactionSigned → Bytes
  txEstimatedSizeFjordBytes : Bytes → U64
  encodeList : List TransactionSigned → Bytes
  zlibCompressedLen : Bytes → U64

/-! ### Configuration and lists -/

/-- The limits of a selection. -/
structure TxSelectionConfig where
  baseFee : U64
  gasLimitPerList : U64
  maxDaBytesPerList : U64
  daSizeZlibGuardBytes : U64
  maxLists : ℕ
  minTip : U64
  locals : List Address
  stateSeed : B256
  deriving DecidableEq, Repr

/-- How near to the limit lists are compressed. -/
def defaultDaZlibGuardBytes : U64 := 4 * 1024

/-- A transaction that was committed. -/
structure ExecutedTx where
  tx : Recovered
  gasUsed : U64
  daSize : U64
  deriving DecidableEq, Repr

/-- A list of them with its totals. -/
structure ExecutedTxList where
  transactions : List ExecutedTx
  totalGasUsed : U64
  totalDaBytes : U64
  deriving DecidableEq, Repr

/-- A list that is just opened. -/
def ExecutedTxList.default : ExecutedTxList := ⟨[], 0, 0⟩

/-- How a selection ends. -/
inductive SelectionOutcome where
  | cancelled
  | completed (lists : List ExecutedTxList)
  deriving DecidableEq, Repr

/-- What the pool is told of a candidate. -/
inductive InvalidPoolTransactionError where
  | underpriced
  | txTypeNotSupported
  | exceedsGasLimit (gasLimit limit : U64)
  | daLimitExceeded (size limit : U64)
  | zkGasBudgetExceeded
  deriving DecidableEq, Repr

/-- There is no list to add to. -/
def listsEmptyError : BlockExecutionError :=
  .internal (.other "tx selection invariant violated: lists is empty")

/-! ### Data limits -/

/-- The observed ratio between actual and estimated sizes, in micros. -/
structure DaRatioState where
  maxRatioMicros : U64
  sampledMid : Bool
  sampledHigh : Bool
  deriving DecidableEq, Repr

/-- Ratios are in millionths. -/
def ratioScale : U64 := 1000000

/-- No sample was taken. -/
def DaRatioState.default : DaRatioState := ⟨ratioScale, false, false⟩

/-- The fill at which the first sample is taken. -/
def daRatioSampleMidPct : U64 := 50

/-- The fill at which the second is. -/
def daRatioSampleHighPct : U64 := 80

/-- The estimate is near the limit. -/
def shouldCheckZlibDaSize (config : TxSelectionConfig) (estimatedAfter : U64) : Bool :=
  config.daSizeZlibGuardBytes > 0 &&
    saturatingAdd estimatedAfter config.daSizeZlibGuardBytes ≥ config.maxDaBytesPerList

/-- A percentage of a limit. -/
def ratioThreshold (limit percent : U64) : U64 :=
  (saturatingMul (limit.setWidth 128) (percent.setWidth 128) / 100).setWidth 64

/-- A sample is due. -/
def shouldSampleRatio (state : DaRatioState) (estimatedAfter limit : U64) : Bool :=
  (!state.sampledMid && estimatedAfter ≥ ratioThreshold limit daRatioSampleMidPct) ||
    (!state.sampledHigh && estimatedAfter ≥ ratioThreshold limit daRatioSampleHighPct)

/-- The state after a sample. -/
def updateRatioState (state : DaRatioState) (estimatedAfter actual limit : U64) : DaRatioState :=
  let ratio : U64 := (saturatingMul (actual.setWidth 128) (ratioScale.setWidth 128)
    / estimatedAfter.setWidth 128).setWidth 64
  { maxRatioMicros :=
      if estimatedAfter > 0 ∧ state.maxRatioMicros < ratio then ratio else state.maxRatioMicros
    sampledMid := state.sampledMid || estimatedAfter ≥ ratioThreshold limit daRatioSampleMidPct
    sampledHigh := state.sampledHigh || estimatedAfter ≥ ratioThreshold limit daRatioSampleHighPct }

/-- An estimate at the largest ratio sampled. -/
def adjustedEstimate (estimatedAfter : U64) (state : DaRatioState) : U64 :=
  (saturatingMul (estimatedAfter.setWidth 128) (state.maxRatioMicros.setWidth 128)
    / ratioScale.setWidth 128).setWidth 64

/-- The compressed size of a list with a candidate at its end. -/
def zlibTxListSizeBytes (codec : Codec) (list : ExecutedTxList) (candidate : Recovered) : U64 :=
  codec.zlibCompressedLen
    (codec.encodeList (list.transactions.map (·.tx.tx) ++ [candidate.tx]))

/-- The size that exceeds the limit, estimated or actual, if one does. -/
def exceedsDaLimit (codec : Codec) (list : ExecutedTxList) (tx : Recovered) (txDaEstimated : U64)
    (state : DaRatioState) (config : TxSelectionConfig) : Option U64 × DaRatioState :=
  let limit := config.maxDaBytesPerList
  let estimatedAfter := saturatingAdd list.totalDaBytes txDaEstimated
  if estimatedAfter > limit then
    (some estimatedAfter, state)
  else if config.daSizeZlibGuardBytes = 0 then
    (none, state)
  else if shouldCheckZlibDaSize config estimatedAfter
      ∨ adjustedEstimate estimatedAfter state > limit
      ∨ shouldSampleRatio state estimatedAfter limit then
    let actual := zlibTxListSizeBytes codec list tx
    let state := updateRatioState state estimatedAfter actual limit
    (if actual > limit then some actual else none, state)
  else
    (none, state)

/-- Whether a candidate exceeds the gas of a list, and the size if it exceeds that. -/
def exceedsListLimits (codec : Codec) (list : ExecutedTxList) (tx : Recovered)
    (txGasLimit txDaEstimated : U64) (state : DaRatioState) (config : TxSelectionConfig) :
    (Bool × Option U64) × DaRatioState :=
  let exceedsGas : Bool := saturatingAdd list.totalGasUsed txGasLimit > config.gasLimitPerList
  let (exceedsDa, state) := exceedsDaLimit codec list tx txDaEstimated state config
  ((exceedsGas, exceedsDa), state)

/-- What the pool is told of a candidate over a limit. -/
def limitExceededError (gasLimit : U64) (exceedsGas : Bool) (exceedsDa : Option U64)
    (config : TxSelectionConfig) : InvalidPoolTransactionError :=
  if exceedsGas then .exceedsGasLimit gasLimit config.gasLimitPerList
  else
    match exceedsDa with
    | some size => .daLimitExceeded size config.maxDaBytesPerList
    | none => .exceedsGasLimit gasLimit config.gasLimitPerList

/-! ### Remembered overflows -/

/-- Transactions that overflowed the zk gas budget, with the digest of the execution
state each overflowed at. -/
def ZkOverflowMemory := B256 → Option B256

namespace ZkOverflowMemory

/-- Remembers an overflow after a history. -/
def record (memory : ZkOverflowMemory) (tx state : B256) : ZkOverflowMemory :=
  Function.update memory tx (some state)

/-- The history after which a transaction overflowed. -/
def state (memory : ZkOverflowMemory) (tx : B256) : Option B256 := memory tx

/-- Drops a transaction. -/
def forget (memory : ZkOverflowMemory) (tx : B256) : ZkOverflowMemory :=
  Function.update memory tx none

/-- Drops all but some transactions. -/
def retain (memory : ZkOverflowMemory) (keep : B256 → Bool) : ZkOverflowMemory :=
  fun tx => if keep tx then memory tx else none

end ZkOverflowMemory

/-- The digest of the execution state after a transaction is committed on another. -/
def advanceSelectionState (codec : Codec) (state tx : B256) : B256 :=
  codec.keccak256 (TaikoBlockExecutor.hashBytes state ++ TaikoBlockExecutor.hashBytes tx)

/-! ### The pool -/

/-- An iterator over the best transactions of a pool, which marking one invalid may
shorten but never lengthens. -/
structure BestTransactions where
  State : Type
  next : State → Option (Recovered × State)
  markInvalid : State → Recovered → InvalidPoolTransactionError → State
  remaining : State → ℕ
  next_lt : ∀ {s tx s'}, next s = some (tx, s') → remaining s' < remaining s
  markInvalid_le : ∀ s tx error, remaining (markInvalid s tx error) ≤ remaining s

/-- A transaction pool, with its best transactions at a base fee. -/
structure Pool where
  contains : B256 → Bool
  best : BestTransactions
  bestTransactionsWithAttributes : U64 → best.State

/-! ### Selection -/

/-- The variables of the selection loop. -/
structure Selection (best : BestTransactions) where
  builder : BlockBuilder
  bestTxs : best.State
  overflows : ZkOverflowMemory
  state : B256
  firstTimeOverflowGas : U64
  rerunOverflowGas : U64
  lists : List ExecutedTxList
  daGuardStates : List DaRatioState

/-- How the loop goes on after a candidate. -/
inductive Flow where
  | next
  | stop
  | cancelled
  deriving DecidableEq, Repr

namespace Selection

variable {best : BestTransactions}

/-- The iterator with a candidate, and the transactions that depend on it, dropped. -/
def markInvalid (s : Selection best) (tx : Recovered) (error : InvalidPoolTransactionError) :
    Selection best :=
  { s with bestTxs := best.markInvalid s.bestTxs tx error }

/-- Checks a candidate against the limits of the current list. -/
def checkCurrentList (codec : Codec) (config : TxSelectionConfig) (s : Selection best)
    (tx : Recovered) (daSize : U64) :
    Except Panic (Except BlockExecutionError (Bool × Option U64) × Selection best) :=
  let currentIndex := s.lists.length - 1
  match s.lists[currentIndex]? with
  | none => .ok (.error listsEmptyError, s)
  | some current =>
    match s.daGuardStates[currentIndex]? with
    | none => .error .indexOutOfBounds
    | some guardState =>
      let (exceeds, guardState) :=
        exceedsListLimits codec current tx tx.tx.gasLimit daSize guardState config
      .ok (.ok exceeds, { s with daGuardStates := s.daGuardStates.set currentIndex guardState })

/-- Starts a new list. -/
def pushList (s : Selection best) : Selection best :=
  { s with
    lists := s.lists ++ [.default]
    daGuardStates := s.daGuardStates ++ [.default] }

/-- Finds a list for a candidate, the current one or a new one, or the error that
there is none. -/
def fitList (codec : Codec) (config : TxSelectionConfig) (s : Selection best) (tx : Recovered)
    (daSize : U64) :
    Except Panic (Except BlockExecutionError (Option InvalidPoolTransactionError) ×
      Selection best) := do
  match ← s.checkCurrentList codec config tx daSize with
  | (.error error, s) => pure (.error error, s)
  | (.ok (exceedsGas, exceedsDa), s) =>
    if !exceedsGas ∧ exceedsDa.isNone then
      pure (.ok none, s)
    else if s.lists.length ≥ config.maxLists then
      pure (.ok (some (limitExceededError tx.tx.gasLimit exceedsGas exceedsDa config)), s)
    else
      match ← s.pushList.checkCurrentList codec config tx daSize with
      | (.error error, s) => pure (.error error, s)
      | (.ok (exceedsGas, exceedsDa), s) =>
        if !exceedsGas ∧ exceedsDa.isNone then
          pure (.ok none, s)
        else
          pure (.ok (some (limitExceededError tx.tx.gasLimit exceedsGas exceedsDa config)), s)

/-- Books a candidate that overflowed the zk gas budget and lets the next one run. -/
def recordOverflow (config : TxSelectionConfig) (s : Selection best) (tx : Recovered)
    (remembered : Option B256) : Flow × Selection best :=
  let builder := { s.builder with executor := s.builder.executor.clearZkGasExhaustion }
  let overflows := s.overflows.record tx.tx.hash s.state
  let s := { s with builder := builder, overflows := overflows }.markInvalid tx .zkGasBudgetExceeded
  if remembered.isSome then
    (.next, { s with rerunOverflowGas := saturatingAdd s.rerunOverflowGas tx.tx.gasLimit })
  else
    let s := { s with firstTimeOverflowGas := saturatingAdd s.firstTimeOverflowGas tx.tx.gasLimit }
    (if s.firstTimeOverflowGas ≥ config.gasLimitPerList then .stop else .next, s)

/-- Books a candidate that committed. -/
def recordExecuted (codec : Codec) (checks : OverflowChecks) (s : Selection best) (tx : Recovered)
    (remembered : Option B256) (gasUsed daSize : U64) :
    Except Panic (Except BlockExecutionError Flow × Selection best) :=
  let s := { s with
    state := advanceSelectionState codec s.state tx.tx.hash
    overflows := if remembered.isSome then s.overflows.forget tx.tx.hash else s.overflows }
  match s.lists.getLast? with
  | none => .ok (.error listsEmptyError, s)
  | some current => do
    let totalGasUsed ← plainAdd checks current.totalGasUsed gasUsed
    let totalDaBytes ← plainAdd checks current.totalDaBytes daSize
    let current : ExecutedTxList :=
      ⟨current.transactions ++ [⟨tx, gasUsed, daSize⟩], totalGasUsed, totalDaBytes⟩
    pure (.ok .next, { s with lists := s.lists.dropLast ++ [current] })

end Selection

/-- The nonce was used before. -/
def isNonceTooLow : InvalidTransaction → Bool
  | .nonceTooLow _ _ => true
  | _ => false

/-- The reason to drop a candidate before anything about the block so far matters. -/
def rejectCandidate (codec : Codec) (config : TxSelectionConfig) (tx : Recovered) :
    Option InvalidPoolTransactionError :=
  let daSize := codec.txEstimatedSizeFjordBytes (codec.encoded2718 tx.tx)
  if config.locals ≠ [] ∧ tx.signer ∉ config.locals then
    some .underpriced
  else if (tx.tx.effectiveTipPerGas config.baseFee).all (· < config.minTip.setWidth 128) then
    some .underpriced
  else if !isAllowedTxType tx.tx then
    some .txTypeNotSupported
  else if tx.tx.gasLimit > config.gasLimitPerList then
    some (.exceedsGasLimit tx.tx.gasLimit config.gasLimitPerList)
  else if daSize > config.maxDaBytesPerList then
    some (.daLimitExceeded daSize config.maxDaBytesPerList)
  else
    none

section Loop

variable (revm : Revm) (checks : OverflowChecks) (codec : Codec) (config : TxSelectionConfig)
variable {best : BestTransactions}

/-- Executes a candidate that found a list, and books the outcome. -/
def executeCandidate (s : Selection best) (tx : Recovered) (remembered : Option B256)
    (daSize : U64) : Except Panic (Except BlockExecutionError Flow × Selection best) := do
  let (answer, builder) ← s.builder.executeTransaction revm checks tx
  let s := { s with builder := builder }
  match answer with
  | .ok gasUsed => s.recordExecuted codec checks tx remembered gasUsed daSize
  | .error error =>
    if isZkGasLimitExceeded error then
      let (flow, s) := s.recordOverflow config tx remembered
      pure (.ok flow, s)
    else
      match error with
      | .validation (.invalidTx _ error) =>
        -- a nonce too low may be a race, so its dependents stay
        if isNonceTooLow error then pure (.ok .next, s)
        else pure (.ok .next, s.markInvalid tx .txTypeNotSupported)
      | error => pure (.error error, s)

/-- One round of the loop on the candidate the pool offered. -/
def selectCandidate (isCancelled : Bool) (s : Selection best) (tx : Recovered) :
    Except Panic (Except BlockExecutionError Flow × Selection best) :=
  if isCancelled then
    .ok (.ok .cancelled, s)
  else if !s.builder.executor.canFitAnotherTransactionZkGas then
    .ok (.ok .stop, s)
  else
    match rejectCandidate codec config tx with
    | some error => .ok (.ok .next, s.markInvalid tx error)
    | none =>
      let daSize := codec.txEstimatedSizeFjordBytes (codec.encoded2718 tx.tx)
      let remembered := s.overflows.state tx.tx.hash
      if remembered = some s.state ∨
          remembered.isSome ∧ s.rerunOverflowGas ≥ config.gasLimitPerList then
        .ok (.ok .next, s.markInvalid tx .zkGasBudgetExceeded)
      else do
        match ← s.fitList codec config tx daSize with
        | (.error error, s) => pure (.error error, s)
        | (.ok (some error), s) => pure (.ok .next, s.markInvalid tx error)
        | (.ok none, s) => executeCandidate revm checks codec config s tx remembered daSize

/-- The loop over the pool; the fuel is the length of the pool. -/
def selectLoop : ℕ → (ℕ → Bool) → Selection best →
    Except Panic (Except BlockExecutionError SelectionOutcome × Selection best)
  | 0, _, s => .ok (.ok (.completed s.lists), s)
  | fuel + 1, isCancelled, s =>
    match best.next s.bestTxs with
    | none => .ok (.ok (.completed s.lists), s)
    | some (tx, bestTxs) => do
      let s := { s with bestTxs := bestTxs }
      match ← selectCandidate revm checks codec config (isCancelled 0) s tx with
      | (.error error, s) => pure (.error error, s)
      | (.ok .cancelled, s) => pure (.ok .cancelled, s)
      | (.ok .stop, s) => pure (.ok (.completed s.lists), s)
      | (.ok .next, s) => selectLoop fuel (fun i => isCancelled (i + 1)) s

/-- The state selection starts from. -/
def Selection.start (builder : BlockBuilder) (pool : Pool) (overflows : ZkOverflowMemory) :
    Selection pool.best where
  builder := builder
  bestTxs := pool.bestTransactionsWithAttributes config.baseFee
  overflows := overflows.retain pool.contains
  state := config.stateSeed
  firstTimeOverflowGas := 0
  rerunOverflowGas := 0
  lists := [.default]
  daGuardStates := [.default]

/-- Selects and executes transactions from a pool; `isCancelled` is what the poll
answers at each candidate. -/
def selectAndExecutePoolTransactions (builder : BlockBuilder) (pool : Pool)
    (overflows : ZkOverflowMemory) (isCancelled : ℕ → Bool) :
    Except Panic (Except BlockExecutionError SelectionOutcome × Selection pool.best) :=
  let start := Selection.start config builder pool overflows
  selectLoop revm checks codec config (pool.best.remaining start.bestTxs) isCancelled start

end Loop

end TxSelection

/-! ### A pool to select from -/

namespace TxSelection

/-- A codec under which every transaction and every list has size one. -/
def unitCodec : Codec := ⟨fun _ => 0, fun _ => [], fun _ => 1, fun _ => [], fun _ => 1⟩

/-- One list of thirty thousand gas. -/
def smallList : TxSelectionConfig where
  baseFee := 7
  gasLimitPerList := 30000
  maxDaBytesPerList := 1000
  daSizeZlibGuardBytes := 0
  maxLists := 1
  minTip := 0
  locals := []
  stateSeed := 0

end TxSelection

/-- A pool that offers a list in order. -/
def listPool (txs : List Recovered) : TxSelection.Pool where
  contains _ := true
  best :=
    { State := List Recovered
      next := fun s => match s with
        | [] => none
        | tx :: txs => some (tx, txs)
      markInvalid := fun s _ _ => s
      remaining := List.length
      next_lt := by
        rintro (_ | ⟨tx, txs⟩) tx' txs' ⟨⟩
        simp
      markInvalid_le := fun _ _ _ => le_rfl }
  bestTransactionsWithAttributes _ := txs

end AlethiaReth
