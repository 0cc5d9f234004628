import AlethiaReth.Block.DerivedBlock
import AlethiaReth.Payload.Fees

/-!
The whole of a payload build, to the block that is frozen, against the rules blocks are imported
by: the block of a proposable job passes the checks of its header, alone and against the parent,
those of its body, executes without filtering to the result it was built with, and passes the
checks after that (`builtPayload_accepted`).
-/

namespace AlethiaReth

open MachineInt Outcome Filtering TxSelection
open TaikoBlockExecutor (Commits Discards OwnsEvm Ready)

/-! ### Building -/

/-- How a build fails: its attributes are malformed, or the builder failed. -/
inductive BuildError where
  | attributes (error : RlpError)
  | builder (error : PayloadBuilderError)
  deriving DecidableEq, Repr

/-- How a build ends. -/
inductive BuildOutcome where
  | cancelled
  | freeze (block : RecoveredBlock) (totalFees : U256)

section Build

variable {Digest : Type}

/-- What a build is started with. The task, where there is one, computes the root of the state
while the block is executed, and may fail. -/
structure BuildArguments (Digest : Type) where
  parentHeader : SealedHeader
  attributes : TaikoPayloadAttributes
  payloadId : PayloadId Digest
  stateRootTask : Option (Except String B256)

/-- The attributes of the job, decoded. -/
def normalizePayloadConfig (payloadCodec : PayloadCodec Digest) (config : BuildArguments Digest) :
    Except Panic (Except RlpError (TaikoPayloadBuilderAttributes Digest)) := do
  let attributes ← TaikoPayloadBuilderAttributes.tryNew payloadCodec config.parentHeader.hash
    config.attributes
  pure (attributes.map fun attributes => { attributes with id := config.payloadId })

variable (roots : Roots) (stateRoot : Db → Except String B256) (spec : TaikoChainSpec)

/-- The root of the state a block left, where it was not computed before. -/
def rootAfter (precomputed : Option B256) (db : Db) : Except BlockExecutionError B256 :=
  match precomputed with
  | some root => .ok root
  | none => (stateRoot db).mapError fun error => .internal (.other error)

/-- Ends the execution of a block and assembles it, in the environment of the EVM. -/
def finishBlock (parent : SealedHeader) (attributes : TaikoNextBlockEnvAttributes)
    (builder : BlockBuilder) (precomputed : Option B256) :
    Except BlockExecutionError RecoveredBlock := do
  let finished ← builder.executor.finish
  let root ← rootAfter stateRoot precomputed finished.db
  let block := builtBlock roots spec parent attributes
    ⟨builder.executor.evm.cfg, builder.executor.evm.block⟩
    ⟨finished.finalizedBlockZkGas, builder.transactions.map (·.tx), finished.result, root⟩
  pure (recoveredOf block builder.transactions (builtBlock_transactions ..))

/-- The root a block is finished with: that of the task, unless it failed. -/
def taskRoot : Option (Except String B256) → Option B256
  | some (.ok root) => some root
  | some (.error _) => none
  | none => none

variable (revm : Revm) (checks : OverflowChecks) (codec : Codec)
  (payloadCodec : PayloadCodec Digest)

/-- Builds a payload, on the state its parent left. -/
def tryBuild (db : Db) (args : BuildArguments Digest) (pool : Pool)
    (zkOverflows : ZkOverflowMemory) (isCancelled : ℕ → Bool) :
    Except Panic (Except BuildError BuildOutcome) := do
  match ← normalizePayloadConfig payloadCodec args with
  | .error error => pure (.error (.attributes error))
  | .ok job =>
    match ← taikoPayload revm checks codec spec db args.parentHeader job pool zkOverflows
        isCancelled with
    | .error error => pure (.error (.builder error))
    | .ok (.cancelled, _) => pure (.ok .cancelled)
    | .ok (.completed totalFees, builder) =>
      match finishBlock roots stateRoot spec args.parentHeader job.nextBlockEnv builder
          (taskRoot args.stateRootTask) with
      | .error error => pure (.error (.builder (.evm error)))
      | .ok block => pure (.ok (.freeze block totalFees))

end Build

/-! ### What filtering leaves -/

/-- The gas of the last receipt, as Ethereum reads the gas of a block off its receipts. -/
def cumulativeGas (receipts : List Receipt) : U64 :=
  (receipts.getLast?.map (·.cumulativeGasUsed)).getD 0

namespace TaikoBlockExecutor

variable {revm : Revm} {checks : OverflowChecks} {e e₁ e' : TaikoBlockExecutor} {tx : Recovered}
  {txs : List Recovered} {fin : Finished}

/-- Receipts whose gas never falls, up to the gas used. -/
structure Rising (e : TaikoBlockExecutor) : Prop where
  pairwise : (e.receipts.map (·.cumulativeGasUsed)).Pairwise (· ≤ ·)
  le_gasUsed : ∀ receipt ∈ e.receipts, receipt.cumulativeGasUsed ≤ e.gasUsed

/-- What an execution that commits transactions, and discards others, leaves of the executor it
started in: the environment, a receipt for each of the transactions, and the gas of the last. -/
structure FilteredTo (e : TaikoBlockExecutor) (txs : List Recovered) (e' : TaikoBlockExecutor) :
    Prop where
  ready : Ready e'
  cfg : e'.evm.cfg = e.evm.cfg
  block : e'.evm.block = e.evm.block
  receipts : e'.receipts.length = e.receipts.length + txs.length
  gas : cumulativeGas e.receipts = e.gasUsed → cumulativeGas e'.receipts = e'.gasUsed
  rising : Rising e → Rising e'

lemma Commits.cfg (ho : OwnsEvm e) (h : Commits revm checks e tx e') :
    e'.evm.cfg = e.evm.cfg := by
  obtain ⟨run⟩ := h.run ho
  rw [run.evm_eq]

/-- A receipt more, with the gas that is used now. -/
lemma Rising.append (h : Rising e) (hle : e.gasUsed ≤ e'.gasUsed) {receipt : Receipt}
    (hreceipts : e'.receipts = e.receipts ++ [receipt])
    (hcumulative : receipt.cumulativeGasUsed = e'.gasUsed) : Rising e' := by
  have hbelow : ∀ other ∈ e.receipts, other.cumulativeGasUsed ≤ e'.gasUsed :=
    fun other hother => BitVec.le_trans (h.le_gasUsed other hother) hle
  constructor
  · rw [hreceipts, List.map_append, List.pairwise_append]
    refine ⟨h.pairwise, List.pairwise_singleton _ _, fun gas hgas last hlast => ?_⟩
    obtain ⟨other, hother, rfl⟩ := List.mem_map.mp hgas
    rw [List.map_singleton, List.mem_singleton] at hlast
    rw [hlast, hcumulative]
    exact hbelow other hother
  · intro other hother
    rw [hreceipts] at hother
    rcases List.mem_append.mp hother with hother | hother
    · exact hbelow other hother
    · rw [List.mem_singleton.mp hother, hcumulative]
      exact BitVec.le_refl _

lemma Commits.filteredTo (hgas : revm.ReportsGasWithinLimit) (hready : Ready e)
    (h : Commits revm checks e tx e') : FilteredTo e [tx] e' := by
  obtain ⟨receipt, hreceipts, hcumulative⟩ := h.receipts_append hready.tended.owns
  have hcfg := h.cfg hready.tended.owns
  obtain ⟨gasUsed, hrun⟩ := h
  obtain ⟨hready', hblock, hsum, -⟩ := executeTransaction_gas hgas hready hrun
  have hle : e.gasUsed ≤ e'.gasUsed := BitVec.le_def.mpr (by omega)
  refine ⟨hready', hcfg, hblock, ?_, fun _ => ?_, fun hrising =>
    hrising.append hle hreceipts hcumulative⟩
  · rw [hreceipts, List.length_append]
    rfl
  · rw [cumulativeGas, hreceipts, List.getLast?_concat]
    exact hcumulative

/-- Steps that leave the receipts and the gas alone. -/
lemma FilteredTo.of_same (hready : Ready e') (hcfg : e'.evm.cfg = e.evm.cfg)
    (hblock : e'.evm.block = e.evm.block) (hreceipts : e'.receipts = e.receipts)
    (hgasUsed : e'.gasUsed = e.gasUsed) : FilteredTo e [] e' := by
  refine ⟨hready, hcfg, hblock, congrArg List.length hreceipts, fun hcumulative => ?_,
    fun hrising => ⟨?_, ?_⟩⟩
  · rw [hreceipts, hgasUsed]
    exact hcumulative
  · rw [hreceipts]
    exact hrising.pairwise
  · rw [hreceipts, hgasUsed]
    exact hrising.le_gasUsed

lemma Discards.filteredTo (hready : Ready e) (h : Discards revm checks e e') :
    FilteredTo e [] e' := by
  have hkept := h.kept hready.tended.owns
  refine .of_same (hkept.ready hready) ?_ ?_ ?_ ?_ <;> rw [hkept.same]

lemma FilteredTo.trans {txs' : List Recovered} (h : FilteredTo e txs e₁)
    (h' : FilteredTo e₁ txs' e') : FilteredTo e (txs ++ txs') e' where
  ready := h'.ready
  cfg := h'.cfg.trans h.cfg
  block := h'.block.trans h.block
  receipts := by rw [h'.receipts, h.receipts, List.length_append, Nat.add_assoc]
  gas hcumulative := h'.gas (h.gas hcumulative)
  rising hrising := h'.rising (h.rising hrising)

lemma filteredTo_of_filtered (hgas : revm.ReportsGasWithinLimit)
    (h : Filtered (Commits revm checks) (Discards revm checks) e txs e') (hready : Ready e) :
    FilteredTo e txs e' := by
  induction h with
  | nil e => exact ⟨hready, rfl, rfl, rfl, id, id⟩
  | discard hdiscard _ ih =>
    have hone := hdiscard.filteredTo hready
    exact hone.trans (ih hone.ready)
  | commit hcommit _ ih =>
    have hone := hcommit.filteredTo hgas hready
    exact hone.trans (ih hone.ready)

/-- The calls before the first transaction keep the environment, and leave no receipt and no gas
used. -/
lemma applyPreExecutionChanges_filteredTo (hready : Ready e)
    (h : e.applyPreExecutionChanges revm checks = .ok (.ok (), e')) : FilteredTo e [] e' := by
  obtain ⟨hgasUsed, hblock⟩ := applyPreExecutionChanges_gasUsed hready.tended h
  obtain ⟨e₁, hstart, hanchor⟩ := applyPreExecutionChanges_eq_ok hready.tended h
  have hsame : e'.evm.cfg = e.evm.cfg ∧ e'.receipts = e.receipts := by
    have hstarted : e₁.evm.cfg = e.evm.cfg ∧ e₁.receipts = e.receipts := by
      rw [hstart.same]
      exact ⟨rfl, rfl⟩
    rcases initializeAnchorContext_eq_ok hanchor with ⟨-, rfl⟩ | ⟨account, pctg, -, -, rfl⟩
    · exact hstarted
    · exact hstarted
  refine .of_same ⟨(applyPreExecutionChanges_tended hready.tended h).1, ?_⟩ hsame.1 hblock
    hsame.2 hgasUsed
  rw [hgasUsed, hblock]
  exact hready.within

/-- The result of an execution is its receipts and gas. -/
lemma finish_result (h : e.finish = .ok fin) :
    fin.result = ⟨e.receipts, e.gasUsed⟩ := by
  obtain ⟨u, -, h⟩ := bind_eq_ok.mp h
  cases h
  rw [syncFinalizedBlockZkGas]
  split <;> rfl

/-- A filtered execution of a fresh executor ends with a receipt for each transaction, and the gas
of the last. -/
lemma FilteredTo.finished (hfiltered : FilteredTo e txs e') (hfresh : Fresh e)
    (h : e'.finish = .ok fin) :
    fin.result.receipts.length = txs.length ∧
      cumulativeGas fin.result.receipts = fin.result.gasUsed := by
  rw [finish_result h]
  refine ⟨?_, hfiltered.gas ?_⟩
  · rw [hfiltered.receipts, hfresh.receipts]
    exact Nat.zero_add _
  · rw [hfresh.receipts, hfresh.gasUsed]
    rfl

end TaikoBlockExecutor

/-! ### Frozen blocks -/

section Frozen

variable {Digest : Type} {roots : Roots} {stateRoot : Db → Except String B256}
  {spec : TaikoChainSpec} {revm : Revm} {checks : OverflowChecks} {codec : Codec}
  {payloadCodec : PayloadCodec Digest} {db : Db} {args : BuildArguments Digest} {pool : Pool}
  {zkOverflows : ZkOverflowMemory} {isCancelled : ℕ → Bool}
  {job : TaikoPayloadBuilderAttributes Digest} {block : RecoveredBlock} {totalFees : U256}
  {parent : SealedHeader} {b : BlockBuilder} {precomputed : Option B256}

/-- The stages of a block that was finished. -/
lemma finishBlock_eq_ok {attributes : TaikoNextBlockEnvAttributes}
    (h : finishBlock roots stateRoot spec parent attributes b precomputed = .ok block) :
    ∃ fin root, b.executor.finish = .ok fin ∧
      rootAfter stateRoot precomputed fin.db = .ok root ∧
      block = recoveredOf
        (builtBlock roots spec parent attributes ⟨b.executor.evm.cfg, b.executor.evm.block⟩
          ⟨fin.finalizedBlockZkGas, b.transactions.map (·.tx), fin.result, root⟩)
        b.transactions (builtBlock_transactions ..) := by
  obtain ⟨fin, hfinish, h⟩ := bind_eq_ok.mp h
  obtain ⟨root, hroot, h⟩ := bind_eq_ok.mp h
  exact ⟨fin, root, hfinish, hroot, (Except.ok.inj h).symm⟩

/-- A root that was given where it is right is the root of the state. -/
lemma rootAfter_eq {db : Db} {root : B256}
    (hright : ∀ given, precomputed = some given → stateRoot db = .ok given)
    (h : rootAfter stateRoot precomputed db = .ok root) : stateRoot db = .ok root := by
  cases precomputed with
  | some given =>
    cases h
    exact hright root rfl
  | none =>
    rw [rootAfter] at h
    cases hstate : stateRoot db with
    | error error =>
      rw [hstate] at h
      cases h
    | ok computed =>
      rw [hstate] at h
      cases h
      rfl

/-- The stages of a build that froze a block. -/
lemma tryBuild_eq_freeze (hjob : normalizePayloadConfig payloadCodec args = .ok (.ok job))
    (h : tryBuild roots stateRoot spec revm checks codec payloadCodec db args pool zkOverflows
      isCancelled = .ok (.ok (.freeze block totalFees))) :
    ∃ b, taikoPayload revm checks codec spec db args.parentHeader job pool zkOverflows isCancelled
        = .ok (.ok (.completed totalFees, b)) ∧
      finishBlock roots stateRoot spec args.parentHeader job.nextBlockEnv b
        (taskRoot args.stateRootTask) = .ok block := by
  obtain ⟨answer, hanswer, h⟩ := bind_eq_ok.mp h
  obtain rfl := Except.ok.inj (hanswer.symm.trans hjob)
  obtain ⟨built, hbuilt, h⟩ := bind_eq_ok.mp h
  rcases built with error | ⟨_ | fees, b⟩
  · cases h
  · cases h
  · dsimp only at h
    cases hfinish : finishBlock roots stateRoot spec args.parentHeader job.nextBlockEnv b
        (taskRoot args.stateRootTask) with
    | error error =>
      rw [hfinish] at h
      cases h
    | ok finished =>
      rw [hfinish] at h
      cases h
      exact ⟨b, hbuilt, hfinish⟩

/-- A build that completed was filled by steps that commit and discard, in the executor of the
block after its parent. -/
lemma taikoPayload_filtered
    (h : taikoPayload revm checks codec spec db parent job pool zkOverflows isCancelled
      = .ok (.ok (.completed totalFees, b))) :
    spec.isAmsterdamActiveAtTimestamp job.timestamp = false ∧
    ∃ env e, nextEvmEnv spec checks parent.header job.nextBlockEnv = .ok env ∧
      (nextExecutor spec db parent job.nextBlockEnv env).applyPreExecutionChanges revm checks
        = .ok (.ok (), e) ∧
      Filtered (Commits revm checks) (Discards revm checks) e b.transactions b.executor ∧
      fillPayload revm checks codec spec parent job pool zkOverflows isCancelled ⟨e, []⟩
        = .ok (.ok (.completed totalFees), b) := by
  have hinactive : spec.isAmsterdamActiveAtTimestamp job.timestamp = false := by
    rw [taikoPayload, ensureAmsterdamInactive] at h
    cases hactive : spec.isAmsterdamActiveAtTimestamp job.timestamp with
    | false => rfl
    | true =>
      rw [hactive] at h
      cases h
  refine ⟨hinactive, ?_⟩
  rcases taikoPayload_eq_ok h with ⟨_, _, heq⟩ | ⟨_, heq⟩ |
    ⟨b₀, e, filled, b', hb₀, hpre, hfill, hanswer⟩
  · cases heq
  · cases heq
  · cases filled with
    | error error => cases hanswer
    | ok outcome =>
      cases hanswer
      obtain ⟨env, henv, hb₀⟩ := bind_eq_ok.mp hb₀
      cases hb₀
      obtain ⟨etxs, hrecorded, -⟩ := fillPayload_recorded hfill
      have htxs : b.transactions = etxs.map (·.tx) := hrecorded.transactions
      rw [htxs]
      exact ⟨env, e, henv, hpre, hrecorded.run.map fun _ _ _ h => ⟨_, h⟩, hfill⟩

/-- What a job must have for its block to be imported, besides what its build checks: the rules of
headers, and the type of the anchor. -/
structure Proposable (spec : TaikoChainSpec) (checks : OverflowChecks) (reader : TaikoBlockReader)
    (parent : SealedHeader) (job : TaikoPayloadBuilderAttributes Digest) : Prop where
  extraData : job.extraData.length ≤ maximumExtraDataSize
  shastaExtraData : spec.isShastaActive job.timestamp = false ∨
    job.extraData.length = shastaExtraDataLen
  gasLimit : job.gasLimit ≤ maximumGasLimitBlock
  number : parent.header.number.toNat + 1 < 2 ^ 64
  shasta : spec.isShastaActive job.timestamp = true →
    parent.header.timestamp < job.timestamp ∧
      expectedBaseFee checks reader spec parent.header job.baseFeePerGas
        = .ok (.ok job.baseFeePerGas)
  timestamp : parent.header.timestamp ≤ job.timestamp
  anchorType : job.transactions = none →
    ∀ anchorTx, job.anchorTransaction = some anchorTx → AllowedType anchorTx

/-- What Ethereum's check after an execution compares: the gas of the receipts, their root and
bloom, and the hash of the requests, of which there are none. -/
structure MatchesResult (roots : Roots) (spec : TaikoChainSpec) (header : Header)
    (result : BlockExecutionResult) : Prop where
  gasUsed : header.gasUsed = cumulativeGas result.receipts
  receiptsRoot : header.receiptsRoot = roots.calculateReceiptRoot result.receipts
  logsBloom : header.logsBloom = roots.logsBloom (result.receipts.flatMap Receipt.logs)
  requestsHash : header.requestsHash
    = if spec.isUnzenActive header.timestamp then some emptyRequestsHash else none

/-- The transactions of a frozen block are of allowed types, and the first of one that was filled
from the pool is a valid anchor. -/
lemma fillPayload_adds {e : TaikoBlockExecutor} (hanchor : job.transactions = none →
      ∀ anchorTx, job.anchorTransaction = some anchorTx → AllowedType anchorTx)
    (h : fillPayload revm checks codec spec parent job pool zkOverflows isCancelled ⟨e, []⟩
      = .ok (.ok (.completed totalFees), b)) :
    (∀ tx ∈ b.transactions, AllowedType tx) ∧
    (job.transactions = none → ∃ number anchorTx txs,
      plainAdd checks parent.header.number 1 = .ok number ∧
      b.transactions = anchorTx :: txs ∧
      validateAnchorTransaction anchorTx.tx spec
        ⟨job.timestamp, number, e.evm.block.basefee⟩ = .ok ()) := by
  obtain ⟨etxs, hrecorded, -, hcomposed⟩ := fillPayload_recorded h
  have htxs : b.transactions = etxs.map (·.tx) := hrecorded.transactions
  rw [htxs]
  rcases hcomposed _ rfl with ⟨hgiven, hallowed⟩ |
    ⟨hnone, number, anchorTx, rest, hnumber, hsome, hvalid, heq, hallowed⟩
  · exact ⟨hallowed, fun hnone => absurd hnone hgiven⟩
  · rw [heq]
    exact ⟨List.forall_mem_cons.mpr ⟨hanchor hnone anchorTx hsome, hallowed⟩,
      fun _ => ⟨number, anchorTx, rest, hnumber, rfl, hvalid⟩⟩

/-- A frozen block is assembled of a filtering execution, in the environment of the block after
its parent. -/
lemma tryBuild_frozen (hgas : revm.ReportsGasWithinLimit)
    (hjob : normalizePayloadConfig payloadCodec args = .ok (.ok job))
    (h : tryBuild roots stateRoot spec revm checks codec payloadCodec db args pool zkOverflows
      isCancelled = .ok (.ok (.freeze block totalFees))) :
    spec.isAmsterdamActiveAtTimestamp job.timestamp = false ∧
    ∃ env e b fin root,
      nextEvmEnv spec checks args.parentHeader.header job.nextBlockEnv = .ok env ∧
      (nextExecutor spec db args.parentHeader job.nextBlockEnv env).applyPreExecutionChanges revm
        checks = .ok (.ok (), e) ∧
      Filtered (Commits revm checks) (Discards revm checks) e b.transactions b.executor ∧
      fillPayload revm checks codec spec args.parentHeader job pool zkOverflows isCancelled ⟨e, []⟩
        = .ok (.ok (.completed totalFees), b) ∧
      TaikoBlockExecutor.FilteredTo (nextExecutor spec db args.parentHeader job.nextBlockEnv env)
        b.transactions b.executor ∧
      b.executor.finish = .ok fin ∧
      rootAfter stateRoot (taskRoot args.stateRootTask) fin.db = .ok root ∧
      e.evm.block = env.blockEnv ∧
      block = recoveredOf (builtBlock roots spec args.parentHeader job.nextBlockEnv env
          ⟨fin.finalizedBlockZkGas, b.transactions.map (·.tx), fin.result, root⟩)
        b.transactions (builtBlock_transactions ..) := by
  obtain ⟨b, hpayload, hfinished⟩ := tryBuild_eq_freeze hjob h
  obtain ⟨hinactive, env, e, henv, hpre, hrun, hfill⟩ := taikoPayload_filtered hpayload
  obtain ⟨fin, root, hfinish, hroot, hblock⟩ := finishBlock_eq_ok hfinished
  have hstarted := TaikoBlockExecutor.applyPreExecutionChanges_filteredTo
    (nextExecutor_fresh env).ready hpre
  have hfiltered := hstarted.trans
    (TaikoBlockExecutor.filteredTo_of_filtered hgas hrun hstarted.ready)
  have henv' : (⟨b.executor.evm.cfg, b.executor.evm.block⟩ : EvmEnv) = env := by
    rw [hfiltered.cfg, hfiltered.block]
    rfl
  refine ⟨hinactive, env, e, b, fin, root, henv, hpre, hrun, hfill, hfiltered, hfinish, hroot,
    hstarted.block, ?_⟩
  rw [hblock]
  simp only [henv']

variable {reader : TaikoBlockReader} {env : EvmEnv} {built : BuildOutput}

/-- The number of the block after a parent that is not the last there can be. -/
lemma plainAdd_number (hnumber : parent.header.number.toNat + 1 < 2 ^ 64) {number : U64}
    (h : plainAdd checks parent.header.number 1 = .ok number) :
    checkedAdd parent.header.number 1 = some number := by
  rw [checkedAdd_eq_some, eq_add_of_plainAdd h, BitVec.toNat_add_of_lt hnumber]

/-- The header of the block of a proposable job is valid. -/
lemma validateHeader_builtBlock (hjob : Proposable spec checks reader parent job)
    (henv : nextEvmEnv spec checks parent.header job.nextBlockEnv = .ok env)
    (hinactive : spec.isAmsterdamActiveAtTimestamp job.timestamp = false)
    (hgas : built.output.gasUsed ≤ job.gasLimit) :
    validateHeader spec (builtBlock roots spec parent job.nextBlockEnv env built).header
      = .ok () := by
  obtain ⟨number, rfl⟩ := nextEvmEnv_eq_buildingEnv henv
  refine validateHeader_eq_ok.mpr ⟨?_, rfl, rfl, hjob.extraData, hjob.shastaExtraData, hinactive,
    rfl, rfl, hgas, hjob.gasLimit, rfl⟩
  cases hunzen : spec.isUnzenActive job.timestamp with
  | true => exact .inl hunzen
  | false =>
    refine .inr ?_
    change (if spec.isUnzenActive job.timestamp = true then _ else _) = _
    rw [if_neg (by simp [hunzen])]
    rfl

/-- A header follows its parent where it names it, is later and has the base fee of a child. -/
lemma validateHeaderAgainstParent_eq_ok {header : Header} {baseFee : U64}
    (hparent : validateAgainstParentHashNumber header parent = .ok ())
    (hfee : header.baseFeePerGas = some baseFee)
    (hshasta : spec.isShastaActive header.timestamp = true →
      parent.header.timestamp < header.timestamp ∧
        expectedBaseFee checks reader spec parent.header baseFee = .ok (.ok baseFee))
    (htimestamp : parent.header.timestamp ≤ header.timestamp) :
    validateHeaderAgainstParent checks reader spec header parent = .ok (.ok ()) := by
  rw [validateHeaderAgainstParent, hparent, hfee]
  dsimp only
  split
  · next hactive =>
    obtain ⟨hlater, hexpected⟩ := hshasta hactive
    rw [if_neg (BitVec.not_le.mpr hlater), hexpected]
    change Except.ok (ensure (baseFee = baseFee) _) = _
    rw [ensure_eq_ok.mpr rfl]
  · rw [if_neg (BitVec.not_lt.mpr htimestamp)]

/-- The header of the block of a proposable job follows its parent. -/
lemma validateHeaderAgainstParent_builtBlock (hjob : Proposable spec checks reader parent job)
    (henv : nextEvmEnv spec checks parent.header job.nextBlockEnv = .ok env) :
    validateHeaderAgainstParent checks reader spec
      (builtBlock roots spec parent job.nextBlockEnv env built).header parent = .ok (.ok ()) := by
  obtain ⟨number, hnumber, henv⟩ := bind_eq_ok.mp henv
  cases henv
  refine validateHeaderAgainstParent_eq_ok ?_ rfl hjob.shasta hjob.timestamp
  rw [validateAgainstParentHashNumber, plainAdd_number hjob.number hnumber]
  simp only [ensure_bind_eq_ok, ensure_eq_ok]
  exact ⟨rfl, rfl⟩

/-- A block of transactions of allowed types passes the checks of its body. -/
lemma validateBlockPreExecution_builtBlock {calculateOmmersRoot : List Header → Option B256}
    (hommers : (calculateOmmersRoot []).getD emptyOmmerRootHash = emptyOmmerRootHash)
    (attributes : TaikoNextBlockEnvAttributes)
    (hallowed : ∀ tx ∈ built.transactions, isAllowedTxType tx = true) :
    validateBlockPreExecution calculateOmmersRoot roots.calculateTransactionRoot
      (builtBlock roots spec parent attributes env built) = .ok () := by
  simp only [validateBlockPreExecution, validateNoBlobTransactions, ensure_bind_eq_ok,
    ensure_eq_ok]
  exact ⟨rfl, hommers, rfl, List.all_eq_true.mpr hallowed⟩

/-- The header of a block matches the execution it was assembled of. -/
lemma matchesResult_builtBlock
    (henv : nextEvmEnv spec checks parent.header job.nextBlockEnv = .ok env)
    (hcumulative : cumulativeGas built.output.receipts = built.output.gasUsed) :
    MatchesResult roots spec (builtBlock roots spec parent job.nextBlockEnv env built).header
      built.output := by
  obtain ⟨number, rfl⟩ := nextEvmEnv_eq_buildingEnv henv
  exact ⟨hcumulative.symm, rfl, rfl, rfl⟩

/-- With a receipt for each transaction, and the gas of the last, a block passes the checks after
its execution but for its anchor. -/
lemma validateBlockPostExecution_builtBlock
    {ethereum : RecoveredBlock → BlockExecutionResult → Except ConsensusError Unit}
    (hethereum : ∀ block result, MatchesResult roots spec block.block.header result →
      ethereum block result = .ok ())
    (henv : nextEvmEnv spec checks parent.header job.nextBlockEnv = .ok env)
    (hcumulative : cumulativeGas built.output.receipts = built.output.gasUsed)
    (hreceipts : built.transactions.length = built.output.receipts.length)
    {txs : List Recovered}
    (h : (builtBlock roots spec parent job.nextBlockEnv env built).body.transactions
      = txs.map (·.tx)) :
    validateBlockPostExecution ethereum
        (recoveredOf (builtBlock roots spec parent job.nextBlockEnv env built) txs h) spec
        built.output
      = validateAnchorTransactionInBlock job.timestamp env.blockEnv.number
          (some job.baseFeePerGas) built.transactions spec := by
  have hmatches : MatchesResult roots spec
      (recoveredOf (builtBlock roots spec parent job.nextBlockEnv env built) txs h).block.header
      built.output := matchesResult_builtBlock henv hcumulative
  have hzk : validateZkGasPostExecution
      (recoveredOf (builtBlock roots spec parent job.nextBlockEnv env built) txs h) spec
      built.output.receipts = .ok () := ensure_eq_ok.mpr (.inr hreceipts)
  obtain ⟨number, rfl⟩ := nextEvmEnv_eq_buildingEnv henv
  rw [validateBlockPostExecution, hethereum _ _ hmatches, hzk]
  rfl

variable {ethereum : RecoveredBlock → BlockExecutionResult → Except ConsensusError Unit}
  {calculateOmmersRoot : List Header → Option B256}

/-- The block a build freezes for a proposable job is valid, alone and after its parent, and its
body is. It executes without filtering, and on the state its header has the root of. After that
it passes the checks but for its anchor, which the builder leaves to the sender of a given list;
a block that was filled from the pool passes them all. -/
theorem builtPayload_accepted (laws : revm.IgnoresDifficulty) (hgas : revm.ReportsGasWithinLimit)
    (hethereum : ∀ block result, MatchesResult roots spec block.block.header result →
      ethereum block result = .ok ())
    (hommers : (calculateOmmersRoot []).getD emptyOmmerRootHash = emptyOmmerRootHash)
    (hashSlow : Header → B256)
    (hjob : normalizePayloadConfig payloadCodec args = .ok (.ok job))
    (hproposable : Proposable spec checks reader args.parentHeader job)
    (h : tryBuild roots stateRoot spec revm checks codec payloadCodec db args pool zkOverflows
      isCancelled = .ok (.ok (.freeze block totalFees))) :
    validateHeader spec block.block.header = .ok () ∧
    validateHeaderAgainstParent checks reader spec block.block.header args.parentHeader
      = .ok (.ok ()) ∧
    validateBlockPreExecution calculateOmmersRoot roots.calculateTransactionRoot block.block
      = .ok () ∧
    ∃ e fin, executorForBlock spec db (block.block.sealSlow hashSlow) = .ok e ∧
      e.executeBlock revm checks block.transactionsRecovered = .ok (.ok fin) ∧
      ((∀ given, taskRoot args.stateRootTask = some given → stateRoot fin.db = .ok given) →
        stateRoot fin.db = .ok block.block.header.stateRoot) ∧
      validateBlockPostExecution ethereum block spec fin.result
        = validateAnchorTransactionInBlock job.timestamp block.block.header.number
            (some job.baseFeePerGas) block.block.body.transactions spec ∧
      (job.transactions = none →
        validateBlockPostExecution ethereum block spec fin.result = .ok ()) := by
  obtain ⟨hinactive, env, e, b, fin, root, henv, hpre, hrun, hfill, hfiltered, hfinish, hroot,
    hblockEnv, rfl⟩ := tryBuild_frozen hgas hjob h
  obtain ⟨hallowed, hanchor⟩ := fillPayload_adds hproposable.anchorType hfill
  have hresult := TaikoBlockExecutor.finish_result hfinish
  obtain ⟨number, hnumber, henv'⟩ := bind_eq_ok.mp henv
  have henvAt : env = buildingEnv spec job.nextBlockEnv number := (Except.ok.inj henv').symm
  have hwithin : fin.result.gasUsed ≤ job.gasLimit := by
    have hle := hfiltered.ready.within
    rw [hfiltered.block] at hle
    rw [hresult]
    refine BitVec.le_def.mpr (hle.trans_eq ?_)
    rw [henvAt]
    rfl
  obtain ⟨hlength, hcumulative⟩ := hfiltered.finished (nextExecutor_fresh env) hfinish
  have hreceipts : (b.transactions.map (·.tx)).length = fin.result.receipts.length := by
    rw [hlength, List.length_map]
  -- what is left of the checks after the execution is that of the anchor
  have hpost := @validateBlockPostExecution_builtBlock Digest roots spec checks job
    args.parentHeader env ⟨fin.finalizedBlockZkGas, b.transactions.map (·.tx), fin.result, root⟩
    ethereum hethereum henv hcumulative hreceipts b.transactions (builtBlock_transactions ..)
  obtain ⟨importer, himporter, hexecuted⟩ :=
    @builtSealed_executes revm checks roots spec args.parentHeader job.nextBlockEnv db hashSlow
      laws env henv e b.executor b.transactions fin hpre hrun hfinish
      ⟨fin.finalizedBlockZkGas, b.transactions.map (·.tx), fin.result, root⟩ rfl
  refine ⟨validateHeader_builtBlock hproposable henv hinactive hwithin,
    validateHeaderAgainstParent_builtBlock hproposable henv,
    validateBlockPreExecution_builtBlock hommers job.nextBlockEnv ?_, importer, fin, himporter,
    ?_, fun hright => rootAfter_eq hright hroot, hpost, fun hnone => hpost.trans ?_⟩
  · intro tx htx
    obtain ⟨recovered, hrecovered, rfl⟩ := List.mem_map.mp htx
    exact hallowed recovered hrecovered
  · rw [transactionsRecovered_recoveredOf]
    exact hexecuted
  · obtain ⟨number', anchorTx, txs, hnumber', htransactions, hvalid⟩ := hanchor hnone
    obtain rfl := Except.ok.inj (hnumber.symm.trans hnumber')
    rw [hblockEnv, henvAt] at hvalid
    rw [henvAt, htransactions]
    exact hvalid

end Frozen

/-- A codec under which every anchor is that of the transfers. -/
def transferPayloadCodec : PayloadCodec Unit :=
  { plainCodec with
    truncatedSha256 _ := ()
    decodeTransaction _ := .ok transferAnchor.tx }

/-- A build from the pool, whose task for the root of the state fails. -/
def poolArguments : BuildArguments Unit where
  parentHeader := ⟨plainParent 30000000 15000000, 9⟩
  attributes :=
    { payloadAttributes :=
        { timestamp := 101
          prevRandao := 0
          suggestedFeeRecipient := 0
          withdrawals := some []
          parentBeaconBlockRoot := some 0 }
      baseFeePerGas := 7
      blockMetadata :=
        { beneficiary := 0xc0
          gasLimit := 30000000
          timestamp := 101
          mixHash := 0
          txList := none
          extraData := [0, 0, 0, 0, 0, 0, 0] }
      anchorTransaction := some [] }
  payloadId := ⟨0, ()⟩
  stateRootTask := some (.error "task dropped")

/-- A build that fills from a pool of transfers. -/
def buildFromPool : Except Panic (Except BuildError BuildOutcome) :=
  tryBuild emptyRoots (fun _ => .ok 5) transferSpec transferRevm .on unitCodec
    transferPayloadCodec transferDb poolArguments
    (listPool [transferTx 0xa1 0, transferTx 0xa1 0, transferTx 0xa1 1]) (fun _ => none)
    fun _ => false

/-- A body that has no root of its ommers. -/
def noOmmersRoot (_ : List Header) : Option B256 := none

/-- The block of a build. -/
def frozenBlock : Except Panic (Except BuildError BuildOutcome) → RecoveredBlock
  | .ok (.ok (.freeze block _)) => block
  | _ => candidateBlock

/-- The block of a build from the pool, with the anchor and two of the three transfers, passes
every check. -/
theorem builtPayload_accepted_pool :
    buildFromPool = .ok (.ok (.freeze (frozenBlock buildFromPool) 126000)) ∧
    (frozenBlock buildFromPool).transactionsRecovered
      = [transferAnchor, transferTx 0xa1 0, transferTx 0xa1 1] ∧
    validateHeader transferSpec (frozenBlock buildFromPool).block.header = .ok () ∧
    validateBlockPreExecution noOmmersRoot emptyRoots.calculateTransactionRoot
      (frozenBlock buildFromPool).block = .ok () ∧
    ∃ e fin, executorForBlock transferSpec transferDb
        ((frozenBlock buildFromPool).block.sealSlow Header.stateRoot) = .ok e ∧
      e.executeBlock transferRevm .on (frozenBlock buildFromPool).transactionsRecovered
        = .ok (.ok fin) ∧
      validateBlockPostExecution (fun _ _ => .ok ()) (frozenBlock buildFromPool) transferSpec
        fin.result = .ok () := by
  have hbuild : buildFromPool = .ok (.ok (.freeze (frozenBlock buildFromPool) 126000)) := rfl
  have hproposable : Proposable transferSpec .on (fun _ => none) poolArguments.parentHeader
      { poolJob with parent := 9, parentBeaconBlockRoot := some 0 } :=
    ⟨by decide, by decide, by decide, by decide, by decide, by decide, by
      rintro - anchorTx ⟨⟩
      rfl⟩
  have hommers : (noOmmersRoot []).getD emptyOmmerRootHash = emptyOmmerRootHash := rfl
  obtain ⟨hheader, -, hbody, e, fin, hexecutor, hexecuted, -, -, hpost⟩ :=
    builtPayload_accepted transferRevm_ignoresDifficulty transferRevm_reportsGasWithinLimit
      (fun _ _ _ => rfl) hommers Header.stateRoot rfl hproposable hbuild
  exact ⟨hbuild, rfl, hheader, hbody, e, fin, hexecutor, hexecuted, hpost rfl⟩

end AlethiaReth
