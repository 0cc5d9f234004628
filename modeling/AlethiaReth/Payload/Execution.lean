import AlethiaReth.Block.Committed
import AlethiaReth.Block.SelectionRounds

/-!
The two ways a payload is filled: from a given list, or with the anchor and then
from the pool.

* `executeProvided_recorded`, `executeAnchorAndPool_recorded`: both leave a run of committed
  transactions, with the gas each was recorded with.
* `filtering_builds_replay`: what a build, or the prover, commits is a block whose
  execution without filtering has the same result.
-/

namespace AlethiaReth

open MachineInt Outcome Filtering TxSelection
open TaikoBlockExecutor (Commits Discards transferExecutor transferExecutor_fresh
  transferStarted)

/-- Why a build fails. -/
inductive PayloadBuilderError where
  | internal (message : String)
  | evm (error : BlockExecutionError)
  | other (error : ConsensusError)
  | otherExecution (error : BlockExecutionError)
  | missingPayload
  deriving DecidableEq, Repr

/-- A tip below zero. -/
def missingTipError (baseFee : U64) : PayloadBuilderError :=
  .internal ("effective tip missing for executed transaction (base_fee="
    ++ reprStr baseFee.toNat ++ ")")

/-- How the transaction phase of a payload ended. -/
inductive ExecutionOutcome where
  | cancelled
  | completed (totalFees : U256)
  deriving DecidableEq, Repr

/-! ### A given list -/

section Provided

variable (revm : Revm) (checks : OverflowChecks) (baseFee : U64)

/-- The loop over a given list, with the fees so far; `isCancelled` is what the poll
answers at each transaction.  A panic leaves the builder where it was. -/
def executeProvided : U256 → (ℕ → Bool) → BlockBuilder → List Recovered →
    Except Panic (Except PayloadBuilderError ExecutionOutcome) × BlockBuilder
  | totalFees, _, builder, [] => (.ok (.ok (.completed totalFees)), builder)
  | totalFees, isCancelled, builder, tx :: txs =>
    if isCancelled 0 then
      (.ok (.ok .cancelled), builder)
    else if !isAllowedTxType tx.tx then
      executeProvided totalFees (fun i => isCancelled (i + 1)) builder txs
    else
      match builder.executeTransaction revm checks tx with
      | .error panic => (.error panic, builder)
      | .ok (.ok gasUsed, builder) =>
        match tx.tx.effectiveTipPerGas baseFee with
        | none => (.ok (.error (missingTipError baseFee)), builder)
        | some minerFee =>
          executeProvided (totalFees + minerFee.setWidth 256 * gasUsed.setWidth 256)
            (fun i => isCancelled (i + 1)) builder txs
      | .ok (.error error, builder) =>
        if isZkGasLimitExceeded error then
          (.ok (.ok (.completed totalFees)), builder)
        else
          match error with
          | .validation (.invalidTx _ _)
          | .validation (.transactionGasLimitMoreThanAvailableBlockGas _ _) =>
            executeProvided totalFees (fun i => isCancelled (i + 1)) builder txs
          | error => (.ok (.error (.evm error)), builder)

/-- Executes a list that is given. -/
def executeProvidedTransactions (builder : BlockBuilder) (transactions : List Recovered)
    (isCancelled : ℕ → Bool) :
    Except Panic (Except PayloadBuilderError ExecutionOutcome) × BlockBuilder :=
  executeProvided revm checks baseFee 0 isCancelled builder transactions

end Provided

/-! ### The anchor and the pool -/

/-- What a build from the pool reads of its job. -/
structure PoolExecutionContext where
  anchorTx : Recovered
  parentNumber : U64
  blockStateSeed : B256
  blockTimestamp : U64
  baseFee : U64
  gasLimit : U64
  zkOverflows : ZkOverflowMemory

/-- The bytes of a blob. -/
def bytesPerBlob : U64 := 131072

/-- The tips of the selected transactions. -/
def sumTips (baseFee : U64) : U256 → List ExecutedTx → Except PayloadBuilderError U256
  | total, [] => .ok total
  | total, etx :: etxs =>
    match etx.tx.tx.effectiveTipPerGas baseFee with
    | none => .error (missingTipError baseFee)
    | some tip => sumTips baseFee (total + tip.setWidth 256 * etx.gasUsed.setWidth 256) etxs

section Pool

variable (revm : Revm) (checks : OverflowChecks) (codec : Codec) (spec : TaikoChainSpec)
  (ctx : PoolExecutionContext)

/-- The limits of a payload. -/
def poolSelectionConfig : TxSelectionConfig where
  baseFee := ctx.baseFee
  gasLimitPerList := ctx.gasLimit
  maxDaBytesPerList := bytesPerBlob
  daSizeZlibGuardBytes := defaultDaZlibGuardBytes
  maxLists := 1
  minTip := 0
  locals := []
  stateSeed := advanceSelectionState codec ctx.blockStateSeed ctx.anchorTx.tx.hash

/-- The outcome of a payload from that of its selection. -/
def poolOutcome :
    Except BlockExecutionError SelectionOutcome → Except PayloadBuilderError ExecutionOutcome
  | .error error => .error (.evm error)
  | .ok .cancelled => .ok .cancelled
  | .ok (.completed []) => .ok (.completed 0)
  | .ok (.completed (list :: _)) =>
    (sumTips ctx.baseFee 0 list.transactions).map ExecutionOutcome.completed

/-- Executes the anchor, then fills from the pool. -/
def executeAnchorAndPoolTransactions (builder : BlockBuilder) (pool : TxSelection.Pool)
    (ctx : PoolExecutionContext) (isCancelled : ℕ → Bool) :
    Except Panic (Except PayloadBuilderError ExecutionOutcome × BlockBuilder) := do
  let blockNumber ← plainAdd checks ctx.parentNumber 1
  match validateAnchorTransaction ctx.anchorTx.tx spec
      ⟨ctx.blockTimestamp, blockNumber, ctx.baseFee⟩ with
  | .error error => pure (.error (.other error), builder)
  | .ok () =>
    match ← builder.executeTransaction revm checks ctx.anchorTx with
    | (.error error, builder) => pure (.error (.evm error), builder)
    | (.ok _, builder) =>
      let (outcome, selection) ← selectAndExecutePoolTransactions revm checks codec
        (poolSelectionConfig codec ctx) builder pool ctx.zkOverflows isCancelled
      pure (poolOutcome ctx outcome, selection.builder)

end Pool

/-! ### What a builder records -/

section Recorded

variable {baseFee : U64} {etx : ExecutedTx}

lemma sumTips_cons_of_some {total : U256} {tip : U128}
    (htip : etx.tx.tx.effectiveTipPerGas baseFee = some tip) (etxs : List ExecutedTx) :
    sumTips baseFee total (etx :: etxs) =
      sumTips baseFee (total + tip.setWidth 256 * etx.gasUsed.setWidth 256) etxs := by
  rw [sumTips]
  simp only [htip]

lemma sumTips_cons_of_none {total : U256} (htip : etx.tx.tx.effectiveTipPerGas baseFee = none)
    (etxs : List ExecutedTx) :
    sumTips baseFee total (etx :: etxs) = .error (missingTipError baseFee) := by
  rw [sumTips]
  simp only [htip]

/-- A committed transaction, with the gas it is recorded with. -/
def Executes (revm : Revm) (checks : OverflowChecks) (e : TaikoBlockExecutor)
    (etx : ExecutedTx) (e' : TaikoBlockExecutor) : Prop :=
  e.executeTransaction revm checks etx.tx = .ok (.ok etx.gasUsed, e')

variable {revm : Revm} {checks : OverflowChecks} {b b' b'' : BlockBuilder} {tx : Recovered}

variable (revm checks) in
/-- A builder committed transactions, with the gas each was recorded with. -/
structure Recorded (b : BlockBuilder) (etxs : List ExecutedTx) (b' : BlockBuilder) : Prop where
  run : Filtered (Executes revm checks) (Discards revm checks) b.executor etxs b'.executor
  transactions : b'.transactions = b.transactions ++ etxs.map (·.tx)

lemma Recorded.refl (b : BlockBuilder) : Recorded revm checks b [] b :=
  ⟨.nil _, (List.append_nil _).symm⟩

lemma Recorded.trans {etxs etxs' : List ExecutedTx} (h : Recorded revm checks b etxs b')
    (h' : Recorded revm checks b' etxs' b'') : Recorded revm checks b (etxs ++ etxs') b'' := by
  refine ⟨h.run.append h'.run, ?_⟩
  rw [h'.transactions, h.transactions, List.map_append, List.append_assoc]

/-- A transaction that commits is recorded with its gas; its size is not read. -/
lemma Recorded.of_ok {gasUsed : U64} (daSize : U64)
    (h : b.executeTransaction revm checks tx = .ok (.ok gasUsed, b')) :
    Recorded revm checks b [⟨tx, gasUsed, daSize⟩] b' := by
  obtain ⟨executor, hexecutor, rfl⟩ := BlockBuilder.executeTransaction_eq_ok.mp h
  exact ⟨.commit hexecutor (.nil _), rfl⟩

lemma Recorded.of_error {error : BlockExecutionError}
    (h : b.executeTransaction revm checks tx = .ok (.error error, b')) :
    Recorded revm checks b [] b' := by
  obtain ⟨executor, hexecutor, rfl⟩ := BlockBuilder.executeTransaction_eq_error.mp h
  exact ⟨.discard (.inl ⟨tx, error, hexecutor⟩) (.nil _), (List.append_nil _).symm⟩

lemma Recorded.cleared (b : BlockBuilder) :
    Recorded revm checks b [] { b with executor := b.executor.clearZkGasExhaustion } :=
  ⟨.discard (.inr rfl) (.nil _), (List.append_nil _).symm⟩

/-- An outcome reports the sum of the tips of what was recorded, and fails for a tip only where
that sum does. -/
structure SumsTips (baseFee : U64) (total : U256) (etxs : List ExecutedTx)
    (answer : Except PayloadBuilderError ExecutionOutcome) : Prop where
  completed : ∀ fees, answer = .ok (.completed fees) → sumTips baseFee total etxs = .ok fees
  missing : ∀ message, answer = .error (.internal message) →
    ∃ error, sumTips baseFee total etxs = .error error

section SumsTips

variable {total : U256} {etxs : List ExecutedTx} {error : PayloadBuilderError}

lemma SumsTips.of_completed {fees : U256} (h : sumTips baseFee total etxs = .ok fees) :
    SumsTips baseFee total etxs (.ok (.completed fees)) := by
  constructor
  · rintro fees ⟨⟩
    exact h
  · rintro message ⟨⟩

lemma SumsTips.cancelled : SumsTips baseFee total etxs (.ok .cancelled) := by
  constructor
  · rintro fees ⟨⟩
  · rintro message ⟨⟩

lemma SumsTips.of_missing {tip : PayloadBuilderError}
    (h : sumTips baseFee total etxs = .error tip) : SumsTips baseFee total etxs (.error error) := by
  constructor
  · rintro fees ⟨⟩
  · intro message _
    exact ⟨tip, h⟩

lemma SumsTips.of_error (h : ∀ message, error ≠ .internal message) :
    SumsTips baseFee total etxs (.error error) := by
  constructor
  · rintro fees ⟨⟩
  · rintro message ⟨⟩
    exact absurd rfl (h message)

end SumsTips

/-- A transaction of an allowed type. -/
def AllowedType (tx : Recovered) : Prop := isAllowedTxType tx.tx = true

/-- The loop over a given list records transactions of allowed types, and sums their tips. -/
theorem executeProvided_recorded {baseFee : U64} {totalFees : U256} {isCancelled : ℕ → Bool}
    {txs : List Recovered} {answer : Except PayloadBuilderError ExecutionOutcome}
    (h : executeProvided revm checks baseFee totalFees isCancelled b txs = (.ok answer, b')) :
    ∃ etxs, Recorded revm checks b etxs b' ∧ (∀ etx ∈ etxs, AllowedType etx.tx) ∧
      SumsTips baseFee totalFees etxs answer := by
  -- along the list: each transaction ends the loop, is skipped, or is recorded
  induction txs generalizing totalFees isCancelled b with
  | nil =>
    cases h
    exact ⟨[], .refl _, by simp, .of_completed rfl⟩
  | cons tx txs ih =>
    rw [executeProvided] at h
    split at h
    · cases h
      exact ⟨[], .refl _, by simp, .cancelled⟩
    · split at h
      · exact ih h
      · next hallowed =>
        have hallowed : AllowedType tx := by simpa [AllowedType] using hallowed
        cases hrun : b.executeTransaction revm checks tx with
        | error p =>
          rw [hrun] at h
          cases congrArg Prod.fst h
        | ok out =>
          obtain ⟨executed, b₁⟩ := out
          rw [hrun] at h
          cases executed with
          | ok gasUsed =>
            have hone := Recorded.of_ok 0 hrun
            dsimp only at h
            split at h
            · next htip =>
              cases h
              exact ⟨_, hone, by simpa using hallowed,
                .of_missing (sumTips_cons_of_none htip [])⟩
            · next tip htip =>
              obtain ⟨etxs, hrest, hrestAllowed, hfees, hmissing⟩ := ih h
              have hsum : sumTips baseFee totalFees (⟨tx, gasUsed, 0⟩ :: etxs) = _ :=
                sumTips_cons_of_some htip etxs
              rw [← hsum] at hfees hmissing
              exact ⟨_, hone.trans hrest, List.forall_mem_cons.mpr ⟨hallowed, hrestAllowed⟩,
                hfees, hmissing⟩
          | error error =>
            have hnone := Recorded.of_error hrun
            dsimp only at h
            split at h
            · cases h
              exact ⟨[], hnone, by simp, .of_completed rfl⟩
            · split at h
              · obtain ⟨etxs, hrest, hsums⟩ := ih h
                exact ⟨etxs, hnone.trans hrest, hsums⟩
              · obtain ⟨etxs, hrest, hsums⟩ := ih h
                exact ⟨etxs, hnone.trans hrest, hsums⟩
              · cases h
                exact ⟨[], hnone, by simp, .of_error (by rintro _ ⟨⟩)⟩

end Recorded

/-! ### Selection -/

section Selection

variable {revm : Revm} {checks : OverflowChecks} {codec : Codec} {config : TxSelectionConfig}
  {best : BestTransactions} {builder : BlockBuilder} {s s₁ s' : Selection best} {tx : Recovered}

variable (revm checks config)
  {answer : Option InvalidPoolTransactionError} in
/-- The lists of a selection, within their number, are what was recorded since the builder, all
of allowed types. -/
structure ListsRecorded (builder : BlockBuilder) (s : Selection best) : Prop where
  recorded : Recorded revm checks builder (s.lists.flatMap (·.transactions)) s.builder
  allowed : ∀ etx ∈ s.lists.flatMap (·.transactions), AllowedType etx.tx
  length_le : s.lists.length ≤ config.maxLists

/-- Looking for a list opens an empty one at most. -/
lemma TxSelection.Fitted.flatMap_lists (h : Fitted codec config s tx answer s₁) :
    s₁.lists.flatMap (·.transactions) = s.lists.flatMap (·.transactions) := by
  rw [h.lists]
  split
  · simp [ExecutedTxList.default]
  · rfl

lemma ListsRecorded.fitted (h : ListsRecorded revm checks config builder s)
    (hfit : Fitted codec config s tx answer s₁) :
    ListsRecorded revm checks config builder s₁ := by
  refine ⟨?_, ?_, ?_⟩
  · rw [hfit.flatMap_lists, hfit.builder_eq]
    exact h.recorded
  · rw [hfit.flatMap_lists]
    exact h.allowed
  · have hle := h.length_le
    rw [hfit.lists]
    split
    · next hopens =>
      rw [Selection.opensList, Bool.and_eq_true, decide_eq_true_eq] at hopens
      rw [List.length_append, List.length_singleton]
      omega
    · exact hle

/-- Steps of the builder that record nothing leave the lists what was recorded. -/
lemma ListsRecorded.idle (h : ListsRecorded revm checks config builder s) {b : BlockBuilder}
    (hb : Recorded revm checks s.builder [] b) (hbuilder : s'.builder = b)
    (hlists : s'.lists = s.lists) : ListsRecorded revm checks config builder s' := by
  refine ⟨?_, hlists ▸ h.allowed, hlists ▸ h.length_le⟩
  have hrecorded := h.recorded.trans hb
  rw [List.append_nil] at hrecorded
  rw [hbuilder, hlists]
  exact hrecorded

/-- A round keeps the lists what was recorded. -/
theorem TxSelection.Happens.listsRecorded {isCancelled : Bool} {event : RoundEvent}
    {answer : Except BlockExecutionError Flow}
    (h : Happens revm checks codec config isCancelled s tx event answer s')
    (hs : ListsRecorded revm checks config builder s) :
    ListsRecorded revm checks config builder s' := by
  cases h with
  | cancelled h => exact hs
  | budgetGone h => exact hs
  | rejected h => exact hs.idle (.refl _) rfl rfl
  | skipped hadmitted h => exact hs.idle (.refl _) rfl rfl
  | unfit hconsidered hfit => exact (hs.fitted hfit).idle (.refl _) rfl rfl
  | @committed gasUsed _ _ b earlier current s₁ hconsidered hfit hrun hlists hgas hda =>
    obtain ⟨hrecorded, hallowed, hlength⟩ := hs.fitted hfit
    rw [← hfit.builder_eq] at hrun
    rw [hlists] at hrecorded hallowed hlength
    refine ⟨?_, ?_, by simpa using hlength⟩
    · have hnext := hrecorded.trans (Recorded.of_ok (codec.daSize tx) hrun)
      simpa using hnext
    · have htx : AllowedType tx := (rejectCandidate_eq_none hconsidered.admitted).txType
      simpa [or_imp, forall_and, htx] using hallowed
  | overflowed hconsidered hfit hrun herror =>
    rw [← hfit.builder_eq] at hrun
    refine (hs.fitted hfit).idle ((Recorded.of_error hrun).trans (.cleared _)) ?_ ?_
    · rw [Selection.recordOverflow_builder]
    · rw [Selection.recordOverflow_lists]
  | invalid hconsidered hfit hrun =>
    rw [← hfit.builder_eq] at hrun
    split
    · exact (hs.fitted hfit).idle (.of_error hrun) rfl rfl
    · exact (hs.fitted hfit).idle (.of_error hrun) rfl rfl
  | failed hconsidered hfit hrun herror =>
    rw [← hfit.builder_eq] at hrun
    exact (hs.fitted hfit).idle (.of_error hrun) rfl rfl

end Selection

section Pool

variable {revm : Revm} {checks : OverflowChecks} {codec : Codec} {spec : TaikoChainSpec}
  {b b' : BlockBuilder} {pool : Pool} {ctx : PoolExecutionContext} {isCancelled : ℕ → Bool}

/-- The outcome of a selection into one list sums the tips of that list. -/
lemma poolOutcome_sumsTips {outcome : Except BlockExecutionError SelectionOutcome}
    {s : Selection pool.best} (hintact : s.Intact) (hlength : s.lists.length ≤ 1)
    (hlists : ∀ lists, outcome = .ok (.completed lists) → lists = s.lists) :
    SumsTips ctx.baseFee 0 (s.lists.flatMap (·.transactions)) (poolOutcome ctx outcome) := by
  rcases outcome with error | _ | (_ | ⟨list, rest⟩)
  · exact .of_error (by rintro _ ⟨⟩)
  · exact .cancelled
  · exact absurd (hlists [] rfl).symm hintact.ne_nil
  · have heq := hlists _ rfl
    rw [← heq] at hlength ⊢
    have hrest : rest = [] := List.length_eq_zero_iff.mp (Nat.le_zero.mp
      (Nat.le_of_succ_le_succ hlength))
    rw [hrest, List.flatMap_singleton, poolOutcome]
    cases hsum : sumTips ctx.baseFee 0 list.transactions with
    | error error => exact .of_missing hsum
    | ok total => exact .of_completed hsum

/-- Filling a block from the pool sums the tips of what it records; the anchor has none. A block
that was filled has the anchor first, which is valid there, and allowed types after it. -/
theorem executeAnchorAndPool_recorded {answer : Except PayloadBuilderError ExecutionOutcome}
    (h : executeAnchorAndPoolTransactions revm checks codec spec b pool ctx isCancelled =
      .ok (answer, b')) :
    ∃ etxs, Recorded revm checks b etxs b' ∧ SumsTips ctx.baseFee 0 etxs answer ∧
      ∀ outcome, answer = .ok outcome → ∃ number txs,
        plainAdd checks ctx.parentNumber 1 = .ok number ∧
        validateAnchorTransaction ctx.anchorTx.tx spec ⟨ctx.blockTimestamp, number, ctx.baseFee⟩
          = .ok () ∧
        etxs.map (·.tx) = ctx.anchorTx :: txs ∧ ∀ tx ∈ txs, AllowedType tx := by
  obtain ⟨blockNumber, hnumber, h⟩ := bind_eq_ok.mp h
  split at h
  · cases h
    exact ⟨[], .refl _, .of_error (by rintro _ ⟨⟩), by rintro _ ⟨⟩⟩
  · next hanchor =>
    have htip := (validateAnchorTransaction_eq_ok.mp hanchor).tip
    obtain ⟨⟨executed, b₁⟩, hrun, h⟩ := bind_eq_ok.mp h
    cases executed with
    | error error =>
      cases h
      exact ⟨[], .of_error hrun, .of_error (by rintro _ ⟨⟩), by rintro _ ⟨⟩⟩
    | ok gasUsed =>
      obtain ⟨⟨outcome, s⟩, hselect, h⟩ := bind_eq_ok.mp h
      cases h
      have hstart : ListsRecorded revm checks (poolSelectionConfig codec ctx) b₁
          (.start (poolSelectionConfig codec ctx) b₁ pool ctx.zkOverflows) :=
        ⟨.refl b₁, by simp [Selection.start, ExecutedTxList.default], le_rfl⟩
      obtain ⟨hintact, hs⟩ := selection_invariant
        (fun s bestTxs h => h.idle (.refl _) rfl rfl)
        (fun _ _ _ _ _ _ hround h => hround.listsRecorded h) hstart hselect
      have hsums : SumsTips ctx.baseFee 0 _ (poolOutcome ctx outcome) :=
        poolOutcome_sumsTips hintact hs.length_le fun lists hlists =>
          completed_lists (hlists ▸ hselect)
      -- the anchor adds nothing to the sum
      have hzero : (0 : U256) + (0 : U128).setWidth 256 * gasUsed.setWidth 256 = 0 := by simp
      have hsum : sumTips ctx.baseFee 0 (⟨ctx.anchorTx, gasUsed, 0⟩ ::
          s.lists.flatMap (·.transactions)) = _ := sumTips_cons_of_some htip _
      rw [hzero] at hsum
      refine ⟨_, (Recorded.of_ok 0 hrun).trans hs.recorded, ⟨?_, ?_⟩, fun _ _ =>
        ⟨blockNumber, _, hnumber, hanchor, List.map_cons .., List.forall_mem_map.mpr hs.allowed⟩⟩
      · rw [List.singleton_append, hsum]
        exact hsums.completed
      · rw [List.singleton_append, hsum]
        exact hsums.missing

end Pool

/-! ### Filtering builds -/

section Built

variable {revm : Revm} {checks : OverflowChecks} {e₀ : TaikoBlockExecutor}

namespace TaikoBlockExecutor

variable {outcome : CommittedBlockExecutionOutcome}

lemma tryExecuteFiltered_filtered (e : TaikoBlockExecutor) (tx : Recovered)
    (isAnchorTransaction : Bool) :
    Satisfies (fun _ => True)
      (fun out => if out.1.toOption = some true then Commits revm checks e tx out.2
        else Discards revm checks e out.2)
      (e.tryExecuteFiltered revm checks tx isAnchorTransaction) := by
  rw [tryExecuteFiltered]
  cases hrun : e.executeTransaction revm checks tx with
  | error p => exact trivial
  | ok out =>
    obtain ⟨answer, e₁⟩ := out
    cases answer with
    | ok gasUsed => exact ⟨gasUsed, hrun⟩
    | error error =>
      have hdiscards : Discards revm checks e e₁ := .inl ⟨tx, error, hrun⟩
      dsimp only [bind, Except.bind]
      split
      · exact hdiscards
      · exact hdiscards

/-- The loop of the prover filters, and records what it committed. -/
lemma executeCandidates_filtered (loop : CandidateLoop) (isAnchorTransaction : Bool)
    (txs : List Recovered) :
    ∃ kept, Filtered (Commits revm checks) (Discards revm checks) loop.executor kept
        (executeCandidates revm checks loop isAnchorTransaction txs).2.executor ∧
      (executeCandidates revm checks loop isAnchorTransaction txs).2.committedTransactions
        = loop.committedTransactions ++ kept := by
  induction txs generalizing loop isAnchorTransaction with
  | nil => exact ⟨[], .nil _, (List.append_nil _).symm⟩
  | cons tx txs ih =>
    rw [executeCandidates]
    split
    · exact ih loop false
    · cases hrun : loop.executor.tryExecuteFiltered revm checks tx isAnchorTransaction with
      | error p => exact ⟨[], .nil _, (List.append_nil _).symm⟩
      | ok out =>
        obtain ⟨answer, e₁⟩ := out
        have hout :=
          (tryExecuteFiltered_filtered loop.executor tx isAnchorTransaction).of_ok hrun
        rcases answer with error | _ | _
        · exact ⟨[], .discard hout (.nil e₁), (List.append_nil _).symm⟩
        · have hdiscards : Discards revm checks loop.executor e₁ := hout
          dsimp only [Bool.false_eq_true, if_false]
          split
          · exact ⟨[], .discard hdiscards (.nil e₁), (List.append_nil _).symm⟩
          · obtain ⟨kept, hkept, hresult⟩ := ih ⟨e₁, loop.committedTransactions⟩ false
            exact ⟨kept, .discard hdiscards hkept, hresult⟩
        · have hcommits : Commits revm checks loop.executor tx e₁ := hout
          dsimp only [if_true]
          split
          · exact ⟨[tx], .commit hcommits (.nil e₁), rfl⟩
          · obtain ⟨kept, hkept, hresult⟩ := ih ⟨e₁, loop.committedTransactions ++ [tx]⟩ false
            refine ⟨tx :: kept, .commit hcommits hkept, hresult.trans ?_⟩
            exact List.append_assoc _ _ _

variable {e : TaikoBlockExecutor} {txs : List Recovered}

/-- The stages of a candidate block that executed. -/
lemma executeBlockWithCommittedTransactions_eq_ok
    (h : e.executeBlockWithCommittedTransactions revm checks txs = .ok (.ok outcome)) :
    ∃ started ended, e.applyPreExecutionChanges revm checks = .ok (.ok (), started) ∧
      executeCandidates revm checks ⟨started, []⟩ true txs
        = (.ok (.ok ()), ⟨ended, outcome.committedTransactions⟩) ∧
      ended.finish = .ok outcome.executionResult := by
  obtain ⟨⟨error | _, started⟩, hpre, h⟩ := bind_eq_ok.mp h
  · cases h
  · dsimp only at h
    rcases hrun : executeCandidates revm checks ⟨started, []⟩ true txs with
      ⟨panic | error | _, ended, committed⟩ <;> rw [hrun] at h
    · cases h
    · cases h
    · rcases hfinish : ended.finish with error | fin
      · simp [hfinish, Except.map, pure, Except.pure] at h
      · simp only [hfinish, Except.map, pure, Except.pure, Except.ok.injEq] at h
        rw [← h]
        exact ⟨started, ended, hpre, hrun, hfinish⟩

lemma executeBlockWithCommittedTransactions_filtered
    (h : e.executeBlockWithCommittedTransactions revm checks txs = .ok (.ok outcome)) :
    ∃ started ended, e.applyPreExecutionChanges revm checks = .ok (.ok (), started) ∧
      Filtered (Commits revm checks) (Discards revm checks) started
        outcome.committedTransactions ended ∧
      ended.finish = .ok outcome.executionResult := by
  obtain ⟨started, ended, hpre, hrun, hfinish⟩ := executeBlockWithCommittedTransactions_eq_ok h
  obtain ⟨kept, hkept, hcommitted⟩ :=
    @executeCandidates_filtered revm checks ⟨started, []⟩ true txs
  rw [hrun] at hkept hcommitted
  have hcommitted : outcome.committedTransactions = kept := hcommitted
  rw [hcommitted]
  exact ⟨started, ended, hpre, hkept, hfinish⟩

end TaikoBlockExecutor

/-- A block that a builder filled by filtering steps executes to the same result
without filtering. -/
lemma Recorded.executeBlock {e : TaikoBlockExecutor} {etxs : List ExecutedTx}
    {builder : BlockBuilder} {fin : TaikoBlockExecutor.Finished} (hfresh : e₀.Fresh)
    (hpre : e₀.applyPreExecutionChanges revm checks = .ok (.ok (), e))
    (h : Recorded revm checks ⟨e, []⟩ etxs builder) (hfinish : builder.executor.finish = .ok fin) :
    (e₀.expecting (some (fin.finalizedBlockZkGas.setWidth 256))).executeBlock revm checks
      builder.transactions = .ok (.ok fin) := by
  have hrun : Filtered (Commits revm checks) _ _ (etxs.map (·.tx)) _ :=
    h.run.map fun _ etx _ hrun => ⟨etx.gasUsed, hrun⟩
  rw [h.transactions]
  exact TaikoBlockExecutor.executeBlock_of_filtered hfresh.tended.1 hfresh.tended.2 hpre hrun
    hfinish (.inr rfl)

/-- What a filtering build of a fresh executor commits, executed in order by a fresh
executor of the same block without filtering and with the published zk gas as the
expected difficulty, commits entirely and finishes with the same receipts, gas,
database and zk gas. -/
theorem filtering_builds_replay (revm : Revm) (checks : OverflowChecks) (hfresh : e₀.Fresh) :
    (∀ e transactions baseFee isCancelled outcome builder fin,
      e₀.applyPreExecutionChanges revm checks = .ok (.ok (), e) →
      executeProvidedTransactions revm checks baseFee ⟨e, []⟩ transactions isCancelled
        = (.ok (.ok outcome), builder) →
      builder.executor.finish = .ok fin →
      (e₀.expecting (some (fin.finalizedBlockZkGas.setWidth 256))).executeBlock revm checks
        builder.transactions = .ok (.ok fin)) ∧
    (∀ e codec spec pool ctx isCancelled outcome builder fin,
      e₀.applyPreExecutionChanges revm checks = .ok (.ok (), e) →
      executeAnchorAndPoolTransactions revm checks codec spec ⟨e, []⟩ pool ctx isCancelled
        = .ok (.ok outcome, builder) →
      builder.executor.finish = .ok fin →
      (e₀.expecting (some (fin.finalizedBlockZkGas.setWidth 256))).executeBlock revm checks
        builder.transactions = .ok (.ok fin)) ∧
    (∀ transactions outcome,
      e₀.executeBlockWithCommittedTransactions revm checks transactions = .ok (.ok outcome) →
      (e₀.expecting (some (outcome.executionResult.finalizedBlockZkGas.setWidth 256))).executeBlock
        revm checks outcome.committedTransactions = .ok (.ok outcome.executionResult)) := by
  refine ⟨?_, ?_, ?_⟩
  · intro e transactions baseFee isCancelled outcome builder fin hpre hrun hfinish
    obtain ⟨etxs, hrecorded, -⟩ := executeProvided_recorded hrun
    exact hrecorded.executeBlock hfresh hpre hfinish
  · intro e codec spec pool ctx isCancelled outcome builder fin hpre hrun hfinish
    obtain ⟨etxs, hrecorded, -⟩ := executeAnchorAndPool_recorded hrun
    exact hrecorded.executeBlock hfresh hpre hfinish
  · intro transactions outcome hblock
    obtain ⟨e, e', hpre, hrun, hfinish⟩ :=
      TaikoBlockExecutor.executeBlockWithCommittedTransactions_filtered hblock
    exact TaikoBlockExecutor.executeBlock_of_filtered hfresh.tended.1 hfresh.tended.2 hpre hrun
      hfinish (.inr rfl)

/-- Fills a block from a pool with the anchor, a transfer, its repetition and the next. -/
def fillFromPool (builder : BlockBuilder) :
    Except Panic (Except PayloadBuilderError ExecutionOutcome × BlockBuilder) :=
  executeAnchorAndPoolTransactions transferRevm .on unitCodec transferSpec builder
    (listPool [transferTx 0xa1 0, transferTx 0xa1 0, transferTx 0xa1 1])
    ⟨transferAnchor, 0, 0, 1, 7, 29000000, fun _ => none⟩ fun _ => false

/-- Of three transfers, one of them repeated, two commit from a list, two after the
anchor from the pool, and two after the anchor in the prover. -/
theorem filtering_builds_replay_transfer :
    (∃ fin, (transferExecutor.expecting (some 486000)).executeBlock transferRevm .on
      [transferTx 0xa1 0, transferTx 0xa1 1] = .ok (.ok fin)) ∧
    (∃ fin, (transferExecutor.expecting (some 729000)).executeBlock transferRevm .on
      [transferAnchor, transferTx 0xa1 0, transferTx 0xa1 1] = .ok (.ok fin)) ∧
    ∃ fin, (transferExecutor.expecting (some 729000)).executeBlock transferRevm .on
      [transferAnchor, transferTx 0xa1 0, transferTx 0xa1 1] = .ok (.ok fin) := by
  obtain ⟨hprovided, hpool, hprover⟩ :=
    filtering_builds_replay transferRevm .on transferExecutor_fresh
  have hfilled : fillFromPool ⟨transferStarted, []⟩ = .ok (.ok (.completed 126000),
      leftBy ⟨transferStarted, []⟩ (fillFromPool ⟨transferStarted, []⟩)) := rfl
  refine ⟨?_, ?_, ?_⟩
  · exact ⟨_, hprovided _ [transferTx 0xa1 0, transferTx 0xa1 0, transferTx 0xa1 1] 7
      (fun _ => false) _ _ _ rfl rfl rfl⟩
  · exact ⟨_, hpool transferStarted _ _ _ _ _ _ _ _ rfl hfilled rfl⟩
  · exact ⟨_, hprover
      [transferAnchor, transferTx 0xa1 0, transferTx 0xa1 0, transferTx 0xa1 1] _ rfl⟩

end Built

end AlethiaReth
