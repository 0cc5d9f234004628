import AlethiaReth.Block.Verdict
import AlethiaReth.Payload.Execution

/-!
The witness replay of a transaction list, and how it and the two other filtering loops relate: the
prover offers blob transactions to the EVM where the other two skip them, so the paths agree exactly
when those have no effect (`filtering_paths_agree_iff`).
-/

namespace AlethiaReth

open MachineInt Outcome Filtering
open TaikoBlockExecutor (transferStarted CandidateLoop Commits Tended Equivalent verdict
  verdict_alike verdict_skip executeCandidates transferExecutor transferExecutor_fresh)

/-! ### The witness replay -/

variable (before : List Recovered)

/-- Why a request fails. -/
inductive EthApiError where
  | evmCustom (message : String)
  | blockExecution (error : BlockExecutionError)
  | invalidParams (message : String)
  | headerNotFound
  | internal (error : BlockExecutionError)
  | internalEthError
  | other (message : String)
  deriving DecidableEq, Repr

/-- The options of a request. -/
structure TxListWitnessOptions where
  skipZkGasDifficultyCheck : Bool
  deriving DecidableEq, Repr

/-- The zk gas was not the expected one. -/
def isZkGasDifficultyMismatch : BlockExecutionError → Bool
  | .internal (.zkGasDifficultyMismatch _ _) => true
  | _ => false

/-- The failures the replay tolerates: never one of the anchor. -/
def isRecoverableTxListError (error : BlockExecutionError) (isAnchorTransaction : Bool) : Bool :=
  !isAnchorTransaction && isRecoverableNonAnchorTxError error

/-- Whether the replay skips a transaction for its type; it refuses such an anchor. -/
def shouldSkipDisallowedTxType (tx : TransactionSigned) (isAnchorTransaction : Bool) :
    Except EthApiError Bool :=
  if isAllowedTxType tx then .ok false
  else if isAnchorTransaction then .error (.evmCustom "anchor transaction type is not allowed")
  else .ok true

section Replay

variable (revm : Revm) (checks : OverflowChecks) (e : TaikoBlockExecutor) (txs : List Recovered)

/-- The replay loop.  The list of committed transactions beside the executor is a
record only. -/
def replayTxList : CandidateLoop → Bool → List Recovered →
    Except Panic (Except EthApiError Unit) × CandidateLoop
  | loop, _, [] => (.ok (.ok ()), loop)
  | loop, isAnchorTransaction, tx :: txs =>
    match shouldSkipDisallowedTxType tx.tx isAnchorTransaction with
    | .error error => (.ok (.error error), loop)
    | .ok true => replayTxList loop false txs
    | .ok false =>
      match loop.executor.executeTransaction revm checks tx with
      | .error panic => (.error panic, loop)
      | .ok (.ok _, e) => replayTxList ⟨e, loop.committedTransactions ++ [tx]⟩ false txs
      | .ok (.error error, e) =>
        let loop : CandidateLoop := { loop with executor := e }
        if isRecoverableTxListError error isAnchorTransaction then
          if isZkGasLimitExceeded error then (.ok (.ok ()), loop)
          else replayTxList loop false txs
        else
          (.ok (.error (.blockExecution error)), loop)

/-- The database a witness is recorded from: the one the replay leaves, unless the
recomputed zk gas misses the difficulty and that is checked. -/
def executionWitnessForTxListBlock (options : TxListWitnessOptions) (e : TaikoBlockExecutor)
    (txs : List Recovered) : Except Panic (Except EthApiError Db) := do
  match ← e.applyPreExecutionChanges revm checks with
  | (.error error, _) => pure (.error (.blockExecution error))
  | (.ok (), e) =>
    match replayTxList revm checks ⟨e, []⟩ true txs with
    | (.error panic, _) => throw panic
    | (.ok (.error error), _) => pure (.error error)
    | (.ok (.ok ()), loop) =>
      match loop.executor.finish with
      | .ok fin => pure (.ok fin.db)
      | .error error =>
        if options.skipZkGasDifficultyCheck ∧ isZkGasDifficultyMismatch error then
          pure (.ok loop.executor.evm.db)
        else
          pure (.error (.blockExecution error))

/-! ### The three paths -/

/-- What a path has committed when its loop ends, and how the loop ends. -/
abbrev Committed := List Recovered × Ending

/-- The loop of a path, run where the calls before the first transaction succeed. -/
def fromStart (loop : TaikoBlockExecutor → Committed) : Committed :=
  match e.applyPreExecutionChanges revm checks with
  | .error _ => ([], .panicked)
  | .ok (.error _, _) => ([], .failed)
  | .ok (.ok (), e) => loop e

/-- What the builder commits. -/
def providedLoop (builder : BlockBuilder) (txs : List Recovered) : Committed :=
  let (answer, builder) := executeProvidedTransactions revm checks
    builder.executor.evm.block.basefee builder txs fun _ => false
  (builder.transactions, .of answer)

/-- What the prover commits. -/
def proverLoop (loop : CandidateLoop) (txs : List Recovered) : Committed :=
  let (answer, loop) := executeCandidates revm checks loop true txs
  (loop.committedTransactions, .of answer)

/-- What the witness replay commits. -/
def witnessLoop (loop : CandidateLoop) (txs : List Recovered) : Committed :=
  let (answer, loop) := replayTxList revm checks loop true txs
  (loop.committedTransactions, .of answer)

/-- The payload builder on a given list, under no cancellation. -/
def providedPath : Committed :=
  fromStart revm checks e fun e => providedLoop revm checks ⟨e, []⟩ txs

/-- The prover. -/
def proverPath : Committed :=
  fromStart revm checks e fun e => proverLoop revm checks ⟨e, []⟩ txs

/-- The witness replay. -/
def witnessPath : Committed :=
  fromStart revm checks e fun e => witnessLoop revm checks ⟨e, []⟩ txs

end Replay

/-! ### The loops as sieves -/

/-- The transactions committed before a loop, and what the loop does. -/
def Committed.after (c : Committed) : Committed := (before ++ c.1, c.2)

lemma Committed.after_cons (tx : Recovered) (c : Committed) :
    Committed.after before (tx :: c.1, c.2) = Committed.after (before ++ [tx]) c := by
  simp [Committed.after]

/-- Whether a recovered transaction is of an allowed type. -/
def isAllowed (tx : Recovered) : Bool := isAllowedTxType tx.tx

section Sieves

variable {revm : Revm} {checks : OverflowChecks}

/-- After the anchor the prover sifts the candidates by their verdicts alone. -/
lemma executeCandidates_sift (txs : List Recovered) (loop : CandidateLoop)
    (h : Equivalent loop.executor loop.executor) (hsigners : ∀ tx ∈ txs, tx.signer ≠ 0) :
    ((executeCandidates revm checks loop false txs).2.committedTransactions,
        Ending.of (executeCandidates revm checks loop false txs).1)
      = Committed.after loop.committedTransactions
          (sift (verdict revm checks) .completed loop.executor txs) := by
  induction txs generalizing loop with
  | nil => exact congrArg (·, _) (List.append_nil _).symm
  | cons tx txs ih =>
    have hsigner : tx.signer ≠ 0 := hsigners tx List.mem_cons_self
    have hrest : ∀ tx ∈ txs, tx.signer ≠ 0 := fun tx htx =>
      hsigners tx (List.mem_cons_of_mem _ htx)
    have halike := verdict_alike revm checks _ _ tx h
    rw [executeCandidates, if_neg (fun hzero => hsigner hzero.2), sift,
      TaikoBlockExecutor.tryExecuteFiltered, verdict]
    rw [verdict] at halike
    cases hrun : loop.executor.executeTransaction revm checks tx with
    | error p => exact congrArg (·, _) (List.append_nil _).symm
    | ok out =>
      obtain ⟨answer, e⟩ := out
      cases answer with
      | ok gasUsed =>
        rw [hrun] at halike
        cases halike with
        | commit he =>
          dsimp only [bind, Except.bind, pure, Except.pure]
          rw [if_pos rfl, if_neg (by simp [he.ready]), Committed.after_cons]
          exact ih ⟨e, _⟩ he hrest
      | error error =>
        have hflag := TaikoBlockExecutor.executeTransaction_flag h.ready hrun
        rw [hrun] at halike
        dsimp only [bind, Except.bind, pure, Except.pure] at halike ⊢
        -- over the budget, skipped, or fatal
        by_cases hzk : isZkGasLimitExceeded error
        · rw [if_pos (by simp [isRecoverableNonAnchorTxError, hzk]), if_pos hzk]
          dsimp only
          rw [if_pos (by rw [hflag, hzk])]
          exact congrArg (·, _) (List.append_nil _).symm
        · rw [if_neg hzk] at halike ⊢
          by_cases hrec : isRecoverableNonAnchorTxError error
          · rw [if_pos hrec] at halike
            rw [if_pos (by simp [hrec]), if_pos hrec]
            cases halike with
            | skip he =>
              dsimp only
              rw [if_neg (by simp [hflag, hzk])]
              exact ih ⟨e, _⟩ he hrest
          · rw [if_neg (by simp [hrec]), if_neg hrec]
            exact congrArg (·, _) (List.append_nil _).symm

/-- After the anchor the replay sifts the candidates of an allowed type. -/
lemma replayTxList_sift (txs : List Recovered) (loop : CandidateLoop)
    (h : Equivalent loop.executor loop.executor) :
    ((replayTxList revm checks loop false txs).2.committedTransactions,
        Ending.of (replayTxList revm checks loop false txs).1)
      = Committed.after loop.committedTransactions
          (sift (gated (verdict revm checks) isAllowed) .completed loop.executor txs) := by
  induction txs generalizing loop with
  | nil => exact congrArg (·, _) (List.append_nil _).symm
  | cons tx txs ih =>
    have halike := verdict_alike revm checks _ _ tx h
    rw [replayTxList, shouldSkipDisallowedTxType, sift, gated, isAllowed]
    by_cases hallowed : isAllowedTxType tx.tx
    · rw [if_pos hallowed, if_pos hallowed, verdict]
      rw [verdict] at halike
      cases hrun : loop.executor.executeTransaction revm checks tx with
      | error p => exact congrArg (·, _) (List.append_nil _).symm
      | ok out =>
        obtain ⟨answer, e⟩ := out
        rw [hrun] at halike
        cases answer with
        | ok gasUsed =>
          cases halike with
          | commit he =>
            dsimp only
            rw [Committed.after_cons]
            exact ih ⟨e, _⟩ he
        | error error =>
          have htolerated : isRecoverableTxListError error false
              = isRecoverableNonAnchorTxError error := rfl
          dsimp only at halike ⊢
          rw [htolerated]
          -- over the budget, skipped, or fatal
          by_cases hzk : isZkGasLimitExceeded error
          · rw [if_pos (by simp [isRecoverableNonAnchorTxError, hzk]), if_pos hzk, if_pos hzk]
            exact congrArg (·, _) (List.append_nil _).symm
          · rw [if_neg hzk] at halike
            rw [if_neg hzk, if_neg hzk]
            by_cases hrec : isRecoverableNonAnchorTxError error
            · rw [if_pos hrec] at halike
              rw [if_pos hrec, if_pos hrec]
              cases halike with
              | skip he => exact ih ⟨e, _⟩ he
            · rw [if_neg hrec, if_neg hrec]
              exact congrArg (·, _) (List.append_nil _).symm
    · rw [if_neg hallowed, if_neg Bool.false_ne_true, if_neg hallowed]
      exact ih loop h

/-- The payload builder sifts the candidates of an allowed type; what commits has a
tip. -/
lemma executeProvided_sift (hcap : revm.ChecksFeeCap) {baseFee : U64} (txs : List Recovered)
    (totalFees : U256) (builder : BlockBuilder)
    (h : Equivalent builder.executor builder.executor)
    (hfee : builder.executor.evm.block.basefee = baseFee) :
    ((executeProvided revm checks baseFee totalFees (fun _ => false) builder txs).2.transactions,
        Ending.of (executeProvided revm checks baseFee totalFees (fun _ => false) builder txs).1)
      = Committed.after builder.transactions
          (sift (gated (verdict revm checks) isAllowed) .completed builder.executor txs) := by
  induction txs generalizing totalFees builder with
  | nil => exact congrArg (·, _) (List.append_nil _).symm
  | cons tx txs ih =>
    have halike := verdict_alike revm checks _ _ tx h
    rw [executeProvided, if_neg Bool.false_ne_true, sift, gated, isAllowed]
    by_cases hallowed : isAllowedTxType tx.tx
    · rw [if_neg (by simp [hallowed]), if_pos hallowed, verdict, BlockBuilder.executeTransaction]
      rw [verdict] at halike
      cases hrun : builder.executor.executeTransaction revm checks tx with
      | error p => exact congrArg (·, _) (List.append_nil _).symm
      | ok out =>
        obtain ⟨answer, e⟩ := out
        rw [hrun] at halike
        cases answer with
        | ok gasUsed =>
          have hcommits : Commits revm checks builder.executor tx e := ⟨gasUsed, hrun⟩
          have htip := TransactionSigned.effectiveTipPerGas_isSome
            (hcommits.feeCap h.tended.owns hcap)
          rw [hfee] at htip
          obtain ⟨minerFee, htip⟩ := Option.isSome_iff_exists.mp htip
          cases halike with
          | commit he =>
            dsimp only [bind, Except.bind, pure, Except.pure]
            rw [htip, Committed.after_cons]
            exact ih _ ⟨e, _⟩ he ((congrArg _ (hcommits.block h.tended.owns)).trans hfee)
        | error error =>
          dsimp only [bind, Except.bind, pure, Except.pure] at halike ⊢
          by_cases hzk : isZkGasLimitExceeded error
          · rw [if_pos hzk, if_pos hzk]
            exact congrArg (·, _) (List.append_nil _).symm
          · rw [if_neg hzk] at halike
            rw [if_neg hzk, if_neg hzk]
            have he := TaikoBlockExecutor.equivalent_of_error h hrun (by simpa using hzk)
            have hrest := ih totalFees ⟨e, builder.transactions⟩
              (.refl he.tended' he.ready')
              ((congrArg _ he.block_gasUsed.1.symm).trans hfee)
            rcases error with (_ | _ | _ | _ | _ | _) | internal
            -- the two failures the builder skips, and the fatal ones
            · exact hrest
            · exact hrest
            on_goal 5 =>
              rw [if_neg (by simp [isRecoverableNonAnchorTxError, hzk])]
            all_goals exact congrArg (·, _) (List.append_nil _).symm
    · rw [if_pos (by simp [hallowed]), if_neg hallowed]
      exact ih totalFees builder h hfee

/-! ### Agreement -/

variable {e₀ e e₁ : TaikoBlockExecutor} {anchor : Recovered} {gasUsed : U64} {txs : List Recovered}

lemma fromStart_of_ok (hpre : e₀.applyPreExecutionChanges revm checks = .ok (.ok (), e))
    (d : Option U256) (loop : TaikoBlockExecutor → Committed) :
    fromStart revm checks (e₀.expecting d) loop = loop (e.expecting d) := by
  rw [fromStart, TaikoBlockExecutor.expecting_applyPreExecutionChanges d hpre]

/-- The transactions the prover answers are those of its path. -/
lemma proverPath_of_executed {outcome : TaikoBlockExecutor.CommittedBlockExecutionOutcome}
    (h : e.executeBlockWithCommittedTransactions revm checks txs = .ok (.ok outcome)) :
    proverPath revm checks e txs = (outcome.committedTransactions, .completed) := by
  obtain ⟨started, ended, hpre, hrun, -⟩ :=
    TaikoBlockExecutor.executeBlockWithCommittedTransactions_eq_ok h
  rw [proverPath, fromStart, hpre]
  dsimp only [proverLoop]
  rw [hrun]
  rfl

/-- A witness is made only where the replay of its path completes. -/
lemma witnessPath_of_executed {options : TxListWitnessOptions} {db : Db}
    (h : executionWitnessForTxListBlock revm checks options e txs = .ok (.ok db)) :
    (witnessPath revm checks e txs).2 = .completed := by
  obtain ⟨⟨answer, started⟩, hpre, h⟩ := bind_eq_ok.mp h
  cases answer with
  | error error => cases h
  | ok u =>
    rw [witnessPath, fromStart, hpre]
    dsimp only [witnessLoop] at h ⊢
    split at h
    · cases h
    · cases h
    · next hrun =>
      rw [hrun]
      rfl

lemma proverLoop_of_anchor (h : Equivalent e₁ e₁) (hsigners : ∀ tx ∈ txs, tx.signer ≠ 0)
    (hanchor : e.executeTransaction revm checks anchor = .ok (.ok gasUsed, e₁)) :
    proverLoop revm checks ⟨e, []⟩ (anchor :: txs)
      = Committed.after [anchor] (sift (verdict revm checks) .completed e₁ txs) := by
  have hfirst : executeCandidates revm checks ⟨e, []⟩ true (anchor :: txs)
      = executeCandidates revm checks ⟨e₁, [anchor]⟩ false txs := by
    rw [executeCandidates, if_neg (fun hskip => Bool.false_ne_true hskip.1),
      TaikoBlockExecutor.tryExecuteFiltered, hanchor]
    exact if_neg (by simp [h.ready])
  rw [proverLoop, hfirst]
  exact executeCandidates_sift txs ⟨e₁, [anchor]⟩ h hsigners

lemma witnessLoop_of_anchor (h : Equivalent e₁ e₁) (hallowed : isAllowedTxType anchor.tx)
    (hanchor : e.executeTransaction revm checks anchor = .ok (.ok gasUsed, e₁)) :
    witnessLoop revm checks ⟨e, []⟩ (anchor :: txs)
      = Committed.after [anchor]
          (sift (gated (verdict revm checks) isAllowed) .completed e₁ txs) := by
  have hfirst : replayTxList revm checks ⟨e, []⟩ true (anchor :: txs)
      = replayTxList revm checks ⟨e₁, [anchor]⟩ false txs := by
    rw [replayTxList, shouldSkipDisallowedTxType, if_pos hallowed, hanchor]
    rfl
  rw [witnessLoop, hfirst]
  exact replayTxList_sift txs ⟨e₁, [anchor]⟩ h

lemma providedLoop_of_anchor (hcap : revm.ChecksFeeCap) (ht : Tended e) (h : Equivalent e₁ e₁)
    (hallowed : isAllowedTxType anchor.tx)
    (hanchor : e.executeTransaction revm checks anchor = .ok (.ok gasUsed, e₁)) :
    providedLoop revm checks ⟨e, []⟩ (anchor :: txs)
      = Committed.after [anchor]
          (sift (gated (verdict revm checks) isAllowed) .completed e₁ txs) := by
  have hcommits : Commits revm checks e anchor e₁ := ⟨gasUsed, hanchor⟩
  obtain ⟨minerFee, htip⟩ := Option.isSome_iff_exists.mp
    (TransactionSigned.effectiveTipPerGas_isSome (hcommits.feeCap ht.owns hcap))
  have hfirst : executeProvidedTransactions revm checks e.evm.block.basefee ⟨e, []⟩
        (anchor :: txs) (fun _ => false)
      = executeProvided revm checks e.evm.block.basefee
          (0 + minerFee.setWidth 256 * gasUsed.setWidth 256) (fun _ => false)
          ⟨e₁, [anchor]⟩ txs := by
    rw [executeProvidedTransactions, executeProvided, if_neg Bool.false_ne_true,
      if_neg (by simp [hallowed]), BlockBuilder.executeTransaction, hanchor]
    dsimp only [bind, Except.bind, pure, Except.pure]
    rw [htip]
    rfl
  rw [providedLoop, hfirst]
  exact executeProvided_sift hcap txs _ ⟨e₁, [anchor]⟩ h
    (congrArg _ (hcommits.block ht.owns))

lemma Committed.after_inj {before : List Recovered} {c c' : Committed} :
    c.after before = c'.after before ↔ c = c' := by
  simp [Committed.after, Prod.ext_iff]

/-- After an anchor that commits, the payload builder, the prover and the witness replay commit the
same transactions and end alike exactly when the blob transactions among the candidates are inert:
the EVM commits none of them where the prover meets it, and one that ends the prover's loop ends it
as the remaining candidates would, none of which commits.  They are where there are none, or all
are rejected.  The path of the prover is what it answers, and a witness is made only where the
replay completes. -/
theorem filtering_paths_agree_iff (hcap : revm.ChecksFeeCap) (hfresh : e₀.Fresh)
    (hsigners : ∀ tx ∈ anchor :: txs, tx.signer ≠ 0) (hallowed : isAllowedTxType anchor.tx)
    (hpre : e₀.applyPreExecutionChanges revm checks = .ok (.ok (), e))
    (hanchor : e.executeTransaction revm checks anchor = .ok (.ok gasUsed, e₁))
    (d d' : Option U256) :
    ((proverPath revm checks (e₀.expecting d) (anchor :: txs)
          = providedPath revm checks e₀ (anchor :: txs) ∧
        witnessPath revm checks (e₀.expecting d') (anchor :: txs)
          = providedPath revm checks e₀ (anchor :: txs)) ↔
      Inert (verdict revm checks) .completed isAllowed e₁ txs) ∧
    ((∀ tx ∈ txs, isAllowed tx) ∨
        (∀ e, ∀ tx ∈ txs, ¬ isAllowed tx → ∃ e', verdict revm checks e tx = .skip e') →
      Inert (verdict revm checks) .completed isAllowed e₁ txs) ∧
    (∀ outcome, (e₀.expecting d).executeBlockWithCommittedTransactions revm checks (anchor :: txs)
        = .ok (.ok outcome) →
      proverPath revm checks (e₀.expecting d) (anchor :: txs)
        = (outcome.committedTransactions, .completed)) ∧
    ∀ options db, executionWitnessForTxListBlock revm checks options (e₀.expecting d')
        (anchor :: txs) = .ok (.ok db) →
      (witnessPath revm checks (e₀.expecting d') (anchor :: txs)).2 = .completed := by
  refine ⟨?_, ?_, fun _ => proverPath_of_executed, fun _ _ => witnessPath_of_executed⟩
  swap
  · rintro (hall | hskipped)
    · exact .of_skipped (fun _ tx htx hnot => absurd (hall tx htx) hnot) e₁
    · exact .of_skipped hskipped e₁
  obtain ⟨htended, hready⟩ := hfresh.tended
  obtain ⟨ht, hflag⟩ := TaikoBlockExecutor.applyPreExecutionChanges_tended htended hpre
  have hready : e.zkGasExhausted = false := hflag.trans hready
  have hcommits : Commits revm checks e anchor e₁ := ⟨gasUsed, hanchor⟩
  have ht₁ : Tended e₁ := hcommits.tended ht
  have h₁ : Equivalent e₁ e₁ := .refl ht₁ hcommits.ready
  -- the difficulty a path expects plays no part in its loop
  have hstart : ∀ d, Equivalent (e₁.expecting d) e₁ := .expecting ht₁ hcommits.ready
  have hanchor' : ∀ d, (e.expecting d).executeTransaction revm checks anchor
      = .ok (.ok gasUsed, e₁.expecting d) := fun d => by
    rw [TaikoBlockExecutor.expecting_executeTransaction hready, hanchor]
    rfl
  have hstart' : ∀ d, Equivalent (e₁.expecting d) (e₁.expecting d) := fun d =>
    .refl (hstart d).tended (hstart d).ready
  have hprovided : providedPath revm checks e₀ (anchor :: txs) = Committed.after [anchor]
      (sift (gated (verdict revm checks) isAllowed) .completed e₁ txs) := by
    rw [providedPath, fromStart, hpre]
    exact providedLoop_of_anchor hcap ht h₁ hallowed hanchor
  have hprover : proverPath revm checks (e₀.expecting d) (anchor :: txs)
      = Committed.after [anchor] (sift (verdict revm checks) .completed e₁ txs) := by
    rw [proverPath, fromStart_of_ok hpre, proverLoop_of_anchor (hstart' d)
      (fun tx htx => hsigners tx (List.mem_cons_of_mem _ htx)) (hanchor' d),
      sift_congr (verdict_alike revm checks) (hstart d)]
  have hwitness : witnessPath revm checks (e₀.expecting d') (anchor :: txs)
      = Committed.after [anchor]
          (sift (gated (verdict revm checks) isAllowed) .completed e₁ txs) := by
    rw [witnessPath, fromStart_of_ok hpre,
      witnessLoop_of_anchor (hstart' d') hallowed (hanchor' d'),
      sift_congr (gated_alike (verdict_alike revm checks)) (hstart d')]
  rw [hprovided, hprover, hwitness, and_iff_left rfl, Committed.after_inj]
  exact sift_gated_iff (verdict_alike revm checks) (verdict_skip revm checks) h₁ txs

end Sieves

/-! ### A blob transaction -/

/-- A transfer with one blob, at a fee cap of 10 and a blob fee cap of 1. -/
def blobTransferTx (sender : Address) (nonce : U64) : Recovered where
  tx := ⟨3, nonce, 21000, .call 5, 0, [],
    .eip4844 167000 10 0 [] [0x0100000000000000000000000000000000000000000000000000000000000000] 1,
    some sender⟩
  signer := sender

/-- The executor after the anchor of a block of transfers. -/
def transferAnchored : TaikoBlockExecutor :=
  leftBy transferStarted (transferStarted.executeTransaction transferRevm .on transferAnchor)

/-- On Unzen the prover commits a blob transaction that the payload builder and the
witness replay skip. -/
theorem prover_commits_blob :
    (∀ tx ∈ [transferAnchor, blobTransferTx 0xa1 0], tx.signer ≠ 0) ∧
    isAllowedTxType transferAnchor.tx ∧
    transferExecutor.applyPreExecutionChanges transferRevm .on
      = .ok (.ok (), transferStarted) ∧
    transferStarted.executeTransaction transferRevm .on transferAnchor
      = .ok (.ok 1000000, transferAnchored) ∧
    providedPath transferRevm .on transferExecutor [transferAnchor, blobTransferTx 0xa1 0]
      = ([transferAnchor], .completed) ∧
    witnessPath transferRevm .on transferExecutor [transferAnchor, blobTransferTx 0xa1 0]
      = ([transferAnchor], .completed) ∧
    proverPath transferRevm .on transferExecutor [transferAnchor, blobTransferTx 0xa1 0]
      = ([transferAnchor, blobTransferTx 0xa1 0], .completed) := by
  refine ⟨by decide, by decide, rfl, rfl, ?_, ?_, ?_⟩
  · decide +kernel
  · decide +kernel
  · decide +kernel

/-- A transfer and its repetition: the three paths commit it once. -/
theorem filtering_paths_agree_transfer :
    proverPath transferRevm .on (transferExecutor.expecting none)
        [transferAnchor, transferTx 0xa1 0, transferTx 0xa1 0]
      = providedPath transferRevm .on transferExecutor
          [transferAnchor, transferTx 0xa1 0, transferTx 0xa1 0] ∧
    witnessPath transferRevm .on (transferExecutor.expecting none)
        [transferAnchor, transferTx 0xa1 0, transferTx 0xa1 0]
      = providedPath transferRevm .on transferExecutor
          [transferAnchor, transferTx 0xa1 0, transferTx 0xa1 0] := by
  have hanchor : transferStarted.executeTransaction transferRevm .on transferAnchor
      = .ok (.ok 1000000, transferAnchored) := rfl
  refine (filtering_paths_agree_iff transferRevm_checksFeeCap transferExecutor_fresh
    (by decide) (by decide) rfl hanchor none none).1.mpr ?_
  exact ⟨rfl, trivial⟩

end AlethiaReth
