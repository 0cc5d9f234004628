import AlethiaReth.Block.Verdict
import AlethiaReth.Consensus.Body

/-!
The prover skips the transactions of a block that fail, and validation then asks for a
receipt for each transaction.  Together they are as strict as an execution that no
transaction may fail (`executeBlockProver_strict`).
-/

namespace AlethiaReth

open MachineInt Outcome

namespace TaikoBlockExecutor

variable {revm : Revm} {checks : OverflowChecks} {e e' : TaikoBlockExecutor} {tx : Recovered}
  {txs : List Recovered}

/-! ### Receipts of a step -/

lemma Commits.receipts_append (ho : OwnsEvm e) (h : Commits revm checks e tx e') :
    ∃ receipt, e'.receipts = e.receipts ++ [receipt] ∧
      receipt.cumulativeGasUsed = e'.gasUsed := by
  obtain ⟨gasUsed, hrun⟩ := h
  obtain ⟨output, e₁, -, hkept, hcommit⟩ := executeTransaction_committed ho hrun
  have hsame : e₁.receipts = e.receipts := by rw [hkept.same]
  obtain ⟨e₂, hzkGas, hcommit⟩ := bind_eq_ok.mp hcommit
  obtain ⟨cumulative, -, hcommit⟩ := bind_eq_ok.mp hcommit
  cases hcommit
  have hreceipts : e₂.receipts = e₁.receipts := by
    rw [commitCurrentTransactionZkGas] at hzkGas
    split at hzkGas <;> cases hzkGas <;> rfl
  exact ⟨receiptOf output cumulative, congrArg (· ++ _) (hreceipts.trans hsame), rfl⟩

lemma Commits.receipts_length (h : Commits revm checks e tx e') (ho : OwnsEvm e) :
    e'.receipts.length = e.receipts.length + 1 := by
  obtain ⟨receipt, hreceipts, -⟩ := h.receipts_append ho
  rw [hreceipts, List.length_append]
  rfl

lemma Discards.receipts (h : Discards revm checks e e') (ho : OwnsEvm e) :
    e'.receipts = e.receipts := by
  rw [(h.kept ho).same]

/-- What the prover does with a transaction it executes: it commits, or it is dropped
without a receipt. -/
lemma tryExecuteFiltered_cases (ht : Tended e) {isAnchorTransaction hasCommitted : Bool}
    (h : e.tryExecuteFiltered revm checks tx isAnchorTransaction = .ok (.ok hasCommitted, e')) :
    Commits revm checks e tx e' ∨ Tended e' ∧ e'.receipts = e.receipts := by
  obtain ⟨⟨answer, e₁⟩, hrun, h⟩ := bind_eq_ok.mp h
  cases answer with
  | ok gasUsed => cases h; exact .inl ⟨gasUsed, hrun⟩
  | error error =>
    dsimp only at h
    split at h
    · cases h
      have hdiscards : Discards revm checks e e' := .inl ⟨tx, error, hrun⟩
      exact .inr ⟨(hdiscards.kept ht.owns).tended ht, hdiscards.receipts ht.owns⟩
    · cases h

lemma Commits.tryExecuteFiltered (h : Commits revm checks e tx e') (isAnchorTransaction : Bool) :
    e.tryExecuteFiltered revm checks tx isAnchorTransaction = .ok (.ok true, e') := by
  obtain ⟨gasUsed, hrun⟩ := h
  rw [TaikoBlockExecutor.tryExecuteFiltered, hrun]
  rfl

/-! ### Receipts of a run -/

/-- The prover ends with at most one receipt for each transaction, and with as many only
where every transaction committed in turn. -/
theorem executeSkipping_receipts (ht : Tended e) {isAnchorTransaction : Bool}
    (h : executeSkipping revm checks e isAnchorTransaction txs = .ok (.ok (), e')) :
    e'.receipts.length ≤ e.receipts.length + txs.length ∧
      (e'.receipts.length = e.receipts.length + txs.length →
        e.executeTransactions revm checks txs = .ok (.ok (), e')) := by
  induction txs generalizing e isAnchorTransaction with
  | nil =>
    cases h
    exact ⟨le_rfl, fun _ => rfl⟩
  | cons tx txs ih =>
    rw [List.length_cons]
    rw [executeSkipping] at h
    split at h
    · have htail := (ih ht h).1
      exact ⟨by omega, fun heq => by omega⟩
    · obtain ⟨⟨answer, e₁⟩, hrun, h⟩ := bind_eq_ok.mp h
      cases answer with
      | error error => cases h
      | ok hasCommitted =>
        dsimp only at h
        rcases tryExecuteFiltered_cases ht hrun with hcommits | ⟨ht₁, hreceipts⟩
        · have hlength := hcommits.receipts_length ht.owns
          rw [hcommits.ready, if_neg Bool.false_ne_true] at h
          obtain ⟨hle, hall⟩ := ih (hcommits.tended ht) h
          refine ⟨by omega, fun heq => ?_⟩
          obtain ⟨gasUsed, hrun⟩ := hcommits
          rw [executeTransactions, hrun]
          exact hall (by omega)
        · -- nothing that comes later makes up for the missing receipt
          have hlength : e₁.receipts.length = e.receipts.length := by rw [hreceipts]
          have hle : e'.receipts.length ≤ e₁.receipts.length + txs.length := by
            split at h
            · cases h
              omega
            · exact (ih ht₁ h).1
          exact ⟨by omega, fun heq => by omega⟩

/-- A run in which every transaction commits is a run of the prover, with a receipt for each
transaction. -/
theorem executeTransactions_skipping (ht : Tended e) (hsigners : ∀ tx ∈ txs, tx.signer ≠ 0)
    (isAnchorTransaction : Bool)
    (h : e.executeTransactions revm checks txs = .ok (.ok (), e')) :
    executeSkipping revm checks e isAnchorTransaction txs = .ok (.ok (), e') ∧
      e'.receipts.length = e.receipts.length + txs.length := by
  induction txs generalizing e isAnchorTransaction with
  | nil =>
    cases h
    exact ⟨rfl, rfl⟩
  | cons tx txs ih =>
    obtain ⟨⟨answer, e₁⟩, hrun, h⟩ := bind_eq_ok.mp h
    cases answer with
    | error error => cases h
    | ok gasUsed =>
      have hcommits : Commits revm checks e tx e₁ := ⟨gasUsed, hrun⟩
      have hsigner : ¬ ((!isAnchorTransaction) = true ∧ tx.signer = 0) :=
        fun hskip => hsigners tx List.mem_cons_self hskip.2
      obtain ⟨hskipping, hlength⟩ := ih (hcommits.tended ht)
        (fun tx htx => hsigners tx (List.mem_cons_of_mem _ htx)) false h
      refine ⟨?_, ?_⟩
      · rw [executeSkipping, if_neg hsigner, hcommits.tryExecuteFiltered]
        dsimp only [bind, Except.bind]
        rw [hcommits.ready, if_neg Bool.false_ne_true]
        exact hskipping
      · rw [hlength, hcommits.receipts_length ht.owns, List.length_cons]
        omega

/-! ### Blocks -/

lemma Fresh.receipts (h : Fresh e) : e.receipts = [] := by
  obtain ⟨db, cfg, block, heq | heq⟩ := h.made <;> rw [heq] <;> rfl

lemma applyPreExecutionChanges_receipts (ht : Tended e)
    (h : e.applyPreExecutionChanges revm checks = .ok (.ok (), e')) :
    e'.receipts = e.receipts := by
  obtain ⟨e₁, hstart, hanchor⟩ := applyPreExecutionChanges_eq_ok ht h
  have hreceipts : e₁.receipts = e.receipts := by rw [hstart.same]
  rcases initializeAnchorContext_eq_ok hanchor with ⟨-, rfl⟩ | ⟨account, pctg, -, -, rfl⟩ <;>
    exact hreceipts

lemma finish_receipts {fin : Finished} (h : e.finish = .ok fin) :
    fin.result.receipts = e.receipts := by
  obtain ⟨-, -, h⟩ := bind_eq_ok.mp h
  cases h
  rw [syncFinalizedBlockZkGas]
  split <;> rfl

/-- The prover executes a block where its three stages succeed. -/
lemma executeBlockProver_eq_ok {fin : Finished} :
    e.executeBlockProver revm checks txs = .ok (.ok fin) ↔
      ∃ e₁ e₂, e.applyPreExecutionChanges revm checks = .ok (.ok (), e₁) ∧
        executeSkipping revm checks e₁ true txs = .ok (.ok (), e₂) ∧ e₂.finish = .ok fin := by
  refine ⟨fun h => ?_, ?_⟩
  · obtain ⟨⟨answer, e₁⟩, hpre, h⟩ := bind_eq_ok.mp h
    cases answer with
    | error error => cases h
    | ok u =>
      obtain ⟨⟨answer, e₂⟩, hrun, h⟩ := bind_eq_ok.mp h
      cases answer with
      | error error => cases h
      | ok u => exact ⟨e₁, e₂, hpre, hrun, Except.ok.inj h⟩
  · rintro ⟨e₁, e₂, hpre, hrun, hfinish⟩
    rw [executeBlockProver, hpre]
    dsimp only [bind, Except.bind]
    rw [hrun]
    exact congrArg Except.ok hfinish

/-- The prover's execution of an Unzen block and the check of its receipts accept the block
exactly where an execution that no transaction may fail does, with the same receipts, gas
used, zk gas and state. -/
theorem executeBlockProver_strict (revm : Revm) (checks : OverflowChecks)
    {e : TaikoBlockExecutor} (hfresh : Fresh e) (block : RecoveredBlock)
    (hunzen : e.spec.isUnzenActive block.block.header.timestamp = true)
    (hsigners : ∀ signer ∈ block.senders, signer ≠ 0) (fin : Finished) :
    (e.executeBlockProver revm checks block.transactionsRecovered = .ok (.ok fin) ∧
      validateZkGasPostExecution block e.spec fin.result.receipts = .ok ()) ↔
      e.executeBlock revm checks block.transactionsRecovered = .ok (.ok fin) := by
  rw [validateZkGasPostExecution_eq_ok hunzen, ← block.length_transactionsRecovered,
    executeBlockProver_eq_ok, executeBlock_eq_ok]
  have hstarted {e₁ : TaikoBlockExecutor}
      (hpre : e.applyPreExecutionChanges revm checks = .ok (.ok (), e₁)) :
      Tended e₁ ∧ e₁.receipts.length = 0 := by
    refine ⟨(applyPreExecutionChanges_tended hfresh.tended.1 hpre).1, ?_⟩
    rw [applyPreExecutionChanges_receipts hfresh.tended.1 hpre, hfresh.receipts]
    rfl
  constructor
  · rintro ⟨⟨e₁, e₂, hpre, hrun, hfinish⟩, hcount⟩
    obtain ⟨ht₁, hnone⟩ := hstarted hpre
    rw [finish_receipts hfinish] at hcount
    exact ⟨e₁, e₂, hpre, (executeSkipping_receipts ht₁ hrun).2 (by omega), hfinish⟩
  · rintro ⟨e₁, e₂, hpre, hrun, hfinish⟩
    obtain ⟨ht₁, hnone⟩ := hstarted hpre
    obtain ⟨hskipping, hcount⟩ := executeTransactions_skipping ht₁
      (fun tx htx => hsigners tx.signer (RecoveredBlock.signer_mem htx)) true hrun
    refine ⟨⟨e₁, e₂, hpre, hskipping, hfinish⟩, ?_⟩
    rw [finish_receipts hfinish]
    omega

/-- A block of two transfers. -/
def twoTransfers : RecoveredBlock where
  block :=
    { header :=
        { parentHash := 0
          ommersHash := emptyOmmerRootHash
          beneficiary := transferBlock.beneficiary
          transactionsRoot := 0
          receiptsRoot := 0
          difficulty := 0
          number := transferBlock.number
          gasLimit := transferBlock.gasLimit
          gasUsed := 42000
          timestamp := transferBlock.timestamp
          extraData := []
          nonce := some 0
          baseFeePerGas := some transferBlock.basefee
          blockAccessListHash := none
          slotNumber := none }
      body :=
        { transactions := [(transferTx 0xa1 0).tx, (transferTx 0xa1 1).tx]
          ommers := []
          withdrawals := some [] } }
  senders := [0xa1, 0xa1]
  length_eq := rfl

/-- Both transfers run strictly, so the prover accepts them. -/
theorem executeBlockProver_strict_transfer :
    ∃ fin, transferExecutor.executeBlockProver transferRevm .on
        twoTransfers.transactionsRecovered = .ok (.ok fin) ∧
      validateZkGasPostExecution twoTransfers transferSpec fin.result.receipts = .ok () := by
  obtain ⟨fin, hstrict⟩ : ∃ fin, transferExecutor.executeBlock transferRevm .on
      twoTransfers.transactionsRecovered = .ok (.ok fin) := ⟨_, rfl⟩
  exact ⟨fin, (executeBlockProver_strict transferRevm .on transferExecutor_fresh twoTransfers
    rfl (by simp [twoTransfers]) fin).mpr hstrict⟩

end TaikoBlockExecutor

end AlethiaReth
