import AlethiaReth.Block.AnchorExemption
import AlethiaReth.Block.Config
import AlethiaReth.Consensus.Body

/-!
The fees of a whole block: what its transactions pay up front against what their settlements
credit, and when an accepted block credits no more than it deducts (`accepted_fees_iff`).
-/

namespace AlethiaReth

open MachineInt Outcome Filtering

/-! ### Prices -/

variable {tx : TransactionSigned} {priorityFee : U128} {env : Env}

/-- A transaction whose fee cap reaches the base fee pays the base fee at least. -/
lemma TxEnv.le_effectiveGasPrice {tx : TxEnv} {baseFee : U128} (h : baseFee ≤ tx.gasPrice) :
    baseFee.toNat ≤ (tx.effectiveGasPrice baseFee).toNat := by
  have hcap := BitVec.le_def.mp h
  rw [effectiveGasPrice]
  split
  · exact hcap
  · exact hcap
  · exact hcap
  · dsimp only
    split
    · exact hcap
    · have hbase := baseFee.isLt
      rw [toNat_saturatingAdd]
      omega

/-- Without a tip, the fee cap is the base fee or the priority fee is zero. -/
lemma TransactionSigned.effectiveTipPerGas_eq_zero {baseFee : U64}
    (h : tx.effectiveTipPerGas baseFee = some 0) :
    tx.maxFeePerGas = baseFee.setWidth 128 ∨ tx.maxPriorityFeePerGas = some 0 := by
  rw [effectiveTipPerGas] at h
  dsimp only at h
  split at h
  · cases h
  · split at h
    · left
      exact BitVec.sub_eq_iff_eq_add.mp (Option.some.inj h) |>.trans (BitVec.zero_add _)
    · next priorityFee hpriority =>
      have h := Option.some.inj h
      split at h
      · left
        exact BitVec.sub_eq_iff_eq_add.mp h |>.trans (BitVec.zero_add _)
      · right
        rw [hpriority, h]

/-- Only the types with a priority fee have one. -/
lemma TransactionSigned.txType_of_priorityFee (h : tx.maxPriorityFeePerGas = some priorityFee) :
    tx.txType ≠ .legacy ∧ tx.txType ≠ .eip2930 := by
  rw [maxPriorityFeePerGas] at h
  rw [txType]
  split at h
  · cases h
  · cases h
  · decide
  · decide
  · decide

/-- A transaction with a priority fee pays that above the base fee, up to its fee cap. -/
lemma TxEnv.effectiveGasPrice_of_priorityFee (tx : TxEnv) {baseFee : U128}
    (htype : tx.txType ≠ .legacy ∧ tx.txType ≠ .eip2930)
    (hpriority : tx.gasPriorityFee = some priorityFee) :
    (tx.effectiveGasPrice baseFee).toNat =
      min tx.gasPrice.toNat (baseFee.toNat + priorityFee.toNat) := by
  have hcap := tx.gasPrice.isLt
  have hsum := toNat_saturatingAdd baseFee priorityFee
  rw [effectiveGasPrice, hpriority]
  split
  · next hlegacy => exact absurd hlegacy htype.1
  · next heip2930 => exact absurd heip2930 htype.2
  · next hnone _ _ => cases hnone
  · next fee hfee _ _ =>
    cases hfee
    dsimp only
    split
    · next hle =>
      have hle := BitVec.le_def.mp hle
      omega
    · next hlt =>
      have hlt := BitVec.lt_def.mp (BitVec.not_le.mp hlt)
      omega

/-- A transaction without a tip pays the base fee at most. -/
lemma Recovered.effectiveGasPrice_le {tx : Recovered} {baseFee : U64}
    (h : tx.tx.effectiveTipPerGas baseFee = some 0) :
    (tx.toTxEnv.effectiveGasPrice (baseFee.setWidth 128)).toNat ≤ baseFee.toNat := by
  have hbase : (baseFee.setWidth 128).toNat = baseFee.toNat :=
    BitVec.toNat_setWidth_of_le (by omega)
  rw [← hbase]
  rcases TransactionSigned.effectiveTipPerGas_eq_zero h with hcap | hpriority
  · exact (tx.toTxEnv.effectiveGasPrice_le _).trans (le_of_eq (congrArg BitVec.toNat hcap))
  · have htype := TransactionSigned.txType_of_priorityFee hpriority
    rw [tx.toTxEnv.effectiveGasPrice_of_priorityFee htype hpriority]
    exact min_le_right _ _

/-- Where a deduction succeeds, the whole gas limit at the effective price is in range. -/
lemma deductedBalance_fits {isAnchor : Bool} {balance balance' : U256}
    (h : deductedBalance env isAnchor balance = .ok balance') :
    env.tx.gasLimit.toNat * env.gasPrice < 2 ^ 128 := by
  have hspending : ∃ spending, env.tx.effectiveBalanceSpending
      (env.block.basefee.setWidth 128) (env.block.blobGasprice.getD 0) = .ok spending := by
    cases hspending : env.tx.effectiveBalanceSpending (env.block.basefee.setWidth 128)
        (env.block.blobGasprice.getD 0) with
    | ok spending => exact ⟨spending, rfl⟩
    | error error =>
      rw [deductedBalance, hspending] at h
      split at h <;> obtain ⟨maxSpending, -, h⟩ := bind_eq_ok.mp h <;> dsimp only at h <;>
        split at h <;> cases h
  obtain ⟨spending, hspending⟩ := hspending
  obtain ⟨cost, hcost, -⟩ := bind_eq_ok.mp hspending
  exact (TxEnv.gasCostAndValue_eq_ok hcost).2

/-- The one credit of an exempt transaction is its tip. -/
lemma feeCredits_of_exempt (checks : OverflowChecks) {gas : Gas} {ctx : TaikoEvmExtraExecutionCtx}
    (hexempt : deductionExempt (some ctx) env.tx env.cfg = true)
    (hgas : gas.Settled env.tx.gasLimit) (hfits : env.tx.gasLimit.toNat * env.gasPrice < 2 ^ 128) :
    feeCredits checks env gas (some ctx)
      = .ok [(env.block.beneficiary, (env.gasPrice - env.block.basefee.toNat) * gas.paid)] := by
  obtain ⟨tip, htip, htipNat⟩ := coinbaseTip_eq_ok checks hgas hfits
  rw [feeCredits, reimbursementCredits, reimbursementExempt_eq, hexempt, if_pos rfl, htip,
    shareCredits, sharingExempt_eq, hexempt, if_pos rfl, ← htipNat]
  rfl

/-! ### The gas a transaction settles at -/

section Settled

variable {revm : Revm} {checks : OverflowChecks} {inspect : Bool}
  {extra : Option TaikoEvmExtraExecutionCtx} {homes homes' : MeterHomes}
  {outcome : ExecutionResult × EvmState}

/-- The gas the fees of a run are settled at. -/
def Ran.gas (ran : Ran revm checks inspect env extra homes outcome homes') : Gas :=
  (revm.settleGas env ran.prepared.initialGas ran.prepared.refund ran.result).gas

lemma Ran.fits (ran : Ran revm checks inspect env extra homes outcome homes') :
    env.tx.gasLimit.toNat * env.gasPrice < 2 ^ 128 := by
  obtain ⟨initialGas, -, hprepare⟩ := bind_eq_ok.mp ran.prepare_eq
  obtain ⟨ctx, hdeduct, -⟩ := bind_eq_ok.mp hprepare
  obtain ⟨account, journal, balance, -, -, hbalance, -⟩ :=
    validateAgainstStateAndDeductCaller_eq_ok hdeduct
  exact deductedBalance_fits hbalance

end Settled

/-- The gas of a transaction ends within its limit: what was not spent remains, and no more
is refunded than was spent. -/
def Revm.SettlesGas (revm : Revm) : Prop :=
  ∀ checks inspect env extra homes outcome homes'
    (ran : Ran revm checks inspect env extra homes outcome homes'), ran.gas.Settled env.tx.gasLimit

lemma transferRevm_settlesGas : transferRevm.SettlesGas := by
  intro checks inspect env extra homes outcome homes' ran
  have hgas : ran.gas = wholeGas env.tx.gasLimit := (transferRevm_exec ran.exec_eq).2
  rw [hgas]
  exact ⟨by simp [wholeGas], by simp [wholeGas]⟩

/-! ### Charges -/

/-- The fees of a transaction: what it ran in, the gas it settled at, and the credits of its
settlement. -/
structure Charge where
  env : Env
  extra : Option TaikoEvmExtraExecutionCtx
  gas : Gas
  credits : List (Address × ℕ)

namespace Charge

variable (c : Charge)

/-- What the sender paid. -/
def deducted : ℕ := feeDeducted c.env c.extra

/-- What the others received. -/
def credited : ℕ := Ledger.total c.credits

/-- Nothing is deducted. -/
def exempt : Bool := deductionExempt c.extra c.env.tx c.env.cfg

/-- What a charge credits that nobody paid: the tip of an exempt transaction, and the excess
of a share over the base fee income. -/
def minted (pctg : ℕ) (c : Charge) : ℕ :=
  if c.exempt then (c.env.gasPrice - c.env.block.basefee.toNat) * c.gas.paid
  else baseFeeIncome c.env c.gas * pctg / 100 - baseFeeIncome c.env c.gas

/-- A charge credits what it deducts and what it mints. -/
def Books (pctg : ℕ) (c : Charge) : Prop := c.credited = c.deducted + c.minted pctg

/-- A charge that was credited in a block with its anchor context books. -/
lemma Books.of_credits {checks : OverflowChecks} {c : Charge} {pctg nonce : U64}
    (hextra : c.extra = some (.new pctg goldenTouch nonce))
    (hcredits : feeCredits checks c.env c.gas c.extra = .ok c.credits)
    (hgas : c.gas.Settled c.env.tx.gasLimit)
    (hprice : c.env.block.basefee.toNat ≤ c.env.gasPrice)
    (hfits : c.env.tx.gasLimit.toNat * c.env.gasPrice < 2 ^ 128) : c.Books pctg.toNat := by
  rw [Books, credited, deducted, minted, exempt, feeDeducted]
  rw [hextra] at hcredits ⊢
  cases hexempt : deductionExempt (some (.new pctg goldenTouch nonce)) c.env.tx c.env.cfg with
  | true =>
    rw [feeCredits_of_exempt checks hexempt hgas hfits] at hcredits
    rw [← Except.ok.inj hcredits]
    simp
  | false =>
    rw [feeCredits_of_sharing checks rfl hexempt hgas hfits] at hcredits
    rw [← Except.ok.inj hcredits]
    have htotal := total_feeCredits pctg.toNat hgas hprice
    simp only [Ledger.total_cons, Ledger.total_nil, Bool.false_eq_true, if_false,
      TaikoEvmExtraExecutionCtx.new]
    omega

/-- A ledger credits no more than it deducts where no charge mints. -/
lemma credited_le_deducted_iff {pctg : ℕ} {ledger : List Charge} (h : ∀ c ∈ ledger, c.Books pctg) :
    (ledger.map credited).sum ≤ (ledger.map deducted).sum ↔ ∀ c ∈ ledger, c.minted pctg = 0 := by
  have hsum : (ledger.map credited).sum
      = (ledger.map deducted).sum + (ledger.map (minted pctg)).sum := by
    rw [← List.sum_map_add]
    exact congrArg List.sum (List.map_congr_left h)
  rw [hsum, add_le_iff_nonpos_right, Nat.le_zero, List.sum_eq_zero_iff]
  simp

/-- A share of the income exceeds it by a unit where the percentage above a hundred is worth
one. -/
lemma minted_eq_zero_iff {pctg : ℕ} {c : Charge} :
    c.minted pctg = 0 ↔
      if c.exempt then c.env.gasPrice ≤ c.env.block.basefee.toNat ∨ c.gas.paid = 0
      else baseFeeIncome c.env c.gas * (pctg - 100) < 100 := by
  rw [minted]
  split
  · rw [Nat.mul_eq_zero, Nat.sub_eq_zero_iff_le]
  · rw [Nat.sub_eq_zero_iff_le, ← Nat.lt_succ_iff, Nat.div_lt_iff_lt_mul (by norm_num),
      Nat.mul_sub]
    omega

end Charge

namespace TaikoBlockExecutor

variable (revm : Revm) (checks : OverflowChecks) {txs : List Recovered}

/-- The gas a transaction settles its fees at, where its frames end with a result. -/
def settledGas (e : TaikoBlockExecutor) (tx : Recovered) : Option Gas :=
  match prepare revm (e.env tx) e.evm.extraExecutionCtx with
  | .error _ => none
  | .ok prepared =>
    match exec e.evm.inspect (e.env tx) revm.fuel (.init prepared.input,
        ⟨prepared.ctx, [], e.startMeters.zkGasMeter, e.startMeters.inspector⟩) with
    | .ok (.done (.ok result), _) =>
      some (revm.settleGas (e.env tx) prepared.initialGas prepared.refund result).gas
    | _ => none

/-- The fees of a transaction that the executor commits. -/
def charge (e : TaikoBlockExecutor) (tx : Recovered) : Option Charge := do
  let gas ← e.settledGas revm tx
  match feeCredits checks (e.env tx) gas e.evm.extraExecutionCtx with
  | .error _ => none
  | .ok credits => some ⟨e.env tx, e.evm.extraExecutionCtx, gas, credits⟩

/-- The fees of the transactions the executor commits in turn. -/
def feeLedger : TaikoBlockExecutor → List Recovered → List Charge
  | _, [] => []
  | e, tx :: txs =>
    match e.executeTransaction revm checks tx with
    | .ok (.ok _, e') => (e.charge revm checks tx).toList ++ feeLedger e' txs
    | _ => []

variable {revm checks} {e e' : TaikoBlockExecutor} {tx : Recovered} {pctg nonce : U64}

lemma settledGas_eq_some {homes' : MeterHomes} {outcome : ExecutionResult × EvmState}
    (ran : Ran revm checks e.evm.inspect (e.env tx) e.evm.extraExecutionCtx e.startMeters
      outcome homes') : e.settledGas revm tx = some ran.gas := by
  rw [settledGas, ran.prepare_eq]
  dsimp only
  rw [ran.exec_eq]
  rfl

/-- A committed transaction has a charge: the run it went through took the deduction from its
caller and nothing from anyone else, and made the credits. -/
theorem Commits.charge (ho : OwnsEvm e) (h : Commits revm checks e tx e') :
    ∃ homes' outcome credits, ∃ ran : Ran revm checks e.evm.inspect (e.env tx)
        e.evm.extraExecutionCtx e.startMeters outcome homes',
      let c : Charge := ⟨e.env tx, e.evm.extraExecutionCtx, ran.gas, credits⟩
      e.charge revm checks tx = some c ∧
      feeCredits checks (e.env tx) ran.gas e.evm.extraExecutionCtx = .ok credits ∧
      ran.evm.ctx.journal.Credited e.evm.db c.credits ran.journal ∧
      (tx.tx.txType ≠ .eip4844 → e.evm.cfg.disableBalanceCheck = false →
        ∃ ctx : Context revm.Scratch,
          validateAgainstStateAndDeductCaller revm (e.env tx) ⟨.new revm.scratch, .ok ()⟩
            e.evm.extraExecutionCtx = .ok ctx ∧
          ∀ x, (Journal.new revm.scratch).balanceOf e.evm.db x
            = ctx.journal.balanceOf e.evm.db x + if x = tx.signer then c.deducted else 0) := by
  obtain ⟨gasUsed, hrun⟩ := h
  obtain ⟨homes', outcome, ⟨ran⟩, -⟩ := executeTransaction_transacted ho hrun
  obtain ⟨credits, hcredits, hcredited⟩ := postExecution_credited ran.post_eq
  refine ⟨homes', outcome, credits, ran, ?_, hcredits, hcredited, fun hblob hcheck => ?_⟩
  · rw [TaikoBlockExecutor.charge, settledGas_eq_some ran]
    dsimp only [bind, Option.bind]
    rw [Ran.gas, hcredits]
  · obtain ⟨initialGas, -, hprepare⟩ := bind_eq_ok.mp ran.prepare_eq
    obtain ⟨ctx, hdeduct, -⟩ := bind_eq_ok.mp hprepare
    exact ⟨ctx, hdeduct, validateAgainstStateAndDeductCaller_balanceOf hblob hcheck hdeduct⟩

/-- With the anchor context of a block, the charge of a committed transaction books. -/
theorem Commits.books (hcap : revm.ChecksFeeCap) (hgas : revm.SettlesGas)
    (hanchored : e.Anchored pctg nonce) (h : Commits revm checks e tx e') :
    ∃ c, e.charge revm checks tx = some c ∧ c.Books pctg.toNat ∧ c.env = e.env tx ∧
      c.exempt = deductionExempt e.evm.extraExecutionCtx tx.toTxEnv e.evm.cfg := by
  obtain ⟨homes', outcome, credits, ran, hcharge, hcredits, -⟩ := h.charge hanchored.tended.owns
  have hprice : e.evm.block.basefee.toNat ≤ (e.env tx).gasPrice := by
    have hle := TxEnv.le_effectiveGasPrice (ran.feeCap hcap)
    rwa [BitVec.toNat_setWidth_of_le (by omega)] at hle
  have hsettled := hgas _ _ _ _ _ _ _ ran
  exact ⟨_, hcharge, .of_credits hanchored.context hcredits hsettled hprice ran.fits, rfl, rfl⟩

lemma Commits.commitsAs (h : Commits revm checks e tx e') :
    CommitsAs revm checks e
      (tx, deductionExempt e.evm.extraExecutionCtx tx.toTxEnv e.evm.cfg) e' := by
  obtain ⟨gasUsed, hrun⟩ := h
  obtain ⟨output, e₁, hresult, hcommit⟩ := executeTransaction_eq_ok.mp hrun
  refine ⟨⟨fun _ => true, gasUsed, ?_⟩, rfl⟩
  rw [executeTransactionWithCommitCondition, hresult]
  dsimp only [bind, Except.bind]
  rw [if_pos rfl, hcommit]
  rfl

/-! ### The ledger of a run -/

/-- The ledger of a run in which every transaction commits: a charge for each, every one of
them books, the first of them is that of the first transaction, and the transactions commit
as their charges say. -/
theorem feeLedger_books (hcap : revm.ChecksFeeCap) (hgas : revm.SettlesGas)
    (hrun : Strictly (Commits revm checks) e txs e') (hanchored : e.Anchored pctg nonce) :
    (e.feeLedger revm checks txs).length = txs.length ∧
    (∀ c ∈ e.feeLedger revm checks txs, c.Books pctg.toNat) ∧
    (∀ c ∈ (e.feeLedger revm checks txs).head?, ∀ tx ∈ txs.head?, c.env = e.env tx) ∧
    Filtered (CommitsAs revm checks) (Idles revm checks) e
      (txs.zip ((e.feeLedger revm checks txs).map Charge.exempt)) e' := by
  induction hrun with
  | nil s => exact ⟨rfl, by simp [feeLedger], by simp, .nil s⟩
  | @cons e e₁ e' tx txs hcommit _ ih =>
    obtain ⟨c, hcharge, hbooks, henv, hexempt⟩ := hcommit.books hcap hgas hanchored
    obtain ⟨hlength, hall, -, hfiltered⟩ := ih (hanchored.commit hcommit).1
    have hledger : e.feeLedger revm checks (tx :: txs) = c :: e₁.feeLedger revm checks txs := by
      obtain ⟨gasUsed, hrun⟩ := hcommit
      rw [feeLedger, hrun]
      dsimp only
      rw [hcharge]
      rfl
    rw [hledger]
    refine ⟨by simp [hlength], ?_, by simp [henv], ?_⟩
    · intro d hd
      rcases List.mem_cons.mp hd with rfl | hd
      · exact hbooks
      · exact hall d hd
    · rw [List.map_cons, List.zip_cons_cons, hexempt]
      exact .commit hcommit.commitsAs hfiltered

end TaikoBlockExecutor

/-! ### Accepted blocks -/

/-- The executor of a block that has a header, over the state of its parent. -/
def executorForBlock (spec : TaikoChainSpec) (db : Db) (block : SealedBlock) :
    Except ConfigError TaikoBlockExecutor := do
  let env ← evmEnv spec block.block.header
  let ctx ← contextForBlock spec block
  pure (.new (.createEvm db env.cfgEnv env.blockEnv) ctx spec)

lemma executorForBlock_eq_ok {spec : TaikoChainSpec} {db : Db} {block : SealedBlock}
    {e : TaikoBlockExecutor} (h : executorForBlock spec db block = .ok e) :
    TaikoBlockExecutor.Fresh e ∧ e.spec = spec ∧ e.evm.cfg.disableNonceCheck = false ∧
      block.block.header.baseFeePerGas = some e.evm.block.basefee := by
  obtain ⟨env, henv, h⟩ := bind_eq_ok.mp h
  obtain ⟨ctx, hctx, h⟩ := bind_eq_ok.mp h
  cases h
  rw [evmEnv] at henv
  rw [contextForBlock] at hctx
  cases hbase : block.block.header.baseFeePerGas with
  | none => rw [hbase] at henv; cases henv
  | some basefee =>
    rw [hbase] at henv hctx
    cases henv
    cases hctx
    exact ⟨⟨rfl, db, _, _, .inl rfl⟩, rfl, rfl, rfl⟩

section

variable (revm : Revm) (checks : OverflowChecks) (spec : TaikoChainSpec) (hashSlow : Header → B256)
  (calculateOmmersRoot : List Header → Option B256)
  (calculateTransactionRoot : List TransactionSigned → B256)
  (ethereum : RecoveredBlock → BlockExecutionResult → Except ConsensusError Unit)

/-- A block that was accepted over a state: the checks of its header and its body passed, it
executed in the executor of its header to a result, and the checks of that passed.  Its
senders are those its signatures recover to. -/
structure Accepted (db : Db) (block : RecoveredBlock) (e : TaikoBlockExecutor)
    (fin : TaikoBlockExecutor.Finished) : Prop where
  header : validateHeader spec block.block.header = .ok ()
  body : validateBlockPreExecution calculateOmmersRoot calculateTransactionRoot block.block
    = .ok ()
  executor : executorForBlock spec db (block.block.sealSlow hashSlow) = .ok e
  executed : e.executeBlock revm checks block.transactionsRecovered = .ok (.ok fin)
  result : validateBlockPostExecution ethereum block spec fin.result = .ok ()
  recovered : ∀ tx ∈ block.transactionsRecovered, tx.tx.recovered = some tx.signer

end

lemma RecoveredBlock.map_tx_transactionsRecovered (block : RecoveredBlock) :
    block.transactionsRecovered.map (·.tx) = block.block.body.transactions := by
  rw [transactionsRecovered, ← List.map_uncurry_zip_eq_zipWith, List.map_map]
  exact List.map_fst_zip (le_of_eq block.length_eq.symm)

namespace TaikoBlockExecutor

section Exempt

variable {revm : Revm} {checks : OverflowChecks} {e e' : TaikoBlockExecutor} {pctg nonce : U64}

/-- In a run from a valid anchor on, an exempt transaction pays no tip: it is the anchor. -/
lemma feeLedger_exempt (hcap : revm.ChecksFeeCap) (hgas : revm.SettlesGas)
    (hchecks : revm.ChecksNonce) (hlast : revm.RejectsLastNonce)
    (hkeeps : revm.KeepsNonce goldenTouch) (hcreator : revm.BumpsCreator goldenTouch)
    {txs : List Recovered}
    (hrun : Strictly (Commits revm checks) e txs e') (hguarded : Guarded pctg nonce e)
    (hstart : e.goldenTouchNonce = nonce.toNat)
    (hrecovered : ∀ tx ∈ txs, tx.tx.recovered = some tx.signer)
    {spec : TaikoChainSpec} {timestamp number : U64}
    (hvalid : validateAnchorTransactionInBlock timestamp number (some e.evm.block.basefee)
      (txs.map (·.tx)) spec = .ok ()) :
    ∀ c ∈ e.feeLedger revm checks txs, c.exempt = true →
      c.env.gasPrice ≤ c.env.block.basefee.toNat := by
  obtain ⟨hlength, -, hhead, hfiltered⟩ := feeLedger_books hcap hgas hrun hguarded.anchored
  intro c hc hexempt
  cases txs with
  | nil => rw [List.length_nil, List.length_eq_zero_iff] at hlength; simp [hlength] at hc
  | cons tx txs =>
    cases hledger : e.feeLedger revm checks (tx :: txs) with
    | nil => simp [hledger] at hc
    | cons c₀ ledger =>
      rw [hledger] at hc hfiltered hhead hlength
      rw [List.map_cons, List.zip_cons_cons] at hfiltered
      have hsigner := signer_of_validAnchor (hrecovered tx List.mem_cons_self) hvalid
      have htail := hguarded.exempt_tail hchecks hlast hkeeps hcreator hstart hfiltered hsigner
      rcases List.mem_cons.mp hc with rfl | hc
      · have henv : c.env = e.env tx := hhead c rfl tx rfl
        rw [henv]
        exact Recovered.effectiveGasPrice_le (validateAnchorTransaction_eq_ok.mp hvalid).tip
      · -- the others are charges of later transactions
        have hzip : (txs.zip (ledger.map Charge.exempt)).map Prod.snd
            = ledger.map Charge.exempt := List.map_snd_zip (by simpa using hlength.le)
        have hmem : c.exempt ∈ ledger.map Charge.exempt := List.mem_map_of_mem hc
        rw [← hzip] at hmem
        obtain ⟨item, hitem, hmark⟩ := List.mem_map.mp hmem
        rw [← hmark, htail item hitem] at hexempt
        cases hexempt

end Exempt

variable (pctg : U8)

/-- Of every accepted block: each transaction has its charge; the credits of all charges are
within their deductions exactly where the tip of no exempt transaction and no share above the
income brings anything; and they are with a share of at most the whole income. -/
theorem accepted_fees_iff {revm : Revm} {checks : OverflowChecks} (hcap : revm.ChecksFeeCap)
    (hgas : revm.SettlesGas) (hchecks : revm.ChecksNonce) (hlast : revm.RejectsLastNonce)
    (hkeeps : revm.KeepsNonce goldenTouch) (hcreator : revm.BumpsCreator goldenTouch)
    {spec : TaikoChainSpec} {hashSlow : Header → B256}
    {calculateOmmersRoot : List Header → Option B256}
    {calculateTransactionRoot : List TransactionSigned → B256}
    {ethereum : RecoveredBlock → BlockExecutionResult → Except ConsensusError Unit}
    {db : Db} {block : RecoveredBlock} {e started : TaikoBlockExecutor} {fin : Finished}
    (haccepted : Accepted revm checks spec hashSlow calculateOmmersRoot calculateTransactionRoot
      ethereum db block e fin)
    (hpre : e.applyPreExecutionChanges revm checks = .ok (.ok (), started)) :
    let ledger := started.feeLedger revm checks block.transactionsRecovered
    ∃ pctg, e.baseFeeSharePctg = .ok pctg ∧
      ledger.length = block.block.body.transactions.length ∧
      ((ledger.map Charge.credited).sum ≤ (ledger.map Charge.deducted).sum ↔
        ∀ c ∈ ledger, if c.exempt
          then c.env.gasPrice ≤ c.env.block.basefee.toNat ∨ c.gas.paid = 0
          else baseFeeIncome c.env c.gas * (pctg.toNat - 100) < 100) ∧
      (pctg.toNat ≤ 100 →
        (ledger.map Charge.credited).sum ≤ (ledger.map Charge.deducted).sum) := by
  intro ledger
  obtain ⟨hfresh, hspec, hchecked, hbase⟩ := executorForBlock_eq_ok haccepted.executor
  obtain ⟨pctg, nonce, hpctg, hguarded, hstart⟩ :=
    applyPreExecutionChanges_guarded hfresh hchecked hpre
  obtain ⟨started', ended, hpre', htransactions, -⟩ := executeBlock_eq_ok.mp haccepted.executed
  obtain rfl : started' = started := by
    rw [hpre] at hpre'
    cases hpre'
    rfl
  have hrun := executeTransactions_eq_ok.mp htransactions
  obtain ⟨hlength, hbooks, -, -⟩ := feeLedger_books hcap hgas hrun hguarded.anchored
  have hiff : (ledger.map Charge.credited).sum ≤ (ledger.map Charge.deducted).sum ↔
      ∀ c ∈ ledger, if c.exempt
        then c.env.gasPrice ≤ c.env.block.basefee.toNat ∨ c.gas.paid = 0
        else baseFeeIncome c.env c.gas * (pctg.toNat - 100) < 100 := by
    rw [Charge.credited_le_deducted_iff hbooks]
    exact forall₂_congr fun c _ => Charge.minted_eq_zero_iff
  refine ⟨pctg, hpctg, by rw [hlength, block.length_transactionsRecovered], hiff,
    fun hle => hiff.mpr fun c hc => ?_⟩
  split
  -- the exempt charge is the anchor's, whose tip the check of the block fixes
  · next hexempt =>
    obtain ⟨-, -, hresult⟩ := bind_eq_ok.mp haccepted.result
    obtain ⟨-, -, hvalid⟩ := bind_eq_ok.mp hresult
    have hblock := (applyPreExecutionChanges_gasUsed hfresh.tended.1 hpre).2
    rw [show block.block.header.baseFeePerGas = some started'.evm.block.basefee by
      rw [hblock]; exact hbase, ← block.map_tx_transactionsRecovered] at hvalid
    exact .inl (feeLedger_exempt hcap hgas hchecks hlast hkeeps hcreator hrun hguarded
      hstart haccepted.recovered hvalid c hc hexempt)
  · rw [Nat.sub_eq_zero_of_le hle]
    norm_num

/-! ### An anchor and a transfer at a share -/

/-- A block of an anchor and a transfer, whose extra data starts with a percentage. -/
def sharingBlock : RecoveredBlock where
  block :=
    { header :=
        { parentHash := 0
          ommersHash := emptyOmmerRootHash
          beneficiary := transferBlock.beneficiary
          transactionsRoot := 0
          receiptsRoot := 0
          difficulty := 486000
          number := transferBlock.number
          gasLimit := transferBlock.gasLimit
          gasUsed := 1021000
          timestamp := transferBlock.timestamp
          extraData := [pctg, 0, 0, 0, 0, 0, 0]
          nonce := some 0
          baseFeePerGas := some transferBlock.basefee
          parentBeaconBlockRoot := some 0
          blockAccessListHash := none
          slotNumber := none }
      body :=
        { transactions := [transferAnchor.tx, (transferTx 0xa1 0).tx]
          ommers := []
          withdrawals := some [] } }
  senders := [goldenTouch, 0xa1]
  length_eq := rfl

/-- The executor of the block. -/
def sharingExecutor : TaikoBlockExecutor :=
  new (.createEvm transferDb
      (evmEnvAt transferSpec 1 0xc0 1 486000 0 30000000 7).cfgEnv
      (evmEnvAt transferSpec 1 0xc0 1 486000 0 30000000 7).blockEnv)
    ⟨0, some 0, [pctg, 0, 0, 0, 0, 0, 0], true, some 486000, 0⟩ transferSpec

/-- The executor before the first transaction of the block. -/
def sharingStarted : TaikoBlockExecutor :=
  leftBy (sharingExecutor pctg) ((sharingExecutor pctg).applyPreExecutionChanges transferRevm .on)

/-- The fees of the block. -/
def sharingLedger : List Charge :=
  (sharingStarted pctg).feeLedger transferRevm .on (sharingBlock pctg).transactionsRecovered

/-- The gas a block uses is that of its header. -/
def checkGasUsed (block : RecoveredBlock) (result : BlockExecutionResult) :
    Except ConsensusError Unit :=
  ensure (result.gasUsed = block.block.header.gasUsed)
    (.blockGasUsed result.gasUsed block.block.header.gasUsed)

/-- The result of a block, where it has one. -/
def resultOf : Except Panic (Except BlockExecutionError Finished) → Option BlockExecutionResult
  | .ok (.ok fin) => some fin.result
  | _ => none

lemma resultOf_eq_some {answer : Except Panic (Except BlockExecutionError Finished)}
    {result : BlockExecutionResult} (h : resultOf answer = some result) :
    ∃ fin, answer = .ok (.ok fin) ∧ fin.result = result := by
  match answer, h with
  | .ok (.ok fin), h => exact ⟨fin, rfl, Option.some.inj h⟩

/-- The result of the block, whatever the share. -/
def sharingResult : BlockExecutionResult :=
  ⟨[⟨.eip1559, true, 1000000, []⟩, ⟨.legacy, true, 1021000, []⟩], 1021000⟩

/-- The block was accepted, with the gas used as the one check of Ethereum's. -/
def SharingAccepted : Prop :=
  ∃ fin, Accepted transferRevm .on transferSpec (fun _ => 0) (fun _ => some emptyOmmerRootHash)
    (fun _ => 0) checkGasUsed transferDb (sharingBlock pctg) (sharingExecutor pctg) fin

lemma sharingBlock_accepted (h : resultOf ((sharingExecutor pctg).executeBlock
      transferRevm .on (sharingBlock pctg).transactionsRecovered) = some sharingResult) :
    SharingAccepted pctg := by
  obtain ⟨fin, hexecuted, hfin⟩ := resultOf_eq_some h
  have hpost : validateBlockPostExecution checkGasUsed (sharingBlock pctg) transferSpec
      sharingResult = .ok () := by
    have hgas : checkGasUsed (sharingBlock pctg) sharingResult = .ok () := rfl
    have hreceipts : validateZkGasPostExecution (sharingBlock pctg) transferSpec
        sharingResult.receipts = .ok () := (validateZkGasPostExecution_eq_ok rfl).mpr rfl
    have hanchor : validateAnchorTransactionInBlock 1 1 (some 7)
        [transferAnchor.tx, (transferTx 0xa1 0).tx] transferSpec = .ok () := rfl
    exact bind_eq_ok.mpr ⟨(), hgas, bind_eq_ok.mpr ⟨(), hreceipts, hanchor⟩⟩
  refine ⟨fin, rfl, rfl, rfl, hexecuted, hfin ▸ hpost, ?_⟩
  simp [sharingBlock, RecoveredBlock.transactionsRecovered, transferAnchor, goldenTouchTx,
    transferTx]

/-- At a share of a quarter the block credits no more than it deducts. -/
theorem accepted_fees_quarter :
    SharingAccepted 25 ∧ ((sharingLedger 25).map Charge.credited).sum
      ≤ ((sharingLedger 25).map Charge.deducted).sum := by
  obtain ⟨fin, haccepted⟩ := sharingBlock_accepted 25 (by decide +kernel)
  have hpre : (sharingExecutor 25).applyPreExecutionChanges transferRevm .on
      = .ok (.ok (), sharingStarted 25) := rfl
  obtain ⟨pctg, hpctg, -, -, hle⟩ := accepted_fees_iff transferRevm_checksFeeCap
    transferRevm_settlesGas transferRevm_checksNonce transferRevm_rejectsLastNonce
    (transferRevm_keepsNonce goldenTouch) (transferRevm_bumpsCreator goldenTouch) haccepted hpre
  cases hpctg
  exact ⟨⟨fin, haccepted⟩, hle (by decide)⟩

/-- A first byte of 255 is accepted as well, and the coinbase gets more than two and a half
times the base fee income of the transfer. -/
theorem accepted_block_mints :
    transferRevm.ChecksFeeCap ∧ transferRevm.SettlesGas ∧ transferRevm.ChecksNonce ∧
    transferRevm.RejectsLastNonce ∧ transferRevm.KeepsNonce goldenTouch ∧
    transferRevm.BumpsCreator goldenTouch ∧
    SharingAccepted 255 ∧
    (sharingExecutor 255).applyPreExecutionChanges transferRevm .on
      = .ok (.ok (), sharingStarted 255) ∧
    ((sharingLedger 255).map Charge.deducted).sum = 210000 ∧
    ((sharingLedger 255).map Charge.credited).sum = 437850 :=
  ⟨transferRevm_checksFeeCap, transferRevm_settlesGas, transferRevm_checksNonce,
    transferRevm_rejectsLastNonce, transferRevm_keepsNonce _, transferRevm_bumpsCreator _,
    sharingBlock_accepted 255 (by decide +kernel), rfl, by decide +kernel, by decide +kernel⟩

end TaikoBlockExecutor

end AlethiaReth
