import AlethiaReth.Block.FeeLedger
import AlethiaReth.Payload.Builder

/-!
The fees a payload reports, against the tips its transactions were settled with: they are the sum of
those tips, and no tip is ever missing (`payload_fees`).
-/

namespace AlethiaReth

open MachineInt Outcome Filtering TxSelection
open TaikoBlockExecutor (Commits Discards OwnsEvm Ready transferExecutor)

/-! ### The two tips -/

variable {baseFee : U64} {etx : ExecutedTx}

/-- The tip of the signed transaction is the effective price above the base fee. -/
lemma Recovered.effectiveTip_eq {tx : Recovered} {tip : U128}
    (h : tx.tx.effectiveTipPerGas baseFee = some tip) :
    (tx.toTxEnv.effectiveGasPrice (baseFee.setWidth 128)).toNat - baseFee.toNat = tip.toNat := by
  have hbase : (baseFee.setWidth 128).toNat = baseFee.toNat :=
    BitVec.toNat_setWidth_of_le (by omega)
  rw [← hbase]
  have hprice : tx.toTxEnv.gasPrice = tx.tx.maxFeePerGas := rfl
  have hpriority : tx.toTxEnv.gasPriorityFee = tx.tx.maxPriorityFeePerGas := rfl
  rw [TransactionSigned.effectiveTipPerGas] at h
  dsimp only at h
  split at h
  · cases h
  · next hcap =>
    have hcap := BitVec.not_lt.mp hcap
    have hfee : (tx.tx.maxFeePerGas - baseFee.setWidth 128).toNat =
        tx.tx.maxFeePerGas.toNat - (baseFee.setWidth 128).toNat :=
      BitVec.toNat_sub_of_le hcap
    split at h
    · next hnone =>
      obtain rfl := Option.some.inj h
      rw [hnone] at hpriority
      rw [TxEnv.effectiveGasPrice, hpriority, hfee]
      split <;> first | rfl | contradiction
    · next priorityFee hsome =>
      have htype := TransactionSigned.txType_of_priorityFee hsome
      rw [hsome] at hpriority
      rw [tx.toTxEnv.effectiveGasPrice_of_priorityFee htype hpriority, hprice,
        ← Option.some.inj h]
      split
      · next hle =>
        have hle := BitVec.le_def.mp hle
        omega
      · next hlt =>
        have hlt := BitVec.lt_def.mp (BitVec.not_le.mp hlt)
        omega

/-! ### Rewards -/

/-- The gas a transaction is reported to have used is what it spent, less its refund. -/
def Revm.ReportsGasUsed (revm : Revm) : Prop :=
  ∀ checks inspect env extra homes outcome homes'
    (ran : Ran revm checks inspect env extra homes outcome homes'),
    outcome.1.txGasUsed.toNat = ran.gas.paid

lemma transferRevm_reportsGasUsed : transferRevm.ReportsGasUsed := by
  intro checks inspect env extra homes outcome homes' ran
  have hgas : ran.gas = wholeGas env.tx.gasLimit := (transferRevm_exec ran.exec_eq).2
  rw [hgas, ran.outcome_eq]
  simp [Gas.paid, wholeGas, transferRevm]

section Rewards

variable (revm : Revm) (checks : OverflowChecks)

/-- A committed transaction, with the tip that the reward of its settlement credited to the
beneficiary before the shares of the base fee. -/
def Rewards (e : TaikoBlockExecutor) (item : Recovered × ℕ) (e' : TaikoBlockExecutor) : Prop :=
  Commits revm checks e item.1 e' ∧
    ∃ homes' outcome, ∃ ran : Ran revm checks e.evm.inspect (e.env item.1)
        e.evm.extraExecutionCtx e.startMeters outcome homes',
      ∃ journal tip, e'.evm.db = e.evm.db.commit ran.journal.state ∧
        rewardBeneficiary checks (e.env item.1) journal ran.gas e.evm.extraExecutionCtx =
          .ok (.ok ran.journal) ∧
        coinbaseTip checks (e.env item.1) ran.gas = .ok tip ∧ tip.toNat = item.2 ∧
        journal.Credited e.evm.db ((e.evm.block.beneficiary, item.2) ::
          shareCredits (e.env item.1) ran.gas e.evm.extraExecutionCtx) ran.journal

variable {revm checks} {e e' : TaikoBlockExecutor}

/-- A committed transaction has a tip, and its reward is the tip for the gas it used, which is
within its limit. -/
theorem executeTransaction_rewards (hcap : revm.ChecksFeeCap) (hused : revm.ReportsGasUsed)
    (hsettles : revm.SettlesGas) (ho : OwnsEvm e) {tx : Recovered} {gasUsed : U64}
    (hrun : e.executeTransaction revm checks tx = .ok (.ok gasUsed, e')) :
    gasUsed.toNat ≤ tx.tx.gasLimit.toNat ∧
      ∃ tip, tx.tx.effectiveTipPerGas e.evm.block.basefee = some tip ∧
        Rewards revm checks e (tx, tip.toNat * gasUsed.toNat) e' := by
  obtain ⟨homes', outcome, ⟨ran⟩, hgasUsed, hevm⟩ :=
    TaikoBlockExecutor.executeTransaction_transacted ho hrun
  have hcommits : Commits revm checks e tx e' := ⟨gasUsed, hrun⟩
  have hpaid : gasUsed.toNat = ran.gas.paid := by
    rw [hgasUsed]
    exact hused _ _ _ _ _ _ _ ran
  have hsettled := hsettles _ _ _ _ _ _ _ ran
  obtain ⟨tip, htip⟩ := Option.isSome_iff_exists.mp
    (TransactionSigned.effectiveTipPerGas_isSome (hcommits.feeCap ho hcap))
  refine ⟨hpaid.trans_le hsettled.paid_le, tip, htip, hcommits, homes', outcome, ran, ?_⟩
  obtain ⟨answer, -, hreward⟩ := bind_eq_ok.mp ran.post_eq
  cases answer with
  | error error => cases hreward
  | ok journal =>
    obtain ⟨credited, hcredited, hjournal⟩ := rewardBeneficiary_credited hreward
    obtain ⟨exact, hexact, hamount⟩ := coinbaseTip_eq_ok checks hsettled ran.fits
    obtain rfl := Except.ok.inj (hcredited.symm.trans hexact)
    have htipAmount : credited.toNat = tip.toNat * gasUsed.toNat := by
      rw [hamount, hpaid, ← Recovered.effectiveTip_eq htip]
      rfl
    refine ⟨journal, credited, ?_, hreward, hcredited, htipAmount, ?_⟩
    · have hstate : outcome.2 = ran.journal.state := congrArg Prod.snd ran.outcome_eq
      rw [hevm, ← hstate]
    · rw [← htipAmount]
      exact hjournal

/-- The fees of a run of committed transactions are the sum of their tips, without overflow:
the gas they used is within that of the block. -/
theorem sumTips_of_executes (hcap : revm.ChecksFeeCap) (hused : revm.ReportsGasUsed)
    (hsettles : revm.SettlesGas) {etxs : List ExecutedTx}
    (h : Filtered (Executes revm checks) (Discards revm checks) e etxs e') (hready : Ready e)
    {total : U256} (htotal : total.toNat ≤ 2 ^ 128 * e.gasUsed.toNat) :
    ∃ items fees, Filtered (Rewards revm checks) (Discards revm checks) e items e' ∧
      items.map (·.1) = etxs.map (·.tx) ∧
      sumTips e.evm.block.basefee total etxs = .ok fees ∧
      fees.toNat = total.toNat + (items.map (·.2)).sum := by
  induction h generalizing total with
  | nil e => exact ⟨[], total, .nil e, rfl, rfl, rfl⟩
  | @discard e e₁ e' etxs hdiscard _ ih =>
    have hkept := hdiscard.kept hready.tended.owns
    have hsame : e₁.gasUsed = e.gasUsed ∧ e₁.evm.block = e.evm.block := by
      rw [hkept.same]
      exact ⟨rfl, rfl⟩
    rw [← hsame.1] at htotal
    obtain ⟨items, fees, hrun, hitems, hfees, hsum⟩ := ih (hkept.ready hready) htotal
    rw [hsame.2] at hfees
    exact ⟨items, fees, .discard hdiscard hrun, hitems, hfees, hsum⟩
  | @commit e e₁ e' etx etxs hexecutes _ ih =>
    obtain ⟨hle, tip, htip, hrewards⟩ :=
      executeTransaction_rewards hcap hused hsettles hready.tended.owns hexecutes
    obtain ⟨hready', hblock, hgas⟩ :=
      TaikoBlockExecutor.executeTransaction_gas_of_le hready hexecutes hle
    -- the tip is below the price range for every unit of gas
    have hmul : tip.toNat * etx.gasUsed.toNat ≤ 2 ^ 128 * etx.gasUsed.toNat :=
      Nat.mul_le_mul_right _ tip.isLt.le
    have hgasUsed := e₁.gasUsed.isLt
    have hprod : (tip.setWidth 256 * etx.gasUsed.setWidth 256).toNat =
        tip.toNat * etx.gasUsed.toNat := by
      have htipWide : (tip.setWidth 256).toNat = tip.toNat :=
        BitVec.toNat_setWidth_of_le (by omega)
      have hgasWide : (etx.gasUsed.setWidth 256).toNat = etx.gasUsed.toNat :=
        BitVec.toNat_setWidth_of_le (by omega)
      rw [BitVec.toNat_mul_of_lt, htipWide, hgasWide]
      rw [htipWide, hgasWide]
      omega
    have hadd : (total + tip.setWidth 256 * etx.gasUsed.setWidth 256).toNat =
        total.toNat + tip.toNat * etx.gasUsed.toNat := by
      rw [BitVec.toNat_add_of_lt, hprod]
      rw [hprod]
      omega
    have htotal' : (total + tip.setWidth 256 * etx.gasUsed.setWidth 256).toNat ≤
        2 ^ 128 * e₁.gasUsed.toNat := by omega
    obtain ⟨items, fees, hrun, hitems, hfees, hsum⟩ := ih hready' htotal'
    refine ⟨(etx.tx, tip.toNat * etx.gasUsed.toNat) :: items, fees, .commit hrewards hrun, ?_,
      ?_, ?_⟩
    · rw [List.map_cons, List.map_cons, hitems]
    · rw [sumTips_cons_of_some htip, ← hblock]
      exact hfees
    · rw [hsum, hadd, List.map_cons, List.sum_cons, Nat.add_assoc]

end Rewards

/-! ### The fees of a payload -/

section Payload

variable {Digest : Type} {revm : Revm} {checks : OverflowChecks} {codec : Codec}
  {spec : TaikoChainSpec} {parent : SealedHeader} {job : TaikoPayloadBuilderAttributes Digest}
  {pool : Pool} {zkOverflows : ZkOverflowMemory} {isCancelled : ℕ → Bool} {b : BlockBuilder}

variable (checks spec parent job) in
/-- The transactions of a filled block: those of a given list are of allowed types, and those of
the pool come after the anchor of the job, which is valid there. -/
def Composed (baseFee : U64) (txs : List Recovered) : Prop :=
  (job.transactions ≠ none ∧ ∀ tx ∈ txs, AllowedType tx) ∨
    job.transactions = none ∧ ∃ number anchorTx rest,
      plainAdd checks parent.header.number 1 = .ok number ∧
      job.anchorTransaction = some anchorTx ∧
      validateAnchorTransaction anchorTx.tx spec ⟨job.timestamp, number, baseFee⟩ = .ok () ∧
      txs = anchorTx :: rest ∧ ∀ tx ∈ rest, AllowedType tx

/-- Filling a block records transactions, sums their tips and composes them. -/
lemma fillPayload_recorded {b' : BlockBuilder}
    {answer : Except PayloadBuilderError ExecutionOutcome}
    (h : fillPayload revm checks codec spec parent job pool zkOverflows isCancelled b =
      .ok (answer, b')) :
    ∃ etxs, Recorded revm checks b etxs b' ∧
      SumsTips b.executor.evm.block.basefee 0 etxs answer ∧
      ∀ outcome, answer = .ok outcome →
        Composed checks spec parent job b.executor.evm.block.basefee (etxs.map (·.tx)) := by
  rw [fillPayload] at h
  split at h
  · next hgiven =>
    split at h
    · cases h
    · next hrun =>
      cases h
      obtain ⟨etxs, hrecorded, hallowed, hsums⟩ := executeProvided_recorded hrun
      exact ⟨etxs, hrecorded, hsums, fun _ _ =>
        .inl ⟨by simp [hgiven], List.forall_mem_map.mpr hallowed⟩⟩
  · next hnone =>
    split at h
    · cases h
      exact ⟨[], .refl _, .of_error (by rintro _ ⟨⟩), by rintro _ ⟨⟩⟩
    · next anchorTx hsome =>
      obtain ⟨etxs, hrecorded, hsums, hpool⟩ := executeAnchorAndPool_recorded h
      refine ⟨etxs, hrecorded, hsums, fun outcome hok => ?_⟩
      obtain ⟨number, txs, hnumber, hvalid, htxs, hallowed⟩ := hpool outcome hok
      exact .inr ⟨hnone, number, anchorTx, txs, hnumber, hsome, hvalid, htxs, hallowed⟩

/-- The error of a missing tip is told apart from the one of an active fork by its text. -/
lemma ensureAmsterdamInactive_ne_missingTip {timestamp baseFee : U64} :
    ensureAmsterdamInactive spec timestamp ≠ .error (missingTipError baseFee) := by
  intro h
  rw [ensureAmsterdamInactive] at h
  split at h
  · have hmessage := PayloadBuilderError.internal.inj (Except.error.inj h)
    have hhead := congrArg (fun message : String => message.toList.head?) hmessage
    simp at hhead
  · cases h

/-- A build that answers stopped before its first transaction, or answers what filling its block
did. -/
lemma taikoPayload_eq_ok {db : Db}
    {answer : Except PayloadBuilderError (ExecutionOutcome × BlockBuilder)}
    (h : taikoPayload revm checks codec spec db parent job pool zkOverflows isCancelled =
      .ok answer) :
    (∃ error, ensureAmsterdamInactive spec job.timestamp = .error error ∧
      answer = .error error) ∨
    (∃ error, answer = .error (.otherExecution error)) ∨
    ∃ b₀ e filled b, builderForNextBlock spec checks db parent job.nextBlockEnv = .ok b₀ ∧
      b₀.executor.applyPreExecutionChanges revm checks = .ok (.ok (), e) ∧
      fillPayload revm checks codec spec parent job pool zkOverflows isCancelled
        { b₀ with executor := e } = .ok (filled, b) ∧
      answer = filled.map fun outcome => (outcome, b) := by
  rw [taikoPayload] at h
  split at h
  · next error hamsterdam =>
    exact .inl ⟨error, hamsterdam, (Except.ok.inj h).symm⟩
  · obtain ⟨b₀, hb₀, h⟩ := bind_eq_ok.mp h
    obtain ⟨⟨started, e⟩, hpre, h⟩ := bind_eq_ok.mp h
    cases started with
    | error error => exact .inr (.inl ⟨error, (Except.ok.inj h).symm⟩)
    | ok u =>
      obtain ⟨⟨filled, b⟩, hfill, h⟩ := bind_eq_ok.mp h
      exact .inr (.inr ⟨b₀, e, filled, b, hb₀, hpre, hfill, (Except.ok.inj h).symm⟩)

/-- What filling a started block records has its rewards, and their sum is the sum of the tips. -/
lemma fillPayload_rewards (hcap : revm.ChecksFeeCap) (hused : revm.ReportsGasUsed)
    (hsettles : revm.SettlesGas) {db : Db} {b₀ : BlockBuilder} {e : TaikoBlockExecutor}
    {filled : Except PayloadBuilderError ExecutionOutcome}
    (hb₀ : builderForNextBlock spec checks db parent job.nextBlockEnv = .ok b₀)
    (hpre : b₀.executor.applyPreExecutionChanges revm checks = .ok (.ok (), e))
    (hfill : fillPayload revm checks codec spec parent job pool zkOverflows isCancelled
      { b₀ with executor := e } = .ok (filled, b)) :
    ∃ items total, Filtered (Rewards revm checks) (Discards revm checks) e items b.executor ∧
      items.map (·.1) = b.transactions ∧ total.toNat = (items.map (·.2)).sum ∧
      (∀ fees, filled = .ok (.completed fees) → fees = total) ∧
      ∀ message, filled ≠ .error (.internal message) := by
  obtain ⟨hfresh, hempty, -⟩ := builderForNextBlock_fresh hb₀
  have hready : Ready e := by
    refine ⟨(TaikoBlockExecutor.applyPreExecutionChanges_tended hfresh.tended.1 hpre).1, ?_⟩
    rw [(TaikoBlockExecutor.applyPreExecutionChanges_gasUsed hfresh.tended.1 hpre).1,
      hfresh.gasUsed]
    exact Nat.zero_le _
  obtain ⟨etxs, hrecorded, hsums, -⟩ := fillPayload_recorded hfill
  have hzero : (0 : U256).toNat ≤ 2 ^ 128 * e.gasUsed.toNat := Nat.zero_le _
  obtain ⟨items, total, hrun, hitems, htotal, hsum⟩ :=
    sumTips_of_executes hcap hused hsettles hrecorded.run hready hzero
  refine ⟨items, total, hrun, ?_, ?_, fun fees hfees => ?_, fun message hmessage => ?_⟩
  · rw [hitems, hrecorded.transactions, hempty, List.nil_append]
  · rw [hsum]
    exact Nat.zero_add _
  · exact Except.ok.inj ((hsums.completed fees hfees).symm.trans htotal)
  · obtain ⟨error, herror⟩ := hsums.missing message hmessage
    cases herror.symm.trans htotal

/-- The transactions of a payload that completes were committed one after the other, on the
state its calls before the first transaction left, and the fees it reports are the sum of the
tips their settlements credited to the beneficiary.  No payload fails for a missing tip. -/
theorem payload_fees (hcap : revm.ChecksFeeCap) (hused : revm.ReportsGasUsed)
    (hsettles : revm.SettlesGas) (db : Db) :
    (∀ fees b, taikoPayload revm checks codec spec db parent job pool zkOverflows isCancelled =
        .ok (.ok (.completed fees, b)) →
      ∃ b₀ e items, builderForNextBlock spec checks db parent job.nextBlockEnv = .ok b₀ ∧
        b₀.executor.applyPreExecutionChanges revm checks = .ok (.ok (), e) ∧
        Filtered (Rewards revm checks) (Discards revm checks) e items b.executor ∧
        items.map (·.1) = b.transactions ∧ fees.toNat = (items.map (·.2)).sum) ∧
    ∀ baseFee, taikoPayload revm checks codec spec db parent job pool zkOverflows isCancelled ≠
      .ok (.error (missingTipError baseFee)) := by
  refine ⟨fun fees b h => ?_, fun baseFee h => ?_⟩
  · rcases taikoPayload_eq_ok h with ⟨_, _, heq⟩ | ⟨_, heq⟩ |
      ⟨b₀, e, filled, b', hb₀, hpre, hfill, hanswer⟩
    · cases heq
    · cases heq
    · obtain ⟨items, total, hrun, hitems, htotal, hfees, -⟩ :=
        fillPayload_rewards hcap hused hsettles hb₀ hpre hfill
      cases filled with
      | error error => cases hanswer
      | ok outcome =>
        cases hanswer
        refine ⟨b₀, e, items, hb₀, hpre, hrun, hitems, ?_⟩
        rw [hfees fees rfl]
        exact htotal
  · rcases taikoPayload_eq_ok h with ⟨error, hamsterdam, heq⟩ | ⟨_, heq⟩ |
      ⟨b₀, e, filled, b', hb₀, hpre, hfill, hanswer⟩
    · cases heq
      exact ensureAmsterdamInactive_ne_missingTip hamsterdam
    · cases heq
    · obtain ⟨-, -, -, -, -, -, hmissing⟩ :=
        fillPayload_rewards hcap hused hsettles hb₀ hpre hfill
      cases filled with
      | ok outcome => cases hanswer
      | error error =>
        cases hanswer
        exact hmissing _ rfl

/-- A job that fills a block from the pool, after an anchor. -/
def poolJob : TaikoPayloadBuilderAttributes Unit where
  id := ⟨0, ()⟩
  parent := 0
  suggestedFeeRecipient := 0
  prevRandao := 0
  withdrawals := []
  parentBeaconBlockRoot := none
  txListHash := 0
  beneficiary := 0xc0
  gasLimit := 30000000
  timestamp := 101
  mixHash := 0
  baseFeePerGas := 7
  transactions := none
  extraData := [0, 0, 0, 0, 0, 0, 0]
  anchorTransaction := some transferAnchor

/-- The job, on a pool with two transfers and a repetition. -/
def buildPoolJob : Except Panic (Except PayloadBuilderError (ExecutionOutcome × BlockBuilder)) :=
  taikoPayload transferRevm .on unitCodec transferSpec transferDb
    ⟨plainParent 30000000 15000000, 9⟩ poolJob
    (listPool [transferTx 0xa1 0, transferTx 0xa1 0, transferTx 0xa1 1]) (fun _ => none)
    fun _ => false

/-- The builder a build leaves. -/
def builderLeft (start : BlockBuilder) :
    Except Panic (Except PayloadBuilderError (ExecutionOutcome × BlockBuilder)) → BlockBuilder
  | .ok (.ok out) => out.2
  | _ => start

/-- The anchor has no tip, and each of the two transfers that commit one of 63000. -/
theorem payload_fees_pool :
    ∃ b e items, buildPoolJob = .ok (.ok (.completed 126000, b)) ∧
      Filtered (Rewards transferRevm .on) (Discards transferRevm .on) e items b.executor ∧
      items.map (·.1) = b.transactions ∧ 126000 = (items.map (·.2)).sum := by
  have hbuild : buildPoolJob = .ok (.ok (.completed 126000,
      builderLeft ⟨transferExecutor, []⟩ buildPoolJob)) := rfl
  obtain ⟨b₀, e, items, -, -, hrun, hitems, hsum⟩ := (payload_fees transferRevm_checksFeeCap
    transferRevm_reportsGasUsed transferRevm_settlesGas transferDb).1 _ _ hbuild
  exact ⟨_, e, items, hbuild, hrun, hitems, hsum⟩

end Payload

end AlethiaReth
