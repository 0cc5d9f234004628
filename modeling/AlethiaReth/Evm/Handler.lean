import AlethiaReth.Evm.Frames

/-!
The Taiko transaction handler: the anchor exemptions, the fee deduction, the
reimbursement and the reward with base-fee sharing, and the run of a transaction
through them.
-/

namespace AlethiaReth

open MachineInt

/-- The anchor caller of a block and the base-fee share of its coinbase. -/
structure TaikoEvmExtraExecutionCtx where
  baseFeeSharePctg : U64
  anchorCallerAddress : Address
  anchorCallerNonce : U64
  fromAnchorSystemCall : Bool
  deriving DecidableEq, Repr

namespace TaikoEvmExtraExecutionCtx

/-- The authoritative context of the anchor system call. -/
def new (baseFeeSharePctg : U64) (anchorCallerAddress : Address) (anchorCallerNonce : U64) :
    TaikoEvmExtraExecutionCtx :=
  ⟨baseFeeSharePctg, anchorCallerAddress, anchorCallerNonce, true⟩

/-- A context derived from database state, without a share percentage. -/
def derived (anchorCallerAddress : Address) (anchorCallerNonce : U64) :
    TaikoEvmExtraExecutionCtx :=
  ⟨0, anchorCallerAddress, anchorCallerNonce, false⟩

end TaikoEvmExtraExecutionCtx

/-! ### The anchor tests -/

/-- The test of the balance check and the deduction. -/
def deductionExempt (extra : Option TaikoEvmExtraExecutionCtx) (tx : TxEnv) (cfg : CfgEnv) :
    Bool :=
  extra.any fun ctx =>
    ctx.anchorCallerAddress = tx.caller ∧ ctx.anchorCallerNonce = tx.nonce ∧
      tx.kind.toAddress = some (getTreasuryAddress cfg.chainId)

/-- The test of the reimbursement. -/
def reimbursementExempt (extra : Option TaikoEvmExtraExecutionCtx) (tx : TxEnv) (cfg : CfgEnv) :
    Bool :=
  match extra with
  | none => false
  | some ctx =>
    ctx.anchorCallerAddress = tx.caller ∧ ctx.anchorCallerNonce = tx.nonce ∧
      tx.kind.toAddress = some (getTreasuryAddress cfg.chainId)

/-- The test of the base-fee sharing, which the source writes negated. -/
def sharingExempt (ctx : TaikoEvmExtraExecutionCtx) (tx : TxEnv) (cfg : CfgEnv) : Bool :=
  !(ctx.anchorCallerAddress ≠ tx.caller ∨ ctx.anchorCallerNonce ≠ tx.nonce ∨
    tx.kind.toAddress ≠ some (getTreasuryAddress cfg.chainId))

/-! ### Deduction -/

variable (revm : Revm)

/-- The account after its nonce went up by one, as far as nonces go. -/
def Account.bumpNonce (account : Account) : Account :=
  { account with
    info := { account.info with
      nonce := (checkedAdd account.info.nonce 1).getD account.info.nonce }
    touched := true }

/-- Sets the balance. -/
def Account.setBalance (account : Account) (balance : U256) : Account :=
  { account with info := { account.info with balance := balance }, touched := true }

/-- What the caller pays up front, and the balance it leaves. -/
def deductedBalance (env : Env) (isAnchor : Bool) (balance : U256) :
    Except InvalidTransaction U256 := do
  let maxBalanceSpending ← if isAnchor then pure 0 else env.tx.maxBalanceSpending
  if maxBalanceSpending > balance ∧ !env.cfg.disableBalanceCheck then
    throw (.lackOfFundForMaxFee maxBalanceSpending balance)
  let effectiveBalanceSpending ← env.tx.effectiveBalanceSpending
    (env.block.basefee.setWidth 128) (env.block.blobGasprice.getD 0)
  let gasBalanceSpending :=
    if isAnchor then 0 else effectiveBalanceSpending - env.tx.value
  let newBalance := saturatingSub balance gasBalanceSpending
  if env.cfg.disableBalanceCheck then
    pure (if newBalance ≤ env.tx.value then env.tx.value else newBalance)
  else
    pure newBalance

/-- Checks the caller, bumps the nonce of a call, and takes the fee up front. -/
def validateAgainstStateAndDeductCaller (env : Env) (ctx : Context revm.Scratch)
    (extra : Option TaikoEvmExtraExecutionCtx) : Except EVMError (Context revm.Scratch) :=
  match ctx.journal.loadAccount env.db env.tx.caller with
  | .error e => .error (.database e)
  | .ok (account, journal) =>
    match revm.validateAccountNonceAndCode account.info env.tx env.cfg with
    | .error e => .error (.transaction e)
    | .ok () =>
      -- the nonce of a creation is bumped with its frame
      let account := if env.tx.kind.isCall then account.bumpNonce else account
      match deductedBalance env (deductionExempt extra env.tx env.cfg)
          account.info.balance with
      | .error e => .error (.transaction e)
      | .ok balance =>
        .ok { ctx with
          journal := journal.setAccount env.tx.caller (account.setBalance balance) }

/-! ### Reimbursement and reward -/

variable {X : Type}

/-- What the caller gets back for gas it did not use. -/
def reimbursement (checks : OverflowChecks) (env : Env) (gas : Gas) (additionalRefund : U256) :
    Except Panic U256 := do
  let effectiveGasPrice := env.tx.effectiveGasPrice (env.block.basefee.setWidth 128)
  let returned ← plainAdd checks gas.remaining gas.refunded
  pure ((saturatingMul effectiveGasPrice (returned.setWidth 128)).setWidth 256
    + additionalRefund)

/-- Gives unused gas back. -/
def reimburseCaller (checks : OverflowChecks) (env : Env) (journal : Journal X) (gas : Gas)
    (additionalRefund : U256) (extra : Option TaikoEvmExtraExecutionCtx) :
    Except Panic (Except DbError (Journal X)) :=
  if reimbursementExempt extra env.tx env.cfg then
    .ok (.ok journal)
  else do
    let amount ← reimbursement checks env gas additionalRefund
    pure (journal.balanceIncr env.db env.tx.caller amount)

/-- The gas a transaction pays for. -/
def spentMinusRefund (gas : Gas) : U64 := saturatingSub gas.totalGasSpent gas.refunded

/-- The tip above the base fee. -/
def coinbaseTip (checks : OverflowChecks) (env : Env) (gas : Gas) : Except Panic U256 := do
  let basefee : U128 := env.block.basefee.setWidth 128
  let coinbaseGasPrice := saturatingSub (env.tx.effectiveGasPrice basefee) basefee
  let tip ← plainMul checks coinbaseGasPrice ((spentMinusRefund gas).setWidth 128)
  pure (tip.setWidth 256)

/-- The base fee income of a transaction. -/
def totalBaseFee (env : Env) (gas : Gas) : U256 :=
  let basefee : U128 := env.block.basefee.setWidth 128
  (saturatingMul basefee ((spentMinusRefund gas).setWidth 128)).setWidth 256

/-- The coinbase's share of the base fee income. -/
def feeCoinbase (totalFee : U256) (pctg : U64) : U256 :=
  saturatingMul totalFee (pctg.setWidth 256) / 100

/-- What the share leaves to the treasury. -/
def feeTreasury (totalFee : U256) (pctg : U64) : U256 :=
  saturatingSub totalFee (feeCoinbase totalFee pctg)

/-- Shares the base fee income of a transaction between coinbase and treasury. -/
def shareBaseFee (env : Env) (journal : Journal X) (gas : Gas)
    (ctx : TaikoEvmExtraExecutionCtx) : Except DbError (Journal X) := do
  let totalFee := totalBaseFee env gas
  let journal ← journal.balanceIncr env.db env.block.beneficiary
    (feeCoinbase totalFee ctx.baseFeeSharePctg)
  journal.balanceIncr env.db (getTreasuryAddress env.cfg.chainId)
    (feeTreasury totalFee ctx.baseFeeSharePctg)

/-- Credits the tip, and the shares of the base fee. -/
def rewardBeneficiary (checks : OverflowChecks) (env : Env) (journal : Journal X) (gas : Gas)
    (extra : Option TaikoEvmExtraExecutionCtx) :
    Except Panic (Except DbError (Journal X)) := do
  let tip ← coinbaseTip checks env gas
  pure do
    let journal ← journal.balanceIncr env.db env.block.beneficiary tip
    match extra with
    | none => pure journal
    | some ctx =>
      if sharingExempt ctx env.tx env.cfg then pure journal
      else if ctx.fromAnchorSystemCall then shareBaseFee env journal gas ctx
      else pure journal

/-! ### The run of a transaction -/

/-- Where the meters of an EVM live between transactions. -/
structure MeterHomes where
  zkGasMeter : Option ZkGasMeter
  inspector : Option ZkGasMeteringState

/-- What a transaction has when its first frame opens. -/
structure Prepared where
  initialGas : revm.InitialGas
  refund : U64
  input : FrameInput revm.Input
  ctx : Context revm.Scratch

/-- Validation, deduction, account loading and authorizations. -/
def prepare (env : Env) (extra : Option TaikoEvmExtraExecutionCtx) :
    Except EVMError (Prepared revm) := do
  let initialGas ← revm.validate env
  let ctx : Context revm.Scratch := ⟨.new revm.scratch, .ok ()⟩
  let ctx ← validateAgainstStateAndDeductCaller revm env ctx extra
  let ctx ← revm.loadAccounts env ctx
  let (refund, ctx) ← revm.applyEip7702AuthList env ctx
  let (input, ctx) ← revm.firstFrameInput env ctx initialGas
  pure ⟨initialGas, refund, input, ctx⟩

/-- The fee settlement after the last frame. -/
def postExecution (checks : OverflowChecks) (env : Env) (journal : Journal X) (gas : Gas)
    (extra : Option TaikoEvmExtraExecutionCtx) :
    Except Panic (Except DbError (Journal X)) := do
  match ← reimburseCaller checks env journal gas 0 extra with
  | .error e => pure (.error e)
  | .ok journal => rewardBeneficiary checks env journal gas extra

/-- The outcome of a transaction whose frames are done. -/
def settle (checks : OverflowChecks) (env : Env) (extra : Option TaikoEvmExtraExecutionCtx)
    (prepared : Prepared revm) (ctx : Context revm.Scratch) (result : FrameResult revm.Output) :
    Except Panic (Except EVMError (ExecutionResult × EvmState)) := do
  let result := revm.settleGas env prepared.initialGas prepared.refund result
  match ← postExecution checks env ctx.journal result.gas extra with
  | .error e => pure (.error (.database e))
  | .ok journal =>
    match ctx.error with
    | .error e => pure (.error e.toEVMError)
    | .ok () =>
      let ctx := { ctx with journal := journal }
      pure (.ok (revm.executionResult env ctx result, journal.state))

/-- Runs a transaction: its result with the changeset, or its error, and the meters
as the run left them. -/
def handlerRun (checks : OverflowChecks) (inspect : Bool) (env : Env)
    (extra : Option TaikoEvmExtraExecutionCtx) (meters : MeterHomes) :
    Except Panic (Except EVMError (ExecutionResult × EvmState) × MeterHomes) :=
  match prepare revm env extra with
  | .error e => .ok (.error e, meters)
  | .ok prepared => do
    let (phase, evm) ← exec inspect env revm.fuel (.init prepared.input,
      ⟨prepared.ctx, [], meters.zkGasMeter, meters.inspector⟩)
    let meters : MeterHomes := ⟨evm.zkGasMeter, evm.inspector⟩
    match phase with
    | .done (.error e) => pure (.error e.toEVMError, meters)
    | .done (.ok result) =>
      let outcome ← settle revm checks env extra prepared evm.ctx result
      pure (outcome, meters)
    | .init _ | .run | .result _ => pure (.error .outOfFuel, meters)

/-! ### What a successful run went through -/

/-- The stages of a run that returned a result: what its first frame opened with,
where its frames ended, and the journal the fees were settled in. -/
structure Ran (checks : OverflowChecks) (inspect : Bool) (env : Env)
    (extra : Option TaikoEvmExtraExecutionCtx) (homes : MeterHomes)
    (outcome : ExecutionResult × EvmState) (homes' : MeterHomes) where
  prepared : Prepared revm
  evm : TaikoEvm revm
  result : FrameResult revm.Output
  journal : Journal revm.Scratch
  prepare_eq : prepare revm env extra = .ok prepared
  exec_eq : exec inspect env revm.fuel (.init prepared.input,
    ⟨prepared.ctx, [], homes.zkGasMeter, homes.inspector⟩) = .ok (.done (.ok result), evm)
  post_eq : postExecution checks env evm.ctx.journal
    (revm.settleGas env prepared.initialGas prepared.refund result).gas extra
      = .ok (.ok journal)
  error_eq : evm.ctx.error = .ok ()
  outcome_eq : outcome = (revm.executionResult env { evm.ctx with journal := journal }
    (revm.settleGas env prepared.initialGas prepared.refund result), journal.state)
  homes_eq : homes' = ⟨evm.zkGasMeter, evm.inspector⟩

variable {revm}

/-- The deduction succeeds only through its checks. -/
lemma validateAgainstStateAndDeductCaller_eq_ok {env : Env} {ctx ctx' : Context revm.Scratch}
    {extra : Option TaikoEvmExtraExecutionCtx}
    (h : validateAgainstStateAndDeductCaller revm env ctx extra = .ok ctx') :
    ∃ account journal balance,
      ctx.journal.loadAccount env.db env.tx.caller = .ok (account, journal) ∧
      revm.validateAccountNonceAndCode account.info env.tx env.cfg = .ok () ∧
      deductedBalance env (deductionExempt extra env.tx env.cfg) account.info.balance
        = .ok balance ∧
      ctx' = { ctx with
        journal := journal.setAccount env.tx.caller
          ((if env.tx.kind.isCall then account.bumpNonce else account).setBalance balance) } := by
  rw [validateAgainstStateAndDeductCaller] at h
  split at h
  · cases h
  · next account journal hload =>
    have hbalance : (if env.tx.kind.isCall then account.bumpNonce else account).info.balance
        = account.info.balance := by
      split <;> rfl
    dsimp only at h
    rw [hbalance] at h
    split at h
    · cases h
    · next hnonce =>
      split at h
      · cases h
      · next balance hdeduct =>
        cases h
        exact ⟨account, journal, balance, hload, hnonce, hdeduct, rfl⟩

lemma settle_eq_ok {checks : OverflowChecks} {env : Env}
    {extra : Option TaikoEvmExtraExecutionCtx} {prepared : Prepared revm}
    {ctx : Context revm.Scratch} {result : FrameResult revm.Output}
    {outcome : ExecutionResult × EvmState}
    (h : settle revm checks env extra prepared ctx result = .ok (.ok outcome)) :
    ∃ journal, postExecution checks env ctx.journal
        (revm.settleGas env prepared.initialGas prepared.refund result).gas extra
          = .ok (.ok journal) ∧
      ctx.error = .ok () ∧
      outcome = (revm.executionResult env { ctx with journal := journal }
        (revm.settleGas env prepared.initialGas prepared.refund result), journal.state) := by
  rw [settle] at h
  cases hpost : postExecution checks env ctx.journal
      (revm.settleGas env prepared.initialGas prepared.refund result).gas extra with
  | error p => rw [hpost] at h; cases h
  | ok posted =>
    rw [hpost] at h
    cases posted with
    | error e => cases h
    | ok journal =>
      cases herror : ctx.error with
      | error e => simp only [Bind.bind, Except.bind, herror] at h; cases h
      | ok u =>
        simp only [Bind.bind, Except.bind, herror] at h
        cases h
        exact ⟨journal, rfl, rfl, rfl⟩

/-- A run returns a result only through all its stages. -/
theorem handlerRun_eq_ok {checks : OverflowChecks} {inspect : Bool} {env : Env}
    {extra : Option TaikoEvmExtraExecutionCtx} {homes homes' : MeterHomes}
    {outcome : ExecutionResult × EvmState}
    (h : handlerRun revm checks inspect env extra homes = .ok (.ok outcome, homes')) :
    Nonempty (Ran revm checks inspect env extra homes outcome homes') := by
  rw [handlerRun] at h
  cases hprepare : prepare revm env extra with
  | error e => rw [hprepare] at h; cases h
  | ok prepared =>
    rw [hprepare] at h
    cases hexec : exec inspect env revm.fuel (.init prepared.input,
        ⟨prepared.ctx, [], homes.zkGasMeter, homes.inspector⟩) with
    | error p => simp only [hexec, Bind.bind, Except.bind] at h; cases h
    | ok s =>
      obtain ⟨phase, evm⟩ := s
      simp only [hexec, Bind.bind, Except.bind] at h
      match phase, h with
      | .done (.ok result), h =>
        cases hsettle : settle revm checks env extra prepared evm.ctx result with
        | error p => simp only [hsettle] at h; cases h
        | ok settled =>
          simp only [hsettle] at h
          cases h
          obtain ⟨journal, hpost, herror, houtcome⟩ := settle_eq_ok hsettle
          exact ⟨⟨prepared, evm, result, journal, hprepare, hexec, hpost, herror,
            houtcome, rfl⟩⟩

/-- A run refuses a transaction as invalid only before its first frame. -/
theorem handlerRun_invalid {checks : OverflowChecks} {inspect : Bool} {env : Env}
    {extra : Option TaikoEvmExtraExecutionCtx} {homes homes' : MeterHomes}
    {error : InvalidTransaction}
    (h : handlerRun revm checks inspect env extra homes
      = .ok (.error (.transaction error), homes')) :
    prepare revm env extra = .error (.transaction error) := by
  rw [handlerRun] at h
  cases hprepare : prepare revm env extra with
  | error e =>
    rw [hprepare] at h
    cases h
    rfl
  | ok prepared =>
    rw [hprepare] at h
    obtain ⟨⟨phase, evm⟩, -, h⟩ := Outcome.bind_eq_ok.mp h
    match phase, h with
    | .done (.error (.db e)), h => cases h
    | .done (.error (.custom e)), h => cases h
    | .done (.ok result), h =>
      obtain ⟨outcome, hsettle, h⟩ := Outcome.bind_eq_ok.mp h
      cases h
      obtain ⟨answer, -, hsettle⟩ := Outcome.bind_eq_ok.mp hsettle
      cases answer with
      | error e => cases hsettle
      | ok journal =>
        dsimp only at hsettle
        split at hsettle
        · next e _ => cases e <;> cases hsettle
        · cases hsettle

end AlethiaReth
