import AlethiaReth.Lib.Ledger
import AlethiaReth.Evm.Transfer

/-!
What a transaction's fees take and give: the deduction up front, and the credits of
the settlement, whichever of caller, beneficiary and treasury coincide.

* `postExecution_credited`, `feeCredits_of_sharing`: the credits of a settlement, and their exact
  amounts for a transaction that is not the anchor.
* `fees_conserved`: the credits are the deduction up to a share of all the base fee,
  and exceed it above.
-/

namespace AlethiaReth

open MachineInt

variable {X : Type} (env : Env) {balance : U256} (extra : Option TaikoEvmExtraExecutionCtx)
  (checks : OverflowChecks)

/-! ### Balances -/

/-- The balance of an address in a journal over a database. -/
def Journal.balanceOf (db : Db) (j : Journal X) (address : Address) : ℕ :=
  match j.state address with
  | some account => account.info.balance.toNat
  | none =>
    match db.basic address with
    | .ok (some info) => info.balance.toNat
    | _ => 0

namespace Journal

variable {db : Db} {j j' : Journal X} {a : Address} {account : Account} {amount : U256}

lemma balanceOf_setAccount (db : Db) (j : Journal X) (a : Address) (account : Account)
    (x : Address) :
    (j.setAccount a account).balanceOf db x
      = if x = a then account.info.balance.toNat else j.balanceOf db x := by
  by_cases hx : x = a
  · subst hx
    simp [balanceOf, setAccount]
  · simp [balanceOf, setAccount, hx]

/-- Loading an account reads its balance and moves none. -/
lemma loadAccount_balanceOf (h : j.loadAccount db a = .ok (account, j')) :
    account.info.balance.toNat = j.balanceOf db a ∧
      ∀ x, j'.balanceOf db x = j.balanceOf db x := by
  rw [loadAccount] at h
  cases hstate : j.state a with
  | some loaded =>
    rw [hstate] at h
    cases h
    refine ⟨?_, fun x => rfl⟩
    rw [balanceOf, hstate]
  | none =>
    rw [hstate] at h
    cases hbasic : db.basic a with
    | error e => simp only [hbasic] at h; cases h
    | ok info =>
      simp only [hbasic] at h
      cases h
      have hread : (info.getD .default).balance.toNat = j.balanceOf db a := by
        rw [balanceOf, hstate, hbasic]
        cases info <;> rfl
      refine ⟨hread, fun x => ?_⟩
      rw [balanceOf_setAccount]
      split
      · next hx => rw [hx, ← hread]
      · rfl

/-- The account of an address is loaded, or the database answers for it. -/
def Loads (db : Db) (j : Journal X) (a : Address) : Prop :=
  (j.state a).isSome ∨ ∃ info, db.basic a = .ok info

lemma Loads.setAccount {b : Address} (h : Loads db j b) (a : Address) (account : Account) :
    Loads db (j.setAccount a account) b := by
  refine h.imp_left fun hstate => ?_
  by_cases hb : b = a
  · simp [Journal.setAccount, hb]
  · simpa [Journal.setAccount, hb] using hstate

/-- An account that can be read is credited, and what can be read stays so. -/
lemma Loads.balanceIncr (h : Loads db j a) (amount : U256) :
    ∃ j', j.balanceIncr db a amount = .ok j' ∧ ∀ b, Loads db j b → Loads db j' b := by
  rw [Journal.balanceIncr, loadAccount]
  cases hstate : j.state a with
  | some account => exact ⟨_, rfl, fun b hb => hb.setAccount a _⟩
  | none =>
    obtain ⟨info, hbasic⟩ := h.resolve_left (by simp [hstate])
    rw [hbasic]
    exact ⟨_, rfl, fun b hb => (hb.setAccount a _).setAccount a _⟩

/-- The balances grew by a list of credits, if no balance can leave its range. -/
def Credited (db : Db) (j : Journal X) (credits : List (Address × ℕ)) (j' : Journal X) : Prop :=
  (∀ a, j.balanceOf db a + Ledger.total credits < 2 ^ 256) →
    ∀ a, j'.balanceOf db a = j.balanceOf db a + Ledger.received credits a

lemma Credited.refl (db : Db) (j : Journal X) : Credited db j [] j := fun _ _ => rfl

lemma Credited.trans {j₁ j₂ j₃ : Journal X} {credits credits' : List (Address × ℕ)}
    (h : Credited db j₁ credits j₂) (h' : Credited db j₂ credits' j₃) :
    Credited db j₁ (credits ++ credits') j₃ := by
  intro hroom a
  simp only [Ledger.total_append] at hroom
  have h₁ : ∀ x, j₂.balanceOf db x = j₁.balanceOf db x + Ledger.received credits x :=
    h fun x => by have := hroom x; omega
  have h₂ : ∀ x, j₃.balanceOf db x = j₂.balanceOf db x + Ledger.received credits' x := by
    refine h' fun x => ?_
    have hx := hroom x
    have hle := Ledger.received_le_total credits x
    rw [h₁ x]
    omega
  rw [h₂ a, h₁ a, Ledger.received_append, Nat.add_assoc]

/-- An increment is one credit. -/
lemma balanceIncr_credited (h : j.balanceIncr db a amount = .ok j') :
    Credited db j [(a, amount.toNat)] j' := by
  intro hroom x
  rw [balanceIncr] at h
  cases hload : j.loadAccount db a with
  | error e => rw [hload] at h; cases h
  | ok loaded =>
    obtain ⟨account, j₁⟩ := loaded
    rw [hload] at h
    cases h
    obtain ⟨hread, hsame⟩ := loadAccount_balanceOf hload
    have hfits : account.info.balance.toNat + amount.toNat < 2 ^ 256 := by
      have ha := hroom a
      rw [hread]
      simpa using ha
    have hsum : (checkedAdd account.info.balance amount).getD account.info.balance
        = account.info.balance + amount := by
      rw [checkedAdd, if_pos hfits]
      rfl
    rw [balanceOf_setAccount, hsum, BitVec.toNat_add_of_lt hfits, hread]
    by_cases hx : x = a
    · simp [hx]
    · simp [hx, hsame x]

end Journal

/-! ### The deduction -/

lemma TxEnv.effectiveGasPrice_le (tx : TxEnv) (baseFee : U128) :
    (tx.effectiveGasPrice baseFee).toNat ≤ tx.gasPrice.toNat := by
  rw [effectiveGasPrice]
  split
  · exact le_rfl
  · exact le_rfl
  · exact le_rfl
  · dsimp only
    split
    · exact le_rfl
    · next hlt => exact le_of_lt (BitVec.lt_def.mp (BitVec.not_le.mp hlt))

/-- The price per gas a transaction pays in its block. -/
def Env.gasPrice : ℕ :=
  (env.tx.effectiveGasPrice (env.block.basefee.setWidth 128)).toNat

lemma TxEnv.addDataFee_of_not_blob {tx : TxEnv} (h : tx.txType ≠ .eip4844) (blobPrice : U128)
    (spending : U256) : tx.addDataFee blobPrice spending = .ok spending :=
  if_neg h

/-- With the balance check on, the balance goes down by the gas limit at the
effective price, exactly. -/
lemma deductedBalance_eq_ok {env : Env} {balance' : U256} (hblob : env.tx.txType ≠ .eip4844)
    (hcheck : env.cfg.disableBalanceCheck = false)
    (h : deductedBalance env false balance = .ok balance') :
    balance.toNat = balance'.toNat + env.tx.gasLimit.toNat * env.gasPrice := by
  simp only [deductedBalance, Bool.false_eq_true, if_false, TxEnv.maxBalanceSpending,
    TxEnv.effectiveBalanceSpending, TxEnv.addDataFee_of_not_blob hblob, hcheck] at h
  cases hmax : env.tx.gasCostAndValue env.tx.gasPrice with
  | error error => simp only [hmax, bind, Except.bind] at h; cases h
  | ok maxSpending =>
    cases heff : env.tx.gasCostAndValue
        (env.tx.effectiveGasPrice (env.block.basefee.setWidth 128)) with
    | error error =>
      simp only [hmax, heff, bind, Except.bind] at h
      split at h <;> cases h
    | ok spending =>
      simp only [hmax, heff, bind, Except.bind, Bool.not_false, and_true] at h
      obtain ⟨hmaxNat, -⟩ := TxEnv.gasCostAndValue_eq_ok hmax
      obtain ⟨heffNat, -⟩ := TxEnv.gasCostAndValue_eq_ok heff
      have hle := Nat.mul_le_mul_left env.tx.gasLimit.toNat
        (env.tx.effectiveGasPrice_le (env.block.basefee.setWidth 128))
      split at h
      · cases h
      · next hfunds =>
        cases h
        have hfunds := BitVec.le_def.mp (BitVec.not_lt.mp hfunds)
        have hsub : (spending - env.tx.value).toNat = spending.toNat - env.tx.value.toNat :=
          BitVec.toNat_sub_of_le (BitVec.le_def.mpr (by omega))
        rw [toNat_saturatingSub, hsub, Env.gasPrice]
        omega

/-- Where the balance covers the gas limit at the highest price and the value, the fee is
deducted. -/
lemma deductedBalance_of_funds {env : Env} (hblob : env.tx.txType ≠ .eip4844)
    (hfits : env.tx.gasLimit.toNat * env.tx.gasPrice.toNat < 2 ^ 128)
    (hfunds : env.tx.gasLimit.toNat * env.tx.gasPrice.toNat + env.tx.value.toNat
      ≤ balance.toNat) :
    ∃ balance', deductedBalance env false balance = .ok balance' := by
  have hbalance := balance.isLt
  have hle := Nat.mul_le_mul_left env.tx.gasLimit.toNat
    (env.tx.effectiveGasPrice_le (env.block.basefee.setWidth 128))
  obtain ⟨maxSpending, hmax⟩ := TxEnv.gasCostAndValue_of_fits hfits (by omega)
  obtain ⟨spending, heff⟩ := @TxEnv.gasCostAndValue_of_fits env.tx
    (env.tx.effectiveGasPrice (env.block.basefee.setWidth 128)) (by omega) (by omega)
  have hcovered : ¬ maxSpending > balance := by
    refine BitVec.not_lt.mpr (BitVec.le_def.mpr ?_)
    rw [(TxEnv.gasCostAndValue_eq_ok hmax).1]
    exact hfunds
  simp only [deductedBalance, Bool.false_eq_true, if_false, TxEnv.maxBalanceSpending,
    TxEnv.effectiveBalanceSpending, TxEnv.addDataFee_of_not_blob hblob, hmax, heff, bind,
    Except.bind, hcovered, false_and]
  split <;> exact ⟨_, rfl⟩

/-- The exempt anchor pays nothing up front. -/
lemma deductedBalance_anchor {env : Env} {balance' : U256}
    (hcheck : env.cfg.disableBalanceCheck = false)
    (h : deductedBalance env true balance = .ok balance') : balance' = balance := by
  simp only [deductedBalance, if_true, hcheck] at h
  cases heff : env.tx.effectiveBalanceSpending (env.block.basefee.setWidth 128)
      (env.block.blobGasprice.getD 0) with
  | error error =>
    simp only [heff, bind, Except.bind, pure, Except.pure] at h
    split at h <;> cases h
  | ok spending =>
    simp only [heff, bind, Except.bind, pure, Except.pure] at h
    split at h
    · cases h
    · cases h
      simp [saturatingSub]

/-- What a transaction pays up front. -/
def feeDeducted : ℕ :=
  if deductionExempt extra env.tx env.cfg then 0 else env.tx.gasLimit.toNat * env.gasPrice

/-- The deduction takes the fee from the caller and nothing from anyone else. -/
theorem validateAgainstStateAndDeductCaller_balanceOf {revm : Revm} {env : Env}
    {ctx ctx' : Context revm.Scratch} {extra : Option TaikoEvmExtraExecutionCtx}
    (hblob : env.tx.txType ≠ .eip4844) (hcheck : env.cfg.disableBalanceCheck = false)
    (h : validateAgainstStateAndDeductCaller revm env ctx extra = .ok ctx') (x : Address) :
    ctx.journal.balanceOf env.db x = ctx'.journal.balanceOf env.db x
      + if x = env.tx.caller then feeDeducted env extra else 0 := by
  obtain ⟨account, journal, balance, hload, -, hdeduct, rfl⟩ :=
    validateAgainstStateAndDeductCaller_eq_ok h
  obtain ⟨hread, hsame⟩ := Journal.loadAccount_balanceOf hload
  have hpaid : account.info.balance.toNat = balance.toNat + feeDeducted env extra := by
    rw [feeDeducted]
    cases hexempt : deductionExempt extra env.tx env.cfg with
    | true =>
      rw [hexempt] at hdeduct
      rw [deductedBalance_anchor hcheck hdeduct]
      simp
    | false =>
      rw [hexempt] at hdeduct
      exact deductedBalance_eq_ok hblob hcheck hdeduct
  dsimp only
  rw [Journal.balanceOf_setAccount]
  by_cases hx : x = env.tx.caller
  · rw [if_pos hx, if_pos hx, hx, ← hread]
    exact hpaid
  · rw [if_neg hx, if_neg hx, hsame x, Nat.add_zero]

/-- The deduction succeeds for a caller that passes the nonce check and has the funds. -/
lemma validateAgainstStateAndDeductCaller_of_funds {revm : Revm} {env : Env}
    {ctx : Context revm.Scratch} {extra : Option TaikoEvmExtraExecutionCtx} {account : Account}
    {journal : Journal revm.Scratch} (hblob : env.tx.txType ≠ .eip4844)
    (hexempt : deductionExempt extra env.tx env.cfg = false)
    (hfits : env.tx.gasLimit.toNat * env.tx.gasPrice.toNat < 2 ^ 128)
    (hload : ctx.journal.loadAccount env.db env.tx.caller = .ok (account, journal))
    (hnonce : revm.validateAccountNonceAndCode account.info env.tx env.cfg = .ok ())
    (hfunds : env.tx.gasLimit.toNat * env.tx.gasPrice.toNat + env.tx.value.toNat
      ≤ account.info.balance.toNat) :
    ∃ ctx', validateAgainstStateAndDeductCaller revm env ctx extra = .ok ctx' := by
  have hbalance : (if env.tx.kind.isCall then account.bumpNonce else account).info.balance
      = account.info.balance := by
    split <;> rfl
  obtain ⟨balance, hdeduct⟩ := deductedBalance_of_funds hblob hfits hfunds
  simp only [validateAgainstStateAndDeductCaller, hload, hnonce, hexempt, hbalance, hdeduct]
  exact ⟨_, rfl⟩

/-! ### The credits -/

/-- The reimbursement of the caller. -/
def reimbursementCredits (env : Env) (gas : Gas) (extra : Option TaikoEvmExtraExecutionCtx) :
    Except Panic (List (Address × ℕ)) :=
  if reimbursementExempt extra env.tx env.cfg then pure []
  else do
    let amount ← reimbursement checks env gas 0
    pure [(env.tx.caller, amount.toNat)]

/-- The shares of the base fee, where it is shared. -/
def shareCredits (gas : Gas) :
    Option TaikoEvmExtraExecutionCtx → List (Address × ℕ)
  | none => []
  | some ctx =>
    if sharingExempt ctx env.tx env.cfg then []
    else if ctx.fromAnchorSystemCall then
      [(env.block.beneficiary, (feeCoinbase (totalBaseFee env gas) ctx.baseFeeSharePctg).toNat),
        (getTreasuryAddress env.cfg.chainId,
          (feeTreasury (totalBaseFee env gas) ctx.baseFeeSharePctg).toNat)]
    else []

/-- The credits of a transaction's settlement. -/
def feeCredits (env : Env) (gas : Gas) (extra : Option TaikoEvmExtraExecutionCtx) :
    Except Panic (List (Address × ℕ)) := do
  let reimbursed ← reimbursementCredits checks env gas extra
  let tip ← coinbaseTip checks env gas
  pure (reimbursed ++ (env.block.beneficiary, tip.toNat) :: shareCredits env gas extra)

section Settlement

variable {checks} {env} {j j' : Journal X} {gas : Gas} {extra}

lemma reimburseCaller_credited (h : reimburseCaller checks env j gas 0 extra = .ok (.ok j')) :
    ∃ credits, reimbursementCredits checks env gas extra = .ok credits ∧
      j.Credited env.db credits j' := by
  rw [reimburseCaller] at h
  rw [reimbursementCredits]
  split at h
  · next hexempt =>
    cases h
    exact ⟨[], if_pos hexempt, .refl _ _⟩
  · next hexempt =>
    rw [if_neg hexempt]
    cases hamount : reimbursement checks env gas 0 with
    | error p => rw [hamount] at h; cases h
    | ok amount =>
      rw [hamount] at h
      have hincr : j.balanceIncr env.db env.tx.caller amount = .ok j' := Except.ok.inj h
      exact ⟨_, rfl, Journal.balanceIncr_credited hincr⟩

lemma shareBaseFee_credited {ctx : TaikoEvmExtraExecutionCtx}
    (h : shareBaseFee env j gas ctx = .ok j') :
    j.Credited env.db
      [(env.block.beneficiary, (feeCoinbase (totalBaseFee env gas) ctx.baseFeeSharePctg).toNat),
        (getTreasuryAddress env.cfg.chainId,
          (feeTreasury (totalBaseFee env gas) ctx.baseFeeSharePctg).toNat)] j' := by
  obtain ⟨j₁, hcoinbase, htreasury⟩ := Outcome.bind_eq_ok.mp h
  exact (Journal.balanceIncr_credited hcoinbase).trans (Journal.balanceIncr_credited htreasury)

lemma rewardBeneficiary_credited (h : rewardBeneficiary checks env j gas extra = .ok (.ok j')) :
    ∃ tip, coinbaseTip checks env gas = .ok tip ∧
      j.Credited env.db ((env.block.beneficiary, tip.toNat) :: shareCredits env gas extra) j' := by
  obtain ⟨tip, htip, h⟩ := Outcome.bind_eq_ok.mp h
  refine ⟨tip, htip, ?_⟩
  obtain ⟨j₁, hincr, hshare⟩ := Outcome.bind_eq_ok.mp (Except.ok.inj h)
  refine (Journal.balanceIncr_credited hincr).trans
    (?_ : j₁.Credited env.db (shareCredits env gas extra) j')
  cases extra with
  | none =>
    cases hshare
    exact .refl _ _
  | some ctx =>
    dsimp only at hshare
    rw [shareCredits]
    split at hshare
    · next hexempt =>
      cases hshare
      rw [if_pos hexempt]
      exact .refl _ _
    · next hexempt =>
      rw [if_neg hexempt]
      split at hshare
      · next hsystem =>
        rw [if_pos hsystem]
        exact shareBaseFee_credited hshare
      · next hsystem =>
        cases hshare
        rw [if_neg hsystem]
        exact .refl _ _

/-- The settlement makes the credits of the transaction. -/
theorem postExecution_credited (h : postExecution checks env j gas extra = .ok (.ok j')) :
    ∃ credits, feeCredits checks env gas extra = .ok credits ∧ j.Credited env.db credits j' := by
  obtain ⟨answer, hreimburse, hreward⟩ := Outcome.bind_eq_ok.mp h
  cases answer with
  | error e => cases hreward
  | ok j₁ =>
    obtain ⟨reimbursed, hreimbursed, hcredited⟩ := reimburseCaller_credited hreimburse
    obtain ⟨tip, htip, hcredited'⟩ := rewardBeneficiary_credited hreward
    refine ⟨_, ?_, hcredited.trans hcredited'⟩
    rw [feeCredits, hreimbursed, htip]
    rfl

/-- The three accounts that a settlement credits can be read. -/
structure Journal.Settles (env : Env) (j : Journal X) : Prop where
  caller : j.Loads env.db env.tx.caller
  beneficiary : j.Loads env.db env.block.beneficiary
  treasury : j.Loads env.db (getTreasuryAddress env.cfg.chainId)

/-- They are credited one after the other. -/
lemma Journal.Settles.balanceIncr {a : Address} (h : j.Settles env) (ha : j.Loads env.db a)
    (amount : U256) : ∃ j', j.balanceIncr env.db a amount = .ok j' ∧ j'.Settles env := by
  obtain ⟨j', hincr, hkept⟩ := ha.balanceIncr amount
  exact ⟨j', hincr, hkept _ h.caller, hkept _ h.beneficiary, hkept _ h.treasury⟩

lemma rewardBeneficiary_of_settles {tip : U256} (htip : coinbaseTip checks env gas = .ok tip)
    (h : j.Settles env) : ∃ j', rewardBeneficiary checks env j gas extra = .ok (.ok j') := by
  obtain ⟨j₁, htipped, h₁⟩ := h.balanceIncr h.beneficiary tip
  rw [rewardBeneficiary, htip]
  simp only [bind, Except.bind, htipped]
  cases extra with
  | none => exact ⟨_, rfl⟩
  | some ctx =>
    obtain ⟨j₂, hshared, h₂⟩ := h₁.balanceIncr h₁.beneficiary
      (feeCoinbase (totalBaseFee env gas) ctx.baseFeeSharePctg)
    obtain ⟨j₃, htreasury, -⟩ := h₂.balanceIncr h₂.treasury
      (feeTreasury (totalBaseFee env gas) ctx.baseFeeSharePctg)
    dsimp only
    split
    · exact ⟨_, rfl⟩
    · split
      · exact ⟨j₃, congrArg Except.ok (Outcome.bind_eq_ok.mpr ⟨j₂, hshared, htreasury⟩)⟩
      · exact ⟨_, rfl⟩

/-- Where the credits are defined, the settlement does not panic, and it makes them where the
accounts can be read. -/
lemma postExecution_of_feeCredits {credits : List (Address × ℕ)}
    (h : feeCredits checks env gas extra = .ok credits) (j : Journal X) :
    ∃ answer, postExecution checks env j gas extra = .ok answer ∧
      (j.Settles env → ∃ j', answer = .ok j') := by
  obtain ⟨reimbursed, hreimbursed, h⟩ := Outcome.bind_eq_ok.mp h
  obtain ⟨tip, htip, -⟩ := Outcome.bind_eq_ok.mp h
  have hreimburse : ∃ answer, reimburseCaller checks env j gas 0 extra = .ok answer ∧
      (j.Settles env → ∃ j₁, answer = .ok j₁ ∧ j₁.Settles env) := by
    rw [reimbursementCredits] at hreimbursed
    rw [reimburseCaller]
    split
    · exact ⟨_, rfl, fun hloads => ⟨j, rfl, hloads⟩⟩
    · next hexempt =>
      rw [if_neg hexempt] at hreimbursed
      obtain ⟨amount, hamount, -⟩ := Outcome.bind_eq_ok.mp hreimbursed
      rw [hamount]
      exact ⟨_, rfl, fun hloads => hloads.balanceIncr hloads.caller amount⟩
  obtain ⟨answer, hreimburse, hreads⟩ := hreimburse
  rw [postExecution, hreimburse]
  cases answer with
  | error e =>
    refine ⟨_, rfl, fun hloads => ?_⟩
    obtain ⟨j₁, hj₁, -⟩ := hreads hloads
    cases hj₁
  | ok j₁ =>
    dsimp only [bind, Except.bind]
    have hanswers : ∃ answer, rewardBeneficiary checks env j₁ gas extra = .ok answer := by
      rw [rewardBeneficiary, htip]
      exact ⟨_, rfl⟩
    obtain ⟨answer, hanswer⟩ := hanswers
    refine ⟨answer, hanswer, fun hloads => ?_⟩
    obtain ⟨_, ⟨⟩, hloads₁⟩ := hreads hloads
    obtain ⟨j', hj'⟩ := rewardBeneficiary_of_settles htip hloads₁
    exact ⟨j', Except.ok.inj (hanswer.symm.trans hj')⟩

end Settlement

/-! ### The amounts -/

/-- The three anchor tests are one. -/
lemma reimbursementExempt_eq (tx : TxEnv) (cfg : CfgEnv) :
    reimbursementExempt extra tx cfg = deductionExempt extra tx cfg := by
  cases extra <;> rfl

lemma sharingExempt_eq (ctx : TaikoEvmExtraExecutionCtx) (tx : TxEnv) (cfg : CfgEnv) :
    sharingExempt ctx tx cfg = deductionExempt (some ctx) tx cfg := by
  rw [sharingExempt, deductionExempt, Option.any_some, ← decide_not]
  congr 1
  simp only [ne_eq, not_or, not_not]

section Amounts

variable {env} {gas : Gas} {gasLimit : U64}

/-- The gas a transaction pays for, in `ℕ`. -/
def Gas.paid (gas : Gas) : ℕ := gas.totalGasSpent.toNat - gas.refunded.toNat

/-- The outcome of a transaction's gas: refunded at most what was spent, and what
was not spent remains. -/
structure Gas.Settled (gas : Gas) (gasLimit : U64) : Prop where
  refunded_le : gas.refunded.toNat ≤ gas.totalGasSpent.toNat
  remaining_add : gas.remaining.toNat + gas.totalGasSpent.toNat = gasLimit.toNat

lemma spentMinusRefund_toNat (gas : Gas) :
    ((spentMinusRefund gas).setWidth 128).toNat = gas.paid := by
  rw [BitVec.toNat_setWidth_of_le (by omega), spentMinusRefund, toNat_saturatingSub, Gas.paid]

lemma Gas.Settled.paid_le (h : gas.Settled gasLimit) :
    gas.paid ≤ gasLimit.toNat := by
  have := h.remaining_add
  rw [Gas.paid]
  omega

lemma reimbursement_eq_ok (h : gas.Settled gasLimit)
    (hfits : gasLimit.toNat * env.gasPrice < 2 ^ 128) :
    ∃ amount, reimbursement checks env gas 0 = .ok amount ∧
      amount.toNat = env.gasPrice * (gas.remaining.toNat + gas.refunded.toNat) := by
  have hsum := h.remaining_add
  have hrefund := h.refunded_le
  have hlimit := gasLimit.isLt
  have hadd : gas.remaining.toNat + gas.refunded.toNat < 2 ^ 64 := by omega
  have hwide : ((gas.remaining + gas.refunded).setWidth 128).toNat
      = gas.remaining.toNat + gas.refunded.toNat := by
    rw [BitVec.toNat_setWidth_of_le (by omega), BitVec.toNat_add_of_lt hadd]
  have hmul : (env.tx.effectiveGasPrice (env.block.basefee.setWidth 128)).toNat
      * ((gas.remaining + gas.refunded).setWidth 128).toNat < 2 ^ 128 := by
    rw [hwide]
    calc env.gasPrice * (gas.remaining.toNat + gas.refunded.toNat)
        ≤ env.gasPrice * gasLimit.toNat := Nat.mul_le_mul_left _ (by omega)
      _ = gasLimit.toNat * env.gasPrice := Nat.mul_comm _ _
      _ < 2 ^ 128 := hfits
  rw [reimbursement, plainAdd_eq_ok_of_lt checks hadd]
  have hzero : ∀ amount : U256, amount + 0 = amount := BitVec.add_zero
  refine ⟨_, rfl, ?_⟩
  rw [hzero, BitVec.toNat_setWidth_of_le (by omega), toNat_saturatingMul_of_lt hmul, hwide,
    Env.gasPrice]

lemma coinbaseTip_eq_ok (h : gas.Settled gasLimit)
    (hfits : gasLimit.toNat * env.gasPrice < 2 ^ 128) :
    ∃ tip, coinbaseTip checks env gas = .ok tip ∧
      tip.toNat = (env.gasPrice - env.block.basefee.toNat) * gas.paid := by
  have hbase : (env.block.basefee.setWidth 128).toNat = env.block.basefee.toNat :=
    BitVec.toNat_setWidth_of_le (by omega)
  have hmul : (saturatingSub (env.tx.effectiveGasPrice (env.block.basefee.setWidth 128))
        (env.block.basefee.setWidth 128)).toNat
      * ((spentMinusRefund gas).setWidth 128).toNat < 2 ^ 128 := by
    rw [toNat_saturatingSub, spentMinusRefund_toNat]
    calc (env.gasPrice - (env.block.basefee.setWidth 128).toNat) * gas.paid
        ≤ env.gasPrice * gasLimit.toNat := Nat.mul_le_mul (Nat.sub_le _ _) h.paid_le
      _ = gasLimit.toNat * env.gasPrice := Nat.mul_comm _ _
      _ < 2 ^ 128 := hfits
  refine ⟨(saturatingSub (env.tx.effectiveGasPrice (env.block.basefee.setWidth 128))
        (env.block.basefee.setWidth 128)
      * (spentMinusRefund gas).setWidth 128).setWidth 256, ?_, ?_⟩
  · rw [coinbaseTip, plainMul_eq_ok_of_lt checks hmul]
    rfl
  · rw [BitVec.toNat_setWidth_of_le (by omega), BitVec.toNat_mul_of_lt hmul, toNat_saturatingSub,
      spentMinusRefund_toNat, hbase, Env.gasPrice]

/-- The base fee income of a transaction, in `ℕ`. -/
def baseFeeIncome (env : Env) (gas : Gas) : ℕ := env.block.basefee.toNat * gas.paid

/-- Base fee and gas are 64-bit. -/
lemma baseFeeIncome_lt (env : Env) (gas : Gas) : baseFeeIncome env gas < 2 ^ 128 := by
  have hpaid : gas.paid < 2 ^ 64 := by
    have := gas.totalGasSpent.isLt
    rw [Gas.paid]
    omega
  calc env.block.basefee.toNat * gas.paid
      < 2 ^ 64 * 2 ^ 64 := Nat.mul_lt_mul'' env.block.basefee.isLt hpaid
    _ = 2 ^ 128 := by norm_num

/-- The income never saturates. -/
lemma totalBaseFee_toNat (env : Env) (gas : Gas) :
    (totalBaseFee env gas).toNat = baseFeeIncome env gas := by
  have hbase : (env.block.basefee.setWidth 128).toNat = env.block.basefee.toNat :=
    BitVec.toNat_setWidth_of_le (by omega)
  have hmul : (env.block.basefee.setWidth 128).toNat
      * ((spentMinusRefund gas).setWidth 128).toNat < 2 ^ 128 := by
    rw [hbase, spentMinusRefund_toNat]
    exact baseFeeIncome_lt env gas
  rw [totalBaseFee, BitVec.toNat_setWidth_of_le (by omega), toNat_saturatingMul_of_lt hmul, hbase,
    spentMinusRefund_toNat, baseFeeIncome]

/-- The coinbase's share is the exact percentage, rounded down. -/
lemma feeCoinbase_toNat (env : Env) (gas : Gas) (pctg : U64) :
    (feeCoinbase (totalBaseFee env gas) pctg).toNat
      = baseFeeIncome env gas * pctg.toNat / 100 := by
  have hpctg : (pctg.setWidth 256).toNat = pctg.toNat := BitVec.toNat_setWidth_of_le (by omega)
  have hmul : (totalBaseFee env gas).toNat * (pctg.setWidth 256).toNat < 2 ^ 256 := by
    rw [totalBaseFee_toNat, hpctg]
    calc baseFeeIncome env gas * pctg.toNat
        < 2 ^ 128 * 2 ^ 64 := Nat.mul_lt_mul'' (baseFeeIncome_lt env gas) pctg.isLt
      _ < 2 ^ 256 := by norm_num
  rw [feeCoinbase, BitVec.toNat_udiv, toNat_saturatingMul_of_lt hmul, totalBaseFee_toNat, hpctg]
  rfl

lemma feeTreasury_toNat (env : Env) (gas : Gas) (pctg : U64) :
    (feeTreasury (totalBaseFee env gas) pctg).toNat
      = baseFeeIncome env gas - baseFeeIncome env gas * pctg.toNat / 100 := by
  rw [feeTreasury, toNat_saturatingSub, feeCoinbase_toNat, totalBaseFee_toNat]

/-- The exact credits of a transaction that is not the anchor, in a block whose
anchor system call set the share. -/
lemma feeCredits_of_sharing {ctx : TaikoEvmExtraExecutionCtx}
    (hsystem : ctx.fromAnchorSystemCall = true)
    (hexempt : deductionExempt (some ctx) env.tx env.cfg = false)
    (hgas : gas.Settled env.tx.gasLimit) (hfits : env.tx.gasLimit.toNat * env.gasPrice < 2 ^ 128) :
    feeCredits checks env gas (some ctx) = .ok
      [(env.tx.caller, env.gasPrice * (gas.remaining.toNat + gas.refunded.toNat)),
        (env.block.beneficiary, (env.gasPrice - env.block.basefee.toNat) * gas.paid),
        (env.block.beneficiary, baseFeeIncome env gas * ctx.baseFeeSharePctg.toNat / 100),
        (getTreasuryAddress env.cfg.chainId, baseFeeIncome env gas
          - baseFeeIncome env gas * ctx.baseFeeSharePctg.toNat / 100)] := by
  obtain ⟨amount, hreimbursement, hamount⟩ := reimbursement_eq_ok checks hgas hfits
  obtain ⟨tip, htip, htipNat⟩ := coinbaseTip_eq_ok checks hgas hfits
  have hshares : shareCredits env gas (some ctx)
      = [(env.block.beneficiary, baseFeeIncome env gas * ctx.baseFeeSharePctg.toNat / 100),
        (getTreasuryAddress env.cfg.chainId, baseFeeIncome env gas
          - baseFeeIncome env gas * ctx.baseFeeSharePctg.toNat / 100)] := by
    rw [shareCredits, sharingExempt_eq, hexempt, if_neg Bool.false_ne_true, if_pos hsystem,
      feeCoinbase_toNat, feeTreasury_toNat]
  rw [feeCredits, reimbursementCredits, reimbursementExempt_eq, hexempt,
    if_neg Bool.false_ne_true, hreimbursement, htip, hshares, ← hamount, ← htipNat]
  rfl

/-- The credits of a transaction above its deduction: nothing up to a full share, and
what the share exceeds the income by above it. -/
lemma total_feeCredits (pctg : ℕ) (hgas : gas.Settled env.tx.gasLimit)
    (hprice : env.block.basefee.toNat ≤ env.gasPrice) :
    env.gasPrice * (gas.remaining.toNat + gas.refunded.toNat)
        + (env.gasPrice - env.block.basefee.toNat) * gas.paid
        + baseFeeIncome env gas * pctg / 100
        + (baseFeeIncome env gas - baseFeeIncome env gas * pctg / 100)
      = env.tx.gasLimit.toNat * env.gasPrice
        + (baseFeeIncome env gas * pctg / 100 - baseFeeIncome env gas) := by
  have hrefund := hgas.refunded_le
  have hsum := hgas.remaining_add
  have hpaid : gas.paid + gas.refunded.toNat = gas.totalGasSpent.toNat := by
    rw [Gas.paid]
    omega
  have htip : (env.gasPrice - env.block.basefee.toNat) * gas.paid + baseFeeIncome env gas
      = env.gasPrice * gas.paid := by
    rw [baseFeeIncome, ← Nat.add_mul, Nat.sub_add_cancel hprice]
  have hall : env.gasPrice * (gas.remaining.toNat + gas.refunded.toNat) + env.gasPrice * gas.paid
      = env.tx.gasLimit.toNat * env.gasPrice := by
    rw [← Nat.mul_add, Nat.mul_comm]
    congr 1
    omega
  omega

/-- A share of at most the whole income is at most the income. -/
lemma share_le (income : ℕ) {pctg : ℕ} (h : pctg ≤ 100) : income * pctg / 100 ≤ income := by
  refine Nat.div_le_of_le_mul ?_
  rw [Nat.mul_comm 100]
  exact Nat.mul_le_mul_left _ h

lemma le_share (income : ℕ) {pctg : ℕ} (h : 100 ≤ pctg) : income ≤ income * pctg / 100 := by
  rw [Nat.le_div_iff_mul_le (by norm_num)]
  exact Nat.mul_le_mul_left _ h

end Amounts

/-! ### Conservation -/

/-- For a transaction that is not the anchor, in a block whose anchor system call set
the share: the deduction succeeds where the caller passes the nonce check and has the funds,
and takes the gas limit at the effective price from it; the settlement succeeds where the
accounts can be read, and makes exact credits, to whichever of them coincide; and the credits
are the deduction up to a full share, and exceed it by what the share exceeds the base
fee income by above it, where the treasury gets nothing. -/
theorem fees_conserved (checks : OverflowChecks) {env : Env} {gas : Gas} (pctg : U64)
    (anchorCaller : Address) (anchorNonce : U64)
    (hblob : env.tx.txType ≠ .eip4844) (hcheck : env.cfg.disableBalanceCheck = false)
    (hexempt : deductionExempt (some (.new pctg anchorCaller anchorNonce)) env.tx env.cfg = false)
    (hgas : gas.Settled env.tx.gasLimit)
    (hprice : env.block.basefee.toNat ≤ env.gasPrice)
    (hfits : env.tx.gasLimit.toNat * env.tx.gasPrice.toNat < 2 ^ 128) :
    (∀ (revm : Revm) (ctx : Context revm.Scratch),
      (∀ account journal, ctx.journal.loadAccount env.db env.tx.caller = .ok (account, journal) →
        revm.validateAccountNonceAndCode account.info env.tx env.cfg = .ok () →
        env.tx.gasLimit.toNat * env.tx.gasPrice.toNat + env.tx.value.toNat
          ≤ account.info.balance.toNat →
        ∃ ctx', validateAgainstStateAndDeductCaller revm env ctx
          (some (.new pctg anchorCaller anchorNonce)) = .ok ctx') ∧
      ∀ ctx', validateAgainstStateAndDeductCaller revm env ctx
          (some (.new pctg anchorCaller anchorNonce)) = .ok ctx' →
        ∀ x, ctx.journal.balanceOf env.db x = ctx'.journal.balanceOf env.db x
          + if x = env.tx.caller then env.tx.gasLimit.toNat * env.gasPrice else 0) ∧
    ∃ reimbursed tip coinbaseShare treasuryShare,
      (∀ (X : Type) (j : Journal X), ∃ answer,
        postExecution checks env j gas (some (.new pctg anchorCaller anchorNonce))
            = .ok answer ∧
          (j.Settles env → ∃ j', answer = .ok j') ∧
          ∀ j', answer = .ok j' → j.Credited env.db
            [(env.tx.caller, reimbursed), (env.block.beneficiary, tip),
              (env.block.beneficiary, coinbaseShare),
              (getTreasuryAddress env.cfg.chainId, treasuryShare)] j') ∧
      reimbursed = env.gasPrice * (gas.remaining.toNat + gas.refunded.toNat) ∧
      tip = (env.gasPrice - env.block.basefee.toNat) * gas.paid ∧
      coinbaseShare = baseFeeIncome env gas * pctg.toNat / 100 ∧
      treasuryShare = baseFeeIncome env gas - coinbaseShare ∧
      (pctg.toNat ≤ 100 → reimbursed + tip + coinbaseShare + treasuryShare
        = env.tx.gasLimit.toNat * env.gasPrice) ∧
      (100 < pctg.toNat → treasuryShare = 0 ∧
        reimbursed + tip + coinbaseShare + treasuryShare
          = env.tx.gasLimit.toNat * env.gasPrice
            + (baseFeeIncome env gas * pctg.toNat / 100 - baseFeeIncome env gas)) := by
  have hfits' : env.tx.gasLimit.toNat * env.gasPrice < 2 ^ 128 :=
    lt_of_le_of_lt (Nat.mul_le_mul_left _ (env.tx.effectiveGasPrice_le _)) hfits
  have hcredits := feeCredits_of_sharing checks rfl hexempt hgas hfits'
  have htotal := total_feeCredits pctg.toNat hgas hprice
  refine ⟨fun revm ctx => ⟨fun account journal hload hnonce hfunds => ?_, fun ctx' h x => ?_⟩,
    _, _, _, _, fun X j => ?_, rfl, rfl, rfl, rfl, ?_, ?_⟩
  · -- the deduction succeeds
    exact validateAgainstStateAndDeductCaller_of_funds hblob hexempt hfits hload hnonce hfunds
  · -- and takes the fee from the caller
    have hdeducted := validateAgainstStateAndDeductCaller_balanceOf hblob hcheck h x
    rwa [feeDeducted, hexempt, if_neg Bool.false_ne_true] at hdeducted
  · -- the settlement makes the credits
    obtain ⟨answer, hanswer, hreads⟩ := postExecution_of_feeCredits hcredits j
    refine ⟨answer, hanswer, hreads, fun j' hj' => ?_⟩
    rw [hj'] at hanswer
    obtain ⟨credits, hcredits', hcredited⟩ := postExecution_credited hanswer
    rw [hcredits] at hcredits'
    cases hcredits'
    exact hcredited
  · intro hle
    have hshare := share_le (baseFeeIncome env gas) hle
    omega
  · intro hlt
    have hshare := le_share (baseFeeIncome env gas) (le_of_lt hlt)
    exact ⟨by omega, htotal⟩

/-- The environment of a transfer at a price of 10 over a base fee of 7. -/
def transferEnv : Env := ⟨transferDb, transferBlock, transferCfg, (transferTx 0xa1 0).toTxEnv⟩

/-- The balances of the caller, the coinbase and the treasury. -/
def Journal.feeBalances (j : Journal X) (env : Env) : ℕ × ℕ × ℕ :=
  (j.balanceOf env.db env.tx.caller, j.balanceOf env.db env.block.beneficiary,
    j.balanceOf env.db (getTreasuryAddress env.cfg.chainId))

lemma transferEnv_basic (a : Address) :
    transferEnv.db.basic a = .ok (if a = 0xa1 then some ⟨1000000000, 0, []⟩ else none) := by
  by_cases ha : a = 0xa1
  · subst ha
    rfl
  · rw [if_neg ha]
    exact Function.update_of_ne ha _ _

/-- A transfer at a share of a quarter, of which 16000 gas are paid for: what is deducted from
its caller comes back to the caller, the coinbase and the treasury. -/
theorem fees_conserved_transfer :
    ∃ (ctx : Context Unit) (j : Journal Unit),
      validateAgainstStateAndDeductCaller transferRevm transferEnv ⟨.new (), .ok ()⟩
        (some (.new 25 goldenTouch 0)) = .ok ctx ∧
      postExecution .on transferEnv ctx.journal ⟨1000, 20000, 4000⟩
        (some (.new 25 goldenTouch 0)) = .ok (.ok j) ∧
      (Journal.new ()).feeBalances transferEnv = (1000000000, 0, 0) ∧
      ctx.journal.feeBalances transferEnv = (1000000000 - 210000, 0, 0) ∧
      j.feeBalances transferEnv = (1000000000 - 210000 + 50000, 48000 + 28000, 84000) := by
  obtain ⟨hdeduction, reimbursed, tip, coinbaseShare, treasuryShare, hsettlement, rfl, rfl, rfl,
    rfl, -, -⟩ := @fees_conserved .on transferEnv ⟨1000, 20000, 4000⟩ 25 goldenTouch 0 (by decide)
      rfl (by decide) ⟨by decide, by decide⟩ (by decide) (by decide)
  obtain ⟨hfunded, htaken⟩ := hdeduction transferRevm ⟨.new (), .ok ()⟩
  obtain ⟨ctx, hctx⟩ : ∃ ctx : Context Unit, _ = Except.ok ctx :=
    hfunded ⟨⟨1000000000, 0, []⟩, fun _ => 0, false⟩ _ rfl rfl (by decide)
  obtain ⟨answer, hpost, hreads, hcredited⟩ := hsettlement Unit ctx.journal
  obtain ⟨j, rfl⟩ := hreads ⟨.inr ⟨_, transferEnv_basic _⟩, .inr ⟨_, transferEnv_basic _⟩,
    .inr ⟨_, transferEnv_basic _⟩⟩
  have hbalance : ∀ x, ctx.journal.balanceOf transferEnv.db x
      = if x = 0xa1 then 1000000000 - 210000 else 0 := by
    intro x
    have hx : (Journal.new ()).balanceOf transferEnv.db x
        = ctx.journal.balanceOf transferEnv.db x + if x = 0xa1 then 210000 else 0 :=
      htaken ctx hctx x
    rw [Journal.balanceOf, transferEnv_basic] at hx
    dsimp only [Journal.new] at hx
    split_ifs at hx ⊢
    · change 1000000000 = _ at hx
      omega
    · exact hx.symm
  have hend := hcredited j rfl fun a => by
    rw [hbalance]
    change _ + 210000 < 2 ^ 256
    split_ifs <;> norm_num
  refine ⟨ctx, j, hctx, hpost, rfl, ?_, ?_⟩
  · simp only [Journal.feeBalances, hbalance]
    rfl
  · simp only [Journal.feeBalances, hend, hbalance]
    rfl

end AlethiaReth
