import AlethiaReth.Evm.Transfer

/-!
Nonces across a transaction: one that ran had the nonce of its sender, and its changeset raises
that nonce (`Ran.nonce`).
-/

namespace AlethiaReth

open MachineInt Outcome

variable {X : Type}

/-- The last nonce, which a bump leaves where it is. -/
def maxNonce : ℕ := 2 ^ 64 - 1

/-- The nonce of an address in a database. -/
def Db.nonce (db : Db) (address : Address) : ℕ :=
  match db.basic address with
  | .ok (some info) => info.nonce.toNat
  | _ => 0

namespace Journal

/-- The nonce of an address in a journal over a database. -/
def nonceOf (db : Db) (j : Journal X) (address : Address) : ℕ :=
  match j.state address with
  | some account => account.info.nonce.toNat
  | none => db.nonce address

/-- The journal will write the account of an address. -/
def isTouched (j : Journal X) (address : Address) : Bool := (j.state address).any (·.touched)

/-- The nonce of an address did not go down, and its account stays touched. -/
structure NonceKept (db : Db) (address : Address) (j j' : Journal X) : Prop where
  le : j.nonceOf db address ≤ j'.nonceOf db address
  touched : j.isTouched address = true → j'.isTouched address = true

variable {db : Db} {j j' : Journal X} {a x : Address} {account : Account} {amount : U256}

lemma NonceKept.refl (db : Db) (a : Address) (j : Journal X) : NonceKept db a j j :=
  ⟨le_rfl, id⟩

lemma NonceKept.trans {j₁ j₂ j₃ : Journal X} (h : NonceKept db a j₁ j₂)
    (h' : NonceKept db a j₂ j₃) : NonceKept db a j₁ j₃ :=
  ⟨h.le.trans h'.le, fun ht => h'.touched (h.touched ht)⟩

/-- Replacing the account of an address by a touched one whose nonce is not below. -/
lemma setAccount_nonceKept (hnonce : x = a → j.nonceOf db a ≤ account.info.nonce.toNat)
    (htouched : account.touched = true) : NonceKept db x j (j.setAccount a account) := by
  by_cases hx : x = a
  · subst hx
    refine ⟨?_, fun _ => ?_⟩
    · simpa [nonceOf, setAccount] using hnonce rfl
    · simp [isTouched, setAccount, htouched]
  · constructor
    · simp [nonceOf, setAccount, hx]
    · simp [isTouched, setAccount, hx]

/-- Loading an account reads its nonce. -/
lemma loadAccount_nonceOf (h : j.loadAccount db a = .ok (account, j')) :
    account.info.nonce.toNat = j.nonceOf db a ∧ j'.nonceOf db a = j.nonceOf db a ∧
      NonceKept db x j j' := by
  rw [loadAccount] at h
  cases hstate : j.state a with
  | some loaded =>
    rw [hstate] at h
    cases h
    refine ⟨?_, rfl, .refl _ _ _⟩
    rw [nonceOf, hstate]
  | none =>
    rw [hstate] at h
    cases hbasic : db.basic a with
    | error e => simp only [hbasic] at h; cases h
    | ok info =>
      simp only [hbasic] at h
      cases h
      have hread : (info.getD .default).nonce.toNat = j.nonceOf db a := by
        rw [nonceOf, hstate]
        dsimp only
        rw [Db.nonce, hbasic]
        cases info <;> rfl
      refine ⟨hread, ?_, ?_⟩
      · rw [← hread]
        simp [nonceOf, setAccount]
      · by_cases hx : x = a
        · subst hx
          refine ⟨?_, fun ht => ?_⟩
          · rw [← hread]
            simp [nonceOf, setAccount]
          · simp [isTouched, hstate] at ht
        · constructor
          · simp [nonceOf, setAccount, hx]
          · simp [isTouched, setAccount, hx]

lemma balanceIncr_nonceKept (h : j.balanceIncr db a amount = .ok j') : NonceKept db x j j' := by
  rw [balanceIncr] at h
  cases hload : j.loadAccount db a with
  | error e => rw [hload] at h; cases h
  | ok loaded =>
    obtain ⟨account, j₁⟩ := loaded
    obtain ⟨hread, hsame, hkept⟩ := loadAccount_nonceOf (x := x) hload
    rw [hload] at h
    cases h
    refine hkept.trans (setAccount_nonceKept (fun _ => ?_) rfl)
    rw [hsame, hread]

end Journal

/-! ### What a changeset writes -/

/-- The database after a commit has the nonces of the touched accounts. -/
lemma Db.nonce_commit (db : Db) (j : Journal X) (a : Address) :
    (db.commit j.state).nonce a = if j.isTouched a then j.nonceOf db a else db.nonce a := by
  rw [Db.nonce, Db.commit, Journal.isTouched, Journal.nonceOf]
  cases hstate : j.state a with
  | none => simp [hstate, Db.nonce]
  | some account =>
    cases htouched : account.touched with
    | false => simp [hstate, htouched, Db.nonce]
    | true =>
      by_cases hdefault : account.info = .default
      · simp [hstate, htouched, hdefault, AccountInfo.default]
      · simp [hstate, htouched, hdefault]

/-- A journal that took no nonce back commits none that is lower. -/
lemma Db.le_nonce_commit {db : Db} {j : Journal X} {a : Address} {inner : X}
    (h : (Journal.new inner).NonceKept db a j) : db.nonce a ≤ (db.commit j.state).nonce a := by
  rw [Db.nonce_commit]
  split
  · exact h.le
  · exact le_rfl

/-! ### The settlement -/

section Settlement

variable {checks : OverflowChecks} {env : Env} {j j' : Journal X} {gas : Gas}
  {extra : Option TaikoEvmExtraExecutionCtx} {x : Address}

/-- Whatever every balance increment respects, the settlement respects. -/
lemma postExecution_rel {R : Journal X → Journal X → Prop} (hrefl : ∀ j, R j j)
    (htrans : ∀ j₁ j₂ j₃, R j₁ j₂ → R j₂ j₃ → R j₁ j₃)
    (hincr : ∀ j a amount j', j.balanceIncr env.db a amount = .ok j' → R j j')
    (h : postExecution checks env j gas extra = .ok (.ok j')) : R j j' := by
  obtain ⟨answer, hreimburse, hreward⟩ := bind_eq_ok.mp h
  cases answer with
  | error e => cases hreward
  | ok j₁ =>
    have h₁ : R j j₁ := by
      rw [reimburseCaller] at hreimburse
      split at hreimburse
      · cases hreimburse
        exact hrefl j
      · obtain ⟨amount, -, hamount⟩ := bind_eq_ok.mp hreimburse
        exact hincr _ _ _ _ (Except.ok.inj hamount)
    obtain ⟨tip, -, hreward⟩ := bind_eq_ok.mp hreward
    obtain ⟨j₂, htip, hshare⟩ := bind_eq_ok.mp (Except.ok.inj hreward)
    refine htrans _ _ _ h₁ (htrans _ _ _ (hincr _ _ _ _ htip) ?_)
    cases extra with
    | none =>
      cases hshare
      exact hrefl _
    | some ctx =>
      dsimp only at hshare
      split at hshare
      · cases hshare
        exact hrefl _
      · split at hshare
        · obtain ⟨j₃, hcoinbase, htreasury⟩ := bind_eq_ok.mp hshare
          exact htrans _ _ _ (hincr _ _ _ _ hcoinbase) (hincr _ _ _ _ htreasury)
        · cases hshare
          exact hrefl _

lemma postExecution_nonceKept (h : postExecution checks env j gas extra = .ok (.ok j')) :
    j.NonceKept env.db x j' :=
  postExecution_rel (.refl _ _) (fun _ _ _ => .trans)
    (fun _ _ _ _ => Journal.balanceIncr_nonceKept) h

end Settlement

/-! ### The deduction -/

variable {revm : Revm} {env : Env} {extra : Option TaikoEvmExtraExecutionCtx}

lemma Account.bumpNonce_nonce (account : Account) (h : account.info.nonce.toNat < maxNonce) :
    account.bumpNonce.info.nonce.toNat = account.info.nonce.toNat + 1 := by
  rw [maxNonce] at h
  have hfits : account.info.nonce.toNat + (1 : U64).toNat < 2 ^ 64 := by
    have hone : (1 : U64).toNat = 1 := rfl
    omega
  change ((checkedAdd account.info.nonce 1).getD account.info.nonce).toNat = _
  rw [checkedAdd, if_pos hfits, Option.getD_some, BitVec.toNat_add_of_lt hfits]
  rfl

lemma Account.le_bumpNonce (account : Account) :
    account.info.nonce.toNat ≤ account.bumpNonce.info.nonce.toNat := by
  by_cases h : account.info.nonce.toNat < maxNonce
  · rw [account.bumpNonce_nonce h]
    omega
  · have hfits : ¬ account.info.nonce.toNat + (1 : U64).toNat < 2 ^ 64 := by
      have hone : (1 : U64).toNat = 1 := rfl
      rw [maxNonce] at h
      omega
    change _ ≤ ((checkedAdd account.info.nonce 1).getD account.info.nonce).toNat
    rw [checkedAdd, if_neg hfits]
    exact le_rfl

/-- The deduction checks the nonce of the caller, takes none back, and raises the
caller's when the transaction is a call. -/
theorem validateAgainstStateAndDeductCaller_nonce {ctx ctx' : Context revm.Scratch} {x : Address}
    (h : validateAgainstStateAndDeductCaller revm env ctx extra = .ok ctx') :
    (∃ info, revm.validateAccountNonceAndCode info env.tx env.cfg = .ok () ∧
      info.nonce.toNat = ctx.journal.nonceOf env.db env.tx.caller) ∧
    ctx.journal.NonceKept env.db x ctx'.journal ∧
    (env.tx.kind.isCall = true → ctx.journal.nonceOf env.db env.tx.caller < maxNonce →
      ctx.journal.nonceOf env.db env.tx.caller < ctx'.journal.nonceOf env.db env.tx.caller ∧
      ctx'.journal.isTouched env.tx.caller = true) := by
  obtain ⟨account, journal, balance, hload, hnonce, -, rfl⟩ :=
    validateAgainstStateAndDeductCaller_eq_ok h
  obtain ⟨hread, hsame, hkept⟩ := Journal.loadAccount_nonceOf (x := x) hload
  generalize haccount : (if env.tx.kind.isCall then account.bumpNonce else account) = charged
  refine ⟨⟨account.info, hnonce, hread⟩, ?_, fun hcall hmax => ⟨?_, ?_⟩⟩
  · refine hkept.trans (Journal.setAccount_nonceKept (fun _ => ?_) rfl)
    rw [hsame, ← hread, ← haccount]
    split
    · exact account.le_bumpNonce
    · exact le_rfl
  · rw [if_pos hcall] at haccount
    rw [← hread] at hmax ⊢
    have hbump := account.bumpNonce_nonce hmax
    simp only [Journal.nonceOf, Journal.setAccount, Function.update_self]
    change _ < charged.info.nonce.toNat
    rw [← haccount, hbump]
    omega
  · simp [Journal.isTouched, Journal.setAccount, Account.setBalance]

/-! ### The run of a transaction -/

/-- The interpreter compares the nonce of a transaction with that of its sender. -/
def Revm.ChecksNonce (revm : Revm) : Prop :=
  ∀ info tx cfg, cfg.disableNonceCheck = false →
    revm.validateAccountNonceAndCode info tx cfg = .ok () → tx.nonce = info.nonce

/-- The interpreter refuses a transaction with the last nonce before its first frame. -/
def Revm.RejectsLastNonce (revm : Revm) : Prop :=
  ∀ env extra prepared, prepare revm env extra = .ok prepared →
    env.cfg.disableNonceCheck = false → env.tx.nonce.toNat < maxNonce

/-- The interpreter takes back no nonce of an account, from when a transaction's
accounts are loaded to when its last frame is done. -/
structure Revm.KeepsNonce (revm : Revm) (a : Address) : Prop where
  loadAccounts : ∀ env ctx ctx', revm.loadAccounts env ctx = .ok ctx' →
    ctx.journal.NonceKept env.db a ctx'.journal
  authList : ∀ env ctx refund ctx', revm.applyEip7702AuthList env ctx = .ok (refund, ctx') →
    ctx.journal.NonceKept env.db a ctx'.journal
  firstFrame : ∀ env ctx initialGas input ctx',
    revm.firstFrameInput env ctx initialGas = .ok (input, ctx') →
      ctx.journal.NonceKept env.db a ctx'.journal
  frames : ∀ inspect env input ctx meter inspector result evm,
    @exec revm inspect env revm.fuel (.init input, ⟨ctx, [], meter, inspector⟩)
        = .ok (.done (.ok result), evm) →
      ctx.journal.NonceKept env.db a evm.ctx.journal

/-- A creation, whose nonce is bumped with its frame, raises the nonce of its sender. -/
def Revm.BumpsCreator (revm : Revm) (a : Address) : Prop :=
  ∀ inspect env extra (prepared : Prepared revm) meter inspector result evm,
    prepare revm env extra = .ok prepared → env.tx.caller = a → env.tx.kind.isCall = false →
    exec inspect env revm.fuel (.init prepared.input, ⟨prepared.ctx, [], meter, inspector⟩)
        = .ok (.done (.ok result), evm) →
    env.db.nonce a < maxNonce →
      env.db.nonce a < evm.ctx.journal.nonceOf env.db a ∧ evm.ctx.journal.isTouched a = true

variable {checks : OverflowChecks} {inspect : Bool} {homes homes' : MeterHomes}
  {outcome : ExecutionResult × EvmState} {a : Address}

/-- Up to its first frame, a transaction is checked against the nonce of its sender
and raises it when it is a call. -/
lemma prepare_nonce (hchecks : revm.ChecksNonce) (hkeeps : revm.KeepsNonce a)
    (hcfg : env.cfg.disableNonceCheck = false) {prepared : Prepared revm}
    (h : prepare revm env extra = .ok prepared) :
    env.tx.nonce.toNat = env.db.nonce env.tx.caller ∧
    (Journal.new revm.scratch).NonceKept env.db a prepared.ctx.journal ∧
    (env.tx.caller = a → env.tx.kind.isCall = true → env.db.nonce a < maxNonce →
      env.db.nonce a < prepared.ctx.journal.nonceOf env.db a ∧
        prepared.ctx.journal.isTouched a = true) := by
  obtain ⟨initialGas, -, h⟩ := bind_eq_ok.mp h
  obtain ⟨ctx₁, hdeduct, h⟩ := bind_eq_ok.mp h
  obtain ⟨ctx₂, hload, h⟩ := bind_eq_ok.mp h
  obtain ⟨⟨refund, ctx₃⟩, hauth, h⟩ := bind_eq_ok.mp h
  obtain ⟨⟨input, ctx₄⟩, hfirst, h⟩ := bind_eq_ok.mp h
  cases h
  obtain ⟨⟨info, hvalid, hinfo⟩, hkept, hbump⟩ :=
    validateAgainstStateAndDeductCaller_nonce (x := a) hdeduct
  have hrest : ctx₁.journal.NonceKept env.db a ctx₄.journal :=
    ((hkeeps.loadAccounts _ _ _ hload).trans (hkeeps.authList _ _ _ _ hauth)).trans
      (hkeeps.firstFrame _ _ _ _ _ hfirst)
  refine ⟨?_, hkept.trans hrest, ?_⟩
  · rw [hchecks _ _ _ hcfg hvalid, hinfo]
    rfl
  · rintro rfl hcall hmax
    obtain ⟨hlt, htouched⟩ := hbump hcall hmax
    exact ⟨lt_of_lt_of_le hlt hrest.le, hrest.touched htouched⟩

/-- A transaction that ran had the nonce of its sender; its changeset takes no nonce
back, and raises that of the sender. -/
theorem Ran.nonce (ran : Ran revm checks inspect env extra homes outcome homes')
    (hchecks : revm.ChecksNonce) (hlast : revm.RejectsLastNonce) (hkeeps : revm.KeepsNonce a)
    (hcreator : revm.BumpsCreator a) (hcfg : env.cfg.disableNonceCheck = false) :
    env.tx.nonce.toNat = env.db.nonce env.tx.caller ∧
    env.db.nonce a ≤ (env.db.commit outcome.2).nonce a ∧
    (env.tx.caller = a → env.db.nonce a < (env.db.commit outcome.2).nonce a) := by
  obtain ⟨hnonce, hprepared, hcall⟩ := prepare_nonce hchecks hkeeps hcfg ran.prepare_eq
  have hframes := hkeeps.frames _ _ _ _ _ _ _ _ ran.exec_eq
  have hpost := postExecution_nonceKept (x := a) ran.post_eq
  rw [ran.outcome_eq]
  refine ⟨hnonce, Db.le_nonce_commit ((hprepared.trans hframes).trans hpost), ?_⟩
  intro hcaller
  have hmax : env.db.nonce a < maxNonce := by
    rw [← hcaller, ← hnonce]
    exact hlast _ _ _ ran.prepare_eq hcfg
  -- a call raised the nonce before its first frame, a creation with it
  have hlt : env.db.nonce a < ran.evm.ctx.journal.nonceOf env.db a ∧
      ran.evm.ctx.journal.isTouched a = true := by
    cases hkind : env.tx.kind.isCall with
    | true =>
      obtain ⟨hlt, htouched⟩ := hcall hcaller hkind hmax
      exact ⟨lt_of_lt_of_le hlt hframes.le, hframes.touched htouched⟩
    | false =>
      exact hcreator _ _ _ _ _ _ _ _ ran.prepare_eq hcaller hkind ran.exec_eq hmax
  rw [Db.nonce_commit, if_pos (hpost.touched hlt.2)]
  exact lt_of_lt_of_le hlt.1 hpost.le

/-! ### The interpreter of transfers -/

lemma transferRevm_checksNonce : transferRevm.ChecksNonce := by
  intro info tx cfg hcfg h
  by_contra hne
  have herror : transferRevm.validateAccountNonceAndCode info tx cfg = checkNonce info tx cfg := rfl
  rw [herror, checkNonce, if_neg (by simp [hcfg])] at h
  split_ifs at h

lemma transferRevm_rejectsLastNonce : transferRevm.RejectsLastNonce := by
  intro env extra prepared hprepare hcfg
  obtain ⟨initialGas, -, hprepare⟩ := bind_eq_ok.mp hprepare
  obtain ⟨ctx, hdeduct, -⟩ := bind_eq_ok.mp hprepare
  obtain ⟨⟨info, hvalid, -⟩, -⟩ := validateAgainstStateAndDeductCaller_nonce (x := 0) hdeduct
  have hcheck : checkNonce info env.tx env.cfg = .ok () := hvalid
  rw [checkNonce, if_neg (by simp [hcfg])] at hcheck
  have hne : env.tx.nonce ≠ BitVec.allOnes 64 := fun h => by simp [h] at hcheck
  have hlt := env.tx.nonce.isLt
  rw [ne_eq, BitVec.toNat_eq, BitVec.toNat_allOnes] at hne
  rw [maxNonce]
  omega

/-- How a transfer's only frame is answered. -/
def transferOpened (env : Env) (evm : TaikoEvm transferRevm) :
    Except ContextError (ItemOrResult Unit (FrameResult transferRevm.Output)) ×
      TaikoEvm transferRevm :=
  match bumpCreator env evm.ctx with
  | .error e => (.error e, evm)
  | .ok ctx =>
    (.ok (.result (.call (wholeGas env.tx.gasLimit) false ())), { evm with ctx := ctx })

lemma transferRevm_frameInit (env : Env) (evm : TaikoEvm transferRevm)
    (input : FrameInput transferRevm.Input) :
    frameInit env evm input = transferOpened env evm ∧
      inspectFrameInit env evm input = transferOpened env evm := by
  have hinit : transferRevm.initWithContext env evm.ctx input
      = match bumpCreator env evm.ctx with
        | .error e => (.error e, evm.ctx)
        | .ok ctx => (.ok (.result (.call (wholeGas env.tx.gasLimit) false ())), ctx) := rfl
  rw [inspectFrameInit, frameInit, hinit, transferOpened]
  cases bumpCreator env evm.ctx with
  | error e => exact ⟨rfl, rfl⟩
  | ok ctx =>
    -- no precompile was called, so neither path charges one
    refine ⟨rfl, ?_⟩
    cases input <;> rfl

/-- A transfer has one frame, which does nothing but bump the nonce of a creation, and
uses the whole gas limit. -/
lemma transferRevm_exec {inspect : Bool} {env : Env} {input : FrameInput transferRevm.Input}
    {ctx : Context transferRevm.Scratch} {meter : Option ZkGasMeter}
    {inspector : Option ZkGasMeteringState} {result : FrameResult transferRevm.Output}
    {evm : TaikoEvm transferRevm}
    (h : exec inspect env transferRevm.fuel (.init input, ⟨ctx, [], meter, inspector⟩)
      = .ok (.done (.ok result), evm)) :
    bumpCreator env ctx = .ok evm.ctx ∧ result.gas = wholeGas env.tx.gasLimit := by
  obtain ⟨hplain, hinspected⟩ := transferRevm_frameInit env ⟨ctx, [], meter, inspector⟩ input
  have hfuel : transferRevm.fuel = 1 := rfl
  have hopened : Except.ok (afterInit true (transferOpened env ⟨ctx, [], meter, inspector⟩).1,
      (transferOpened env ⟨ctx, [], meter, inspector⟩).2)
        = (.ok (.done (.ok result), evm) : Except Panic _) := by
    rw [hfuel, exec_succ, stepOn] at h
    cases inspect with
    | false => rwa [if_neg Bool.false_ne_true, execStep, hplain] at h
    | true => rwa [if_pos rfl, inspectExecStep, hinspected] at h
  rw [transferOpened] at hopened
  cases hbump : bumpCreator env ctx with
  | error e => simp only [hbump] at hopened; cases hopened
  | ok ctx' => simp only [hbump] at hopened; cases hopened; exact ⟨rfl, rfl⟩

lemma bumpCreator_nonce {env : Env} {ctx ctx' : Context Unit} {x : Address}
    (h : bumpCreator env ctx = .ok ctx') :
    ctx.journal.NonceKept env.db x ctx'.journal ∧
      (env.tx.kind.isCall = false → ctx'.journal.isTouched env.tx.caller = true ∧
        (ctx.journal.nonceOf env.db env.tx.caller < maxNonce →
          ctx.journal.nonceOf env.db env.tx.caller
            < ctx'.journal.nonceOf env.db env.tx.caller)) := by
  rw [bumpCreator] at h
  cases hkind : env.tx.kind.isCall with
  | true =>
    rw [hkind, if_pos rfl] at h
    cases h
    exact ⟨.refl _ _ _, fun hcall => by cases hcall⟩
  | false =>
    rw [hkind, if_neg Bool.false_ne_true] at h
    cases hload : ctx.journal.loadAccount env.db env.tx.caller with
    | error e => rw [hload] at h; cases h
    | ok loaded =>
      obtain ⟨account, journal⟩ := loaded
      obtain ⟨hread, hsame, hkept⟩ := Journal.loadAccount_nonceOf (x := x) hload
      rw [hload] at h
      cases h
      refine ⟨hkept.trans (Journal.setAccount_nonceKept (fun _ => ?_) rfl), fun _ => ⟨?_, ?_⟩⟩
      · rw [hsame, ← hread]
        exact account.le_bumpNonce
      · simp [Journal.isTouched, Journal.setAccount, Account.bumpNonce]
      · intro hmax
        rw [← hread] at hmax ⊢
        have hbump := account.bumpNonce_nonce hmax
        simp only [Journal.nonceOf, Journal.setAccount, Function.update_self]
        omega

lemma transferRevm_keepsNonce (a : Address) : transferRevm.KeepsNonce a where
  loadAccounts env ctx ctx' h := by cases h; exact .refl _ _ _
  authList env ctx refund ctx' h := by cases h; exact .refl _ _ _
  firstFrame env ctx initialGas input ctx' h := by cases h; exact .refl _ _ _
  frames _ _ _ _ _ _ _ _ h := (bumpCreator_nonce (transferRevm_exec h).1).1

lemma transferRevm_bumpsCreator (a : Address) : transferRevm.BumpsCreator a := by
  rintro inspect env extra prepared meter inspector result evm hprepare rfl hkind hexec hmax
  obtain ⟨initialGas, -, hprepare⟩ := bind_eq_ok.mp hprepare
  obtain ⟨ctx, hdeduct, hprepare⟩ := bind_eq_ok.mp hprepare
  have hle : env.db.nonce env.tx.caller ≤ ctx.journal.nonceOf env.db env.tx.caller :=
    (validateAgainstStateAndDeductCaller_nonce (x := env.tx.caller) hdeduct).2.1.le
  have hctx : prepared.ctx = ctx := by
    cases hprepare
    rfl
  obtain ⟨hkept, hcreation⟩ :=
    bumpCreator_nonce (x := env.tx.caller) (transferRevm_exec hexec).1
  obtain ⟨htouched, hraised⟩ := hcreation hkind
  rw [hctx] at hkept hraised
  refine ⟨?_, htouched⟩
  by_cases hlast : ctx.journal.nonceOf env.db env.tx.caller < maxNonce
  · exact lt_of_le_of_lt hle (hraised hlast)
  · exact lt_of_lt_of_le (lt_of_lt_of_le hmax (not_lt.mp hlast)) hkept.le

end AlethiaReth
