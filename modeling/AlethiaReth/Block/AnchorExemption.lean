import AlethiaReth.Evm.Fees
import AlethiaReth.Evm.Nonces
import AlethiaReth.Block.Committed

/-!
The fee exemption of the anchor over a whole block: of the golden-touch transactions a block is
offered one at most is exempt, and in a block with a valid anchor only the first can be
(`anchor_exempt_once`).
-/

namespace AlethiaReth

open MachineInt Outcome Filtering

namespace TaikoBlockExecutor

variable (revm : Revm) (checks : OverflowChecks)

/-- The executor commits a transaction, treating it as the anchor or not. -/
def CommitsAs (e : TaikoBlockExecutor) (item : Recovered × Bool) (e' : TaikoBlockExecutor) :
    Prop :=
  (∃ shouldCommit gasUsed, e.executeTransactionWithCommitCondition revm checks item.1 shouldCommit
    = .ok (.ok (some gasUsed), e')) ∧
  item.2 = deductionExempt e.evm.extraExecutionCtx item.1.toTxEnv e.evm.cfg

/-- The executor does anything else: a transaction fails or is declined, exhaustion is
cleared, zk gas is reserved. -/
def Idles (e e' : TaikoBlockExecutor) : Prop :=
  (∃ tx shouldCommit answer, e.executeTransactionWithCommitCondition revm checks tx shouldCommit
    = .ok (answer, e') ∧ ∀ gasUsed, answer ≠ .ok (some gasUsed)) ∨
  e' = e.clearZkGasExhaustion ∨ ∃ amount, e' = (e.reserveBlockZkGas amount).2

/-- The golden-touch nonce in the database of an executor. -/
def goldenTouchNonce (e : TaikoBlockExecutor) : ℕ := e.evm.db.nonce goldenTouch

/-- The executor has its anchor context and checks nonces. -/
structure Guarded (pctg nonce : U64) (e : TaikoBlockExecutor) : Prop where
  anchored : e.Anchored pctg nonce
  checked : e.evm.cfg.disableNonceCheck = false

variable {revm checks} {e e' : TaikoBlockExecutor} {pctg nonce : U64}

lemma CommitsAs.commits {item : Recovered × Bool} (h : CommitsAs revm checks e item e') :
    Commits revm checks e item.1 e' := by
  obtain ⟨⟨shouldCommit, gasUsed, h⟩, -⟩ := h
  obtain ⟨⟨answer, e₁⟩, hresult, h⟩ := bind_eq_ok.mp h
  cases answer with
  | error error => cases h
  | ok output =>
    dsimp only at h
    split at h
    · obtain ⟨⟨gasUsed', e₂⟩, hcommit, h⟩ := bind_eq_ok.mp h
      cases h
      exact ⟨_, executeTransaction_eq_ok.mpr ⟨output, e₁, hresult, hcommit⟩⟩
    · cases h

/-- Of the EVM, anything but a commit moves only meters. -/
lemma Idles.sameBut (ht : Tended e) (h : Idles revm checks e e') :
    TaikoEvmWrapper.SameBut e.evm e'.evm ∧ Tended e' := by
  rcases h with ⟨tx, shouldCommit, answer, h, hanswer⟩ | rfl | ⟨amount, rfl⟩
  · obtain ⟨⟨first, e₁⟩, hresult, h⟩ := bind_eq_ok.mp h
    have hkept : Kept e e₁ :=
      (executeTransactionWithoutCommit_kept revm checks ht.owns tx).of_ok hresult
    cases first with
    | error error =>
      cases h
      exact ⟨hkept.sameBut, hkept.tended ht⟩
    | ok output =>
      dsimp only at h
      split at h
      · obtain ⟨⟨gasUsed, e₂⟩, -, h⟩ := bind_eq_ok.mp h
        cases h
        exact absurd rfl (hanswer gasUsed)
      · cases h
        have hkept := hkept.trans e₁.resetCurrentTransactionZkGas_kept
        exact ⟨hkept.sameBut, hkept.tended ht⟩
  · have hkept := e.clearZkGasExhaustion_kept
    exact ⟨hkept.sameBut, hkept.tended ht⟩
  · obtain ⟨hsame, htended, -, -⟩ := reserveBlockZkGas_tended ht amount
    exact ⟨hsame, htended⟩

/-- An exempt transaction comes from the golden touch, at the nonce of the context. -/
lemma deductionExempt_new {tx : TxEnv} {cfg : CfgEnv}
    (h : deductionExempt (some (.new pctg goldenTouch nonce)) tx cfg = true) :
    tx.caller = goldenTouch ∧ tx.nonce = nonce := by
  simp only [deductionExempt, Option.any_some, decide_eq_true_eq,
    TaikoEvmExtraExecutionCtx.new] at h
  exact ⟨h.1.symm, h.2.1.symm⟩

lemma Guarded.idle (h : Guarded pctg nonce e) (hidle : Idles revm checks e e') :
    Guarded pctg nonce e' ∧ e'.goldenTouchNonce = e.goldenTouchNonce := by
  obtain ⟨hsame, htended⟩ := hidle.sameBut h.anchored.tended
  rw [TaikoEvmWrapper.SameBut] at hsame
  refine ⟨⟨⟨htended, ?_⟩, ?_⟩, ?_⟩
  · rw [hsame]
    exact h.anchored.context
  · rw [hsame]
    exact h.checked
  · rw [goldenTouchNonce, hsame, goldenTouchNonce]

section Laws

variable (hchecks : revm.ChecksNonce) (hlast : revm.RejectsLastNonce)
  (hkeeps : revm.KeepsNonce goldenTouch) (hcreator : revm.BumpsCreator goldenTouch)
include hchecks hlast hkeeps hcreator

/-- A commit takes no golden-touch nonce back; a golden-touch transaction commits at
that nonce and raises it. -/
lemma Guarded.commit (h : Guarded pctg nonce e) {tx : Recovered}
    (hcommit : Commits revm checks e tx e') :
    Guarded pctg nonce e' ∧ e.goldenTouchNonce ≤ e'.goldenTouchNonce ∧
      (tx.signer = goldenTouch → tx.tx.nonce.toNat = e.goldenTouchNonce ∧
        e.goldenTouchNonce < e'.goldenTouchNonce) := by
  obtain ⟨hanchored, hcfg, -⟩ := h.anchored.commit hcommit
  obtain ⟨run⟩ := hcommit.run h.anchored.tended.owns
  have hdb : e'.evm.db = e.evm.db.commit run.outcome.2 := by rw [run.evm_eq]
  obtain ⟨hnonce, hle, hlt⟩ := run.ran.nonce hchecks hlast hkeeps hcreator h.checked
  refine ⟨⟨hanchored, by rw [hcfg]; exact h.checked⟩, ?_, fun hsigner => ⟨?_, ?_⟩⟩
  · rw [goldenTouchNonce, goldenTouchNonce, hdb]
    exact hle
  · have hcaller : (e.env tx).tx.caller = goldenTouch := hsigner
    rw [hcaller] at hnonce
    exact hnonce
  · rw [goldenTouchNonce, goldenTouchNonce, hdb]
    exact hlt hsigner

/-- An exempt transaction commits only at the nonce of the context, and leaves it. -/
lemma CommitsAs.guarded (h : Guarded pctg nonce e) {item : Recovered × Bool}
    (hcommit : CommitsAs revm checks e item e') :
    Guarded pctg nonce e' ∧ e.goldenTouchNonce ≤ e'.goldenTouchNonce ∧
      (item.2 = true → e.goldenTouchNonce = nonce.toNat ∧ nonce.toNat < e'.goldenTouchNonce) := by
  obtain ⟨hguarded, hle, hsigned⟩ := h.commit hchecks hlast hkeeps hcreator hcommit.commits
  have hexempt := hcommit.2
  refine ⟨hguarded, hle, fun hitem => ?_⟩
  rw [hitem, h.anchored.context] at hexempt
  obtain ⟨hcaller, hnonce⟩ := deductionExempt_new hexempt.symm
  obtain ⟨hat, hraised⟩ := hsigned hcaller
  have hat : e.goldenTouchNonce = nonce.toNat := by
    rw [← hat]
    exact congrArg BitVec.toNat hnonce
  exact ⟨hat, hat ▸ hraised⟩

/-- When the first committed transaction is a golden-touch transaction, no later one is
exempt. -/
lemma Guarded.exempt_tail (h : Guarded pctg nonce e) (hstart : e.goldenTouchNonce = nonce.toNat)
    {first : Recovered × Bool} {rest : List (Recovered × Bool)}
    (hrun : Filtered (CommitsAs revm checks) (Idles revm checks) e (first :: rest) e')
    (hsigner : first.1.signer = goldenTouch) : ∀ item ∈ rest, item.2 = false := by
  refine hrun.unmarked_tail (fun _ _ hidle hs => hs.idle hidle)
    (fun _ _ _ hcommit hs => hcommit.guarded hchecks hlast hkeeps hcreator hs) h hstart ?_
  intro s s₁ hs hat hfirst
  rw [← hat]
  exact ((hs.commit hchecks hlast hkeeps hcreator hfirst.commits).2.2 hsigner).2

end Laws

/-- The calls before the first transaction leave the executor guarded, at the nonce of
its context. -/
lemma applyPreExecutionChanges_guarded {e₀ : TaikoBlockExecutor} (hfresh : Fresh e₀)
    (hchecked : e₀.evm.cfg.disableNonceCheck = false)
    (hpre : e₀.applyPreExecutionChanges revm checks = .ok (.ok (), e)) :
    ∃ pctg nonce, e₀.baseFeeSharePctg = .ok pctg ∧ Guarded pctg nonce e ∧
      e.goldenTouchNonce = nonce.toNat := by
  obtain ⟨pctg, account, hpctg, hbasic, hanchored, hcfg, -⟩ :=
    applyPreExecutionChanges_anchored hfresh hpre
  refine ⟨pctg, _, hpctg, ⟨hanchored, by rw [hcfg]; exact hchecked⟩, ?_⟩
  rw [goldenTouchNonce, Db.nonce, hbasic]
  cases account <;> rfl

/-- The first transaction of a block with a valid anchor is a golden-touch transaction. -/
lemma signer_of_validAnchor {first : Recovered} {rest : List TransactionSigned}
    {spec : TaikoChainSpec} {timestamp number : U64} {baseFeePerGas : Option U64}
    (hrecovered : first.tx.recovered = some first.signer)
    (hvalid : validateAnchorTransactionInBlock timestamp number baseFeePerGas
      (first.tx :: rest) spec = .ok ()) : first.signer = goldenTouch := by
  cases baseFeePerGas with
  | none => cases hvalid
  | some baseFee =>
    have hsender := (validateAnchorTransaction_eq_ok.mp hvalid).sender
    exact Option.some.inj (hrecovered.symm.trans hsender)

/-- Over every block: at most one of the transactions it commits is treated as the anchor;
the three tests of the anchor agree on every transaction; and if the block has a valid
anchor, only its first transaction can be the exempt one. -/
theorem anchor_exempt_once (hchecks : revm.ChecksNonce) (hlast : revm.RejectsLastNonce)
    (hkeeps : revm.KeepsNonce goldenTouch) (hcreator : revm.BumpsCreator goldenTouch)
    {e₀ : TaikoBlockExecutor} (hfresh : Fresh e₀)
    (hchecked : e₀.evm.cfg.disableNonceCheck = false)
    (hpre : e₀.applyPreExecutionChanges revm checks = .ok (.ok (), e))
    {items : List (Recovered × Bool)}
    (hrun : Filtered (CommitsAs revm checks) (Idles revm checks) e items e') :
    items.countP (·.2) ≤ 1 ∧
    (∀ extra tx cfg, reimbursementExempt extra tx cfg = deductionExempt extra tx cfg ∧
      ∀ ctx, extra = some ctx → sharingExempt ctx tx cfg = deductionExempt extra tx cfg) ∧
    ((∀ item ∈ items, item.1.tx.recovered = some item.1.signer) →
      ∀ timestamp number baseFeePerGas, validateAnchorTransactionInBlock timestamp number
          baseFeePerGas (items.map (·.1.tx)) e₀.spec = .ok () →
        ∀ item ∈ items.tail, item.2 = false) := by
  obtain ⟨pctg, nonce, -, hguarded, hstart⟩ :=
    applyPreExecutionChanges_guarded hfresh hchecked hpre
  refine ⟨hrun.countP_marked_le_one (fun _ _ h hs => Guarded.idle hs h)
      (fun _ _ _ h hs => CommitsAs.guarded hchecks hlast hkeeps hcreator hs h) hguarded,
    fun extra tx cfg => ?_, fun hrecovered timestamp number baseFeePerGas hvalid => ?_⟩
  · refine ⟨reimbursementExempt_eq extra tx cfg, ?_⟩
    rintro ctx rfl
    exact sharingExempt_eq ctx tx cfg
  · cases items with
    | nil => simp
    | cons first rest =>
      have hsigner := signer_of_validAnchor (hrecovered first List.mem_cons_self) hvalid
      exact hguarded.exempt_tail hchecks hlast hkeeps hcreator hstart hrun hsigner

/-! ### Golden-touch transactions in a block of transfers -/

/-- A block over a database in which the golden touch has funds and a nonce. -/
def goldenTouchExecutor (nonce : U64) : TaikoBlockExecutor :=
  new (.createEvm (emptyDb.put goldenTouch 1000000000 nonce) transferCfg transferBlock)
    ⟨0, some 0, [], true, none, 0⟩ transferSpec

lemma goldenTouchExecutor_fresh (nonce : U64) : Fresh (goldenTouchExecutor nonce) :=
  ⟨rfl, _, transferCfg, transferBlock, .inl rfl⟩

/-- The executor before the first transaction of such a block. -/
def goldenTouchStarted (nonce : U64) : TaikoBlockExecutor :=
  leftBy (goldenTouchExecutor nonce)
    ((goldenTouchExecutor nonce).applyPreExecutionChanges transferRevm .on)

/-- What a transaction leaves of an executor. -/
def afterTransfer (e : TaikoBlockExecutor) (tx : Recovered) : TaikoBlockExecutor :=
  leftBy e (e.executeTransaction transferRevm .on tx)

/-- The anchor, its repetition, and the next golden-touch transaction: the first and the
last commit, and the last pays its fees. -/
theorem anchor_exempt_once_transfer :
    [(goldenTouchTx 0, true), (goldenTouchTx 1, false)].countP (·.2) ≤ 1 ∧
      ∀ item ∈ [(goldenTouchTx 0, true), (goldenTouchTx 1, false)].tail, item.2 = false := by
  have hrun : Filtered (CommitsAs transferRevm .on) (Idles transferRevm .on)
      (goldenTouchStarted 0) [(goldenTouchTx 0, true), (goldenTouchTx 1, false)]
      (afterTransfer (afterTransfer (afterTransfer (goldenTouchStarted 0) (goldenTouchTx 0))
        (goldenTouchTx 0)) (goldenTouchTx 1)) :=
    .commit ⟨⟨fun _ => true, _, rfl⟩, rfl⟩
      (.discard (.inl ⟨goldenTouchTx 0, fun _ => true, _, rfl, by rintro _ ⟨⟩⟩)
        (.commit ⟨⟨fun _ => true, _, rfl⟩, rfl⟩ (.nil _)))
  obtain ⟨honce, -, hfirst⟩ := anchor_exempt_once transferRevm_checksNonce
    transferRevm_rejectsLastNonce (transferRevm_keepsNonce goldenTouch)
    (transferRevm_bumpsCreator goldenTouch) (goldenTouchExecutor_fresh 0) rfl rfl hrun
  exact ⟨honce, hfirst (by decide) 1 1 (some 7) rfl⟩

end TaikoBlockExecutor

end AlethiaReth
