import AlethiaReth.Block.Committed
import AlethiaReth.Consensus.Validation

/-!
The calls before the first transaction, however often they are made and however they end: what
is left of environment, accounts, anchor context and zk gas (`preExecution_frame`).
-/

namespace AlethiaReth

open MachineInt Outcome

/-! ### Changesets -/

/-- The second database is the first with changesets committed that touch only the contracts. -/
def Db.Writes (contracts : List Address) (db db' : Db) : Prop :=
  ∃ changesets : List EvmState, db' = changesets.foldl Db.commit db ∧
    ∀ state ∈ changesets, ∀ address, state address ≠ none → address ∈ contracts

namespace Db.Writes

variable {contracts : List Address} {db db₁ db' : Db}

lemma refl (contracts : List Address) (db : Db) : Writes contracts db db := ⟨[], rfl, nofun⟩

lemma trans (h : Writes contracts db db₁) (h' : Writes contracts db₁ db') :
    Writes contracts db db' := by
  obtain ⟨changesets, rfl, htouched⟩ := h
  obtain ⟨changesets', rfl, htouched'⟩ := h'
  refine ⟨changesets ++ changesets', List.foldl_append.symm, fun state hstate => ?_⟩
  rcases List.mem_append.mp hstate with hstate | hstate
  · exact htouched state hstate
  · exact htouched' state hstate

/-- An account that is none of the contracts stays as it is. -/
lemma account_eq (h : Writes contracts db db') {address : Address} (ha : address ∉ contracts) :
    db'.basic address = db.basic address ∧ db'.storage address = db.storage address := by
  obtain ⟨changesets, rfl, htouched⟩ := h
  induction changesets generalizing db with
  | nil => exact ⟨rfl, rfl⟩
  | cons state changesets ih =>
    rw [List.forall_mem_cons] at htouched
    have hnone : state address = none := by
      by_contra hsome
      exact ha (htouched.1 address hsome)
    have hcommit : (db.commit state).basic address = db.basic address ∧
        (db.commit state).storage address = db.storage address := by
      simp only [commit, hnone, and_self]
    have hrest : ((state :: changesets).foldl commit db).basic address =
        (db.commit state).basic address ∧
        ((state :: changesets).foldl commit db).storage address =
          (db.commit state).storage address := ih htouched.2
    exact ⟨hrest.1.trans hcommit.1, hrest.2.trans hcommit.2⟩

end Db.Writes

/-! ### The two addresses -/

/-- The treasury address ends in the suffix of its digits. -/
lemma getTreasuryAddress_mod (chainId : U64) : (getTreasuryAddress chainId).toNat % 2 ^ 16 = 1 := by
  have hlength : (Nat.digits 10 chainId.toNat).length ≤ 20 := by
    rw [Nat.digits_length_le_iff (by norm_num)]
    exact lt_trans chainId.isLt (by norm_num)
  obtain ⟨k, hk⟩ : ∃ k, 40 - (Nat.digits 10 chainId.toNat).length = 4 + k :=
    ⟨36 - (Nat.digits 10 chainId.toNat).length, by omega⟩
  rw [getTreasuryAddress, hk, BitVec.toNat_ofNat, Nat.mod_mod_of_dvd _ (by norm_num), pow_add]
  have hpow : (16 : ℕ) ^ 4 = 2 ^ 16 := by norm_num
  rw [hpow, ← mul_assoc, mul_comm _ (2 ^ 16), mul_assoc]
  omega

namespace TaikoEvmWrapper

/-- A system call that is not the anchor's charges the meters, and its changeset has at most the
contract it calls. -/
lemma transactSystemCall_contract (revm : Revm) (checks : OverflowChecks) (evm : TaikoEvmWrapper)
    {caller : Address} (hcaller : caller ≠ goldenTouch) (contract : Address) (data : Bytes)
    (hreset : evm.resetZkGasPerTransact = false) (hderive : evm.deriveAnchorCtx = false) :
    Satisfies (fun _ => True)
      (fun out => Transacted evm out.2 ∧
        ∀ res, out.1 = .ok res → ∀ address, res.state address ≠ none → address = contract)
      (evm.transactSystemCall revm checks caller contract data) := by
  rw [transactSystemCall, if_neg fun h => hcaller h.1]
  refine Satisfies.bind (transactRaw_spec revm checks _ _ hreset hderive) fun out hout => ?_
  obtain ⟨outcome, evm'⟩ := out
  have hsame : evm' = _ := hout.same
  refine ⟨⟨?_, hout.charged⟩, fun res hres address hsome => ?_⟩
  · rw [hsame]
  · cases outcome with
    | error error => cases hres
    | ok r =>
      cases hres
      by_contra hne
      exact hsome (if_neg hne)

end TaikoEvmWrapper

namespace TaikoBlockExecutor

variable {revm : Revm} {checks : OverflowChecks} {e e₀ e₁ e' : TaikoBlockExecutor}
  {answer : Except BlockExecutionError Unit} {spec : TaikoChainSpec}

/-! ### The system calls -/

/-- The contracts that the calls before the first transaction of a block go to. -/
def systemContracts (e : TaikoBlockExecutor) : List Address :=
  (if e.spec.isPragueActiveAtTimestamp e.evm.block.timestamp ∧ e.evm.block.number ≠ 0 then
    [historyStorageAddress] else []) ++
  (if e.spec.isCancunActiveAtTimestamp e.evm.block.timestamp ∧ e.evm.block.number ≠ 0 then
    [beaconRootsAddress] else [])

lemma mem_systemContracts {address : Address} (h : address ∈ e.systemContracts) :
    address = historyStorageAddress ∨ address = beaconRootsAddress := by
  rw [systemContracts, List.mem_append] at h
  rcases h with h | h
  · split at h
    · exact .inl (List.mem_singleton.mp h)
    · cases h
  · split at h
    · exact .inr (List.mem_singleton.mp h)
    · cases h

lemma goldenTouch_not_mem_systemContracts : goldenTouch ∉ e.systemContracts := by
  intro h
  rcases mem_systemContracts h with h | h
  · exact absurd h (by decide)
  · exact absurd h (by decide)

lemma treasury_not_mem_systemContracts (chainId : U64) :
    getTreasuryAddress chainId ∉ e.systemContracts := by
  have hmod := getTreasuryAddress_mod chainId
  intro h
  rcases mem_systemContracts h with h | h
  · rw [h] at hmod
    exact absurd hmod (by decide)
  · rw [h] at hmod
    exact absurd hmod (by decide)

/-- System calls write to their contracts, charge the meters, and leave the rest of the executor
alone. -/
structure SystemCalls (contracts : List Address) (e e' : TaikoBlockExecutor) : Prop where
  same : e' = { e with
    evm := { e.evm with
      db := e'.evm.db
      zkGasMeter := e'.evm.zkGasMeter
      inspector := e'.evm.inspector } }
  writes : e.evm.db.Writes contracts e'.evm.db
  charged : HomesCharged ⟨e.evm.zkGasMeter, e.evm.inspector⟩ ⟨e'.evm.zkGasMeter, e'.evm.inspector⟩

namespace SystemCalls

variable {contracts : List Address}

lemma refl (contracts : List Address) (e : TaikoBlockExecutor) : SystemCalls contracts e e :=
  ⟨rfl, .refl _ _, .refl _⟩

lemma trans (h : SystemCalls contracts e e₁) (h' : SystemCalls contracts e₁ e') :
    SystemCalls contracts e e' where
  same := by
    have h₁ := h.same
    have h₂ := h'.same
    rw [h₂, h₁]
  writes := h.writes.trans h'.writes
  charged := h.charged.trans h'.charged

lemma of_transacted {evm : TaikoEvmWrapper} (h : TaikoEvmWrapper.Transacted e.evm evm) (db : Db)
    (hwrites : e.evm.db.Writes contracts db) :
    SystemCalls contracts e { e with evm := { evm with db := db } } where
  same := by
    have hsame := h.same
    dsimp only
    conv_lhs => rw [hsame]
  writes := hwrites
  charged := h.charged

lemma ownsEvm (h : SystemCalls contracts e e') (ho : OwnsEvm e) : OwnsEvm e' := by
  rw [h.same]
  exact ⟨ho.reset, ho.derive⟩

lemma systemContracts_eq (h : SystemCalls contracts e e') :
    e'.systemContracts = e.systemContracts := by
  rw [h.same]
  rfl

end SystemCalls

lemma applySystemCall_calls (revm : Revm) (checks : OverflowChecks) (ho : OwnsEvm e)
    {contracts : List Address} {contract : Address} (hmem : contract ∈ contracts) (data : Bytes)
    (failure : String → BlockValidationError) :
    Satisfies (fun _ => True) (fun out => SystemCalls contracts e out.2)
      (e.applySystemCall revm checks contract data failure) := by
  have hcaller : systemAddress ≠ goldenTouch := by decide
  refine Satisfies.bind (e.evm.transactSystemCall_contract revm checks hcaller contract data
    ho.reset ho.derive) fun out hout => ?_
  obtain ⟨outcome, evm⟩ := out
  obtain ⟨htransacted, htouched⟩ := hout
  have hdb : evm.db = e.evm.db := by
    have hsame : evm = _ := htransacted.same
    rw [hsame]
  cases outcome with
  | error error =>
    refine .of_transacted htransacted evm.db ?_
    rw [hdb]
    exact .refl _ _
  | ok res =>
    refine .of_transacted htransacted (evm.db.commit res.state) ⟨[res.state], ?_, ?_⟩
    · rw [hdb]
      rfl
    · intro state hstate address hsome
      rw [List.mem_singleton.mp hstate] at hsome
      rw [htouched res rfl address hsome]
      exact hmem

lemma applyBlockhashesContractCall_calls (revm : Revm) (checks : OverflowChecks) (ho : OwnsEvm e) :
    Satisfies (fun _ => True) (fun out => SystemCalls e.systemContracts e out.2)
      (e.applyBlockhashesContractCall revm checks) := by
  rw [applyBlockhashesContractCall]
  split
  · exact .refl _ e
  · next hcall =>
    refine applySystemCall_calls revm checks ho ?_ _ _
    rw [systemContracts, if_pos (by simpa using hcall)]
    exact List.mem_append_left _ (List.mem_singleton_self _)

lemma applyBeaconRootContractCall_calls (revm : Revm) (checks : OverflowChecks) (ho : OwnsEvm e) :
    Satisfies (fun _ => True) (fun out => SystemCalls e.systemContracts e out.2)
      (e.applyBeaconRootContractCall revm checks) := by
  rw [applyBeaconRootContractCall]
  split
  · exact .refl _ e
  · next hactive =>
    split
    · exact .refl _ e
    · split
      · split <;> exact .refl _ e
      · next hnumber =>
        refine applySystemCall_calls revm checks ho ?_ _ _
        have hcall : e.spec.isCancunActiveAtTimestamp e.evm.block.timestamp = true ∧
            e.evm.block.number ≠ 0 := ⟨by simpa using hactive, hnumber⟩
        rw [systemContracts, if_pos hcall]
        exact List.mem_append_right _ (List.mem_singleton_self _)

/-! ### The anchor context -/

/-- The anchor context: the share of the block, the golden-touch nonce of its state, and the mark
of the system call. -/
structure AnchorContext (e : TaikoBlockExecutor) (ctx : TaikoEvmExtraExecutionCtx) : Prop where
  pctg : e.baseFeeSharePctg = .ok ctx.baseFeeSharePctg
  caller : ctx.anchorCallerAddress = goldenTouch
  nonce : ∃ account, e.evm.db.basic goldenTouch = .ok account ∧
    ctx.anchorCallerNonce = (account.map (·.nonce)).getD 0
  authoritative : ctx.fromAnchorSystemCall = true

/-- The anchor context is installed, or the executor has answered an error before that. -/
structure Installs (e : TaikoBlockExecutor) (answer : Except BlockExecutionError Unit)
    (e' : TaikoBlockExecutor) : Prop where
  same : e' = { e with
    evm := { e.evm with extraExecutionCtx := e'.evm.extraExecutionCtx }
    evmExtraExecutionCtxInitialized := e'.evmExtraExecutionCtxInitialized }
  answered : answer = .ok () → e'.evmExtraExecutionCtxInitialized = true
  once : e.evmExtraExecutionCtxInitialized = true → e' = e
  installed : e'.evmExtraExecutionCtxInitialized = false ∧
      e'.evm.extraExecutionCtx = e.evm.extraExecutionCtx ∨
    e.evmExtraExecutionCtxInitialized = true ∨
    ∃ ctx, e'.evm.extraExecutionCtx = some ctx ∧ AnchorContext e ctx

lemma initializeAnchorContext_installs
    (h : e.initializeAnchorContext revm checks = .ok (answer, e')) : Installs e answer e' := by
  have hnot {p : Prop} (hinit : e.evmExtraExecutionCtxInitialized = false)
      (htrue : e.evmExtraExecutionCtxInitialized = true) : p := by
    rw [hinit] at htrue
    cases htrue
  cases initializeAnchorContext_initializes h with
  | before hinit => exact ⟨rfl, fun _ => hinit, fun _ => rfl, .inr (.inl hinit)⟩
  | unread hinit error => exact ⟨rfl, (by rintro ⟨⟩), hnot hinit, .inl ⟨hinit, rfl⟩⟩
  | failed hinit hbasic hpctg error =>
    have hcontext : AnchorContext e (.new _ goldenTouch _) := ⟨hpctg, rfl, ⟨_, hbasic, rfl⟩, rfl⟩
    exact ⟨rfl, (by rintro ⟨⟩), hnot hinit, .inr (.inr ⟨_, rfl, hcontext⟩)⟩
  | installed hinit hbasic hpctg =>
    have hcontext : AnchorContext e (.new _ goldenTouch _) := ⟨hpctg, rfl, ⟨_, hbasic, rfl⟩, rfl⟩
    exact ⟨rfl, fun _ => rfl, hnot hinit, .inr (.inr ⟨_, rfl, hcontext⟩)⟩

/-- The anchor context is installed after the system calls; an error may end them before. -/
lemma applyPreExecutionChanges_calls (ho : OwnsEvm e)
    (h : e.applyPreExecutionChanges revm checks = .ok (answer, e')) :
    ∃ e₁, SystemCalls e.systemContracts e e₁ ∧
      (e' = e₁ ∧ answer ≠ .ok () ∨ Installs e₁ answer e') := by
  obtain ⟨⟨hashed, e₁⟩, hhashes, h⟩ := bind_eq_ok.mp h
  have hcalls : SystemCalls e.systemContracts e e₁ :=
    (applyBlockhashesContractCall_calls revm checks ho).of_ok hhashes
  cases hashed with
  | error error =>
    cases h
    exact ⟨_, hcalls, .inl ⟨rfl, nofun⟩⟩
  | ok u =>
    obtain ⟨⟨rooted, e₂⟩, hroot, h⟩ := bind_eq_ok.mp h
    have hcalls' : SystemCalls e₁.systemContracts e₁ e₂ :=
      (applyBeaconRootContractCall_calls revm checks (hcalls.ownsEvm ho)).of_ok hroot
    rw [hcalls.systemContracts_eq] at hcalls'
    cases rooted with
    | error error =>
      cases h
      exact ⟨_, hcalls.trans hcalls', .inl ⟨rfl, nofun⟩⟩
    | ok u => exact ⟨e₂, hcalls.trans hcalls', .inr (initializeAnchorContext_installs h)⟩

/-! ### Any number of calls -/

variable (revm checks) in
/-- A call before the first transaction, whatever it answers. -/
def PreExecutes (e e' : TaikoBlockExecutor) : Prop :=
  ∃ answer, e.applyPreExecutionChanges revm checks = .ok (answer, e')

/-- An executor with its anchor context installed keeps it. -/
lemma PreExecutes.context_eq (ho : OwnsEvm e) (h : PreExecutes revm checks e e')
    (hinit : e.evmExtraExecutionCtxInitialized = true) :
    e'.evm.extraExecutionCtx = e.evm.extraExecutionCtx ∧
      e'.evmExtraExecutionCtxInitialized = true := by
  obtain ⟨answer, h⟩ := h
  obtain ⟨e₁, hcalls, hrest⟩ := applyPreExecutionChanges_calls ho h
  have hsame : e₁.evm.extraExecutionCtx = e.evm.extraExecutionCtx ∧
      e₁.evmExtraExecutionCtxInitialized = true := by
    rw [hcalls.same]
    exact ⟨rfl, hinit⟩
  rcases hrest with ⟨rfl, -⟩ | hinstalls
  · exact hsame
  · rw [hinstalls.once hsame.2]
    exact hsame

/-- What any number of calls leaves of a fresh executor. -/
structure PreExecuted (e₀ e : TaikoBlockExecutor) : Prop where
  same : e = { e₀ with
    evm := { e₀.evm with
      db := e.evm.db
      extraExecutionCtx := e.evm.extraExecutionCtx
      zkGasMeter := e.evm.zkGasMeter
      inspector := e.evm.inspector }
    evmExtraExecutionCtxInitialized := e.evmExtraExecutionCtxInitialized }
  writes : e₀.evm.db.Writes e₀.systemContracts e.evm.db
  charged : HomesCharged ⟨e₀.evm.zkGasMeter, e₀.evm.inspector⟩ ⟨e.evm.zkGasMeter, e.evm.inspector⟩
  context : e.evmExtraExecutionCtxInitialized = false ∧ e.evm.extraExecutionCtx = none ∨
    ∃ ctx, e.evm.extraExecutionCtx = some ctx ∧ AnchorContext e₀ ctx

lemma Fresh.preExecuted (h : Fresh e) : PreExecuted e e := by
  refine ⟨rfl, .refl _ _, .refl _, .inl ?_⟩
  obtain ⟨db, cfg, block, heq | heq⟩ := h.made <;> rw [heq] <;> exact ⟨rfl, rfl⟩

lemma PreExecuted.ownsEvm (h : PreExecuted e₀ e) (ho : OwnsEvm e₀) : OwnsEvm e := by
  rw [h.same]
  exact ⟨ho.reset, ho.derive⟩

/-- System calls keep what the calls before left. -/
lemma PreExecuted.calls (h : PreExecuted e₀ e) (hcalls : SystemCalls e.systemContracts e e') :
    PreExecuted e₀ e' := by
  have hcontracts : e.systemContracts = e₀.systemContracts := by
    rw [h.same]
    rfl
  rw [hcontracts] at hcalls
  have hcontext : e'.evmExtraExecutionCtxInitialized = e.evmExtraExecutionCtxInitialized ∧
      e'.evm.extraExecutionCtx = e.evm.extraExecutionCtx := by
    rw [hcalls.same]
    exact ⟨rfl, rfl⟩
  refine ⟨?_, h.writes.trans hcalls.writes, h.charged.trans hcalls.charged, ?_⟩
  · have h₁ := h.same
    have h₂ := hcalls.same
    rw [h₂, h₁]
  · rw [hcontext.1, hcontext.2]
    exact h.context

/-- A context read after the calls is the one read before them. -/
lemma PreExecuted.anchorContext (h : PreExecuted e₀ e) {ctx : TaikoEvmExtraExecutionCtx}
    (hctx : AnchorContext e ctx) : AnchorContext e₀ ctx := by
  obtain ⟨account, haccount, hnonce⟩ := hctx.nonce
  refine ⟨?_, hctx.caller, ⟨account, ?_, hnonce⟩, hctx.authoritative⟩
  · rw [← hctx.pctg, h.same]
    rfl
  · rw [← (h.writes.account_eq goldenTouch_not_mem_systemContracts).1]
    exact haccount

lemma PreExecuted.installs (h : PreExecuted e₀ e) (hinstalls : Installs e answer e') :
    PreExecuted e₀ e' := by
  have hevm : e'.evm = { e.evm with extraExecutionCtx := e'.evm.extraExecutionCtx } :=
    congrArg TaikoBlockExecutor.evm hinstalls.same
  refine ⟨?_, ?_, ?_, ?_⟩
  · have h₁ := h.same
    have h₂ := hinstalls.same
    rw [h₂, h₁]
  · rw [hevm]
    exact h.writes
  · rw [hevm]
    exact h.charged
  · rcases hinstalls.installed with ⟨hinit, hctx⟩ | hinit | ⟨ctx, hctx, hcontext⟩
    · rcases h.context with ⟨-, hnone⟩ | hsome
      · exact .inl ⟨hinit, hctx.trans hnone⟩
      · rw [hctx]
        exact .inr hsome
    · rw [hinstalls.once hinit]
      exact h.context
    · exact .inr ⟨ctx, hctx, h.anchorContext hcontext⟩

/-- A call keeps what the calls before left, and an answer without an error has the anchor
context installed. -/
lemma PreExecuted.call (ho : OwnsEvm e₀) (h : PreExecuted e₀ e)
    {answer : Except BlockExecutionError Unit}
    (hcall : e.applyPreExecutionChanges revm checks = .ok (answer, e')) :
    PreExecuted e₀ e' ∧ (answer = .ok () → e'.evmExtraExecutionCtxInitialized = true) := by
  obtain ⟨e₁, hcalls, hrest⟩ := applyPreExecutionChanges_calls (h.ownsEvm ho) hcall
  have h₁ := h.calls hcalls
  rcases hrest with ⟨rfl, herror⟩ | hinstalls
  · exact ⟨h₁, fun hok => absurd hok herror⟩
  · exact ⟨h₁.installs hinstalls, hinstalls.answered⟩

lemma Fresh.preExecuted_of_calls (hfresh : Fresh e₀)
    (h : Relation.ReflTransGen (PreExecutes revm checks) e₀ e) : PreExecuted e₀ e := by
  induction h with
  | refl => exact hfresh.preExecuted
  | tail _ hstep ih =>
    obtain ⟨answer, hcall⟩ := hstep
    exact (ih.call hfresh.tended.1.owns hcall).1

/-! ### The share and the zk gas -/

/-- The share of extra data that a header may have is decoded. -/
lemma baseFeeSharePctg_of_validHeader {header : Header} (hheader : ValidHeader spec header)
    (hextra : e.ctx.extraData = header.extraData) :
    ∃ pctg, e.baseFeeSharePctg = .ok pctg := by
  rw [baseFeeSharePctg]
  split
  · exact ⟨_, rfl⟩
  · split
    · have hlength : e.ctx.extraData.length ≤ 32 := by
        rw [hextra]
        exact hheader.extraData
      exact ⟨_, if_pos hlength⟩
    · exact ⟨_, rfl⟩

/-- A meter without anything in flight or finalized is at rest. -/
lemma Fresh.meter_reset (h : Fresh e) :
    e.evm.meter.map ZkGasMeter.resetTransaction = e.evm.meter := by
  cases hm : e.evm.meter with
  | none => rfl
  | some m =>
    obtain ⟨schedule, rfl⟩ := h.meter hm
    have hsub : saturatingSub schedule.blockLimit 0 = schedule.blockLimit := by
      refine BitVec.eq_of_toNat_eq ?_
      rw [toNat_saturatingSub]
      rfl
    rw [Option.map_some, ZkGasMeter.resetTransaction]
    simp only [ZkGasMeter.new, hsub]

/-- The calls finalize no zk gas, and the reset before a transaction drops what they left in
flight. -/
lemma PreExecuted.meter (hfresh : Fresh e₀) (h : PreExecuted e₀ e) :
    e.evm.blockZkGasUsed = e₀.evm.blockZkGasUsed ∧
      e.resetCurrentTransactionZkGas.evm.meter = e₀.evm.meter := by
  have hcharged := TaikoEvmWrapper.meter_charged h.charged
  refine ⟨?_, ?_⟩
  · rw [TaikoEvmWrapper.blockZkGasUsed, TaikoEvmWrapper.blockZkGasUsed]
    cases hm : e.evm.meter with
    | none =>
      cases hm₀ : e₀.evm.meter with
      | none => rfl
      | some m₀ =>
        rw [hm, hm₀] at hcharged
        exact hcharged.elim
    | some m =>
      rw [hm] at hcharged
      obtain ⟨m₀, hm₀, hblock⟩ := hcharged.exists_of_some
      rw [hm₀, Option.map_some, Option.map_some, hblock.block_eq]
  · rw [resetCurrentTransactionZkGas, syncFinalizedBlockZkGas_evm,
      TaikoEvmWrapper.meter_resetTransactionZkGas, hcharged.map_reset_eq, hfresh.meter_reset]

/-- The calls before the first transaction of a fresh executor, with the extra data of a valid
header: however often they were made, and whether a call answers or fails, it leaves the block
and the settings of the EVM as they were; what was committed touches the system contracts alone,
not the golden-touch account and not the treasury; the anchor context, where there is one, is
the share of the extra data and the golden-touch nonce before the calls, from a system call; a
call that answers has it installed, and one after that leaves it; no zk gas is finalized, and
the first transaction starts from the whole budget. -/
theorem preExecution_frame (revm : Revm) (checks : OverflowChecks) (hfresh : Fresh e₀)
    {header : Header} (hheader : validateHeader spec header = .ok ())
    (hextra : e₀.ctx.extraData = header.extraData) :
    ∃ pctg, e₀.baseFeeSharePctg = .ok pctg ∧
      ∀ e answer e', Relation.ReflTransGen (PreExecutes revm checks) e₀ e →
        e.applyPreExecutionChanges revm checks = .ok (answer, e') →
        e'.evm.block = e₀.evm.block ∧ e'.evm.cfg = e₀.evm.cfg ∧
        e₀.evm.db.Writes e₀.systemContracts e'.evm.db ∧
        (∀ address, address = goldenTouch ∨ address = getTreasuryAddress e₀.evm.cfg.chainId →
          e'.evm.db.basic address = e₀.evm.db.basic address ∧
            e'.evm.db.storage address = e₀.evm.db.storage address) ∧
        (∀ ctx, e'.evm.extraExecutionCtx = some ctx →
          ∃ account, e₀.evm.db.basic goldenTouch = .ok account ∧
            ctx = ⟨pctg, goldenTouch, (account.map (·.nonce)).getD 0, true⟩) ∧
        (answer = .ok () → e'.evmExtraExecutionCtxInitialized = true ∧
          e'.evm.extraExecutionCtx.isSome = true) ∧
        (e.evmExtraExecutionCtxInitialized = true →
          e'.evm.extraExecutionCtx = e.evm.extraExecutionCtx) ∧
        e'.ctx = e₀.ctx ∧ e'.evm.blockZkGasUsed = e₀.evm.blockZkGasUsed ∧
        e'.resetCurrentTransactionZkGas.evm.meter = e₀.evm.meter := by
  have ho := hfresh.tended.1.owns
  obtain ⟨pctg, hpctg⟩ :=
    baseFeeSharePctg_of_validHeader (validateHeader_eq_ok.mp hheader) hextra
  refine ⟨pctg, hpctg, fun e answer e' hcalls hcall => ?_⟩
  -- the frame holds after any calls, and so after one more
  have hbefore := hfresh.preExecuted_of_calls hcalls
  obtain ⟨hafter, hanswered⟩ := hbefore.call ho hcall
  obtain ⟨hblock, hmeter⟩ := hafter.meter hfresh
  have hsame : e'.evm.block = e₀.evm.block ∧ e'.evm.cfg = e₀.evm.cfg ∧ e'.ctx = e₀.ctx := by
    rw [hafter.same]
    exact ⟨rfl, rfl, rfl⟩
  refine ⟨hsame.1, hsame.2.1, hafter.writes, ?_, ?_, ?_, ?_, hsame.2.2, hblock, hmeter⟩
  · rintro address (rfl | rfl)
    · exact hafter.writes.account_eq goldenTouch_not_mem_systemContracts
    · exact hafter.writes.account_eq (treasury_not_mem_systemContracts _)
  · intro ctx hctx
    rcases hafter.context with ⟨-, hnone⟩ | ⟨ctx', hctx', hcontext⟩
    · rw [hnone] at hctx
      cases hctx
    · obtain rfl := Option.some.inj (hctx.symm.trans hctx')
      obtain ⟨account, haccount, hnonce⟩ := hcontext.nonce
      have hshare := Except.ok.inj (hpctg.symm.trans hcontext.pctg)
      refine ⟨account, haccount, ?_⟩
      rw [hshare, ← hcontext.caller, ← hnonce, ← hcontext.authoritative]
  · intro hok
    refine ⟨hanswered hok, ?_⟩
    rcases hafter.context with ⟨hinit, -⟩ | ⟨ctx, hctx, -⟩
    · rw [hanswered hok] at hinit
      cases hinit
    · rw [hctx]
      rfl
  · exact fun hinit => (PreExecutes.context_eq (hbefore.ownsEvm ho) ⟨answer, hcall⟩ hinit).1

/-- A header with a share of a quarter. -/
def quarterHeader : Header :=
  { plainParent 30000000 15000000 with extraData := [25, 0, 0, 0, 0, 0, 0] }

/-- A fresh executor of its extra data. -/
def quarterExecutor : TaikoBlockExecutor :=
  new (.createEvm transferDb transferCfg transferBlock)
    ⟨0, some 0, quarterHeader.extraData, true, none, 0⟩ transferSpec

/-- The calls of such a block answer; the treasury is as it was, and the share is installed. -/
theorem preExecution_frame_quarter :
    ∃ e, quarterExecutor.applyPreExecutionChanges transferRevm .on = .ok (.ok (), e) ∧
      e.evm.block = quarterExecutor.evm.block ∧
      e.evm.db.basic (getTreasuryAddress 167000) =
        quarterExecutor.evm.db.basic (getTreasuryAddress 167000) ∧
      e.evm.extraExecutionCtx = some ⟨25, goldenTouch, 0, true⟩ := by
  have hfresh : Fresh quarterExecutor := ⟨rfl, transferDb, transferCfg, transferBlock, .inl rfl⟩
  have hheader : validateHeader transferSpec quarterHeader = .ok () := by decide
  obtain ⟨pctg, -, hcalls⟩ := preExecution_frame transferRevm .on hfresh hheader rfl
  obtain ⟨hblock, -, -, haccounts, -⟩ := hcalls quarterExecutor _ _ .refl rfl
  exact ⟨_, rfl, hblock, (haccounts _ (.inr rfl)).1, rfl⟩

end TaikoBlockExecutor

end AlethiaReth
