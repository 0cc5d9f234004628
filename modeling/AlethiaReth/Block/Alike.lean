import AlethiaReth.Block.Executor

/-!
Two executors of one block that differ in their EVMs and in the difficulty they expect: where the
calls before the first transaction succeed in the one, they do the same in the other
(`applyPreExecutionChanges_alike`).
-/

namespace AlethiaReth

open MachineInt Outcome

namespace TaikoBlockExecutor

/-- Executors that differ in their EVMs, which a relation ties, and in the difficulty they
expect. -/
structure Alike (f : Option U256 → Option U256) (R : TaikoEvmWrapper → TaikoEvmWrapper → Prop)
    (e e' : TaikoBlockExecutor) : Prop where
  same : e' = { e with
    evm := e'.evm
    ctx := { e.ctx with expectedDifficulty := f e.ctx.expectedDifficulty } }
  evm : R e.evm e'.evm

/-- A relation of EVMs over one state and block that a successful system call keeps. -/
structure CallsAlike (revm : Revm) (checks : OverflowChecks)
    (R : TaikoEvmWrapper → TaikoEvmWrapper → Prop) : Prop where
  db {evm evm' : TaikoEvmWrapper} (h : R evm evm') : evm'.db = evm.db
  cfg {evm evm' : TaikoEvmWrapper} (h : R evm evm') : evm'.cfg = evm.cfg
  number {evm evm' : TaikoEvmWrapper} (h : R evm evm') : evm'.block.number = evm.block.number
  timestamp {evm evm' : TaikoEvmWrapper} (h : R evm evm') :
    evm'.block.timestamp = evm.block.timestamp
  commit {evm evm' : TaikoEvmWrapper} (h : R evm evm') (state : EvmState) :
    R { evm with db := evm.db.commit state } { evm' with db := evm'.db.commit state }
  call {evm evm' evm₁ : TaikoEvmWrapper} (h : R evm evm') {caller contract : Address}
    {data : Bytes} {res : ResultAndState}
    (hcall : evm.transactSystemCall revm checks caller contract data = .ok (.ok res, evm₁)) :
    ∃ evm₁', evm'.transactSystemCall revm checks caller contract data = .ok (.ok res, evm₁') ∧
      R evm₁ evm₁'

variable {revm : Revm} {checks : OverflowChecks} {e e' e₁ : TaikoBlockExecutor}
  {f : Option U256 → Option U256} {R S : TaikoEvmWrapper → TaikoEvmWrapper → Prop}

lemma Alike.spec_eq (h : Alike f R e e') : e'.spec = e.spec := by rw [h.same]

lemma Alike.ctx_eq (h : Alike f R e e') :
    e'.ctx = { e.ctx with expectedDifficulty := f e.ctx.expectedDifficulty } := by rw [h.same]

lemma Alike.with_evm (h : Alike f R e e') {evm evm' : TaikoEvmWrapper} (hevm : S evm evm') :
    Alike f S { e with evm := evm } { e' with evm := evm' } := by
  refine ⟨?_, hevm⟩
  rw [h.same]

section Calls

variable (hR : CallsAlike revm checks R) (h : Alike f R e e')

include hR h

lemma applySystemCall_alike {contract : Address} {data : Bytes}
    {failure : String → BlockValidationError}
    (hcall : e.applySystemCall revm checks contract data failure = .ok (.ok (), e₁)) :
    ∃ e₁', e'.applySystemCall revm checks contract data failure = .ok (.ok (), e₁') ∧
      Alike f R e₁ e₁' := by
  obtain ⟨⟨outcome, evm⟩, hraw, hcall⟩ := bind_eq_ok.mp hcall
  cases outcome with
  | error error => cases hcall
  | ok res =>
    cases hcall
    obtain ⟨evm', hraw', hevm⟩ := hR.call h.evm hraw
    exact ⟨_, bind_eq_ok.mpr ⟨_, hraw', rfl⟩, h.with_evm (hR.commit hevm res.state)⟩

lemma applyBlockhashesContractCall_alike
    (hcall : e.applyBlockhashesContractCall revm checks = .ok (.ok (), e₁)) :
    ∃ e₁', e'.applyBlockhashesContractCall revm checks = .ok (.ok (), e₁') ∧
      Alike f R e₁ e₁' := by
  rw [applyBlockhashesContractCall] at hcall ⊢
  rw [h.spec_eq, h.ctx_eq, hR.number h.evm, hR.timestamp h.evm]
  split at hcall
  · next hskip =>
    rw [if_pos hskip]
    cases hcall
    exact ⟨_, rfl, h⟩
  · next hskip =>
    rw [if_neg hskip]
    exact applySystemCall_alike hR h hcall

lemma applyBeaconRootContractCall_alike
    (hcall : e.applyBeaconRootContractCall revm checks = .ok (.ok (), e₁)) :
    ∃ e₁', e'.applyBeaconRootContractCall revm checks = .ok (.ok (), e₁') ∧
      Alike f R e₁ e₁' := by
  rw [applyBeaconRootContractCall] at hcall ⊢
  rw [h.spec_eq, h.ctx_eq, hR.number h.evm, hR.timestamp h.evm]
  split at hcall
  · next hskip =>
    rw [if_pos hskip]
    cases hcall
    exact ⟨_, rfl, h⟩
  · next hskip =>
    rw [if_neg hskip]
    cases hroot : e.ctx.parentBeaconBlockRoot with
    | none => rw [hroot] at hcall; cases hcall
    | some root =>
      rw [hroot] at hcall
      dsimp only at hcall ⊢
      split at hcall
      · next hgenesis =>
        rw [if_pos hgenesis]
        split at hcall
        · next hzero =>
          rw [if_pos hzero]
          cases hcall
          exact ⟨_, rfl, h⟩
        · cases hcall
      · next hgenesis =>
        rw [if_neg hgenesis]
        exact applySystemCall_alike hR h hcall

lemma initializeAnchorContext_alike
    (hcall : e.initializeAnchorContext revm checks = .ok (.ok (), e₁)) :
    ∃ e₁', e'.initializeAnchorContext revm checks = .ok (.ok (), e₁') ∧ Alike f R e₁ e₁' := by
  have hinitialized :
      e'.evmExtraExecutionCtxInitialized = e.evmExtraExecutionCtxInitialized := by rw [h.same]
  have hshare : e'.baseFeeSharePctg = e.baseFeeSharePctg := by
    rw [baseFeeSharePctg, baseFeeSharePctg, h.spec_eq, h.ctx_eq, hR.number h.evm,
      hR.timestamp h.evm]
  rw [initializeAnchorContext] at hcall ⊢
  rw [hinitialized, hR.db h.evm, hR.cfg h.evm, hshare]
  split at hcall
  · next hdone =>
    rw [if_pos hdone]
    cases hcall
    exact ⟨_, rfl, h⟩
  · next hdone =>
    rw [if_neg hdone]
    cases hbasic : e.evm.db.basic goldenTouch with
    | error error => rw [hbasic] at hcall; cases hcall
    | ok account =>
      rw [hbasic] at hcall
      obtain ⟨pctg, hpctg, hcall⟩ := bind_eq_ok.mp hcall
      obtain ⟨⟨outcome, evm⟩, hraw, hcall⟩ := bind_eq_ok.mp hcall
      cases outcome with
      | error error => cases hcall
      | ok res =>
        cases hcall
        obtain ⟨evm', hraw', hevm⟩ := hR.call h.evm hraw
        refine ⟨_, bind_eq_ok.mpr ⟨_, hpctg, bind_eq_ok.mpr ⟨_, hraw', rfl⟩⟩, ?_, hevm⟩
        dsimp only
        conv_lhs => rw [h.same]

/-- The calls before the first transaction, where they succeed in one of the executors. -/
theorem applyPreExecutionChanges_alike
    (hcall : e.applyPreExecutionChanges revm checks = .ok (.ok (), e₁)) :
    ∃ e₁', e'.applyPreExecutionChanges revm checks = .ok (.ok (), e₁') ∧ Alike f R e₁ e₁' := by
  obtain ⟨⟨answer, e₂⟩, hhashes, hcall⟩ := bind_eq_ok.mp hcall
  cases answer with
  | error error => cases hcall
  | ok u =>
    obtain ⟨⟨answer, e₃⟩, hroot, hcall⟩ := bind_eq_ok.mp hcall
    cases answer with
    | error error => cases hcall
    | ok u =>
      obtain ⟨e₂', hhashes', h₂⟩ := applyBlockhashesContractCall_alike hR h hhashes
      obtain ⟨e₃', hroot', h₃⟩ := applyBeaconRootContractCall_alike hR h₂ hroot
      obtain ⟨e₁', hanchor', h₁⟩ := initializeAnchorContext_alike hR h₃ hcall
      exact ⟨e₁', bind_eq_ok.mpr ⟨_, hhashes', bind_eq_ok.mpr ⟨_, hroot', hanchor'⟩⟩, h₁⟩

end Calls

end TaikoBlockExecutor

end AlethiaReth
