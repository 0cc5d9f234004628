import AlethiaReth.Block.Committed

/-!
What a filtering loop does with a candidate, as a verdict on the executor: commit, skip, or finish.
Equivalent executors give the same verdict (`verdict_alike`), and a skipped candidate leaves an
equivalent executor (`verdict_skip`).
-/

namespace AlethiaReth

open MachineInt Outcome Filtering

/-- How a filtering loop ends. -/
inductive Ending where
  | completed
  | failed
  | panicked
  deriving DecidableEq, Repr

/-- The ending an answer stands for. -/
def Ending.of {ε α : Type} : Except Panic (Except ε α) → Ending
  | .ok (.ok _) => .completed
  | .ok (.error _) => .failed
  | .error _ => .panicked

namespace TaikoBlockExecutor

/-- What a filtering loop does with a transaction that is not the anchor. -/
def verdict (revm : Revm) (checks : OverflowChecks) (e : TaikoBlockExecutor) (tx : Recovered) :
    Verdict TaikoBlockExecutor Ending :=
  match e.executeTransaction revm checks tx with
  | .error _ => .finish .panicked
  | .ok (.ok _, e) => .commit e
  | .ok (.error error, e) =>
    if isZkGasLimitExceeded error then .finish .completed
    else if isRecoverableNonAnchorTxError error then .skip e
    else .finish .failed

variable {revm : Revm} {checks : OverflowChecks} {e e' s t : TaikoBlockExecutor} {tx : Recovered}

/-! ### The exhaustion flag -/

lemma transactCharged_flag (revm : Revm) (checks : OverflowChecks) (e : TaikoBlockExecutor)
    (tx : Recovered) :
    Satisfies (fun _ => True)
      (fun out => ∀ error, out.1 = .error error → e.zkGasExhausted = false →
        out.2.zkGasExhausted = isZkGasLimitExceeded error)
      (e.transactCharged revm checks tx) := by
  rw [transactCharged]
  cases e.evm.transactRaw revm checks tx.toTxEnv with
  | error p => exact trivial
  | ok out =>
    obtain ⟨outcome, evm⟩ := out
    cases outcome with
    | error error =>
      dsimp only [bind, Except.bind]
      split
      · rintro _ ⟨⟩ -
        simp [isZkGasLimitExceeded, BlockExecutionError.zkGasLimitError]
      · rintro _ ⟨⟩ hflag
        simp [isZkGasLimitExceeded_evm, hflag]
    | ok result =>
      dsimp only [bind, Except.bind]
      split
      · rintro _ ⟨⟩ -
        simp [isZkGasLimitExceeded, BlockExecutionError.zkGasLimitError]
      · rintro _ ⟨⟩

/-- A failure, and only one beyond the zk gas budget, sets the exhaustion flag. -/
lemma executeTransaction_flag {error : BlockExecutionError} (hready : e.zkGasExhausted = false)
    (h : e.executeTransaction revm checks tx = .ok (.error error, e')) :
    e'.zkGasExhausted = isZkGasLimitExceeded error := by
  rw [executeTransaction_eq_error, executeTransactionWithoutCommit, if_neg (by simp [hready])] at h
  cases hsub : plainSub checks e.evm.block.gasLimit e.gasUsed with
  | error p => rw [hsub] at h; cases h
  | ok available =>
    rw [hsub] at h
    dsimp only [bind, Except.bind] at h
    split at h
    · cases h
      simp [isZkGasLimitExceeded, hready]
    · have hflag := e.resetCurrentTransactionZkGas_exhausted.trans hready
      generalize e.resetCurrentTransactionZkGas = e₁ at h hflag
      generalize e₁.evm.chargeTxIntrinsicZkGas = charged at h
      obtain ⟨answer, evm⟩ := charged
      cases answer with
      | error outcome =>
        cases h
        simp [isZkGasLimitExceeded, BlockExecutionError.zkGasLimitError]
      | ok u => exact (transactCharged_flag revm checks _ tx).of_ok h error rfl hflag

/-- A commit leaves the flag down. -/
lemma Commits.ready (h : Commits revm checks e tx e') : e'.zkGasExhausted = false := by
  obtain ⟨gasUsed, hrun⟩ := h
  obtain ⟨output, e₁, hresult, hcommit⟩ := executeTransaction_eq_ok.mp hrun
  obtain ⟨hflag, -, -, htransact⟩ := executeTransactionWithoutCommit_eq_ok.mp hresult
  obtain ⟨_, _, -, -, -, rfl⟩ := transactCharged_eq_ok.mp htransact
  rw [(commitTransaction_evm hcommit).2]
  exact e.resetCurrentTransactionZkGas_exhausted.trans hflag

/-! ### Equivalent executors -/

/-- Ready executors at the same block, up to the difficulty they expect. -/
structure Equivalent (s t : TaikoBlockExecutor) : Prop where
  tended : Tended s
  tended' : Tended t
  ready : s.zkGasExhausted = false
  ready' : t.zkGasExhausted = false
  clear : s.clearZkGasExhaustion.expecting none = t.clearZkGasExhaustion.expecting none

lemma Equivalent.refl (ht : Tended e) (hready : e.zkGasExhausted = false) : Equivalent e e :=
  ⟨ht, ht, hready, hready, rfl⟩

lemma Equivalent.expecting (ht : Tended e) (hready : e.zkGasExhausted = false)
    (d : Option U256) : Equivalent (e.expecting d) e where
  tended := ⟨⟨ht.owns.reset, ht.owns.derive⟩, ht.tidy⟩
  tended' := ht
  ready := hready
  ready' := hready
  clear := by
    rw [expecting_clearZkGasExhaustion]
    rfl

/-- Equivalent executors are the same at rest, up to the difficulty. -/
lemma Equivalent.reset (h : Equivalent s t) :
    s.resetCurrentTransactionZkGas.expecting none
      = t.resetCurrentTransactionZkGas.expecting none := by
  rw [← clearZkGasExhaustion_of_not_exhausted h.ready,
    ← clearZkGasExhaustion_of_not_exhausted h.ready']
  exact h.clear

lemma Equivalent.block_gasUsed (h : Equivalent s t) :
    s.evm.block = t.evm.block ∧ s.gasUsed = t.gasUsed := by
  have hs := s.resetCurrentTransactionZkGas_kept.same
  have ht := t.resetCurrentTransactionZkGas_kept.same
  have heq := h.reset
  rw [hs, ht] at heq
  exact ⟨congrArg (·.evm.block) heq, congrArg (·.gasUsed) heq⟩

variable (revm checks) in
/-- The rest of a transaction, from the executor at rest. -/
def executeAtRest (e : TaikoBlockExecutor) (tx : Recovered) : Except Panic (Answered U64) := do
  match e.evm.chargeTxIntrinsicZkGas with
  | (.error .limitExceeded, evm) =>
    pure (.error .zkGasLimitError, exhaustZkGas { e with evm := evm })
  | (.ok (), evm) =>
    match ← ({ e with evm := evm } : TaikoBlockExecutor).transactCharged revm checks tx with
    | (.error error, e) => pure (.error error, e)
    | (.ok output, e) =>
      let (gasUsed, e) ← e.commitTransaction checks output
      pure (.ok gasUsed, e)

/-- A ready executor checks the block gas and goes on from where it is at rest. -/
lemma executeTransaction_of_ready (h : e.zkGasExhausted = false) :
    e.executeTransaction revm checks tx
      = plainSub checks e.evm.block.gasLimit e.gasUsed >>= fun available =>
          if tx.tx.gasLimit > available then
            pure (.error (.validation (.transactionGasLimitMoreThanAvailableBlockGas
              tx.tx.gasLimit available)), e)
          else
            executeAtRest revm checks e.resetCurrentTransactionZkGas tx := by
  rw [executeTransaction, executeTransactionWithCommitCondition, executeTransactionWithoutCommit,
    if_neg (by simp [h])]
  cases plainSub checks e.evm.block.gasLimit e.gasUsed with
  | error p => rfl
  | ok available =>
    dsimp only [bind, Except.bind]
    by_cases hgas : tx.tx.gasLimit > available
    · rw [if_pos hgas, if_pos hgas]
      rfl
    · rw [if_neg hgas, if_neg hgas, executeAtRest]
      generalize e.resetCurrentTransactionZkGas = e₁
      generalize e₁.evm.chargeTxIntrinsicZkGas = charged
      obtain ⟨answer, evm⟩ := charged
      cases answer with
      | error outcome => rfl
      | ok u =>
        dsimp only [bind, Except.bind]
        cases ({ e₁ with evm := evm } : TaikoBlockExecutor).transactCharged revm checks tx with
        | error p => rfl
        | ok out =>
          obtain ⟨answer, e₂⟩ := out
          cases answer with
          | error error => rfl
          | ok output =>
            dsimp only
            cases e₂.commitTransaction checks output <;> rfl

lemma expecting_executeAtRest (e : TaikoBlockExecutor) (d : Option U256) (tx : Recovered) :
    executeAtRest revm checks (e.expecting d) tx
      = (executeAtRest revm checks e tx).map (Answered.expecting d) := by
  rw [executeAtRest, executeAtRest, expecting_evm]
  generalize e.evm.chargeTxIntrinsicZkGas = charged
  obtain ⟨answer, evm⟩ := charged
  cases answer with
  | error outcome =>
    refine congrArg (fun e => Except.ok (_, e)) ?_
    exact expecting_exhaustZkGas { e with evm := evm } d
  | ok u =>
    change (({ e with evm := evm } : TaikoBlockExecutor).expecting d).transactCharged
      revm checks tx >>= _ = _
    rw [expecting_transactCharged]
    dsimp only [bind, Except.bind]
    cases ({ e with evm := evm } : TaikoBlockExecutor).transactCharged revm checks tx with
    | error p => rfl
    | ok out =>
      obtain ⟨answer, e₂⟩ := out
      cases answer with
      | error error => rfl
      | ok output =>
        dsimp only [Except.map, Answered.expecting]
        rw [expecting_commitTransaction]
        cases e₂.commitTransaction checks output <;> rfl

/-- The expectation plays no part in a transaction. -/
lemma expecting_executeTransaction (h : e.zkGasExhausted = false) (d : Option U256) :
    (e.expecting d).executeTransaction revm checks tx
      = (e.executeTransaction revm checks tx).map (Answered.expecting d) := by
  have hready : (e.expecting d).zkGasExhausted = false := h
  rw [executeTransaction_of_ready h, executeTransaction_of_ready hready, expecting_evm,
    expecting_gasUsed, expecting_resetCurrentTransactionZkGas, expecting_executeAtRest]
  cases plainSub checks e.evm.block.gasLimit e.gasUsed with
  | error p => rfl
  | ok available =>
    dsimp only [bind, Except.bind]
    split <;> rfl

lemma Commits.equivalent {s' t' : TaikoBlockExecutor} (h : Equivalent s t)
    (hs : Commits revm checks s tx s') (ht : Commits revm checks t tx t')
    (heq : s'.expecting none = t'.expecting none) : Equivalent s' t' where
  tended := hs.tended h.tended
  tended' := ht.tended h.tended'
  ready := hs.ready
  ready' := ht.ready
  clear := by rw [← expecting_clearZkGasExhaustion, heq, expecting_clearZkGasExhaustion]

/-- A failure within the zk gas budget leaves an equivalent executor. -/
lemma equivalent_of_error {error : BlockExecutionError} (h : Equivalent e e)
    (hrun : e.executeTransaction revm checks tx = .ok (.error error, e'))
    (hzk : isZkGasLimitExceeded error = false) : Equivalent e e' := by
  have hkept : Kept e e' := Discards.kept (.inl ⟨tx, error, hrun⟩) h.tended.owns
  refine ⟨h.tended, hkept.tended h.tended, h.ready, ?_, ?_⟩
  · rw [executeTransaction_flag h.ready hrun, hzk]
  · rw [hkept.clear_eq h.tended.tidy]

/-- Equivalent executors answer a transaction alike, and are left alike. -/
lemma Equivalent.executeTransaction_eq (h : Equivalent s t) (tx : Recovered) :
    (s.executeTransaction revm checks tx).map (Answered.expecting none)
        = (t.executeTransaction revm checks tx).map (Answered.expecting none) ∨
      ∃ error, isZkGasLimitExceeded error = false ∧ isRecoverableNonAnchorTxError error = true ∧
        s.executeTransaction revm checks tx = .ok (.error error, s) ∧
        t.executeTransaction revm checks tx = .ok (.error error, t) := by
  obtain ⟨hblock, hgasUsed⟩ := h.block_gasUsed
  rw [executeTransaction_of_ready h.ready, executeTransaction_of_ready h.ready', hblock, hgasUsed]
  cases plainSub checks t.evm.block.gasLimit t.gasUsed with
  | error p => exact .inl rfl
  | ok available =>
    dsimp only [bind, Except.bind]
    by_cases hgas : tx.tx.gasLimit > available
    · rw [if_pos hgas, if_pos hgas]
      exact .inr ⟨_, rfl, rfl, rfl, rfl⟩
    · rw [if_neg hgas, if_neg hgas]
      refine .inl ?_
      rw [← expecting_executeAtRest, ← expecting_executeAtRest, h.reset]

/-- Equivalent executors give a candidate the same verdict. -/
theorem verdict_alike (revm : Revm) (checks : OverflowChecks) (s t : TaikoBlockExecutor)
    (tx : Recovered) (h : Equivalent s t) :
    (verdict revm checks s tx).Alike Equivalent (verdict revm checks t tx) := by
  rcases h.executeTransaction_eq tx with heq | ⟨error, hzk, hrecoverable, hs, ht⟩
  · rw [verdict, verdict]
    cases hs : s.executeTransaction revm checks tx with
    | error p =>
      cases ht : t.executeTransaction revm checks tx with
      | error p' => exact .finish _
      | ok out => rw [hs, ht] at heq; cases heq
    | ok out =>
      cases ht : t.executeTransaction revm checks tx with
      | error p' => rw [hs, ht] at heq; cases heq
      | ok out' =>
        obtain ⟨answer, s'⟩ := out
        obtain ⟨answer', t'⟩ := out'
        rw [hs, ht] at heq
        simp only [Except.map, Answered.expecting, Except.ok.injEq, Prod.mk.injEq] at heq
        obtain ⟨rfl, heq⟩ := heq
        cases answer with
        | ok gasUsed => exact .commit (Commits.equivalent h ⟨_, hs⟩ ⟨_, ht⟩ heq)
        | error error =>
          dsimp only
          split
          · exact .finish _
          · next hzk =>
            split
            · refine .skip ?_
              have hzk : isZkGasLimitExceeded error = false := by simpa using hzk
              have hs' := equivalent_of_error (.refl h.tended h.ready) hs hzk
              have ht' := equivalent_of_error (.refl h.tended' h.ready') ht hzk
              exact ⟨hs'.tended', ht'.tended', hs'.ready', ht'.ready',
                hs'.clear.symm.trans (h.clear.trans ht'.clear)⟩
            · exact .finish _
  · -- the block has no room for the transaction, and nothing happens
    simp only [verdict, hs, ht, hzk, hrecoverable, Bool.false_eq_true, if_false, if_true]
    exact .skip h

/-- A skipped candidate leaves no trace. -/
theorem verdict_skip (revm : Revm) (checks : OverflowChecks) (e : TaikoBlockExecutor)
    (tx : Recovered) (e' : TaikoBlockExecutor) (h : Equivalent e e)
    (hskip : verdict revm checks e tx = .skip e') : Equivalent e e' := by
  rw [verdict] at hskip
  cases hrun : e.executeTransaction revm checks tx with
  | error p => rw [hrun] at hskip; cases hskip
  | ok out =>
    rw [hrun] at hskip
    obtain ⟨answer, e₁⟩ := out
    cases answer with
    | ok gasUsed => cases hskip
    | error error =>
      dsimp only at hskip
      split at hskip
      · cases hskip
      · next hzk =>
        split at hskip
        · cases hskip
          exact equivalent_of_error h hrun (by simpa using hzk)
        · cases hskip

end TaikoBlockExecutor

end AlethiaReth
