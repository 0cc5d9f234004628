import AlethiaReth.Lib.Filtering
import AlethiaReth.Block.Alike
import AlethiaReth.Block.Bracket

/-!
Replaying what a filtering execution committed: a transaction that does not commit leaves no
trace, so the committed ones alone run to the same block (`executeBlock_of_filtered`).
-/

namespace AlethiaReth

open MachineInt Outcome Filtering

namespace TaikoBlockExecutor

/-! ### Cleared executors -/

variable {gasUsed : U64} {output : EthTxResult} {txs : List Recovered} {fin : Finished}

/-- The executor owns its EVM, and its inspector notes no stray step. -/
structure Tended (e : TaikoBlockExecutor) : Prop where
  owns : OwnsEvm e
  tidy : InspectorTidy e.evm.inspector

lemma Kept.tended {e e' : TaikoBlockExecutor} (h : Kept e e') (ht : Tended e) : Tended e' :=
  ⟨h.owns ht.owns, (h.atRest ht.tidy).1⟩

/-- Zk gas that is held back moves only meters. -/
lemma reserveBlockZkGas_tended {e : TaikoBlockExecutor} (ht : Tended e) (amount : U64) :
    TaikoEvmWrapper.SameBut e.evm (e.reserveBlockZkGas amount).2.evm ∧
      Tended (e.reserveBlockZkGas amount).2 ∧
      (e.reserveBlockZkGas amount).2.gasUsed = e.gasUsed ∧
      (e.reserveBlockZkGas amount).2.zkGasExhausted = e.zkGasExhausted := by
  obtain ⟨hsame, htidy⟩ := e.evm.withMeter_same (·.reserveBlockBudget amount)
  have hreserved : (e.reserveBlockZkGas amount).2.evm
        = (e.evm.withMeter (·.reserveBlockBudget amount)).2 ∧
      (e.reserveBlockZkGas amount).2.gasUsed = e.gasUsed ∧
      (e.reserveBlockZkGas amount).2.zkGasExhausted = e.zkGasExhausted := by
    rw [reserveBlockZkGas, TaikoEvmWrapper.reserveBlockZkGas]
    generalize e.evm.withMeter (·.reserveBlockBudget amount) = reserved
    rcases reserved with ⟨_ | _ | zkGas, evm⟩ <;> exact ⟨rfl, rfl, rfl⟩
  obtain ⟨hevm, hgasUsed⟩ := hreserved
  rw [← hevm] at hsame htidy
  have hfields := hsame
  rw [TaikoEvmWrapper.SameBut] at hfields
  refine ⟨hsame, ⟨⟨?_, ?_⟩, htidy ht.tidy⟩, hgasUsed⟩
  · rw [hfields]
    exact ht.owns.reset
  · rw [hfields]
    exact ht.owns.derive

/-- Two executors at the same block are the same once cleared. -/
lemma Kept.clear_eq {e e' : TaikoBlockExecutor} (h : Kept e e')
    (ht : InspectorTidy e.evm.inspector) :
    e'.clearZkGasExhaustion = e.clearZkGasExhaustion := by
  obtain ⟨-, hmeter, hinspector⟩ := h.atRest ht
  have hsame := h.same
  have hevm : e'.evm.resetTransactionZkGas = e.evm.resetTransactionZkGas := by
    rw [TaikoEvmWrapper.resetTransactionZkGas, TaikoEvmWrapper.resetTransactionZkGas, hmeter,
      hinspector, hsame]
  simp only [clearZkGasExhaustion, resetCurrentTransactionZkGas, hevm, syncFinalizedBlockZkGas]
  cases hz : e.evm.resetTransactionZkGas.blockZkGasUsed with
  | some zkGas =>
    simp only [setFinalizedBlockZkGas]
    rw [hsame]
  | none =>
    -- without a meter nothing was ever published
    have hnone : e.evm.meter = none := by
      simpa [TaikoEvmWrapper.blockZkGasUsed] using hz
    have hfinalized : e'.ctx.finalizedBlockZkGas = e.ctx.finalizedBlockZkGas :=
      h.finalized fun m hm => by rw [hnone] at hm; cases hm
    rw [hfinalized] at hsame
    rw [hsame]

/-- Clearing an executor whose flag is down only resets it. -/
lemma clearZkGasExhaustion_of_not_exhausted {e : TaikoBlockExecutor}
    (h : e.zkGasExhausted = false) :
    e.clearZkGasExhaustion = e.resetCurrentTransactionZkGas := by
  rw [clearZkGasExhaustion, ← h]

/-! ### The expected difficulty -/

/-- The executor that checks the finalized zk gas against a header's difficulty. -/
def expecting (e : TaikoBlockExecutor) (difficulty : Option U256) : TaikoBlockExecutor :=
  { e with ctx := { e.ctx with expectedDifficulty := difficulty } }

section Projections

variable (e : TaikoBlockExecutor) (d : Option U256)

@[simp] lemma expecting_evm : (e.expecting d).evm = e.evm := rfl

@[simp] lemma expecting_gasUsed : (e.expecting d).gasUsed = e.gasUsed := rfl

end Projections

/-- An answer with its executor expecting a difficulty. -/
def Answered.expecting {α : Type} (difficulty : Option U256) (out : Answered α) : Answered α :=
  (out.1, out.2.expecting difficulty)

lemma expecting_syncFinalizedBlockZkGas (e : TaikoBlockExecutor) (d : Option U256) :
    (e.expecting d).syncFinalizedBlockZkGas = e.syncFinalizedBlockZkGas.expecting d := by
  simp only [syncFinalizedBlockZkGas, expecting]
  split <;> rfl

lemma expecting_resetCurrentTransactionZkGas (e : TaikoBlockExecutor) (d : Option U256) :
    (e.expecting d).resetCurrentTransactionZkGas = e.resetCurrentTransactionZkGas.expecting d :=
  expecting_syncFinalizedBlockZkGas { e with evm := e.evm.resetTransactionZkGas } d

lemma expecting_exhaustZkGas (e : TaikoBlockExecutor) (d : Option U256) :
    (e.expecting d).exhaustZkGas = e.exhaustZkGas.expecting d :=
  expecting_resetCurrentTransactionZkGas { e with zkGasExhausted := true } d

lemma expecting_clearZkGasExhaustion (e : TaikoBlockExecutor) (d : Option U256) :
    (e.expecting d).clearZkGasExhaustion = e.clearZkGasExhaustion.expecting d :=
  expecting_resetCurrentTransactionZkGas { e with zkGasExhausted := false } d

lemma expecting_transactCharged (revm : Revm) (checks : OverflowChecks) (e : TaikoBlockExecutor)
    (d : Option U256) (tx : Recovered) :
    (e.expecting d).transactCharged revm checks tx
      = (e.transactCharged revm checks tx).map (Answered.expecting d) := by
  simp only [transactCharged, expecting]
  cases e.evm.transactRaw revm checks tx.toTxEnv with
  | error p => rfl
  | ok out =>
    obtain ⟨outcome, evm⟩ := out
    have hreset := expecting_resetCurrentTransactionZkGas { e with evm := evm } d
    have hexhaust := expecting_exhaustZkGas { e with evm := evm } d
    rw [expecting] at hreset hexhaust
    cases outcome with
    | error error =>
      dsimp only [bind, Except.bind]
      split
      · rw [hexhaust]; rfl
      · rw [hreset]; rfl
    | ok result =>
      dsimp only [bind, Except.bind]
      split
      · rw [hexhaust]; rfl
      · rfl

lemma expecting_commitTransaction (checks : OverflowChecks) (e : TaikoBlockExecutor)
    (d : Option U256) (output : EthTxResult) :
    (e.expecting d).commitTransaction checks output
      = (e.commitTransaction checks output).map fun out => (out.1, out.2.expecting d) := by
  simp only [commitTransaction, commitCurrentTransactionZkGas, expecting]
  generalize e.evm.commitTransactionZkGas = committed
  obtain ⟨answer, evm⟩ := committed
  cases answer with
  | error outcome => rfl
  | ok zkGas =>
    cases zkGas with
    | none =>
      dsimp only [bind, Except.bind]
      cases plainAdd checks e.gasUsed output.result.result.txGasUsed <;> rfl
    | some zkGas =>
      dsimp only [bind, Except.bind, setFinalizedBlockZkGas]
      cases plainAdd checks e.gasUsed output.result.result.txGasUsed <;> rfl

/-- The expectation plays no part before the first transaction. -/
lemma expecting_applyPreExecutionChanges {revm : Revm} {checks : OverflowChecks}
    {e e' : TaikoBlockExecutor} (d : Option U256)
    (h : e.applyPreExecutionChanges revm checks = .ok (.ok (), e')) :
    (e.expecting d).applyPreExecutionChanges revm checks = .ok (.ok (), e'.expecting d) := by
  have heq : CallsAlike revm checks Eq := by
    constructor <;> grind
  obtain ⟨e₁, hcall, hsame, hevm⟩ := applyPreExecutionChanges_alike heq
    (⟨rfl, rfl⟩ : Alike (fun _ => d) Eq e (e.expecting d)) h
  rw [hcall, hsame, ← hevm]
  rfl

/-! ### The steps of a filtering execution -/

variable {revm : Revm} {checks : OverflowChecks} {e e' : TaikoBlockExecutor} {tx : Recovered}

lemma executeTransaction_eq_ok :
    e.executeTransaction revm checks tx = .ok (.ok gasUsed, e') ↔
      ∃ output e₁, e.executeTransactionWithoutCommit revm checks tx = .ok (.ok output, e₁) ∧
        e₁.commitTransaction checks output = .ok (gasUsed, e') := by
  rw [executeTransaction, executeTransactionWithCommitCondition]
  cases e.executeTransactionWithoutCommit revm checks tx with
  | error p => simp [bind, Except.bind]
  | ok out =>
    obtain ⟨answer, e₁⟩ := out
    cases answer with
    | error error => simp [bind, Except.bind, pure, Except.pure, Except.map]
    | ok output =>
      dsimp only [bind, Except.bind]
      cases hcommit : e₁.commitTransaction checks output with
      | error p => simp [hcommit]
      | ok out => simp [hcommit, pure, Except.pure, Except.map, Prod.ext_iff]

lemma executeTransaction_eq_error {error : BlockExecutionError} :
    e.executeTransaction revm checks tx = .ok (.error error, e') ↔
      e.executeTransactionWithoutCommit revm checks tx = .ok (.error error, e') := by
  rw [executeTransaction, executeTransactionWithCommitCondition]
  cases e.executeTransactionWithoutCommit revm checks tx with
  | error p => simp [bind, Except.bind]
  | ok out =>
    obtain ⟨answer, e₁⟩ := out
    cases answer with
    | error error => simp [bind, Except.bind, pure, Except.pure, Except.map]
    | ok output =>
      dsimp only [bind, Except.bind]
      cases e₁.commitTransaction checks output with
      | error p => simp
      | ok out => simp [pure, Except.pure, Except.map]

/-- A result comes from the run on the executor at rest, past the gas check and the
intrinsic charge. -/
lemma executeTransactionWithoutCommit_eq_ok :
    e.executeTransactionWithoutCommit revm checks tx = .ok (.ok output, e') ↔
      e.zkGasExhausted = false ∧
      (∃ available, plainSub checks e.evm.block.gasLimit e.gasUsed = .ok available ∧
        ¬ tx.tx.gasLimit > available) ∧
      e.resetCurrentTransactionZkGas.evm.chargeTxIntrinsicZkGas.1 = .ok () ∧
      ({ e.resetCurrentTransactionZkGas with
          evm := e.resetCurrentTransactionZkGas.evm.chargeTxIntrinsicZkGas.2 } :
        TaikoBlockExecutor).transactCharged revm checks tx = .ok (.ok output, e') := by
  rw [executeTransactionWithoutCommit]
  cases hflag : e.zkGasExhausted with
  | true => simp
  | false =>
    cases plainSub checks e.evm.block.gasLimit e.gasUsed with
    | error p => simp [bind, Except.bind]
    | ok available =>
      by_cases hgas : tx.tx.gasLimit > available
      · simp [bind, Except.bind, hgas, pure, Except.pure]
      · simp only [bind, Except.bind, Bool.false_eq_true, if_false, if_neg hgas]
        generalize e.resetCurrentTransactionZkGas = e₁
        generalize e₁.evm.chargeTxIntrinsicZkGas = charged
        obtain ⟨answer, evm⟩ := charged
        cases answer with
        | error outcome => simp [pure, Except.pure]
        | ok u => simpa using fun _ => BitVec.not_lt.mp hgas

/-- A commit touches the meter and the database of the EVM and nothing else of it,
and leaves the exhaustion flag alone. -/
lemma commitTransaction_evm (h : e.commitTransaction checks output = .ok (gasUsed, e')) :
    e'.evm = { (e.evm.withMeter ZkGasMeter.commitTransaction).2 with
      db := (e.evm.withMeter ZkGasMeter.commitTransaction).2.db.commit output.result.state } ∧
    e'.zkGasExhausted = e.zkGasExhausted := by
  rw [commitTransaction, commitCurrentTransactionZkGas,
    TaikoEvmWrapper.commitTransactionZkGas] at h
  generalize e.evm.withMeter ZkGasMeter.commitTransaction = committed at h ⊢
  obtain ⟨answer, evm⟩ := committed
  cases hadd : plainAdd checks e.gasUsed output.result.result.txGasUsed with
  | error p =>
    rcases answer with _ | _ | zkGas <;>
      simp [bind, Except.bind, setFinalizedBlockZkGas, hadd] at h
  | ok cumulative =>
    rcases answer with _ | _ | zkGas
    · cases h
    · simp only [bind, Except.bind, hadd, pure, Except.pure, Except.ok.injEq,
        Prod.mk.injEq] at h
      rw [← h.2]
      exact ⟨rfl, rfl⟩
    · simp only [bind, Except.bind, setFinalizedBlockZkGas, hadd, pure, Except.pure,
        Except.ok.injEq, Prod.mk.injEq] at h
      rw [← h.2]
      exact ⟨rfl, rfl⟩

lemma commitTransaction_tended (h : e.commitTransaction checks output = .ok (gasUsed, e'))
    (ht : Tended e) : Tended e' := by
  obtain ⟨hsame, htidy⟩ := e.evm.withMeter_same ZkGasMeter.commitTransaction
  obtain ⟨hevm, -⟩ := commitTransaction_evm h
  generalize (e.evm.withMeter ZkGasMeter.commitTransaction).2 = evm at hsame htidy hevm
  rw [TaikoEvmWrapper.SameBut] at hsame
  refine ⟨⟨?_, ?_⟩, ?_⟩
  · rw [hevm, hsame]
    exact ht.owns.reset
  · rw [hevm, hsame]
    exact ht.owns.derive
  · rw [hevm]
    exact htidy ht.tidy

variable (revm checks)

/-- The executor commits a transaction. -/
def Commits (e : TaikoBlockExecutor) (tx : Recovered) (e' : TaikoBlockExecutor) : Prop :=
  ∃ gasUsed, e.executeTransaction revm checks tx = .ok (.ok gasUsed, e')

/-- The executor fails a transaction, or clears the exhaustion one left. -/
def Discards (e e' : TaikoBlockExecutor) : Prop :=
  (∃ tx error, e.executeTransaction revm checks tx = .ok (.error error, e')) ∨
    e' = e.clearZkGasExhaustion

variable {revm checks}

lemma Discards.kept (h : Discards revm checks e e') (ho : OwnsEvm e) : Kept e e' := by
  rcases h with ⟨tx, error, hrun⟩ | rfl
  · rw [executeTransaction_eq_error] at hrun
    exact (executeTransactionWithoutCommit_kept revm checks ho tx).of_ok hrun
  · exact clearZkGasExhaustion_kept e

/-- A committed transaction ran in a block that was kept, and was committed then. -/
lemma executeTransaction_committed (ho : OwnsEvm e)
    (h : e.executeTransaction revm checks tx = .ok (.ok gasUsed, e')) :
    ∃ output e₁, e.executeTransactionWithoutCommit revm checks tx = .ok (.ok output, e₁) ∧
      Kept e e₁ ∧ e₁.commitTransaction checks output = .ok (gasUsed, e') := by
  obtain ⟨output, e₁, hresult, hcommit⟩ := executeTransaction_eq_ok.mp h
  have hkept := executeTransactionWithoutCommit_kept revm checks ho tx
  exact ⟨output, e₁, hresult, hkept.of_ok hresult, hcommit⟩

lemma Commits.tended (h : Commits revm checks e tx e') (ht : Tended e) : Tended e' := by
  obtain ⟨gasUsed, hrun⟩ := h
  obtain ⟨output, e₁, -, hkept, hcommit⟩ := executeTransaction_committed ht.owns hrun
  exact commitTransaction_tended hcommit (hkept.tended ht)

/-- A charged transaction has a result where it ran within the zk gas budget. -/
lemma transactCharged_eq_ok :
    e.transactCharged revm checks tx = .ok (.ok output, e') ↔
      ∃ result evm, e.evm.transactRaw revm checks tx.toTxEnv = .ok (.ok result, evm) ∧
        evm.transactionZkGasCommitWouldExceed = false ∧
        (⟨result, tx.tx.txType⟩ : EthTxResult) = output ∧ { e with evm := evm } = e' := by
  rw [transactCharged]
  rcases e.evm.transactRaw revm checks tx.toTxEnv with panic | ⟨error | result, evm⟩
  · simp [bind, Except.bind]
  · dsimp only [bind, Except.bind]
    split <;> simp [pure, Except.pure]
  · dsimp only [bind, Except.bind]
    split <;> simp_all [pure, Except.pure]

/-! ### Replays -/

/-- The second executor, which expects a difficulty and never filtered, is where the
first one stands once cleared. -/
structure Replays (d : Option U256) (e s : TaikoBlockExecutor) : Prop where
  tended : Tended e
  ready : s.zkGasExhausted = false
  clear : s.clearZkGasExhaustion = e.clearZkGasExhaustion.expecting d

variable {d : Option U256} {s : TaikoBlockExecutor}

lemma Discards.replays (h : Discards revm checks e e') (hr : Replays d e s) : Replays d e' s := by
  have hkept := h.kept hr.tended.owns
  refine ⟨hkept.tended hr.tended, hr.ready, ?_⟩
  rw [hkept.clear_eq hr.tended.tidy]
  exact hr.clear

/-- A transaction that commits in the filtering execution commits in the replay. -/
lemma Commits.replays (h : Commits revm checks e tx e') (hr : Replays d e s) :
    ∃ s', Commits revm checks s tx s' ∧ Replays d e' s' := by
  have htended := h.tended hr.tended
  obtain ⟨gasUsed, hrun⟩ := h
  obtain ⟨output, e₁, hresult, hcommit⟩ := executeTransaction_eq_ok.mp hrun
  obtain ⟨hflag, hfits, hcharge, htransact⟩ := executeTransactionWithoutCommit_eq_ok.mp hresult
  have hreset : s.resetCurrentTransactionZkGas = e.resetCurrentTransactionZkGas.expecting d := by
    rw [← clearZkGasExhaustion_of_not_exhausted hr.ready,
      ← clearZkGasExhaustion_of_not_exhausted hflag, hr.clear]
  have hsame : s.evm.block = e.evm.block ∧ s.gasUsed = e.gasUsed := by
    have hs := s.resetCurrentTransactionZkGas_kept.same
    have he := e.resetCurrentTransactionZkGas_kept.same
    rw [hreset] at hs
    refine ⟨?_, ?_⟩
    · have hblock := congrArg (·.evm.block) (hs.symm.trans (congrArg (expecting · d) he))
      exact hblock
    · have hgasUsed := congrArg (·.gasUsed) (hs.symm.trans (congrArg (expecting · d) he))
      exact hgasUsed
  have hresult' : s.executeTransactionWithoutCommit revm checks tx
      = .ok (.ok output, e₁.expecting d) := by
    rw [executeTransactionWithoutCommit_eq_ok, hsame.1, hsame.2, hreset]
    refine ⟨hr.ready, hfits, hcharge, ?_⟩
    refine (expecting_transactCharged revm checks { e.resetCurrentTransactionZkGas with
      evm := e.resetCurrentTransactionZkGas.evm.chargeTxIntrinsicZkGas.2 } d tx).trans ?_
    rw [htransact]
    rfl
  have hexhausted : e'.zkGasExhausted = false := by
    obtain ⟨_, _, -, -, -, rfl⟩ := transactCharged_eq_ok.mp htransact
    rw [(commitTransaction_evm hcommit).2]
    exact (e.resetCurrentTransactionZkGas_exhausted).trans hflag
  refine ⟨e'.expecting d, ⟨gasUsed, ?_⟩, htended, hexhausted, expecting_clearZkGasExhaustion e' d⟩
  rw [executeTransaction_eq_ok]
  refine ⟨output, e₁.expecting d, hresult', ?_⟩
  rw [expecting_commitTransaction, hcommit]
  rfl

/-- The transactions of a block execute where each of them commits. -/
lemma executeTransactions_eq_ok :
    e.executeTransactions revm checks txs = .ok (.ok (), e') ↔
      Strictly (Commits revm checks) e txs e' := by
  refine ⟨fun h => ?_, fun h => ?_⟩
  · induction txs generalizing e with
    | nil =>
      cases h
      exact .nil _
    | cons tx txs ih =>
      obtain ⟨⟨answer, e₁⟩, hrun, h⟩ := bind_eq_ok.mp h
      cases answer with
      | error error => cases h
      | ok gasUsed => exact .cons ⟨gasUsed, hrun⟩ (ih h)
  · induction h with
    | nil e => rfl
    | cons h _ ih =>
      obtain ⟨gasUsed, hrun⟩ := h
      rw [executeTransactions, hrun]
      exact ih

/-! ### The ends of a block -/

lemma finish_clearZkGasExhaustion (e : TaikoBlockExecutor) :
    e.clearZkGasExhaustion.finish = e.finish := by
  have hzk : e.evm.resetTransactionZkGas.blockZkGasUsed = e.evm.blockZkGasUsed := by
    rw [TaikoEvmWrapper.blockZkGasUsed, TaikoEvmWrapper.blockZkGasUsed,
      TaikoEvmWrapper.meter_resetTransactionZkGas, Option.map_map]
    rfl
  simp only [finish, clearZkGasExhaustion, resetCurrentTransactionZkGas, syncFinalizedBlockZkGas,
    hzk]
  cases hz : e.evm.blockZkGasUsed with
  | none =>
    simp only [hzk, hz]
    rfl
  | some zkGas =>
    simp only [setFinalizedBlockZkGas, hzk, hz]
    rfl

/-- A block that expects nothing, or the zk gas that it publishes, finishes as it does. -/
lemma finish_expecting {d : Option U256} (h : e.finish = .ok fin)
    (hd : d = none ∨ d = some (fin.finalizedBlockZkGas.setWidth 256)) :
    (e.expecting d).finish = .ok fin := by
  rw [finish] at h ⊢
  rw [expecting_syncFinalizedBlockZkGas]
  obtain ⟨u, -, h⟩ := bind_eq_ok.mp h
  cases h
  rcases hd with rfl | rfl
  · rfl
  · simp [validateExpectedZkGasDifficulty, expecting, bind, Except.bind, pure, Except.pure]

/-! ### Before the first transaction -/

/-- System calls move the database, the anchor context and the meters of the EVM, and
nothing else of the executor. -/
structure SameStart (e e' : TaikoBlockExecutor) : Prop where
  same : e' = { e with
    evm := { e.evm with
      db := e'.evm.db
      extraExecutionCtx := e'.evm.extraExecutionCtx
      zkGasMeter := e'.evm.zkGasMeter
      inspector := e'.evm.inspector } }
  tidy : InspectorTidy e.evm.inspector → InspectorTidy e'.evm.inspector

lemma SameStart.refl (e : TaikoBlockExecutor) : SameStart e e := ⟨rfl, id⟩

lemma SameStart.trans {e₁ e₂ e₃ : TaikoBlockExecutor} (h : SameStart e₁ e₂)
    (h' : SameStart e₂ e₃) : SameStart e₁ e₃ where
  same := by
    have h₁ := h.same
    have h₂ := h'.same
    rw [h₂, h₁]
  tidy ht := h'.tidy (h.tidy ht)

lemma SameStart.tended (h : SameStart e e') (ht : Tended e) : Tended e' := by
  refine ⟨⟨?_, ?_⟩, h.tidy ht.tidy⟩
  · rw [h.same]
    exact ht.owns.reset
  · rw [h.same]
    exact ht.owns.derive

/-- A system call, with whatever it leaves in the database. -/
lemma SameStart.of_called {evm : TaikoEvmWrapper} (h : TaikoEvmWrapper.SystemCalled e.evm evm)
    (db : Db) : SameStart e { e with evm := { evm with db := db } } where
  same := by
    have hsame := h.same
    dsimp only
    conv_lhs => rw [hsame]
  tidy := h.charged.inspected.tidy

lemma applySystemCall_sameStart (revm : Revm) (checks : OverflowChecks) (ht : Tended e)
    (contract : Address) (data : Bytes) (failure : String → BlockValidationError) :
    Satisfies (fun _ => True) (fun out => SameStart e out.2)
      (e.applySystemCall revm checks contract data failure) := by
  refine Satisfies.bind (e.evm.transactSystemCall_spec revm checks systemAddress contract data
    ht.owns.reset ht.owns.derive) fun out hout => ?_
  obtain ⟨outcome, evm⟩ := out
  cases outcome with
  | error error => exact .of_called hout evm.db
  | ok res => exact .of_called hout (evm.db.commit res.state)

lemma applyBlockhashesContractCall_sameStart (revm : Revm) (checks : OverflowChecks)
    (ht : Tended e) :
    Satisfies (fun _ => True) (fun out => SameStart e out.2)
      (e.applyBlockhashesContractCall revm checks) := by
  rw [applyBlockhashesContractCall]
  split
  · exact .refl e
  · exact applySystemCall_sameStart revm checks ht _ _ _

lemma applyBeaconRootContractCall_sameStart (revm : Revm) (checks : OverflowChecks)
    (ht : Tended e) :
    Satisfies (fun _ => True) (fun out => SameStart e out.2)
      (e.applyBeaconRootContractCall revm checks) := by
  rw [applyBeaconRootContractCall]
  split
  · exact .refl e
  · split
    · exact .refl e
    · split
      · split <;> exact .refl e
      · exact applySystemCall_sameStart revm checks ht _ _ _

/-- The EVM with the anchor context of a share and of the golden-touch account. -/
def withAnchorContext (evm : TaikoEvmWrapper) (pctg : U64) (account : Option AccountInfo) :
    TaikoEvmWrapper :=
  { evm with
    extraExecutionCtx := some (.new pctg goldenTouch ((account.map (·.nonce)).getD 0)) }

/-- How installing the anchor context can end: it was installed before, the golden-touch
account cannot be read, the system call fails, or it is installed. -/
inductive Initializes (e : TaikoBlockExecutor) :
    Except BlockExecutionError Unit → TaikoBlockExecutor → Prop
  | before (hinit : e.evmExtraExecutionCtxInitialized = true) : Initializes e (.ok ()) e
  | unread (hinit : e.evmExtraExecutionCtxInitialized = false) (error : BlockExecutionError) :
      Initializes e (.error error) e
  | failed {account : Option AccountInfo} {pctg : U64}
      (hinit : e.evmExtraExecutionCtxInitialized = false)
      (hbasic : e.evm.db.basic goldenTouch = .ok account) (hpctg : e.baseFeeSharePctg = .ok pctg)
      (error : BlockExecutionError) :
      Initializes e (.error error)
        { e with
          evm := withAnchorContext e.evm pctg account
          evmExtraExecutionCtxInitialized := false }
  | installed {account : Option AccountInfo} {pctg : U64}
      (hinit : e.evmExtraExecutionCtxInitialized = false)
      (hbasic : e.evm.db.basic goldenTouch = .ok account) (hpctg : e.baseFeeSharePctg = .ok pctg) :
      Initializes e (.ok ())
        { e with
          evm := withAnchorContext e.evm pctg account
          evmExtraExecutionCtxInitialized := true }

lemma initializeAnchorContext_initializes {answer : Except BlockExecutionError Unit}
    (h : e.initializeAnchorContext revm checks = .ok (answer, e')) : Initializes e answer e' := by
  rw [initializeAnchorContext] at h
  cases hinit : e.evmExtraExecutionCtxInitialized with
  | true =>
    rw [hinit, if_pos rfl] at h
    cases h
    exact .before hinit
  | false =>
    rw [hinit, if_neg Bool.false_ne_true] at h
    cases hbasic : e.evm.db.basic goldenTouch with
    | error error =>
      rw [hbasic] at h
      cases h
      exact .unread hinit _
    | ok account =>
      simp only [hbasic] at h
      obtain ⟨pctg, hpctg, h⟩ := bind_eq_ok.mp h
      obtain ⟨⟨outcome, evm⟩, hcall, h⟩ := bind_eq_ok.mp h
      obtain ⟨outcome', hanchor⟩ := e.evm.transactSystemCall_anchor revm checks pctg
        ((account.map (·.nonce)).getD 0)
      obtain ⟨rfl, rfl⟩ := Prod.mk.inj (Except.ok.inj (hcall.symm.trans hanchor))
      cases outcome with
      | error error =>
        cases h
        exact .failed hinit hbasic hpctg _
      | ok res =>
        cases h
        exact .installed hinit hbasic hpctg

/-- The anchor context is installed from the golden-touch account and the share of the
block, once. -/
lemma initializeAnchorContext_eq_ok (h : e.initializeAnchorContext revm checks = .ok (.ok (), e')) :
    (e.evmExtraExecutionCtxInitialized = true ∧ e' = e) ∨
      ∃ account pctg, e.evm.db.basic goldenTouch = .ok account ∧
        e.baseFeeSharePctg = .ok pctg ∧
        e' = { e with
          evm := { e.evm with
            extraExecutionCtx :=
              some (.new pctg goldenTouch ((account.map (·.nonce)).getD 0)) }
          evmExtraExecutionCtxInitialized := true } := by
  cases initializeAnchorContext_initializes h with
  | before hinit => exact .inl ⟨hinit, rfl⟩
  | installed hinit hbasic hpctg => exact .inr ⟨_, _, hbasic, hpctg, rfl⟩

/-- The calls before the first transaction end in the anchor system call. -/
lemma applyPreExecutionChanges_eq_ok (ht : Tended e)
    (h : e.applyPreExecutionChanges revm checks = .ok (.ok (), e')) :
    ∃ e₁, SameStart e e₁ ∧ e₁.initializeAnchorContext revm checks = .ok (.ok (), e') := by
  obtain ⟨⟨answer, e₁⟩, hhashes, h⟩ := bind_eq_ok.mp h
  have hstart : SameStart e e₁ :=
    (applyBlockhashesContractCall_sameStart revm checks ht).of_ok hhashes
  cases answer with
  | error error => cases h
  | ok u =>
    obtain ⟨⟨answer, e₂⟩, hroot, h⟩ := bind_eq_ok.mp h
    have hstart' : SameStart e₁ e₂ :=
      (applyBeaconRootContractCall_sameStart revm checks (hstart.tended ht)).of_ok hroot
    cases answer with
    | error error => cases h
    | ok u => exact ⟨e₂, hstart.trans hstart', h⟩

/-- The calls before the first transaction keep the settings of the EVM and the
exhaustion flag. -/
lemma applyPreExecutionChanges_tended (ht : Tended e)
    (h : e.applyPreExecutionChanges revm checks = .ok (.ok (), e')) :
    Tended e' ∧ e'.zkGasExhausted = e.zkGasExhausted := by
  obtain ⟨e₁, hstart, hanchor⟩ := applyPreExecutionChanges_eq_ok ht h
  have ht₁ := hstart.tended ht
  have hflag : e₁.zkGasExhausted = e.zkGasExhausted := by rw [hstart.same]
  rcases initializeAnchorContext_eq_ok hanchor with ⟨-, rfl⟩ | ⟨account, pctg, -, -, rfl⟩
  · exact ⟨ht₁, hflag⟩
  · exact ⟨⟨⟨ht₁.owns.reset, ht₁.owns.derive⟩, ht₁.tidy⟩, hflag⟩

/-- The calls before the first transaction use no gas of the block. -/
lemma applyPreExecutionChanges_gasUsed (ht : Tended e)
    (h : e.applyPreExecutionChanges revm checks = .ok (.ok (), e')) :
    e'.gasUsed = e.gasUsed ∧ e'.evm.block = e.evm.block := by
  obtain ⟨e₁, hstart, hanchor⟩ := applyPreExecutionChanges_eq_ok ht h
  have hsame : e₁.gasUsed = e.gasUsed ∧ e₁.evm.block = e.evm.block := by
    rw [hstart.same]
    exact ⟨rfl, rfl⟩
  rcases initializeAnchorContext_eq_ok hanchor with ⟨-, rfl⟩ | ⟨account, pctg, -, -, rfl⟩
  · exact hsame
  · exact hsame

/-- A block executes where its three stages succeed. -/
lemma executeBlock_eq_ok :
    e.executeBlock revm checks txs = .ok (.ok fin) ↔
      ∃ e₁ e₂, e.applyPreExecutionChanges revm checks = .ok (.ok (), e₁) ∧
        e₁.executeTransactions revm checks txs = .ok (.ok (), e₂) ∧ e₂.finish = .ok fin := by
  refine ⟨fun h => ?_, ?_⟩
  · obtain ⟨⟨answer, e₁⟩, hpre, h⟩ := bind_eq_ok.mp h
    cases answer with
    | error error => cases h
    | ok u =>
      obtain ⟨⟨answer, e₂⟩, hrun, h⟩ := bind_eq_ok.mp h
      cases answer with
      | error error => cases h
      | ok u => exact ⟨e₁, e₂, hpre, hrun, Except.ok.inj h⟩
  · rintro ⟨e₁, e₂, hpre, hrun, hfinish⟩
    rw [executeBlock, hpre]
    dsimp only [bind, Except.bind]
    rw [hrun]
    exact congrArg Except.ok hfinish

/-- What a filtering execution of a block committed, executed alone and without filtering,
finishes alike, whether or not the published zk gas is expected. -/
theorem executeBlock_of_filtered {e₀ : TaikoBlockExecutor} (ht : Tended e₀)
    (hready : e₀.zkGasExhausted = false)
    (hpre : e₀.applyPreExecutionChanges revm checks = .ok (.ok (), e))
    (hrun : Filtered (Commits revm checks) (Discards revm checks) e txs e')
    (hfinish : e'.finish = .ok fin) {d : Option U256}
    (hd : d = none ∨ d = some (fin.finalizedBlockZkGas.setWidth 256)) :
    (e₀.expecting d).executeBlock revm checks txs = .ok (.ok fin) := by
  obtain ⟨htended, hflag⟩ := applyPreExecutionChanges_tended ht hpre
  have hstart : Replays d e (e.expecting d) :=
    ⟨htended, hflag.trans hready, expecting_clearZkGasExhaustion e d⟩
  obtain ⟨t, hstrict, hend⟩ := hrun.replay (Replays d)
    (fun _ _ _ h hr => h.replays hr) (fun _ _ _ _ h hr => h.replays hr) hstart
  refine executeBlock_eq_ok.mpr ⟨e.expecting d, t, expecting_applyPreExecutionChanges d hpre,
    executeTransactions_eq_ok.mpr hstrict, ?_⟩
  rw [← finish_clearZkGasExhaustion, hend.clear]
  refine finish_expecting ?_ hd
  rw [finish_clearZkGasExhaustion]
  exact hfinish

end TaikoBlockExecutor

end AlethiaReth
