import AlethiaReth.Evm.PathEquivalence
import AlethiaReth.Block.Replay

/-!
Two executors of one block, one with the meter on its EVM and one with the meter in its
inspector: they answer every transaction alike (`executeTransactionWithoutCommit_paired`,
`commitTransaction_twin`).
-/

namespace AlethiaReth

open MachineInt Outcome

namespace TaikoEvmWrapper

/-! ### EVMs -/

variable {revm : Revm} {checks : OverflowChecks} {res : ResultAndState} {evm₁ : TaikoEvmWrapper}

/-- The EVMs of two executors, one on the production path and one on the inspector path,
over the same block and state with the same meter. -/
inductive Twin : TaikoEvmWrapper → TaikoEvmWrapper → Prop
  | intro (db : Db) (block : BlockEnv) (cfg : CfgEnv) (extra : Option TaikoEvmExtraExecutionCtx)
      (inspector : Option ZkGasMeteringState) :
      Twin ⟨db, block, cfg, extra, inspectorMeter inspector, none, false, false, false⟩
        ⟨db, block, cfg, extra, none, inspector, true, false, false⟩

/-- EVMs that are twins once the zk gas in flight is dropped. -/
def Paired (evm evm' : TaikoEvmWrapper) : Prop :=
  Twin evm.resetTransactionZkGas evm'.resetTransactionZkGas

/-- The EVM of the production path, and that of the inspector path while inspection is off:
nothing is metered there, and the meters agree but for zk gas in flight. -/
inductive Unmetered : TaikoEvmWrapper → TaikoEvmWrapper → Prop
  | intro (db : Db) (block : BlockEnv) (cfg : CfgEnv) (extra : Option TaikoEvmExtraExecutionCtx)
      {meter : Option ZkGasMeter} {inspector : Option ZkGasMeteringState}
      (h : meter.map ZkGasMeter.resetTransaction
        = inspectorMeter (inspector.map ZkGasMeteringState.resetTransaction)) :
      Unmetered ⟨db, block, cfg, extra, meter, none, false, false, false⟩
        ⟨db, block, cfg, extra, none, inspector, false, false, false⟩

variable {evm evm' : TaikoEvmWrapper}

lemma Twin.meter_eq (h : Twin evm evm') : evm'.meter = evm.meter := by
  obtain ⟨db, block, cfg, extra, inspector⟩ := h
  exact Option.or_none.symm

lemma Twin.block_eq (h : Twin evm evm') : evm'.block = evm.block := by
  obtain ⟨db, block, cfg, extra, inspector⟩ := h
  rfl

lemma Twin.db_eq (h : Twin evm evm') : evm'.db = evm.db := by
  obtain ⟨db, block, cfg, extra, inspector⟩ := h
  rfl

lemma Paired.block_eq (h : Paired evm evm') : evm'.block = evm.block := by
  have htwin : evm.resetTransactionZkGas.Twin evm'.resetTransactionZkGas := h
  exact htwin.block_eq

lemma Twin.resetTransactionZkGas (h : Twin evm evm') :
    Twin evm.resetTransactionZkGas evm'.resetTransactionZkGas := by
  obtain ⟨db, block, cfg, extra, inspector⟩ := h
  have hreset : (inspectorMeter inspector).map ZkGasMeter.resetTransaction
      = inspectorMeter (inspector.map ZkGasMeteringState.resetTransaction) := by
    cases inspector <;> rfl
  simp only [TaikoEvmWrapper.resetTransactionZkGas, hreset]
  exact .intro _ _ _ _ _

/-- A meter operation answers alike. -/
lemma Twin.withMeter (h : Twin evm evm') (op : ZkGasMeter → ZkGasMeter.Answer) :
    (evm'.withMeter op).1 = (evm.withMeter op).1 ∧
      Twin (evm.withMeter op).2 (evm'.withMeter op).2 := by
  have hmeter := h.meter_eq
  cases hm : evm.meter with
  | none =>
    rw [hm] at hmeter
    rw [withMeter_of_none hm, withMeter_of_none hmeter]
    exact ⟨rfl, h⟩
  | some m =>
    rw [hm] at hmeter
    rw [withMeter_of_some hm, withMeter_of_some hmeter]
    refine ⟨rfl, ?_⟩
    obtain ⟨db, block, cfg, extra, inspector⟩ := h
    cases inspector with
    | none => cases hm
    | some metering => exact .intro _ _ _ _ (some { metering with meter := (op m).2 })

lemma Twin.chargeTxIntrinsicZkGas (h : Twin evm evm') :
    evm'.chargeTxIntrinsicZkGas.1 = evm.chargeTxIntrinsicZkGas.1 ∧
      Twin evm.chargeTxIntrinsicZkGas.2 evm'.chargeTxIntrinsicZkGas.2 := by
  obtain ⟨hanswer, hcharged⟩ := h.withMeter ZkGasMeter.chargeTxIntrinsic
  rw [TaikoEvmWrapper.chargeTxIntrinsicZkGas, TaikoEvmWrapper.chargeTxIntrinsicZkGas]
  generalize evm.withMeter ZkGasMeter.chargeTxIntrinsic = out at hanswer hcharged
  generalize evm'.withMeter ZkGasMeter.chargeTxIntrinsic = out' at hanswer hcharged
  obtain ⟨answer, evm₁⟩ := out
  obtain ⟨answer', evm₁'⟩ := out'
  cases hanswer
  cases answer <;> exact ⟨rfl, hcharged⟩

lemma Twin.commit (h : Twin evm evm') (state : EvmState) :
    Twin { evm with db := evm.db.commit state } { evm' with db := evm'.db.commit state } := by
  obtain ⟨db, block, cfg, extra, inspector⟩ := h
  exact .intro _ _ _ _ _

/-- A transaction has the same outcome, and leaves twin EVMs. -/
theorem Twin.transactRaw (laws : revm.LoopLaws) (checks : OverflowChecks) (h : Twin evm evm')
    (tx : TxEnv) :
    Related (fun out out' => out'.1 = out.1 ∧ Twin out.2 out'.2)
      (evm.transactRaw revm checks tx) (evm'.transactRaw revm checks tx) := by
  obtain ⟨db, block, cfg, extra, inspector⟩ := h
  refine (handlerRun_twin laws checks ⟨db, block, cfg, tx⟩ extra ⟨rfl, rfl, rfl⟩).bind ?_
  rintro ⟨outcome, zkGasMeter, none'⟩ ⟨outcome', none'', inspector'⟩ ⟨houtcome, htwin⟩
  obtain ⟨hproduction, hinspected, hmeter⟩ := htwin
  cases houtcome
  cases hproduction
  cases hinspected
  cases hmeter
  exact ⟨rfl, .intro _ _ _ _ _⟩

/-! ### Without a meter -/

lemma Unmetered.block_eq (h : Unmetered evm evm') : evm'.block = evm.block := by
  obtain ⟨db, block, cfg, extra, hmeter⟩ := h
  rfl

lemma Unmetered.cfg_eq (h : Unmetered evm evm') : evm'.cfg = evm.cfg := by
  obtain ⟨db, block, cfg, extra, hmeter⟩ := h
  rfl

lemma Unmetered.db_eq (h : Unmetered evm evm') : evm'.db = evm.db := by
  obtain ⟨db, block, cfg, extra, hmeter⟩ := h
  rfl

lemma Unmetered.commit (h : Unmetered evm evm') (state : EvmState) :
    Unmetered { evm with db := evm.db.commit state }
      { evm' with db := evm'.db.commit state } := by
  obtain ⟨db, block, cfg, extra, hmeter⟩ := h
  exact .intro _ _ _ _ hmeter

/-- Inspection starts with EVMs that are paired. -/
lemma Unmetered.setInspectorEnabled (h : Unmetered evm evm') :
    Paired evm (evm'.setInspectorEnabled true) := by
  obtain ⟨db, block, cfg, extra, hmeter⟩ := h
  rw [Paired, TaikoEvmWrapper.setInspectorEnabled, if_neg (fun hsome => by cases hsome.2)]
  simp only [TaikoEvmWrapper.resetTransactionZkGas, hmeter]
  exact .intro _ _ _ _ _

/-- A transaction that succeeds on the production path does the same without a meter. -/
lemma Unmetered.transactRaw (laws : revm.LoopLaws) (h : Unmetered evm evm') {tx : TxEnv}
    (hrun : evm.transactRaw revm checks tx = .ok (.ok res, evm₁)) :
    ∃ evm₁', evm'.transactRaw revm checks tx = .ok (.ok res, evm₁') ∧ Unmetered evm₁ evm₁' := by
  obtain ⟨db, block, cfg, extra, hmeter⟩ := h
  obtain ⟨⟨outcome, homes⟩, hhandler, hrun⟩ := bind_eq_ok.mp hrun
  have hcharged : HomesCharged _ homes := (handlerRun_charged revm checks _ _ _ _).of_ok hhandler
  cases outcome with
  | error error => cases hrun
  | ok outcome =>
    cases hrun
    have hhandler' := handlerRun_unmetered laws rfl hhandler
    refine ⟨_, bind_eq_ok.mpr ⟨_, hhandler' _, rfl⟩, ?_⟩
    obtain ⟨zkGasMeter, inspector⟩ := homes
    cases inspector with
    | some metering => exact hcharged.inspected.meter.elim
    | none => exact .intro _ _ _ _ (hcharged.production.map_reset_eq.trans hmeter)

/-- A system call that succeeds on the production path does the same without a meter. -/
lemma Unmetered.transactSystemCall (laws : revm.LoopLaws) (h : Unmetered evm evm')
    {caller contract : Address} {data : Bytes}
    (hrun : evm.transactSystemCall revm checks caller contract data = .ok (.ok res, evm₁)) :
    ∃ evm₁', evm'.transactSystemCall revm checks caller contract data = .ok (.ok res, evm₁') ∧
      Unmetered evm₁ evm₁' := by
  obtain ⟨db, block, cfg, extra, hmeter⟩ := h
  rw [TaikoEvmWrapper.transactSystemCall] at hrun ⊢
  split at hrun
  · next hanchor =>
    rw [if_pos hanchor]
    rw [anchorSystemCall] at hrun ⊢
    cases hdecode : decodeAnchorSystemCallData data with
    | none => rw [hdecode] at hrun; cases hrun
    | some decoded =>
      rw [hdecode] at hrun
      dsimp only at hrun ⊢
      split at hrun
      · cases hrun
      · cases hrun
      · cases hrun
        exact ⟨_, rfl, .intro _ _ _ _ hmeter⟩
  · next hanchor =>
    rw [if_neg hanchor]
    obtain ⟨⟨outcome, evm₂⟩, hraw, hrun⟩ := bind_eq_ok.mp hrun
    cases outcome with
    | error error => cases hrun
    | ok res =>
      obtain ⟨evm₂', hraw', htwin⟩ :=
        (Unmetered.intro db { block with gasLimit := maxSystemCallGasLimit, basefee := 0 }
          { cfg with disableNonceCheck := true } extra hmeter).transactRaw laws hraw
      cases hrun
      refine ⟨_, bind_eq_ok.mpr ⟨_, hraw', rfl⟩, ?_⟩
      obtain ⟨db', block', cfg', extra', hmeter'⟩ := htwin
      exact .intro _ _ _ _ hmeter'

end TaikoEvmWrapper

namespace TaikoBlockExecutor

/-! ### Executors -/

/-- Answers of two executors: the same value leaves twins, the same error executors that are
paired. -/
def AnsweredAlike {α : Type} (out out' : Answered α) : Prop :=
  out'.1 = out.1 ∧
    match out.1 with
    | .ok _ => Alike id TaikoEvmWrapper.Twin out.2 out'.2
    | .error _ => Alike id TaikoEvmWrapper.Paired out.2 out'.2

variable {revm : Revm} {checks : OverflowChecks} {e e' : TaikoBlockExecutor}
  {R S : TaikoEvmWrapper → TaikoEvmWrapper → Prop}

lemma Alike.setFinalizedBlockZkGas (h : Alike id R e e') (zkGas : U64) :
    Alike id R (e.setFinalizedBlockZkGas zkGas) (e'.setFinalizedBlockZkGas zkGas) := by
  refine ⟨?_, h.evm⟩
  rw [h.same]
  rfl

lemma Alike.exhausted (h : Alike id R e e') :
    Alike id R { e with zkGasExhausted := true } { e' with zkGasExhausted := true } := by
  refine ⟨?_, h.evm⟩
  rw [h.same]

lemma Alike.syncFinalizedBlockZkGas (h : Alike id TaikoEvmWrapper.Twin e e') :
    Alike id TaikoEvmWrapper.Twin e.syncFinalizedBlockZkGas e'.syncFinalizedBlockZkGas := by
  have hzkGas : e'.evm.blockZkGasUsed = e.evm.blockZkGasUsed := by
    rw [TaikoEvmWrapper.blockZkGasUsed, TaikoEvmWrapper.blockZkGasUsed, h.evm.meter_eq]
  rw [TaikoBlockExecutor.syncFinalizedBlockZkGas, TaikoBlockExecutor.syncFinalizedBlockZkGas,
    hzkGas]
  split
  · exact h.setFinalizedBlockZkGas _
  · exact h

/-- A reset makes twins of executors that are paired. -/
lemma Alike.resetCurrentTransactionZkGas (h : Alike id TaikoEvmWrapper.Paired e e') :
    Alike id TaikoEvmWrapper.Twin e.resetCurrentTransactionZkGas
      e'.resetCurrentTransactionZkGas := by
  have hreset : e.evm.resetTransactionZkGas.Twin e'.evm.resetTransactionZkGas := h.evm
  exact (h.with_evm hreset).syncFinalizedBlockZkGas

lemma Alike.paired (h : Alike id TaikoEvmWrapper.Twin e e') :
    Alike id TaikoEvmWrapper.Paired e e' :=
  ⟨h.same, h.evm.resetTransactionZkGas⟩

lemma Alike.exhaustZkGas (h : Alike id TaikoEvmWrapper.Paired e e') :
    Alike id TaikoEvmWrapper.Twin e.exhaustZkGas e'.exhaustZkGas :=
  h.exhausted.resetCurrentTransactionZkGas

/-! ### Transactions -/

/-- A charged transaction is answered alike. -/
lemma transactCharged_twin (laws : revm.LoopLaws) (h : Alike id TaikoEvmWrapper.Twin e e')
    (tx : Recovered) :
    Related AnsweredAlike (e.transactCharged revm checks tx)
      (e'.transactCharged revm checks tx) := by
  refine (h.evm.transactRaw laws checks tx.toTxEnv).bind ?_
  rintro ⟨outcome, evm⟩ ⟨outcome', evm'⟩ ⟨houtcome, hevm⟩
  cases houtcome
  have hran : Alike id TaikoEvmWrapper.Twin { e with evm := evm } { e' with evm := evm' } :=
    h.with_evm hevm
  cases outcome with
  | error error =>
    dsimp only
    split
    · exact ⟨rfl, hran.paired.exhaustZkGas.paired⟩
    · exact ⟨rfl, hran.paired.resetCurrentTransactionZkGas.paired⟩
  | ok result =>
    have hexceed : evm'.transactionZkGasCommitWouldExceed
        = evm.transactionZkGasCommitWouldExceed := by
      rw [TaikoEvmWrapper.transactionZkGasCommitWouldExceed,
        TaikoEvmWrapper.transactionZkGasCommitWouldExceed, hevm.meter_eq]
    dsimp only
    rw [hexceed]
    split
    · exact ⟨rfl, hran.paired.exhaustZkGas.paired⟩
    · exact ⟨rfl, hran⟩

/-- A transaction is answered alike, whatever zk gas is in flight before it. -/
theorem executeTransactionWithoutCommit_paired (laws : revm.LoopLaws)
    (h : Alike id TaikoEvmWrapper.Paired e e') (tx : Recovered) :
    Related AnsweredAlike (e.executeTransactionWithoutCommit revm checks tx)
      (e'.executeTransactionWithoutCommit revm checks tx) := by
  have hflag : e'.zkGasExhausted = e.zkGasExhausted := by rw [h.same]
  have hgasUsed : e'.gasUsed = e.gasUsed := by rw [h.same]
  rw [executeTransactionWithoutCommit, executeTransactionWithoutCommit, hflag, hgasUsed,
    h.evm.block_eq]
  split
  · exact ⟨rfl, h⟩
  · refine (Related.refl _).bind ?_
    rintro available available' rfl
    split
    · exact ⟨rfl, h⟩
    · have hreset := h.resetCurrentTransactionZkGas
      obtain ⟨hanswer, hcharged⟩ := hreset.evm.chargeTxIntrinsicZkGas
      dsimp only
      generalize e.resetCurrentTransactionZkGas.evm.chargeTxIntrinsicZkGas = out
        at hanswer hcharged ⊢
      generalize e'.resetCurrentTransactionZkGas.evm.chargeTxIntrinsicZkGas = out'
        at hanswer hcharged ⊢
      obtain ⟨answer, evm⟩ := out
      obtain ⟨answer', evm'⟩ := out'
      cases hanswer
      rcases answer with ⟨⟨⟩⟩ | ⟨⟩
      · exact ⟨rfl, (hreset.with_evm hcharged).paired.exhaustZkGas.paired⟩
      · exact transactCharged_twin laws (hreset.with_evm hcharged) tx

/-- Twins commit a transaction alike. -/
theorem commitTransaction_twin (h : Alike id TaikoEvmWrapper.Twin e e') (output : EthTxResult) :
    Related (fun out out' => out'.1 = out.1 ∧ Alike id TaikoEvmWrapper.Twin out.2 out'.2)
      (e.commitTransaction checks output) (e'.commitTransaction checks output) := by
  have hcommit : Related (Alike id TaikoEvmWrapper.Twin) e.commitCurrentTransactionZkGas
      e'.commitCurrentTransactionZkGas := by
    obtain ⟨hanswer, hcommitted⟩ := h.evm.withMeter ZkGasMeter.commitTransaction
    rw [commitCurrentTransactionZkGas, commitCurrentTransactionZkGas,
      TaikoEvmWrapper.commitTransactionZkGas, TaikoEvmWrapper.commitTransactionZkGas]
    generalize e.evm.withMeter ZkGasMeter.commitTransaction = out at hanswer hcommitted ⊢
    generalize e'.evm.withMeter ZkGasMeter.commitTransaction = out' at hanswer hcommitted ⊢
    obtain ⟨answer, evm⟩ := out
    obtain ⟨answer', evm'⟩ := out'
    cases hanswer
    rcases answer with ⟨⟨⟩⟩ | _ | zkGas
    · rfl
    · exact h.with_evm hcommitted
    · exact (h.with_evm hcommitted).setFinalizedBlockZkGas zkGas
  refine hcommit.bind fun e₁ e₁' h₁ => ?_
  have hgasUsed : e₁'.gasUsed = e₁.gasUsed := by rw [h₁.same]
  have hreceipts : e₁'.receipts = e₁.receipts := by rw [h₁.same]
  rw [hgasUsed, hreceipts]
  refine (Related.refl _).bind ?_
  rintro cumulative cumulative' rfl
  refine ⟨rfl, ?_, h₁.evm.commit output.result.state⟩
  dsimp only
  conv_lhs => rw [h₁.same]

/-! ### Before the first transaction -/

/-- A system call that succeeds on the production path does the same without a meter. -/
lemma unmetered_callsAlike (laws : revm.LoopLaws) :
    CallsAlike revm checks TaikoEvmWrapper.Unmetered where
  db h := h.db_eq
  cfg h := h.cfg_eq
  number h := by rw [h.block_eq]
  timestamp h := by rw [h.block_eq]
  commit h := h.commit
  call h := h.transactSystemCall laws

/-! ### The ends of a block -/

lemma finish_twin (h : Alike id TaikoEvmWrapper.Twin e e') : e'.finish = e.finish := by
  have hsync := h.syncFinalizedBlockZkGas
  have hdb := hsync.evm.db_eq
  have hsame := hsync.same
  simp only [finish, hdb]
  rw [hsame]
  rfl

/-- Zk gas in flight plays no part at the end of a block. -/
theorem finish_paired (h : Alike id TaikoEvmWrapper.Paired e e') : e'.finish = e.finish := by
  have hcleared : Alike id TaikoEvmWrapper.Paired { e with zkGasExhausted := false }
      { e' with zkGasExhausted := false } := by
    refine ⟨?_, h.evm⟩
    rw [h.same]
  rw [← finish_clearZkGasExhaustion e, ← finish_clearZkGasExhaustion e']
  exact finish_twin hcleared.resetCurrentTransactionZkGas

end TaikoBlockExecutor

end AlethiaReth
