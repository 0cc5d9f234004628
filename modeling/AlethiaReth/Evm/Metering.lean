import AlethiaReth.Evm.Wrapper

/-!
What running a transaction does to the zk gas meters: it only charges them.

* `transactRaw_spec`: a transaction leaves the EVM as it was but for its meters.
* `transactSystemCall_spec`: a system call may also set the anchor context.
-/

namespace AlethiaReth

open MachineInt Outcome

variable (m : ZkGasMeter) (inspector : Option ZkGasMeteringState) (env : Env)
  (s : Phase revm × TaikoEvm revm) {checks : OverflowChecks} (evm : TaikoEvm revm)
  (input : FrameInput revm.Input) (result : FrameResult revm.Output)
  (frame : Frame revm.Input revm.Interpreter) (frames : List (Frame revm.Input revm.Interpreter))

/-- The second meter comes from the first by charges. -/
structure Charged (m m' : ZkGasMeter) : Prop where
  schedule_eq : m'.schedule = m.schedule
  block_eq : m'.blockZkGasUsed = m.blockZkGasUsed
  balanced : m.Balanced → m'.Balanced
  tx_le : m.txZkGasUsed.toNat ≤ m'.txZkGasUsed.toNat

lemma Charged.refl : Charged m m := ⟨rfl, rfl, id, le_rfl⟩

lemma Charged.trans {m₁ m₂ m₃ : ZkGasMeter} (h : Charged m₁ m₂) (h' : Charged m₂ m₃) :
    Charged m₁ m₃ where
  schedule_eq := h'.schedule_eq.trans h.schedule_eq
  block_eq := h'.block_eq.trans h.block_eq
  balanced hb := h'.balanced (h.balanced hb)
  tx_le := h.tx_le.trans h'.tx_le

/-- A reset forgets the charges. -/
lemma Charged.resetTransaction_eq {m m' : ZkGasMeter} (h : Charged m m') :
    m'.resetTransaction = m.resetTransaction := by
  rw [ZkGasMeter.resetTransaction, ZkGasMeter.resetTransaction, h.schedule_eq, h.block_eq]

lemma ZkGasMeter.chargeAmount_charged (charge : U64) :
    Charged m (m.chargeAmount charge).2 := by
  rw [chargeAmount]
  split
  · exact .refl m
  · next hle =>
    cases hadd : checkedAdd m.txZkGasUsed charge with
    | none => exact .refl m
    | some nextTx =>
      rw [checkedAdd_eq_some] at hadd
      refine ⟨rfl, rfl, fun hb => ?_, ?_⟩
      · rw [gt_iff_lt, BitVec.lt_def] at hle
        simp only [Balanced] at hb ⊢
        rw [BitVec.toNat_sub_of_le (BitVec.le_def.mpr (by omega))]
        omega
      · exact hadd ▸ Nat.le_add_right _ _

/-- A charge that succeeds is in the in-flight total. -/
lemma ZkGasMeter.chargeAmount_tx {m : ZkGasMeter} {charge : U64}
    (h : (m.chargeAmount charge).1 = .ok ()) :
    (m.chargeAmount charge).2.txZkGasUsed.toNat = m.txZkGasUsed.toNat + charge.toNat := by
  rw [chargeAmount] at h ⊢
  split at h
  · cases h
  · next hle =>
    rw [if_neg hle]
    cases hadd : checkedAdd m.txZkGasUsed charge with
    | none => rw [hadd] at h; cases h
    | some nextTx => exact checkedAdd_eq_some.mp hadd

lemma ZkGasMeter.chargeScaled_charged (rawGas : U64) (multiplier : U16) :
    Charged m (m.chargeScaled rawGas multiplier).2 := by
  rw [chargeScaled]
  cases checkedMul rawGas (multiplier.setWidth 64) with
  | none => exact .refl m
  | some charge => exact chargeAmount_charged m charge

/-- Both meters are absent, or the second comes from the first by charges. -/
def OptCharged : Option ZkGasMeter → Option ZkGasMeter → Prop
  | none, none => True
  | some m, some m' => Charged m m'
  | _, _ => False

@[simp] lemma OptCharged.refl (m : Option ZkGasMeter) : OptCharged m m := by
  cases m with
  | none => trivial
  | some m => exact Charged.refl m

lemma OptCharged.trans {m₁ m₂ m₃ : Option ZkGasMeter} (h : OptCharged m₁ m₂)
    (h' : OptCharged m₂ m₃) : OptCharged m₁ m₃ := by
  cases m₁ <;> cases m₂ <;> cases m₃ <;> simp_all [OptCharged]
  exact Charged.trans h h'

/-- A charged meter was there before. -/
lemma OptCharged.exists_of_some {m : Option ZkGasMeter} {m' : ZkGasMeter}
    (h : OptCharged m (some m')) : ∃ m₀, m = some m₀ ∧ Charged m₀ m' := by
  cases m with
  | none => exact h.elim
  | some m₀ => exact ⟨m₀, rfl, h⟩

/-- The meter of the inspector, when it has one. -/
def inspectorMeter : Option ZkGasMeter :=
  inspector.map (·.meter)

/-- No step is noted deeper than the deepest active depth, so that a reset forgets
every noted step. -/
def ZkGasMeteringState.Tidy (s : ZkGasMeteringState) : Prop :=
  ∀ depth : Fin maxCallDepth, s.maxActiveDepth < depth.val → s.pendingSteps depth = .empty

lemma ZkGasMeteringState.beginStep_tidy {s s' : ZkGasMeteringState} {depth : ℕ} {opcode : U8}
    {gasRemaining : U64} (h : s.beginStep depth opcode gasRemaining = .ok s') (ht : s.Tidy) :
    s'.Tidy := by
  rw [beginStep] at h
  split at h
  · next hdepth =>
    cases h
    intro d hd
    dsimp only at hd ⊢
    have hne : d ≠ ⟨depth, hdepth⟩ := by
      intro heq
      have heq : d.val = depth := congrArg Fin.val heq
      split at hd <;> omega
    rw [Function.update_of_ne hne]
    exact ht d (by split at hd <;> omega)
  · cases h

/-- A reset of a tidy inspector leaves nothing but its reset meter. -/
lemma ZkGasMeteringState.resetTransaction_of_tidy {s : ZkGasMeteringState} (h : s.Tidy) :
    s.resetTransaction = ⟨s.meter.resetTransaction, fun _ => .empty, 0⟩ := by
  rw [resetTransaction]
  congr
  funext depth
  split
  · rfl
  · exact h depth (by omega)

/-- The inspector, when it meters, notes no stray step. -/
def InspectorTidy : Prop :=
  ∀ s, inspector = some s → s.Tidy

/-- An inspector comes from another by charges and noted steps. -/
structure InspectorCharged (inspector inspector' : Option ZkGasMeteringState) : Prop where
  meter : OptCharged (inspectorMeter inspector) (inspectorMeter inspector')
  tidy : InspectorTidy inspector → InspectorTidy inspector'

lemma InspectorCharged.refl :
    InspectorCharged inspector inspector := ⟨.refl _, id⟩

lemma InspectorCharged.trans {i₁ i₂ i₃ : Option ZkGasMeteringState} (h : InspectorCharged i₁ i₂)
    (h' : InspectorCharged i₂ i₃) : InspectorCharged i₁ i₃ :=
  ⟨h.meter.trans h'.meter, fun ht => h'.tidy (h.tidy ht)⟩

lemma InspectorCharged.of_meter {s : ZkGasMeteringState} {m : ZkGasMeter} (h : Charged s.meter m) :
    InspectorCharged (some s) (some { s with meter := m }) := by
  refine ⟨h, ?_⟩
  rintro ht s' ⟨⟩
  exact ht s rfl

/-- A reset forgets the charges and the noted steps. -/
lemma InspectorCharged.map_reset_eq {i i' : Option ZkGasMeteringState} (h : InspectorCharged i i')
    (ht : InspectorTidy i) :
    i'.map ZkGasMeteringState.resetTransaction = i.map ZkGasMeteringState.resetTransaction := by
  have hmeter := h.meter
  cases i with
  | none =>
    cases i' with
    | none => rfl
    | some s' => exact hmeter.elim
  | some s =>
    cases i' with
    | none => exact hmeter.elim
    | some s' =>
      have hreset := Charged.resetTransaction_eq hmeter
      change some s'.resetTransaction = some s.resetTransaction
      rw [ZkGasMeteringState.resetTransaction_of_tidy (ht s rfl),
        ZkGasMeteringState.resetTransaction_of_tidy (h.tidy ht s' rfl), hreset]

lemma OptCharged.map_reset_eq {m m' : Option ZkGasMeter} (h : OptCharged m m') :
    m'.map ZkGasMeter.resetTransaction = m.map ZkGasMeter.resetTransaction := by
  cases m with
  | none =>
    cases m' with
    | none => rfl
    | some m' => exact h.elim
  | some m =>
    cases m' with
    | none => exact h.elim
    | some m' => exact congrArg some (Charged.resetTransaction_eq h)

/-- Both meters of an EVM come from those of another by charges. -/
structure HomesCharged (h h' : MeterHomes) : Prop where
  production : OptCharged h.zkGasMeter h'.zkGasMeter
  inspected : InspectorCharged h.inspector h'.inspector

lemma HomesCharged.refl (h : MeterHomes) : HomesCharged h h := ⟨.refl _, .refl _⟩

lemma HomesCharged.trans {h₁ h₂ h₃ : MeterHomes} (h : HomesCharged h₁ h₂)
    (h' : HomesCharged h₂ h₃) : HomesCharged h₁ h₃ :=
  ⟨h.production.trans h'.production, h.inspected.trans h'.inspected⟩

variable {revm : Revm}

/-- The meters of a running EVM. -/
def TaikoEvm.homes : MeterHomes := ⟨evm.zkGasMeter, evm.inspector⟩

/-! ### One step charges -/

lemma chargeStep_charged (m : ZkGasMeter) (opcode : U8) (stepGas : U64)
    (action : Option (InterpreterAction revm.Input revm.Output)) :
    Charged m (chargeStep revm m opcode stepGas action).2 := by
  rw [chargeStep]
  split
  · exact m.chargeScaled_charged _ _
  · exact m.chargeScaled_charged _ _

lemma meteredStep_charged (env : Env) (interpreter : revm.Interpreter)
    (ctx : Context revm.Scratch) (m : ZkGasMeter) :
    Charged m (meteredStep revm env interpreter ctx m).2.2.2 := by
  simp only [meteredStep]
  generalize hanswer : chargeStep revm m _ _ _ = answer
  have hcharged : Charged m answer.2 := hanswer ▸ chargeStep_charged m _ _ _
  obtain ⟨answer, m'⟩ := answer
  cases answer with
  | ok u => exact hcharged
  | error outcome => exact hcharged

lemma chargePrecompileCall_charged (address : Address) (gasUsed : U64)
    (ctx : Context revm.Scratch) :
    Charged m (chargePrecompileCall m address gasUsed ctx).1 := by
  simp only [chargePrecompileCall]
  generalize hanswer : m.chargePrecompile address gasUsed = answer
  have hcharged : Charged m answer.2 := hanswer ▸ m.chargeScaled_charged _ _
  obtain ⟨answer, m'⟩ := answer
  cases answer with
  | ok u => exact hcharged
  | error outcome => exact hcharged

lemma meterFrameInit_charged (evm : TaikoEvm revm) (input : FrameInput revm.Input)
    (init : ItemOrResult (Frame revm.Input revm.Interpreter) (FrameResult revm.Output)) :
    HomesCharged evm.homes (meterFrameInit evm input init).homes := by
  rw [meterFrameInit.eq_def]
  split
  · split
    · next hmeter =>
      refine ⟨?_, .refl _⟩
      simp only [TaikoEvm.homes, hmeter]
      exact chargePrecompileCall_charged _ _ _ _
    · exact .refl _
  · exact .refl _

lemma frameInit_charged :
    HomesCharged evm.homes (frameInit env evm input).2.homes := by
  rw [frameInit]
  split
  · exact .refl _
  · next init ctx _ =>
    have h := meterFrameInit_charged { evm with ctx := ctx } input init
    cases init with
    | item frame => exact h
    | result result => exact h

lemma inspectorStep_charged (interpreter : revm.Interpreter) (ctx : Context revm.Scratch)
    (inspector : Option ZkGasMeteringState) :
    Satisfies (fun _ => True) (InspectorCharged inspector)
      (inspectorStep revm interpreter ctx inspector) := by
  cases inspector with
  | none => exact ⟨trivial, id⟩
  | some metering =>
    rw [inspectorStep]
    cases hbegin : metering.beginStep ctx.journal.depth (revm.opcode interpreter)
        (revm.gasRemaining interpreter) with
    | error p => trivial
    | ok metering' =>
      have hmeter : metering'.meter = metering.meter := by
        rw [ZkGasMeteringState.beginStep] at hbegin
        split at hbegin <;> cases hbegin
        rfl
      refine ⟨?_, ?_⟩
      · change Charged metering.meter metering'.meter
        rw [hmeter]
        exact .refl _
      · rintro ht s ⟨⟩
        exact ZkGasMeteringState.beginStep_tidy hbegin (ht metering rfl)

lemma inspectorStepEnd_charged (interpreter : revm.Interpreter) (ctx : Context revm.Scratch)
    (inspector : Option ZkGasMeteringState) :
    Satisfies (fun _ => True) (fun out => InspectorCharged inspector out.2.2)
      (inspectorStepEnd revm interpreter ctx inspector) := by
  cases inspector with
  | none => exact ⟨trivial, id⟩
  | some metering =>
    refine Satisfies.bind (P := fun _ => True) ?_ fun finished _ => ?_
    · cases metering.finishStep ctx.journal.depth (revm.gasRemaining interpreter) <;> trivial
    · obtain ⟨opcode, stepGas⟩ := finished
      have hcharged := @chargeStep_charged revm metering.meter opcode stepGas
        (revm.action interpreter)
      dsimp only
      generalize chargeStep revm metering.meter opcode stepGas
        (revm.action interpreter) = answer at hcharged ⊢
      obtain ⟨answer, meter⟩ := answer
      cases answer with
      | ok u => exact .of_meter hcharged
      | error outcome => exact .of_meter hcharged

lemma inspectedStep_charged (env : Env) (interpreter : revm.Interpreter)
    (ctx : Context revm.Scratch) (inspector : Option ZkGasMeteringState) :
    Satisfies (fun _ => True) (fun out => InspectorCharged inspector out.2.2.2)
      (inspectedStep revm env interpreter ctx inspector) := by
  refine Satisfies.bind (inspectorStep_charged interpreter ctx inspector)
    fun inspector' hbegin => ?_
  refine Satisfies.bind (inspectorStepEnd_charged _ _ inspector') fun out hout => ?_
  exact hbegin.trans hout

lemma inspectorCallEnd_charged :
    HomesCharged evm.homes (inspectorCallEnd evm input result).homes := by
  rw [inspectorCallEnd.eq_def]
  split
  · next hinspector =>
    refine ⟨.refl _, ?_⟩
    simp only [TaikoEvm.homes, hinspector]
    exact .of_meter (chargePrecompileCall_charged _ _ _ _)
  · exact .refl _

lemma inspectFrameInit_charged :
    HomesCharged evm.homes (inspectFrameInit env evm input).2.homes := by
  have hinit := frameInit_charged env evm input
  rw [inspectFrameInit]
  generalize frameInit env evm input = opened at hinit
  split
  · exact hinit.trans (inspectorCallEnd_charged _ _ _)
  · exact hinit

/-! ### The frame operations without a charge -/

@[simp] lemma finishLoop_homes :
    (finishLoop env evm frame frames).2.homes = evm.homes := by
  simp only [finishLoop]
  split <;> rfl

@[simp] lemma continueLoop_homes (ends : Bool) :
    (continueLoop env evm frame frames ends).2.homes = evm.homes := by
  rw [continueLoop]
  split
  · exact finishLoop_homes env evm frame frames
  · rfl

@[simp] lemma frameReturnResult_homes :
    (frameReturnResult env evm result).2.homes = evm.homes := by
  simp only [frameReturnResult]
  split
  · rfl
  · split <;> rfl

/-! ### Runs charge -/

lemma execStep_charged :
    HomesCharged s.2.homes (execStep env s).2.homes := by
  obtain ⟨phase, evm⟩ := s
  cases phase with
  | init input => exact frameInit_charged env evm input
  | run =>
    rw [execStep]
    split
    · exact .refl _
    · simp only [continueLoop_homes]
      exact .refl _
    · next hmeter =>
      simp only [continueLoop_homes]
      refine ⟨?_, .refl _⟩
      simp only [TaikoEvm.homes, hmeter]
      exact meteredStep_charged _ _ _ _
  | result result =>
    rw [execStep, frameReturnResult_homes]
    exact .refl _
  | done outcome => exact .refl _

lemma inspectLoopEnd_charged (input : FrameInput revm.Input) (s : Phase revm × TaikoEvm revm) :
    HomesCharged s.2.homes (inspectLoopEnd input s).2.homes := by
  rw [inspectLoopEnd.eq_def]
  split
  · exact inspectorCallEnd_charged _ _ _
  · exact .refl _

lemma inspectExecStep_charged (env : Env) (s : Phase revm × TaikoEvm revm) :
    Satisfies (fun _ => True) (fun s' => HomesCharged s.2.homes s'.2.homes)
      (inspectExecStep env s) := by
  obtain ⟨phase, evm⟩ := s
  cases phase with
  | init input => exact inspectFrameInit_charged env evm input
  | run =>
    rw [inspectExecStep]
    split
    · exact .refl _
    · refine Satisfies.bind (inspectedStep_charged env _ evm.ctx evm.inspector) fun out hout => ?_
      refine HomesCharged.trans ?_ (inspectLoopEnd_charged _ _)
      rw [continueLoop_homes]
      exact ⟨.refl _, hout⟩
  | result result =>
    rw [inspectExecStep, satisfies_ok, frameReturnResult_homes]
    exact .refl _
  | done outcome => exact .refl _

lemma stepOn_charged (inspect : Bool) (env : Env) (s : Phase revm × TaikoEvm revm) :
    Satisfies (fun _ => True) (fun s' => HomesCharged s.2.homes s'.2.homes)
      (stepOn inspect env s) := by
  rw [stepOn]
  split
  · exact inspectExecStep_charged env s
  · exact execStep_charged env s

/-- However many steps a machine takes, the meters are only charged. -/
theorem exec_charged (inspect : Bool) (env : Env) (n : ℕ) (s : Phase revm × TaikoEvm revm) :
    Satisfies (fun _ => True) (fun s' => HomesCharged s.2.homes s'.2.homes)
      (exec inspect env n s) := by
  induction n generalizing s with
  | zero => exact .refl _
  | succ n ih =>
    rw [exec_succ]
    refine Satisfies.bind (stepOn_charged inspect env s) fun s' hs' => ?_
    exact (ih s').mono fun _ hend => hs'.trans hend

/-! ### Transactions charge -/

lemma handlerRun_charged (revm : Revm) (checks : OverflowChecks) (inspect : Bool) (env : Env)
    (extra : Option TaikoEvmExtraExecutionCtx) (homes : MeterHomes) :
    Satisfies (fun _ => True) (fun out => HomesCharged homes out.2)
      (handlerRun revm checks inspect env extra homes) := by
  rw [handlerRun]
  split
  · exact .refl _
  · next prepared _ =>
    refine Satisfies.bind (exec_charged inspect env revm.fuel _) fun s hs => ?_
    obtain ⟨phase, evm⟩ := s
    cases phase with
    | init input => exact hs
    | run => exact hs
    | result result => exact hs
    | done outcome =>
      cases outcome with
      | error e => exact hs
      | ok result =>
        refine Satisfies.bind (P := fun _ => True) ?_ fun _ _ => hs
        generalize settle revm checks env extra prepared _ _ = settled
        cases settled <;> trivial

namespace TaikoEvmWrapper

variable {evm evm' : TaikoEvmWrapper}

/-- The second EVM is the first with its meters charged. -/
structure Transacted (evm evm' : TaikoEvmWrapper) : Prop where
  same : evm' = { evm with zkGasMeter := evm'.zkGasMeter, inspector := evm'.inspector }
  charged : HomesCharged ⟨evm.zkGasMeter, evm.inspector⟩ ⟨evm'.zkGasMeter, evm'.inspector⟩

/-- The active meter is charged with its home. -/
lemma meter_charged
    (h : HomesCharged ⟨evm.zkGasMeter, evm.inspector⟩ ⟨evm'.zkGasMeter, evm'.inspector⟩) :
    OptCharged evm.meter evm'.meter := by
  have hp := h.production
  have hi := h.inspected.meter
  rw [TaikoEvmWrapper.meter, TaikoEvmWrapper.meter]
  cases hm : evm.zkGasMeter <;> cases hm' : evm'.zkGasMeter <;>
    simp_all [OptCharged, inspectorMeter]

lemma Transacted.meter (h : Transacted evm evm') :
    OptCharged evm.meter evm'.meter := meter_charged h.charged

/-- Under the executor's settings a transaction changes nothing of the EVM but its
meters, and those only by charges. -/
theorem transactRaw_spec (revm : Revm) (checks : OverflowChecks) (evm : TaikoEvmWrapper)
    (tx : TxEnv) (hreset : evm.resetZkGasPerTransact = false)
    (hderive : evm.deriveAnchorCtx = false) :
    Satisfies (fun _ => True) (fun out => Transacted evm out.2)
      (evm.transactRaw revm checks tx) := by
  have hsame : evm.maybeDeriveAnchorExecutionCtx tx = .ok evm := by
    simp [maybeDeriveAnchorExecutionCtx, hderive]
  have hkept : (if evm.resetZkGasPerTransact then evm.resetTransactionZkGas else evm) = evm := by
    simp [hreset]
  simp only [transactRaw, hkept, hsame]
  exact Satisfies.bind (handlerRun_charged revm checks _ _ _ _) fun out hout => ⟨rfl, hout⟩

/-- The second EVM is the first with its meters charged and its anchor context set. -/
structure SystemCalled (evm evm' : TaikoEvmWrapper) : Prop where
  same : evm' = { evm with
    extraExecutionCtx := evm'.extraExecutionCtx
    zkGasMeter := evm'.zkGasMeter
    inspector := evm'.inspector }
  charged : HomesCharged ⟨evm.zkGasMeter, evm.inspector⟩ ⟨evm'.zkGasMeter, evm'.inspector⟩

lemma anchorSystemCall_called (evm : TaikoEvmWrapper) (caller contract : Address) (data : Bytes) :
    SystemCalled evm (evm.anchorSystemCall caller contract data).2 := by
  rw [anchorSystemCall]
  split
  · exact ⟨rfl, .refl _⟩
  · dsimp only
    split <;> exact ⟨rfl, .refl _⟩

/-- A system call puts the block and the settings it overrides back. -/
theorem transactSystemCall_spec (revm : Revm) (checks : OverflowChecks) (evm : TaikoEvmWrapper)
    (caller contract : Address) (data : Bytes) (hreset : evm.resetZkGasPerTransact = false)
    (hderive : evm.deriveAnchorCtx = false) :
    Satisfies (fun _ => True) (fun out => SystemCalled evm out.2)
      (evm.transactSystemCall revm checks caller contract data) := by
  rw [transactSystemCall]
  split
  · exact anchorSystemCall_called evm caller contract data
  · refine Satisfies.bind (transactRaw_spec revm checks _ _ hreset hderive) fun out hout => ?_
    obtain ⟨outcome, evm'⟩ := out
    have hsame : evm' = _ := hout.same
    refine ⟨?_, hout.charged⟩
    rw [hsame]

end TaikoEvmWrapper

/-! ### Gas used -/

/-- The interpreter reports no more gas used than the transaction's gas limit. -/
def Revm.ReportsGasWithinLimit (revm : Revm) : Prop :=
  ∀ env ctx result,
    (revm.executionResult env ctx result).txGasUsed.toNat ≤ env.tx.gasLimit.toNat

lemma handlerRun_gas {revm : Revm} (hgas : revm.ReportsGasWithinLimit) {inspect : Bool} {env : Env}
    {extra : Option TaikoEvmExtraExecutionCtx} {homes homes' : MeterHomes}
    {outcome : ExecutionResult × EvmState}
    (h : handlerRun revm checks inspect env extra homes = .ok (.ok outcome, homes')) :
    outcome.1.txGasUsed.toNat ≤ env.tx.gasLimit.toNat := by
  obtain ⟨ran⟩ := handlerRun_eq_ok h
  rw [ran.outcome_eq]
  exact hgas env _ _

/-- A transaction that runs uses no more gas than its limit. -/
lemma TaikoEvmWrapper.transactRaw_gas {revm : Revm} (hgas : revm.ReportsGasWithinLimit)
    {evm evm' : TaikoEvmWrapper} {tx : TxEnv} {r : ResultAndState}
    (h : evm.transactRaw revm checks tx = .ok (.ok r, evm')) :
    r.result.txGasUsed.toNat ≤ tx.gasLimit.toNat := by
  rw [transactRaw] at h
  split at h
  · cases h
  · next evm₁ _ =>
    cases hrun : handlerRun revm checks evm₁.inspect ⟨evm₁.db, evm₁.block, evm₁.cfg, tx⟩
        evm₁.extraExecutionCtx ⟨evm₁.zkGasMeter, evm₁.inspector⟩ with
    | error p => rw [hrun] at h; cases h
    | ok out =>
      obtain ⟨outcome, homes⟩ := out
      rw [hrun] at h
      cases outcome with
      | error e => cases h
      | ok outcome =>
        cases h
        exact handlerRun_gas hgas hrun

end AlethiaReth
