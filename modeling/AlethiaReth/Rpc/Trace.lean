import AlethiaReth.Block.Invariant
import AlethiaReth.Block.Paths

/-!
The replay of a block for its traces, against the block's production execution: where the calls
before the first transaction succeed in production, the replay ends as production does
(`replayExecution_eq`).
-/

namespace AlethiaReth

open MachineInt Outcome TaikoEvmWrapper

namespace TaikoBlockExecutor

/-! ### The replay -/

/-- Switches the inspector. -/
def setInspectorEnabled (e : TaikoBlockExecutor) (enabled : Bool) : TaikoBlockExecutor :=
  { e with evm := e.evm.setInspectorEnabled enabled }

/-- Executes and commits the transactions of a replayed block in order. -/
def replayTransactions (revm : Revm) (checks : OverflowChecks) :
    TaikoBlockExecutor → List Recovered → Except Panic (Answered Unit)
  | e, [] => .ok (.ok (), e)
  | e, tx :: txs => do
    match ← e.executeTransactionWithoutCommit revm checks tx with
    | (.error error, e) => pure (.error error, e)
    | (.ok result, e) => do
      let (_, e) ← e.commitTransaction checks result
      replayTransactions revm checks e txs

/-- The execution inside `replay_output`: inspection is off before the first transaction and
after the last. -/
def replayExecution (revm : Revm) (checks : OverflowChecks) (e : TaikoBlockExecutor)
    (txs : List Recovered) : Except Panic (Except BlockExecutionError Finished) := do
  match ← (e.setInspectorEnabled false).applyPreExecutionChanges revm checks with
  | (.error error, _) => pure (.error error)
  | (.ok (), e) =>
    match ← (e.setInspectorEnabled true).replayTransactions revm checks txs with
    | (.error error, _) => pure (.error error)
    | (.ok (), e) => pure (e.setInspectorEnabled false).finish

lemma finish_setInspectorEnabled (e : TaikoBlockExecutor) (enabled : Bool) :
    (e.setInspectorEnabled enabled).finish = e.finish := by
  rw [setInspectorEnabled, TaikoEvmWrapper.setInspectorEnabled]
  split
  · rfl
  · have hzkGas : ({ e.evm with inspect := enabled } : TaikoEvmWrapper).blockZkGasUsed
        = e.evm.blockZkGasUsed := rfl
    rw [finish, finish, syncFinalizedBlockZkGas, syncFinalizedBlockZkGas, hzkGas]
    cases e.evm.blockZkGasUsed <;> rfl

variable {revm : Revm} {checks : OverflowChecks} {e e' : TaikoBlockExecutor}

/-- Production executes and commits the transactions of a block in the same two halves. -/
lemma executeTransactions_eq_replay (e : TaikoBlockExecutor) (txs : List Recovered) :
    e.executeTransactions revm checks txs = e.replayTransactions revm checks txs := by
  induction txs generalizing e with
  | nil => rfl
  | cons tx txs ih =>
    rw [executeTransactions, replayTransactions, executeTransaction,
      executeTransactionWithCommitCondition]
    cases e.executeTransactionWithoutCommit revm checks tx with
    | error p => rfl
    | ok out =>
      obtain ⟨answer, e₁⟩ := out
      cases answer with
      | error error => rfl
      | ok result =>
        dsimp only [bind, Except.bind]
        rw [if_pos rfl]
        cases e₁.commitTransaction checks result with
        | error p => rfl
        | ok out => exact ih out.2

/-- The transactions of a block are answered alike on the two paths. -/
lemma replayTransactions_paired (laws : revm.LoopLaws) (txs : List Recovered)
    (h : Alike id TaikoEvmWrapper.Paired e e') :
    Related (fun out out' => out'.1 = out.1 ∧ Alike id TaikoEvmWrapper.Paired out.2 out'.2)
      (e.replayTransactions revm checks txs) (e'.replayTransactions revm checks txs) := by
  induction txs generalizing e e' with
  | nil => exact ⟨rfl, h⟩
  | cons tx txs ih =>
    refine (executeTransactionWithoutCommit_paired laws h tx).bind ?_
    rintro ⟨answer, e₁⟩ ⟨answer', e₁'⟩ ⟨hanswer, hleft⟩
    cases hanswer
    cases answer with
    | error error => exact ⟨rfl, hleft⟩
    | ok result =>
      refine (commitTransaction_twin hleft result).bind ?_
      rintro ⟨gasUsed, e₂⟩ ⟨gasUsed', e₂'⟩ ⟨-, hcommitted⟩
      exact ih hcommitted.paired

/-- Where the calls before the first transaction succeed in production, the replay ends as
production does. -/
theorem replayExecution_eq (laws : revm.LoopLaws) (txs : List Recovered)
    (h : Alike id TaikoEvmWrapper.Unmetered e (e'.setInspectorEnabled false))
    {started : TaikoBlockExecutor}
    (hpre : e.applyPreExecutionChanges revm checks = .ok (.ok (), started)) :
    e'.replayExecution revm checks txs = e.executeBlock revm checks txs := by
  obtain ⟨started', hpre', hstarted⟩ :=
    applyPreExecutionChanges_alike (unmetered_callsAlike laws) h hpre
  have hpaired : Alike id TaikoEvmWrapper.Paired started (started'.setInspectorEnabled true) :=
    hstarted.with_evm hstarted.evm.setInspectorEnabled
  rw [executeBlock, replayExecution, hpre, hpre']
  refine (Related.eq ?_).symm
  change Related Eq (started.executeTransactions revm checks txs >>= _)
    ((started'.setInspectorEnabled true).replayTransactions revm checks txs >>= _)
  rw [executeTransactions_eq_replay]
  refine (replayTransactions_paired laws txs hpaired).bind ?_
  rintro ⟨answer, e₁⟩ ⟨answer', e₁'⟩ ⟨hanswer, hleft⟩
  cases hanswer
  cases answer with
  | error error => rfl
  | ok u =>
    change e₁.finish = (e₁'.setInspectorEnabled false).finish
    rw [finish_setInspectorEnabled, finish_paired hleft]

/-- The executors of a block on the two paths, before the first call. -/
lemma new_unmetered (db : Db) (cfg : CfgEnv) (block : BlockEnv) (ctx : TaikoBlockExecutionCtx)
    (spec : TaikoChainSpec) :
    Alike id TaikoEvmWrapper.Unmetered (new (.createEvm db cfg block) ctx spec)
      ((new (.createEvmWithInspector db cfg block) ctx spec).setInspectorEnabled false) := by
  refine ⟨rfl, ?_⟩
  have hmeter : ((scheduleFor cfg.spec).map ZkGasMeter.new).map ZkGasMeter.resetTransaction
      = inspectorMeter (((scheduleFor cfg.spec).map ZkGasMeteringState.new).map
        ZkGasMeteringState.resetTransaction) := by
    cases scheduleFor cfg.spec <;> rfl
  exact .intro db block cfg none hmeter

/-- The two paths meter every run alike, step by step and from every budget, and a replay
ends as production does where the calls before the first transaction succeed there. -/
theorem replay_meters_as_production (laws : revm.LoopLaws) :
    (∀ (env : Env) (input : FrameInput revm.Input) (ctx : Context revm.Scratch)
        (metering : Option ZkGasMeteringState) (n : ℕ),
      let s : Phase revm × TaikoEvm revm := (.init input, ⟨ctx, [], inspectorMeter metering, none⟩)
      let t : Phase revm × TaikoEvm revm := (.init input, ⟨ctx, [], none, metering⟩)
      ∃ s' t', exec false env n s = .ok s' ∧ exec true env n t = .ok t' ∧ Twin s' t' ∧
        stepCharge env t' = stepCharge env s' ∧
        ∀ ctx', Refused env s' ctx' →
          ∃ e, (ctx'.error = .ok () → e = .custom zkGasLimitErr) ∧
            ∀ k, ∃ s'' t'', exec false env (n + 1 + k) s = .ok s'' ∧
              exec true env (n + 1 + k) t = .ok t'' ∧ Stopped e s'' ∧ Stopped e t'' ∧
              ∀ input, s''.1 ≠ .init input ∧ t''.1 ≠ .init input) ∧
    ∀ (checks : OverflowChecks) (db : Db) (cfg : CfgEnv) (block : BlockEnv)
        (ctx : TaikoBlockExecutionCtx) (spec : TaikoChainSpec) (txs : List Recovered),
      let production := new (.createEvm db cfg block) ctx spec
      let replay := new (.createEvmWithInspector db cfg block) ctx spec
      (∃ started, production.applyPreExecutionChanges revm checks = .ok (.ok (), started)) →
        replay.replayExecution revm checks txs = production.executeBlock revm checks txs := by
  refine ⟨?_, ?_⟩
  · intro env input ctx metering n
    exact lockStep laws env (.intro (.init input) ctx [] metering) (.inr (.inl rfl)) n
  · rintro checks db cfg block ctx spec txs production replay ⟨started, hpre⟩
    exact replayExecution_eq laws txs (new_unmetered db cfg block ctx spec) hpre

/-! ### A contract that loops -/

/-- Where the interpreter of the contract stands: its gas limit, the gas left, the next of its
three opcodes, and the action left. -/
structure LoopCode where
  limit : U64
  gas : U64
  pc : Fin 3
  action : Option (InterpreterAction Unit Bool)

/-- The code `JUMPDEST PUSH0 JUMP`, which jumps to its own start. -/
def LoopCode.opcode : Fin 3 → U8 := ![0x5b, 0x5f, 0x56]

/-- The gas of each opcode. -/
def LoopCode.cost : Fin 3 → U64 := ![1, 2, 8]

/-- An interpreter for accounts without code but for one contract, which loops until it is out
of gas. Running out of gas spends what is left. -/
def loopRevm (contract : Address) : Revm where
  Scratch := Unit
  Interpreter := LoopCode
  Input := Unit
  Output := Bool
  InstructionResult := Unit
  InitialGas := Unit
  scratch := ()
  opcode code := LoopCode.opcode code.pc
  gasRemaining code := code.gas
  action code := code.action
  step _ code ctx :=
    if code.gas < LoopCode.cost code.pc then (.error (), code, ctx)
    else (.ok (), ⟨code.limit, code.gas - LoopCode.cost code.pc, code.pc + 1, none⟩, ctx)
  halt code _ := { code with gas := 0, action := some (.return (wholeGas code.limit) false) }
  haltFatal code :=
    { code with action := some (.return ⟨code.gas, code.limit - code.gas, 0⟩ false) }
  takeNextAction code :=
    (code.action.getD (.return (wholeGas 0) true), { code with action := none })
  initWithContext env ctx input :=
    match input with
    | .call gasLimit bytecodeAddress _ =>
      if bytecodeAddress = contract ∧ ctx.journal.depth < 1024 then
        (.ok (.item ⟨⟨gasLimit, gasLimit, 0, none⟩, input, false⟩),
          { ctx with journal := { ctx.journal with depth := ctx.journal.depth + 1 } })
      else
        (.ok (.result (.call (wholeGas env.tx.gasLimit) false true)), ctx)
    | _ => (.ok (.result (.call (wholeGas env.tx.gasLimit) false true)), ctx)
  processNextAction _ frame ctx action :=
    match action with
    | .newFrame input => (.ok (.item input), frame, ctx)
    | .return gas success =>
      (.ok (.result (.call gas false success)), frame,
        { ctx with journal := { ctx.journal with depth := ctx.journal.depth - 1 } })
  returnResult _ frame ctx _ := (ctx.error, frame, ctx)
  validate := checkFeeCap
  validateAccountNonceAndCode := checkNonce
  loadAccounts _ ctx := .ok ctx
  applyEip7702AuthList _ ctx := .ok (0, ctx)
  firstFrameInput env ctx _ :=
    .ok (.call env.tx.gasLimit (env.tx.kind.toAddress.getD 0) (), ctx)
  settleGas _ _ _ result := result
  executionResult env _ result :=
    match result with
    | .call _ _ success => ⟨success, env.tx.gasLimit, []⟩
    | .create _ success => ⟨success, env.tx.gasLimit, []⟩
  fuel := 5000000

lemma loopRevm_loopLaws (contract : Address) : (loopRevm contract).LoopLaws where
  step_ok env code ctx code' ctx' h := by
    dsimp only [loopRevm] at h
    split at h
    · cases h
    · cases h
      rfl
  step_depth env code ctx := by
    dsimp only [loopRevm]
    split <;> rfl
  halt_action _ _ := rfl
  haltFatal_action _ := ⟨_, _, rfl⟩
  takeNextAction code action h := by
    change code.action.getD _ = action
    change code.action = some action at h
    rw [h]
    rfl
  process_return _ _ _ _ _ := ⟨_, _, _, rfl, rfl⟩
  process_precompile _ _ _ action _ _ _ _ h := by
    cases action <;> cases h
  returnResult_error _ _ _ _ _ h := h
  -- only a call of the contract opens a frame, below the depth limit
  init_item_depth env ctx input frame ctx' h := by
    cases input with
    | call gasLimit bytecodeAddress input =>
      dsimp only [loopRevm] at h
      split at h
      · next hcode =>
        cases h
        change ctx.journal.depth + 1 < 1026
        omega
      · cases h
    | create input => cases h
    | empty => cases h
  init_result_depth env ctx input result ctx' h := by
    cases input with
    | call gasLimit bytecodeAddress input =>
      dsimp only [loopRevm] at h
      split at h
      · cases h
      · cases h
        exact le_rfl
    | create input => cases h; exact le_rfl
    | empty => cases h; exact le_rfl
  process_depth _ _ ctx action := by
    rcases action with input | ⟨gas, output⟩
    · exact le_rfl
    · exact Nat.sub_le _ _
  returnResult_depth _ _ _ _ := le_rfl

/-- A fresh executor for the replay of a block of transfers. -/
def tracedExecutor : TaikoBlockExecutor :=
  new (.createEvmWithInspector transferDb transferCfg transferBlock)
    ⟨0, some 0, [], true, none, 0⟩ transferSpec

/-- What a block publishes: its receipts, its gas and its finalized zk gas. -/
def published (answer : Except Panic (Except BlockExecutionError Finished)) :
    Except Panic (Except BlockExecutionError (BlockExecutionResult × U64)) :=
  answer.map (Except.map fun fin => (fin.result, fin.finalizedBlockZkGas))

/-- The receipts of an anchor and a transfer. -/
def transferResult : BlockExecutionResult :=
  ⟨[⟨.eip1559, true, 1000000, []⟩, ⟨.legacy, true, 1021000, []⟩], 1021000⟩

/-- A block of two transactions that the replay and production both commit. -/
theorem replay_meters_transfers :
    (loopRevm 0xbad).LoopLaws ∧
    tracedExecutor.replayExecution (loopRevm 0xbad) .on [transferAnchor, transferTx 0xa1 0]
      = transferExecutor.executeBlock (loopRevm 0xbad) .on
        [transferAnchor, transferTx 0xa1 0] ∧
    published (transferExecutor.executeBlock (loopRevm 0xbad) .on
        [transferAnchor, transferTx 0xa1 0])
      = .ok (.ok (transferResult, 486000)) := by
  have hpre : ∃ started, transferExecutor.applyPreExecutionChanges (loopRevm 0xbad) .on
      = .ok (.ok (), started) := ⟨_, rfl⟩
  exact ⟨loopRevm_loopLaws 0xbad,
    (replay_meters_as_production (loopRevm_loopLaws 0xbad)).2 .on transferDb transferCfg
      transferBlock _ transferSpec _ hpre, by decide +kernel⟩

section Loop

variable {contract : Address} {env : Env} {ctx : Context Unit} {limit : U64}
  {inspector : Option ZkGasMeteringState} {meter : Option ZkGasMeter} {pc : Fin 3} {gas n : ℕ}

/-- The EVM while the contract loops. -/
def looping (contract : Address) (ctx : Context Unit) (limit : U64)
    (inspector : Option ZkGasMeteringState) (gas : ℕ) (pc : Fin 3) (meter : Option ZkGasMeter) :
    Phase (loopRevm contract) × TaikoEvm (loopRevm contract) :=
  (.run, ⟨ctx, [⟨⟨limit, BitVec.ofNat 64 gas, pc, none⟩, .call limit contract (), false⟩], meter,
    inspector⟩)

/-- The zk gas of each opcode. -/
def LoopCode.zkCost : Fin 3 → ℕ := ![20, 26, 32]

/-- A meter of Unzen, if there is one, with so much left. -/
def Left (n : ℕ) (meter : Option ZkGasMeter) : Prop :=
  ∀ m ∈ meter, m.schedule = unzenZkGasSchedule ∧ m.Balanced ∧ m.remainingZkGas.toNat = n

/-- What an opcode of the contract costs in zk gas. -/
lemma zkCost_eq (pc : Fin 3) :
    (LoopCode.cost pc).toNat * (unzenZkGasSchedule.opcodeMultipliers (LoopCode.opcode pc)).toNat
      = LoopCode.zkCost pc := by
  revert pc
  decide

/-- It is charged where as much is left. -/
lemma chargeStep_loop {m : ZkGasMeter} (hleft : Left (n + LoopCode.zkCost pc) (some m)) :
    ∃ m', Left n (some m') ∧
      chargeStep (loopRevm contract) m (LoopCode.opcode pc) (LoopCode.cost pc) none
        = (.ok (), m') := by
  obtain ⟨hschedule, hbalanced, hremaining⟩ := hleft m rfl
  have hcost := zkCost_eq pc
  rw [← hschedule] at hcost
  obtain ⟨charge, hcharge, hscaled⟩ := ZkGasMeter.chargeScaled_of_le (m := m)
    (hcost.trans_le (by omega : LoopCode.zkCost pc ≤ m.remainingZkGas.toNat))
  have hle : charge.toNat ≤ m.remainingZkGas.toNat := by omega
  refine ⟨{ m with
    txZkGasUsed := m.txZkGasUsed + charge
    remainingZkGas := m.remainingZkGas - charge }, ?_, ?_⟩
  · rintro m' ⟨⟩
    have hlimit := m.schedule.blockLimit.isLt
    have hafter := BitVec.toNat_sub_of_le (BitVec.le_def.mpr hle)
    rw [ZkGasMeter.Balanced] at hbalanced
    refine ⟨hschedule, ?_, by dsimp only; omega⟩
    rw [ZkGasMeter.Balanced]
    dsimp only
    rw [BitVec.toNat_add, hafter]
    omega
  · rw [chargeStep, dif_neg (by simp), ZkGasMeter.chargeOpcode, hscaled,
      ZkGasMeter.chargeAmount_of_le hbalanced hle]

/-- It is refused where less is left. -/
lemma chargeStep_loop_refused {m : ZkGasMeter} (hleft : Left n (some m))
    (hlt : n < LoopCode.zkCost pc) :
    chargeStep (loopRevm contract) m (LoopCode.opcode pc) (LoopCode.cost pc) none
      = (.error .limitExceeded, m) := by
  obtain ⟨hschedule, -, hremaining⟩ := hleft m rfl
  have hcost := zkCost_eq pc
  rw [← hschedule] at hcost
  rw [chargeStep, dif_neg (by simp), ZkGasMeter.chargeOpcode,
    ZkGasMeter.chargeScaled_of_lt (by omega)]

/-- An opcode of the contract, where there is gas for it. -/
lemma step_loop (hgas : gas + (LoopCode.cost pc).toNat < 2 ^ 64) :
    (loopRevm contract).step env
        ⟨limit, BitVec.ofNat 64 (gas + (LoopCode.cost pc).toNat), pc, none⟩ ctx
      = (.ok (), ⟨limit, BitVec.ofNat 64 gas, pc + 1, none⟩, ctx) ∧
    saturatingSub (BitVec.ofNat 64 (gas + (LoopCode.cost pc).toNat)) (BitVec.ofNat 64 gas)
      = LoopCode.cost pc := by
  have hbefore : (BitVec.ofNat 64 (gas + (LoopCode.cost pc).toNat)).toNat
      = gas + (LoopCode.cost pc).toNat := Nat.mod_eq_of_lt hgas
  have hafter : (BitVec.ofNat 64 gas).toNat = gas := Nat.mod_eq_of_lt (by omega)
  constructor
  · have hnot : ¬ BitVec.ofNat 64 (gas + (LoopCode.cost pc).toNat) < LoopCode.cost pc := by
      rw [BitVec.lt_def, hbefore]
      omega
    dsimp only [loopRevm]
    rw [if_neg hnot, BitVec.ofNat_add, BitVec.ofNat_toNat, BitVec.setWidth_eq,
      BitVec.add_sub_cancel]
  · refine BitVec.eq_of_toNat_eq ?_
    rw [toNat_saturatingSub, hbefore, hafter]
    omega

lemma meteredStep_loop (hgas : gas + (LoopCode.cost pc).toNat < 2 ^ 64) (m : ZkGasMeter) :
    meteredStep (loopRevm contract) env
        ⟨limit, BitVec.ofNat 64 (gas + (LoopCode.cost pc).toNat), pc, none⟩ ctx m
      = match chargeStep (loopRevm contract) m (LoopCode.opcode pc) (LoopCode.cost pc) none with
        | (.error .limitExceeded, m') =>
          (true, (loopRevm contract).haltFatal ⟨limit, BitVec.ofNat 64 gas, pc + 1, none⟩,
            ctx.setCustomError, m')
        | (.ok (), m') => (false, ⟨limit, BitVec.ofNat 64 gas, pc + 1, none⟩, ctx, m') := by
  obtain ⟨hstep, hspent⟩ := @step_loop contract env ctx limit pc gas hgas
  simp only [meteredStep, hstep, materializeHalt]
  rw [← congrArg (chargeStep (loopRevm contract) m (LoopCode.opcode pc) · none) hspent]
  rfl

/-- A step of the contract, where there is gas and zk gas for it. -/
lemma execStep_loop (hgas : gas + (LoopCode.cost pc).toNat < 2 ^ 64)
    (hleft : Left (n + LoopCode.zkCost pc) meter) :
    ∃ meter', Left n meter' ∧ meter'.isSome = meter.isSome ∧
      execStep env (looping contract ctx limit inspector (gas + (LoopCode.cost pc).toNat) pc meter)
        = looping contract ctx limit inspector gas (pc + 1) meter' := by
  cases meter with
  | none =>
    refine ⟨none, by simp [Left], rfl, ?_⟩
    simp only [looping, execStep, plainStep, (step_loop hgas).1]
    rfl
  | some m =>
    obtain ⟨m', hleft', hcharge⟩ := @chargeStep_loop contract pc n m hleft
    refine ⟨some m', hleft', rfl, ?_⟩
    simp only [looping, execStep, meteredStep_loop hgas, hcharge]
    rfl

/-- Rounds of the contract. -/
lemma run_loop (k : ℕ) (hgas : gas + 11 * k < 2 ^ 64) (hleft : Left (n + 78 * k) meter) :
    ∃ meter', Left n meter' ∧ meter'.isSome = meter.isSome ∧
      run env (3 * k) (looping contract ctx limit inspector (gas + 11 * k) 0 meter)
        = looping contract ctx limit inspector gas 0 meter' := by
  induction k generalizing meter with
  | zero => exact ⟨meter, hleft, rfl, rfl⟩
  | succ k ih =>
    obtain ⟨m₁, hleft₁, hsome₁, hstep₁⟩ := @execStep_loop contract env ctx limit inspector meter 0
      (gas + 11 * k + 10) (n + 78 * k + 58) (by change _ + 1 < _; omega)
      (by change Left (_ + 20) _; convert hleft using 1; omega)
    obtain ⟨m₂, hleft₂, hsome₂, hstep₂⟩ := @execStep_loop contract env ctx limit inspector m₁ 1
      (gas + 11 * k + 8) (n + 78 * k + 32) (by change _ + 2 < _; omega) hleft₁
    obtain ⟨m₃, hleft₃, hsome₃, hstep₃⟩ := @execStep_loop contract env ctx limit inspector m₂ 2
      (gas + 11 * k) (n + 78 * k) (by change _ + 8 < _; omega) hleft₂
    obtain ⟨m', hleft', hsome', hrun⟩ := ih (by omega) hleft₃
    refine ⟨m', hleft', by rw [hsome', hsome₃, hsome₂, hsome₁], ?_⟩
    have hround : run env 3 (looping contract ctx limit inspector (gas + 11 * (k + 1)) 0 meter)
        = looping contract ctx limit inspector (gas + 11 * k) 0 m₃ := by
      change execStep env (execStep env (execStep env _)) = _
      exact (congrArg (execStep env) ((congrArg (execStep env) hstep₁).trans hstep₂)).trans hstep₃
    rw [Nat.mul_succ, Nat.add_comm, run_add, hround, hrun]

/-- An execution that is done stays so. -/
lemma run_done {revm : Revm} {outcome : Except ContextError (FrameResult revm.Output)}
    {evm : TaikoEvm revm} (k : ℕ) : run env k (.done outcome, evm) = (.done outcome, evm) := by
  induction k with
  | zero => rfl
  | succ k ih => exact ih

/-- The EVM before a call of the contract. -/
def calling (contract : Address) (ctx : Context Unit) (meter : Option ZkGasMeter)
    (inspector : Option ZkGasMeteringState) : TaikoEvm (loopRevm contract) :=
  ⟨ctx, [], meter, inspector⟩

/-- A context one frame deeper. -/
def deeper (ctx : Context Unit) : Context Unit :=
  { ctx with journal := { ctx.journal with depth := ctx.journal.depth + 1 } }

lemma execStep_calling (hdepth : ctx.journal.depth < 1024) :
    execStep env (.init (.call (BitVec.ofNat 64 gas) contract ()),
        calling contract ctx meter inspector)
      = looping contract (deeper ctx) (BitVec.ofNat 64 gas) inspector gas 0 meter := by
  have hinit : (loopRevm contract).initWithContext env ctx (.call (BitVec.ofNat 64 gas) contract ())
      = (.ok (.item ⟨⟨BitVec.ofNat 64 gas, BitVec.ofNat 64 gas, 0, none⟩,
          .call (BitVec.ofNat 64 gas) contract (), false⟩), deeper ctx) := by
    dsimp only [loopRevm]
    rw [if_pos ⟨rfl, hdepth⟩]
    rfl
  simp only [execStep, frameInit, calling, hinit]
  rfl

/-- Without a meter the contract runs out of gas in the last of its rounds. -/
lemma exec_loop_outOfGas (hdepth : ctx.journal.depth < 1024) :
    exec false env (loopRevm contract).fuel (.init (.call maxSystemCallGasLimit contract ()),
        calling contract ctx none inspector)
      = .ok (.done (.ok (.call (wholeGas maxSystemCallGasLimit) false false)),
        calling contract ctx none inspector) := by
  obtain ⟨m, -, hnone, hrun⟩ := @run_loop contract env (deeper ctx) maxSystemCallGasLimit inspector
    none 5 0 1525201 (by norm_num) (by simp [Left])
  obtain ⟨m₁, -, hnone₁, hstep₁⟩ := @execStep_loop contract env (deeper ctx) maxSystemCallGasLimit
    inspector m 0 4 0 (by decide) (by simp_all [Left])
  obtain ⟨m₂, -, hnone₂, hstep₂⟩ := @execStep_loop contract env (deeper ctx) maxSystemCallGasLimit
    inspector m₁ 1 2 0 (by decide) (by simp_all [Left])
  obtain rfl : m₂ = none := by simp_all
  have hinit : run env 1 (.init (.call maxSystemCallGasLimit contract ()),
        calling contract ctx none inspector)
      = looping contract (deeper ctx) maxSystemCallGasLimit inspector (5 + 11 * 1525201) 0 none :=
    execStep_calling hdepth
  have hlast : run env 4 (looping contract (deeper ctx) maxSystemCallGasLimit inspector 5 0 m)
      = (.done (.ok (.call (wholeGas maxSystemCallGasLimit) false false)),
        calling contract ctx none inspector) :=
    congrArg (fun s => execStep env (execStep env s))
      ((congrArg (execStep env) hstep₁).trans hstep₂)
  have hfuel : (loopRevm contract).fuel = 1 + 3 * 1525201 + 4 + 424392 := rfl
  rw [exec_eq_run, hfuel, run_add, run_add, run_add, hinit, hrun, hlast]
  exact congrArg Except.ok (run_done 424392)

/-- With the meter of a block it exhausts the zk gas before. -/
lemma exec_loop_overflows {m : ZkGasMeter} (hdepth : ctx.journal.depth < 1024)
    (hleft : Left 100000000 (some m)) :
    ∃ m', exec false env (loopRevm contract).fuel
        (.init (.call maxSystemCallGasLimit contract ()), calling contract ctx (some m) inspector)
      = .ok (.done (.ok (.call ⟨2674652, 14102564, 0⟩ false false)),
        calling contract ctx.setCustomError (some m') inspector) := by
  obtain ⟨m₁, hleft₁, hsome₁, hrun⟩ := @run_loop contract env (deeper ctx) maxSystemCallGasLimit
    inspector (some m) 2674655 22 1282051 (by norm_num) hleft
  obtain ⟨m₂, hleft₂, hsome₂, hstep₁⟩ := @execStep_loop contract env (deeper ctx)
    maxSystemCallGasLimit inspector m₁ 0 2674654 2 (by decide) hleft₁
  obtain ⟨m₂, rfl⟩ := Option.isSome_iff_exists.mp (hsome₂.trans hsome₁)
  have hcharge := @chargeStep_loop_refused contract 1 2 m₂ hleft₂ (by decide)
  have hhalts : execStep env (execStep env (looping contract (deeper ctx) maxSystemCallGasLimit
        inspector (2674652 + (LoopCode.cost 1).toNat) 1 (some m₂)))
      = (.done (.ok (.call ⟨2674652, 14102564, 0⟩ false false)),
        calling contract ctx.setCustomError (some m₂) inspector) := by
    have hgas : 2674652 + (LoopCode.cost 1).toNat < 2 ^ 64 := by decide
    simp only [looping, execStep, meteredStep_loop hgas, hcharge]
    obtain ⟨journal, error⟩ := ctx
    cases error <;> rfl
  have hinit : run env 1 (.init (.call maxSystemCallGasLimit contract ()),
        calling contract ctx (some m) inspector)
      = looping contract (deeper ctx) maxSystemCallGasLimit inspector (2674655 + 11 * 1282051) 0
        (some m) :=
    execStep_calling hdepth
  have hlast : run env 3
      (looping contract (deeper ctx) maxSystemCallGasLimit inspector 2674655 0 m₁)
      = _ := (congrArg (fun s => execStep env (execStep env s)) hstep₁).trans hhalts
  have hfuel : (loopRevm contract).fuel = 1 + 3 * 1282051 + 3 + 1153843 := rfl
  refine ⟨m₂, ?_⟩
  rw [exec_eq_run, hfuel, run_add, run_add, run_add, hinit, hrun, hlast]
  exact congrArg Except.ok (run_done 1153843)

end Loop

/-- What a system call answers, from the run of its transaction. -/
lemma transactSystemCall_of_run {evm : TaikoEvmWrapper} {caller contract : Address} {data : Bytes}
    {homes : MeterHomes} {outcome : Except EVMError (ExecutionResult × EvmState)}
    (hcaller : caller ≠ goldenTouch) (hreset : evm.resetZkGasPerTransact = false)
    (hderive : evm.deriveAnchorCtx = false)
    (hrun : handlerRun revm checks evm.inspect
      ⟨evm.db, { evm.block with gasLimit := maxSystemCallGasLimit, basefee := 0 },
        { evm.cfg with disableNonceCheck := true }, systemCallTx caller contract data⟩
      evm.extraExecutionCtx ⟨evm.zkGasMeter, evm.inspector⟩ = .ok (outcome, homes)) :
    evm.transactSystemCall revm checks caller contract data
      = .ok (outcome.map fun (result, state) =>
          ⟨result, fun address => if address = contract then state address else none⟩,
        { evm with zkGasMeter := homes.zkGasMeter, inspector := homes.inspector }) := by
  rw [transactSystemCall, if_neg fun h => hcaller h.1]
  simp only [transactRaw, hreset, maybeDeriveAnchorExecutionCtx, hderive, Bool.not_false, true_or,
    if_true, Bool.false_eq_true, if_false]
  rw [hrun]
  cases outcome <;> rfl

/-- The environment of the system call for the parent hash. -/
def parentHashEnv : Env where
  db := transferDb
  block := { transferBlock with gasLimit := maxSystemCallGasLimit, basefee := 0 }
  cfg := { transferCfg with disableNonceCheck := true }
  tx := systemCallTx systemAddress historyStorageAddress (hashBytes 0)

/-- The context in which it is called. -/
def parentHashCtx : Context Unit :=
  match prepare (loopRevm historyStorageAddress) parentHashEnv none with
  | .ok prepared => prepared.ctx
  | .error _ => ⟨.new (), .ok ()⟩

lemma prepare_parentHash : prepare (loopRevm historyStorageAddress) parentHashEnv none
    = .ok ⟨(), 0, .call maxSystemCallGasLimit historyStorageAddress (), parentHashCtx⟩ := rfl

/-- Production meters the call, which exhausts the zk gas of the block. -/
lemma parentHash_overflows : ∃ evm, transferExecutor.evm.transactSystemCall
    (loopRevm historyStorageAddress) .on systemAddress historyStorageAddress (hashBytes 0)
      = .ok (.error (.custom zkGasLimitErr), evm) := by
  have hleft : Left 100000000 (some (ZkGasMeter.new unzenZkGasSchedule)) := by
    rintro m ⟨⟩
    exact ⟨rfl, ZkGasMeter.balanced_new _, rfl⟩
  obtain ⟨m', hexec⟩ := @exec_loop_overflows historyStorageAddress parentHashEnv parentHashCtx none
    _ (by decide) hleft
  have hrun := @handlerRun_of_exec (loopRevm historyStorageAddress) .on false parentHashEnv none
    ⟨some (ZkGasMeter.new unzenZkGasSchedule), none⟩ _ _ prepare_parentHash hexec
  exact ⟨_, @transactSystemCall_of_run _ _ transferExecutor.evm _ _ _ ⟨some m', none⟩
    (.error (.custom zkGasLimitErr)) (by decide) rfl rfl hrun⟩

/-- The state that the call leaves where it runs out of gas. -/
def parentHashState : EvmState :=
  match postExecution .on parentHashEnv parentHashCtx.journal (wholeGas maxSystemCallGasLimit)
      none with
  | .ok (.ok journal) => journal.state
  | _ => fun _ => none

/-- The replay does not meter the call, which runs out of gas. -/
lemma parentHash_replayed :
    (tracedExecutor.setInspectorEnabled false).evm.transactSystemCall
        (loopRevm historyStorageAddress) .on systemAddress historyStorageAddress (hashBytes 0)
      = .ok (.ok ⟨⟨false, maxSystemCallGasLimit, []⟩, fun address =>
          if address = historyStorageAddress then parentHashState address else none⟩,
        (tracedExecutor.setInspectorEnabled false).evm) := by
  have hexec := @exec_loop_outOfGas historyStorageAddress parentHashEnv parentHashCtx
    (some (ZkGasMeteringState.new unzenZkGasSchedule)) (by decide)
  have hrun := @handlerRun_of_exec (loopRevm historyStorageAddress) .on false parentHashEnv none
    ⟨none, some (ZkGasMeteringState.new unzenZkGasSchedule)⟩ _ _ prepare_parentHash hexec
  exact @transactSystemCall_of_run _ _ (tracedExecutor.setInspectorEnabled false).evm _ _ _ _
    (.ok (⟨false, maxSystemCallGasLimit, []⟩, parentHashState)) (by decide) rfl rfl hrun

/-- A contract of the parent hashes that loops: production rejects the block on its zk gas, and
the replay commits its transactions. -/
theorem replay_commits_rejected :
    (loopRevm historyStorageAddress).LoopLaws ∧
    transferExecutor.evm.cfg.spec = .unzen ∧
    published (transferExecutor.executeBlock (loopRevm historyStorageAddress) .on
        [transferAnchor, transferTx 0xa1 0])
      = .ok (.error (.validation (.blockHashContractCall zkGasLimitErr))) ∧
    published (tracedExecutor.replayExecution (loopRevm historyStorageAddress) .on
        [transferAnchor, transferTx 0xa1 0])
      = .ok (.ok (transferResult, 486000)) := by
  refine ⟨loopRevm_loopLaws historyStorageAddress, rfl, ?_, ?_⟩
  · obtain ⟨evm, hcall⟩ := parentHash_overflows
    rw [executeBlock, applyPreExecutionChanges, applyBlockhashesContractCall, if_neg (by decide),
      applySystemCall, show transferExecutor.ctx.parentHash = 0 from rfl, hcall]
    rfl
  · rw [replayExecution, applyPreExecutionChanges, applyBlockhashesContractCall,
      if_neg (by decide), applySystemCall,
      show (tracedExecutor.setInspectorEnabled false).ctx.parentHash = 0 from rfl,
      parentHash_replayed]
    decide +kernel

end TaikoBlockExecutor

end AlethiaReth
