import AlethiaReth.Evm.Metering

/-!
The production path and the inspector path meter a transaction alike: the same zk gas
after every opcode and every precompile, and the same end when a charge is refused.

* `exec_twin`: states that differ only in where the meter lives stay so.
* `Refused.stops`: once a charge is refused, no frame opens.
* `run_unmetered`: a run without a refused charge is a run of the plain loop.
* `handlerRun_twin`, `handlerRun_unmetered`: the same of whole transactions.
-/

namespace AlethiaReth

open MachineInt Outcome

variable {revm : Revm} (env : Env) (ctx : Context revm.Scratch)
  (inspector : Option ZkGasMeteringState) {s t : Phase revm × TaikoEvm revm}
  (frames : List (Frame revm.Input revm.Interpreter)) (evm : TaikoEvm revm)
  {interpreter : revm.Interpreter} {e : ContextError} {interpreter' : revm.Interpreter}
  {ctx' : Context revm.Scratch} {stepResult : Except revm.InstructionResult Unit}
  {meter' : ZkGasMeter} (checks : OverflowChecks) (input : FrameInput revm.Input)
  {homes homes' : MeterHomes}

/-! ### The interpreter -/

/-- How the interpreter ends the loop of a frame, keeps the error slot, and bounds the depth
of its frames. -/
structure Revm.LoopLaws (revm : Revm) : Prop where
  /-- An opcode that lets the loop go on leaves no action. -/
  step_ok : ∀ env interpreter ctx interpreter' ctx',
    revm.step env interpreter ctx = (.ok (), interpreter', ctx') →
      revm.action interpreter' = none
  /-- An opcode runs at one depth. -/
  step_depth : ∀ env interpreter ctx,
    (revm.step env interpreter ctx).2.2.journal.depth = ctx.journal.depth
  /-- A halt leaves an action, a fatal one that of a return. -/
  halt_action : ∀ interpreter result, (revm.action (revm.halt interpreter result)).isSome
  haltFatal_action : ∀ interpreter, ∃ gas output,
    revm.action (revm.haltFatal interpreter) = some (.return gas output)
  takeNextAction : ∀ interpreter action, revm.action interpreter = some action →
    (revm.takeNextAction interpreter).1 = action
  /-- A return ends its frame with a result, and leaves the error slot alone. -/
  process_return : ∀ env frame ctx gas output, ∃ result frame' ctx',
    revm.processNextAction env frame ctx (.return gas output)
      = (.ok (.result result), frame', ctx') ∧ ctx'.error = ctx.error
  /-- A frame that ran is no precompile. -/
  process_precompile : ∀ env frame ctx action frame' ctx' gas output,
    revm.processNextAction env frame ctx action
      ≠ (.ok (.result (.call gas true output)), frame', ctx')
  /-- A result is not handed over an error in the slot. -/
  returnResult_error : ∀ env frame ctx result e, ctx.error = .error e →
    (revm.returnResult env frame ctx result).1 = .error e
  /-- Only opening a frame goes deeper, and never beyond the limit. -/
  init_item_depth : ∀ env ctx input frame ctx',
    revm.initWithContext env ctx input = (.ok (.item frame), ctx') →
      ctx'.journal.depth < maxCallDepth
  init_result_depth : ∀ env ctx input result ctx',
    revm.initWithContext env ctx input = (.ok (.result result), ctx') →
      ctx'.journal.depth ≤ ctx.journal.depth
  process_depth : ∀ env frame ctx action,
    (revm.processNextAction env frame ctx action).2.2.journal.depth ≤ ctx.journal.depth
  returnResult_depth : ∀ env frame ctx result,
    (revm.returnResult env frame ctx result).2.2.journal.depth ≤ ctx.journal.depth

namespace Revm.LoopLaws

/-- After an opcode there is an action exactly where the opcode ends the loop. -/
lemma action_materializeHalt (laws : revm.LoopLaws) {env : Env}
    {interpreter interpreter' : revm.Interpreter} {ctx ctx' : Context revm.Scratch}
    {stepResult : Except revm.InstructionResult Unit}
    (h : revm.step env interpreter ctx = (stepResult, interpreter', ctx')) :
    (revm.action (materializeHalt revm stepResult interpreter')).isSome = !stepResult.isOk := by
  cases stepResult with
  | ok u =>
    have haction := laws.step_ok _ _ _ _ _ h
    rw [materializeHalt, haction]
    rfl
  | error result =>
    rw [materializeHalt]
    split
    · rw [laws.halt_action]
      rfl
    · next hsome =>
      cases haction : revm.action interpreter' with
      | none => simp [haction] at hsome
      | some action => rfl

lemma action_haltForZkGasLimit (laws : revm.LoopLaws) (interpreter : revm.Interpreter)
    (ctx : Context revm.Scratch) :
    (revm.action (haltForZkGasLimit revm interpreter ctx).1).isSome = true := by
  obtain ⟨gas, output, haction⟩ := laws.haltFatal_action
    (if (revm.action interpreter).isSome then (revm.takeNextAction interpreter).2
      else interpreter)
  rw [haltForZkGasLimit]
  dsimp only
  rw [haction]
  rfl

end Revm.LoopLaws

/-! ### One round of the loop -/

/-- One round of the production loop, with a meter or without. -/
def loopStep (interpreter : revm.Interpreter) (ctx : Context revm.Scratch) :
    Option ZkGasMeter → Bool × revm.Interpreter × Context revm.Scratch × Option ZkGasMeter
  | none =>
    let (ends, interpreter, ctx) := plainStep revm env interpreter ctx
    (ends, interpreter, ctx, none)
  | some meter =>
    let (ends, interpreter, ctx, meter) := meteredStep revm env interpreter ctx meter
    (ends, interpreter, ctx, some meter)

lemma ZkGasMeteringState.finishStep_beginStep {s s' : ZkGasMeteringState} {depth : ℕ}
    {opcode : U8} {gasRemaining : U64} (h : s.beginStep depth opcode gasRemaining = .ok s')
    (gasRemaining' : U64) :
    s'.finishStep depth gasRemaining' = .ok (opcode, saturatingSub gasRemaining gasRemaining') ∧
      s'.meter = s.meter := by
  rw [beginStep] at h
  split at h
  · next hdepth =>
    cases h
    rw [finishStep, dif_pos hdepth]
    simp
  · cases h

/-- A round of the inspected loop does what a round of the production loop does, with the
meter in the inspector. -/
theorem inspectedStep_eq (laws : revm.LoopLaws) (env : Env) (interpreter : revm.Interpreter)
    {ctx : Context revm.Scratch} (hdepth : ctx.journal.depth < maxCallDepth)
    (inspector : Option ZkGasMeteringState) :
    ∃ ends interpreter' ctx' inspector',
      inspectedStep revm env interpreter ctx inspector
        = .ok (ends, interpreter', ctx', inspector') ∧
      loopStep env interpreter ctx (inspectorMeter inspector)
        = (ends, interpreter', ctx', inspectorMeter inspector') := by
  cases hstep : revm.step env interpreter ctx with
  | mk stepResult rest =>
    obtain ⟨interpreter', ctx'⟩ := rest
    have hends := laws.action_materializeHalt hstep
    have hkept : ctx'.journal.depth = ctx.journal.depth := by
      have hkept := laws.step_depth env interpreter ctx
      rwa [hstep] at hkept
    cases inspector with
    | none =>
      refine ⟨!stepResult.isOk, materializeHalt revm stepResult interpreter', ctx', none,
        ?_, ?_⟩
      · simp only [inspectedStep, inspectorStep, inspectorStepEnd, hstep, bind, Except.bind,
          hends]
        rfl
      · simp only [loopStep, inspectorMeter, Option.map_none, plainStep, hstep]
    | some metering =>
      -- below the depth limit the step is noted, and its end charges what the loop charges
      obtain ⟨noted, hbegin⟩ : ∃ noted, metering.beginStep ctx.journal.depth
          (revm.opcode interpreter) (revm.gasRemaining interpreter) = .ok noted :=
        ⟨_, dif_pos hdepth⟩
      obtain ⟨hfinish, hmeter⟩ := ZkGasMeteringState.finishStep_beginStep hbegin
        (revm.gasRemaining (materializeHalt revm stepResult interpreter'))
      simp only [inspectedStep, inspectorStep, hbegin, Except.map, hstep, inspectorStepEnd,
        hkept, hfinish, bind, Except.bind, hmeter, loopStep, inspectorMeter, Option.map_some,
        meteredStep]
      generalize chargeStep revm metering.meter _ _ _ = answer
      obtain ⟨answer, meter⟩ := answer
      cases answer with
      | error outcome =>
        have hhalted := laws.action_haltForZkGasLimit
          (materializeHalt revm stepResult interpreter') ctx'
        refine ⟨true, _, _, some { noted with meter := meter }, ?_, rfl⟩
        dsimp only [pure, Except.pure]
        rw [hhalted]
      | ok u =>
        refine ⟨!stepResult.isOk, _, _, some { noted with meter := meter }, ?_, rfl⟩
        dsimp only [pure, Except.pure]
        rw [hends]

/-! ### Twin states -/

/-- What opening or leaving a frame can answer; a call of a precompile is told apart. -/
lemma frameAnswer_cases {Error I O : Type}
    {motive : Except Error (ItemOrResult I (FrameResult O)) → Prop}
    (error : ∀ e, motive (.error e)) (item : ∀ frame, motive (.ok (.item frame)))
    (create : ∀ gas output, motive (.ok (.result (.create gas output))))
    (call : ∀ gas output, motive (.ok (.result (.call gas false output))))
    (precompile : ∀ gas output, motive (.ok (.result (.call gas true output))))
    (answer : Except Error (ItemOrResult I (FrameResult O))) : motive answer := by
  rcases answer with e | frame | ⟨gas, _ | _, output⟩ | ⟨gas, output⟩
  · exact error e
  · exact item frame
  · exact call gas output
  · exact precompile gas output
  · exact create gas output

/-- A state of the production machine and one of the inspected machine that differ only in
where the meter lives. -/
inductive Twin : Phase revm × TaikoEvm revm → Phase revm × TaikoEvm revm → Prop
  | intro (phase : Phase revm) (ctx : Context revm.Scratch)
      (frames : List (Frame revm.Input revm.Interpreter))
      (inspector : Option ZkGasMeteringState) :
      Twin (phase, ⟨ctx, frames, inspectorMeter inspector, none⟩)
        (phase, ⟨ctx, frames, none, inspector⟩)

lemma Twin.production (h : Twin s t) :
    s.2.inspector = none := by
  obtain ⟨phase, ctx, frames, inspector⟩ := h
  rfl

/-- The innermost frame, if it can still run, is not too deep for the inspector. -/
def Bounded (s : Phase revm × TaikoEvm revm) : Prop :=
  (∃ outcome, s.1 = .done outcome) ∨ s.2.frameStack = [] ∨ s.2.ctx.journal.depth < maxCallDepth

/-- Opening a frame charges a precompile alike. -/
lemma inspectFrameInit_twin (inspector : Option ZkGasMeteringState)
    (input : FrameInput revm.Input) :
    ∃ opened ctx' frames' inspector',
      frameInit env ⟨ctx, frames, inspectorMeter inspector, none⟩ input
        = (opened, ⟨ctx', frames', inspectorMeter inspector', none⟩) ∧
      inspectFrameInit env ⟨ctx, frames, none, inspector⟩ input
        = (opened, ⟨ctx', frames', none, inspector'⟩) := by
  rw [inspectFrameInit, frameInit, frameInit]
  dsimp only
  cases revm.initWithContext env ctx input with
  | mk init ctx' =>
    cases init using frameAnswer_cases with
    | error e => exact ⟨_, _, _, inspector, rfl, rfl⟩
    | item frame => exact ⟨_, _, _, inspector, rfl, rfl⟩
    | create gas output => exact ⟨_, _, _, inspector, rfl, by cases input <;> rfl⟩
    | call gas output => exact ⟨_, _, _, inspector, rfl, by cases input <;> rfl⟩
    | precompile gas output =>
      cases input with
      | create _ => exact ⟨_, _, _, inspector, rfl, rfl⟩
      | empty => exact ⟨_, _, _, inspector, rfl, rfl⟩
      | call gasLimit bytecodeAddress _ =>
        cases inspector with
        | none => exact ⟨_, _, _, none, rfl, rfl⟩
        | some metering => exact ⟨_, _, _, some { metering with meter := _ }, rfl, rfl⟩

/-- The end of a frame's loop, or its next round, is the same. -/
lemma continueLoop_twin (laws : revm.LoopLaws) (env : Env) (ctx : Context revm.Scratch)
    (inspector : Option ZkGasMeteringState) (stack : List (Frame revm.Input revm.Interpreter))
    (frame : Frame revm.Input revm.Interpreter)
    (frames : List (Frame revm.Input revm.Interpreter)) (ends : Bool)
    (input : FrameInput revm.Input) :
    Twin (continueLoop env ⟨ctx, stack, inspectorMeter inspector, none⟩ frame frames ends)
      (inspectLoopEnd input
        (continueLoop env ⟨ctx, stack, none, inspector⟩ frame frames ends)) := by
  cases ends with
  | false => exact .intro _ _ _ _
  | true =>
    rw [continueLoop, continueLoop, if_pos rfl, if_pos rfl, finishLoop, finishLoop]
    dsimp only
    have hprecompile := laws.process_precompile env
      { frame with interpreter := (revm.takeNextAction frame.interpreter).2 } ctx
      (revm.takeNextAction frame.interpreter).1
    cases hprocess : revm.processNextAction env
        { frame with interpreter := (revm.takeNextAction frame.interpreter).2 } ctx
        (revm.takeNextAction frame.interpreter).1 with
    | mk answer rest =>
      obtain ⟨frame', ctx'⟩ := rest
      cases answer using frameAnswer_cases with
      | error e => exact .intro _ _ _ _
      | item input => exact .intro _ _ _ _
      | create gas output => cases input <;> exact .intro _ _ _ _
      | call gas output => cases input <;> exact .intro _ _ _ _
      | precompile gas output =>
        exact absurd hprocess (hprecompile frame' ctx' gas output)

lemma frameReturnResult_twin (inspector : Option ZkGasMeteringState)
    (result : FrameResult revm.Output) :
    Twin (frameReturnResult env ⟨ctx, frames, inspectorMeter inspector, none⟩ result)
      (frameReturnResult env ⟨ctx, frames, none, inspector⟩ result) := by
  rw [frameReturnResult, frameReturnResult]
  dsimp only
  split
  · exact .intro _ _ _ _
  · next frame rest _ =>
    cases revm.returnResult env frame ctx result with
    | mk answer rest =>
      obtain ⟨frame', ctx'⟩ := rest
      cases answer <;> exact .intro _ _ _ _

/-- A step in the loop of a frame is one round of it. -/
lemma execStep_run {frame : Frame revm.Input revm.Interpreter}
    {frames : List (Frame revm.Input revm.Interpreter)} (h : evm.frameStack = frame :: frames)
    {ends : Bool} {ctx : Context revm.Scratch} {meter : Option ZkGasMeter}
    (hround : loopStep env frame.interpreter evm.ctx evm.zkGasMeter
      = (ends, interpreter, ctx, meter)) :
    execStep env (.run, evm) = continueLoop env { evm with ctx := ctx, zkGasMeter := meter }
      { frame with interpreter := interpreter } frames ends := by
  rw [execStep, h]
  cases hmeter : evm.zkGasMeter with
  | none =>
    rw [hmeter] at hround
    cases hround
    rfl
  | some m =>
    rw [hmeter] at hround
    cases hround
    rfl

/-- Twin states take twin steps. -/
theorem inspectExecStep_twin (laws : revm.LoopLaws) (env : Env) (h : Twin s t)
    (hbounded : Bounded s) :
    ∃ t', inspectExecStep env t = .ok t' ∧ Twin (execStep env s) t' := by
  obtain ⟨phase, ctx, frames, inspector⟩ := h
  cases phase with
  | init input =>
    obtain ⟨opened, ctx', frames', inspector', hplain, hinspected⟩ :=
      inspectFrameInit_twin env ctx frames inspector input
    rw [execStep, inspectExecStep, hplain, hinspected]
    exact ⟨_, rfl, .intro _ _ _ _⟩
  | run =>
    cases frames with
    | nil => exact ⟨_, rfl, .intro _ _ _ _⟩
    | cons frame frames =>
      have hdepth : ctx.journal.depth < maxCallDepth := by
        rcases hbounded with ⟨outcome, hdone⟩ | hnil | hdepth
        · cases hdone
        · cases hnil
        · exact hdepth
      obtain ⟨ends, interpreter, ctx', inspector', hinspected, hround⟩ :=
        inspectedStep_eq laws env frame.interpreter hdepth inspector
      have hstep := execStep_run env
        ⟨ctx, frame :: frames, inspectorMeter inspector, none⟩ rfl hround
      rw [hstep, inspectExecStep]
      dsimp only
      rw [hinspected]
      exact ⟨_, rfl, continueLoop_twin laws env ctx' inspector' _ _ frames ends frame.input⟩
  | result result => exact ⟨_, rfl, frameReturnResult_twin env ctx frames inspector result⟩
  | done outcome => exact ⟨_, rfl, .intro _ _ _ _⟩

/-! ### The depth of frames -/

@[simp] lemma Context.setCustomError_journal {X : Type} (ctx : Context X) :
    ctx.setCustomError.journal = ctx.journal := by
  rw [setCustomError]
  split <;> rfl

lemma loopStep_depth (laws : revm.LoopLaws) (env : Env) (interpreter : revm.Interpreter)
    (ctx : Context revm.Scratch) (meter : Option ZkGasMeter) :
    (loopStep env interpreter ctx meter).2.2.1.journal.depth = ctx.journal.depth := by
  have hdepth := laws.step_depth env interpreter ctx
  cases meter with
  | none => exact hdepth
  | some meter =>
    simp only [loopStep, meteredStep]
    split
    · simp only [haltForZkGasLimit, Context.setCustomError_journal]
      exact hdepth
    · exact hdepth

lemma chargePrecompileCall_journal (meter : ZkGasMeter) (address : Address) (gasUsed : U64)
    (ctx : Context revm.Scratch) :
    (chargePrecompileCall meter address gasUsed ctx).2.journal = ctx.journal := by
  rw [chargePrecompileCall]
  split
  · rfl
  · exact ctx.setCustomError_journal

lemma meterFrameInit_journal
    (init : ItemOrResult (Frame revm.Input revm.Interpreter) (FrameResult revm.Output)) :
    (meterFrameInit evm input init).ctx.journal = evm.ctx.journal ∧
      (meterFrameInit evm input init).frameStack = evm.frameStack := by
  rw [meterFrameInit.eq_def]
  split
  · split
    · exact ⟨chargePrecompileCall_journal _ _ _ _, rfl⟩
    · exact ⟨rfl, rfl⟩
  · exact ⟨rfl, rfl⟩

lemma continueLoop_bounded (laws : revm.LoopLaws) (env : Env) {evm : TaikoEvm revm}
    (hdepth : evm.ctx.journal.depth < maxCallDepth) (frame : Frame revm.Input revm.Interpreter)
    (frames : List (Frame revm.Input revm.Interpreter)) (ends : Bool) :
    Bounded (continueLoop env evm frame frames ends) := by
  rw [continueLoop]
  split
  · rw [finishLoop]
    dsimp only
    have hle := laws.process_depth env
      { frame with interpreter := (revm.takeNextAction frame.interpreter).2 } evm.ctx
      (revm.takeNextAction frame.interpreter).1
    split <;> next hprocess =>
      rw [hprocess] at hle
      exact .inr (.inr (lt_of_le_of_lt hle hdepth))
  · exact .inr (.inr hdepth)

/-- No step goes too deep. -/
lemma execStep_bounded (laws : revm.LoopLaws) (env : Env) (h : Bounded s) :
    Bounded (execStep env s) := by
  obtain ⟨phase, evm⟩ := s
  -- only the start of a frame can raise the depth, and it checks the limit
  cases phase with
  | init input =>
    rw [execStep, frameInit]
    dsimp only
    cases hinit : revm.initWithContext env evm.ctx input with
    | mk init ctx =>
      cases init with
      | error e => exact .inl ⟨_, rfl⟩
      | ok init =>
        obtain ⟨hjournal, hstack⟩ := meterFrameInit_journal { evm with ctx := ctx } input init
        cases init with
        | item frame =>
          refine .inr (.inr ?_)
          dsimp only
          rw [hjournal]
          exact laws.init_item_depth _ _ _ _ _ hinit
        | result result =>
          have hle := laws.init_result_depth _ _ _ _ _ hinit
          rcases h with ⟨outcome, hdone⟩ | hnil | hdepth
          · cases hdone
          · exact .inr (.inl (hstack.trans hnil))
          · refine .inr (.inr ?_)
            dsimp only
            rw [hjournal]
            exact lt_of_le_of_lt hle hdepth
  | run =>
    cases hframes : evm.frameStack with
    | nil =>
      rw [execStep, hframes]
      exact .inr (.inl hframes)
    | cons frame frames =>
      have hkept := loopStep_depth laws env frame.interpreter evm.ctx evm.zkGasMeter
      obtain ⟨ends, interpreter, ctx, meter, hround⟩ : ∃ ends interpreter ctx meter,
          loopStep env frame.interpreter evm.ctx evm.zkGasMeter
            = (ends, interpreter, ctx, meter) := ⟨_, _, _, _, rfl⟩
      rw [hround] at hkept
      rw [execStep_run env evm hframes hround]
      refine continueLoop_bounded laws env (lt_of_eq_of_lt hkept ?_) _ frames _
      rcases h with ⟨outcome, hdone⟩ | hnil | hdepth
      · cases hdone
      · rw [hnil] at hframes
        cases hframes
      · exact hdepth
  | result result =>
    rw [execStep, frameReturnResult]
    split
    · exact .inl ⟨_, rfl⟩
    · next frame frames hframes =>
      have hle := laws.returnResult_depth env frame evm.ctx result
      split
      · exact .inl ⟨_, rfl⟩
      · next hreturn =>
        rw [hreturn] at hle
        rcases h with ⟨outcome, hdone⟩ | hnil | hdepth
        · cases hdone
        · rw [hnil] at hframes
          cases hframes
        · exact .inr (.inr (lt_of_le_of_lt hle hdepth))
  | done outcome => exact .inl ⟨_, rfl⟩

/-- The state of the production machine after a number of steps. -/
def run (env : Env) : ℕ → Phase revm × TaikoEvm revm → Phase revm × TaikoEvm revm
  | 0, s => s
  | n + 1, s => run env n (execStep env s)

lemma run_add (env : Env) (m n : ℕ) (s : Phase revm × TaikoEvm revm) :
    run env (m + n) s = run env n (run env m s) := by
  induction m generalizing s with
  | zero => rw [Nat.zero_add, run]
  | succ m ih =>
    rw [Nat.succ_add, run, run]
    exact ih (execStep env s)

lemma exec_eq_run (env : Env) (n : ℕ) (s : Phase revm × TaikoEvm revm) :
    exec false env n s = .ok (run env n s) := by
  induction n generalizing s with
  | zero => rfl
  | succ n ih =>
    rw [exec_succ]
    exact ih (execStep env s)

/-- Twin runs: after any number of steps the two machines are in twin states. -/
theorem exec_twin (laws : revm.LoopLaws) (env : Env) (n : ℕ) {s t : Phase revm × TaikoEvm revm}
    (h : Twin s t) (hbounded : Bounded s) :
    ∃ t', exec true env n t = .ok t' ∧ Twin (run env n s) t' := by
  induction n generalizing s t with
  | zero => exact ⟨t, rfl, h⟩
  | succ n ih =>
    obtain ⟨t₁, hstep, htwin⟩ := inspectExecStep_twin laws env h hbounded
    obtain ⟨t', hrun, htwin'⟩ := ih htwin (execStep_bounded laws env hbounded)
    refine ⟨t', ?_, htwin'⟩
    rw [exec_succ, stepOn, if_pos rfl, hstep]
    exact hrun

/-! ### Charges -/

/-- The meter of a running EVM, wherever it lives. -/
def TaikoEvm.meter : Option ZkGasMeter :=
  evm.zkGasMeter.or (inspectorMeter evm.inspector)

/-- The charge a step makes: the answer of the meter, and the context the opcode or the
precompile left. -/
def stepCharge :
    Phase revm × TaikoEvm revm → Option (ZkGasMeter.Answer × Context revm.Scratch)
  | (.run, evm) =>
    match evm.frameStack, evm.meter with
    | frame :: _, some meter =>
      let (stepResult, interpreter, ctx) := revm.step env frame.interpreter evm.ctx
      let interpreter := materializeHalt revm stepResult interpreter
      let stepGas :=
        saturatingSub (revm.gasRemaining frame.interpreter) (revm.gasRemaining interpreter)
      some (chargeStep revm meter (revm.opcode frame.interpreter) stepGas
        (revm.action interpreter), ctx)
    | _, _ => none
  | (.init input, evm) =>
    match revm.initWithContext env evm.ctx input with
    | (.ok (.result (.call gas true _)), ctx) =>
      match precompileMetering input, evm.meter with
      | some (gasLimit, bytecodeAddress), some meter =>
        some (meter.chargePrecompile bytecodeAddress
          (saturatingSub gasLimit gas.remaining), ctx)
      | _, _ => none
    | _ => none
  | _ => none

/-- The step makes a charge that does not fit. -/
def Refused (s : Phase revm × TaikoEvm revm) (ctx : Context revm.Scratch) : Prop :=
  ∃ meter, stepCharge env s = some ((.error .limitExceeded, meter), ctx)

/-- Twin states make the same charge. -/
lemma Twin.stepCharge_eq (h : Twin s t) (env : Env) :
    stepCharge env t = stepCharge env s := by
  obtain ⟨phase, ctx, frames, inspector⟩ := h
  have hmeter : TaikoEvm.meter ⟨ctx, frames, none, inspector⟩
      = TaikoEvm.meter ⟨ctx, frames, inspectorMeter inspector, none⟩ := Option.or_none.symm
  cases phase with
  | init input => simp only [stepCharge, hmeter]
  | run => simp only [stepCharge, hmeter]
  | result result => rfl
  | done outcome => rfl

/-- The execution is over, or its last result is on the way, with an error for the handler. -/
def Stopped (e : ContextError) (s : Phase revm × TaikoEvm revm) : Prop :=
  s.1 = .done (.error e) ∨
    s.2.ctx.error = .error e ∧
      ((∃ result, s.1 = .result result) ∨ ∃ result, s.1 = .done (.ok result))

lemma Stopped.no_init (h : Stopped e s) (input : FrameInput revm.Input) : s.1 ≠ .init input := by
  intro hinit
  rcases h with hdone | ⟨-, ⟨result, hresult⟩ | ⟨result, hdone⟩⟩
  · rw [hinit] at hdone; cases hdone
  · rw [hinit] at hresult; cases hresult
  · rw [hinit] at hdone; cases hdone

lemma Twin.stopped (h : Twin s t) (hstopped : Stopped e s) : Stopped e t := by
  obtain ⟨phase, ctx, frames, inspector⟩ := h
  exact hstopped

lemma execStep_stopped (laws : revm.LoopLaws) (env : Env) (h : Stopped e s) :
    Stopped e (execStep env s) := by
  obtain ⟨phase, evm⟩ := s
  rcases h with hdone | ⟨herror, ⟨result, hresult⟩ | ⟨result, hdone⟩⟩
  · cases hdone
    exact .inl rfl
  · cases hresult
    rw [execStep, frameReturnResult]
    split
    · exact .inr ⟨herror, .inr ⟨result, rfl⟩⟩
    · next frame frames _ =>
      have hanswer := laws.returnResult_error env frame evm.ctx result e herror
      split
      · next e' frame' ctx' hreturn =>
        rw [hreturn] at hanswer
        cases hanswer
        exact .inl rfl
      · next frame' ctx' hreturn =>
        rw [hreturn] at hanswer
        cases hanswer
  · cases hdone
    exact .inr ⟨herror, .inr ⟨result, rfl⟩⟩

lemma run_stopped (laws : revm.LoopLaws) (env : Env) (n : ℕ) {e : ContextError}
    {s : Phase revm × TaikoEvm revm} (h : Stopped e s) : Stopped e (run env n s) := by
  induction n generalizing s with
  | zero => exact h
  | succ n ih => exact ih (execStep_stopped laws env h)

/-- The slot after a refused charge: the error that was there, or that of the zk gas limit. -/
lemma Context.setCustomError_error {X : Type} (ctx : Context X) :
    ∃ e, ctx.setCustomError.error = .error e ∧
      (ctx.error = .ok () → e = .custom zkGasLimitErr) := by
  rw [setCustomError]
  cases herror : ctx.error with
  | ok u => exact ⟨_, rfl, fun _ => rfl⟩
  | error e => exact ⟨e, herror, fun h => by cases h⟩

/-- A refused charge ends the loop with the fatal halt and the error of the limit. -/
lemma loopStep_refused (laws : revm.LoopLaws) {env : Env} {ctx : Context revm.Scratch}
    {meter : ZkGasMeter} (hstep : revm.step env interpreter ctx = (stepResult, interpreter', ctx'))
    (hcharge : chargeStep revm meter (revm.opcode interpreter)
      (saturatingSub (revm.gasRemaining interpreter)
        (revm.gasRemaining (materializeHalt revm stepResult interpreter')))
      (revm.action (materializeHalt revm stepResult interpreter'))
        = (.error .limitExceeded, meter')) :
    ∃ halted gas output, loopStep env interpreter ctx (some meter)
        = (true, halted, ctx'.setCustomError, some meter') ∧
      revm.action halted = some (.return gas output) := by
  simp only [loopStep, meteredStep, hstep, hcharge, haltForZkGasLimit]
  obtain ⟨gas, output, haction⟩ := laws.haltFatal_action
    (if (revm.action (materializeHalt revm stepResult interpreter')).isSome
      then (revm.takeNextAction (materializeHalt revm stepResult interpreter')).2
      else materializeHalt revm stepResult interpreter')
  exact ⟨_, gas, output, rfl, haction⟩

/-- The fatal halt of an exhausted budget ends its frame with a result. -/
lemma finishLoop_halted (laws : revm.LoopLaws) (env : Env) (evm : TaikoEvm revm)
    (frame : Frame revm.Input revm.Interpreter)
    (frames : List (Frame revm.Input revm.Interpreter)) {gas : Gas} {output : revm.Output}
    (haction : revm.action frame.interpreter = some (.return gas output)) :
    ∃ result, (finishLoop env evm frame frames).1 = .result result ∧
      (finishLoop env evm frame frames).2.ctx.error = evm.ctx.error := by
  obtain ⟨result, frame', ctx', hprocess, herror⟩ := laws.process_return env
    { frame with interpreter := (revm.takeNextAction frame.interpreter).2 } evm.ctx gas output
  rw [finishLoop]
  dsimp only
  rw [laws.takeNextAction _ _ haction, hprocess]
  exact ⟨result, rfl, herror⟩

/-- After a refused charge the execution is over, but for the delivery of its last result. -/
theorem Refused.stops (laws : revm.LoopLaws) {env : Env} {ctx : Context revm.Scratch}
    (h : Refused env s ctx) (hinspector : s.2.inspector = none) :
    ∃ e, (ctx.error = .ok () → e = .custom zkGasLimitErr) ∧ Stopped e (execStep env s) := by
  obtain ⟨meter', h⟩ := h
  obtain ⟨e, herror, hcustom⟩ := ctx.setCustomError_error
  refine ⟨e, hcustom, ?_⟩
  obtain ⟨phase, evm⟩ := s
  have hmeter : evm.meter = evm.zkGasMeter := by
    rw [TaikoEvm.meter, hinspector]
    exact Option.or_none
  -- a precompile is charged where its frame would start, an instruction after it ran
  cases phase with
  | init input =>
    rw [stepCharge, hmeter] at h
    split at h
    · next gas output ctx' hinit =>
      split at h
      · next gasLimit bytecodeAddress meter hinput hzk =>
        obtain ⟨hcharge, rfl⟩ := Prod.ext_iff.mp (Option.some.inj h)
        dsimp only at hcharge
        have hmetered : meterFrameInit { evm with ctx := ctx' } input
              (.result (.call gas true output))
            = { evm with ctx := ctx'.setCustomError, zkGasMeter := some meter' } := by
          simp only [meterFrameInit, hinput, hzk, chargePrecompileCall, hcharge]
        rw [execStep, frameInit]
        dsimp only
        rw [hinit]
        dsimp only
        rw [hmetered, afterInit]
        split
        · exact .inr ⟨herror, .inr ⟨_, rfl⟩⟩
        · exact .inr ⟨herror, .inl ⟨_, rfl⟩⟩
      · cases h
    · cases h
  | run =>
    rw [stepCharge, hmeter] at h
    split at h
    · next frame frames meter hframes hzk =>
      cases hstep : revm.step env frame.interpreter evm.ctx with
      | mk stepResult rest =>
        obtain ⟨interpreter, ctx'⟩ := rest
        rw [hstep] at h
        obtain ⟨hcharge, rfl⟩ := Prod.ext_iff.mp (Option.some.inj h)
        obtain ⟨interpreter', gas, output, hround, haction⟩ :=
          loopStep_refused laws hstep hcharge
        rw [← hzk] at hround
        rw [execStep_run env evm hframes hround, continueLoop, if_pos rfl]
        obtain ⟨result, hresult, hslot⟩ := finishLoop_halted laws env
          { evm with ctx := ctx'.setCustomError, zkGasMeter := some meter' }
          { frame with interpreter := interpreter' } frames haction
        exact .inr ⟨hslot.trans herror, .inl ⟨result, hresult⟩⟩
    · cases h
  | result result => cases h
  | done outcome => cases h

/-- From a twin start the machines make the same charge after every number of steps; when it
is refused, both stop with the same error. -/
theorem lockStep (laws : revm.LoopLaws) (env : Env) {s t : Phase revm × TaikoEvm revm}
    (h : Twin s t) (hbounded : Bounded s) (n : ℕ) :
    ∃ s' t', exec false env n s = .ok s' ∧ exec true env n t = .ok t' ∧ Twin s' t' ∧
      stepCharge env t' = stepCharge env s' ∧
      ∀ ctx, Refused env s' ctx →
        ∃ e, (ctx.error = .ok () → e = .custom zkGasLimitErr) ∧
          ∀ k, ∃ s'' t'', exec false env (n + 1 + k) s = .ok s'' ∧
            exec true env (n + 1 + k) t = .ok t'' ∧ Stopped e s'' ∧ Stopped e t'' ∧
            ∀ input, s''.1 ≠ .init input ∧ t''.1 ≠ .init input := by
  obtain ⟨t', hinspected, htwin⟩ := exec_twin laws env n h hbounded
  refine ⟨run env n s, t', exec_eq_run env n s, hinspected, htwin, htwin.stepCharge_eq env, ?_⟩
  intro ctx hrefused
  obtain ⟨e, hcustom, hstops⟩ := hrefused.stops laws htwin.production
  refine ⟨e, hcustom, fun k => ?_⟩
  obtain ⟨t'', hinspected', htwin'⟩ := exec_twin laws env (n + 1 + k) h hbounded
  have hstopped : Stopped e (run env (n + 1 + k) s) := by
    rw [run_add, run_add]
    exact run_stopped laws env k hstops
  have hstopped' := htwin'.stopped hstopped
  exact ⟨_, t'', exec_eq_run env (n + 1 + k) s, hinspected', hstopped, hstopped',
    fun input => ⟨hstopped.no_init input, hstopped'.no_init input⟩⟩

/-! ### Runs without a refused charge -/

/-- The state without its meter, beside an inspector that is switched off. -/
def unmetered (s : Phase revm × TaikoEvm revm) :
    Phase revm × TaikoEvm revm :=
  (s.1, ⟨s.2.ctx, s.2.frameStack, none, inspector⟩)

/-- A charge that fits does not change the round. -/
lemma loopStep_unmetered {env : Env} {ctx : Context revm.Scratch} {meter : ZkGasMeter}
    (hstep : revm.step env interpreter ctx = (stepResult, interpreter', ctx'))
    (hcharge : chargeStep revm meter (revm.opcode interpreter)
      (saturatingSub (revm.gasRemaining interpreter)
        (revm.gasRemaining (materializeHalt revm stepResult interpreter')))
      (revm.action (materializeHalt revm stepResult interpreter')) = (.ok (), meter')) :
    ∃ ends interpreter₁ ctx₁,
      loopStep env interpreter ctx (some meter) = (ends, interpreter₁, ctx₁, some meter') ∧
      loopStep env interpreter ctx none = (ends, interpreter₁, ctx₁, none) := by
  simp only [loopStep, meteredStep, plainStep, hstep, hcharge]
  exact ⟨_, _, _, rfl, rfl⟩

lemma continueLoop_unmetered (inspector : Option ZkGasMeteringState)
    (frame : Frame revm.Input revm.Interpreter) (frames : List (Frame revm.Input revm.Interpreter))
    (ends : Bool) :
    continueLoop env ⟨evm.ctx, evm.frameStack, none, inspector⟩ frame frames ends
      = unmetered inspector (continueLoop env evm frame frames ends) := by
  rw [continueLoop, continueLoop]
  split
  · rw [finishLoop, finishLoop]
    dsimp only
    split <;> rfl
  · rfl

lemma frameReturnResult_unmetered (inspector : Option ZkGasMeteringState)
    (result : FrameResult revm.Output) :
    frameReturnResult env ⟨evm.ctx, evm.frameStack, none, inspector⟩ result
      = unmetered inspector (frameReturnResult env evm result) := by
  rw [frameReturnResult, frameReturnResult]
  dsimp only
  split
  · rfl
  · split <;> rfl

/-- Opening a frame that is refused no charge needs no meter. -/
lemma execStep_init_unmetered (ctx : Context revm.Scratch)
    (stack : List (Frame revm.Input revm.Interpreter)) (zkGasMeter : Option ZkGasMeter)
    (hfits : ∀ ctx', ¬ Refused env (.init input, ⟨ctx, stack, zkGasMeter, none⟩) ctx') :
    execStep env (unmetered inspector (.init input, ⟨ctx, stack, zkGasMeter, none⟩))
      = unmetered inspector (execStep env (.init input, ⟨ctx, stack, zkGasMeter, none⟩)) := by
  simp only [unmetered, execStep, frameInit]
  cases hinit : revm.initWithContext env ctx input with
  | mk init ctx' =>
    cases init using frameAnswer_cases with
    | error e => rfl
    | item frame => rfl
    | create gas output => rfl
    | call gas output => rfl
    | precompile gas output =>
      cases input with
      | create _ => rfl
      | empty => rfl
      | call gasLimit bytecodeAddress _ =>
        cases zkGasMeter with
        | none => rfl
        | some meter =>
          cases hcharge : meter.chargePrecompile bytecodeAddress
              (saturatingSub gasLimit gas.remaining) with
          | mk answer meter' =>
            cases answer with
            | error outcome =>
              refine absurd ⟨meter', ?_⟩ (hfits ctx')
              simp only [stepCharge, hinit, precompileMetering, TaikoEvm.meter,
                Option.some_or, hcharge]
            | ok u =>
              simp only [meterFrameInit, precompileMetering, chargePrecompileCall,
                hcharge]

/-- An opcode that is refused no charge needs no meter. -/
lemma execStep_run_unmetered (ctx : Context revm.Scratch)
    (frame : Frame revm.Input revm.Interpreter) (frames : List (Frame revm.Input revm.Interpreter))
    (meter : ZkGasMeter)
    (hfits : ∀ ctx', ¬ Refused env (.run, ⟨ctx, frame :: frames, some meter, none⟩) ctx') :
    execStep env (unmetered inspector (.run, ⟨ctx, frame :: frames, some meter, none⟩))
      = unmetered inspector (execStep env (.run, ⟨ctx, frame :: frames, some meter, none⟩)) := by
  cases hstep : revm.step env frame.interpreter ctx with
  | mk stepResult rest =>
    obtain ⟨interpreter, ctx'⟩ := rest
    cases hcharge : chargeStep revm meter (revm.opcode frame.interpreter)
        (saturatingSub (revm.gasRemaining frame.interpreter)
          (revm.gasRemaining (materializeHalt revm stepResult interpreter)))
        (revm.action (materializeHalt revm stepResult interpreter)) with
    | mk answer meter' =>
      cases answer with
      | error outcome =>
        refine absurd ⟨meter', ?_⟩ (hfits ctx')
        simp only [stepCharge, TaikoEvm.meter, Option.some_or, hstep, hcharge]
      | ok u =>
        obtain ⟨ends, interpreter', ctx₁, hmetered, hplain⟩ :=
          loopStep_unmetered hstep hcharge
        rw [execStep_run env ⟨ctx, frame :: frames, some meter, none⟩ rfl hmetered,
          unmetered, execStep_run env ⟨ctx, frame :: frames, none, inspector⟩ rfl hplain]
        exact continueLoop_unmetered env ⟨ctx₁, _, some meter', none⟩ inspector _ frames ends

/-- A step that is refused no charge is a step without a meter. -/
theorem execStep_unmetered (hinspector : s.2.inspector = none)
    (hfits : ∀ ctx, ¬ Refused env s ctx) :
    execStep env (unmetered inspector s) = unmetered inspector (execStep env s) := by
  obtain ⟨phase, ctx, stack, zkGasMeter, none'⟩ := s
  cases hinspector
  cases phase with
  | init input => exact execStep_init_unmetered env inspector input ctx stack zkGasMeter hfits
  | run =>
    cases stack with
    | nil => rfl
    | cons frame frames =>
      cases zkGasMeter with
      | none => exact continueLoop_unmetered env ⟨_, _, none, none⟩ inspector _ frames _
      | some meter => exact execStep_run_unmetered env inspector ctx frame frames meter hfits
  | result result =>
    exact frameReturnResult_unmetered env ⟨ctx, stack, zkGasMeter, none⟩ inspector result
  | done outcome => rfl

/-- The production machine leaves an inspector alone. -/
lemma execStep_inspector (s : Phase revm × TaikoEvm revm) :
    (execStep env s).2.inspector = s.2.inspector := by
  obtain ⟨phase, evm⟩ := s
  cases phase with
  | init input =>
    simp only [execStep, frameInit]
    cases revm.initWithContext env evm.ctx input with
    | mk init ctx =>
      cases init with
      | error e => rfl
      | ok init =>
        have hkept : (meterFrameInit { evm with ctx := ctx } input init).inspector
            = evm.inspector := by
          rw [meterFrameInit.eq_def]
          split
          · split <;> rfl
          · rfl
        cases init <;> exact hkept
  | run =>
    have hkept : ∀ (evm' : TaikoEvm revm) frame frames ends,
        (continueLoop env evm' frame frames ends).2.inspector = evm'.inspector :=
      fun evm' frame frames ends =>
        congrArg MeterHomes.inspector (continueLoop_homes env evm' frame frames ends)
    rw [execStep]
    split
    · rfl
    · exact hkept _ _ _ _
    · exact hkept _ _ _ _
  | result result =>
    exact congrArg MeterHomes.inspector (frameReturnResult_homes env evm result)
  | done outcome => rfl

/-- A run that ends with a result and no error is a run without a meter. -/
theorem run_unmetered (laws : revm.LoopLaws) (env : Env)
    (inspector : Option ZkGasMeteringState) (n : ℕ) {s : Phase revm × TaikoEvm revm}
    (hinspector : s.2.inspector = none) (hend : ∀ e, ¬ Stopped e (run env n s)) :
    run env n (unmetered inspector s) = unmetered inspector (run env n s) := by
  induction n generalizing s with
  | zero => rfl
  | succ n ih =>
    have hfits : ∀ ctx, ¬ Refused env s ctx := by
      intro ctx hrefused
      obtain ⟨e, -, hstopped⟩ := hrefused.stops laws hinspector
      exact hend e (run_stopped laws env n hstopped)
    rw [run, execStep_unmetered env inspector hinspector hfits]
    exact ih ((execStep_inspector env s).trans hinspector) hend

/-! ### Transactions -/

/-- The meters of an EVM on the production path and of one on the inspector path. -/
structure MeterHomes.Twin (homes homes' : MeterHomes) : Prop where
  production : homes.inspector = none
  inspected : homes'.zkGasMeter = none
  meter : homes.zkGasMeter = inspectorMeter homes'.inspector

/-- What the handler makes of the state its frames end in. -/
def finishRun (env : Env) (extra : Option TaikoEvmExtraExecutionCtx) (prepared : Prepared revm)
    (s : Phase revm × TaikoEvm revm) :
    Except Panic (Except EVMError (ExecutionResult × EvmState) × MeterHomes) :=
  match s.1 with
  | .done (.error e) => .ok (.error e.toEVMError, s.2.homes)
  | .done (.ok result) => do
    let outcome ← settle revm checks env extra prepared s.2.ctx result
    pure (outcome, s.2.homes)
  | .init _ | .run | .result _ => .ok (.error .outOfFuel, s.2.homes)

lemma handlerRun_of_exec {checks : OverflowChecks} {inspect : Bool} {env : Env}
    {extra : Option TaikoEvmExtraExecutionCtx} {homes : MeterHomes} {prepared : Prepared revm}
    {s : Phase revm × TaikoEvm revm} (hprepare : prepare revm env extra = .ok prepared)
    (hexec : exec inspect env revm.fuel (.init prepared.input,
      ⟨prepared.ctx, [], homes.zkGasMeter, homes.inspector⟩) = .ok s) :
    handlerRun revm checks inspect env extra homes = finishRun checks env extra prepared s := by
  rw [handlerRun, hprepare]
  dsimp only
  rw [hexec]
  rfl

/-- Twin states finish with the same outcome. -/
lemma finishRun_twin (env : Env) (extra : Option TaikoEvmExtraExecutionCtx)
    (prepared : Prepared revm) (h : AlethiaReth.Twin s t) :
    Related (fun out out' => out'.1 = out.1 ∧ out.2.Twin out'.2)
      (finishRun checks env extra prepared s) (finishRun checks env extra prepared t) := by
  obtain ⟨phase, ctx, frames, inspector⟩ := h
  match phase with
  | .done (.error e) => exact ⟨rfl, rfl, rfl, rfl⟩
  | .done (.ok result) =>
    refine (Related.refl _).bind fun outcome outcome' houtcome => ?_
    exact ⟨houtcome.symm, rfl, rfl, rfl⟩
  | .init _ => exact ⟨rfl, rfl, rfl, rfl⟩
  | .run => exact ⟨rfl, rfl, rfl, rfl⟩
  | .result _ => exact ⟨rfl, rfl, rfl, rfl⟩

/-- A transaction has the same outcome on both paths. -/
theorem handlerRun_twin (laws : revm.LoopLaws) (checks : OverflowChecks) (env : Env)
    (extra : Option TaikoEvmExtraExecutionCtx) (h : homes.Twin homes') :
    Related (fun out out' => out'.1 = out.1 ∧ out.2.Twin out'.2)
      (handlerRun revm checks false env extra homes)
      (handlerRun revm checks true env extra homes') := by
  cases hprepare : prepare revm env extra with
  | error e =>
    rw [handlerRun, handlerRun, hprepare]
    exact ⟨rfl, h⟩
  | ok prepared =>
    have hstart : @Twin revm
        (.init prepared.input, ⟨prepared.ctx, [], homes.zkGasMeter, homes.inspector⟩)
        (.init prepared.input, ⟨prepared.ctx, [], homes'.zkGasMeter, homes'.inspector⟩) := by
      rw [h.production, h.inspected, h.meter]
      exact .intro _ _ _ _
    obtain ⟨t, hinspected, htwin⟩ := exec_twin laws env revm.fuel hstart (.inr (.inl rfl))
    rw [handlerRun_of_exec hprepare (exec_eq_run env revm.fuel _),
      handlerRun_of_exec hprepare hinspected]
    exact finishRun_twin checks env extra prepared htwin

/-- A transaction that the production path returns a result of has the same result without
a meter, and an inspector that is switched off does not notice it. -/
theorem handlerRun_unmetered (laws : revm.LoopLaws) {checks : OverflowChecks} {env : Env}
    {extra : Option TaikoEvmExtraExecutionCtx} {outcome : ExecutionResult × EvmState}
    (hinspector : homes.inspector = none)
    (h : handlerRun revm checks false env extra homes = .ok (.ok outcome, homes'))
    (inspector : Option ZkGasMeteringState) :
    handlerRun revm checks false env extra ⟨none, inspector⟩
      = .ok (.ok outcome, ⟨none, inspector⟩) := by
  obtain ⟨ran⟩ := handlerRun_eq_ok h
  have hrun := Except.ok.inj ((exec_eq_run env revm.fuel _).symm.trans ran.exec_eq)
  have hend : ∀ e, ¬ Stopped e (run env revm.fuel (.init ran.prepared.input,
      ⟨ran.prepared.ctx, [], homes.zkGasMeter, homes.inspector⟩)) := by
    rw [hrun]
    rintro e (hdone | ⟨herror, -⟩)
    · cases hdone
    · rw [ran.error_eq] at herror
      cases herror
  have hplain := run_unmetered laws env inspector revm.fuel hinspector hend
  rw [hrun] at hplain
  have hfinish := h
  rw [handlerRun_of_exec ran.prepare_eq ran.exec_eq, finishRun] at hfinish
  obtain ⟨outcome', hsettle, hout⟩ := bind_eq_ok.mp hfinish
  obtain rfl : outcome' = .ok outcome := congrArg Prod.fst (Except.ok.inj hout)
  have hexec : exec false env revm.fuel (.init ran.prepared.input,
      ⟨ran.prepared.ctx, [], none, inspector⟩)
        = .ok (unmetered inspector (.done (.ok ran.result), ran.evm)) :=
    (exec_eq_run env revm.fuel _).trans (congrArg Except.ok hplain)
  refine (handlerRun_of_exec ran.prepare_eq hexec).trans ?_
  rw [finishRun]
  dsimp only [unmetered]
  rw [hsettle]
  rfl

end AlethiaReth
