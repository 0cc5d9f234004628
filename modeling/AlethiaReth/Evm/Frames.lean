import AlethiaReth.ZkGas.Meter
import AlethiaReth.Evm.Revm

/-!
Execution of the frames of a transaction with zk gas metering, on the two paths
that meter it: the production loop, with the meter on the EVM, and the inspected
loop, with the meter in the inspector.

The nested loops of the program (frames, and the opcodes of one frame) are one
small-step machine here: a step executes one opcode, opens one frame, or returns
one result, so that every charge ends a step.
-/

namespace AlethiaReth

open MachineInt

variable (revm : Revm)

/-! ### The inspector's metering state -/

/-- The opcode and the gas before it, noted between `step` and `step_end`. -/
structure PendingStep where
  opcode : U8
  gasRemaining : U64
  deriving DecidableEq, Repr

/-- No step. -/
def PendingStep.empty : PendingStep := ⟨0, 0⟩

/-- Slots for call depths, one more than the deepest legal frame needs. -/
def maxCallDepth : ℕ := 1026

/-- The meter of the inspector with a pending step for each call depth. -/
structure ZkGasMeteringState where
  meter : ZkGasMeter
  pendingSteps : Fin maxCallDepth → PendingStep
  maxActiveDepth : ℕ

namespace ZkGasMeteringState

/-- Nothing was metered. -/
def new (schedule : ZkGasSchedule) : ZkGasMeteringState where
  meter := .new schedule
  pendingSteps _ := .empty
  maxActiveDepth := 0

/-- Drops the in-flight zk gas and the steps noted at the depths that were active. -/
def resetTransaction (s : ZkGasMeteringState) : ZkGasMeteringState where
  meter := s.meter.resetTransaction
  pendingSteps depth := if depth.val ≤ s.maxActiveDepth then .empty else s.pendingSteps depth
  maxActiveDepth := 0

/-- A step begins. -/
def beginStep (s : ZkGasMeteringState) (depth : ℕ) (opcode : U8) (gasRemaining : U64) :
    Except Panic ZkGasMeteringState :=
  if h : depth < maxCallDepth then
    .ok { s with
      pendingSteps := Function.update s.pendingSteps ⟨depth, h⟩ ⟨opcode, gasRemaining⟩
      maxActiveDepth := if depth > s.maxActiveDepth then depth else s.maxActiveDepth }
  else
    .error .indexOutOfBounds

/-- The opcode that ran at a depth, and the gas its step took. -/
def finishStep (s : ZkGasMeteringState) (depth : ℕ) (gasRemaining : U64) :
    Except Panic (U8 × U64) :=
  if h : depth < maxCallDepth then
    let pending := s.pendingSteps ⟨depth, h⟩
    .ok (pending.opcode, saturatingSub pending.gasRemaining gasRemaining)
  else
    .error .indexOutOfBounds

end ZkGasMeteringState

/-! ### One round of the interpreter loops -/

/-- Charges an executed opcode: the fixed estimate when it selected a child frame,
the gas of its step otherwise. -/
def chargeStep (meter : ZkGasMeter) (opcode : U8) (stepGas : U64)
    (action : Option (InterpreterAction revm.Input revm.Output)) : ZkGasMeter.Answer :=
  if h : isSpawnOpcode opcode ∧ action.any InterpreterAction.isNewFrame then
    meter.chargeSpawnOpcode ⟨opcode, h.1⟩
  else
    meter.chargeOpcode opcode stepGas

/-- Replaces whatever action is pending by the fatal halt of an exhausted budget. -/
def haltForZkGasLimit (interpreter : revm.Interpreter) (ctx : Context revm.Scratch) :
    revm.Interpreter × Context revm.Scratch :=
  let interpreter :=
    if (revm.action interpreter).isSome then (revm.takeNextAction interpreter).2 else interpreter
  (revm.haltFatal interpreter, ctx.setCustomError)

/-- Leaves the action of an exceptional halt when the opcode left none. -/
def materializeHalt (stepResult : Except revm.InstructionResult Unit)
    (interpreter : revm.Interpreter) : revm.Interpreter :=
  match stepResult with
  | .ok () => interpreter
  | .error result =>
    if (revm.action interpreter).isNone then revm.halt interpreter result else interpreter

/-- One round of the loop without a meter, and whether the loop ends. -/
def plainStep (env : Env) (interpreter : revm.Interpreter) (ctx : Context revm.Scratch) :
    Bool × revm.Interpreter × Context revm.Scratch :=
  let (stepResult, interpreter, ctx) := revm.step env interpreter ctx
  (!stepResult.isOk, materializeHalt revm stepResult interpreter, ctx)

/-- One round of the production loop, and whether the loop ends. -/
def meteredStep (env : Env) (interpreter : revm.Interpreter) (ctx : Context revm.Scratch)
    (meter : ZkGasMeter) :
    Bool × revm.Interpreter × Context revm.Scratch × ZkGasMeter :=
  let opcode := revm.opcode interpreter
  let gasBefore := revm.gasRemaining interpreter
  let (stepResult, interpreter, ctx) := revm.step env interpreter ctx
  -- the halt comes before the charge, so that gas forfeited by it is charged
  let interpreter := materializeHalt revm stepResult interpreter
  match chargeStep revm meter opcode (saturatingSub gasBefore (revm.gasRemaining interpreter))
      (revm.action interpreter) with
  | (.error .limitExceeded, meter) =>
    let (interpreter, ctx) := haltForZkGasLimit revm interpreter ctx
    (true, interpreter, ctx, meter)
  | (.ok (), meter) => (!stepResult.isOk, interpreter, ctx, meter)

/-- The inspector's `step` callback. -/
def inspectorStep (interpreter : revm.Interpreter) (ctx : Context revm.Scratch) :
    Option ZkGasMeteringState → Except Panic (Option ZkGasMeteringState)
  | none => .ok none
  | some metering =>
    (metering.beginStep ctx.journal.depth (revm.opcode interpreter)
      (revm.gasRemaining interpreter)).map some

/-- The inspector's `step_end` callback. -/
def inspectorStepEnd (interpreter : revm.Interpreter) (ctx : Context revm.Scratch) :
    Option ZkGasMeteringState →
      Except Panic (revm.Interpreter × Context revm.Scratch × Option ZkGasMeteringState)
  | none => .ok (interpreter, ctx, none)
  | some metering => do
    let (opcode, stepGas) ←
      metering.finishStep ctx.journal.depth (revm.gasRemaining interpreter)
    match chargeStep revm metering.meter opcode stepGas (revm.action interpreter) with
    | (.error .limitExceeded, meter) =>
      let (interpreter, ctx) := haltForZkGasLimit revm interpreter ctx
      pure (interpreter, ctx, some { metering with meter := meter })
    | (.ok (), meter) => pure (interpreter, ctx, some { metering with meter := meter })

/-- One round of the inspected loop, and whether the loop ends: the halt of a
failing opcode is in place before `step_end`, and a pending action ends the loop. -/
def inspectedStep (env : Env) (interpreter : revm.Interpreter) (ctx : Context revm.Scratch)
    (metering : Option ZkGasMeteringState) :
    Except Panic
      (Bool × revm.Interpreter × Context revm.Scratch × Option ZkGasMeteringState) := do
  let metering ← inspectorStep revm interpreter ctx metering
  let (stepResult, interpreter, ctx) := revm.step env interpreter ctx
  let interpreter := materializeHalt revm stepResult interpreter
  let (interpreter, ctx, metering) ← inspectorStepEnd revm interpreter ctx metering
  pure ((revm.action interpreter).isSome, interpreter, ctx, metering)

/-! ### The EVM and its frames -/

/-- The EVM during a transaction: context, frames with the innermost first, and
the two places a meter can live. -/
structure TaikoEvm where
  ctx : Context revm.Scratch
  frameStack : List (Frame revm.Input revm.Interpreter)
  zkGasMeter : Option ZkGasMeter
  inspector : Option ZkGasMeteringState

variable {revm}

/-- The gas limit and the address a call would charge a precompile by. -/
def precompileMetering : FrameInput revm.Input → Option (U64 × Address)
  | .call gasLimit bytecodeAddress _ => some (gasLimit, bytecodeAddress)
  | .create _ => none
  | .empty => none

/-- Charges a precompile's gas, leaving the custom error when it does not fit. -/
def chargePrecompileCall (meter : ZkGasMeter) (bytecodeAddress : Address) (gasUsed : U64)
    (ctx : Context revm.Scratch) : ZkGasMeter × Context revm.Scratch :=
  match meter.chargePrecompile bytecodeAddress gasUsed with
  | (.ok (), meter) => (meter, ctx)
  | (.error .limitExceeded, meter) => (meter, ctx.setCustomError)

/-- The production charge of a frame that was answered at once. -/
def meterFrameInit (evm : TaikoEvm revm) (input : FrameInput revm.Input) :
    ItemOrResult (Frame revm.Input revm.Interpreter) (FrameResult revm.Output) → TaikoEvm revm
  | .result (.call gas true _) =>
    match precompileMetering input, evm.zkGasMeter with
    | some (gasLimit, bytecodeAddress), some meter =>
      let (meter, ctx) := chargePrecompileCall meter bytecodeAddress
        (saturatingSub gasLimit gas.remaining) evm.ctx
      { evm with ctx := ctx, zkGasMeter := some meter }
    | _, _ => evm
  | _ => evm

/-- Opens a frame and pushes it, or answers it at once. -/
def frameInit (env : Env) (evm : TaikoEvm revm) (input : FrameInput revm.Input) :
    Except ContextError (ItemOrResult Unit (FrameResult revm.Output)) × TaikoEvm revm :=
  match revm.initWithContext env evm.ctx input with
  | (.error e, ctx) => (.error e, { evm with ctx := ctx })
  | (.ok init, ctx) =>
    let evm := meterFrameInit { evm with ctx := ctx } input init
    match init with
    | .item frame => (.ok (.item ()), { evm with frameStack := frame :: evm.frameStack })
    | .result result => (.ok (.result result), evm)

/-- The inspector's `call_end` callback: precompile work is charged apart from the
call that led to it. -/
def inspectorCallEnd (evm : TaikoEvm revm) (input : FrameInput revm.Input)
    (result : FrameResult revm.Output) : TaikoEvm revm :=
  match input, result, evm.inspector with
  | .call gasLimit bytecodeAddress _, .call gas true _, some metering =>
    let (meter, ctx) := chargePrecompileCall metering.meter bytecodeAddress
      (saturatingSub gasLimit gas.remaining) evm.ctx
    { evm with ctx := ctx, inspector := some { metering with meter := meter } }
  | _, _, _ => evm

/-- Opens a frame on the inspected path. -/
def inspectFrameInit (env : Env) (evm : TaikoEvm revm) (input : FrameInput revm.Input) :
    Except ContextError (ItemOrResult Unit (FrameResult revm.Output)) × TaikoEvm revm :=
  match frameInit env evm input with
  | (.ok (.result result), evm) => (.ok (.result result), inspectorCallEnd evm input result)
  | other => other

/-! ### The machines -/

/-- Where the execution of a transaction's frames stands. -/
inductive Phase (revm : Revm) where
  | init (input : FrameInput revm.Input)
  | run
  | result (result : FrameResult revm.Output)
  | done (outcome : Except ContextError (FrameResult revm.Output))

/-- After opening a frame: run it, or deliver the result.  The result of the first
frame is the result of the execution. -/
def afterInit (isFirstInit : Bool) :
    Except ContextError (ItemOrResult Unit (FrameResult revm.Output)) → Phase revm
  | .error e => .done (.error e)
  | .ok (.item ()) => .run
  | .ok (.result result) => if isFirstInit then .done (.ok result) else .result result

/-- The end of a frame's loop: its action becomes a child frame or a result. -/
def finishLoop (env : Env) (evm : TaikoEvm revm) (frame : Frame revm.Input revm.Interpreter)
    (frames : List (Frame revm.Input revm.Interpreter)) : Phase revm × TaikoEvm revm :=
  let (action, interpreter) := revm.takeNextAction frame.interpreter
  match revm.processNextAction env { frame with interpreter := interpreter } evm.ctx action with
  | (.error e, frame, ctx) =>
    (.done (.error e), { evm with ctx := ctx, frameStack := frame :: frames })
  | (.ok (.item input), frame, ctx) =>
    (.init input, { evm with ctx := ctx, frameStack := frame :: frames })
  | (.ok (.result result), frame, ctx) =>
    (.result result,
      { evm with ctx := ctx, frameStack := { frame with isFinished := true } :: frames })

/-- Continues the loop of the innermost frame, or ends it. -/
def continueLoop (env : Env) (evm : TaikoEvm revm) (frame : Frame revm.Input revm.Interpreter)
    (frames : List (Frame revm.Input revm.Interpreter)) (ends : Bool) :
    Phase revm × TaikoEvm revm :=
  if ends then finishLoop env evm frame frames
  else (.run, { evm with frameStack := frame :: frames })

/-- Hands a result to the frame below, once the frame it came from is popped. -/
def frameReturnResult (env : Env) (evm : TaikoEvm revm) (result : FrameResult revm.Output) :
    Phase revm × TaikoEvm revm :=
  let frames :=
    match evm.frameStack with
    | frame :: frames => if frame.isFinished then frames else frame :: frames
    | [] => []
  match frames with
  | [] => (.done (.ok result), { evm with frameStack := [] })
  | frame :: frames =>
    match revm.returnResult env frame evm.ctx result with
    | (.error e, frame, ctx) =>
      (.done (.error e), { evm with ctx := ctx, frameStack := frame :: frames })
    | (.ok (), frame, ctx) => (.run, { evm with ctx := ctx, frameStack := frame :: frames })

/-- One step of the production machine.  Without a meter its loop is the plain one. -/
def execStep (env : Env) : Phase revm × TaikoEvm revm → Phase revm × TaikoEvm revm
  | (.init input, evm) =>
    let (opened, next) := frameInit env evm input
    (afterInit evm.frameStack.isEmpty opened, next)
  | (.run, evm) =>
    match evm.frameStack, evm.zkGasMeter with
    | [], _ => (.run, evm)
    | frame :: frames, none =>
      let (ends, interpreter, ctx) := plainStep revm env frame.interpreter evm.ctx
      continueLoop env { evm with ctx := ctx } { frame with interpreter := interpreter }
        frames ends
    | frame :: frames, some meter =>
      let (ends, interpreter, ctx, meter) :=
        meteredStep revm env frame.interpreter evm.ctx meter
      continueLoop env { evm with ctx := ctx, zkGasMeter := some meter }
        { frame with interpreter := interpreter } frames ends
  | (.result result, evm) => frameReturnResult env evm result
  | (.done outcome, evm) => (.done outcome, evm)

/-- The inspector sees the end of a frame that ran to its result. -/
def inspectLoopEnd (input : FrameInput revm.Input) :
    Phase revm × TaikoEvm revm → Phase revm × TaikoEvm revm
  | (.result result, evm) => (.result result, inspectorCallEnd evm input result)
  | other => other

/-- One step of the inspected machine. -/
def inspectExecStep (env : Env) :
    Phase revm × TaikoEvm revm → Except Panic (Phase revm × TaikoEvm revm)
  | (.init input, evm) =>
    let (opened, next) := inspectFrameInit env evm input
    .ok (afterInit evm.frameStack.isEmpty opened, next)
  | (.run, evm) =>
    match evm.frameStack with
    | [] => .ok (.run, evm)
    | frame :: frames => do
      let (ends, interpreter, ctx, inspector) ←
        inspectedStep revm env frame.interpreter evm.ctx evm.inspector
      pure (inspectLoopEnd frame.input
        (continueLoop env { evm with ctx := ctx, inspector := inspector }
          { frame with interpreter := interpreter } frames ends))
  | (.result result, evm) => .ok (frameReturnResult env evm result)
  | (.done outcome, evm) => .ok (.done outcome, evm)

/-- The step of the machine an execution runs on. -/
def stepOn (inspect : Bool) (env : Env) (s : Phase revm × TaikoEvm revm) :
    Except Panic (Phase revm × TaikoEvm revm) :=
  if inspect then inspectExecStep env s else .ok (execStep env s)

/-- The execution ended. -/
def Phase.isDone : Phase revm → Bool
  | .done _ => true
  | .init _ | .run | .result _ => false

/-- The state after a number of steps, or after as many as the execution takes. -/
def exec (inspect : Bool) (env : Env) : ℕ → Phase revm × TaikoEvm revm →
    Except Panic (Phase revm × TaikoEvm revm)
  | 0, s => .ok s
  | n + 1, s => if s.1.isDone then .ok s else do exec inspect env n (← stepOn inspect env s)

/-- An execution that is done stays as it is, so that it may as well take its steps. -/
theorem exec_succ (inspect : Bool) (env : Env) (n : ℕ) (s : Phase revm × TaikoEvm revm) :
    exec inspect env (n + 1) s = stepOn inspect env s >>= exec inspect env n := by
  rw [exec]
  split
  · next hdone =>
    obtain ⟨phase, evm⟩ := s
    cases phase with
    | done outcome =>
      have hstep : stepOn inspect env (Phase.done outcome, evm) = .ok (.done outcome, evm) := by
        cases inspect <;> rfl
      rw [hstep]
      cases n <;> rfl
    | init | run | result => cases hdone
  · rfl

end AlethiaReth
