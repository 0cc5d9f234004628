import AlethiaReth.Evm.Context

/-!
The interpreter below the Taiko EVM, as parameters.  Everything this development
proves holds for every `Revm`; where a proof needs a documented behaviour of the
interpreter, that behaviour is a named hypothesis.
-/

namespace AlethiaReth

open MachineInt

/-- The gas of a finished frame as its readers see it.  The refund is signed. -/
structure Gas where
  remaining : U64
  totalGasSpent : U64
  refunded : BitVec 64
  deriving DecidableEq, Repr

/-- A frame to open.  Only calls can reach a precompile. -/
inductive FrameInput (I : Type) where
  | call (gasLimit : U64) (bytecodeAddress : Address) (input : I)
  | create (input : I)
  | empty

/-- The result of a frame. -/
inductive FrameResult (O : Type) where
  | call (gas : Gas) (wasPrecompileCalled : Bool) (output : O)
  | create (gas : Gas) (output : O)

/-- The gas of a frame. -/
def FrameResult.gas {O : Type} : FrameResult O → Gas
  | .call gas _ _ => gas
  | .create gas _ => gas

/-- What the interpreter leaves when its loop ends. -/
inductive InterpreterAction (I O : Type) where
  | newFrame (input : FrameInput I)
  | return (gas : Gas) (output : O)

/-- The frame opens another. -/
def InterpreterAction.isNewFrame {I O : Type} : InterpreterAction I O → Bool
  | .newFrame _ => true
  | .return _ _ => false

/-- A frame, or the result of one. -/
inductive ItemOrResult (I R : Type) where
  | item (item : I)
  | result (result : R)

/-- A call frame: its interpreter, its input, and whether it has returned. -/
structure Frame (I T : Type) where
  interpreter : T
  input : FrameInput I
  isFinished : Bool

/-- A log. -/
structure Log where
  address : Address
  topics : List B256
  data : Bytes
  deriving DecidableEq, Repr

/-- The outcome of an executed transaction, as receipts record it. -/
structure ExecutionResult where
  success : Bool
  txGasUsed : U64
  logs : List Log
  deriving DecidableEq, Repr

/-- The interpreter and the parts of the transaction handler that Taiko does not
replace. -/
structure Revm where
  /-- The journal contents only the interpreter reads. -/
  Scratch : Type
  Interpreter : Type
  Input : Type
  Output : Type
  InstructionResult : Type
  InitialGas : Type
  /-- The journal contents before a transaction. -/
  scratch : Scratch
  opcode : Interpreter → U8
  gasRemaining : Interpreter → U64
  action : Interpreter → Option (InterpreterAction Input Output)
  /-- Executes one opcode; an error ends the loop. -/
  step : Env → Interpreter → Context Scratch →
    Except InstructionResult Unit × Interpreter × Context Scratch
  /-- Leaves the action of an exceptional halt, all gas spent where the halt says so. -/
  halt : Interpreter → InstructionResult → Interpreter
  haltFatal : Interpreter → Interpreter
  takeNextAction : Interpreter → InterpreterAction Input Output × Interpreter
  /-- Opens a frame, or answers it at once (a precompile, an empty account). -/
  initWithContext : Env → Context Scratch → FrameInput Input →
    Except ContextError (ItemOrResult (Frame Input Interpreter) (FrameResult Output)) ×
      Context Scratch
  /-- Turns the action a loop ended with into a child frame or a result. -/
  processNextAction : Env → Frame Input Interpreter → Context Scratch →
    InterpreterAction Input Output →
    Except ContextError (ItemOrResult (FrameInput Input) (FrameResult Output)) ×
      Frame Input Interpreter × Context Scratch
  /-- Hands a child's result to the frame that opened it. -/
  returnResult : Env → Frame Input Interpreter → Context Scratch → FrameResult Output →
    Except ContextError Unit × Frame Input Interpreter × Context Scratch
  /-- The checks of a transaction against the block and its own fields. -/
  validate : Env → Except EVMError InitialGas
  validateAccountNonceAndCode : AccountInfo → TxEnv → CfgEnv → Except InvalidTransaction Unit
  loadAccounts : Env → Context Scratch → Except EVMError (Context Scratch)
  /-- Applies the authorizations of a transaction, with the refund they earn. -/
  applyEip7702AuthList : Env → Context Scratch → Except EVMError (U64 × Context Scratch)
  firstFrameInput : Env → Context Scratch → InitialGas →
    Except EVMError (FrameInput Input × Context Scratch)
  /-- The final gas of a transaction: the refund settled and the floor applied. -/
  settleGas : Env → InitialGas → U64 → FrameResult Output → FrameResult Output
  executionResult : Env → Context Scratch → FrameResult Output → ExecutionResult
  /-- The bound on interpreter steps of one transaction. -/
  fuel : ℕ

end AlethiaReth
