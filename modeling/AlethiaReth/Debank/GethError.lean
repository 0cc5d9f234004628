import AlethiaReth.Debank.ErrorText

/-!
The inspector that runs beside the tracer and keeps what Geth's error texts need: the opcode
that ended a frame and the halt of a precompile, which the ending itself no longer tells.
-/

namespace AlethiaReth.Debank

open MachineInt

variable (address : Address)

/-- Neither a success nor a revert. -/
def InstructionResult.isHalt (result : InstructionResult) : Bool :=
  !result.isOk && !result.isRevert

/-! ### Checks before an opcode -/

/-- All Ethereum forks, with those the EVM never runs under. -/
inductive EthSpecId where
  | frontier
  | homestead
  | tangerine
  | spuriousDragon
  | byzantium
  | petersburg
  | istanbul
  | berlin
  | london
  | merge
  | shanghai
  | cancun
  | prague
  | osaka
  | amsterdam
  deriving DecidableEq, Repr

/-- A fork is at or after another. -/
def EthSpecId.isEnabledIn (spec other : EthSpecId) : Bool := other.ctorIdx ≤ spec.ctorIdx

/-- What the table of opcodes says of one. -/
structure OpCode where
  name : String
  inputs : ℕ
  outputs : ℕ

/-- The largest stack. -/
def gethStackLimit : ℕ := 1024

/-- The first fork that has an opcode. -/
def opcodeMinimum (opcode : U8) : EthSpecId :=
  match opcode.toNat with
  | 0xf4 => .homestead
  | 0x3d | 0x3e | 0xfa | 0xfd => .byzantium
  | 0x1b | 0x1c | 0x1d | 0x3f | 0xf5 => .petersburg
  | 0x46 | 0x47 => .istanbul
  | 0x48 => .london
  | 0x5f => .shanghai
  | 0x49 | 0x4a | 0x5c | 0x5d | 0x5e => .cancun
  | 0x1e => .osaka
  | 0x4b | 0xe6 | 0xe7 | 0xe8 => .amsterdam
  | _ => .frontier

/-- The fork has the opcode. -/
def opcodeIsActive (opcode : U8) (spec : EthSpecId) : Bool :=
  spec.isEnabledIn (opcodeMinimum opcode)

/-- What Geth checks before it charges the gas of an opcode. -/
def gethPrecheckError (opcodes : U8 → Option OpCode) (opcode : U8) (spec : EthSpecId)
    (stackLen : ℕ) : Option String :=
  if opcode = 0xfe then some "invalid opcode: INVALID"
  else
    match opcodes opcode with
    | none => some ("invalid opcode: opcode " ++ hexNumber opcode.toNat ++ " not defined")
    | some info =>
      if ¬opcodeIsActive opcode spec then some ("invalid opcode: " ++ info.name)
      else if stackLen < info.inputs then
        some ("stack underflow (" ++ reprStr stackLen ++ " <=> " ++ reprStr info.inputs ++ ")")
      else
        let maximum := gethStackLimit + info.inputs - info.outputs
        if maximum < stackLen then
          some ("stack limit reached " ++ reprStr stackLen ++ " (" ++ reprStr maximum ++ ")")
        else none

/-- What the inspector reads of the interpreter; the stack with its top first. -/
structure Interpreter where
  opcode : U8
  spec : EthSpecId
  stack : List U256
  gasRemaining : U64

/-- What it reads of the context: two gas costs, and which accounts the journal holds as
cold. -/
structure StepContext where
  warmStorageReadCost : U64
  coldAccountAdditionalCost : U64
  addressIsCold : Address → Bool

/-- The text of a call that cannot pay for a target that is cold. -/
def gethDynamicCallError (interp : Interpreter) (context : StepContext) : Option String :=
  if ¬interp.spec.isEnabledIn .berlin ∨ interp.opcode.toNat ∉ [0xf1, 0xf2, 0xf4, 0xfa] then none
  else if interp.gasRemaining < context.warmStorageReadCost then none
  else if context.coldAccountAdditionalCost ≤ interp.gasRemaining - context.warmStorageReadCost
  then none
  else
    match interp.stack[1]? with
    | none => none
    | some word =>
      if context.addressIsCold (word.setWidth 160) then some "out of gas: out of gas" else none

/-! ### Halts of precompiles -/

/-- Why a precompile halted. -/
inductive PrecompileHalt where
  | outOfGas
  | blake2WrongLength
  | blake2WrongFinalIndicatorFlag
  | modexpExpOverflow
  | modexpBaseOverflow
  | modexpModOverflow
  | modexpEip7823LimitSize
  | bn254FieldPointNotAMember
  | bn254AffineGFailedToCreate
  | bn254PairLength
  | blobInvalidInputLength
  | blobMismatchedVersion
  | blobVerifyKzgProofFailed
  | nonCanonicalFp
  | bls12381G1NotOnCurve
  | bls12381G1NotInSubgroup
  | bls12381G2NotOnCurve
  | bls12381G2NotInSubgroup
  | bls12381ScalarInputLength
  | bls12381G1AddInputLength
  | bls12381G1MsmInputLength
  | bls12381G2AddInputLength
  | bls12381G2MsmInputLength
  | bls12381PairingInputLength
  | bls12381MapFpToG1InputLength
  | bls12381MapFp2ToG2InputLength
  | bls12381FpPaddingInvalid
  | bls12381FpPaddingLength
  | bls12381G1PaddingLength
  | bls12381G2PaddingLength
  | kzgInvalidG1Point
  | kzgG1PointNotOnCurve
  | kzgG1PointNotInSubgroup
  | kzgInvalidInputLength
  | secp256k1RecoverFailed
  | other (detail : String)
  deriving DecidableEq, Repr

/-- A precompile that halted. -/
structure CapturedPrecompileError where
  address : Address
  input : Bytes
  halt : PrecompileHalt
  deriving DecidableEq, Repr

variable (error : CapturedPrecompileError)

/-- What can go wrong with the callbacks of a transaction, with the data of its text. -/
inductive GethFault where
  | frameStartedBeforeStepEnd
  | stepWithoutFrame
  | stepBeforeStepEnd
  | stepEndWithoutStep
  | precheckWithoutHalt (opcode : U8)
  | stepEndWithoutFrame
  | duplicateOpcodeError (nodeIndex : ℕ)
  | lostContext (opcode : U8)
  | precompileWithoutHalt (address : Address)
  | precompileMismatch (captured ending : Address)
  | precompileUnavailable (address : Address) (halt : PrecompileHalt)
  | bn254UnexpectedPrecompile (address : Address)
  | bn254NoCoordinate (address : Address)
  | precompileWithoutFrame
  | duplicateError (nodeIndex : ℕ)
  | frameEndedBeforeStepEnd
  | frameEndedWithoutStart
  | errorWithoutHalt (nodeIndex : ℕ) (result : InstructionResult)
  | endedWithoutError (nodeIndex : ℕ) (result : InstructionResult)
  | unfinishedStep
  | activeFrames (count : ℕ)
  | nodeCount (recorded expected : ℕ)
  | unmatchedPrecompileErrors (count : ℕ)
  deriving DecidableEq, Repr

/-- The modulus of the field of bn254. -/
def bn254FieldModulus : ℕ :=
  0x30644e72e131a029b85045b68181585d97816a916871ca8d3c208c16d87cfd47

/-- The coordinate at an offset, with zeros for what the input lacks. -/
def bn254Coordinate (input : Bytes) (offset : ℕ) : ℕ :=
  let bytes := (input.drop offset).take 32
  beNat (bytes ++ List.replicate (32 - bytes.length) 0)

/-- The text of the first coordinate that is out of range. -/
def gethBn254FieldError (input : Bytes) : Except GethFault String := do
  let coordinateBytes ←
    if address = 0x06 then .ok 128
    else if address = 0x07 then .ok 64
    else if address = 0x08 then .ok input.length
    else .error (.bn254UnexpectedPrecompile address)
  let texts := (List.range ((coordinateBytes + 31) / 32)).filterMap fun i =>
    match compare (bn254Coordinate input (32 * i)) bn254FieldModulus with
    | .gt => some "bn256: coordinate exceeds modulus"
    | .eq => some "bn256: coordinate equals modulus"
    | .lt => none
  match texts with
  | text :: _ => .ok text
  | [] => .error (.bn254NoCoordinate address)

/-- The address is one of EIP-2537. -/
def isBlsPrecompile : Bool := 0x0b ≤ address.toNat && address.toNat ≤ 0x11

/-- The text Geth has for a halt. -/
def gethPrecompileError : Except GethFault String :=
  match error.halt with
  | .blake2WrongLength => .ok "invalid input length"
  | .blake2WrongFinalIndicatorFlag => .ok "invalid final flag"
  | .modexpEip7823LimitSize =>
    .ok "one or more of base/exponent/modulus length exceeded 1024 bytes"
  | .bn254FieldPointNotAMember => gethBn254FieldError error.address error.input
  | .bn254AffineGFailedToCreate => .ok "bn256: malformed point"
  | .bn254PairLength => .ok "bad elliptic curve pairing size"
  | .blobInvalidInputLength => .ok "invalid input length"
  | .blobMismatchedVersion => .ok "mismatched versioned hash"
  | .blobVerifyKzgProofFailed => .ok "error verifying kzg proof"
  | .nonCanonicalFp =>
    if isBlsPrecompile error.address then .ok "invalid fp.Element encoding"
    else .error (.precompileUnavailable error.address error.halt)
  | .bls12381G1NotOnCurve | .bls12381G2NotOnCurve => .ok "invalid point: not on curve"
  | .bls12381G1NotInSubgroup => .ok "g1 point is not on correct subgroup"
  | .bls12381G2NotInSubgroup => .ok "g2 point is not on correct subgroup"
  | .bls12381ScalarInputLength | .bls12381G1AddInputLength | .bls12381G1MsmInputLength
  | .bls12381G2AddInputLength | .bls12381G2MsmInputLength | .bls12381PairingInputLength
  | .bls12381MapFpToG1InputLength | .bls12381MapFp2ToG2InputLength => .ok "invalid input length"
  | .bls12381FpPaddingInvalid => .ok "invalid field element top bytes"
  | .bls12381FpPaddingLength => .ok "invalid field element length"
  | .bls12381G1PaddingLength => .ok "invalid g1 point length"
  | .bls12381G2PaddingLength => .ok "invalid g2 point length"
  | .kzgInvalidG1Point | .kzgG1PointNotOnCurve | .kzgG1PointNotInSubgroup
  | .kzgInvalidInputLength | .modexpExpOverflow | .modexpBaseOverflow | .modexpModOverflow
  | .secp256k1RecoverFailed | .other _ | .outOfGas =>
    .error (.precompileUnavailable error.address error.halt)

/-- What the wrapper of the precompiles keeps of a halt: the ones out of gas need no text. -/
def capture : List CapturedPrecompileError :=
  if error.halt = .outOfGas then [] else [error]

/-! ### The inspector -/

/-- A frame that is open. -/
structure FrameCapture where
  nodeIndex : ℕ
  exactError : Option String
  deriving DecidableEq, Repr

/-- A step that has begun. -/
structure PendingStep where
  opcode : U8
  precheckError : Option String
  dynamicError : Option String
  deriving DecidableEq, Repr

/-- The text of a step that ended so, if it has one. -/
def PendingStep.exactError (pending : PendingStep) (result : Option InstructionResult) :
    Option String :=
  match pending.precheckError with
  | some text => some text
  | none => if result = some .outOfGas then pending.dynamicError else none

/-- The frames with the innermost first. -/
structure GethErrorInspector where
  frames : List FrameCapture := []
  errors : List (Option String) := []
  pendingStep : Option PendingStep := none
  precompileErrors : List CapturedPrecompileError := []
  fault : Option GethFault := none
  deriving DecidableEq, Repr

namespace GethErrorInspector

variable (s : GethErrorInspector) (opcodes : U8 → Option OpCode)

/-- Only the first fault is kept. -/
def recordFault (detail : GethFault) : GethErrorInspector :=
  if s.fault.isNone then { s with fault := some detail } else s

/-- Records a fault under a condition. -/
def recordFaultIf (condition : Bool) (detail : GethFault) :
    GethErrorInspector :=
  if condition then s.recordFault detail else s

/-- A frame begins. -/
def startFrame : GethErrorInspector :=
  let s := s.recordFaultIf s.pendingStep.isSome .frameStartedBeforeStepEnd
  { s with
    errors := s.errors ++ [none]
    frames := { nodeIndex := s.errors.length, exactError := none } :: s.frames }

/-- What is kept of an opcode until its end. -/
def pendingStepOf (interp : Interpreter) (context : StepContext) : PendingStep :=
  let precheckError := gethPrecheckError opcodes interp.opcode interp.spec interp.stack.length
  { opcode := interp.opcode
    dynamicError :=
      if precheckError.isNone then gethDynamicCallError interp context else none
    precheckError := precheckError }

/-- A step begins. -/
def inspectStep (s : GethErrorInspector) (interp : Interpreter) (context : StepContext) :
    GethErrorInspector :=
  if s.frames.isEmpty then s.recordFault .stepWithoutFrame
  else if s.pendingStep.isSome then s.recordFault .stepBeforeStepEnd
  else { s with pendingStep := some (pendingStepOf opcodes interp context) }

/-- Writes a text to the innermost frame, which must exist and have none yet. -/
def replaceExactError (exactError : String) (noFrame : GethFault) (duplicate : ℕ → GethFault) :
    GethErrorInspector :=
  match s.frames with
  | [] => s.recordFault noFrame
  | frame :: frames =>
    let replaced := { s with frames := { frame with exactError := some exactError } :: frames }
    if frame.exactError.isSome then replaced.recordFault (duplicate frame.nodeIndex)
    else replaced

/-- A step ends. -/
def inspectStepEnd (result : Option InstructionResult) :
    GethErrorInspector :=
  match s.pendingStep with
  | none => s.recordFault .stepEndWithoutStep
  | some pending =>
    let s := { s with pendingStep := none }
    match pending.exactError result with
    | some exactError =>
      if ¬result.any InstructionResult.isHalt then
        s.recordFault (.precheckWithoutHalt pending.opcode)
      else s.replaceExactError exactError .stepEndWithoutFrame .duplicateOpcodeError
    | none =>
      if result.any requiresExactError then s.recordFault (.lostContext pending.opcode)
      else s

/-- A call of a precompile failed. -/
def inspectPrecompileError (bytecodeAddress : Address) :
    GethErrorInspector :=
  match s.precompileErrors with
  | [] => s.recordFault (.precompileWithoutHalt bytecodeAddress)
  | captured :: errors =>
    let s := { s with precompileErrors := errors }
    if captured.address ≠ bytecodeAddress then
      s.recordFault (.precompileMismatch captured.address bytecodeAddress)
    else
      match gethPrecompileError captured with
      | .error detail => s.recordFault detail
      | .ok exactError => s.replaceExactError exactError .precompileWithoutFrame .duplicateError

/-- A frame ends. -/
def endFrame (result : InstructionResult) :
    Except Panic GethErrorInspector :=
  let s := s.recordFaultIf s.pendingStep.isSome .frameEndedBeforeStepEnd
  let s := { s with pendingStep := none }
  match s.frames with
  | [] => .ok (s.recordFault .frameEndedWithoutStart)
  | frame :: frames =>
    let s := { s with frames := frames }
    let s := s.recordFaultIf (frame.exactError.isSome && !result.isHalt)
      (.errorWithoutHalt frame.nodeIndex result)
    let s := s.recordFaultIf (frame.exactError.isNone && requiresExactError result)
      (.endedWithoutError frame.nodeIndex result)
    if frame.nodeIndex < s.errors.length then
      .ok { s with errors := s.errors.set frame.nodeIndex frame.exactError }
    else .error .indexOutOfBounds

/-- The texts of the frames, in the order they were started; on failure too, nothing is left
of the transaction. -/
def finishTransaction (expectedNodes : ℕ) :
    Except GethFault (List (Option String)) × GethErrorInspector :=
  let fault := s.fault
  let fault :=
    if fault.isNone ∧ s.pendingStep.isSome then some .unfinishedStep else fault
  let fault :=
    if fault.isNone ∧ ¬s.frames.isEmpty then some (.activeFrames s.frames.length) else fault
  let fault :=
    if fault.isNone ∧ s.errors.length ≠ expectedNodes then
      some (.nodeCount s.errors.length expectedNodes)
    else fault
  let fault :=
    if fault.isNone ∧ s.precompileErrors.length ≠ 0 then
      some (.unmatchedPrecompileErrors s.precompileErrors.length)
    else fault
  let result := match fault with
    | some detail => .error detail
    | none => .ok s.errors
  (result, { s with
    fault := none, precompileErrors := [], errors := [], frames := [], pendingStep := none })

end GethErrorInspector

/-- What the EVM tells the inspector, and the wrapper of a precompile its recorder. -/
inductive InspectorCallback where
  | call
  | create
  | step (interp : Interpreter) (context : StepContext)
  | stepEnd (result : Option InstructionResult)
  | precompileHalt (error : CapturedPrecompileError)
  | callEnd (bytecodeAddress : Address) (result : InstructionResult)
  | createEnd (result : InstructionResult)

namespace GethErrorInspector

variable (opcodes : U8 → Option OpCode) (s : GethErrorInspector)

/-- One callback. -/
def inspect :
    InspectorCallback → Except Panic GethErrorInspector
  | .call | .create => .ok s.startFrame
  | .step interp context => .ok (s.inspectStep opcodes interp context)
  | .stepEnd result => .ok (s.inspectStepEnd result)
  | .precompileHalt error =>
    .ok { s with precompileErrors := s.precompileErrors ++ capture error }
  | .callEnd bytecodeAddress result =>
    let s :=
      if result = .precompileError then s.inspectPrecompileError bytecodeAddress else s
    s.endFrame result
  | .createEnd result => s.endFrame result

/-- A whole sequence of callbacks. -/
def inspectAll (callbacks : List InspectorCallback) : Except Panic GethErrorInspector :=
  callbacks.foldlM (inspect opcodes) s

end GethErrorInspector

end AlethiaReth.Debank
