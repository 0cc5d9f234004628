import AlethiaReth.Primitives

/-!
The error text of a call frame, as the pipeline expects it from Geth.
-/

namespace AlethiaReth.Debank

open MachineInt

/-- How a frame ended. -/
inductive InstructionResult where
  | stop
  | return
  | selfDestruct
  | revert
  | callTooDeep
  | outOfFunds
  | createInitCodeStartingEF00
  | outOfGas
  | memoryOOG
  | memoryLimitOOG
  | precompileOOG
  | invalidOperandOOG
  | reentrancySentryOOG
  | opcodeNotFound
  | callNotAllowedInsideStatic
  | stateChangeDuringStaticCall
  | invalidFEOpcode
  | invalidJump
  | notActivated
  | stackUnderflow
  | stackOverflow
  | outOfOffset
  | createCollision
  | overflowPayment
  | precompileError
  | nonceOverflow
  | createContractSizeLimit
  | createContractStartingWithEF
  | createInitCodeSizeLimit
  | fatalExternalError
  deriving DecidableEq, Repr

/-- The frame succeeded. -/
def InstructionResult.isOk : InstructionResult → Bool
  | .stop | .return | .selfDestruct => true
  | _ => false

/-- The frame reverted. -/
def InstructionResult.isRevert : InstructionResult → Bool
  | .revert | .callTooDeep | .outOfFunds | .createInitCodeStartingEF00 => true
  | _ => false

/-- Endings whose text depends on the instruction that failed. -/
def requiresExactError : InstructionResult → Bool
  | .opcodeNotFound | .invalidFEOpcode | .notActivated | .stackUnderflow | .stackOverflow
  | .precompileError => true
  | _ => false

/-! ### Revert reasons -/

/-- The width of a character by its first byte, zero for one that starts none. -/
def utf8CharWidth (byte : U8) : ℕ :=
  if byte < 0x80 then 1
  else if 0xc2 ≤ byte ∧ byte ≤ 0xdf then 2
  else if 0xe0 ≤ byte ∧ byte ≤ 0xef then 3
  else if 0xf0 ≤ byte ∧ byte ≤ 0xf4 then 4
  else 0

/-- A byte inside a character. -/
def isContinuation (byte : U8) : Bool := 0x80 ≤ byte && byte ≤ 0xbf

/-- The second bytes that may follow a first byte: the longer forms leave out what a shorter
one has, the surrogates, and what is past the last character. -/
def isSecondByte (first second : U8) : Bool :=
  if first = 0xe0 then 0xa0 ≤ second && second ≤ 0xbf
  else if first = 0xed then 0x80 ≤ second && second ≤ 0x9f
  else if first = 0xf0 then 0x90 ≤ second && second ≤ 0xbf
  else if first = 0xf4 then 0x80 ≤ second && second ≤ 0x8f
  else isContinuation second

/-- How many bytes at the front belong together, and whether they are a character: as many as
continue one, up to its width. -/
def utf8Prefix (bytes : Bytes) : ℕ × Bool :=
  match bytes with
  | [] => (0, true)
  | first :: rest =>
    let width := utf8CharWidth first
    if width = 0 then (1, false)
    else if width = 1 then (1, true)
    else
      match rest with
      | [] => (1, false)
      | second :: rest =>
        if isSecondByte first second then
          let more := ((rest.take (width - 2)).takeWhile isContinuation).length
          (2 + more, more = width - 2)
        else (1, false)

/-- The character that bytes encode, by the payload bits of each. -/
def utf8Char (bytes : Bytes) : Char :=
  match bytes with
  | [] => '�'
  | [first] => Char.ofNat first.toNat
  | first :: rest =>
    Char.ofNat (rest.foldl (fun acc byte => acc * 64 + byte.toNat % 64)
      (first.toNat % 2 ^ (6 - rest.length)))

/-- The characters of a string, one replacement character for each byte of a part that is
none. -/
def decodeGoJsonChars : ℕ → Bytes → List Char
  | 0, _ => []
  | _, [] => []
  | fuel + 1, bytes =>
    let (count, valid) := utf8Prefix bytes
    (if valid then [utf8Char (bytes.take count)] else List.replicate count '�')
      ++ decodeGoJsonChars fuel (bytes.drop count)

/-- Bytes as Go prints them in JSON. -/
def decodeGoJsonString (input : Bytes) : String :=
  String.ofList (decodeGoJsonChars input.length input)

/-- The lower-case hexadecimal digits of a number, with the prefix. -/
def hexNumber (n : ℕ) : String := "0x" ++ String.ofList (Nat.toDigits 16 n)

/-- The text of a panic code. -/
def panicReason (code : ℕ) : String :=
  match code with
  | 0x00 => "generic panic"
  | 0x01 => "assert(false)"
  | 0x11 => "arithmetic underflow or overflow"
  | 0x12 => "division or modulo by zero"
  | 0x21 => "enum overflow"
  | 0x22 => "invalid encoded storage byte array accessed"
  | 0x31 => "out-of-bounds array access; popping on an empty array"
  | 0x32 => "out-of-bounds access of an array or bytesN"
  | 0x41 => "out of memory"
  | 0x51 => "uninitialized function"
  | code => "unknown panic code: " ++ hexNumber code

/-- The bytes from one offset to another, where there are as many. -/
def slice (bytes : Bytes) (start stop : ℕ) : Option Bytes :=
  if start ≤ stop ∧ stop ≤ bytes.length then some ((bytes.drop start).take (stop - start))
  else none

/-- A number that fits a machine word. -/
def toUsize (n : ℕ) : Option ℕ := if n < 2 ^ 64 then some n else none

/-- The reason that revert data carry. -/
def decodeRevertReason (output : Bytes) : Option String :=
  if output.length < 4 then none
  else if output.take 4 = [0x4e, 0x48, 0x7b, 0x71] then
    (slice output 4 36).map fun code => panicReason (beNat code)
  else if output.length < 68 ∨ output.take 4 ≠ [0x08, 0xc3, 0x79, 0xa0] then none
  else do
    let offset ← (slice output 4 36).bind fun bytes => toUsize (beNat bytes)
    let lengthOffset ← toUsize (4 + offset)
    let dataOffset ← toUsize (lengthOffset + 32)
    let length ← (slice output lengthOffset dataOffset).bind fun bytes => toUsize (beNat bytes)
    let stop ← toUsize (dataOffset + length)
    (slice output dataOffset stop).map decodeGoJsonString

/-! ### Texts -/

/-- The text of an ending, none for a success. -/
def formatError (result : InstructionResult) (output : Bytes) :
    Except InstructionResult (Option String) :=
  if result.isOk then .ok none
  else
    match result with
    | .revert =>
      match (decodeRevertReason output).filter (· ≠ "") with
      | some reason => .ok (some ("execution reverted: " ++ reason))
      | none => .ok (some "execution reverted")
    | .outOfGas | .precompileOOG | .memoryOOG | .memoryLimitOOG => .ok (some "out of gas")
    | .reentrancySentryOOG => .ok (some "out of gas: not enough gas for reentrancy sentry")
    | .invalidOperandOOG => .ok (some "gas uint64 overflow")
    | .callTooDeep => .ok (some "max call depth exceeded")
    | .outOfFunds => .ok (some "insufficient balance for transfer")
    | .invalidFEOpcode => .ok (some "invalid opcode: INVALID")
    | .callNotAllowedInsideStatic | .stateChangeDuringStaticCall => .ok (some "write protection")
    | .invalidJump => .ok (some "invalid jump destination")
    | .outOfOffset => .ok (some "return data out of bounds")
    | .createCollision => .ok (some "contract address collision")
    | .nonceOverflow => .ok (some "nonce uint64 overflow")
    | .createContractSizeLimit => .ok (some "max code size exceeded")
    | .createContractStartingWithEF => .ok (some "invalid code: must not begin with 0xef")
    | .createInitCodeSizeLimit => .ok (some "max initcode size exceeded")
    | unsupported => .error unsupported

end AlethiaReth.Debank
