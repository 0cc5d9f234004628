import AlethiaReth.Lib.Outcome
import AlethiaReth.Chainspec

/-!
The rules of the anchor transaction, the first transaction of every block: selector, value, gas
limit, tip and sender, in the order they are checked, and what they amount to
(`validateAnchorTransaction_eq_ok`).
-/

namespace AlethiaReth

open MachineInt Outcome

variable (spec : TaikoChainSpec)

/-- The errors of header and block validation.  A message that ends in an address
keeps the two apart, and one that ends in the error of a recovery leaves that out. -/
inductive ConsensusError where
  | theMergeDifficultyIsNotZero
  | theMergeNonceIsNotZero
  | theMergeOmmerRootIsNotEmpty
  | extraDataExceedsMax (len : ℕ)
  | blockAccessListHashUnexpected
  | slotNumberUnexpected
  | headerGasUsedExceedsGasLimit (gasUsed gasLimit : U64)
  | headerGasLimitExceedsMax (gasLimit : U64)
  | baseFeeMissing
  | parentHashMismatch (got expected : B256)
  | parentBlockNumberMismatch (parentBlockNumber blockNumber : U64)
  | timestampIsInPast (parentTimestamp timestamp : U64)
  | baseFeeDiff (got expected : U64)
  | parentUnknown (hash : B256)
  | bodyOmmersHashDiff (got expected : B256)
  | bodyTransactionRootDiff (got expected : B256)
  | blockGasUsed (got expected : U64)
  | bodyReceiptRootDiff (got expected : B256)
  | msg (text : String)
  | msgAddress (text : String) (address : Address)
  | msgRecovery (text : String)
  deriving DecidableEq, Repr

/-! ### Constants -/

/-- The selector of `anchor`. -/
def anchorV1Selector : Bytes := [0xda, 0x69, 0xd3, 0xdb]

/-- The selector of `anchorV2`. -/
def anchorV2Selector : Bytes := [0xfd, 0x85, 0xeb, 0x2d]

/-- The selector of `anchorV3`. -/
def anchorV3Selector : Bytes := [0x48, 0x08, 0x0a, 0x45]

/-- The selector of `anchorV4`. -/
def anchorV4Selector : Bytes := [0x52, 0x3e, 0x68, 0x54]

/-- The gas limit before Pacaya. -/
def anchorV1V2GasLimit : U64 := 250000

/-- The gas limit from Pacaya on. -/
def anchorV3V4GasLimit : U64 := 1000000

/-! ### Validation -/

/-- What the checks read of the block. -/
structure AnchorValidationContext where
  timestamp : U64
  blockNumber : U64
  baseFeePerGas : U64
  deriving DecidableEq, Repr

variable (ctx : AnchorValidationContext)

/-- The selector the fork expects. -/
def anchorSelector : Bytes :=
  if spec.isShastaActive ctx.timestamp then anchorV4Selector
  else if spec.isPacayaActiveAtBlock ctx.blockNumber then anchorV3Selector
  else if spec.isOntakeActiveAtBlock ctx.blockNumber then anchorV2Selector
  else anchorV1Selector

/-- The gas limit the fork expects. -/
def anchorGasLimit : U64 :=
  if spec.isPacayaActiveAtBlock ctx.blockNumber then anchorV3V4GasLimit else anchorV1V2GasLimit

/-- The bytes of a selector as they are printed. -/
def debugBytes (bytes : Bytes) : String :=
  "[" ++ ", ".intercalate (bytes.map fun b => reprStr b.toNat) ++ "]"

/-- The input starts with the selector. -/
def validateInputSelector (input expectedSelector : Bytes) : Except ConsensusError Unit :=
  ensure (expectedSelector <+: input)
    (.msg ("Anchor transaction input data does not match the expected selector: "
      ++ debugBytes expectedSelector))

/-- The checks of an anchor. -/
def validateAnchorTransaction (tx : TransactionSigned) (spec : TaikoChainSpec)
    (ctx : AnchorValidationContext) : Except ConsensusError Unit := do
  validateInputSelector tx.input (anchorSelector spec ctx)
  ensure (tx.value = 0) (.msg "Anchor transaction value must be zero")
  let gasLimit := anchorGasLimit spec ctx
  ensure (tx.gasLimit = gasLimit)
    (.msg ("Anchor transaction gas limit must be " ++ reprStr gasLimit.toNat ++ ", got "
      ++ reprStr tx.gasLimit.toNat))
  match tx.effectiveTipPerGas ctx.baseFeePerGas with
  | none => .error (.msg "Anchor transaction tip must be set to zero")
  | some tip =>
    ensure (tip = 0) (.msg ("Anchor transaction tip must be zero, got " ++ reprStr tip.toNat))
    match tx.recovered with
    | none => .error (.msgRecovery "Anchor transaction sender must be recoverable: ")
    | some sender =>
      ensure (sender = goldenTouch)
        (.msgAddress "Anchor transaction sender must be the treasury address, got " sender)

/-- What the checks of an anchor transaction amount to. -/
structure ValidAnchor (tx : TransactionSigned) (spec : TaikoChainSpec)
    (ctx : AnchorValidationContext) : Prop where
  selector : anchorSelector spec ctx <+: tx.input
  value : tx.value = 0
  gasLimit : tx.gasLimit = anchorGasLimit spec ctx
  tip : tx.effectiveTipPerGas ctx.baseFeePerGas = some 0
  sender : tx.recovered = some goldenTouch

/-- The checks pass exactly the valid anchors. -/
theorem validateAnchorTransaction_eq_ok {tx : TransactionSigned} {spec : TaikoChainSpec}
    {ctx : AnchorValidationContext} :
    validateAnchorTransaction tx spec ctx = .ok () ↔ ValidAnchor tx spec ctx := by
  rw [validateAnchorTransaction, validateInputSelector]
  simp only [ensure_bind_eq_ok]
  refine ⟨?_, fun h => ⟨h.selector, h.value, h.gasLimit, ?_⟩⟩
  · rintro ⟨hselector, hvalue, hgas, hrest⟩
    cases htip : tx.effectiveTipPerGas ctx.baseFeePerGas with
    | none => rw [htip] at hrest; cases hrest
    | some tip =>
      cases hsender : tx.recovered with
      | none => simp [htip, hsender] at hrest
      | some sender =>
        simp only [htip, hsender, ensure_bind_eq_ok, ensure_eq_ok] at hrest
        obtain ⟨rfl, rfl⟩ := hrest
        exact ⟨hselector, hvalue, hgas, htip, hsender⟩
  · rw [h.tip, h.sender]
    simp

/-- The header fields and the transactions anchor validation reads. -/
def validateAnchorTransactionInBlock (timestamp number : U64) (baseFeePerGas : Option U64)
    (transactions : List TransactionSigned) (spec : TaikoChainSpec) :
    Except ConsensusError Unit :=
  match transactions with
  | [] => .ok ()
  | anchor :: _ =>
    match baseFeePerGas with
    | none => .error (.msg "Block base fee per gas must be set")
    | some baseFee => validateAnchorTransaction anchor spec ⟨timestamp, number, baseFee⟩

end AlethiaReth
