import AlethiaReth.Consensus.Anchor
import AlethiaReth.Consensus.Eip4396

/-!
Header validation: the checks of a header alone (`validateHeader_eq_ok`), and those against the
parent, with the base fee that needs the time of the grandparent from a block reader
(`expectedBaseFee_computable_iff`).
-/

namespace AlethiaReth

open MachineInt Outcome

/-! ### A header alone -/

variable (spec : TaikoChainSpec)

/-- The most bytes of extra data. -/
def maximumExtraDataSize : ℕ := 32

/-- The largest gas limit of a block. -/
def maximumGasLimitBlock : U64 := 0x7fffffffffffffff

/-- The extra data is not too long. -/
def validateHeaderExtraData (header : Header) (maxSize : ℕ) : Except ConsensusError Unit :=
  ensure (header.extraData.length ≤ maxSize) (.extraDataExceedsMax header.extraData.length)

/-- The gas used is within the limit, and that within its own. -/
def validateHeaderGas (header : Header) : Except ConsensusError Unit := do
  ensure (header.gasUsed ≤ header.gasLimit)
    (.headerGasUsedExceedsGasLimit header.gasUsed header.gasLimit)
  ensure (header.gasLimit ≤ maximumGasLimitBlock) (.headerGasLimitExceedsMax header.gasLimit)

/-- London is active from genesis on every Taiko network. -/
def validateHeaderBaseFee (header : Header) : Except ConsensusError Unit :=
  ensure (header.baseFeePerGas.isSome = true) .baseFeeMissing

/-- The checks of a header alone. -/
def validateHeader (header : Header) : Except ConsensusError Unit := do
  ensure (spec.isUnzenActive header.timestamp = true ∨ header.difficulty = 0)
    .theMergeDifficultyIsNotZero
  ensure (header.nonce = some 0) .theMergeNonceIsNotZero
  ensure (header.ommersHash = emptyOmmerRootHash) .theMergeOmmerRootIsNotEmpty
  validateHeaderExtraData header maximumExtraDataSize
  ensure (spec.isShastaActive header.timestamp = false ∨
      header.extraData.length = shastaExtraDataLen)
    (.msg ("invalid Shasta extra-data length: have " ++ reprStr header.extraData.length
      ++ ", want " ++ reprStr shastaExtraDataLen))
  ensure (spec.isAmsterdamActiveAtTimestamp header.timestamp = false)
    (.msg ("cannot validate a Taiko header with the Amsterdam fork active: EIP-7928 block access "
      ++ "lists are unsupported"))
  ensure (header.blockAccessListHash = none) .blockAccessListHashUnexpected
  ensure (header.slotNumber = none) .slotNumberUnexpected
  validateHeaderGas header
  validateHeaderBaseFee header

/-- What the checks of a header amount to. -/
structure ValidHeader (spec : TaikoChainSpec) (header : Header) : Prop where
  difficulty : spec.isUnzenActive header.timestamp = true ∨ header.difficulty = 0
  nonce : header.nonce = some 0
  ommersHash : header.ommersHash = emptyOmmerRootHash
  extraData : header.extraData.length ≤ maximumExtraDataSize
  shastaExtraData : spec.isShastaActive header.timestamp = false ∨
    header.extraData.length = shastaExtraDataLen
  amsterdam : spec.isAmsterdamActiveAtTimestamp header.timestamp = false
  blockAccessListHash : header.blockAccessListHash = none
  slotNumber : header.slotNumber = none
  gasUsed : header.gasUsed ≤ header.gasLimit
  gasLimit : header.gasLimit ≤ maximumGasLimitBlock
  baseFee : header.baseFeePerGas.isSome = true

/-- The checks pass exactly the valid headers. -/
theorem validateHeader_eq_ok {spec : TaikoChainSpec} {header : Header} :
    validateHeader spec header = .ok () ↔ ValidHeader spec header := by
  simp only [validateHeader, validateHeaderExtraData, validateHeaderGas, validateHeaderBaseFee,
    bind_assoc, ensure_bind_eq_ok, ensure_eq_ok]
  refine ⟨?_, fun h => ?_⟩
  · rintro ⟨hdifficulty, hnonce, hommers, hextra, hshasta, hamsterdam, haccess, hslot, hused,
      hlimit, hbase⟩
    exact ⟨hdifficulty, hnonce, hommers, hextra, hshasta, hamsterdam, haccess, hslot, hused,
      hlimit, hbase⟩
  · exact ⟨h.difficulty, h.nonce, h.ommersHash, h.extraData, h.shastaExtraData, h.amsterdam,
      h.blockAccessListHash, h.slotNumber, h.gasUsed, h.gasLimit, h.baseFee⟩

/-! ### A header and its parent -/

/-- The timestamp of the block with a hash, where there is one. -/
abbrev TaikoBlockReader := B256 → Option U64

/-- The main network. -/
def taikoMainnetChainId : U64 := 167000

/-- The least base fee of a network. -/
def minBaseFeeToClamp : U64 :=
  if spec.chainId = taikoMainnetChainId then mainnetMinBaseFee else minBaseFee

/-- The header is linked to its parent. -/
def validateAgainstParentHashNumber (header : Header) (parent : SealedHeader) :
    Except ConsensusError Unit := do
  ensure (parent.hash = header.parentHash) (.parentHashMismatch header.parentHash parent.hash)
  match checkedAdd parent.header.number 1 with
  | none => .error (.parentBlockNumberMismatch parent.header.number header.number)
  | some number =>
    ensure (number = header.number)
      (.parentBlockNumberMismatch parent.header.number header.number)

section

variable (checks : OverflowChecks) (reader : TaikoBlockReader) (spec : TaikoChainSpec)

/-- The time between the parent and its own parent. -/
def parentBlockTime (parent : Header) : Except Panic (Except ConsensusError U64) :=
  match reader parent.parentHash with
  | none => .ok (.error (.parentUnknown parent.parentHash))
  | some timestamp => do pure (.ok (← plainSub checks parent.timestamp timestamp))

/-- The base fee a Shasta header must have.  Without the grandparent's timestamp it is
the one the header has. -/
def expectedBaseFee (parent : Header) (headerBaseFee : U64) :
    Except Panic (Except ConsensusError U64) :=
  if parent.number = 0 then
    .ok (.ok shastaInitialBaseFee)
  else
    match parent.baseFeePerGas with
    | none => .ok (.error .baseFeeMissing)
    | some parentBaseFee => do
      match ← parentBlockTime checks reader parent with
      | .error _ => pure (.ok headerBaseFee)
      | .ok blockTime =>
        let fee ← calculateNextBlockEip4396BaseFee checks parent blockTime parentBaseFee
          (minBaseFeeToClamp spec)
        pure (.ok fee)

/-- The checks of a header and its parent. -/
def validateHeaderAgainstParent (header : Header) (parent : SealedHeader) :
    Except Panic (Except ConsensusError Unit) :=
  match validateAgainstParentHashNumber header parent with
  | .error error => .ok (.error error)
  | .ok () =>
    match header.baseFeePerGas with
    | none => .ok (.error .baseFeeMissing)
    | some headerBaseFee =>
      if spec.isShastaActive header.timestamp then
        if header.timestamp ≤ parent.header.timestamp then
          .ok (.error (.timestampIsInPast parent.header.timestamp header.timestamp))
        else do
          match ← expectedBaseFee checks reader spec parent.header headerBaseFee with
          | .error error => pure (.error error)
          | .ok expected =>
            pure (ensure (headerBaseFee = expected) (.baseFeeDiff headerBaseFee expected))
      else if header.timestamp < parent.header.timestamp then
        .ok (.error (.timestampIsInPast parent.header.timestamp header.timestamp))
      else
        .ok (.ok ())

end

/-- The least base fee is within the bounds on every network. -/
lemma minBaseFeeToClamp_le :
    (minBaseFeeToClamp spec).toNat ≤ maxBaseFee.toNat := by
  rw [minBaseFeeToClamp]
  split <;> decide

lemma parentBlockTime_eq_ok (checks : OverflowChecks) {reader : TaikoBlockReader}
    {parent : Header} {timestamp : U64} (hreader : reader parent.parentHash = some timestamp)
    (hle : timestamp.toNat ≤ parent.timestamp.toNat) :
    parentBlockTime checks reader parent = .ok (.ok (parent.timestamp - timestamp)) := by
  rw [parentBlockTime, hreader]
  dsimp only
  rw [plainSub_eq_ok_of_le checks hle]
  rfl

/-- For a valid parent and a grandparent that is not later, both builds compute the
base fee of the child, and compute the exact one, exactly where it fits. -/
theorem expectedBaseFee_computable_iff {spec : TaikoChainSpec} {reader : TaikoBlockReader}
    {parent : Header} {parentBaseFee grandparentTimestamp : U64} (headerBaseFee : U64)
    (hparent : validateHeader spec parent = .ok ())
    (hfee : parent.baseFeePerGas = some parentBaseFee)
    (hreader : reader parent.parentHash = some grandparentTimestamp)
    (hle : grandparentTimestamp.toNat ≤ parent.timestamp.toNat) :
    (∀ checks, ∃ fee, expectedBaseFee checks reader spec parent headerBaseFee = .ok (.ok fee) ∧
      fee.toNat = eip4396BaseFee parent (parent.timestamp.toNat - grandparentTimestamp.toNat)
        parentBaseFee.toNat (minBaseFeeToClamp spec).toNat) ↔
      BaseFeeFits parent (parent.timestamp.toNat - grandparentTimestamp.toNat) := by
  have hvalid := validateHeader_eq_ok.mp hparent
  have hused : parent.gasUsed.toNat ≤ parent.gasLimit.toNat := BitVec.le_def.mp hvalid.gasUsed
  have htime : (parent.timestamp - grandparentTimestamp).toNat
      = parent.timestamp.toNat - grandparentTimestamp.toNat :=
    BitVec.toNat_sub_of_le (BitVec.le_def.mpr hle)
  refine ⟨fun h => ?_, fun hfits checks => ?_⟩
  · by_cases hgenesis : parent.number = 0
    · exact .inl hgenesis
    -- a checked build tells whether the products fit
    · obtain ⟨fee, hcomputed, -⟩ := h .on
      rw [expectedBaseFee, if_neg hgenesis, hfee] at hcomputed
      dsimp only at hcomputed
      rw [parentBlockTime_eq_ok .on hreader hle] at hcomputed
      obtain ⟨blockTime, ⟨⟩, hcomputed⟩ := bind_eq_ok.mp hcomputed
      obtain ⟨fee', hcalculated, -⟩ := bind_eq_ok.mp hcomputed
      rw [← htime]
      exact baseFeeFits_of_on hcalculated
  · rw [← htime] at hfits ⊢
    obtain ⟨fee, hcalculated, hfeeNat⟩ :=
      calculateNextBlock_eq checks hused (minBaseFeeToClamp_le spec) parentBaseFee hfits
    refine ⟨fee, ?_, hfeeNat⟩
    rw [expectedBaseFee]
    by_cases hgenesis : parent.number = 0
    · rw [if_pos hgenesis]
      rw [calculateNextBlockEip4396BaseFee, if_pos hgenesis] at hcalculated
      cases hcalculated
      rfl
    · rw [if_neg hgenesis, hfee]
      dsimp only
      rw [parentBlockTime_eq_ok checks hreader hle]
      dsimp only [bind, Except.bind]
      rw [hcalculated]
      rfl

/-- A parent with a gas limit and gas used given, else as plain as can be. -/
def plainParent (gasLimit gasUsed : U64) : Header where
  parentHash := 7
  ommersHash := emptyOmmerRootHash
  beneficiary := 0
  transactionsRoot := 0
  receiptsRoot := 0
  difficulty := 0
  number := 5
  gasLimit := gasLimit
  gasUsed := gasUsed
  timestamp := 100
  extraData := [0, 0, 0, 0, 0, 0, 0]
  nonce := some 0
  baseFeePerGas := some 25000000
  blockAccessListHash := none
  slotNumber := none

/-- A chain with Shasta from the start and no Unzen. -/
def shastaSpec : TaikoChainSpec where
  chainId := 167000
  ontake := .block 0
  pacaya := .block 0
  shasta := .timestamp 0
  unzen := .never

/-- A full parent with room for one gas is valid, and the base fee of its child divides
by zero in both builds; one with a large gas limit is valid, and the product of its gas
target leaves the range. -/
theorem expectedBaseFee_panics :
    validateHeader shastaSpec (plainParent 1 1) = .ok () ∧
    (∀ checks, expectedBaseFee checks (fun _ => some 98) shastaSpec (plainParent 1 1) 25000000
      = .error .divideByZero) ∧
    validateHeader shastaSpec (plainParent 0x7fffffffffffffff 0) = .ok () ∧
    expectedBaseFee .on (fun _ => some 98) shastaSpec (plainParent 0x7fffffffffffffff 0) 25000000
      = .error .overflow := by
  refine ⟨by decide, fun checks => ?_, by decide, by decide⟩
  cases checks <;> decide

/-- A half-full parent that took two seconds keeps the base fee. -/
theorem expectedBaseFee_computable_plainParent :
    validateHeader shastaSpec (plainParent 30000000 15000000) = .ok () ∧
    ∀ checks, ∃ fee, expectedBaseFee checks (fun _ => some 98) shastaSpec
        (plainParent 30000000 15000000) 25000000 = .ok (.ok fee) ∧
      fee.toNat = eip4396BaseFee (plainParent 30000000 15000000) 2 25000000 10000000 :=
  ⟨by decide, (@expectedBaseFee_computable_iff shastaSpec (fun _ => some 98)
    (plainParent 30000000 15000000) 25000000 98 25000000 (by decide) rfl rfl (by decide)).mpr
      (.inr ⟨by decide, by decide, by decide⟩)⟩

end AlethiaReth
