import AlethiaReth.Block.Config
import AlethiaReth.Evm.Transfer

/-!
Payload attributes, what the payload builder makes of them, and the identifier of a
payload job, a digest of some of the attributes one after the other.

* `hashedTail_eq_iff`: which parts are hashed alike, where nothing marks the optional ones.
* `payloadId_identifies_iff`: when an identifier tells two jobs apart; five of the values the
  builder reads are not hashed.
-/

namespace AlethiaReth

open MachineInt Outcome ByteString

/-- The attributes of Ethereum. -/
structure EthPayloadAttributes where
  timestamp : U64
  prevRandao : B256
  suggestedFeeRecipient : Address
  withdrawals : Option (List Withdrawal)
  parentBeaconBlockRoot : Option B256
  deriving DecidableEq, Repr

/-- What the driver asks of the block. -/
structure TaikoBlockMetadata where
  beneficiary : Address
  gasLimit : U64
  timestamp : U256
  mixHash : B256
  txList : Option Bytes
  extraData : Bytes
  deriving DecidableEq, Repr

/-- The attributes of a job. -/
structure TaikoPayloadAttributes where
  payloadAttributes : EthPayloadAttributes
  baseFeePerGas : U256
  blockMetadata : TaikoBlockMetadata
  anchorTransaction : Option Bytes
  deriving DecidableEq, Repr

/-- Why bytes are not decoded. -/
inductive RlpError where
  | custom (message : String)
  | malformed
  deriving DecidableEq, Repr

/-- The hashes and codecs of payload jobs.  `truncatedSha256` is the part of the digest an
identifier keeps, all of its first eight bytes but the first. -/
structure PayloadCodec (Digest : Type) where
  keccak256 : Bytes → B256
  truncatedSha256 : Bytes → Digest
  encodeWithdrawals : List Withdrawal → Bytes
  decodeTransactions : Bytes → Except RlpError (List TransactionSigned)
  decodeTransaction : Bytes → Except RlpError TransactionSigned

/-! ### Identifiers -/

/-- The version byte of the `engine_*V2` identifiers. -/
def payloadIdVersionV2 : U8 := 2

/-- The identifier of a job. -/
structure PayloadId (Digest : Type) where
  payloadVersion : U8
  digest : Digest
  deriving DecidableEq, Repr

section

variable {Digest : Type} (codec : PayloadCodec Digest) (attributes : TaikoPayloadAttributes)
  (parent : B256)

/-- The hash of the transaction list, zero where there is none. -/
def TaikoPayloadAttributes.txListHash : B256 :=
  (attributes.blockMetadata.txList.map codec.keccak256).getD 0

/-- What is hashed from the beacon root on. -/
def TaikoPayloadAttributes.hashedFromRoot : Bytes :=
  (attributes.payloadAttributes.parentBeaconBlockRoot.map (beBytes 32)).getD [] ++
    (beBytes 32 (attributes.txListHash codec) ++ attributes.blockMetadata.extraData)

/-- The part of what is hashed whose length is not fixed. -/
def TaikoPayloadAttributes.hashedTail : Bytes :=
  (attributes.payloadAttributes.withdrawals.map codec.encodeWithdrawals).getD [] ++
    attributes.hashedFromRoot codec

/-- The bytes an identifier is the digest of. -/
def payloadIdPreimage (attributes : TaikoPayloadAttributes) : Bytes :=
  beBytes 32 parent ++ (beBytes 8 attributes.payloadAttributes.timestamp ++
    (beBytes 32 attributes.payloadAttributes.prevRandao ++
      (beBytes 20 attributes.payloadAttributes.suggestedFeeRecipient ++
        attributes.hashedTail codec)))

/-- The identifier of attributes on a parent. -/
def payloadIdTaiko (attributes : TaikoPayloadAttributes) (payloadVersion : U8) :
    PayloadId Digest where
  payloadVersion
  digest := codec.truncatedSha256 (payloadIdPreimage codec parent attributes)

/-! ### Payload jobs -/

/-- The attributes as the builder has them. -/
structure TaikoPayloadBuilderAttributes (Digest : Type) where
  id : PayloadId Digest
  parent : B256
  suggestedFeeRecipient : Address
  prevRandao : B256
  withdrawals : List Withdrawal
  parentBeaconBlockRoot : Option B256
  txListHash : B256
  beneficiary : Address
  gasLimit : U64
  timestamp : U64
  mixHash : B256
  baseFeePerGas : U64
  transactions : Option (List Recovered)
  extraData : Bytes
  anchorTransaction : Option Recovered
  deriving DecidableEq, Repr

/-- A transaction with its sender, where that is recovered. -/
def TransactionSigned.tryIntoRecovered (tx : TransactionSigned) : Option Recovered :=
  tx.recovered.map (⟨tx, ·⟩)

/-- A transaction list; what has no sender is dropped. -/
def decodeRecoveredTransactions (bytes : Bytes) : Except RlpError (List Recovered) := do
  let transactions ← codec.decodeTransactions bytes
  pure (transactions.filterMap TransactionSigned.tryIntoRecovered)

/-- Decodes the anchor and recovers its sender. -/
def decodeAnchorTransaction (bytes : Bytes) : Except RlpError Recovered :=
  match codec.decodeTransaction bytes with
  | .error _ => .error (.custom "invalid anchor_transaction")
  | .ok tx =>
    match tx.tryIntoRecovered with
    | none => .error (.custom "anchor tx not recoverable")
    | some recovered => .ok recovered

/-- A 256-bit number in 64 bits, where it fits. -/
def tryToU64 (x : U256) : Option U64 := if x.toNat < 2 ^ 64 then some (x.setWidth 64) else none

/-- The attributes of a job.  A timestamp beyond 64 bits panics. -/
def TaikoPayloadBuilderAttributes.tryNew (attributes : TaikoPayloadAttributes) :
    Except Panic (Except RlpError (TaikoPayloadBuilderAttributes Digest)) :=
  let eth := attributes.payloadAttributes
  let metadata := attributes.blockMetadata
  if eth.parentBeaconBlockRoot.any (· ≠ 0) then
    .ok (.error (.custom "non-zero parent_beacon_block_root is unsupported on Taiko"))
  else
    let id := payloadIdTaiko codec parent attributes payloadIdVersionV2
    let transactions := metadata.txList.map fun bytes =>
      (decodeRecoveredTransactions codec bytes).toOption.getD []
    match attributes.anchorTransaction.mapM (decodeAnchorTransaction codec) with
    | .error error => .ok (.error error)
    | .ok anchorTransaction =>
      match tryToU64 metadata.timestamp with
      | none => .error .overflow
      | some timestamp =>
        match tryToU64 attributes.baseFeePerGas with
        | none => .ok (.error (.custom "invalid attributes.base_fee_per_gas"))
        | some baseFeePerGas =>
          .ok (.ok
            { id
              parent
              suggestedFeeRecipient := eth.suggestedFeeRecipient
              prevRandao := eth.prevRandao
              withdrawals := eth.withdrawals.getD []
              parentBeaconBlockRoot := eth.parentBeaconBlockRoot
              txListHash := attributes.txListHash codec
              beneficiary := metadata.beneficiary
              gasLimit := metadata.gasLimit
              timestamp
              mixHash := eth.prevRandao
              baseFeePerGas
              transactions
              extraData := metadata.extraData
              anchorTransaction })

/-- The values the payload builder makes a block from, besides the parent. -/
structure PayloadInputs where
  beneficiary : Address
  gasLimit : U64
  timestamp : U64
  prevRandao : B256
  baseFeePerGas : U64
  extraData : Bytes
  transactions : Option (List Recovered)
  anchorTransaction : Option Recovered
  deriving DecidableEq, Repr

/-- The values that the builder reads. -/
def TaikoPayloadBuilderAttributes.inputs (attributes : TaikoPayloadBuilderAttributes Digest) :
    PayloadInputs where
  beneficiary := attributes.beneficiary
  gasLimit := attributes.gasLimit
  timestamp := attributes.timestamp
  prevRandao := attributes.mixHash
  baseFeePerGas := attributes.baseFeePerGas
  extraData := attributes.extraData
  transactions := attributes.transactions
  anchorTransaction := attributes.anchorTransaction

/-- The environment the payload builder executes the block in. -/
def TaikoPayloadBuilderAttributes.nextBlockEnv
    (attributes : TaikoPayloadBuilderAttributes Digest) : TaikoNextBlockEnvAttributes where
  timestamp := attributes.timestamp
  suggestedFeeRecipient := attributes.beneficiary
  prevRandao := attributes.mixHash
  gasLimit := attributes.gasLimit
  extraData := attributes.extraData
  baseFeePerGas := attributes.baseFeePerGas
  parentBeaconBlockRoot := attributes.parentBeaconBlockRoot

end

/-! ### What an identifier identifies -/

/-- What two jobs of a parent rely on: no digest of theirs collides, no hash of a list is the
zero that stands for none, and the withdrawals are encoded as a list, which starts with no zero
byte and says where it ends. -/
structure PayloadCodec.Separates {Digest : Type} (codec : PayloadCodec Digest) (parent : B256)
    (a b : TaikoPayloadAttributes) : Prop where
  digest : codec.truncatedSha256 (payloadIdPreimage codec parent a) =
    codec.truncatedSha256 (payloadIdPreimage codec parent b) →
      payloadIdPreimage codec parent a = payloadIdPreimage codec parent b
  keccak : ∀ l ∈ a.blockMetadata.txList, ∀ l' ∈ b.blockMetadata.txList,
    codec.keccak256 l = codec.keccak256 l' → l = l'
  keccak_ne_zero : ∀ l, l ∈ a.blockMetadata.txList ∨ l ∈ b.blockMetadata.txList →
    codec.keccak256 l ≠ 0
  withdrawals : ∀ ws ∈ a.payloadAttributes.withdrawals, ∀ ws' ∈ b.payloadAttributes.withdrawals,
    ∀ s t, codec.encodeWithdrawals ws ++ s = codec.encodeWithdrawals ws' ++ t → ws = ws' ∧ s = t
  header : ∀ ws, ws ∈ a.payloadAttributes.withdrawals ∨ ws ∈ b.payloadAttributes.withdrawals →
    ∃ byte bytes, codec.encodeWithdrawals ws = byte :: bytes ∧ byte ≠ 0

/-- The fields of fixed length that are hashed. -/
structure FixedAlike (a b : TaikoPayloadAttributes) : Prop where
  timestamp : a.payloadAttributes.timestamp = b.payloadAttributes.timestamp
  prevRandao : a.payloadAttributes.prevRandao = b.payloadAttributes.prevRandao
  suggestedFeeRecipient :
    a.payloadAttributes.suggestedFeeRecipient = b.payloadAttributes.suggestedFeeRecipient

/-- The fields that are hashed after them. -/
structure TailAlike (a b : TaikoPayloadAttributes) : Prop where
  withdrawals : a.payloadAttributes.withdrawals = b.payloadAttributes.withdrawals
  parentBeaconBlockRoot :
    a.payloadAttributes.parentBeaconBlockRoot = b.payloadAttributes.parentBeaconBlockRoot
  txList : a.blockMetadata.txList = b.blockMetadata.txList
  extraData : a.blockMetadata.extraData = b.blockMetadata.extraData

/-- The zero root of the one is read as the absent list of the other, which has no root. -/
structure RootSlides {Digest : Type} (codec : PayloadCodec Digest)
    (a b : TaikoPayloadAttributes) : Prop where
  root : a.payloadAttributes.parentBeaconBlockRoot = some 0
  no_root : b.payloadAttributes.parentBeaconBlockRoot = none
  no_list : b.blockMetadata.txList = none
  extraData : b.blockMetadata.extraData =
    beBytes 32 (a.txListHash codec) ++ a.blockMetadata.extraData

/-- The withdrawals of the one are read as the hash of the list of the other, which has neither
withdrawals nor a root. -/
structure WithdrawalsSlide {Digest : Type} (codec : PayloadCodec Digest)
    (a b : TaikoPayloadAttributes) : Prop where
  withdrawals : a.payloadAttributes.withdrawals ≠ none
  no_withdrawals : b.payloadAttributes.withdrawals = none
  no_root : b.payloadAttributes.parentBeaconBlockRoot = none
  list : b.blockMetadata.txList ≠ none
  extraData : beBytes 32 (b.txListHash codec) ++ b.blockMetadata.extraData = a.hashedTail codec

/-- Attributes with different optional parts whose bytes are the same. -/
def Slides {Digest : Type} (codec : PayloadCodec Digest) (a b : TaikoPayloadAttributes) : Prop :=
  a.payloadAttributes.withdrawals = b.payloadAttributes.withdrawals ∧ RootSlides codec a b ∨
    WithdrawalsSlide codec a b

/-- The values the builder reads that are not hashed. -/
structure UnhashedAlike {Digest : Type} (codec : PayloadCodec Digest)
    (a b : TaikoPayloadAttributes) : Prop where
  beneficiary : a.blockMetadata.beneficiary = b.blockMetadata.beneficiary
  gasLimit : a.blockMetadata.gasLimit = b.blockMetadata.gasLimit
  timestamp : a.blockMetadata.timestamp = b.blockMetadata.timestamp
  baseFeePerGas : a.baseFeePerGas = b.baseFeePerGas
  anchorTransaction : a.anchorTransaction.mapM (decodeAnchorTransaction codec) =
    b.anchorTransaction.mapM (decodeAnchorTransaction codec)

section

variable {Digest : Type} {codec : PayloadCodec Digest} {parent : B256}
  {a b : TaikoPayloadAttributes} {job job' : TaikoPayloadBuilderAttributes Digest}

lemma PayloadCodec.Separates.symm (h : codec.Separates parent a b) :
    codec.Separates parent b a where
  digest heq := (h.digest heq.symm).symm
  keccak l hl l' hl' heq := (h.keccak l' hl' l hl heq.symm).symm
  keccak_ne_zero l hl := h.keccak_ne_zero l hl.symm
  withdrawals ws hws ws' hws' s t heq :=
    (h.withdrawals ws' hws' ws hws t s heq.symm).imp Eq.symm Eq.symm
  header ws hws := h.header ws hws.symm

lemma PayloadCodec.Separates.txListHash_eq_zero_iff (h : codec.Separates parent a b) :
    a.txListHash codec = 0 ↔ a.blockMetadata.txList = none := by
  rw [TaikoPayloadAttributes.txListHash]
  cases hlist : a.blockMetadata.txList with
  | none => simp
  | some l => simpa using h.keccak_ne_zero l (.inl hlist)

lemma PayloadCodec.Separates.txListHash_eq_iff (h : codec.Separates parent a b) :
    a.txListHash codec = b.txListHash codec ↔ a.blockMetadata.txList = b.blockMetadata.txList := by
  refine ⟨fun heq => ?_, fun heq => by
    rw [TaikoPayloadAttributes.txListHash, TaikoPayloadAttributes.txListHash, heq]⟩
  cases hlist : a.blockMetadata.txList with
  | none =>
    have hzero := h.txListHash_eq_zero_iff.mpr hlist
    exact (h.symm.txListHash_eq_zero_iff.mp (heq ▸ hzero)).symm
  | some l =>
    cases hlist' : b.blockMetadata.txList with
    | none =>
      have hzero := h.symm.txListHash_eq_zero_iff.mpr hlist'
      exact absurd (h.txListHash_eq_zero_iff.mp (heq ▸ hzero)) (by simp [hlist])
    | some l' =>
      rw [TaikoPayloadAttributes.txListHash, TaikoPayloadAttributes.txListHash, hlist,
        hlist'] at heq
      rw [h.keccak l hlist l' hlist' heq]

lemma RootSlides.hashedFromRoot_eq (h : RootSlides codec a b) :
    a.hashedFromRoot codec = b.hashedFromRoot codec := by
  rw [TaikoPayloadAttributes.hashedFromRoot, TaikoPayloadAttributes.hashedFromRoot,
    TaikoPayloadAttributes.txListHash, TaikoPayloadAttributes.txListHash, h.root, h.no_root,
    h.no_list, h.extraData]
  rfl

/-- From the root on two jobs are hashed alike if they agree, or if a root of one slides. -/
lemma hashedFromRoot_eq_iff (h : codec.Separates parent a b)
    (ha : ZeroRoot a.payloadAttributes.parentBeaconBlockRoot)
    (hb : ZeroRoot b.payloadAttributes.parentBeaconBlockRoot) :
    a.hashedFromRoot codec = b.hashedFromRoot codec ↔
      (a.payloadAttributes.parentBeaconBlockRoot = b.payloadAttributes.parentBeaconBlockRoot ∧
        a.blockMetadata.txList = b.blockMetadata.txList ∧
        a.blockMetadata.extraData = b.blockMetadata.extraData) ∨
      RootSlides codec a b ∨ RootSlides codec b a := by
  -- a root that only one of them has stands where the other has the hash of its list
  have hslides : ∀ {a b : TaikoPayloadAttributes}, codec.Separates parent a b →
      a.payloadAttributes.parentBeaconBlockRoot = some 0 →
      b.payloadAttributes.parentBeaconBlockRoot = none →
      a.hashedFromRoot codec = b.hashedFromRoot codec → RootSlides codec a b := by
    intro a b h ha hb heq
    rw [TaikoPayloadAttributes.hashedFromRoot, TaikoPayloadAttributes.hashedFromRoot, ha, hb,
      Option.map_some, Option.map_none, Option.getD_some, Option.getD_none, List.nil_append,
      append_beBytes_inj] at heq
    exact ⟨ha, hb, h.symm.txListHash_eq_zero_iff.mp heq.1.symm, heq.2.symm⟩
  constructor
  · intro heq
    rcases ha with ha | ha <;> rcases hb with hb | hb
    · rw [TaikoPayloadAttributes.hashedFromRoot, TaikoPayloadAttributes.hashedFromRoot, ha, hb,
        List.append_cancel_left_eq, append_beBytes_inj, h.txListHash_eq_iff] at heq
      exact .inl ⟨ha.trans hb.symm, heq⟩
    · exact .inr (.inr (hslides h.symm hb ha heq.symm))
    · exact .inr (.inl (hslides h ha hb heq))
    · rw [TaikoPayloadAttributes.hashedFromRoot, TaikoPayloadAttributes.hashedFromRoot, ha, hb,
        List.append_cancel_left_eq, append_beBytes_inj, h.txListHash_eq_iff] at heq
      exact .inl ⟨ha.trans hb.symm, heq⟩
  · rintro (⟨hroot, hlist, hextra⟩ | hslides | hslides)
    · rw [TaikoPayloadAttributes.hashedFromRoot, TaikoPayloadAttributes.hashedFromRoot, hroot,
        hextra, h.txListHash_eq_iff.mpr hlist]
    · exact hslides.hashedFromRoot_eq
    · exact hslides.hashedFromRoot_eq.symm

/-- Withdrawals that only one of two jobs has are bytes of the other's list hash. -/
lemma withdrawalsSlide_of_eq (h : codec.Separates parent a b) {ws : List Withdrawal}
    (ha : a.payloadAttributes.withdrawals = some ws)
    (hb : b.payloadAttributes.withdrawals = none)
    (hroot : ZeroRoot b.payloadAttributes.parentBeaconBlockRoot)
    (heq : a.hashedTail codec = b.hashedTail codec) : WithdrawalsSlide codec a b := by
  obtain ⟨byte, bytes, hbytes, hbyte⟩ := h.header ws (.inl ha)
  have hzero : ∀ s t : Bytes, a.hashedTail codec ≠ beBytes 32 (0 : B256) ++ s ++ t := by
    intro s t heq
    rw [TaikoPayloadAttributes.hashedTail, ha, Option.map_some, Option.getD_some, hbytes] at heq
    exact hbyte (List.cons.inj heq).1
  have hfrom : b.hashedTail codec = b.hashedFromRoot codec := by
    rw [TaikoPayloadAttributes.hashedTail, hb]
    rfl
  rw [hfrom, TaikoPayloadAttributes.hashedFromRoot] at heq
  rcases hroot with hroot | hroot
  · rw [hroot, Option.map_none, Option.getD_none, List.nil_append] at heq
    refine ⟨by simp [ha], hb, hroot, fun hlist => ?_, heq.symm⟩
    rw [h.symm.txListHash_eq_zero_iff.mpr hlist, ← List.append_nil (_ ++ _)] at heq
    exact hzero _ _ heq
  · rw [hroot, Option.map_some, Option.getD_some, ← List.append_assoc] at heq
    exact absurd heq (hzero _ _)

lemma Slides.hashedTail_eq (h : Slides codec a b) : a.hashedTail codec = b.hashedTail codec := by
  rcases h with ⟨hws, hslides⟩ | hslide
  · rw [TaikoPayloadAttributes.hashedTail, TaikoPayloadAttributes.hashedTail, hws,
      hslides.hashedFromRoot_eq]
  · have hextra := hslide.extraData
    rw [← hextra, TaikoPayloadAttributes.hashedTail, TaikoPayloadAttributes.hashedFromRoot,
      hslide.no_withdrawals, hslide.no_root]
    rfl

/-- Two jobs are hashed alike past the fixed fields if they agree, or if an optional part of one
slides. -/
lemma hashedTail_eq_iff (h : codec.Separates parent a b)
    (ha : ZeroRoot a.payloadAttributes.parentBeaconBlockRoot)
    (hb : ZeroRoot b.payloadAttributes.parentBeaconBlockRoot) :
    a.hashedTail codec = b.hashedTail codec ↔
      TailAlike a b ∨ Slides codec a b ∨ Slides codec b a := by
  have hfrom : a.payloadAttributes.withdrawals = b.payloadAttributes.withdrawals →
      a.hashedFromRoot codec = b.hashedFromRoot codec →
      TailAlike a b ∨ Slides codec a b ∨ Slides codec b a := by
    intro hws heq
    rcases (hashedFromRoot_eq_iff h ha hb).mp heq with ⟨hroot, hlist, hextra⟩ | hslides | hslides
    · exact .inl ⟨hws, hroot, hlist, hextra⟩
    · exact .inr (.inl (.inl ⟨hws, hslides⟩))
    · exact .inr (.inr (.inl ⟨hws.symm, hslides⟩))
  constructor
  · intro heq
    cases hws : a.payloadAttributes.withdrawals with
    | none =>
      cases hws' : b.payloadAttributes.withdrawals with
      | none =>
        rw [TaikoPayloadAttributes.hashedTail, TaikoPayloadAttributes.hashedTail, hws,
          hws'] at heq
        exact hfrom (hws.trans hws'.symm) heq
      | some ws' => exact .inr (.inr (.inr (withdrawalsSlide_of_eq h.symm hws' hws ha heq.symm)))
    | some ws =>
      cases hws' : b.payloadAttributes.withdrawals with
      | none => exact .inr (.inl (.inr (withdrawalsSlide_of_eq h hws hws' hb heq)))
      | some ws' =>
        rw [TaikoPayloadAttributes.hashedTail, TaikoPayloadAttributes.hashedTail, hws,
          hws'] at heq
        obtain ⟨hsame, hrest⟩ := h.withdrawals ws hws ws' hws' _ _ heq
        exact hfrom (by rw [hws, hws', hsame]) hrest
  · rintro (halike | hslides | hslides)
    · rw [TaikoPayloadAttributes.hashedTail, TaikoPayloadAttributes.hashedTail,
        halike.withdrawals, (hashedFromRoot_eq_iff h ha hb).mpr
          (.inl ⟨halike.parentBeaconBlockRoot, halike.txList, halike.extraData⟩)]
    · exact hslides.hashedTail_eq
    · exact hslides.hashedTail_eq.symm

/-- What slides lengthens the extra data. -/
lemma Slides.extraData_ne (h : Slides codec a b) (hcodec : codec.Separates parent a b) :
    a.blockMetadata.extraData ≠ b.blockMetadata.extraData := by
  intro heq
  rcases h with ⟨-, hslides⟩ | hslide
  · have hlength := congrArg List.length hslides.extraData
    rw [heq, List.length_append, length_beBytes] at hlength
    omega
  · obtain ⟨ws, hws⟩ := Option.ne_none_iff_exists'.mp hslide.withdrawals
    obtain ⟨byte, bytes, hbytes, -⟩ := hcodec.header ws (.inl hws)
    have hlength := congrArg List.length hslide.extraData
    rw [TaikoPayloadAttributes.hashedTail, TaikoPayloadAttributes.hashedFromRoot, hws,
      Option.map_some, Option.getD_some, hbytes, heq] at hlength
    simp only [List.length_append, List.length_cons, length_beBytes] at hlength
    omega

lemma payloadIdPreimage_eq_iff (parent : B256) :
    payloadIdPreimage codec parent a = payloadIdPreimage codec parent b ↔
      FixedAlike a b ∧ a.hashedTail codec = b.hashedTail codec := by
  rw [payloadIdPreimage, payloadIdPreimage, append_beBytes_inj, append_beBytes_inj,
    append_beBytes_inj, append_beBytes_inj]
  refine ⟨?_, fun ⟨h, htail⟩ => ⟨rfl, h.timestamp, h.prevRandao, h.suggestedFeeRecipient, htail⟩⟩
  rintro ⟨-, htimestamp, hrandao, hrecipient, htail⟩
  exact ⟨⟨htimestamp, hrandao, hrecipient⟩, htail⟩

lemma tryToU64_inj {x y : U256} {n : U64} (hx : tryToU64 x = some n) (hy : tryToU64 y = some n) :
    x = y := by
  rw [tryToU64, Option.ite_none_right_eq_some] at hx hy
  have heq := congrArg BitVec.toNat (Option.some.inj (hx.2.trans hy.2.symm))
  rw [BitVec.toNat_setWidth, BitVec.toNat_setWidth, Nat.mod_eq_of_lt hx.1,
    Nat.mod_eq_of_lt hy.1] at heq
  exact BitVec.eq_of_toNat_eq heq

/-- What an accepted job says about its attributes. -/
lemma tryNew_eq_ok (h : TaikoPayloadBuilderAttributes.tryNew codec parent a = .ok (.ok job)) :
    ZeroRoot a.payloadAttributes.parentBeaconBlockRoot ∧
      job.id = payloadIdTaiko codec parent a payloadIdVersionV2 ∧
      job.parentBeaconBlockRoot = a.payloadAttributes.parentBeaconBlockRoot ∧
      ∃ timestamp baseFeePerGas anchorTransaction,
        tryToU64 a.blockMetadata.timestamp = some timestamp ∧
        tryToU64 a.baseFeePerGas = some baseFeePerGas ∧
        a.anchorTransaction.mapM (decodeAnchorTransaction codec) = .ok anchorTransaction ∧
        job.inputs =
          { beneficiary := a.blockMetadata.beneficiary
            gasLimit := a.blockMetadata.gasLimit
            timestamp
            prevRandao := a.payloadAttributes.prevRandao
            baseFeePerGas
            extraData := a.blockMetadata.extraData
            transactions := a.blockMetadata.txList.map fun bytes =>
              (decodeRecoveredTransactions codec bytes).toOption.getD []
            anchorTransaction } := by
  rw [TaikoPayloadBuilderAttributes.tryNew] at h
  dsimp only at h
  split at h
  · cases h
  · next hroot =>
    split at h
    · cases h
    · next anchor hanchor =>
      split at h
      · cases h
      · next timestamp htimestamp =>
        split at h
        · cases h
        · next baseFeePerGas hbasefee =>
          cases h
          refine ⟨?_, rfl, rfl, timestamp, baseFeePerGas, anchor, htimestamp, hbasefee,
            hanchor, rfl⟩
          cases hsome : a.payloadAttributes.parentBeaconBlockRoot with
          | none => exact .inl rfl
          | some root => exact .inr (by simpa [hsome] using hroot)

/-- Jobs whose hashed fields agree read the same values exactly if the others agree. -/
lemma inputs_eq_iff (hjob : TaikoPayloadBuilderAttributes.tryNew codec parent a = .ok (.ok job))
    (hjob' : TaikoPayloadBuilderAttributes.tryNew codec parent b = .ok (.ok job'))
    (hfixed : FixedAlike a b) (htail : TailAlike a b) :
    job.inputs = job'.inputs ↔ UnhashedAlike codec a b := by
  obtain ⟨-, -, -, t, f, anchor, ht, hf, hanchor, hinputs⟩ := tryNew_eq_ok hjob
  obtain ⟨-, -, -, t', f', anchor', ht', hf', hanchor', hinputs'⟩ := tryNew_eq_ok hjob'
  rw [hinputs, hinputs', hfixed.prevRandao, htail.extraData, htail.txList,
    PayloadInputs.mk.injEq]
  constructor
  · rintro ⟨hbeneficiary, hgas, rfl, -, rfl, -, -, rfl⟩
    exact ⟨hbeneficiary, hgas, tryToU64_inj ht ht', tryToU64_inj hf hf',
      hanchor.trans hanchor'.symm⟩
  · rintro ⟨hbeneficiary, hgas, htimestamp, hfee, hanchors⟩
    rw [htimestamp] at ht
    rw [hfee] at hf
    rw [hanchors] at hanchor
    exact ⟨hbeneficiary, hgas, Option.some.inj (ht.symm.trans ht'), rfl,
      Option.some.inj (hf.symm.trans hf'), rfl, rfl,
      Except.ok.inj (hanchor.symm.trans hanchor')⟩

/-- The identifiers of two jobs of a parent that differ in a value the builder reads are
different, exactly if a hashed field of fixed length differs, or no optional part of one slides
into the other and either another hashed field differs or the five values that are not hashed
agree. -/
theorem payloadId_identifies_iff
    (hjob : TaikoPayloadBuilderAttributes.tryNew codec parent a = .ok (.ok job))
    (hjob' : TaikoPayloadBuilderAttributes.tryNew codec parent b = .ok (.ok job'))
    (hcodec : codec.Separates parent a b) :
    (job.inputs ≠ job'.inputs → job.id ≠ job'.id) ↔
      ¬ FixedAlike a b ∨
        (¬ Slides codec a b ∧ ¬ Slides codec b a ∧
          (¬ TailAlike a b ∨ UnhashedAlike codec a b)) := by
  obtain ⟨hroot, hid, -, t, f, anchor, -, -, -, hinputs⟩ := tryNew_eq_ok hjob
  obtain ⟨hroot', hid', -, t', f', anchor', -, -, -, hinputs'⟩ := tryNew_eq_ok hjob'
  have hsame : job.id = job'.id ↔
      FixedAlike a b ∧ (TailAlike a b ∨ Slides codec a b ∨ Slides codec b a) := by
    rw [hid, hid', ← hashedTail_eq_iff hcodec hroot hroot', ← payloadIdPreimage_eq_iff parent]
    refine ⟨fun h => hcodec.digest (congrArg PayloadId.digest h), fun h => ?_⟩
    rw [payloadIdTaiko, payloadIdTaiko, h]
  -- what slides shows in the extra data, which the builder reads
  have hextra : a.blockMetadata.extraData ≠ b.blockMetadata.extraData →
      job.inputs ≠ job'.inputs := by
    intro hne heq
    have hextra := congrArg PayloadInputs.extraData heq
    rw [hinputs, hinputs'] at hextra
    exact hne hextra
  have hslides : Slides codec a b ∨ Slides codec b a → job.inputs ≠ job'.inputs := by
    rintro (h | h)
    · exact hextra (h.extraData_ne hcodec)
    · exact hextra (h.extraData_ne hcodec.symm).symm
  constructor
  · intro h
    by_cases hfixed : FixedAlike a b
    · refine .inr ⟨fun hs => ?_, fun hs => ?_, ?_⟩
      · exact h (hslides (.inl hs)) (hsame.mpr ⟨hfixed, .inr (.inl hs)⟩)
      · exact h (hslides (.inr hs)) (hsame.mpr ⟨hfixed, .inr (.inr hs)⟩)
      · by_cases htail : TailAlike a b
        · refine .inr ((inputs_eq_iff hjob hjob' hfixed htail).mp ?_)
          by_contra hne
          exact h hne (hsame.mpr ⟨hfixed, .inl htail⟩)
        · exact .inl htail
    · exact .inl hfixed
  · rintro (hfixed | ⟨hs, hs', hrest⟩) hne hid
    · exact hfixed (hsame.mp hid).1
    · obtain ⟨hfixed, htail | hslide | hslide⟩ := hsame.mp hid
      · rcases hrest with hdiffer | halike
        · exact hdiffer htail
        · exact hne ((inputs_eq_iff hjob hjob' hfixed htail).mpr halike)
      · exact hs hslide
      · exact hs' hslide

end

/-- Nothing is hashed or encoded but the identity. -/
def plainCodec : PayloadCodec Bytes where
  keccak256 _ := 1
  truncatedSha256 := id
  encodeWithdrawals _ := [0xc0]
  decodeTransactions _ := .ok []
  decodeTransaction bytes := .ok (goldenTouchTx (BitVec.ofNat 64 bytes.length)).tx

/-- A job that selects transactions from the pool. -/
def poolAttributes : TaikoPayloadAttributes where
  payloadAttributes :=
    { timestamp := 1000
      prevRandao := 0
      suggestedFeeRecipient := 0
      withdrawals := some []
      parentBeaconBlockRoot := some 0 }
  baseFeePerGas := 25000000
  blockMetadata :=
    { beneficiary := 0
      gasLimit := 30000000
      timestamp := 1000
      mixHash := 0
      txList := none
      extraData := [75, 0, 0, 0, 0, 0, 1] }
  anchorTransaction := some []

/-- Jobs that differ from it in one value the builder reads. -/
def otherJobs : List TaikoPayloadAttributes :=
  let metadata := poolAttributes.blockMetadata
  [{ poolAttributes with blockMetadata := { metadata with beneficiary := 5 } },
    { poolAttributes with blockMetadata := { metadata with gasLimit := 20000000 } },
    { poolAttributes with blockMetadata := { metadata with timestamp := 1001 } },
    { poolAttributes with baseFeePerGas := 5000000 },
    { poolAttributes with anchorTransaction := some [1] }]

/-- The jobs an accepted payload job shares its identifier with, under a digest that does
not collide, each building another block. -/
theorem payloadId_collides :
    ∃ job, TaikoPayloadBuilderAttributes.tryNew plainCodec 7 poolAttributes = .ok (.ok job) ∧
      ∀ other ∈ otherJobs, ∃ job',
        TaikoPayloadBuilderAttributes.tryNew plainCodec 7 other = .ok (.ok job') ∧
        job.inputs ≠ job'.inputs ∧ job.id = job'.id := by
  refine ⟨_, rfl, fun other hother => ?_⟩
  simp only [otherJobs, List.mem_cons, List.not_mem_nil, or_false] at hother
  rcases hother with rfl | rfl | rfl | rfl | rfl <;>
    exact ⟨_, rfl, by decide, rfl⟩

/-- A job with other extra data has another identifier. -/
theorem payloadId_identifies_extraData :
    let other := { poolAttributes with
      blockMetadata := { poolAttributes.blockMetadata with extraData := [76] } }
    ∃ job job', TaikoPayloadBuilderAttributes.tryNew plainCodec 7 poolAttributes = .ok (.ok job) ∧
      TaikoPayloadBuilderAttributes.tryNew plainCodec 7 other = .ok (.ok job') ∧
      job.id ≠ job'.id := by
  intro other
  have hcodec : plainCodec.Separates 7 poolAttributes other := by
    refine ⟨id, by rintro l ⟨⟩, fun l _ => (by decide : (1 : B256) ≠ 0), ?_,
      fun ws _ => ⟨0xc0, [], rfl, by decide⟩⟩
    rintro ws ⟨⟩ ws' ⟨⟩ s t heq
    exact ⟨rfl, List.append_cancel_left heq⟩
  -- both have withdrawals, and a root that is not absent
  have hslides : ∀ x ∈ [poolAttributes, other], ∀ y ∈ [poolAttributes, other],
      ¬ Slides plainCodec x y := by
    simp only [List.mem_cons, List.not_mem_nil, or_false]
    rintro x - y (rfl | rfl) (⟨-, h⟩ | h) <;> exact nomatch h.no_root
  refine ⟨_, _, rfl, rfl, ?_⟩
  refine (@payloadId_identifies_iff _ plainCodec 7 poolAttributes other _ _ rfl rfl hcodec).mpr
    (.inr ⟨hslides _ (by simp) _ (by simp), hslides _ (by simp) _ (by simp), .inl ?_⟩) (by decide)
  exact fun h => absurd h.extraData (by decide)

end AlethiaReth
