import Mathlib.Data.Nat.Digits.Defs
import AlethiaReth.Lib.ByteString
import AlethiaReth.Lib.MachineInt

/-!
The primitives shared by every crate: addresses, signed transactions with the
fields execution and validation read, the transaction environment handed to the
EVM, and the decoders of the Taiko block extra data.
-/

namespace AlethiaReth

open MachineInt ByteString

variable (x : U64)

/-- Addresses. -/
abbrev Address := BitVec 160

/-- Hashes. -/
abbrev B256 := BitVec 256

/-- Strings of bytes. -/
abbrev Bytes := List U8

variable (bytes : Bytes) (extra : Bytes)

/-- Bloom filters of logs. -/
abbrev Bloom := BitVec 2048

instance : LawfulBEq B256 := inferInstance

/-- The system caller of the anchor pre-execution. -/
def goldenTouch : Address := 0x0000777735367b36bc9b61c50022d9d0700db4ec

/-- The network treasury: the decimal digits of the chain id read as the leading
hex digits of the address, zero padding, and the suffix `10001`. -/
def getTreasuryAddress (chainId : U64) : Address :=
  let prefixDigits := Nat.digits 10 chainId.toNat
  BitVec.ofNat 160
    (Nat.ofDigits 16 prefixDigits * 16 ^ (40 - prefixDigits.length) + 0x10001)

example : getTreasuryAddress 167000 = 0x1670000000000000000000000000000000010001 := by decide

/-! ### Transactions -/

/-- The types of transactions. -/
inductive TxType where
  | legacy
  | eip2930
  | eip1559
  | eip4844
  | eip7702
  deriving DecidableEq, Repr

/-- A call or a creation. -/
inductive TxKind where
  | call (callee : Address)
  | create
  deriving DecidableEq, Repr

/-- The callee of a transaction, none for a creation. -/
def TxKind.toAddress : TxKind → Option Address
  | .call callee => some callee
  | .create => none

/-- It is a call. -/
def TxKind.isCall : TxKind → Bool
  | .call _ => true
  | .create => false

/-- Accounts and slots that are warm. -/
abbrev AccessList := List (Address × List B256)

/-- An EIP-7702 authorization, with the authority signature recovery yields. -/
structure Authorization where
  chainId : U256
  address : Address
  nonce : U64
  authority : Option Address
  deriving DecidableEq, Repr

/-- The fields that only some transaction types have. -/
inductive TxPayload where
  | legacy (chainId : Option U64) (gasPrice : U128)
  | eip2930 (chainId : U64) (gasPrice : U128) (accessList : AccessList)
  | eip1559 (chainId : U64) (maxFeePerGas maxPriorityFeePerGas : U128)
      (accessList : AccessList)
  | eip4844 (chainId : U64) (maxFeePerGas maxPriorityFeePerGas : U128)
      (accessList : AccessList) (blobVersionedHashes : List B256) (maxFeePerBlobGas : U128)
  | eip7702 (chainId : U64) (maxFeePerGas maxPriorityFeePerGas : U128)
      (accessList : AccessList) (authorizationList : List Authorization)
  deriving DecidableEq, Repr

/-- A signed transaction.  The signature itself is only ever read through the
address it recovers to. -/
structure TransactionSigned where
  hash : B256
  nonce : U64
  gasLimit : U64
  kind : TxKind
  value : U256
  input : Bytes
  payload : TxPayload
  recovered : Option Address
  deriving DecidableEq, Repr

/-- A signed transaction with its sender. -/
structure Recovered where
  tx : TransactionSigned
  signer : Address
  deriving DecidableEq, Repr

namespace TransactionSigned

variable (tx : TransactionSigned)

/-- The type. -/
def txType : TxType :=
  match tx.payload with
  | .legacy .. => .legacy
  | .eip2930 .. => .eip2930
  | .eip1559 .. => .eip1559
  | .eip4844 .. => .eip4844
  | .eip7702 .. => .eip7702

/-- The fee cap; the gas price of the types without one. -/
def maxFeePerGas : U128 :=
  match tx.payload with
  | .legacy _ gasPrice => gasPrice
  | .eip2930 _ gasPrice _ => gasPrice
  | .eip1559 _ maxFee _ _ => maxFee
  | .eip4844 _ maxFee _ _ _ _ => maxFee
  | .eip7702 _ maxFee _ _ _ => maxFee

/-- The largest tip, for types that have one. -/
def maxPriorityFeePerGas : Option U128 :=
  match tx.payload with
  | .legacy .. => none
  | .eip2930 .. => none
  | .eip1559 _ _ maxPriorityFee _ => some maxPriorityFee
  | .eip4844 _ _ maxPriorityFee _ _ _ => some maxPriorityFee
  | .eip7702 _ _ maxPriorityFee _ _ => some maxPriorityFee

/-- The tip per gas above the base fee, none when the fee cap is below it. -/
def effectiveTipPerGas (baseFee : U64) : Option U128 :=
  let baseFee : U128 := baseFee.setWidth 128
  if tx.maxFeePerGas < baseFee then
    none
  else
    let fee := tx.maxFeePerGas - baseFee
    match tx.maxPriorityFeePerGas with
    | none => some fee
    | some priorityFee => some (if fee ≤ priorityFee then fee else priorityFee)

end TransactionSigned

/-- Taiko accepts every transaction type but blob transactions. -/
def isAllowedTxType (tx : TransactionSigned) : Bool :=
  tx.txType ≠ .eip4844

/-- The transaction environment the EVM runs. -/
structure TxEnv where
  txType : TxType
  caller : Address
  gasLimit : U64
  gasPrice : U128
  kind : TxKind
  value : U256
  data : Bytes
  nonce : U64
  chainId : Option U64
  accessList : AccessList
  gasPriorityFee : Option U128
  blobHashes : List B256
  maxFeePerBlobGas : U128
  authorizationList : List Authorization
  deriving DecidableEq, Repr

/-- The transaction environment of a recovered transaction. -/
def Recovered.toTxEnv (r : Recovered) : TxEnv where
  txType := r.tx.txType
  caller := r.signer
  gasLimit := r.tx.gasLimit
  gasPrice := r.tx.maxFeePerGas
  kind := r.tx.kind
  value := r.tx.value
  data := r.tx.input
  nonce := r.tx.nonce
  chainId :=
    match r.tx.payload with
    | .legacy chainId _ => chainId
    | .eip2930 chainId .. => some chainId
    | .eip1559 chainId .. => some chainId
    | .eip4844 chainId .. => some chainId
    | .eip7702 chainId .. => some chainId
  accessList :=
    match r.tx.payload with
    | .legacy .. => []
    | .eip2930 _ _ accessList => accessList
    | .eip1559 _ _ _ accessList => accessList
    | .eip4844 _ _ _ accessList _ _ => accessList
    | .eip7702 _ _ _ accessList _ => accessList
  gasPriorityFee := r.tx.maxPriorityFeePerGas
  blobHashes :=
    match r.tx.payload with
    | .eip4844 _ _ _ _ hashes _ => hashes
    | _ => []
  maxFeePerBlobGas :=
    match r.tx.payload with
    | .eip4844 _ _ _ _ _ maxFeePerBlobGas => maxFeePerBlobGas
    | _ => 0
  authorizationList :=
    match r.tx.payload with
    | .eip7702 _ _ _ _ authorizationList => authorizationList
    | _ => []

/-! ### Blocks -/

/-- The hash of an empty list of ommers. -/
def emptyOmmerRootHash : B256 :=
  0x1dcc4de8dec75d7aab85b567b6ccd41ad312451b948a7413f0a142fd40d49347

/-- The root of an empty trie. -/
def emptyRootHash : B256 :=
  0x56e81f171bcc55a6ff8345e692c0f86e5b48e01b996cadc001622fb5e363b421

/-- The root of no withdrawals. -/
def emptyWithdrawals : B256 := emptyRootHash

/-- The hash of no execution requests. -/
def emptyRequestsHash : B256 :=
  0xe3b0c44298fc1c149afbf4c8996fb92427ae41e4649b934ca495991b7852b855

/-- A header. -/
structure Header where
  parentHash : B256
  ommersHash : B256
  beneficiary : Address
  stateRoot : B256 := 0
  transactionsRoot : B256
  receiptsRoot : B256
  withdrawalsRoot : Option B256 := none
  logsBloom : Bloom := 0
  difficulty : U256
  number : U64
  gasLimit : U64
  gasUsed : U64
  timestamp : U64
  extraData : Bytes
  mixHash : B256 := 0
  nonce : Option U64
  baseFeePerGas : Option U64
  blobGasUsed : Option U64 := none
  excessBlobGas : Option U64 := none
  parentBeaconBlockRoot : Option B256 := none
  requestsHash : Option B256 := none
  blockAccessListHash : Option B256
  slotNumber : Option U64
  deriving DecidableEq, Repr

/-- A header with its hash. -/
structure SealedHeader where
  header : Header
  hash : B256
  deriving DecidableEq, Repr

/-- A withdrawal. -/
structure Withdrawal where
  index : U64
  validatorIndex : U64
  address : Address
  amount : U64
  deriving DecidableEq, Repr

/-- A body. -/
structure BlockBody where
  transactions : List TransactionSigned
  ommers : List Header
  withdrawals : Option (List Withdrawal)
  deriving DecidableEq, Repr

/-- A block. -/
structure Block where
  header : Header
  body : BlockBody
  deriving DecidableEq, Repr

/-- A block with the hash of its header. -/
structure SealedBlock where
  block : Block
  hash : B256
  deriving DecidableEq, Repr

/-- A block with the sender of each of its transactions. -/
structure RecoveredBlock where
  block : Block
  senders : List Address
  length_eq : senders.length = block.body.transactions.length

variable (block : RecoveredBlock)

/-- The transactions with their senders. -/
def RecoveredBlock.transactionsRecovered : List Recovered :=
  block.block.body.transactions.zipWith Recovered.mk block.senders

@[simp] lemma RecoveredBlock.length_transactionsRecovered :
    block.transactionsRecovered.length = block.block.body.transactions.length := by
  rw [transactionsRecovered, List.length_zipWith, block.length_eq, Nat.min_self]

/-- The sender of a recovered transaction is one of the block's. -/
lemma RecoveredBlock.signer_mem {block : RecoveredBlock} {tx : Recovered}
    (h : tx ∈ block.transactionsRecovered) : tx.signer ∈ block.senders := by
  rw [transactionsRecovered, ← List.map_uncurry_zip_eq_zipWith] at h
  obtain ⟨⟨body, signer⟩, hmem, rfl⟩ := List.mem_map.mp h
  exact (List.of_mem_zip hmem).2

/-- Seals a block with a hash function of headers. -/
def Block.sealSlow (hashSlow : Header → B256) (block : Block) : SealedBlock where
  block
  hash := hashSlow block.header

/-! ### Block extra data -/

/-- A big-endian byte string as a number. -/
def beNat : ℕ :=
  bytes.foldl (fun acc b => acc * 256 + b.toNat) 0

/-- The eight big-endian bytes of a 64-bit value. -/
def toBeBytes : Bytes :=
  (List.range 8).map fun i => (x >>> (8 * (7 - i))).setWidth 8

/-- The length of the Shasta extra data, `[basefeeSharingPctg | proposalId(6)]`. -/
def shastaExtraDataLen : ℕ := 7

/-- The base-fee share percentage of Shasta extra data: its first byte. -/
def decodeShastaBasefeeSharingPctg : U8 :=
  extra.head?.getD 0

/-- The proposal id of Shasta extra data: the six bytes after the first, big-endian. -/
def decodeShastaProposalId : Option U64 :=
  if extra.length < shastaExtraDataLen then none
  else some (BitVec.ofNat 64 (beNat ((extra.drop 1).take 6)))

/-- The base-fee share percentage of Ontake extra data: the low limb of the
big-endian `uint256` it holds.  A slice of more than 32 bytes does not parse. -/
def decodePostOntakeExtraData : Except Panic U64 :=
  if extra.length ≤ 32 then .ok (BitVec.ofNat 64 (beNat extra)) else .error .overflow

/-- The payload of the anchor system call: percentage and nonce, eight big-endian
bytes each. -/
def encodeAnchorSystemCallData (baseFeeSharePctg callerNonce : U64) : Bytes :=
  toBeBytes baseFeeSharePctg ++ toBeBytes callerNonce

/-- The percentage and the nonce an anchor system call carries. -/
def decodeAnchorSystemCallData : Option (U64 × U64) :=
  if bytes.length ≠ 16 then
    none
  else
    some (BitVec.ofNat 64 (beNat (bytes.take 8)), BitVec.ofNat 64 (beNat (bytes.drop 8)))

@[simp] lemma toBeBytes_length : (toBeBytes x).length = 8 := by
  simp [toBeBytes]

lemma beNat_append_singleton (b : U8) :
    beNat (bytes ++ [b]) = beNat bytes * 256 + b.toNat := by
  rw [beNat, List.foldl_append]
  rfl

/-- The bytes of a word from the front are its upper digits. -/
lemma beNat_take_beBytes {n : ℕ} (x : BitVec (8 * n)) {k : ℕ} (hk : k ≤ n) :
    beNat ((beBytes n x).take k) = x.toNat / 256 ^ (n - k) := by
  induction k with
  | zero =>
    have hx := x.isLt
    rw [List.take_zero, Nat.sub_zero, Nat.div_eq_of_lt]
    · rfl
    · rwa [show (256 : ℕ) = 2 ^ 8 from rfl, ← pow_mul]
  | succ k ih =>
    have hlt : k < (beBytes n x).length := by
      rw [length_beBytes]
      omega
    have hbyte : ((beBytes n x)[k]).toNat = x.toNat / 256 ^ (n - (k + 1)) % 256 := by
      have hexp : n - 1 - k = n - (k + 1) := by omega
      simp only [beBytes, List.getElem_map, List.getElem_range, BitVec.toNat_setWidth,
        BitVec.toNat_ushiftRight, Nat.shiftRight_eq_div_pow, hexp]
      rw [pow_mul]
      rfl
    have hpow : (256 : ℕ) ^ (n - k) = 256 ^ (n - (k + 1)) * 256 := by
      rw [← pow_succ]
      congr 1
      omega
    rw [List.take_succ_eq_append_getElem hlt, beNat_append_singleton, ih (by omega), hbyte,
      hpow, ← Nat.div_div_eq_div_mul, Nat.div_add_mod']

lemma beNat_beBytes {n : ℕ} (x : BitVec (8 * n)) : beNat (beBytes n x) = x.toNat := by
  have h := beNat_take_beBytes x le_rfl
  rwa [List.take_of_length_le (by rw [length_beBytes]), Nat.sub_self, pow_zero,
    Nat.div_one] at h

lemma beNat_toBeBytes : beNat (toBeBytes x) = x.toNat := by
  have hbytes : toBeBytes x = beBytes 8 x := rfl
  rw [hbytes, beNat_beBytes]

/-- The anchor system call delivers the percentage and the nonce it was sent. -/
lemma decode_encodeAnchorSystemCallData (pctg nonce : U64) :
    decodeAnchorSystemCallData (encodeAnchorSystemCallData pctg nonce) = some (pctg, nonce) := by
  have htake : (encodeAnchorSystemCallData pctg nonce).take 8 = toBeBytes pctg := by
    simp [encodeAnchorSystemCallData]
  have hdrop : (encodeAnchorSystemCallData pctg nonce).drop 8 = toBeBytes nonce := by
    simp [encodeAnchorSystemCallData]
  have hlen : (encodeAnchorSystemCallData pctg nonce).length = 16 := by
    simp [encodeAnchorSystemCallData]
  rw [decodeAnchorSystemCallData, if_neg (by simp [hlen]), htake, hdrop, beNat_toBeBytes,
    beNat_toBeBytes, BitVec.ofNat_toNat, BitVec.ofNat_toNat, BitVec.setWidth_eq,
    BitVec.setWidth_eq]

end AlethiaReth
