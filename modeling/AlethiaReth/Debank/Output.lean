import AlethiaReth.Debank.BlockFile

/-!
The rest of a block file, and what is shipped with it.
-/

namespace AlethiaReth.Debank

open MachineInt Outcome

/-! ### Transactions -/

/-- A transaction of the output. -/
structure DebankTransaction where
  id : String
  fromAddr : Address
  toAddr : Address
  gasLimit : U64
  gasPrice : U128
  gasUsed : U64
  status : Bool
  gasFeeCap : U128
  gasTipCap : U128
  input : Bytes
  nonce : U64
  transactionIndex : U64
  value : U256
  deriving DecidableEq, Repr

end AlethiaReth.Debank

namespace AlethiaReth

open MachineInt

/-- The price a transaction pays for its gas; that of the types with a fee cap depends on the base
fee, where there is one. -/
def TransactionSigned.effectiveGasPrice (tx : TransactionSigned) (baseFee : Option U64) : U128 :=
  match tx.maxPriorityFeePerGas, baseFee with
  | some priorityFee, some baseFee =>
    let tip := saturatingSub tx.maxFeePerGas (baseFee.setWidth 128)
    if priorityFee < tip then priorityFee + baseFee.setWidth 128 else tx.maxFeePerGas
  | _, _ => tx.maxFeePerGas

end AlethiaReth

namespace AlethiaReth.Debank

open MachineInt Outcome

variable (sha1 : String → BitVec 160)

/-- The caps of fee and tip, for types that have both. -/
def blockfileFeeCaps (tx : TransactionSigned) : U128 × U128 :=
  match tx.maxPriorityFeePerGas with
  | some tip => (tx.maxFeePerGas, tip)
  | none => (0, 0)

section Transactions

variable (createAddress : Address → U64 → Address)

/-- The callee, or the contract that is created. -/
def blockfileTransactionTo (kind : TxKind) (signer : Address) (nonce : U64) : Address :=
  kind.toAddress.getD (createAddress signer nonce)

/-- The entry of a transaction. -/
def buildTransaction (baseFee : Option U64) (index : ℕ) (transaction : Recovered)
    (receipt : Receipt) (gasUsed : U64) : DebankTransaction where
  id := displayHash transaction.tx.hash
  fromAddr := transaction.signer
  toAddr := blockfileTransactionTo createAddress transaction.tx.kind transaction.signer
    transaction.tx.nonce
  gasLimit := transaction.tx.gasLimit
  gasPrice := transaction.tx.effectiveGasPrice baseFee
  gasUsed
  status := receipt.success
  gasFeeCap := (blockfileFeeCaps transaction.tx).1
  gasTipCap := (blockfileFeeCaps transaction.tx).2
  input := transaction.tx.input
  nonce := transaction.tx.nonce
  transactionIndex := BitVec.ofNat 64 index
  value := transaction.tx.value

/-- The loop over the transactions and their receipts, with the gas before. -/
def buildTransactionsFrom (baseFee : Option U64) : ℕ → U64 → List Recovered → List Receipt →
    List DebankTransaction
  | index, priorCumulativeGas, transaction :: transactions, receipt :: receipts =>
    buildTransaction createAddress baseFee index transaction receipt
        (saturatingSub receipt.cumulativeGasUsed priorCumulativeGas) ::
      buildTransactionsFrom baseFee (index + 1) receipt.cumulativeGasUsed transactions receipts
  | _, _, _, _ => []

/-- The entries of a block. -/
def buildTransactions (block : RecoveredBlock) (receipts : List Receipt) :
    List DebankTransaction :=
  buildTransactionsFrom createAddress block.block.header.baseFeePerGas 0 0
    block.transactionsRecovered receipts

variable {createAddress}

end Transactions

/-! ### Storage -/

/-- The account whose storage a frame writes to. -/
def DebankTrace.storageContext (trace : DebankTrace) : Address :=
  if trace.callType = "delegatecall" then trace.fromAddr else trace.toAddr

/-- Every account a frame wrote to, sorted; what a creation wrote that failed has no account. -/
def observedStorageContracts (traces errorTraces : List DebankTrace) : List Address :=
  let successful := (traces.filter (·.selfStorageChange)).map (·.storageContext)
  let reverted := (errorTraces.filter fun trace => trace.selfStorageChange &&
    trace.callCreateType ≠ "create" && trace.callCreateType ≠ "create2").map (·.storageContext)
  (successful ++ reverted).dedup.insertionSort (· ≤ ·)

/-! ### The validation hash -/

/-- The decimal digits of a number, highest first. -/
def decimalDigits (n : ℕ) : List ℕ := if n = 0 then [0] else (Nat.digits 10 n).reverse

/-- A number from its decimal digits, highest first. -/
def parseDigits (digits : List ℕ) : ℕ := digits.foldl (fun n digit => digit + 10 * n) 0

/-- The last six digits of a number. -/
def lastSixDigits (n : ℕ) : ℕ :=
  let decimal := decimalDigits n
  parseDigits (decimal.drop (decimal.length - 6))

/-- The last digits of a sum over the identifiers. -/
def calcValidationHash (ids : List String) : ℕ :=
  lastSixDigits (ids.foldl (fun sum id => sum + (sha1 id).setWidth 256) (0 : U256)).toNat

/-! ### Block files -/

/-- The block of the output. -/
structure DebankBlock where
  id : B256
  height : U64
  parentId : B256
  baseFeePerGas : U64
  miner : Address
  gasLimit : U64
  gasUsed : U64
  timestamp : U64
  processStartTimestamp : ℕ
  deriving DecidableEq, Repr

/-- The block of a file, and the time it was made. -/
def DebankBlock.ofBlock (hash : B256) (header : Header) (processStartTimestamp : ℕ) :
    DebankBlock where
  id := hash
  height := header.number
  parentId := header.parentHash
  baseFeePerGas := header.baseFeePerGas.getD 0
  miner := header.beneficiary
  gasLimit := header.gasLimit
  gasUsed := header.gasUsed
  timestamp := header.timestamp
  processStartTimestamp

/-- The header of the output. -/
structure DebankHeader where
  number : U64
  hash : B256
  parentHash : B256
  nonce : U64
  mixHash : B256
  sha3Uncles : B256
  logsBloom : Bloom
  stateRoot : B256
  miner : Address
  difficulty : U256
  extraData : Bytes
  gasLimit : U64
  gasUsed : U64
  timestamp : U64
  transactionsRoot : B256
  receiptsRoot : B256
  baseFeePerGas : Option U64
  withdrawalsRoot : Option B256
  blobGasUsed : Option U64
  excessBlobGas : Option U64
  parentBeaconBlockRoot : Option B256
  requestsRoot : Option B256
  deriving DecidableEq, Repr

/-- The entry of a header. -/
def buildRpcHeader (hash : B256) (header : Header) : DebankHeader where
  number := header.number
  hash
  parentHash := header.parentHash
  nonce := header.nonce.getD 0
  mixHash := header.mixHash
  sha3Uncles := header.ommersHash
  logsBloom := header.logsBloom
  stateRoot := header.stateRoot
  miner := header.beneficiary
  difficulty := header.difficulty
  extraData := header.extraData
  gasLimit := header.gasLimit
  gasUsed := header.gasUsed
  timestamp := header.timestamp
  transactionsRoot := header.transactionsRoot
  receiptsRoot := header.receiptsRoot
  baseFeePerGas := header.baseFeePerGas
  withdrawalsRoot := header.withdrawalsRoot
  blobGasUsed := header.blobGasUsed
  excessBlobGas := header.excessBlobGas
  parentBeaconBlockRoot := header.parentBeaconBlockRoot
  requestsRoot := header.requestsHash

/-- A file with the arrays of its transactions and the rest. -/
structure CompleteBlockFile extends BlockFile where
  block : DebankBlock
  transactions : List DebankTransaction
  storageContracts : List Address
  deriving DecidableEq, Repr

variable (file : CompleteBlockFile)

/-- What the validation hash is of: the block, its transactions, and what survived. -/
def CompleteBlockFile.ids : List String :=
  displayHash file.block.id :: (file.transactions.map (·.id) ++ file.events.map (·.id) ++
    file.traces.map (·.id))

/-- The sum over all identifiers of a file. -/
def CompleteBlockFile.validationHash : ℕ :=
  calcValidationHash sha1 file.ids

/-- The answer of a request. -/
structure DebankOutput where
  blockFile : CompleteBlockFile
  header : DebankHeader
  stateDiff : Bytes
  validationHash : ℕ
  deriving DecidableEq, Repr

end AlethiaReth.Debank
