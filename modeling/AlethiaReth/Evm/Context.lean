import AlethiaReth.Chainspec

/-!
The EVM context: database, journal, block and configuration environments, the
errors execution can report, and the fee arithmetic of a transaction
environment.
-/

namespace AlethiaReth

open MachineInt

/-! ### Database and journal -/

/-- A failed database read, with its rendered reason. -/
structure DbError where
  message : String
  deriving DecidableEq, Repr

/-- What is stored of an account. -/
structure AccountInfo where
  balance : U256
  nonce : U64
  code : Bytes
  deriving DecidableEq, Repr

/-- The account of an address nobody has used. -/
def AccountInfo.default : AccountInfo := ⟨0, 0, []⟩

/-- An account as the journal holds it. -/
structure Account where
  info : AccountInfo
  storage : U256 → U256
  touched : Bool

/-- The accounts a transaction loaded. -/
abbrev EvmState := Address → Option Account

/-- The state database below the journal. -/
structure Db where
  basic : Address → Except DbError (Option AccountInfo)
  storage : Address → U256 → U256

/-- Writes the touched accounts of a changeset; an empty account is removed. -/
def Db.commit (db : Db) (state : EvmState) : Db where
  basic address :=
    match state address with
    | some account =>
      if account.touched then
        .ok (if account.info = .default then none else some account.info)
      else db.basic address
    | none => db.basic address
  storage address :=
    match state address with
    | some account => if account.touched then account.storage else db.storage address
    | none => db.storage address

/-- The journaled state of one transaction over a database.  `inner` is what only
the interpreter reads: logs, warm addresses, transient storage, checkpoints. -/
structure Journal (X : Type) where
  state : EvmState
  depth : ℕ
  inner : X

namespace Journal

variable {X : Type}

/-- A journal with nothing loaded. -/
def new (inner : X) : Journal X where
  state _ := none
  depth := 0
  inner := inner

/-- Puts an account. -/
def setAccount (j : Journal X) (address : Address) (account : Account) : Journal X :=
  { j with state := Function.update j.state address (some account) }

/-- The account of an address, read from the database the first time. -/
def loadAccount (db : Db) (j : Journal X) (address : Address) :
    Except DbError (Account × Journal X) :=
  match j.state address with
  | some account => .ok (account, j)
  | none =>
    match db.basic address with
    | .error e => .error e
    | .ok info =>
      let account : Account := ⟨info.getD .default, db.storage address, false⟩
      .ok (account, j.setAccount address account)

/-- Adds to a balance; an amount beyond the range is not added. -/
def balanceIncr (db : Db) (j : Journal X) (address : Address) (amount : U256) :
    Except DbError (Journal X) :=
  match j.loadAccount db address with
  | .error e => .error e
  | .ok (account, j) =>
    let balance := (checkedAdd account.info.balance amount).getD account.info.balance
    .ok (j.setAccount address
      { account with info := { account.info with balance := balance }, touched := true })

end Journal

/-! ### Environments -/

/-- What a transaction reads of its block. -/
structure BlockEnv where
  number : U64
  beneficiary : Address
  timestamp : U64
  gasLimit : U64
  basefee : U64
  difficulty : U256
  prevrandao : Option B256
  blobGasprice : Option U128
  deriving DecidableEq, Repr

/-- The rules a transaction runs under.  The limit on its blobs, where there is one, is
read by the validation of a blob transaction alone. -/
structure CfgEnv where
  chainId : U64
  spec : TaikoSpecId
  maxBlobsPerTx : Option U64
  txGasLimitCap : Option U64
  disableNonceCheck : Bool
  disableBalanceCheck : Bool
  deriving DecidableEq, Repr

/-- What a transaction run only reads. -/
structure Env where
  db : Db
  block : BlockEnv
  cfg : CfgEnv
  tx : TxEnv

/-! ### Errors -/

/-- Why a transaction is invalid. -/
inductive InvalidTransaction where
  | lackOfFundForMaxFee (fee balance : U256)
  | overflowPaymentInTransaction
  | nonceTooHigh (tx state : U64)
  | nonceTooLow (tx state : U64)
  | nonceOverflowInTransaction
  | rejectCallerWithCode
  | other (message : String)
  deriving DecidableEq, Repr

/-- The text of the error. -/
def InvalidTransaction.toString : InvalidTransaction → String
  | .lackOfFundForMaxFee fee balance =>
    "lack of funds (" ++ reprStr balance.toNat ++ ") for max fee (" ++ reprStr fee.toNat ++ ")"
  | .overflowPaymentInTransaction => "overflow payment in transaction"
  | .nonceTooHigh tx state =>
    "nonce " ++ reprStr tx.toNat ++ " too high, expected " ++ reprStr state.toNat
  | .nonceTooLow tx state =>
    "nonce " ++ reprStr tx.toNat ++ " too low, expected " ++ reprStr state.toNat
  | .nonceOverflowInTransaction => "nonce overflow in transaction"
  | .rejectCallerWithCode => "reject transactions from senders with deployed code"
  | .other message => message

/-- What the error slot of the context holds. -/
inductive ContextError where
  | db (error : DbError)
  | custom (message : String)
  deriving DecidableEq, Repr

/-- The errors of a transaction run.  `outOfFuel` is the model's own: the bound on
interpreter steps was reached, which no run of the program reports. -/
inductive EVMError where
  | transaction (error : InvalidTransaction)
  | header (message : String)
  | database (error : DbError)
  | custom (message : String)
  | outOfFuel
  deriving DecidableEq, Repr

/-- The text of the error. -/
def EVMError.toString : EVMError → String
  | .transaction error => "transaction validation error: " ++ error.toString
  | .header message => "header validation error: " ++ message
  | .database error => "database error: " ++ error.message
  | .custom message => message
  | .outOfFuel => "out of fuel"

/-- The error of a failed context. -/
def ContextError.toEVMError : ContextError → EVMError
  | .db error => .database error
  | .custom message => .custom message

/-- The custom error of an exhausted zk gas budget. -/
def zkGasLimitErr : String := "zk gas limit exceeded"

/-- What a transaction run changes: the journal, and the slot in which the
interpreter and its host leave an error for the handler. -/
structure Context (X : Type) where
  journal : Journal X
  error : Except ContextError Unit

/-- Leaves the zk gas limit error in the slot, when it is free. -/
def Context.setCustomError {X : Type} (ctx : Context X) : Context X :=
  match ctx.error with
  | .ok () => { ctx with error := .error (.custom zkGasLimitErr) }
  | .error _ => ctx

/-! ### What a transaction pays -/

namespace TxEnv

variable (tx : TxEnv)

/-- The price per gas a transaction pays at a base fee. -/
def effectiveGasPrice (baseFee : U128) : U128 :=
  match tx.txType, tx.gasPriorityFee with
  | .legacy, _ => tx.gasPrice
  | .eip2930, _ => tx.gasPrice
  | _, none => tx.gasPrice
  | _, some priorityFee =>
    let price := saturatingAdd baseFee priorityFee
    if tx.gasPrice ≤ price then tx.gasPrice else price

/-- The blob gas of a transaction: a fixed amount for each blob. -/
def totalBlobGas : U128 := BitVec.ofNat 128 (131072 * tx.blobHashes.length)

/-- A gas price over the whole gas limit, and the value sent. -/
def gasCostAndValue (price : U128) : Except InvalidTransaction U256 :=
  match checkedMul (tx.gasLimit.setWidth 128) price with
  | none => .error .overflowPaymentInTransaction
  | some gasCost =>
    match checkedAdd (gasCost.setWidth 256) tx.value with
    | none => .error .overflowPaymentInTransaction
    | some spending => .ok spending

/-- Adds the blob fee, which only blob transactions pay. -/
def addDataFee (blobPrice : U128) (spending : U256) :
    Except InvalidTransaction U256 :=
  if tx.txType = .eip4844 then
    match checkedAdd spending ((saturatingMul blobPrice tx.totalBlobGas).setWidth 256) with
    | none => .error .overflowPaymentInTransaction
    | some spending => .ok spending
  else
    .ok spending

/-- The most a transaction can take from its sender. -/
def maxBalanceSpending : Except InvalidTransaction U256 := do
  tx.addDataFee tx.maxFeePerBlobGas (← tx.gasCostAndValue tx.gasPrice)

/-- What a transaction takes from its sender if it uses its whole gas limit. -/
def effectiveBalanceSpending (baseFee blobPrice : U128) :
    Except InvalidTransaction U256 := do
  tx.addDataFee blobPrice (← tx.gasCostAndValue (tx.effectiveGasPrice baseFee))

/-- A price that over the whole gas limit and with the value stays in range is what
the sender is asked for. -/
lemma gasCostAndValue_eq_ok {tx : TxEnv} {price : U128} {spending : U256}
    (h : tx.gasCostAndValue price = .ok spending) :
    spending.toNat = tx.gasLimit.toNat * price.toNat + tx.value.toNat ∧
      tx.gasLimit.toNat * price.toNat < 2 ^ 128 := by
  have hlimit : (tx.gasLimit.setWidth 128).toNat = tx.gasLimit.toNat :=
    BitVec.toNat_setWidth_of_le (by omega)
  rw [gasCostAndValue] at h
  cases hmul : checkedMul (tx.gasLimit.setWidth 128) price with
  | none => simp [hmul] at h
  | some gasCost =>
    rw [hmul] at h
    cases hadd : checkedAdd (gasCost.setWidth 256) tx.value with
    | none => simp [hadd] at h
    | some total =>
      simp only [hadd, Except.ok.injEq] at h
      rw [checkedAdd_eq_some, BitVec.toNat_setWidth_of_le (by omega)] at hadd
      rw [checkedMul_eq_some, hlimit] at hmul
      have hcost := gasCost.isLt
      subst h
      exact ⟨by omega, by omega⟩

/-- A price that stays in range is one the sender is asked for. -/
lemma gasCostAndValue_of_fits {tx : TxEnv} {price : U128}
    (hcost : tx.gasLimit.toNat * price.toNat < 2 ^ 128)
    (hfits : tx.gasLimit.toNat * price.toNat + tx.value.toNat < 2 ^ 256) :
    ∃ spending, tx.gasCostAndValue price = .ok spending := by
  have hlimit : (tx.gasLimit.setWidth 128).toNat = tx.gasLimit.toNat :=
    BitVec.toNat_setWidth_of_le (by omega)
  have hcost' : (tx.gasLimit.setWidth 128).toNat * price.toNat < 2 ^ 128 := by rwa [hlimit]
  have hfits' : ((tx.gasLimit.setWidth 128 * price).setWidth 256).toNat + tx.value.toNat
      < 2 ^ 256 := by
    rwa [BitVec.toNat_setWidth_of_le (by omega), BitVec.toNat_mul_of_lt hcost', hlimit]
  rw [gasCostAndValue, checkedMul, if_pos hcost']
  dsimp only
  rw [checkedAdd, if_pos hfits']
  exact ⟨_, rfl⟩

end TxEnv

end AlethiaReth
