import AlethiaReth.Consensus.Anchor
import AlethiaReth.Evm.Metering

/-!
The smallest interpreter the development is instantiated with: no account has
code, every frame is answered at once, and a transaction uses its whole gas limit.
-/

namespace AlethiaReth

open MachineInt

/-- The gas of a transaction that uses its whole limit. -/
def wholeGas (gasLimit : U64) : Gas := ⟨0, gasLimit, 0⟩

/-- The nonce rules of transactions. No transaction has the last nonce there is. -/
def checkNonce (info : AccountInfo) (tx : TxEnv) (cfg : CfgEnv) :
    Except InvalidTransaction Unit :=
  if cfg.disableNonceCheck then .ok ()
  else if tx.nonce = BitVec.allOnes 64 then .error .nonceOverflowInTransaction
  else if tx.nonce = info.nonce then .ok ()
  else if tx.nonce > info.nonce then .error (.nonceTooHigh tx.nonce info.nonce)
  else .error (.nonceTooLow tx.nonce info.nonce)

/-- The fee cap rule of transactions. -/
def checkFeeCap (env : Env) : Except EVMError Unit :=
  if env.tx.gasPrice < env.block.basefee.setWidth 128 then
    .error (.transaction (.other "gas price is less than basefee"))
  else
    .ok ()

/-- The nonce of a creation is bumped with its frame. -/
def bumpCreator (env : Env) (ctx : Context Unit) : Except ContextError (Context Unit) :=
  if env.tx.kind.isCall then
    .ok ctx
  else
    match ctx.journal.loadAccount env.db env.tx.caller with
    | .error e => .error (.db e)
    | .ok (account, journal) =>
      .ok { ctx with journal := journal.setAccount env.tx.caller account.bumpNonce }

/-- An interpreter for accounts without code. -/
def transferRevm : Revm where
  Scratch := Unit
  Interpreter := Unit
  Input := Unit
  Output := Unit
  InstructionResult := Unit
  InitialGas := Unit
  scratch := ()
  opcode _ := 0
  gasRemaining _ := 0
  action _ := none
  step _ _ ctx := (.error (), (), ctx)
  halt _ _ := ()
  haltFatal _ := ()
  takeNextAction _ := (.return (wholeGas 0) (), ())
  initWithContext env ctx _ :=
    match bumpCreator env ctx with
    | .error e => (.error e, ctx)
    | .ok ctx => (.ok (.result (.call (wholeGas env.tx.gasLimit) false ())), ctx)
  processNextAction env frame ctx _ :=
    (.ok (.result (.call (wholeGas env.tx.gasLimit) false ())), frame, ctx)
  returnResult _ frame ctx _ := (.ok (), frame, ctx)
  validate := checkFeeCap
  validateAccountNonceAndCode := checkNonce
  loadAccounts _ ctx := .ok ctx
  applyEip7702AuthList _ ctx := .ok (0, ctx)
  firstFrameInput env ctx _ :=
    .ok (.call env.tx.gasLimit (env.tx.kind.toAddress.getD 0) (), ctx)
  settleGas _ _ _ result := result
  executionResult env _ _ := ⟨true, env.tx.gasLimit, []⟩
  fuel := 1

lemma transferRevm_reportsGasWithinLimit : transferRevm.ReportsGasWithinLimit :=
  fun _ _ _ => le_rfl

/-- An interpreter for which every address is a precompile. -/
def precompileRevm : Revm :=
  { transferRevm with
    initWithContext := fun env ctx _ =>
      (.ok (.result (.call (wholeGas env.tx.gasLimit) true ())), ctx) }

/-- A database without accounts. -/
def emptyDb : Db where
  basic _ := .ok none
  storage _ _ := 0

/-- The database with an account's balance and nonce set. -/
def Db.put (db : Db) (address : Address) (balance : U256) (nonce : U64) : Db :=
  { db with basic := Function.update db.basic address (.ok (some ⟨balance, nonce, []⟩)) }

/-! ### An Unzen block -/

/-- A base fee of 7 and room for thirty million gas. -/
def transferBlock : BlockEnv where
  number := 1
  beneficiary := 0xc0
  timestamp := 1
  gasLimit := 30000000
  basefee := 7
  difficulty := 0
  prevrandao := none
  blobGasprice := some 1

/-- The configuration of the transfers. -/
def transferCfg : CfgEnv where
  chainId := 167000
  spec := .unzen
  maxBlobsPerTx := none
  txGasLimitCap := none
  disableNonceCheck := false
  disableBalanceCheck := false

/-- A chain with every fork active from the start. -/
def transferSpec : TaikoChainSpec where
  chainId := 167000
  ontake := .block 0
  pacaya := .block 0
  shasta := .timestamp 0
  unzen := .timestamp 0

/-- A transfer of nothing at a gas price of 10. -/
def transferTx (sender : Address) (nonce : U64) : Recovered where
  tx := ⟨1, nonce, 21000, .call 5, 0, [], .legacy none 10, some sender⟩
  signer := sender

/-- A call with the gas of a transfer, under its hash. -/
def callTx (hash : B256) (target : Address) (nonce : U64) : Recovered where
  tx := ⟨hash, nonce, 21000, .call target, 0, [], .legacy none 10, some 0xa1⟩
  signer := 0xa1

/-- A database with one funded account. -/
def transferDb : Db := emptyDb.put 0xa1 1000000000 0

/-- A golden-touch transaction shaped as an anchor. -/
def goldenTouchTx (nonce : U64) : Recovered where
  tx := ⟨2, nonce, 1000000, .call (getTreasuryAddress 167000), 0, anchorV4Selector,
    .eip1559 167000 7 0 [], some goldenTouch⟩
  signer := goldenTouch

/-- An anchor for a block of transfers. -/
def transferAnchor : Recovered := goldenTouchTx 0

/-- The state a computation leaves. -/
def leftBy {ε α β : Type} (start : β) : Except ε (α × β) → β
  | .ok out => out.2
  | .error _ => start

end AlethiaReth
