import AlethiaReth.Evm.Handler

/-!
The EVM as the block executor drives it: the zk gas bracket around transactions,
the run of a transaction, and system calls.
-/

namespace AlethiaReth

open MachineInt

/-- The EVM of a block: its state and environment, the anchor context, and the two
places a meter can live.  What the journal keeps of the anchor system call is only
read by witness generation and is left out. -/
structure TaikoEvmWrapper where
  db : Db
  block : BlockEnv
  cfg : CfgEnv
  extraExecutionCtx : Option TaikoEvmExtraExecutionCtx
  zkGasMeter : Option ZkGasMeter
  inspector : Option ZkGasMeteringState
  inspect : Bool
  deriveAnchorCtx : Bool
  resetZkGasPerTransact : Bool

/-- A transaction's result with its changeset. -/
structure ResultAndState where
  result : ExecutionResult
  state : EvmState

namespace TaikoEvmWrapper

variable (evm : TaikoEvmWrapper) (revm : Revm) (checks : OverflowChecks) (caller contract : Address)

/-- An EVM for plain execution: the meter, if the fork has one, is on the EVM. -/
def createEvm (db : Db) (cfg : CfgEnv) (block : BlockEnv) : TaikoEvmWrapper where
  db := db
  block := block
  cfg := cfg
  extraExecutionCtx := none
  zkGasMeter := (scheduleFor cfg.spec).map .new
  inspector := none
  inspect := false
  deriveAnchorCtx := true
  resetZkGasPerTransact := true

/-- An EVM for inspected execution: the meter is in the inspector. -/
def createEvmWithInspector (db : Db) (cfg : CfgEnv) (block : BlockEnv) : TaikoEvmWrapper where
  db := db
  block := block
  cfg := cfg
  extraExecutionCtx := none
  zkGasMeter := none
  inspector := (scheduleFor cfg.spec).map .new
  inspect := true
  deriveAnchorCtx := true
  resetZkGasPerTransact := true

/-! ### The zk gas bracket -/

/-- The active meter. -/
def meter : Option ZkGasMeter :=
  evm.zkGasMeter.or (evm.inspector.map (·.meter))

/-- The EVM with its active meter replaced. -/
def setMeter (meter : ZkGasMeter) : TaikoEvmWrapper :=
  if evm.zkGasMeter.isSome then
    { evm with zkGasMeter := some meter }
  else
    { evm with inspector := evm.inspector.map fun state => { state with meter := meter } }

/-- Drops the in-flight zk gas, wherever it is metered. -/
def resetTransactionZkGas : TaikoEvmWrapper :=
  { evm with
    zkGasMeter := evm.zkGasMeter.map .resetTransaction
    inspector := evm.inspector.map .resetTransaction }

/-- Applies a meter operation and reads the finalized total after it. -/
def withMeter (op : ZkGasMeter → ZkGasMeter.Answer) :
    Except ZkGasOutcome (Option U64) × TaikoEvmWrapper :=
  match evm.meter with
  | none => (.ok none, evm)
  | some meter =>
    match op meter with
    | (.error outcome, meter) => (.error outcome, evm.setMeter meter)
    | (.ok (), meter) => (.ok (some meter.blockZkGasUsed), evm.setMeter meter)

/-- Moves the zk gas of the transaction to the block. -/
def commitTransactionZkGas :
    Except ZkGasOutcome (Option U64) × TaikoEvmWrapper :=
  evm.withMeter ZkGasMeter.commitTransaction

/-- It does not fit. -/
def transactionZkGasCommitWouldExceed : Bool :=
  evm.meter.any ZkGasMeter.commitWouldExceedBlockLimit

/-- The zk gas of the block. -/
def blockZkGasUsed : Option U64 :=
  evm.meter.map (·.blockZkGasUsed)

/-- There is zk gas for one more transaction. -/
def canFitTxIntrinsicZkGas : Bool :=
  evm.meter.all ZkGasMeter.canFitTxIntrinsic

/-- Takes zk gas of the block. -/
def reserveBlockZkGas (amount : U64) :
    Except ZkGasOutcome (Option U64) × TaikoEvmWrapper :=
  evm.withMeter (·.reserveBlockBudget amount)

/-- Charges a transaction for being there. -/
def chargeTxIntrinsicZkGas :
    Except ZkGasOutcome Unit × TaikoEvmWrapper :=
  match evm.withMeter ZkGasMeter.chargeTxIntrinsic with
  | (.ok _, evm) => (.ok (), evm)
  | (.error outcome, evm) => (.error outcome, evm)

/-- Switches inspection; an EVM with the meter on itself never enters it. -/
def setInspectorEnabled (enabled : Bool) : TaikoEvmWrapper :=
  if enabled ∧ evm.zkGasMeter.isSome then evm else { evm with inspect := enabled }

/-! ### Transactions -/

/-- Installs a derived anchor context for an anchor-shaped transaction, when the
EVM may and has none. -/
def maybeDeriveAnchorExecutionCtx (tx : TxEnv) :
    Except EVMError TaikoEvmWrapper :=
  if !evm.deriveAnchorCtx ∨ evm.extraExecutionCtx.isSome then
    .ok evm
  else if tx.caller ≠ goldenTouch ∨ tx.kind ≠ .call (getTreasuryAddress evm.cfg.chainId) then
    .ok evm
  else
    match evm.db.basic goldenTouch with
    | .error e => .error (.database e)
    | .ok account =>
      .ok { evm with
        extraExecutionCtx := some (.derived goldenTouch ((account.map (·.nonce)).getD 0)) }

/-- Runs a transaction on the EVM's database without writing to it. -/
def transactRaw (evm : TaikoEvmWrapper) (tx : TxEnv) :
    Except Panic (Except EVMError ResultAndState × TaikoEvmWrapper) :=
  let evm := if evm.resetZkGasPerTransact then evm.resetTransactionZkGas else evm
  match evm.maybeDeriveAnchorExecutionCtx tx with
  | .error e => .ok (.error e, evm)
  | .ok evm => do
    let (outcome, meters) ← handlerRun revm checks evm.inspect
      ⟨evm.db, evm.block, evm.cfg, tx⟩ evm.extraExecutionCtx ⟨evm.zkGasMeter, evm.inspector⟩
    let evm := { evm with zkGasMeter := meters.zkGasMeter, inspector := meters.inspector }
    pure (outcome.map fun (result, state) => ⟨result, state⟩, evm)

/-! ### System calls -/

/-- The transaction gas limit of system calls. -/
def maxSystemCallGasLimit : U64 := 16777216

/-- The transaction environment of a system call: no price, no nonce, no value. -/
def systemCallTx (data : Bytes) : TxEnv where
  txType := .legacy
  caller := caller
  gasLimit := maxSystemCallGasLimit
  gasPrice := 0
  kind := .call contract
  value := 0
  data := data
  nonce := 0
  chainId := none
  accessList := []
  gasPriorityFee := none
  blobHashes := []
  maxFeePerBlobGas := 0
  authorizationList := []

/-- The anchor system call: installs the context it carries and touches no state.
The two accounts are loaded for witnesses, which only shows when a load fails. -/
def anchorSystemCall (data : Bytes) :
    Except EVMError ResultAndState × TaikoEvmWrapper :=
  match decodeAnchorSystemCallData data with
  | none => (.error (.custom "invalid encoded anchor system call data"), evm)
  | some (baseFeeSharePctg, callerNonce) =>
    let evm := { evm with extraExecutionCtx := some (.new baseFeeSharePctg caller callerNonce) }
    match evm.db.basic caller, evm.db.basic contract with
    | .error e, _ => (.error (.database e), evm)
    | .ok _, .error e => (.error (.database e), evm)
    | .ok _, .ok _ =>
      (.ok ⟨⟨true, 0, []⟩, fun _ => none⟩, evm)

/-- A system call: the transaction runs under a gas limit, base fee and nonce check
of its own, and only the called contract stays in the changeset. -/
def transactSystemCall (evm : TaikoEvmWrapper) (caller contract : Address) (data : Bytes) :
    Except Panic (Except EVMError ResultAndState × TaikoEvmWrapper) :=
  if caller = goldenTouch ∧ contract = getTreasuryAddress evm.cfg.chainId then
    .ok (evm.anchorSystemCall caller contract data)
  else do
    let block := evm.block
    let cfg := evm.cfg
    let evm := { evm with
      block := { block with gasLimit := maxSystemCallGasLimit, basefee := 0 }
      cfg := { cfg with disableNonceCheck := true } }
    let (outcome, evm) ← evm.transactRaw revm checks (systemCallTx caller contract data)
    let evm := { evm with
      block := { evm.block with gasLimit := block.gasLimit, basefee := block.basefee }
      cfg := { evm.cfg with disableNonceCheck := cfg.disableNonceCheck } }
    pure (outcome.map fun res =>
      { res with state := fun address => if address = contract then res.state address else none },
      evm)

/-- The anchor system call installs what it was sent, also where a load after that fails. -/
lemma transactSystemCall_anchor (evm : TaikoEvmWrapper) (pctg nonce : U64) :
    ∃ outcome, evm.transactSystemCall revm checks goldenTouch
        (getTreasuryAddress evm.cfg.chainId) (encodeAnchorSystemCallData pctg nonce)
      = .ok (outcome, { evm with extraExecutionCtx := some (.new pctg goldenTouch nonce) }) := by
  rw [transactSystemCall, if_pos ⟨rfl, rfl⟩, anchorSystemCall, decode_encodeAnchorSystemCallData]
  dsimp only
  split <;> exact ⟨_, rfl⟩

end TaikoEvmWrapper

end AlethiaReth
