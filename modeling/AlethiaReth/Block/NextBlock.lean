import AlethiaReth.Block.Config
import AlethiaReth.Block.SelectionLists

/-!
The next block: the builder both callers of selection start from, and the digest of the
state they start in.
-/

namespace AlethiaReth

open MachineInt ByteString

/-- The builder of the block after a parent, on the state the parent left. -/
def builderForNextBlock (spec : TaikoChainSpec) (checks : OverflowChecks) (db : Db)
    (parent : SealedHeader) (attributes : TaikoNextBlockEnvAttributes) :
    Except Panic BlockBuilder := do
  let env ← nextEvmEnv spec checks parent.header attributes
  pure ⟨.new (.createEvm db env.cfgEnv env.blockEnv)
    (contextForNextBlock spec parent attributes) spec, []⟩

/-- A new builder has a fresh executor and the gas limit of the attributes. -/
lemma builderForNextBlock_fresh {spec : TaikoChainSpec} {checks : OverflowChecks} {db : Db}
    {parent : SealedHeader} {attributes : TaikoNextBlockEnvAttributes} {builder : BlockBuilder}
    (h : builderForNextBlock spec checks db parent attributes = .ok builder) :
    builder.executor.Fresh ∧ builder.transactions = [] ∧
      builder.executor.evm.block.gasLimit = attributes.gasLimit := by
  obtain ⟨env, henv, h⟩ := Outcome.bind_eq_ok.mp h
  obtain ⟨number, -, henv⟩ := Outcome.bind_eq_ok.mp henv
  cases henv
  cases h
  exact ⟨⟨rfl, _, _, _, .inl rfl⟩, rfl, rfl⟩

namespace TxSelection

/-- The bytes the digest of a state starts from. -/
def seedPreimage (parentHash : B256) (env : TaikoNextBlockEnvAttributes) : Bytes :=
  beBytes 32 parentHash ++ (beBytes 8 env.timestamp ++ (beBytes 20 env.suggestedFeeRecipient ++
    (beBytes 32 env.prevRandao ++ (beBytes 8 env.gasLimit ++ (beBytes 8 env.baseFeePerGas ++
      (beBytes 8 (BitVec.ofNat 64 env.extraData.length) ++ (env.extraData ++
        (match env.parentBeaconBlockRoot with
        | some root => 1 :: beBytes 32 root
        | none => [0]))))))))

/-- The digest of the state after transactions are committed in an environment. -/
def selectionStateSeed (codec : Codec) (parentHash : B256) (env : TaikoNextBlockEnvAttributes)
    (committed : List B256) : B256 :=
  committed.foldl (advanceSelectionState codec) (codec.keccak256 (seedPreimage parentHash env))

end TxSelection

end AlethiaReth
