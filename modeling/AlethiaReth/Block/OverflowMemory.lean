import AlethiaReth.Lib.HashChain
import AlethiaReth.Block.NextBlock
import AlethiaReth.Block.Verdict

/-!
The memory of overflows over any sequence of selections.

* `selectionStateSeed_identifies`: the digest of a state identifies its parent, its environment
  and the hashes that are committed, as far as the hash has no collisions.
* `overflowMemory_sound`: what is remembered overflows, in every memory calls can reach.
-/

namespace AlethiaReth

open MachineInt Outcome ByteString

/-! ### Executing what is committed -/

namespace TaikoBlockExecutor

variable {revm : Revm} {checks : OverflowChecks} {e e' e₁ : TaikoBlockExecutor} {tx : Recovered}

/-- One more transaction. -/
lemma executeTransactions_concat {txs : List Recovered} {gasUsed : U64}
    (h : e.executeTransactions revm checks txs = .ok (.ok (), e₁))
    (htx : e₁.executeTransaction revm checks tx = .ok (.ok gasUsed, e')) :
    e.executeTransactions revm checks (txs ++ [tx]) = .ok (.ok (), e') := by
  induction txs generalizing e with
  | nil =>
    cases h
    rw [List.nil_append, executeTransactions, htx]
    rfl
  | cons t ts ih =>
    rw [executeTransactions] at h
    obtain ⟨⟨answer, e₂⟩, hrun, h⟩ := bind_eq_ok.mp h
    rw [List.cons_append, executeTransactions, hrun]
    cases answer with
    | error error => cases h
    | ok gas => exact ih h

/-- A transaction that overflows overflows an equivalent executor. -/
lemma Equivalent.overflows {s t s' : TaikoBlockExecutor} (h : Equivalent s t)
    {error : BlockExecutionError} (hzk : isZkGasLimitExceeded error = true)
    (hrun : s.executeTransaction revm checks tx = .ok (.error error, s')) :
    ∃ t', t.executeTransaction revm checks tx = .ok (.error error, t') := by
  rcases h.executeTransaction_eq tx with heq | ⟨error', hzk', -, hs, -⟩
  · rw [hrun] at heq
    cases ht : t.executeTransaction revm checks tx with
    | error panic =>
      rw [ht] at heq
      cases heq
    | ok out =>
      rw [ht] at heq
      simp only [Except.map, Answered.expecting, Except.ok.injEq, Prod.mk.injEq] at heq
      exact ⟨out.2, by rw [heq.1]⟩
  · rw [hrun] at hs
    cases hs
    rw [hzk] at hzk'
    cases hzk'

/-- A transaction that commits commits on an equivalent executor, and leaves it equivalent. -/
lemma Equivalent.commits {s t t' : TaikoBlockExecutor} (h : Equivalent s t) {gasUsed : U64}
    (hrun : t.executeTransaction revm checks tx = .ok (.ok gasUsed, t')) :
    ∃ s', s.executeTransaction revm checks tx = .ok (.ok gasUsed, s') ∧ Equivalent s' t' := by
  rcases h.executeTransaction_eq tx with heq | ⟨error', -, -, -, ht⟩
  · rw [hrun] at heq
    cases hs : s.executeTransaction revm checks tx with
    | error panic =>
      rw [hs] at heq
      cases heq
    | ok out =>
      obtain ⟨answer, s'⟩ := out
      rw [hs] at heq
      simp only [Except.map, Answered.expecting, Except.ok.injEq, Prod.mk.injEq] at heq
      obtain ⟨rfl, heq⟩ := heq
      exact ⟨s', rfl, Commits.equivalent h ⟨_, hs⟩ ⟨_, hrun⟩ heq⟩
  · rw [hrun] at ht
    cases ht

/-- Clearing the exhaustion of an overflow leaves an equivalent executor. -/
lemma Equivalent.cleared {s t t' : TaikoBlockExecutor} (h : Equivalent s t)
    {error : BlockExecutionError}
    (hrun : t.executeTransaction revm checks tx = .ok (.error error, t')) :
    Equivalent s t'.clearZkGasExhaustion := by
  have hkept : Kept t t' := Discards.kept (.inl ⟨tx, error, hrun⟩) h.tended'.owns
  have hkept' : Kept t t'.clearZkGasExhaustion := hkept.trans t'.clearZkGasExhaustion_kept
  refine ⟨h.tended, hkept'.tended h.tended', h.ready, clearZkGasExhaustion_exhausted t', ?_⟩
  rw [hkept'.clear_eq h.tended'.tidy]
  exact h.clear

lemma Equivalent.symm {s t : TaikoBlockExecutor} (h : Equivalent s t) : Equivalent t s :=
  ⟨h.tended', h.tended, h.ready', h.ready, h.clear.symm⟩

lemma Equivalent.trans {s t u : TaikoBlockExecutor} (h : Equivalent s t) (h' : Equivalent t u) :
    Equivalent s u :=
  ⟨h.tended, h'.tended', h.ready, h'.ready', h.clear.trans h'.clear⟩

end TaikoBlockExecutor

namespace TxSelection

/-! ### Histories -/

/-- What an execution state is the state of. -/
structure History where
  parentHash : B256
  env : TaikoNextBlockEnvAttributes
  committed : List Recovered

/-- What the digest of a committed transaction is taken of. -/
def linkPreimage (state tx : B256) : Bytes :=
  TaikoBlockExecutor.hashBytes state ++ TaikoBlockExecutor.hashBytes tx

lemma linkPreimage_inj {state tx state' tx' : B256}
    (h : linkPreimage state tx = linkPreimage state' tx') : state = state' ∧ tx = tx' := by
  obtain ⟨hstate, htx⟩ := append_beBytes_inj.mp (show beBytes 32 state ++ beBytes 32 tx
    = beBytes 32 state' ++ beBytes 32 tx' from h)
  exact ⟨hstate, beBytes_injective htx⟩

lemma seedPreimage_injective :
    Function.Injective fun origin : B256 × TaikoNextBlockEnvAttributes =>
      seedPreimage origin.1 origin.2 := by
  rintro ⟨parentHash, env⟩ ⟨parentHash', env'⟩ h
  simp only [seedPreimage, append_beBytes_inj] at h
  obtain ⟨hparent, htimestamp, hrecipient, hrandao, hgasLimit, hbaseFee, hlength, hrest⟩ := h
  -- a presence byte and a root are too short to make up for a length that wrapped
  have hlength : env.extraData.length = env'.extraData.length := by
    have hmod := congrArg BitVec.toNat hlength
    have htotal := congrArg List.length hrest
    rw [BitVec.toNat_ofNat, BitVec.toNat_ofNat] at hmod
    rw [List.length_append, List.length_append] at htotal
    split at htotal <;> split at htotal <;>
      simp only [List.length_cons, List.length_nil, length_beBytes] at htotal <;> omega
  obtain ⟨hextraData, hroot⟩ := List.append_inj hrest hlength
  have hroot : env.parentBeaconBlockRoot = env'.parentBeaconBlockRoot := by
    generalize env.parentBeaconBlockRoot = root at hroot
    generalize env'.parentBeaconBlockRoot = root' at hroot
    cases root with
    | none =>
      cases root' with
      | none => rfl
      | some root' => exact absurd (List.cons.inj hroot).1 (by decide)
    | some root =>
      cases root' with
      | none => exact absurd (List.cons.inj hroot).1 (by decide)
      | some root' => rw [beBytes_injective (List.cons.inj hroot).2]
  obtain ⟨timestamp, recipient, randao, gasLimit, extraData, baseFee, root⟩ := env
  obtain ⟨timestamp', recipient', randao', gasLimit', extraData', baseFee', root'⟩ := env'
  dsimp only at *
  subst hparent htimestamp hrecipient hrandao hgasLimit hbaseFee hextraData hroot
  rfl

lemma seedPreimage_ne_linkPreimage (parentHash : B256) (env : TaikoNextBlockEnvAttributes)
    (state tx : B256) : seedPreimage parentHash env ≠ linkPreimage state tx := by
  intro h
  have hlength := congrArg List.length h
  simp [seedPreimage, linkPreimage, TaikoBlockExecutor.hashBytes] at hlength
  omega

/-- What is hashed for the digest of a state. -/
def seedPreimages (codec : Codec) (parentHash : B256) (env : TaikoNextBlockEnvAttributes)
    (committed : List B256) : Set Bytes :=
  HashChain.preimages codec.keccak256
    (fun origin : B256 × TaikoNextBlockEnvAttributes => seedPreimage origin.1 origin.2)
    linkPreimage (parentHash, env) committed

section Seed

variable {codec : Codec} {parentHash parentHash' : B256} {env env' : TaikoNextBlockEnvAttributes}
  {committed committed' : List B256}

/-- Without collisions among what is hashed, the digest determines what it is taken of. -/
lemma selectionStateSeed_inj {strings : Set Bytes} (hkeccak : Set.InjOn codec.keccak256 strings)
    (h : seedPreimages codec parentHash env committed ⊆ strings)
    (h' : seedPreimages codec parentHash' env' committed' ⊆ strings)
    (hseed : selectionStateSeed codec parentHash env committed =
      selectionStateSeed codec parentHash' env' committed') :
    (parentHash, env) = (parentHash', env') ∧ committed = committed' :=
  HashChain.digest_inj seedPreimage_injective (fun _ _ _ _ => linkPreimage_inj)
    (fun _ _ _ => seedPreimage_ne_linkPreimage _ _ _ _) hkeccak h h' hseed

lemma selectionStateSeed_concat (tx : B256) :
    selectionStateSeed codec parentHash env (committed ++ [tx]) =
      advanceSelectionState codec (selectionStateSeed codec parentHash env committed) tx :=
  List.foldl_concat _ _ _ _

end Seed

/-- The digest of a state identifies its parent, every field of its environment and what is
committed, in order; a transaction that is committed advances it to that of the longer list. -/
theorem selectionStateSeed_identifies (codec : Codec) (parentHash parentHash' : B256)
    (env env' : TaikoNextBlockEnvAttributes) (committed committed' : List B256) :
    (Set.InjOn codec.keccak256 (seedPreimages codec parentHash env committed ∪
        seedPreimages codec parentHash' env' committed') →
      selectionStateSeed codec parentHash env committed =
        selectionStateSeed codec parentHash' env' committed' →
      parentHash = parentHash' ∧ env = env' ∧ committed = committed') ∧
    ∀ tx, advanceSelectionState codec (selectionStateSeed codec parentHash env committed) tx =
      selectionStateSeed codec parentHash env (committed ++ [tx]) := by
  refine ⟨fun hkeccak hseed => ?_, fun tx => (selectionStateSeed_concat tx).symm⟩
  obtain ⟨horigin, hcommitted⟩ := selectionStateSeed_inj hkeccak Set.subset_union_left
    Set.subset_union_right hseed
  obtain ⟨hparent, henv⟩ := Prod.mk.inj horigin
  exact ⟨hparent, henv, hcommitted⟩

/-- A codec whose hash is the length of what is hashed. -/
def lengthCodec : Codec :=
  { unitCodec with keccak256 := fun bytes => BitVec.ofNat 256 bytes.length }

/-- The environment of a block of transfers. -/
def transferEnv : TaikoNextBlockEnvAttributes := ⟨1, 0xc0, 0, 30000000, [], 7, some 0⟩

/-- What is hashed for the digest after one transaction. -/
def overflowStrings : Set Bytes := seedPreimages lengthCodec 0 transferEnv [1]

lemma keccak_injOn_overflowStrings : Set.InjOn lengthCodec.keccak256 overflowStrings := by
  have hstrings : ∀ bytes ∈ overflowStrings, bytes = seedPreimage 0 transferEnv ∨
      bytes = linkPreimage (selectionStateSeed lengthCodec 0 transferEnv []) 1 := by
    rintro bytes (hseed | ⟨hashes, hash, hprefix, rfl⟩)
    · exact .inl hseed
    · right
      obtain rfl : hashes = [] := by
        have hlength := hprefix.length_le
        exact List.eq_nil_of_length_eq_zero (by simpa using hlength)
      obtain ⟨rest, hrest⟩ := hprefix
      rw [(List.cons.inj hrest).1]
      rfl
  intro a ha b hb hsame
  rcases hstrings a ha with rfl | rfl <;> rcases hstrings b hb with rfl | rfl
  · rfl
  · exact absurd hsame (by decide +kernel)
  · exact absurd hsame (by decide +kernel)
  · rfl

/-- A list and a longer one have different digests. -/
theorem selectionStateSeed_identifies_longer :
    selectionStateSeed lengthCodec 0 transferEnv [] ≠
      selectionStateSeed lengthCodec 0 transferEnv [1] := by
  intro hseed
  have hstrings : seedPreimages lengthCodec 0 transferEnv [] ∪
      seedPreimages lengthCodec 0 transferEnv [1] ⊆ overflowStrings :=
    Set.union_subset (HashChain.preimages_subset _ (List.nil_prefix)) subset_rfl
  have hsame := (selectionStateSeed_identifies lengthCodec 0 0 transferEnv transferEnv [] [1]).1
    (keccak_injOn_overflowStrings.mono hstrings) hseed
  exact (nomatch hsame.2.2)

namespace History

variable (codec : Codec)

/-- The hashes of the history. -/
def hashes (history : History) : List B256 := history.committed.map (·.tx.hash)

/-- The digest selection gives a state. -/
def digest (history : History) : B256 :=
  selectionStateSeed codec history.parentHash history.env history.hashes

/-- What is hashed for the digest. -/
def preimages (history : History) : Set Bytes :=
  seedPreimages codec history.parentHash history.env history.hashes

/-- A history made of given transactions, for which only given strings are hashed. -/
structure Known (strings : Set Bytes) (txs : Set Recovered) (history : History) : Prop where
  strings : history.preimages codec ⊆ strings
  txs : ∀ tx ∈ history.committed, tx ∈ txs

variable {codec}

/-- Without collisions among strings and transactions, the digest determines the history. -/
theorem digest_inj {strings : Set Bytes} {txs : Set Recovered}
    (hkeccak : Set.InjOn codec.keccak256 strings)
    (hhash : Set.InjOn (fun tx : Recovered => tx.tx.hash) txs) {history history' : History}
    (h : history.Known codec strings txs) (h' : history'.Known codec strings txs)
    (hdigest : history.digest codec = history'.digest codec) : history = history' := by
  obtain ⟨horigin, hhashes⟩ := selectionStateSeed_inj hkeccak h.strings h'.strings hdigest
  have hcommitted : history.committed = history'.committed :=
    HashChain.eq_of_map_eq hhash h.txs h'.txs hhashes
  obtain ⟨parentHash, env, committed⟩ := history
  obtain ⟨parentHash', env', committed'⟩ := history'
  obtain ⟨rfl, rfl⟩ := Prod.mk.inj horigin
  obtain rfl := hcommitted
  rfl

/-- A transaction more is a link more. -/
lemma digest_concat (history : History) (tx : Recovered) :
    ({ history with committed := history.committed ++ [tx] } : History).digest codec
      = advanceSelectionState codec (history.digest codec) tx.tx.hash := by
  rw [digest, hashes, List.map_append]
  exact selectionStateSeed_concat tx.tx.hash

end History

/-! ### Calls -/

section Calls

variable (revm : Revm) (checks : OverflowChecks) (codec : Codec)
  (start : B256 → TaikoNextBlockEnvAttributes → TaikoBlockExecutor)

/-- Executed after a history, a transaction overflows the zk gas budget. -/
def Overflows (history : History) (tx : Recovered) : Prop :=
  ∃ e error e', (start history.parentHash history.env).executeTransactions revm checks
      history.committed = .ok (.ok (), e) ∧
    e.executeTransaction revm checks tx = .ok (.error error, e') ∧
    isZkGasLimitExceeded error = true

/-- A call of selection, in a block on a parent. -/
structure SelectionCall where
  parentHash : B256
  env : TaikoNextBlockEnvAttributes
  config : TxSelectionConfig
  builder : BlockBuilder
  pool : Pool
  isCancelled : ℕ → Bool

namespace SelectionCall

/-- The history of a block of the call. -/
def history (call : SelectionCall) (builder : BlockBuilder) : History :=
  ⟨call.parentHash, call.env, builder.transactions⟩

/-- The call starts after what its block holds, in the state of that history. -/
structure Starts (call : SelectionCall) : Prop where
  seed : call.config.stateSeed = (call.history call.builder).digest codec
  executed : (start call.parentHash call.env).executeTransactions revm checks
    call.builder.transactions = .ok (.ok (), call.builder.executor)
  tended : call.builder.executor.Tended
  ready : call.builder.executor.zkGasExhausted = false

/-- The rounds of a call. -/
def rounds (call : SelectionCall) (memory : ZkOverflowMemory) : List (Round call.pool.best) :=
  selectionRounds revm checks codec call.config call.builder call.pool memory call.isCancelled

/-- The memory a call leaves.  A round that panics has forgotten its candidate if that
committed, and has changed nothing else. -/
def memoryAfter (call : SelectionCall) (memory : ZkOverflowMemory) : ZkOverflowMemory :=
  match (call.rounds revm checks codec memory).getLast? with
  | none => memory.retain call.pool.contains
  | some r =>
    match r.result with
    | .ok (_, s) => s.overflows
    | .error _ =>
      if r.event revm checks codec call.config = .committed then
        r.before.overflows.forget r.candidate.tx.hash
      else r.before.overflows

/-- The memories a call goes through. -/
def memories (call : SelectionCall) (memory : ZkOverflowMemory) : List ZkOverflowMemory :=
  (call.rounds revm checks codec memory).map (·.before.overflows)
    ++ [call.memoryAfter revm checks codec memory]

/-- The transactions and the histories of a call are among given ones. -/
def InPlay (strings : Set Bytes) (txs : Set Recovered) (call : SelectionCall)
    (memory : ZkOverflowMemory) : Prop :=
  ∀ r ∈ call.rounds revm checks codec memory, r.candidate ∈ txs ∧
    (call.history r.before.builder).Known codec strings txs

end SelectionCall

/-- The memories any sequence of calls reaches from the empty one. -/
inductive Reached (strings : Set Bytes) (txs : Set Recovered) : ZkOverflowMemory → Prop
  | empty : Reached strings txs fun _ => none
  | call {memory : ZkOverflowMemory} {call : SelectionCall} (h : Reached strings txs memory)
      (hstarts : call.Starts revm checks codec start)
      (hplay : call.InPlay revm checks codec strings txs memory) :
      Reached strings txs (call.memoryAfter revm checks codec memory)

/-- Every entry of the memory is a transaction that overflows after the history whose digest
it was recorded with. -/
def Sound (strings : Set Bytes) (txs : Set Recovered) (memory : ZkOverflowMemory) : Prop :=
  ∀ hash state, memory.state hash = some state → ∃ tx ∈ txs, ∃ history : History,
    history.Known codec strings txs ∧ tx.tx.hash = hash ∧ history.digest codec = state ∧
      Overflows revm checks start history tx

/-- The state of a selection is that of what its block holds. -/
structure Tracks (call : SelectionCall) (s : Selection call.pool.best) : Prop where
  state : s.state = (call.history s.builder).digest codec
  executed : ∃ e, (start call.parentHash call.env).executeTransactions revm checks
      s.builder.transactions = .ok (.ok (), e) ∧
    TaikoBlockExecutor.Equivalent e s.builder.executor

variable {revm checks codec start}
variable {call : SelectionCall} {memory : ZkOverflowMemory} {strings : Set Bytes}
  {txs : Set Recovered}

lemma SelectionCall.memoryAfter_of_ok
    {answer : Except BlockExecutionError SelectionOutcome} {s : Selection call.pool.best}
    (h : selectAndExecutePoolTransactions revm checks codec call.config call.builder call.pool
      memory call.isCancelled = .ok (answer, s)) :
    call.memoryAfter revm checks codec memory = s.overflows := by
  rw [selectAndExecutePoolTransactions_eq] at h
  rw [SelectionCall.memoryAfter, SelectionCall.rounds]
  rcases answerAfter_eq_ok h with ⟨hnone, rfl, -⟩ | ⟨r, ran, hlast, hresult, -⟩
  · rw [hnone]
    rfl
  · rw [hlast]
    simp only [hresult]

/-- What a round does to the memory. -/
lemma Happens.overflows {config : TxSelectionConfig} {best : BestTransactions}
    {s s' : Selection best} {tx : Recovered} {isCancelled : Bool} {event : RoundEvent}
    {answer : Except BlockExecutionError Flow}
    (h : Happens revm checks codec config isCancelled s tx event answer s') :
    s'.overflows =
      if event = .committed then s.overflows.forget tx.tx.hash
      else if event = .overflowed then s.overflows.record tx.tx.hash s.state
      else s.overflows := by
  cases h with
  | cancelled h => rfl
  | budgetGone h => rfl
  | rejected h => rfl
  | skipped hadmitted h => rfl
  | unfit hconsidered hfit => exact hfit.overflows_eq
  | committed hconsidered hfit hrun hlists hgas hda => rfl
  | overflowed hconsidered hfit hrun herror =>
    rw [Selection.recordOverflow_overflows, ← hfit.overflows_eq, ← hfit.state_eq]
    rfl
  | invalid hconsidered hfit hrun => split <;> exact hfit.overflows_eq
  | failed hconsidered hfit hrun herror => exact hfit.overflows_eq

/-- A round of a call keeps the state that of what its block holds. -/
lemma Happens.tracks {config : TxSelectionConfig} {s s' : Selection call.pool.best}
    {tx : Recovered} {isCancelled : Bool} {event : RoundEvent}
    {answer : Except BlockExecutionError Flow}
    (h : Happens revm checks codec config isCancelled s tx event answer s')
    (htracks : Tracks revm checks codec start call s) :
    Tracks revm checks codec start call s' := by
  obtain ⟨hstate, e, hexecuted, hequivalent⟩ := htracks
  -- a candidate that does not commit leaves the block as it was
  have hidle : ∀ {t : Selection call.pool.best}, t.state = s.state →
      t.builder.transactions = s.builder.transactions →
      TaikoBlockExecutor.Equivalent e t.builder.executor →
      Tracks revm checks codec start call t := by
    intro t hsame htxs hequivalent
    refine ⟨?_, e, htxs ▸ hexecuted, hequivalent⟩
    rw [hsame, hstate, SelectionCall.history, SelectionCall.history, htxs]
  have hfailed : ∀ {error b}, s.builder.executeTransaction revm checks tx
      = .ok (.error error, b) → b.transactions = s.builder.transactions ∧
        s.builder.executor.executeTransaction revm checks tx = .ok (.error error, b.executor) := by
    intro error b hrun
    obtain ⟨executor, hexecutor, rfl⟩ := BlockBuilder.executeTransaction_eq_error.mp hrun
    exact ⟨rfl, hexecutor⟩
  cases h with
  | cancelled h => exact hidle rfl rfl hequivalent
  | budgetGone h => exact hidle rfl rfl hequivalent
  | rejected h => exact hidle rfl rfl hequivalent
  | skipped hadmitted h => exact hidle rfl rfl hequivalent
  | unfit hconsidered hfit =>
    refine hidle hfit.state_eq (congrArg BlockBuilder.transactions hfit.builder_eq) ?_
    rw [Selection.markInvalid_builder, hfit.builder_eq]
    exact hequivalent
  | committed hconsidered hfit hrun hlists hgas hda =>
    obtain ⟨executor, hexecutor, rfl⟩ := BlockBuilder.executeTransaction_eq_ok.mp hrun
    obtain ⟨e', hrun', hequivalent'⟩ := hequivalent.commits hexecutor
    refine ⟨?_, e', ?_, hequivalent'⟩
    · exact (congrArg (advanceSelectionState codec · tx.tx.hash) hstate).trans
        (History.digest_concat _ tx).symm
    · exact TaikoBlockExecutor.executeTransactions_concat hexecuted hrun'
  | overflowed hconsidered hfit hrun herror =>
    obtain ⟨htxs, hexecutor⟩ := hfailed hrun
    refine hidle ?_ ?_ ?_
    · rw [Selection.recordOverflow_state]
      exact hfit.state_eq
    · rw [Selection.recordOverflow_builder]
      exact htxs
    · rw [Selection.recordOverflow_builder]
      exact hequivalent.cleared hexecutor
  | invalid hconsidered hfit hrun =>
    obtain ⟨htxs, hexecutor⟩ := hfailed hrun
    have hequivalent' := hequivalent.trans (TaikoBlockExecutor.equivalent_of_error
      (.refl hequivalent.tended' hequivalent.ready') hexecutor rfl)
    split <;> exact hidle hfit.state_eq htxs hequivalent'
  | failed hconsidered hfit hrun herror =>
    obtain ⟨htxs, hexecutor⟩ := hfailed hrun
    exact hidle hfit.state_eq htxs (hequivalent.trans (TaikoBlockExecutor.equivalent_of_error
      (.refl hequivalent.tended' hequivalent.ready') hexecutor herror))

/-- After what its block holds, a transaction overflows exactly where it does so in the
selection. -/
lemma Tracks.overflows_iff {s : Selection call.pool.best}
    (h : Tracks revm checks codec start call s) (tx : Recovered) :
    Overflows revm checks start (call.history s.builder) tx ↔
      ∃ error b, s.builder.executeTransaction revm checks tx = .ok (.error error, b) ∧
        isZkGasLimitExceeded error = true := by
  obtain ⟨-, e, hexecuted, hequivalent⟩ := h
  constructor
  · rintro ⟨e₁, error, e', hexecuted', hrun, hzk⟩
    obtain ⟨-, rfl⟩ := Prod.mk.inj (Except.ok.inj (hexecuted.symm.trans hexecuted'))
    obtain ⟨executor, hexecutor⟩ := hequivalent.overflows hzk hrun
    exact ⟨error, _, BlockBuilder.executeTransaction_eq_error.mpr ⟨executor, hexecutor, rfl⟩, hzk⟩
  · rintro ⟨error, b, hrun, hzk⟩
    obtain ⟨executor, hexecutor, rfl⟩ := BlockBuilder.executeTransaction_eq_error.mp hrun
    obtain ⟨e', hrun'⟩ := hequivalent.symm.overflows hzk hexecutor
    exact ⟨e, _, e', hexecuted, hrun', hzk⟩

lemma SelectionCall.Starts.tracks (h : call.Starts revm checks codec start) :
    Tracks revm checks codec start call (.start call.config call.builder call.pool memory) :=
  ⟨h.seed, _, h.executed, .refl h.tended h.ready⟩

/-! ### Memories -/

/-- What is true of a memory once it is pruned, and stays true as rounds forget and record,
is true of every memory of a call. -/
theorem SelectionCall.memory_rule {Q : ZkOverflowMemory → Prop}
    (hstarts : call.Starts revm checks codec start)
    (hretain : Q (memory.retain call.pool.contains))
    (hforget : ∀ memory hash, Q memory → Q (ZkOverflowMemory.forget memory hash))
    (hrecord : ∀ r ∈ call.rounds revm checks codec memory,
      r.event revm checks codec call.config = .overflowed →
      Overflows revm checks start (call.history r.before.builder) r.candidate →
      r.before.state = (call.history r.before.builder).digest codec →
      Q r.before.overflows → Q (r.before.overflows.record r.candidate.tx.hash r.before.state)) :
    (∀ r ∈ call.rounds revm checks codec memory, Tracks revm checks codec start call r.before) ∧
      ∀ memory' ∈ call.memories revm checks codec memory, Q memory' := by
  -- what one round keeps, then every round, and the memory that the call leaves
  have hround : ∀ r ∈ call.rounds revm checks codec memory,
      r.Genuine revm checks codec call.config →
      Tracks revm checks codec start call r.before ∧ Q r.before.overflows →
      ∀ answer s', r.result = .ok (answer, s') →
        Tracks revm checks codec start call s' ∧ Q s'.overflows := by
    rintro r hr hgenuine ⟨htracks, hQ⟩ answer s' hresult
    have hhappens := hgenuine.happens hresult
    refine ⟨hhappens.tracks htracks, ?_⟩
    rw [hhappens.overflows]
    split
    · exact hforget _ _ hQ
    · split
      · next hevent =>
        refine hrecord r hr hevent ((htracks.overflows_iff _).mpr ?_) htracks.state hQ
        rw [hevent] at hhappens
        cases hhappens with
        | overflowed hconsidered hfit hrun herror => exact ⟨_, _, hrun, herror⟩
      · exact hQ
  have hrounds := fun r hr => selection_rounds_rule
    (I := fun s => Tracks revm checks codec start call s ∧ Q s.overflows)
    (fun s bestTxs h => ⟨⟨h.1.state, h.1.executed⟩, h.2⟩) hround ⟨hstarts.tracks, hretain⟩
    (r := r) hr
  refine ⟨fun r hr => (hrounds r hr).2.1, fun memory' hmemory' => ?_⟩
  rcases List.mem_append.mp hmemory' with hbefore | hend
  · obtain ⟨r, hr, rfl⟩ := List.mem_map.mp hbefore
    exact (hrounds r hr).2.2
  · obtain rfl := List.mem_singleton.mp hend
    rw [SelectionCall.memoryAfter]
    split
    · exact hretain
    · next r hlast =>
      have hr := List.mem_of_getLast? hlast
      obtain ⟨hgenuine, hI⟩ := hrounds r hr
      split
      · next hresult => exact (hround r hr hgenuine hI _ _ hresult).2
      · split
        · exact hforget _ _ hI.2
        · exact hI.2

namespace ZkOverflowMemory

lemma state_forget (memory : ZkOverflowMemory) (hash hash' : B256) :
    (memory.forget hash').state hash = if hash = hash' then none else memory.state hash :=
  Function.update_apply (β := Option B256) memory hash' none hash

lemma state_record (memory : ZkOverflowMemory) (hash hash' state : B256) :
    (memory.record hash' state).state hash
      = if hash = hash' then some state else memory.state hash :=
  Function.update_apply (β := Option B256) memory hash' (some state) hash

lemma state_retain (memory : ZkOverflowMemory) (keep : B256 → Bool) (hash : B256) :
    (memory.retain keep).state hash = if keep hash then memory.state hash else none := rfl

lemma forget_eq_some {hash hash' state : B256}
    (h : (memory.forget hash').state hash = some state) : memory.state hash = some state := by
  rw [state_forget] at h
  split at h
  · cases h
  · exact h

lemma retain_eq_some {keep : B256 → Bool} {hash state : B256}
    (h : (memory.retain keep).state hash = some state) :
    keep hash = true ∧ memory.state hash = some state := by
  rw [state_retain] at h
  split at h
  · next hkeep => exact ⟨hkeep, h⟩
  · cases h

lemma record_eq_some {hash hash' state state' : B256}
    (h : (memory.record hash' state').state hash = some state) :
    (hash' = hash ∧ state' = state) ∨ memory.state hash = some state := by
  rw [state_record] at h
  split at h
  · next hsame => exact .inl ⟨hsame.symm, Option.some.inj h⟩
  · exact .inr h

end ZkOverflowMemory

open ZkOverflowMemory (forget_eq_some retain_eq_some record_eq_some)

/-- A call keeps the memory sound, at every round. -/
theorem SelectionCall.sound (hstarts : call.Starts revm checks codec start)
    (hplay : call.InPlay revm checks codec strings txs memory)
    (hsound : Sound revm checks codec start strings txs memory) :
    (∀ r ∈ call.rounds revm checks codec memory, Tracks revm checks codec start call r.before) ∧
      ∀ memory' ∈ call.memories revm checks codec memory,
        Sound revm checks codec start strings txs memory' := by
  refine call.memory_rule hstarts ?_ ?_ ?_
  · exact fun hash state h => hsound hash state (retain_eq_some h).2
  · exact fun memory hash hsound hash' state h => hsound hash' state (forget_eq_some h)
  · intro r hr hevent hoverflows hstate hsound hash state h
    rcases record_eq_some h with ⟨rfl, rfl⟩ | hold
    · obtain ⟨hcandidate, hknown⟩ := hplay r hr
      exact ⟨r.candidate, hcandidate, _, hknown, rfl, hstate.symm, hoverflows⟩
    · exact hsound hash state hold

/-- What a call leaves in the memory was in the pool, or is recorded by the call. -/
theorem SelectionCall.remembers_within (hstarts : call.Starts revm checks codec start) :
    ∀ memory' ∈ call.memories revm checks codec memory, ∀ hash state,
      memory'.state hash = some state → call.pool.contains hash = true ∨
        ∃ r ∈ call.rounds revm checks codec memory,
          r.event revm checks codec call.config = .overflowed ∧ r.candidate.tx.hash = hash := by
  refine (call.memory_rule hstarts ?_ ?_ ?_).2
  · exact fun hash state h => .inl (retain_eq_some h).1
  · exact fun memory' hash hwithin hash' state h => hwithin hash' state (forget_eq_some h)
  · intro r hr hevent _ _ hwithin hash state h
    rcases record_eq_some h with ⟨rfl, -⟩ | hold
    · exact .inr ⟨r, hr, hevent, rfl⟩
    · exact hwithin hash state hold

/-- Every memory that calls reach is sound. -/
theorem Reached.sound (h : Reached revm checks codec start strings txs memory) :
    Sound revm checks codec start strings txs memory := by
  induction h with
  | empty =>
    intro hash state h
    cases h
  | call h hstarts hplay ih =>
    exact (SelectionCall.sound hstarts hplay ih).2 _
      (List.mem_append_right _ (List.mem_singleton_self _))

/-- A sound entry under the digest of a history is a transaction that overflows after it. -/
lemma Sound.overflows (hkeccak : Set.InjOn codec.keccak256 strings)
    (hhash : Set.InjOn (fun tx : Recovered => tx.tx.hash) txs)
    (h : Sound revm checks codec start strings txs memory) {tx : Recovered} (htx : tx ∈ txs)
    {history : History} (hknown : history.Known codec strings txs)
    (hentry : memory.state tx.tx.hash = some (history.digest codec)) :
    Overflows revm checks start history tx := by
  obtain ⟨tx', htx', history', hknown', hsame, hdigest, hoverflows⟩ := h _ _ hentry
  obtain rfl := hhash htx' htx hsame
  obtain rfl := History.digest_inj hkeccak hhash hknown' hknown hdigest
  exact hoverflows

/-- In every memory that a call goes through, after any sequence of calls, an entry is a
transaction and the digest of a history after which it overflows, and it was in the pool
when the call began or is recorded in it.  A candidate that is remembered with the current
digest would have overflowed. -/
theorem overflowMemory_sound (hkeccak : Set.InjOn codec.keccak256 strings)
    (hhash : Set.InjOn (fun tx : Recovered => tx.tx.hash) txs)
    (h : Reached revm checks codec start strings txs memory)
    (hstarts : call.Starts revm checks codec start)
    (hplay : call.InPlay revm checks codec strings txs memory) :
    (∀ memory' ∈ call.memories revm checks codec memory,
      (∀ hash state, memory'.state hash = some state →
        (∃ tx ∈ txs, ∃ history : History, history.Known codec strings txs ∧ tx.tx.hash = hash ∧
          history.digest codec = state) ∧
        (call.pool.contains hash = true ∨ ∃ r ∈ call.rounds revm checks codec memory,
          r.event revm checks codec call.config = .overflowed ∧ r.candidate.tx.hash = hash)) ∧
      ∀ tx ∈ txs, ∀ history : History, history.Known codec strings txs →
        memory'.state tx.tx.hash = some (history.digest codec) →
        Overflows revm checks start history tx) ∧
    ∀ r ∈ call.rounds revm checks codec memory,
      r.before.overflows.state r.candidate.tx.hash = some r.before.state →
      ∃ error builder, r.before.builder.executeTransaction revm checks r.candidate
          = .ok (.error error, builder) ∧ isZkGasLimitExceeded error = true := by
  obtain ⟨htracks, hsound⟩ := SelectionCall.sound hstarts hplay h.sound
  refine ⟨fun memory' hmemory' => ⟨fun hash state hentry => ⟨?_, ?_⟩, ?_⟩,
    fun r hr hremembered => ?_⟩
  · obtain ⟨tx, htx, history, hknown, hsame, hdigest, -⟩ :=
      hsound memory' hmemory' hash state hentry
    exact ⟨tx, htx, history, hknown, hsame, hdigest⟩
  · exact SelectionCall.remembers_within hstarts memory' hmemory' hash state hentry
  · intro tx htx history hknown hentry
    exact (hsound memory' hmemory').overflows hkeccak hhash htx hknown hentry
  · obtain ⟨hcandidate, hknown⟩ := hplay r hr
    have hbefore : r.before.overflows ∈ call.memories revm checks codec memory :=
      List.mem_append_left _ (List.mem_map_of_mem hr)
    rw [(htracks r hr).state] at hremembered
    exact ((htracks r hr).overflows_iff r.candidate).mp
      ((hsound _ hbefore).overflows hkeccak hhash hcandidate hknown hremembered)

end Calls

/-! ### A remembered overflow -/

/-- A call on a pool with a transaction that commits and one that then overflows. -/
def overflowCall : SelectionCall where
  parentHash := 0
  env := transferEnv
  config := { smallList with
    gasLimitPerList := 100000
    stateSeed := selectionStateSeed lengthCodec 0 transferEnv [] }
  builder := ⟨TaikoBlockExecutor.transferExecutor, []⟩
  pool := listPool [callTx 1 5 0, callTx 2 0x5555 1]
  isCancelled _ := false

/-- The memory after one such call. -/
def rememberedOnce : ZkOverflowMemory :=
  overflowCall.memoryAfter precompileRevm .on lengthCodec fun _ => none

lemma overflowCall_starts :
    overflowCall.Starts precompileRevm .on lengthCodec
      fun _ _ => TaikoBlockExecutor.transferExecutor where
  seed := rfl
  executed := rfl
  tended := TaikoBlockExecutor.transferExecutor_fresh.tended.1
  ready := rfl

lemma overflowCall_inPlay (memory : ZkOverflowMemory)
    (h : (overflowCall.rounds precompileRevm .on lengthCodec memory).map
        (fun r => (r.candidate, r.before.builder.transactions))
      = [(callTx 1 5 0, []), (callTx 2 0x5555 1, [callTx 1 5 0])]) :
    overflowCall.InPlay precompileRevm .on lengthCodec overflowStrings
      {callTx 1 5 0, callTx 2 0x5555 1} memory := by
  intro r hr
  have hmem := List.mem_map_of_mem (f := fun r => (r.candidate, r.before.builder.transactions)) hr
  rw [h] at hmem
  rcases List.mem_cons.mp hmem with hfirst | hmem
  · obtain ⟨hcandidate, htxs⟩ := Prod.mk.inj hfirst
    refine ⟨.inl hcandidate, ?_, ?_⟩
    · rw [SelectionCall.history, htxs]
      exact HashChain.preimages_subset _ (List.nil_prefix)
    · rw [SelectionCall.history, htxs]
      simp
  · obtain ⟨hcandidate, htxs⟩ := Prod.mk.inj (List.mem_singleton.mp hmem)
    refine ⟨.inr hcandidate, ?_, ?_⟩
    · rw [SelectionCall.history, htxs]
      exact subset_rfl
    · rw [SelectionCall.history, htxs]
      simp

/-- The second call finds the overflow of the first remembered with its own state, and the
transaction would have overflowed again. -/
theorem overflowMemory_sound_again :
    ∃ r ∈ overflowCall.rounds precompileRevm .on lengthCodec rememberedOnce,
      r.candidate = callTx 2 0x5555 1 ∧
      r.event precompileRevm .on lengthCodec overflowCall.config = .skipped ∧
      ∃ error builder, r.before.builder.executeTransaction precompileRevm .on r.candidate
          = .ok (.error error, builder) ∧ isZkGasLimitExceeded error = true := by
  have hplay := overflowCall_inPlay (fun _ => none) rfl
  have hplay' := overflowCall_inPlay rememberedOnce rfl
  have hhash : Set.InjOn (fun tx : Recovered => tx.tx.hash)
      {callTx 1 5 0, callTx 2 0x5555 1} := by
    rintro a (rfl | rfl) b (rfl | rfl) hsame
    · rfl
    · cases hsame
    · cases hsame
    · rfl
  obtain ⟨-, hskipped⟩ := overflowMemory_sound keccak_injOn_overflowStrings hhash
    (.call .empty overflowCall_starts hplay) overflowCall_starts hplay'
  have hrounds : (overflowCall.rounds precompileRevm .on lengthCodec rememberedOnce).map
      (fun r => (r.candidate, r.event precompileRevm .on lengthCodec overflowCall.config,
        decide (r.before.overflows.state r.candidate.tx.hash = some r.before.state)))
      = [(callTx 1 5 0, .committed, false), (callTx 2 0x5555 1, .skipped, true)] := by
    decide +kernel
  have hlast : (callTx 2 0x5555 1, RoundEvent.skipped, true)
      ∈ [(callTx 1 5 0, RoundEvent.committed, false), (callTx 2 0x5555 1, .skipped, true)] := by
    simp
  rw [← hrounds] at hlast
  obtain ⟨r, hr, hfacts⟩ := List.mem_map.mp hlast
  obtain ⟨hcandidate, hevent, hremembered⟩ : r.candidate = callTx 2 0x5555 1 ∧
      r.event precompileRevm .on lengthCodec overflowCall.config = .skipped ∧
      r.before.overflows.state r.candidate.tx.hash = some r.before.state := by
    simpa only [Prod.mk.injEq, decide_eq_true_eq] using hfacts
  exact ⟨r, hr, hcandidate, hevent, hskipped r hr hremembered⟩

end TxSelection

end AlethiaReth
