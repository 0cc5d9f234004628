import Mathlib.Data.BitVec
import AlethiaReth.Block.Committed
import AlethiaReth.Block.SelectionRounds

/-!
The lists a selection returns.

* `selection_completed`: the lists of a completed selection hold what was committed, in order,
  within their limits.
* `selection_keeps_blockGas`: where the limits of all lists fit the block, no candidate that
  finds a list is refused for the gas of the block.
* `selection_slots_iff`: no list is empty exactly where every list is opened from one that is
  not, for a candidate that, itself or a later one, can be committed.
-/

namespace AlethiaReth

open MachineInt Outcome

/-! ### Gas of one transaction -/

namespace TaikoBlockExecutor

variable {revm : Revm} {checks : OverflowChecks} {e e' : TaikoBlockExecutor} {tx : Recovered}

/-- An executor between transactions, within the gas of its block. -/
structure Ready (e : TaikoBlockExecutor) : Prop where
  tended : Tended e
  within : e.gasUsed.toNat ≤ e.evm.block.gasLimit.toNat

lemma Kept.ready (h : Kept e e') (hready : Ready e) : Ready e' := by
  refine ⟨h.tended hready.tended, ?_⟩
  rw [h.same]
  exact hready.within

lemma Fresh.ready (h : Fresh e) : Ready e :=
  ⟨h.tended.1, h.accounts.withinLimit⟩

/-- A committed transaction that used no more than its gas limit had room for it, and added
what it used to the block. -/
lemma executeTransaction_gas_of_le (h : Ready e) {gasUsed : U64}
    (hrun : e.executeTransaction revm checks tx = .ok (.ok gasUsed, e'))
    (hle : gasUsed.toNat ≤ tx.tx.gasLimit.toNat) :
    Ready e' ∧ e'.evm.block = e.evm.block ∧
      e'.gasUsed.toNat = e.gasUsed.toNat + gasUsed.toNat := by
  have hcommits : Commits revm checks e tx e' := ⟨gasUsed, hrun⟩
  have hblock := hcommits.block h.tended.owns
  have htended := hcommits.tended h.tended
  obtain ⟨output, e₁, hresult, hkept, hcommit⟩ := executeTransaction_committed h.tended.owns hrun
  obtain ⟨-, ⟨available, havailable, hfits⟩, -⟩ :=
    executeTransactionWithoutCommit_eq_ok.mp hresult
  have hroom : tx.tx.gasLimit.toNat ≤ e.evm.block.gasLimit.toNat - e.gasUsed.toNat := by
    rw [plainSub_eq_ok_of_le checks h.within] at havailable
    have hfits := BitVec.le_def.mp (BitVec.not_lt.mp hfits)
    rwa [← Except.ok.inj havailable, BitVec.toNat_sub_of_le (BitVec.le_def.mpr h.within)] at hfits
  obtain ⟨-, hadd⟩ := commitTransaction_gasUsed hcommit
  have hlimit := e.evm.block.gasLimit.isLt
  have hwithin := h.within
  have hsame : e₁.gasUsed = e.gasUsed := by rw [hkept.same]
  have hlt : e.gasUsed.toNat + gasUsed.toNat < 2 ^ 64 := by omega
  rw [hsame, plainAdd_eq_ok_of_lt checks hlt] at hadd
  have hsum : e'.gasUsed.toNat = e.gasUsed.toNat + gasUsed.toNat := by
    rw [← Except.ok.inj hadd, BitVec.toNat_add_of_lt hlt]
  refine ⟨⟨htended, ?_⟩, hblock, hsum⟩
  rw [hblock, hsum]
  omega

/-- A committed transaction had room for its gas limit, used no more of it, and added what
it used to the block. -/
theorem executeTransaction_gas (hgas : revm.ReportsGasWithinLimit) (h : Ready e) {gasUsed : U64}
    (hrun : e.executeTransaction revm checks tx = .ok (.ok gasUsed, e')) :
    Ready e' ∧ e'.evm.block = e.evm.block ∧
      e'.gasUsed.toNat = e.gasUsed.toNat + gasUsed.toNat ∧
      gasUsed.toNat ≤ tx.tx.gasLimit.toNat := by
  obtain ⟨output, e₁, hresult, hcommit⟩ := executeTransaction_eq_ok.mp hrun
  have hspec : WithoutCommitSpec e tx (.ok output, e₁) :=
    (executeTransactionWithoutCommit_spec hgas checks h.tended.owns h.within tx).of_ok hresult
  obtain ⟨-, -, -, -, hused, -⟩ := hspec
  rw [← (commitTransaction_gasUsed hcommit).1] at hused
  obtain ⟨hready, hblock, hsum⟩ := executeTransaction_gas_of_le h hrun hused
  exact ⟨hready, hblock, hsum, hused⟩

lemma executeTransaction_kept (h : Ready e) {error : BlockExecutionError}
    (hrun : e.executeTransaction revm checks tx = .ok (.error error, e')) : Kept e e' :=
  (executeTransactionWithoutCommit_kept revm checks h.tended.owns tx).of_ok
    (executeTransaction_eq_error.mp hrun)

lemma transactCharged_not_blockGas {gasLimit available : U64} :
    e.transactCharged revm checks tx ≠ .ok (.error (.validation
      (.transactionGasLimitMoreThanAvailableBlockGas gasLimit available)), e') := by
  intro h
  obtain ⟨⟨outcome, evm⟩, -, h⟩ := bind_eq_ok.mp h
  cases outcome with
  | error error =>
    dsimp only at h
    split at h
    · cases h
    · have herror := congrArg Prod.fst (Except.ok.inj h)
      cases error <;> cases herror
  | ok result =>
    dsimp only at h
    split at h <;> cases h

/-- A transaction is refused for the gas of the block only where its limit exceeds what is
left. -/
theorem executeTransaction_blockGas (h : Ready e) {gasLimit available : U64}
    (hrun : e.executeTransaction revm checks tx = .ok (.error (.validation
      (.transactionGasLimitMoreThanAvailableBlockGas gasLimit available)), e')) :
    e.evm.block.gasLimit.toNat < e.gasUsed.toNat + tx.tx.gasLimit.toNat := by
  rw [executeTransaction_eq_error, executeTransactionWithoutCommit] at hrun
  split at hrun
  · cases hrun
  · rw [plainSub_eq_ok_of_le checks h.within] at hrun
    dsimp only [bind, Except.bind] at hrun
    split at hrun
    · next hmore =>
      rw [gt_iff_lt, BitVec.lt_def,
        BitVec.toNat_sub_of_le (BitVec.le_def.mpr h.within)] at hmore
      have hle := h.within
      omega
    · split at hrun
      · cases hrun
      · exact absurd hrun transactCharged_not_blockGas

end TaikoBlockExecutor

namespace TxSelection

/-! ### Books -/

/-- The books of a list.  The sum of the sizes is that of `u64`; only where the limit is the
largest `u64` and the build does not check can it wrap. -/
structure ListBooked (checks : OverflowChecks) (codec : Codec) (config : TxSelectionConfig)
    (list : ExecutedTxList) : Prop where
  gas : list.totalGasUsed.toNat = (list.transactions.map (·.gasUsed.toNat)).sum
  gas_le : list.totalGasUsed ≤ config.gasLimitPerList
  da : list.totalDaBytes = (list.transactions.map (·.daSize)).sum
  da_exact : checks = .on ∨ config.maxDaBytesPerList ≠ BitVec.allOnes 64 →
    list.totalDaBytes.toNat = (list.transactions.map (·.daSize.toNat)).sum
  da_le : list.totalDaBytes ≤ config.maxDaBytesPerList
  admitted : ∀ etx ∈ list.transactions,
    Admitted codec config etx.tx ∧ etx.daSize = codec.daSize etx.tx

lemma listBooked_default (checks : OverflowChecks) (codec : Codec) (config : TxSelectionConfig) :
    ListBooked checks codec config .default where
  gas := rfl
  gas_le := BitVec.le_def.mpr (Nat.zero_le _)
  da := rfl
  da_exact _ := rfl
  da_le := BitVec.le_def.mpr (Nat.zero_le _)
  admitted := by simp [ExecutedTxList.default]

/-- A list with a transaction at its end keeps its books, if the transaction used no more
than the gas there was room for and its gas fits. -/
lemma ListBooked.append {checks : OverflowChecks} {codec : Codec} {config : TxSelectionConfig}
    {list : ExecutedTxList} (h : ListBooked checks codec config list) {tx : Recovered}
    (hadmitted : Admitted codec config tx)
    (hroom : HasRoom config list tx.tx.gasLimit (codec.daSize tx))
    {gasUsed totalGasUsed totalDaBytes : U64}
    (hused : gasUsed.toNat ≤ tx.tx.gasLimit.toNat)
    (hfits : list.totalGasUsed.toNat + gasUsed.toNat < 2 ^ 64)
    (hgas : plainAdd checks list.totalGasUsed gasUsed = .ok totalGasUsed)
    (hda : plainAdd checks list.totalDaBytes (codec.daSize tx) = .ok totalDaBytes) :
    ListBooked checks codec config
      ⟨list.transactions ++ [⟨tx, gasUsed, codec.daSize tx⟩], totalGasUsed, totalDaBytes⟩ := by
  rw [plainAdd_eq_ok_of_lt checks hfits] at hgas
  have htotal := Except.ok.inj hgas
  have hroomGas := BitVec.le_def.mp hroom.gas
  have hroomDa := BitVec.le_def.mp hroom.da
  rw [toNat_saturatingAdd] at hroomGas hroomDa
  have hwrapped : totalDaBytes = list.totalDaBytes + codec.daSize tx := by
    rw [plainAdd] at hda
    split at hda
    · exact (Except.ok.inj hda).symm
    · cases checks with
      | on => cases hda
      | off => exact (Except.ok.inj hda).symm
  -- the sum of bytes can wrap only in a release build with no limit
  have hexact : checks = .on ∨ config.maxDaBytesPerList ≠ BitVec.allOnes 64 →
      list.totalDaBytes.toNat + (codec.daSize tx).toNat < 2 ^ 64 := by
    rintro (rfl | hlimit)
    · by_contra hover
      rw [plainAdd, if_neg hover] at hda
      cases hda
    · have hne : config.maxDaBytesPerList.toNat ≠ 2 ^ 64 - 1 := fun heq =>
        hlimit (BitVec.eq_of_toNat_eq (by rw [heq, BitVec.toNat_allOnes]))
      have hlt := config.maxDaBytesPerList.isLt
      omega
  refine ⟨?_, ?_, ?_, ?_, ?_, ?_⟩
  · rw [← htotal, BitVec.toNat_add_of_lt hfits, h.gas]
    simp
  · rw [← htotal, BitVec.le_def, BitVec.toNat_add_of_lt hfits]
    omega
  · rw [hwrapped, h.da]
    simp
  · intro hcase
    rw [hwrapped, BitVec.toNat_add_of_lt (hexact hcase), h.da_exact hcase]
    simp
  · rw [hwrapped]
    by_cases hlimit : config.maxDaBytesPerList = BitVec.allOnes 64
    · have hlt := (list.totalDaBytes + codec.daSize tx).isLt
      rw [hlimit, BitVec.le_def, BitVec.toNat_allOnes]
      omega
    · have hlt := hexact (.inr hlimit)
      rw [BitVec.le_def, BitVec.toNat_add_of_lt hlt]
      omega
  · intro etx hetx
    rcases List.mem_append.mp hetx with hold | hnew
    · exact h.admitted etx hold
    · obtain rfl := List.mem_singleton.mp hnew
      exact ⟨hadmitted, rfl⟩

/-- The lists are those of what was committed since the builder, in order. -/
def Listed {best : BestTransactions} (builder : BlockBuilder) (s : Selection best) : Prop :=
  s.builder.transactions = builder.transactions ++ (s.lists.flatMap (·.transactions)).map (·.tx)

/-- The books of a selection on a builder: every list has its own, and their gas is what the
block grew by. -/
structure Booked (checks : OverflowChecks) (codec : Codec) (config : TxSelectionConfig)
    {best : BestTransactions} (builder : BlockBuilder) (s : Selection best) : Prop where
  ready : s.builder.executor.Ready
  block : s.builder.executor.evm.block = builder.executor.evm.block
  gasUsed : s.builder.executor.gasUsed.toNat
    = builder.executor.gasUsed.toNat + (s.lists.map (·.totalGasUsed.toNat)).sum
  length_le : s.lists.length ≤ config.maxLists
  lists : ∀ list ∈ s.lists, ListBooked checks codec config list

section Books

variable {revm : Revm} {checks : OverflowChecks} {codec : Codec} {config : TxSelectionConfig}
variable {best : BestTransactions} {builder b : BlockBuilder} {s s₁ s' : Selection best}
variable {tx : Recovered} {isCancelled : Bool} {event : RoundEvent}
  {answer : Except BlockExecutionError Flow}

/-- The books do not change while builder and lists do not. -/
lemma Booked.of_eq (h : Booked checks codec config builder s) (hbuilder : s'.builder = s.builder)
    (hlists : s'.lists = s.lists) : Booked checks codec config builder s' := by
  obtain ⟨hready, hblock, hgasUsed, hlength, hbooked⟩ := h
  rw [← hbuilder] at hready hblock hgasUsed
  rw [← hlists] at hgasUsed hlength hbooked
  exact ⟨hready, hblock, hgasUsed, hlength, hbooked⟩

/-- A list that was opened is empty. -/
lemma Booked.fitted {answer : Option InvalidPoolTransactionError}
    (h : Booked checks codec config builder s) (hfit : Fitted codec config s tx answer s₁) :
    Booked checks codec config builder s₁ := by
  have hlists := hfit.lists
  split at hlists
  · next hopens =>
    have hslot : s.lists.length < config.maxLists := by
      simpa using (Bool.and_eq_true_iff.mp hopens).2
    refine ⟨?_, ?_, ?_, ?_, ?_⟩
    · rw [hfit.builder_eq]
      exact h.ready
    · rw [hfit.builder_eq, h.block]
    · rw [hfit.builder_eq, h.gasUsed, hlists]
      simp [ExecutedTxList.default]
    · rw [hlists]
      simpa using hslot
    · intro list hmem
      rw [hlists] at hmem
      rcases List.mem_append.mp hmem with hold | hnew
      · exact h.lists list hold
      · obtain rfl := List.mem_singleton.mp hnew
        exact listBooked_default checks codec config
  · exact h.of_eq hfit.builder_eq hlists

/-- The books do not change while the executor keeps the block. -/
lemma Booked.of_kept (h : Booked checks codec config builder s)
    (hkept : TaikoBlockExecutor.Kept s.builder.executor b.executor) :
    Booked checks codec config builder { s with builder := b } := by
  refine ⟨hkept.ready h.ready, ?_, ?_, h.length_le, h.lists⟩
  · rw [← h.block]
    dsimp only
    rw [hkept.same]
  · rw [← h.gasUsed]
    dsimp only
    rw [hkept.same]

/-- A transaction that fails leaves the books alone. -/
lemma Booked.failed (h : Booked checks codec config builder s) {error : BlockExecutionError}
    (hrun : s.builder.executeTransaction revm checks tx = .ok (.error error, b)) :
    Booked checks codec config builder { s with builder := b } := by
  obtain ⟨executor, hexecutor, rfl⟩ := BlockBuilder.executeTransaction_eq_error.mp hrun
  exact h.of_kept (TaikoBlockExecutor.executeTransaction_kept h.ready hexecutor)

/-- A transaction that commits is booked in the last list. -/
lemma Booked.recorded (hgas : revm.ReportsGasWithinLimit)
    (h : Booked checks codec config builder s) (hadmitted : Admitted codec config tx)
    {earlier : List ExecutedTxList} {current : ExecutedTxList}
    (hlists : s.lists = earlier ++ [current])
    (hroom : HasRoom config current tx.tx.gasLimit (codec.daSize tx))
    {gasUsed totalGasUsed totalDaBytes : U64}
    (hrun : s.builder.executeTransaction revm checks tx = .ok (.ok gasUsed, b))
    (htotalGas : plainAdd checks current.totalGasUsed gasUsed = .ok totalGasUsed)
    (htotalDa : plainAdd checks current.totalDaBytes (codec.daSize tx) = .ok totalDaBytes)
    (hbuilder : s'.builder = b)
    (hlists' : s'.lists = earlier ++ [⟨current.transactions ++ [⟨tx, gasUsed, codec.daSize tx⟩],
      totalGasUsed, totalDaBytes⟩]) :
    Booked checks codec config builder s' := by
  obtain ⟨executor, hexecutor, rfl⟩ := BlockBuilder.executeTransaction_eq_ok.mp hrun
  obtain ⟨hready, hblock, hsum, hused⟩ :=
    TaikoBlockExecutor.executeTransaction_gas hgas h.ready hexecutor
  have hgasUsed := h.gasUsed
  have hlength := h.length_le
  have hbooked := h.lists
  rw [hlists] at hgasUsed hlength hbooked
  simp only [List.map_append, List.map_cons, List.map_nil, List.sum_append,
    List.sum_singleton] at hgasUsed
  -- the gas of the list is part of that of the block, which fits
  have hfits : current.totalGasUsed.toNat + gasUsed.toNat < 2 ^ 64 := by
    have hlt := executor.gasUsed.isLt
    omega
  have htotal : totalGasUsed.toNat = current.totalGasUsed.toNat + gasUsed.toNat := by
    rw [plainAdd_eq_ok_of_lt checks hfits] at htotalGas
    rw [← Except.ok.inj htotalGas, BitVec.toNat_add_of_lt hfits]
  refine ⟨?_, ?_, ?_, ?_, ?_⟩
  · rw [hbuilder]
    exact hready
  · rw [hbuilder, ← h.block]
    exact hblock
  · rw [hbuilder, hlists']
    simp only [List.map_append, List.map_cons, List.map_nil, List.sum_append,
      List.sum_singleton]
    omega
  · rw [hlists']
    simpa using hlength
  · intro list hmem
    rw [hlists'] at hmem
    rcases List.mem_append.mp hmem with hold | hnew
    · exact hbooked list (List.mem_append_left _ hold)
    · obtain rfl := List.mem_singleton.mp hnew
      exact (hbooked current (by simp)).append hadmitted hroom hused hfits htotalGas htotalDa

/-- Clearing the exhaustion a candidate left changes no books. -/
lemma Booked.recordOverflow (h : Booked checks codec config builder s) (remembered : Option B256) :
    Booked checks codec config builder (s.recordOverflow config tx remembered).2 := by
  have hcleared := h.of_kept
    (b := { s.builder with executor := s.builder.executor.clearZkGasExhaustion })
    s.builder.executor.clearZkGasExhaustion_kept
  exact hcleared.of_eq (by simp) (by simp)

/-- A round keeps the books. -/
theorem Happens.booked (hgas : revm.ReportsGasWithinLimit)
    (h : Happens revm checks codec config isCancelled s tx event answer s')
    (hbooked : Booked checks codec config builder s) :
    Booked checks codec config builder s' := by
  cases h with
  | cancelled h => exact hbooked
  | budgetGone h => exact hbooked
  | rejected h => exact hbooked.of_eq rfl rfl
  | skipped hadmitted h => exact hbooked.of_eq rfl rfl
  | unfit hconsidered hfit => exact (hbooked.fitted hfit).of_eq rfl rfl
  | committed hconsidered hfit hrun hlists htotalGas htotalDa =>
    obtain ⟨earlier', current', hlists', hroom⟩ := hfit.room rfl
    obtain ⟨rfl, hcurrent⟩ := List.append_inj' (hlists.symm.trans hlists') rfl
    obtain rfl := List.singleton_inj.mp hcurrent
    rw [← hfit.builder_eq] at hrun
    exact (hbooked.fitted hfit).recorded hgas (rejectCandidate_eq_none hconsidered.admitted)
      hlists hroom hrun htotalGas htotalDa rfl rfl
  | overflowed hconsidered hfit hrun herror =>
    rw [← hfit.builder_eq] at hrun
    exact ((hbooked.fitted hfit).failed hrun).recordOverflow _
  | invalid hconsidered hfit hrun =>
    rw [← hfit.builder_eq] at hrun
    have hfailed := (hbooked.fitted hfit).failed hrun
    split
    · exact hfailed
    · exact hfailed.of_eq rfl rfl
  | failed hconsidered hfit hrun herror =>
    rw [← hfit.builder_eq] at hrun
    exact (hbooked.fitted hfit).failed hrun

/-- The lists a round leaves: a candidate that looks for a list may open one, and one that
commits is added to the last. -/
lemma Happens.lists (h : Happens revm checks codec config isCancelled s tx event answer s') :
    ∃ lists, lists = (if event.considers ∧ s.opensList codec config tx then
        s.lists ++ [.default] else s.lists) ∧
      if event = .committed then
        ∃ earlier current etx totalGasUsed totalDaBytes, lists = earlier ++ [current] ∧
          s'.lists = earlier ++ [⟨current.transactions ++ [etx], totalGasUsed, totalDaBytes⟩] ∧
          etx.tx = tx ∧ s'.builder.transactions = s.builder.transactions ++ [tx]
      else s'.lists = lists ∧ s'.builder.transactions = s.builder.transactions := by
  have hfailed : ∀ {error b}, s.builder.executeTransaction revm checks tx = .ok (.error error, b) →
      b.transactions = s.builder.transactions := by
    intro error b hrun
    obtain ⟨executor, -, rfl⟩ := BlockBuilder.executeTransaction_eq_error.mp hrun
    rfl
  have hopened : ∀ {answer s₁}, Fitted codec config s tx answer s₁ → event.considers = true →
      s₁.lists = if event.considers ∧ s.opensList codec config tx then
        s.lists ++ [.default] else s.lists := by
    intro answer s₁ hfit hconsiders
    simpa [hconsiders] using hfit.lists
  refine ⟨_, rfl, ?_⟩
  -- only a candidate that is considered opens a list, and only a commit extends one
  cases h with
  | cancelled h => exact ⟨rfl, rfl⟩
  | budgetGone h => exact ⟨rfl, rfl⟩
  | rejected h => exact ⟨rfl, rfl⟩
  | skipped hadmitted h => exact ⟨rfl, rfl⟩
  | unfit hconsidered hfit =>
    have hlists := hopened hfit rfl
    exact ⟨hlists, congrArg BlockBuilder.transactions hfit.builder_eq⟩
  | committed hconsidered hfit hrun hlists hgas hda =>
    refine ⟨_, _, _, _, _, (hopened hfit rfl).symm.trans hlists, rfl, rfl, ?_⟩
    obtain ⟨executor, -, rfl⟩ := BlockBuilder.executeTransaction_eq_ok.mp hrun
    rfl
  | overflowed hconsidered hfit hrun herror =>
    have hlists := hopened hfit rfl
    have htxs := hfailed hrun
    rw [Selection.recordOverflow_lists, Selection.recordOverflow_builder]
    exact ⟨hlists, htxs⟩
  | invalid hconsidered hfit hrun =>
    have hlists := hopened hfit rfl
    have htxs := hfailed hrun
    rw [if_neg (by decide)]
    split <;> exact ⟨hlists, htxs⟩
  | failed hconsidered hfit hrun herror =>
    have hlists := hopened hfit rfl
    have htxs := hfailed hrun
    exact ⟨hlists, htxs⟩

/-- A round keeps the lists those of what was committed. -/
lemma Happens.listed (h : Happens revm checks codec config isCancelled s tx event answer s')
    (hlisted : Listed builder s) : Listed builder s' := by
  obtain ⟨lists, hlists, hround⟩ := h.lists
  have hflat : lists.flatMap (·.transactions) = s.lists.flatMap (·.transactions) := by
    rw [hlists]
    split
    · simp [ExecutedTxList.default]
    · rfl
  rw [Listed] at hlisted ⊢
  split at hround
  · obtain ⟨earlier, current, etx, _, _, heq, hafter, htx, hcommitted⟩ := hround
    rw [hcommitted, hlisted, ← hflat, heq, hafter]
    simp [htx]
  · rw [hround.1, hround.2, hflat, hlisted]

end Books

/-! ### Completed selections -/

section Completed

variable {revm : Revm} {checks : OverflowChecks} {codec : Codec} {config : TxSelectionConfig}
variable {builder : BlockBuilder} {pool : Pool} {overflows : ZkOverflowMemory}
variable {isCancelled : ℕ → Bool}

lemma booked_start (hready : builder.executor.Ready) (hmax : 1 ≤ config.maxLists) :
    Booked checks codec config builder (.start config builder pool overflows) where
  ready := hready
  block := rfl
  gasUsed := rfl
  length_le := hmax
  lists := by
    intro list hmem
    obtain rfl := List.mem_singleton.mp hmem
    exact listBooked_default checks codec config

/-- A completed selection returns at least one list and at most as many as it may.  Strung
together they are what the call committed, in order; every list has the sums of its
transactions for totals, within the limits, and every transaction was admitted. -/
theorem selection_completed (hgas : revm.ReportsGasWithinLimit) (hmax : 1 ≤ config.maxLists)
    (hready : builder.executor.Ready) {lists : List ExecutedTxList} {s : Selection pool.best}
    (h : selectAndExecutePoolTransactions revm checks codec config builder pool overflows
      isCancelled = .ok (.ok (.completed lists), s)) :
    1 ≤ lists.length ∧ lists.length ≤ config.maxLists ∧
      s.builder.transactions
        = builder.transactions ++ (lists.flatMap (·.transactions)).map (·.tx) ∧
      s.builder.executor.gasUsed.toNat = builder.executor.gasUsed.toNat
        + ((lists.flatMap (·.transactions)).map (·.gasUsed.toNat)).sum ∧
      ∀ list ∈ lists, ListBooked checks codec config list := by
  obtain ⟨hintact, hbooked, hlisted⟩ := selection_invariant
    (I := fun s => Booked checks codec config builder s ∧ Listed builder s)
    (fun s bestTxs h => ⟨h.1.of_eq rfl rfl, h.2⟩)
    (fun _ _ _ _ _ _ hround h => ⟨hround.booked hgas h.1, hround.listed h.2⟩)
    ⟨booked_start hready hmax, (List.append_nil _).symm⟩ h
  obtain rfl := completed_lists h
  refine ⟨List.length_pos_iff.mpr hintact.ne_nil, hbooked.length_le, hlisted, ?_,
    hbooked.lists⟩
  have hsums : s.lists.map (·.totalGasUsed.toNat)
      = s.lists.map fun list => (list.transactions.map (·.gasUsed.toNat)).sum :=
    List.map_congr_left fun list hmem => (hbooked.lists list hmem).gas
  rw [hbooked.gasUsed, hsums, List.map_flatMap, List.flatMap, List.sum_flatten, List.map_map]
  rfl

/-- Selects from a pool into two small lists. -/
def selectInTwo (txs : List Recovered) :
    Except Panic (Except BlockExecutionError SelectionOutcome ×
      Selection (listPool txs).best) :=
  selectAndExecutePoolTransactions transferRevm .on unitCodec { smallList with maxLists := 2 }
    ⟨TaikoBlockExecutor.transferExecutor, []⟩ (listPool txs) (fun _ => none) fun _ => false

/-- Two transfers that do not fit one list, in two. -/
theorem selection_completed_transfers :
    ∃ lists s, selectInTwo [transferTx 0xa1 0, transferTx 0xa1 1]
        = .ok (.ok (.completed lists), s) ∧
      lists.map (·.totalGasUsed) = [21000, 21000] ∧
      s.builder.transactions = [] ++ (lists.flatMap (·.transactions)).map (·.tx) := by
  obtain ⟨lists, s, hrun, htotals⟩ : ∃ lists s,
      selectInTwo [transferTx 0xa1 0, transferTx 0xa1 1] = .ok (.ok (.completed lists), s) ∧
        lists.map (·.totalGasUsed) = [21000, 21000] := ⟨_, _, rfl, rfl⟩
  have hready := TaikoBlockExecutor.transferExecutor_fresh.ready
  obtain ⟨-, -, hcommitted, -⟩ :=
    selection_completed transferRevm_reportsGasWithinLimit (by decide) hready hrun
  exact ⟨lists, s, hrun, htotals, hcommitted⟩

end Completed

/-! ### The gas of the block -/

section BlockGas

variable {revm : Revm} {checks : OverflowChecks} {codec : Codec} {config : TxSelectionConfig}
variable {builder : BlockBuilder}

/-- Where the limits of all lists fit the block, a candidate that finds a list has room in
the block. -/
lemma Booked.room {best : BestTransactions} {s : Selection best} {tx : Recovered}
    (h : Booked checks codec config builder s) (hlimit : config.gasLimitPerList ≠ BitVec.allOnes 64)
    (hfits : builder.executor.gasUsed.toNat + config.maxLists * config.gasLimitPerList.toNat
      ≤ builder.executor.evm.block.gasLimit.toNat)
    {earlier : List ExecutedTxList} {current : ExecutedTxList}
    (hlists : s.lists = earlier ++ [current])
    (hroom : HasRoom config current tx.tx.gasLimit (codec.daSize tx)) :
    s.builder.executor.gasUsed.toNat + tx.tx.gasLimit.toNat
      ≤ s.builder.executor.evm.block.gasLimit.toNat := by
  have hcurrent : current.totalGasUsed.toNat + tx.tx.gasLimit.toNat
      ≤ config.gasLimitPerList.toNat := by
    have hle := BitVec.le_def.mp hroom.gas
    have hne : config.gasLimitPerList.toNat ≠ 2 ^ 64 - 1 := fun heq =>
      hlimit (BitVec.eq_of_toNat_eq (by rw [heq, BitVec.toNat_allOnes]))
    have hlt := config.gasLimitPerList.isLt
    rw [toNat_saturatingAdd] at hle
    omega
  have hearlier : (earlier.map (·.totalGasUsed.toNat)).sum
      ≤ earlier.length * config.gasLimitPerList.toNat := by
    rw [← List.length_map (·.totalGasUsed.toNat), ← smul_eq_mul]
    refine List.sum_le_card_nsmul _ _ fun gas hgas => ?_
    obtain ⟨list, hmem, rfl⟩ := List.mem_map.mp hgas
    exact BitVec.le_def.mp (h.lists list (hlists ▸ List.mem_append_left _ hmem)).gas_le
  have hslots : (earlier.length + 1) * config.gasLimitPerList.toNat
      ≤ config.maxLists * config.gasLimitPerList.toNat := by
    refine Nat.mul_le_mul_right _ ?_
    simpa [hlists] using h.length_le
  rw [h.gasUsed, h.block, hlists]
  simp only [List.map_append, List.map_cons, List.map_nil, List.sum_append, List.sum_singleton]
  rw [Nat.add_mul, Nat.one_mul] at hslots
  omega

/-- Where the limits of all lists fit the block, no candidate of a selection is refused for
the gas of the block. -/
theorem selection_keeps_blockGas (hgas : revm.ReportsGasWithinLimit)
    (hmax : 1 ≤ config.maxLists) (hready : builder.executor.Ready)
    (hlimit : config.gasLimitPerList ≠ BitVec.allOnes 64)
    (hfits : builder.executor.gasUsed.toNat + config.maxLists * config.gasLimitPerList.toNat
      ≤ builder.executor.evm.block.gasLimit.toNat)
    {pool : Pool} {overflows : ZkOverflowMemory} {isCancelled : ℕ → Bool}
    {gasLimit available : U64} {s : Selection pool.best} :
    selectAndExecutePoolTransactions revm checks codec config builder pool overflows isCancelled
      ≠ .ok (.error (.validation
        (.transactionGasLimitMoreThanAvailableBlockGas gasLimit available)), s) := by
  intro h
  rw [selectAndExecutePoolTransactions_eq] at h
  rcases answerAfter_eq_ok h with ⟨-, -, hanswer⟩ | ⟨r, ran, hlast, hresult, hanswer⟩
  · cases hanswer
  · rcases hanswer with ⟨error, rfl, hanswer⟩ | hanswer | hanswer
    · obtain rfl := Except.error.inj hanswer
      obtain ⟨hgenuine, hbooked⟩ := selection_rounds_invariant
        (I := Booked checks codec config builder) (fun s bestTxs h => h.of_eq rfl rfl)
        (fun _ _ _ _ _ _ hround h => hround.booked hgas h) (booked_start hready hmax)
        (List.mem_of_getLast? hlast)
      have hround := hgenuine.happens hresult
      generalize r.event revm checks codec config = event at hround
      cases hround with
      | failed hconsidered hfit hrun herror =>
        obtain ⟨earlier, current, hlists, hroom⟩ := hfit.room rfl
        have hle := (hbooked.fitted hfit).room hlimit hfits hlists hroom
        rw [hfit.builder_eq] at hle
        obtain ⟨executor, hexecutor, rfl⟩ := BlockBuilder.executeTransaction_eq_error.mp hrun
        have hlt := TaikoBlockExecutor.executeTransaction_blockGas hbooked.ready hexecutor
        omega
    · cases hanswer
    · cases hanswer

end BlockGas

/-! ### Slots -/

section Slots

variable (revm : Revm) (checks : OverflowChecks) (codec : Codec) (config : TxSelectionConfig)
variable {best : BestTransactions} (e : TaikoBlockExecutor)

/-- The transaction fails a check before its first frame: those of its fields and of its fee
cap, of its nonce, or of the funds of its sender. -/
def Invalid (tx : Recovered) : Prop :=
  ∃ error, prepare revm (e.env tx) e.evm.extraExecutionCtx = .error (.transaction error)

/-- Executing the transaction overflows the zk gas that the block has left. -/
def OverBudget (tx : Recovered) : Prop :=
  ∃ e', e.executeTransactionWithoutCommit revm checks tx = .ok (.error .zkGasLimitError, e')

/-- The candidate opens a list: it gets as far as looking for one, is over the limits of the
current one, and another can be started. -/
def Round.Opens (r : Round best) : Prop :=
  r.isCancelled = false ∧ Considered codec config r.before r.candidate ∧
    r.before.opensList codec config r.candidate = true

/-- The candidate can be committed: it gets as far as looking for a list, has room in the
current one or in a new one that can be started, is valid, and within the zk gas left. -/
structure Round.Takes (r : Round best) : Prop where
  polled : r.isCancelled = false
  considered : Considered codec config r.before r.candidate
  fits : r.before.exceedsCurrent codec config r.candidate = true →
    r.before.lists.length < config.maxLists ∧
      Selection.newListRefuses codec config r.candidate = false
  valid : ¬ Invalid revm r.before.builder.executor r.candidate
  inBudget : ¬ OverBudget revm checks r.before.builder.executor r.candidate

variable {revm checks codec config}

/-- An invalid transaction is one that failed a check before its first frame. -/
lemma invalid_of_executeTransaction {e e' : TaikoBlockExecutor} {tx : Recovered} {hash : B256}
    {error : InvalidTransaction} (ho : e.OwnsEvm)
    (hrun : e.executeTransaction revm checks tx
      = .ok (.error (.validation (.invalidTx hash error)), e')) : Invalid revm e tx := by
  rw [TaikoBlockExecutor.executeTransaction_eq_error,
    TaikoBlockExecutor.executeTransactionWithoutCommit] at hrun
  split at hrun
  · cases hrun
  · obtain ⟨available, -, hrun⟩ := bind_eq_ok.mp hrun
    split at hrun
    · cases hrun
    · have hcharged := e.charged_sameBut
      dsimp only at hrun
      split at hrun
      · cases hrun
      · next evm₁ heq =>
        rw [heq, TaikoEvmWrapper.SameBut] at hcharged
        obtain ⟨⟨outcome, evm⟩, hraw, hanswer⟩ := bind_eq_ok.mp hrun
        dsimp only at hraw hanswer hcharged
        rw [hcharged] at hraw
        obtain ⟨ran, homes', hhandler, houtcome⟩ :=
          TaikoEvmWrapper.transactRaw_eq_ok hraw ho.reset ho.derive
        cases ran with
        | ok ran =>
          subst houtcome
          dsimp only [Except.map] at hanswer
          split at hanswer <;> cases hanswer
        | error failure =>
          subst houtcome
          dsimp only [Except.map] at hanswer
          split at hanswer
          · cases hanswer
          · cases failure with
            | transaction invalid => exact ⟨invalid, handlerRun_invalid hhandler⟩
            | header message => cases hanswer
            | database failure => cases hanswer
            | custom message => cases hanswer
            | outOfFuel => cases hanswer

lemma eq_zkGasLimitError {error : BlockExecutionError} (h : isZkGasLimitExceeded error = true) :
    error = .zkGasLimitError := by
  rw [isZkGasLimitExceeded.eq_def] at h
  split at h
  · rfl
  · cases h

/-- A round leaves the EVM to the executor. -/
lemma Happens.owns {isCancelled : Bool} {s s' : Selection best} {tx : Recovered}
    {event : RoundEvent} {answer : Except BlockExecutionError Flow}
    (h : Happens revm checks codec config isCancelled s tx event answer s')
    (ho : s.builder.executor.OwnsEvm) : s'.builder.executor.OwnsEvm := by
  have hfailed : ∀ {error b}, s.builder.executeTransaction revm checks tx = .ok (.error error, b) →
      b.executor.OwnsEvm := by
    intro error b hrun
    obtain ⟨executor, hexecutor, rfl⟩ := BlockBuilder.executeTransaction_eq_error.mp hrun
    rw [TaikoBlockExecutor.executeTransaction_eq_error] at hexecutor
    exact ((TaikoBlockExecutor.executeTransactionWithoutCommit_kept revm checks ho tx).of_ok
      hexecutor).owns ho
  cases h with
  | cancelled h => exact ho
  | budgetGone h => exact ho
  | rejected h => exact ho
  | skipped hadmitted h => exact ho
  | unfit hconsidered hfit =>
    rw [Selection.markInvalid_builder, hfit.builder_eq]
    exact ho
  | committed hconsidered hfit hrun hlists hgas hda =>
    obtain ⟨executor, hexecutor, rfl⟩ := BlockBuilder.executeTransaction_eq_ok.mp hrun
    obtain ⟨homes', outcome, -, -, hevm⟩ :=
      TaikoBlockExecutor.executeTransaction_transacted ho hexecutor
    refine ⟨?_, ?_⟩
    · exact (congrArg TaikoEvmWrapper.resetZkGasPerTransact hevm).trans ho.reset
    · exact (congrArg TaikoEvmWrapper.deriveAnchorCtx hevm).trans ho.derive
  | overflowed hconsidered hfit hrun herror =>
    rw [Selection.recordOverflow_builder]
    exact (TaikoBlockExecutor.clearZkGasExhaustion_kept _).owns (hfailed hrun)
  | invalid hconsidered hfit hrun => split <;> exact hfailed hrun
  | failed hconsidered hfit hrun herror => exact hfailed hrun

section Rounds

variable {r : Round best} {flow : Flow} {s' : Selection best}

/-- A candidate looks for a list where it is polled for and considered. -/
lemma Round.considers_iff (hgenuine : r.Genuine revm checks codec config)
    (hresult : r.result = .ok (.ok flow, s')) :
    (r.event revm checks codec config).considers = true ↔
      r.isCancelled = false ∧ Considered codec config r.before r.candidate := by
  refine ⟨fun h => ⟨polled_of_roundEvent h, considered_of_roundEvent h⟩,
    fun ⟨hpolled, hconsidered⟩ => ?_⟩
  have hround := hgenuine.happens hresult
  generalize r.event revm checks codec config = event at hround
  cases hround with
  | cancelled h => rw [hpolled] at h; cases h
  | budgetGone h => rw [hconsidered.canFit] at h; cases h
  | rejected h => rw [hconsidered.admitted] at h; cases h
  | skipped hadmitted h => exact absurd h hconsidered.notRemembered
  | unfit => rfl
  | committed => rfl
  | overflowed => rfl
  | invalid => rfl

/-- In a call that goes on, the candidates that commit are those that can be. -/
lemma Round.committed_iff (hgenuine : r.Genuine revm checks codec config)
    (ho : r.before.builder.executor.OwnsEvm) (hresult : r.result = .ok (.ok flow, s')) :
    r.event revm checks codec config = .committed ↔ r.Takes revm checks codec config := by
  have hround := hgenuine.happens hresult
  constructor
  · intro hevent
    have hconsiders : (r.event revm checks codec config).considers = true := by rw [hevent]; rfl
    have hpolled := polled_of_roundEvent hconsiders
    rw [hevent] at hround
    generalize hanswer : Except.ok flow = answer at hround
    cases hround with
    | committed hconsidered hfit hrun hlists hgas hda =>
      obtain ⟨executor, hexecutor, -⟩ := BlockBuilder.executeTransaction_eq_ok.mp hrun
      obtain ⟨homes', outcome, ⟨ran⟩, -⟩ :=
        TaikoBlockExecutor.executeTransaction_transacted ho hexecutor
      refine ⟨hpolled, hconsidered, hfit.fits.mp rfl, ?_, ?_⟩
      · rintro ⟨error, hinvalid⟩
        rw [ran.prepare_eq] at hinvalid
        cases hinvalid
      · rintro ⟨e', hover⟩
        obtain ⟨output, e₁, houtput, -⟩ :=
          TaikoBlockExecutor.executeTransaction_eq_ok.mp hexecutor
        rw [houtput] at hover
        cases hover
  -- each other event contradicts one of the conditions
  · rintro ⟨hpolled, hconsidered, hfits, hvalid, hbudget⟩
    have hconsiders := (Round.considers_iff hgenuine hresult).mpr ⟨hpolled, hconsidered⟩
    generalize r.event revm checks codec config = event at hround hconsiders
    generalize hanswer : Except.ok flow = answer at hround
    cases hround with
    | cancelled | budgetGone | rejected | skipped => cases hconsiders
    | unfit _ hfit => cases hfit.fits.mpr hfits
    | committed => rfl
    | overflowed _ hfit hrun herror =>
      obtain ⟨executor, hexecutor, -⟩ := BlockBuilder.executeTransaction_eq_error.mp hrun
      rw [TaikoBlockExecutor.executeTransaction_eq_error, eq_zkGasLimitError herror] at hexecutor
      exact absurd ⟨executor, hexecutor⟩ hbudget
    | invalid _ hfit hrun =>
      obtain ⟨executor, hexecutor, -⟩ := BlockBuilder.executeTransaction_eq_error.mp hrun
      exact absurd (invalid_of_executeTransaction ho hexecutor) hvalid
    | failed => cases hanswer

/-- What a round of a call that goes on does to the lists: its candidate opens one where it
must, and is added to the last where it can be committed. -/
lemma Round.lists (hgenuine : r.Genuine revm checks codec config)
    (ho : r.before.builder.executor.OwnsEvm) (hresult : r.result = .ok (.ok flow, s')) :
    ∃ earlier current list,
      (r.Opens codec config ∧ earlier = r.before.lists ∧ current = .default ∨
        ¬ r.Opens codec config ∧ r.before.lists = earlier ++ [current]) ∧
      s'.lists = earlier ++ [list] ∧
      (r.Takes revm checks codec config ∧ list.transactions ≠ [] ∧
          s'.builder.transactions = r.before.builder.transactions ++ [r.candidate] ∨
        ¬ r.Takes revm checks codec config ∧ list = current ∧
          s'.builder.transactions = r.before.builder.transactions) := by
  obtain ⟨lists, hlists, hround⟩ := (hgenuine.happens hresult).lists
  have hopened : ∃ earlier current, lists = earlier ++ [current] ∧
      (r.Opens codec config ∧ earlier = r.before.lists ∧ current = .default ∨
        ¬ r.Opens codec config ∧ r.before.lists = earlier ++ [current]) := by
    have hiff : _ ∧ r.before.opensList codec config r.candidate = true ↔ r.Opens codec config :=
      (and_congr_left' (Round.considers_iff hgenuine hresult)).trans and_assoc
    split at hlists
    · next hopens => exact ⟨_, _, hlists, .inl ⟨hiff.mp hopens, rfl, rfl⟩⟩
    · next hopens =>
      obtain ⟨earlier, current, heq⟩ :=
        (List.eq_nil_or_concat r.before.lists).resolve_left hgenuine.intact.ne_nil
      rw [List.concat_eq_append] at heq
      exact ⟨earlier, current, hlists.trans heq, .inr ⟨mt hiff.mpr hopens, heq⟩⟩
  obtain ⟨earlier, current, rfl, hopened⟩ := hopened
  have hiff := Round.committed_iff hgenuine ho hresult
  split at hround
  · next hcommitted =>
    obtain ⟨earlier', current', etx, _, _, heq, hafter, -, htxs⟩ := hround
    obtain ⟨rfl, -⟩ := List.append_inj' heq rfl
    exact ⟨earlier, current, _, hopened, hafter, .inl ⟨hiff.mp hcommitted, by simp, htxs⟩⟩
  · next hcommitted =>
    exact ⟨earlier, current, current, hopened, hround.1,
      .inr ⟨mt hiff.mpr hcommitted, rfl, hround.2⟩⟩

/-- The current list is not empty. -/
def Selection.InUse (s : Selection best) : Prop :=
  ∀ list, s.lists.getLast? = some list → list.transactions ≠ []

variable (revm checks codec config) in
/-- The rounds so far tell which lists are empty: an earlier one where a list was opened from
an empty one, and the last of several where none was committed since it was opened. -/
structure Slots (rs : List (Round best)) (s : Selection best) : Prop where
  owns : s.builder.executor.OwnsEvm
  earlier : (∀ list ∈ s.lists.dropLast, list.transactions ≠ []) ↔
    ∀ r ∈ rs, r.Opens codec config → r.before.InUse
  last : s.lists.length = 1 ∨ s.InUse ↔ ∀ r after, r :: after <:+ rs → r.Opens codec config →
    ∃ r' ∈ r :: after, r'.Takes revm checks codec config

/-- A round keeps the account of the empty lists. -/
lemma Slots.round {rs : List (Round best)} (h : Slots revm checks codec config rs r.before)
    (hgenuine : r.Genuine revm checks codec config) (hresult : r.result = .ok (.ok flow, s')) :
    Slots revm checks codec config (rs ++ [r]) s' := by
  obtain ⟨earlier, current, list, hopened, hlists, htaken⟩ :=
    Round.lists hgenuine h.owns hresult
  refine ⟨(hgenuine.happens hresult).owns h.owns, ?_, ?_⟩
  · -- the lists before the last are those that were closed
    rw [List.forall_mem_append, List.forall_mem_singleton, ← h.earlier, hlists,
      List.dropLast_concat]
    rcases hopened with ⟨hopens, rfl, -⟩ | ⟨hopens, hbefore⟩
    · obtain ⟨init, last, heq⟩ :=
        (List.eq_nil_or_concat r.before.lists).resolve_left hgenuine.intact.ne_nil
      simp [Selection.InUse, heq, hopens, or_imp, forall_and]
    · simp [hbefore, hopens]
  · -- the last is the one in use
    rw [Loop.followed_concat_iff, ← h.last]
    rcases htaken with ⟨htakes, hne, -⟩ | ⟨htakes, rfl, -⟩
    · simp [Selection.InUse, hlists, hne, htakes]
    · rcases hopened with ⟨hopens, rfl, rfl⟩ | ⟨hopens, hbefore⟩
      · simp [Selection.InUse, hlists, hopens, htakes, hgenuine.intact.ne_nil,
          ExecutedTxList.default]
      · simp [Selection.InUse, hlists, hbefore, hopens, htakes]

end Rounds

variable {builder : BlockBuilder} {pool : Pool} {overflows : ZkOverflowMemory}
variable {isCancelled : ℕ → Bool}

/-- The account of the empty lists, before every round of a call and where it completes. -/
lemma selection_slots (ho : builder.executor.OwnsEvm) :
    (∀ before r after, selectionRounds revm checks codec config builder pool overflows isCancelled
        = before ++ r :: after →
      r.Genuine revm checks codec config ∧ Slots revm checks codec config before r.before) ∧
    ∀ lists s, selectAndExecutePoolTransactions revm checks codec config builder pool overflows
        isCancelled = .ok (.ok (.completed lists), s) →
      Slots revm checks codec config
        (selectionRounds revm checks codec config builder pool overflows isCancelled) s := by
  have hstart : Slots revm checks codec config []
      (.start config builder pool overflows : Selection pool.best) :=
    ⟨ho, by simp [Selection.start], by simp [Selection.start]⟩
  have hrule : ∀ before r after,
      selectionRounds revm checks codec config builder pool overflows isCancelled
        = before ++ r :: after →
      r.Genuine revm checks codec config ∧ Slots revm checks codec config before r.before :=
    fun before r after heq => rounds_rule (I := Slots revm checks codec config)
      (P := fun rs r => r.Genuine revm checks codec config ∧
        Slots revm checks codec config rs r.before)
      (fun rs s bestTxs h => ⟨h.owns, h.earlier, h.last⟩)
      (fun rs r hgenuine h => ⟨⟨hgenuine, h⟩, fun s' hnext =>
        h.round hgenuine (Round.next_eq_some.mp hnext)⟩)
      (Selection.start_intact config builder pool overflows) hstart heq
  -- after the last round as before it
  refine ⟨hrule, fun lists s h => ?_⟩
  rw [selectAndExecutePoolTransactions_eq] at h
  rcases List.eq_nil_or_concat
    (selectionRounds revm checks codec config builder pool overflows isCancelled) with
    hnil | ⟨init, last, heq⟩
  · rw [hnil] at h ⊢
    cases h
    exact hstart
  · rw [List.concat_eq_append] at heq
    obtain ⟨hgenuine, hslots⟩ := hrule init last [] heq
    rw [heq, List.getLast?_concat, answerAfter] at h
    rw [heq]
    split at h
    · cases h
    · cases h
    · cases h
    · next flow s' _ hresult =>
      cases h
      exact hslots.round hgenuine hresult

/-- A candidate takes a slot without being committed exactly where it opens a list and is then
refused: by the check of the new list, as invalid, or for the zk gas of the block.  A completed
selection returns one empty list for nothing committed, or no empty list, exactly where every
list was opened from one that is not empty, and for a candidate that, itself or a later one, can
be committed; with one list none is opened. -/
theorem selection_slots_iff (ho : builder.executor.OwnsEvm) {lists : List ExecutedTxList}
    {s : Selection pool.best}
    (h : selectAndExecutePoolTransactions revm checks codec config builder pool overflows
      isCancelled = .ok (.ok (.completed lists), s)) :
    let rounds := selectionRounds revm checks codec config builder pool overflows isCancelled
    (∀ r ∈ rounds, ∀ flow s', r.result = .ok (.ok flow, s') →
      (s'.lists.length ≠ r.before.lists.length ∧
          s'.builder.transactions = r.before.builder.transactions ↔
        r.Opens codec config ∧ ¬ r.Takes revm checks codec config)) ∧
    ((lists.map (·.transactions) = [[]] ∧ s.builder.transactions = builder.transactions ∨
        ∀ list ∈ lists, list.transactions ≠ []) ↔
      ∀ r after, r :: after <:+ rounds → r.Opens codec config →
        r.before.InUse ∧ ∃ r' ∈ r :: after, r'.Takes revm checks codec config) ∧
    (config.maxLists ≤ 1 → ∀ r ∈ rounds, ¬ r.Opens codec config) := by
  intro rounds
  obtain ⟨hrule, hend⟩ := @selection_slots revm checks codec config builder pool overflows
    isCancelled ho
  have hslots := hend lists s h
  obtain rfl := completed_lists h
  obtain ⟨hintact, hlisted⟩ := selection_invariant (I := Listed builder) (fun s bestTxs h => h)
    (fun _ _ _ _ _ _ hround h => hround.listed h) (List.append_nil _).symm h
  refine ⟨fun r hr flow s' hresult => ?_, ?_, fun hmax r hr hopens => ?_⟩
  · -- what one round does to the lists
    obtain ⟨before, after, heq⟩ := List.append_of_mem hr
    obtain ⟨hgenuine, hbefore⟩ := hrule before r after heq
    obtain ⟨earlier, current, list, hopened, hlists, htaken⟩ :=
      Round.lists hgenuine hbefore.owns hresult
    rcases hopened with ⟨hopens, rfl, -⟩ | ⟨hopens, hsame⟩
    · rcases htaken with ⟨htakes, -, htxs⟩ | ⟨htakes, -, htxs⟩ <;>
        simp [hlists, hopens, htakes, htxs]
    · simp [hlists, hsame, hopens]
  · -- which lists are empty in the end
    obtain ⟨earlier, last, heq⟩ := (List.eq_nil_or_concat s.lists).resolve_left hintact.ne_nil
    rw [List.concat_eq_append] at heq
    have hreturned : (s.lists.map (·.transactions) = [[]] ∧
          s.builder.transactions = builder.transactions ∨
        ∀ list ∈ s.lists, list.transactions ≠ []) ↔
        (∀ list ∈ s.lists.dropLast, list.transactions ≠ []) ∧ (s.lists.length = 1 ∨ s.InUse) := by
      have hearlier : s.lists.dropLast = earlier := by rw [heq, List.dropLast_concat]
      have hlast : s.lists.getLast? = some last := by rw [heq, List.getLast?_concat]
      rw [Listed, heq] at hlisted
      rw [hearlier, Selection.InUse, hlast]
      cases earlier with
      | nil =>
        by_cases hempty : last.transactions = []
        · simp [heq, hempty, hlisted]
        · simp [heq, hempty]
      | cons list earlier => simp [heq, or_imp, forall_and, and_assoc]
    rw [hreturned, hslots.earlier, hslots.last]
    constructor
    · rintro ⟨hinUse, htaken⟩ r after hsuffix hopens
      exact ⟨hinUse r (hsuffix.mem (by simp)) hopens, htaken r after hsuffix hopens⟩
    · refine fun hboth => ⟨fun r hr hopens => ?_, fun r after hsuffix hopens =>
        (hboth r after hsuffix hopens).2⟩
      obtain ⟨before, after, hrounds⟩ := List.append_of_mem hr
      exact (hboth r after ⟨before, hrounds.symm⟩ hopens).1
  · obtain ⟨before, after, heq⟩ := List.append_of_mem hr
    have hne := List.length_pos_iff.mpr (hrule before r after heq).1.intact.ne_nil
    have hslot : r.before.lists.length < config.maxLists := by
      simpa using (Bool.and_eq_true_iff.mp hopens.2.2).2
    omega

/-- Two transfers that do not fit one list: the second opens one, and is committed to it. -/
theorem selection_slots_two :
    ∃ lists s, selectInTwo [transferTx 0xa1 0, transferTx 0xa1 1]
        = .ok (.ok (.completed lists), s) ∧
      lists.map (·.transactions.length) = [1, 1] ∧
      ∀ r after, r :: after <:+ selectionRounds transferRevm .on unitCodec
          { smallList with maxLists := 2 } ⟨TaikoBlockExecutor.transferExecutor, []⟩
          (listPool [transferTx 0xa1 0, transferTx 0xa1 1]) (fun _ => none) (fun _ => false) →
        r.Opens unitCodec { smallList with maxLists := 2 } →
        r.before.InUse ∧ ∃ r' ∈ r :: after,
          r'.Takes transferRevm .on unitCodec { smallList with maxLists := 2 } := by
  obtain ⟨lists, s, hrun, hlengths⟩ : ∃ lists s,
      selectInTwo [transferTx 0xa1 0, transferTx 0xa1 1] = .ok (.ok (.completed lists), s) ∧
        lists.map (·.transactions.length) = [1, 1] := ⟨_, _, rfl, rfl⟩
  have hiff := (selection_slots_iff ⟨rfl, rfl⟩ hrun).2.1
  refine ⟨lists, s, hrun, hlengths, hiff.mp (.inr fun list hmem hempty => ?_)⟩
  have hzero : 0 ∈ lists.map (·.transactions.length) :=
    List.mem_map.mpr ⟨list, hmem, by simp [hempty]⟩
  simp [hlengths] at hzero

/-- A transfer that repeats a nonce opens a list and leaves it empty. -/
theorem selection_leaves_empty_list :
    ∃ lists s, selectInTwo [transferTx 0xa1 0, transferTx 0xa1 0]
        = .ok (.ok (.completed lists), s) ∧
      s.builder.transactions = [transferTx 0xa1 0] ∧
      lists.map (·.transactions.length) = [1, 0] :=
  ⟨_, _, rfl, rfl, rfl⟩

end Slots

end TxSelection

end AlethiaReth
