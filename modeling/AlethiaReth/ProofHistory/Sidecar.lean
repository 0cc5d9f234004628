import AlethiaReth.Lib.Run
import AlethiaReth.ProofHistory.Store

/-!
The writers of the proof history: the handlers of canonical notifications and the batches of the
sync loop.  Every write commits on its own, so a section that fails keeps what it wrote before.
-/

namespace AlethiaReth.ProofHistory

open MachineInt Outcome Run

/-! ### Chains and notifications -/

variable {window : ProofWindow}

/-- Why a notification is not handled. -/
inductive SidecarError where
  | noEarliestBlock
  /-- `first` and `tip` panic on a chain without blocks. -/
  | emptyChain
  | bestBlockNumber
  | missingBlock (number : ℕ)
  | touchesEarliest (updateKind : String) (earliest firstOld : BlockNumHash)
  | forkBlocksDiffer (old new : BlockNumHash)
  | storage (error : OpProofsStorageError)
  deriving DecidableEq, Repr

/-- Blocks in the order of their numbers, and the numbers that come with trie data. -/
structure Chain where
  blocks : List BlockWithParent
  trieDataAt : ℕ → Bool

/-- The lowest block. -/
def Chain.first (chain : Chain) : Except SidecarError BlockWithParent :=
  match chain.blocks.head? with
  | some block => .ok block
  | none => .error .emptyChain

/-- The highest block. -/
def Chain.tip (chain : Chain) : Except SidecarError BlockWithParent :=
  match chain.blocks.getLast? with
  | some block => .ok block
  | none => .error .emptyChain

/-- The block below another, as that one names it. -/
def BlockWithParent.forkBlock (first : BlockWithParent) : BlockNumHash :=
  ⟨first.block.number - 1, first.parent⟩

/-- What the canonical chain announces. -/
inductive CanonStateNotification where
  | commit (new : Chain)
  | reorg (old new : Chain)

/-- The canonical chain as it is read. -/
structure Provider where
  bestBlockNumber : Option ℕ
  recoveredBlock : ℕ → Option BlockWithParent
  /-- Whether a block executes, on the stored state of its parent, to its state root. -/
  executes : BlockWithParent → Bool

variable (provider : Provider)

/-- A write of one transaction. -/
abbrev Transaction := ProofWindow → Except SidecarError ProofWindow

/-- An error of the store. -/
def storing (result : Except OpProofsStorageError ProofWindow) :
    Except SidecarError ProofWindow :=
  result.mapError .storage

/-! ### The handlers -/

section Handlers

variable (verificationInterval : ℕ) (provider : Provider) (number : ℕ)
  (notification : CanonStateNotification)

/-- A block is read from the provider, executed and stored. -/
def executeBlock : Transaction := fun window =>
  match provider.recoveredBlock number with
  | none => .error (.missingBlock number)
  | some block => storing (executeAndStoreBlockUpdates provider.executes window block)

/-- Whether a block that the notification has is executed all the same. -/
def shouldVerify : Bool :=
  decide (0 < verificationInterval) && decide (verificationInterval ∣ number)

/-- The block that is stored with the trie data of the notification. -/
def notifiedBlock (chain : Chain) : Option BlockWithParent :=
  if shouldVerify verificationInterval number then none
  else if chain.trieDataAt number then chain.blocks.find? fun b => b.block.number = number
  else none

/-- Stores a block of the notification, or executes the one at its height. -/
def processBlock (chain : Chain) (number : ℕ) : Transaction := fun window =>
  match notifiedBlock verificationInterval number chain with
  | some block => storing (storeTrieUpdates window block)
  | none => executeBlock provider number window

/-- Distance from the canonical tip where notifications are consumed directly. -/
def realTimeBlocksThreshold : ℕ := 1024

/-- Whether the tip of a commit is near the canonical one. -/
def isNearTip (bestBlock tip : ℕ) : Bool := bestBlock - tip < realTimeBlocksThreshold

/-- The chain starts on or below what is stored. -/
def committedChainIsContiguous (firstBlock latestStored : ℕ) : Bool :=
  firstBlock ≤ latestStored + 1

/-- A commit that is not consumed directly only wakes the sync loop up. -/
def handleChainCommitted (new : Chain) (latestStored : ℕ) :
    Except SidecarError (List Transaction) := do
  let tip ← new.tip
  if tip.block.number ≤ latestStored then return []
  match provider.bestBlockNumber with
  | none => .error .bestBlockNumber
  | some bestBlock =>
    let first ← new.first
    if committedChainIsContiguous first.block.number latestStored ∧
        isNearTip bestBlock tip.block.number then
      return (List.range' (latestStored + 1) (tip.block.number - latestStored)).map
        (processBlock verificationInterval provider new)
    else return []

/-- The update starts above the earliest block. -/
def ensureCanonicalUpdateAboveEarliest (updateKind : String) (earliest firstOld : BlockNumHash) :
    Except SidecarError Unit :=
  ensure (¬firstOld.number ≤ earliest.number) (.touchesEarliest updateKind earliest firstOld)

/-- Unwinds to the fork, then stores the new blocks. -/
def reorgByUnwindAndReprocess (firstOld : BlockWithParent) (new : Chain) : List Transaction :=
  (fun window => storing (unwindHistory window firstOld)) ::
    new.blocks.map fun block => processBlock verificationInterval provider new block.block.number

/-- The writes for a reorganization. -/
def handleChainReorged (old new : Chain) (earliestStored : BlockNumHash) (latestStored : ℕ) :
    Except SidecarError (List Transaction) := do
  let firstOld ← old.first
  if firstOld.block.number > latestStored then return []
  ensureCanonicalUpdateAboveEarliest "reorg" earliestStored firstOld.block
  let firstNew ← new.first
  ensure (firstOld.forkBlock = firstNew.forkBlock)
    (.forkBlocksDiffer firstOld.forkBlock firstNew.forkBlock)
  -- the store refuses to replace all that is above the earliest block
  if firstOld.block.number = earliestStored.number + 1 then
    return reorgByUnwindAndReprocess verificationInterval provider firstOld new
  if new.blocks.all fun block => new.trieDataAt block.block.number then
    return [fun window => storing (unwindAndStoreBlockUpdates window new.blocks)]
  else return reorgByUnwindAndReprocess verificationInterval provider firstOld new

/-- The writes for a revert. -/
def handleChainReverted (old : Chain) (earliestStored : BlockNumHash) (latestStored : ℕ) :
    Except SidecarError (List Transaction) := do
  let firstOld ← old.first
  if firstOld.block.number > latestStored then return []
  ensureCanonicalUpdateAboveEarliest "revert" earliestStored firstOld.block
  return [fun window => storing (unwindHistory window firstOld)]

/-- The writes for a notification. A reorg that replaces blocks with nothing is a revert. -/
def notificationWrites (window : ProofWindow) :
    Except SidecarError (List Transaction) :=
  match notification with
  | .commit new => handleChainCommitted verificationInterval provider new window.latest.number
  | .reorg old new =>
    if new.blocks.isEmpty then handleChainReverted old window.earliest window.latest.number
    else handleChainReorged verificationInterval provider old new window.earliest
      window.latest.number

/-- The section of a notification: the store after it, and whether the sidecar goes on. -/
def handleNotification (store : Option ProofWindow) :
    Option ProofWindow × Except SidecarError Unit :=
  match store with
  | none => (none, .error .noEarliestBlock)
  | some window =>
    match notificationWrites verificationInterval provider notification window with
    | .error e => (some window, .error e)
    | .ok writes =>
      let (window, result) := commits writes window
      (some window, result)

end Handlers

/-! ### The sync loop -/

/-- The blocks of one batch. -/
def syncBatchSize : ℕ := 50

/-- How far to catch up. -/
def proofHistorySyncTarget (latestStored executedHead : ℕ) : Option ℕ :=
  if executedHead > latestStored then some executedHead else none

/-- The writes of one batch. -/
def processBatch (start target batchSize : ℕ) : List Transaction :=
  (List.range' (start + 1) (min (start + batchSize) target - start)).map (executeBlock provider)

/-- The section of a batch; a failure is logged, and the loop goes on. -/
def syncBatch (executedHead : ℕ) (store : Option ProofWindow) :
    Option ProofWindow :=
  store.map fun window =>
    match proofHistorySyncTarget window.latest.number executedHead with
    | none => window
    | some target =>
      (commits (processBatch provider window.latest.number target syncBatchSize) window).1

/-! ### What a section does to a window -/

lemma storing_eq_ok {result : Except OpProofsStorageError ProofWindow}
    (h : storing result = .ok window) : result = .ok window := by
  cases result with
  | ok window' => exact congrArg Except.ok (Except.ok.inj h)
  | error e => cases h

section Effects

variable {verificationInterval : ℕ} {provider : Provider} {window window' : ProofWindow}
  {writes : List Transaction}

lemma executeBlock_eq_ok {number : ℕ} (h : executeBlock provider number window = .ok window') :
    ∃ block, provider.recoveredBlock number = some block ∧ Appends window window' [block] := by
  rw [executeBlock] at h
  split at h
  · cases h
  · next block hblock => exact ⟨block, hblock, executeAndStore_eq_ok (storing_eq_ok h)⟩

lemma processBlock_eq_ok {chain : Chain} {number : ℕ}
    (h : processBlock verificationInterval provider chain number window = .ok window') :
    ∃ block, Appends window window' [block] := by
  rw [processBlock] at h
  split at h
  · next block _ => exact ⟨block, storeTrieUpdates_eq_ok (storing_eq_ok h)⟩
  · obtain ⟨block, -, happends⟩ := executeBlock_eq_ok h
    exact ⟨block, happends⟩

/-- Writes that append one block each append, as far as they come. -/
lemma commits_appends (hwrites : ∀ write ∈ writes, ∀ window window', write window = .ok window' →
      ∃ block, Appends window window' [block]) (window : ProofWindow) :
    ∃ blocks, Appends window (commits writes window).1 blocks := by
  refine commits_invariant (I := fun window' => ∃ blocks, Appends window window' blocks) ?_
    ⟨[], .refl window⟩
  rintro write hmem next next' ⟨blocks, happends⟩ hwrite
  obtain ⟨block, hblock⟩ := hwrites write hmem next next' hwrite
  exact ⟨blocks ++ [block], happends.trans hblock⟩

variable (verificationInterval provider) in
lemma commits_processBlock_appends (chain : Chain) (numbers : List ℕ) (window : ProofWindow) :
    ∃ blocks, Appends window
      (commits (numbers.map (processBlock verificationInterval provider chain)) window).1
      blocks := by
  refine commits_appends (fun write hmem before after hwrite => ?_) window
  obtain ⟨number, -, rfl⟩ := List.mem_map.mp hmem
  exact processBlock_eq_ok hwrite

lemma handleChainCommitted_appends {new : Chain} {latestStored : ℕ}
    (h : handleChainCommitted verificationInterval provider new latestStored = .ok writes) :
    ∀ write ∈ writes, ∀ window window', write window = .ok window' →
      ∃ block, Appends window window' [block] := by
  rw [handleChainCommitted] at h
  obtain ⟨tip, -, h⟩ := bind_eq_ok.mp h
  split at h
  · obtain rfl := Except.ok.inj h
    exact fun write hmem => (nomatch hmem)
  · split at h
    · cases h
    · obtain ⟨first, -, h⟩ := bind_eq_ok.mp h
      split at h
      · obtain rfl := Except.ok.inj h
        intro write hmem before after hwrite
        obtain ⟨number, -, rfl⟩ := List.mem_map.mp hmem
        exact processBlock_eq_ok hwrite
      · obtain rfl := Except.ok.inj h
        exact fun write hmem => (nomatch hmem)

/-- A commit above the latest stored block is consumed directly, or left to the sync loop. -/
lemma handleChainCommitted_eq {new : Chain} {tip first : BlockWithParent} {bestBlock : ℕ}
    (htip : new.tip = .ok tip) (hfirst : new.first = .ok first)
    (hbest : provider.bestBlockNumber = some bestBlock) (latestStored : ℕ) :
    handleChainCommitted verificationInterval provider new latestStored =
      .ok (if latestStored < tip.block.number ∧
          committedChainIsContiguous first.block.number latestStored ∧
          isNearTip bestBlock tip.block.number then
        (List.range' (latestStored + 1) (tip.block.number - latestStored)).map
          (processBlock verificationInterval provider new)
      else []) := by
  simp only [handleChainCommitted, htip, hfirst, hbest, bind, Except.bind, pure, Except.pure]
  by_cases hle : tip.block.number ≤ latestStored
  · rw [if_pos hle, if_neg fun h => absurd h.1 (not_lt.mpr hle)]
  · simp only [if_neg hle, not_le.mp hle, true_and]
    split_ifs <;> rfl

variable (provider) in
/-- A batch of the sync loop appends. -/
lemma syncBatch_appends (executedHead : ℕ) (window : ProofWindow) :
    ∃ window' blocks, syncBatch provider executedHead (some window) = some window' ∧
      Appends window window' blocks := by
  cases htarget : proofHistorySyncTarget window.latest.number executedHead with
  | none =>
    refine ⟨window, [], ?_, .refl window⟩
    simp only [syncBatch, Option.map_some, htarget]
  | some target =>
    have hwrites : ∀ write ∈ processBatch provider window.latest.number target syncBatchSize,
        ∀ before after, write before = .ok after → ∃ block, Appends before after [block] := by
      intro write hmem before after hwrite
      obtain ⟨number, -, rfl⟩ := List.mem_map.mp hmem
      obtain ⟨block, -, happends⟩ := executeBlock_eq_ok hwrite
      exact ⟨block, happends⟩
    obtain ⟨blocks, happends⟩ := commits_appends hwrites window
    refine ⟨_, blocks, ?_, happends⟩
    simp only [syncBatch, Option.map_some, htarget]

end Effects

/-- A reorg or revert is about a fork of two chains. -/
inductive CanonStateNotification.Sound : CanonStateNotification → Prop
  | commit (new : Chain) : Sound (.commit new)
  | reorg {old new : Chain} {fork topOld topNew : BlockNumHash} (hne : old.blocks ≠ [])
      (hold : Leads fork old.blocks topOld) (hnew : Leads fork new.blocks topNew) :
      Sound (.reorg old new)

/-- The block that a notification cuts the window at. -/
def cutBlock (window : ProofWindow) : CanonStateNotification → Option BlockNumHash
  | .commit _ => none
  | .reorg old _ =>
    match old.blocks with
    | [] => none
    | firstOld :: _ =>
      if window.earliest.number < firstOld.block.number ∧
          firstOld.block.number ≤ window.latest.number then some firstOld.forkBlock
      else none

lemma forkBlock_of_extends {fork : BlockNumHash} {first : BlockWithParent}
    (h : Extends fork first) : first.forkBlock = fork := by
  rw [BlockWithParent.forkBlock, h.1, h.2, Nat.add_sub_cancel]

/-- The fork block is below the blocks that are replaced, and not below the earliest one. -/
lemma cutBlock_eq_some {old new : Chain} {cut : BlockNumHash}
    (h : cutBlock window (.reorg old new) = some cut) :
    ∃ firstOld rest, old.blocks = firstOld :: rest ∧ cut = firstOld.forkBlock ∧
      window.earliest.number < firstOld.block.number ∧
      firstOld.block.number ≤ window.latest.number := by
  rw [cutBlock] at h
  split at h
  · cases h
  · next firstOld rest hblocks =>
    split at h
    · next hrange => exact ⟨firstOld, rest, hblocks, (Option.some.inj h).symm, hrange⟩
    · cases h

/-- The window that a notification appends to. -/
def cutWindow (window : ProofWindow) (notification : CanonStateNotification) : ProofWindow :=
  match cutBlock window notification with
  | none => window
  | some fork => window.relabel fork

section Affects

variable {verificationInterval : ℕ} {provider : Provider} {window : ProofWindow} {old new : Chain}
  {notification : CanonStateNotification} {rest : List BlockWithParent} {firstOld : BlockWithParent}
  {fork : BlockNumHash}

lemma handleNotification_of_ok {writes : List Transaction}
    (h : notificationWrites verificationInterval provider notification window = .ok writes) :
    handleNotification verificationInterval provider notification (some window) =
      (some (commits writes window).1, (commits writes window).2) := by
  rw [handleNotification, h]

lemma handleNotification_of_error {e : SidecarError}
    (h : notificationWrites verificationInterval provider notification window = .error e) :
    handleNotification verificationInterval provider notification (some window) =
      (some window, .error e) := by
  rw [handleNotification, h]

lemma first_of_cons {chain : Chain} {first : BlockWithParent} (h : chain.blocks = first :: rest) :
    chain.first = .ok first := by
  rw [Chain.first, h]
  rfl

/-- A reorg or revert that does not cut the window writes nothing. It fails only if it is about
the earliest block or one below. -/
lemma notificationWrites_of_not_cut (hold : old.blocks = firstOld :: rest)
    (hcut : cutBlock window (.reorg old new) = none) :
    (window.latest.number < firstOld.block.number ∧
        notificationWrites verificationInterval provider (.reorg old new) window = .ok []) ∨
      (firstOld.block.number ≤ window.earliest.number ∧
        ∃ e, notificationWrites verificationInterval provider (.reorg old new) window =
          .error e) := by
  have hfirst := first_of_cons hold
  by_cases hlatest : firstOld.block.number > window.latest.number
  · refine .inl ⟨hlatest, ?_⟩
    rw [notificationWrites]
    split
    · rw [handleChainReverted, hfirst]
      exact if_pos hlatest
    · rw [handleChainReorged, hfirst]
      exact if_pos hlatest
  · have hearliest : firstOld.block.number ≤ window.earliest.number := by
      by_contra hlt
      rw [cutBlock, hold] at hcut
      simp only [if_pos (show window.earliest.number < firstOld.block.number ∧
        firstOld.block.number ≤ window.latest.number from ⟨by omega, by omega⟩)] at hcut
      cases hcut
    refine .inr ⟨hearliest, ?_⟩
    rw [notificationWrites]
    split
    · refine ⟨.touchesEarliest "revert" window.earliest firstOld.block, ?_⟩
      simp only [handleChainReverted, hfirst, ensureCanonicalUpdateAboveEarliest,
        ensure_of_not (not_not.mpr hearliest), if_neg hlatest, bind, Except.bind]
    · refine ⟨.touchesEarliest "reorg" window.earliest firstOld.block, ?_⟩
      simp only [handleChainReorged, hfirst, ensureCanonicalUpdateAboveEarliest,
        ensure_of_not (not_not.mpr hearliest), if_neg hlatest, bind, Except.bind]

/-- The route of a reorg that reaches into the window. -/
lemma notificationWrites_of_forks {firstNew : BlockWithParent} {restNew : List BlockWithParent}
    (hold : old.blocks = firstOld :: rest) (hnew : new.blocks = firstNew :: restNew)
    (hforks : firstOld.forkBlock = firstNew.forkBlock)
    (hearliest : window.earliest.number < firstOld.block.number)
    (hlatest : firstOld.block.number ≤ window.latest.number) :
    notificationWrites verificationInterval provider (.reorg old new) window =
      if firstOld.block.number = window.earliest.number + 1 then
        .ok (reorgByUnwindAndReprocess verificationInterval provider firstOld new)
      else if new.blocks.all fun block => new.trieDataAt block.block.number then
        .ok [fun window => storing (unwindAndStoreBlockUpdates window new.blocks)]
      else .ok (reorgByUnwindAndReprocess verificationInterval provider firstOld new) := by
  have habove : ensureCanonicalUpdateAboveEarliest "reorg" window.earliest firstOld.block =
      .ok () := ensure_of (by omega)
  simp only [notificationWrites, hnew, List.isEmpty_cons, handleChainReorged,
    first_of_cons hold, habove, first_of_cons hnew, ensure_of hforks,
    if_neg (not_lt.mpr hlatest), bind, Except.bind, pure, Except.pure]
  rfl

/-- A reorg or revert that cuts the window unwinds and reprocesses, or replaces. -/
lemma notificationWrites_of_cut {topOld topNew : BlockNumHash} (hold : Leads fork old.blocks topOld)
    (hnew : Leads fork new.blocks topNew) {cut : BlockNumHash}
    (hcut : cutBlock window (.reorg old new) = some cut) :
    ∃ firstOld, cut = fork ∧ firstOld.forkBlock = fork ∧
      window.earliest.number < firstOld.block.number ∧
      firstOld.block.number ≤ window.latest.number ∧
      (notificationWrites verificationInterval provider (.reorg old new) window =
          .ok (reorgByUnwindAndReprocess verificationInterval provider firstOld new) ∨
        (window.earliest.number + 1 < firstOld.block.number ∧ new.blocks ≠ [] ∧
          notificationWrites verificationInterval provider (.reorg old new) window =
            .ok [fun window => storing (unwindAndStoreBlockUpdates window new.blocks)])) := by
  obtain ⟨firstOld, rest, hblocks, rfl, hearliest, hlatest⟩ := cutBlock_eq_some hcut
  have hfirst := first_of_cons hblocks
  rw [hblocks] at hold
  have hfork := forkBlock_of_extends hold.1
  refine ⟨firstOld, hfork, hfork, hearliest, hlatest, ?_⟩
  have habove : ensureCanonicalUpdateAboveEarliest "revert" window.earliest firstOld.block =
      .ok () := ensure_of (by omega)
  cases hnewBlocks : new.blocks with
  | nil =>
    left
    simp only [notificationWrites, hnewBlocks, List.isEmpty_nil, if_true, handleChainReverted,
      hfirst, habove, if_neg (not_lt.mpr hlatest), bind, Except.bind, pure, Except.pure,
      reorgByUnwindAndReprocess, List.map_nil]
  | cons firstNew restNew =>
    rw [hnewBlocks] at hnew
    have hforks : firstOld.forkBlock = firstNew.forkBlock :=
      hfork.trans (forkBlock_of_extends hnew.1).symm
    rw [notificationWrites_of_forks hblocks hnewBlocks hforks hearliest hlatest, ← hnewBlocks]
    split_ifs with hboundary hdata
    · exact .inl rfl
    · exact .inr ⟨by omega, by rw [hnewBlocks]; exact List.cons_ne_nil _ _, rfl⟩
    · exact .inl rfl

/-- Blocks on top of a block above the earliest one replace what is above that block. -/
lemma unwindAndStoreBlockUpdates_of_leads {top : BlockNumHash} {blocks : List BlockWithParent}
    (hlt : window.earliest.number < fork.number) (hne : blocks ≠ []) (h : Leads fork blocks top) :
    ∃ window', unwindAndStoreBlockUpdates window blocks = .ok window' ∧
      Appends (window.relabel fork) window' blocks := by
  cases blocks with
  | nil => exact absurd rfl hne
  | cons first rest =>
    obtain ⟨window', hfold, happends⟩ :=
      foldlM_storeTrieUpdates_of_leads (show Leads (window.relabel fork).latest _ _ from h)
    refine ⟨window', ?_, happends⟩
    have hfork : (⟨first.block.number - 1, first.parent⟩ : BlockNumHash) = fork :=
      forkBlock_of_extends h.1
    have hnumber : first.block.number - 1 ≠ window.earliest.number := by
      have := h.1.1
      omega
    simp only [unwindAndStoreBlockUpdates, if_neg hnumber, hfork, replaceUpdates_of_lt hlt]
    exact hfold

lemma unwind_write_eq (h : window.earliest.number < firstOld.block.number) :
    storing (unwindHistory window firstOld) = .ok (window.relabel firstOld.forkBlock) := by
  rw [unwindHistory_of_lt h]
  rfl

variable (verificationInterval provider) in
/-- A notification appends to the window that it cuts. -/
theorem handleNotification_appends (hsound : notification.Sound) (window : ProofWindow) :
    ∃ window' blocks,
      (handleNotification verificationInterval provider notification (some window)).1 =
        some window' ∧ Appends (cutWindow window notification) window' blocks := by
  cases hsound with
  | commit new =>
    cases hwrites : notificationWrites verificationInterval provider (.commit new) window with
    | error e =>
      refine ⟨window, [], ?_, .refl window⟩
      rw [handleNotification_of_error hwrites]
    | ok writes =>
      obtain ⟨blocks, happends⟩ := commits_appends (handleChainCommitted_appends hwrites) window
      refine ⟨_, blocks, ?_, happends⟩
      rw [handleNotification_of_ok hwrites]
  | @reorg old new fork topOld topNew hne hold hnew =>
    cases hcut : cutBlock window (.reorg old new) with
    | none =>
      obtain ⟨firstOld, rest, hblocks⟩ := List.exists_cons_of_ne_nil hne
      refine ⟨window, [], ?_, ?_⟩
      · rcases notificationWrites_of_not_cut hblocks hcut with ⟨-, hwrites⟩ | ⟨-, e, hwrites⟩
        · rw [handleNotification_of_ok hwrites, commits_nil]
        · rw [handleNotification_of_error hwrites]
      · rw [cutWindow, hcut]
        exact .refl window
    | some cut =>
      obtain ⟨firstOld, rfl, hfork, hearliest, -, hroute⟩ :=
        notificationWrites_of_cut hold hnew hcut
      rw [cutWindow, hcut]
      -- executed again block by block, or stored at once
      rcases hroute with hwrites | ⟨habove, hnewNe, hwrites⟩
      · obtain ⟨blocks, happends⟩ := commits_processBlock_appends verificationInterval
          provider new (new.blocks.map (·.block.number)) (window.relabel cut)
        refine ⟨_, blocks, ?_, happends⟩
        rw [handleNotification_of_ok hwrites, reorgByUnwindAndReprocess,
          commits_cons_of_ok (unwind_write_eq hearliest), hfork, List.map_map]
        rfl
      · have hlt : window.earliest.number < cut.number := by
          rw [← hfork]
          show _ < firstOld.block.number - 1
          omega
        obtain ⟨window', hstored, happends⟩ :=
          unwindAndStoreBlockUpdates_of_leads hlt hnewNe hnew
        refine ⟨window', new.blocks, ?_, happends⟩
        rw [handleNotification_of_ok hwrites, commits_cons_of_ok (congrArg storing hstored),
          commits_nil]

variable (verificationInterval provider) in
/-- A linked window stays linked if and only if the block that it is cut at is stored. -/
theorem handleNotification_linked_iff (hsound : notification.Sound) (hlinked : window.Linked) :
    (∀ window' ∈ (handleNotification verificationInterval provider notification
        (some window)).1, window'.Linked) ↔
      ∀ fork ∈ cutBlock window notification, fork ∈ window.labels := by
  obtain ⟨window', blocks, hstore, happends⟩ := handleNotification_appends verificationInterval
    provider hsound window
  simp only [hstore, Option.mem_some_iff, forall_eq']
  cases hcut : cutBlock window notification with
  | none =>
    rw [cutWindow, hcut] at happends
    exact iff_of_true (happends.linked hlinked) fun _ h => (nomatch h)
  | some fork =>
    rw [cutWindow, hcut] at happends
    simp only [Option.mem_some_iff, forall_eq']
    cases notification with
    | commit new => cases hcut
    | reorg old new =>
      obtain ⟨firstOld, -, -, rfl, hearliest, hlatest⟩ := cutBlock_eq_some hcut
      refine linked_of_relabel_iff hlinked ?_ ?_ happends
      · show _ ≤ firstOld.block.number - 1
        omega
      · show firstOld.block.number - 1 ≤ _
        omega

end Affects

end AlethiaReth.ProofHistory
