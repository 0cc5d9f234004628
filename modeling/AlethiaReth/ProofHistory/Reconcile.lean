import AlethiaReth.Lib.Keyed
import AlethiaReth.ProofHistory.Store

/-!
Stored proof history against the canonical chain, before the sidecar becomes ready: a window whose
latest block is canonical is canonical as a whole, down the parent hashes; otherwise it is left as
it is, or, where the canonical chain has another block at its latest height, cut down to its
earliest block (`reconcile_safe`).
-/

namespace AlethiaReth.ProofHistory

open MachineInt Outcome

/-! ### The canonical chain -/

/-- The canonical blocks from the root up to the tip. -/
structure CanonicalBlocks where
  root : BlockNumHash
  blocks : List BlockWithParent
  tip : BlockNumHash
  leads : Leads root blocks tip

variable (chain : CanonicalBlocks)

namespace CanonicalBlocks

/-- The blocks of the chain, from its root. -/
def labels : List BlockNumHash := chain.root :: chain.blocks.map (·.block)

/-- The height of the chain. -/
def bestBlockNumber : ℕ := chain.tip.number

/-- The hash at a height. -/
def blockHash (number : ℕ) : Option B256 :=
  (Keyed.lookup (·.number) number chain.labels).map (·.hash)

lemma map_number_labels :
    chain.labels.map (·.number) = List.range' chain.root.number (chain.blocks.length + 1) := by
  rw [labels, List.map_cons, List.map_map, List.range'_succ]
  exact congrArg _ (Links.map_height number_of_extends chain.leads)

lemma nodup_number_labels : (chain.labels.map (·.number)).Nodup := by
  rw [map_number_labels]
  exact List.nodup_range'

variable {chain}

lemma label_unique {label label' : BlockNumHash} (h : label ∈ chain.labels)
    (h' : label' ∈ chain.labels) (hnumber : label.number = label'.number) : label = label' :=
  List.inj_on_of_nodup_map chain.nodup_number_labels h h' hnumber

lemma blockHash_eq_some {number : ℕ} {hash : B256} :
    chain.blockHash number = some hash ↔ ⟨number, hash⟩ ∈ chain.labels := by
  rw [blockHash, Option.map_eq_some_iff]
  constructor
  · rintro ⟨label, hlookup, rfl⟩
    obtain ⟨hmem, rfl⟩ := Keyed.mem_of_lookup hlookup
    exact hmem
  · intro hmem
    exact ⟨_, (Keyed.lookup_eq_some_iff chain.nodup_number_labels).mpr ⟨hmem, rfl⟩, rfl⟩

/-- There is a canonical block at every height from the root to the tip, and no other. -/
lemma exists_blockHash_iff {number : ℕ} :
    (∃ hash, chain.blockHash number = some hash) ↔
      chain.root.number ≤ number ∧ number ≤ chain.bestBlockNumber := by
  have hheight := Links.height_eq number_of_extends chain.leads
  have hmem : number ∈ chain.labels.map (·.number) ↔
      chain.root.number ≤ number ∧ number ≤ chain.bestBlockNumber := by
    rw [map_number_labels, List.mem_range'_1, bestBlockNumber]
    omega
  rw [← hmem, List.mem_map]
  constructor
  · rintro ⟨hash, hhash⟩
    exact ⟨_, blockHash_eq_some.mp hhash, rfl⟩
  · rintro ⟨label, hlabel, rfl⟩
    exact ⟨label.hash, blockHash_eq_some.mpr hlabel⟩

end CanonicalBlocks

/-! ### Reconciliation -/

/-- Why a reconciliation fails. -/
inductive ReconcileError where
  | earliestAfterLatest (earliest latest : ℕ)
  | missingCanonicalLatest (latest canonicalBest : ℕ)
  /-- A rebuild was requested; the file that asks for it may not have been written. -/
  | rebuildRequested (earliest : ℕ) (marked : Bool)
  | noLatestBlock
  | unwindBeyondMax
  | missingUnwindBlock (number : ℕ)
  | notInitialized
  | tooManyBlocksToPrune (blocksToPrune maxStartupPruneBlocks : ℕ)
  | storage (error : OpProofsStorageError)
  | initialization
  deriving DecidableEq, Repr

/-- What is to be done with what is stored. -/
inductive ProofHistoryStartupAction where
  | uninitialized
  | ready
  | rebuildRequired (earliest : ℕ)
  | unwindToEarliest (earliest : BlockNumHash)
  | waitForCanonicalEarliest (earliest : ℕ)
  | waitForCanonicalLatest (latest canonicalBest : ℕ)
  deriving DecidableEq, Repr

/-- The action, from both ends of the window. -/
def proofHistoryStartupAction (earliest latest : Option BlockNumHash) (canonicalBest : ℕ)
    (canonicalEarliestHash canonicalLatestHash : Option B256) :
    Except ReconcileError ProofHistoryStartupAction :=
  match earliest, latest with
  | some earliest, some latest =>
    if earliest.number > latest.number then
      .error (.earliestAfterLatest earliest.number latest.number)
    else
      match canonicalEarliestHash with
      | none => .ok (.waitForCanonicalEarliest earliest.number)
      | some canonicalEarliest =>
        if canonicalEarliest ≠ earliest.hash then .ok (.rebuildRequired earliest.number)
        else if latest.number > canonicalBest then
          .ok (.waitForCanonicalLatest latest.number canonicalBest)
        else
          match canonicalLatestHash with
          | none => .error (.missingCanonicalLatest latest.number canonicalBest)
          | some canonicalLatest =>
            if canonicalLatest = latest.hash then .ok .ready
            else .ok (.unwindToEarliest earliest)
  | _, _ => .ok .uninitialized

/-- The action, from the store and the chain. -/
def startupAction (store : Option ProofWindow) :
    Except ReconcileError ProofHistoryStartupAction :=
  let earliest := store.map (·.earliest)
  let latest := store.map (·.latest)
  proofHistoryStartupAction earliest latest chain.bestBlockNumber
    (earliest.bind fun block => chain.blockHash block.number)
    ((latest.filter fun block => block.number ≤ chain.bestBlockNumber).bind fun block =>
      chain.blockHash block.number)

/-- The settings of the sidecar. -/
structure ProofHistoryConfig where
  window : ℕ
  maxStartupPruneBlocks : ℕ
  backfillWindowOnly : Bool

variable (config : ProofHistoryConfig)

/-- The node around the reconciliation of storage that is not initialized. -/
structure StartupNode where
  /-- The path of the storage is there, and a file can be written to it. -/
  writable : Bool
  finalizedBlock : Option ℕ
  executedHead : ℕ
  /-- The block that storage was initialized at, unless that failed. -/
  anchor : Option BlockNumHash

variable (node : StartupNode)

/-- The block above the earliest one names the unwind; only its number and the earliest hash are
read. -/
def unwindToEarliest (earliest : BlockNumHash) (store : Option ProofWindow) :
    Except ReconcileError (Option ProofWindow) :=
  match store with
  | none => .error .noLatestBlock
  | some window =>
    if window.latest.number ≤ earliest.number then .ok (some window)
    else if earliest.number + 1 ≥ 2 ^ 64 then .error .unwindBeyondMax
    else
      match chain.blockHash (earliest.number + 1) with
      | none => .error (.missingUnwindBlock (earliest.number + 1))
      | some hash =>
        match unwindHistory window ⟨earliest.hash, earliest.number + 1, hash⟩ with
        | .ok window => .ok (some window)
        | .error e => .error (.storage e)

/-- There is a window, and not too much to prune. -/
def ensureInitialized (store : Option ProofWindow) :
    Except ReconcileError Unit :=
  match store with
  | none => .error .notInitialized
  | some window =>
    let targetEarliest := window.latest.number - config.window
    let blocksToPrune := targetEarliest - window.earliest.number
    if targetEarliest > window.earliest.number ∧
        blocksToPrune > config.maxStartupPruneBlocks then
      .error (.tooManyBlocksToPrune blocksToPrune config.maxStartupPruneBlocks)
    else .ok ()

/-- Whether the window can start. -/
inductive DelayedProofHistoryStart where
  | waitForFinalized
  | waitForExecution (startBlock : ℕ)
  | missedStart (startBlock : ℕ)
  | ready (startBlock : ℕ)

/-- Where the window starts. -/
def proofHistoryWindowStartBlock (finalizedBlock window : ℕ) : ℕ := finalizedBlock - window

/-- Whether the executed head is where the window starts. -/
def delayedProofHistoryStart (finalizedBlock : Option ℕ) (executedHead window : ℕ) :
    DelayedProofHistoryStart :=
  match finalizedBlock with
  | none => .waitForFinalized
  | some finalizedBlock =>
    let startBlock := proofHistoryWindowStartBlock finalizedBlock window
    match compare executedHead startBlock with
    | .lt => .waitForExecution startBlock
    | .eq => .ready startBlock
    | .gt => .missedStart startBlock

/-- The start of the window was reached. -/
def finalizedWindowStartReached : Bool :=
  match delayedProofHistoryStart node.finalizedBlock node.executedHead config.window with
  | .waitForFinalized => false
  | .waitForExecution _ => false
  | .missedStart _ => true
  | .ready _ => true

/-- Initializes an empty store when that is due. -/
def initializeOrWait (store : Option ProofWindow) :
    Option ProofWindow × Except ReconcileError Bool :=
  match store with
  | some window => (some window, (ensureInitialized config (some window)).map fun _ => true)
  | none =>
    if config.backfillWindowOnly ∧ ¬finalizedWindowStartReached config node then
      (none, .ok false)
    else
      match node.anchor with
      | none => (none, .error .initialization)
      | some anchor =>
        let store := some ⟨anchor, [], anchor⟩
        (store, (ensureInitialized config store).map fun _ => true)

/-- What is stored afterwards, and whether the sidecar becomes ready. -/
def reconcileOrWait (chain : CanonicalBlocks) (store : Option ProofWindow) :
    Option ProofWindow × Except ReconcileError Bool :=
  match startupAction chain store with
  | .error e => (store, .error e)
  | .ok .uninitialized => initializeOrWait config node store
  | .ok .ready => (store, (ensureInitialized config store).map fun _ => true)
  | .ok (.rebuildRequired earliest) => (store, .error (.rebuildRequested earliest node.writable))
  | .ok (.unwindToEarliest earliest) =>
    match unwindToEarliest chain earliest store with
    | .error e => (store, .error e)
    | .ok store => (store, (ensureInitialized config store).map fun _ => true)
  | .ok (.waitForCanonicalEarliest _) => (store, .ok false)
  | .ok (.waitForCanonicalLatest _ _) => (store, .ok false)

/-! ### What reconciliation leaves -/

/-- The canonical chain has another block at the height of one. -/
def Diverges (block : BlockNumHash) : Prop :=
  ∃ label ∈ chain.labels, label.number = block.number ∧ label ≠ block

section Reconcile

variable {config} {node} {chain} {window : ProofWindow} {store : Option ProofWindow}

lemma ProofWindow.Linked.earliest_le (h : window.Linked) :
    window.earliest.number ≤ window.latest.number := by
  have := Links.height_eq number_of_extends h
  omega

/-- The regions of the startup action. -/
lemma startupAction_cases (hlinked : window.Linked) :
    (window.earliest ∉ chain.labels ∧ ¬Diverges chain window.earliest ∧
      startupAction chain (some window) =
        .ok (.waitForCanonicalEarliest window.earliest.number)) ∨
    (Diverges chain window.earliest ∧ startupAction chain (some window) =
      .ok (.rebuildRequired window.earliest.number)) ∨
    (window.earliest ∈ chain.labels ∧ chain.bestBlockNumber < window.latest.number ∧
      startupAction chain (some window) =
        .ok (.waitForCanonicalLatest window.latest.number chain.bestBlockNumber)) ∨
    (window.earliest ∈ chain.labels ∧ window.latest ∈ chain.labels ∧
      startupAction chain (some window) = .ok .ready) ∨
    (window.earliest ∈ chain.labels ∧ window.latest.number ≤ chain.bestBlockNumber ∧
      Diverges chain window.latest ∧
      startupAction chain (some window) = .ok (.unwindToEarliest window.earliest)) := by
  have hle := hlinked.earliest_le
  have haction : startupAction chain (some window) = proofHistoryStartupAction
      (some window.earliest) (some window.latest) chain.bestBlockNumber
      (chain.blockHash window.earliest.number)
      (((some window.latest).filter fun block => block.number ≤ chain.bestBlockNumber).bind
        fun block => chain.blockHash block.number) := rfl
  simp only [proofHistoryStartupAction, if_neg (not_lt.mpr hle)] at haction
  -- first the earliest block, then the latest
  cases hearliest : chain.blockHash window.earliest.number with
  | none =>
    have hnone : ∀ hash, ⟨window.earliest.number, hash⟩ ∉ chain.labels := by
      intro hash hmem
      rw [CanonicalBlocks.blockHash_eq_some.mpr hmem] at hearliest
      cases hearliest
    rw [hearliest] at haction
    refine .inl ⟨hnone _, ?_, haction⟩
    rintro ⟨label, hlabel, hnumber, -⟩
    exact hnone label.hash (hnumber ▸ hlabel)
  | some hash =>
    have hmem := CanonicalBlocks.blockHash_eq_some.mp hearliest
    rw [hearliest] at haction
    by_cases hhash : hash ≠ window.earliest.hash
    · refine .inr (.inl ⟨⟨_, hmem, rfl, fun heq => hhash (heq ▸ rfl)⟩, ?_⟩)
      rw [haction]
      exact if_pos hhash
    · obtain rfl := not_not.mp hhash
      have hcanonical : window.earliest ∈ chain.labels := hmem
      simp only [if_neg hhash] at haction
      by_cases hbest : window.latest.number > chain.bestBlockNumber
      · rw [if_pos hbest] at haction
        exact .inr (.inr (.inl ⟨hcanonical, hbest, haction⟩))
      · have hlow := (CanonicalBlocks.exists_blockHash_iff.mp ⟨_, hearliest⟩).1
        obtain ⟨hash, hlatest⟩ := CanonicalBlocks.exists_blockHash_iff.mpr
          (show chain.root.number ≤ window.latest.number ∧
            window.latest.number ≤ chain.bestBlockNumber by omega)
        have hmem' := CanonicalBlocks.blockHash_eq_some.mp hlatest
        rw [if_neg hbest, Option.filter_some, if_pos (decide_eq_true (by omega)),
          Option.bind_some, hlatest] at haction
        by_cases hsame : hash = window.latest.hash
        · obtain rfl := hsame
          simp only [if_true] at haction
          exact .inr (.inr (.inr (.inl ⟨hcanonical, hmem', haction⟩)))
        · simp only [if_neg hsame] at haction
          exact .inr (.inr (.inr (.inr ⟨hcanonical, by omega,
            ⟨_, hmem', rfl, fun heq => hsame (heq ▸ rfl)⟩, haction⟩)))

/-- A window is cut down to its earliest block. -/
lemma relabel_earliest (hlinked : window.Linked) :
    window.relabel window.earliest = ⟨window.earliest, [], window.earliest⟩ := by
  have hblocks : window.blocks.filter
      (fun block => block.block.number ≤ window.earliest.number) = [] := by
    refine List.filter_eq_nil_iff.mpr fun block hblock hle => ?_
    have := (Links.height_mem number_of_extends hlinked block hblock).1
    have := of_decide_eq_true hle
    omega
  rw [ProofWindow.relabel, hblocks]

/-- An unwind leaves the earliest block alone, or fails. -/
lemma unwindToEarliest_eq_ok (hlinked : window.Linked) (hcanonical : window.earliest ∈ chain.labels)
    (hdiverges : Diverges chain window.latest)
    (h : unwindToEarliest chain window.earliest (some window) = .ok store) :
    store = some ⟨window.earliest, [], window.earliest⟩ := by
  have hlt : ¬window.latest.number ≤ window.earliest.number := by
    intro hle
    obtain ⟨label, hlabel, hnumber, hne⟩ := hdiverges
    have hlength := Links.height_eq number_of_extends hlinked
    have hnil : window.blocks = [] := List.length_eq_zero_iff.mp (by omega)
    have hsame : window.earliest = window.latest := by
      rw [ProofWindow.Linked, hnil] at hlinked
      exact hlinked
    rw [← hsame] at hnumber hne
    exact hne (CanonicalBlocks.label_unique hlabel hcanonical hnumber)
  simp only [unwindToEarliest, if_neg hlt] at h
  split at h
  · cases h
  · split at h
    · cases h
    · next hash _ =>
      have hunwind : unwindHistory window
          ⟨window.earliest.hash, window.earliest.number + 1, hash⟩ = _ :=
        unwindHistory_of_lt (Nat.lt_succ_self _)
      rw [hunwind] at h
      obtain rfl := Except.ok.inj h
      exact congrArg some (relabel_earliest hlinked)

lemma ensureInitialized_ne_rebuild {earliest : ℕ} {marked : Bool} :
    (ensureInitialized config store).map (fun _ => true) ≠
      .error (.rebuildRequested earliest marked) := by
  intro h
  cases store with
  | none => cases h
  | some window =>
    simp only [ensureInitialized] at h
    split at h
    · cases h
    · cases h

lemma unwindToEarliest_ne_rebuild {block : BlockNumHash} {earliest : ℕ} {marked : Bool} :
    unwindToEarliest chain block (some window) ≠ .error (.rebuildRequested earliest marked) := by
  intro h
  simp only [unwindToEarliest] at h
  split at h
  · cases h
  · split at h
    · cases h
    · split at h
      · cases h
      · split at h
        · cases h
        · cases h

/-- The window is a part of the canonical chain, if its latest block is canonical. -/
lemma labels_canonical (hlinked : window.Linked)
    (hhash : ∀ stored ∈ window.blocks, ∀ canonical ∈ chain.blocks,
      stored.block.hash = canonical.block.hash → stored = canonical)
    (hearliest : window.earliest ∈ chain.labels) (hlatest : window.latest ∈ chain.labels) :
    ∀ label ∈ window.labels, label ∈ chain.labels := by
  have hlow : chain.root.number ≤ window.earliest.number :=
    (CanonicalBlocks.exists_blockHash_iff.mp
      ⟨_, CanonicalBlocks.blockHash_eq_some.mpr hearliest⟩).1
  obtain ⟨-, hblocks⟩ := Links.mem_of_end_mem number_of_extends extends_unique hlinked chain.leads
    (fun stored hstored canonical hcanonical hlabel =>
      hhash stored hstored canonical hcanonical (congrArg BlockNumHash.hash hlabel))
    hlow hlatest
  intro label hlabel
  rcases List.mem_cons.mp hlabel with rfl | hlabel
  · exact hearliest
  · obtain ⟨block, hblock, rfl⟩ := List.mem_map.mp hlabel
    exact List.mem_cons_of_mem _ (List.mem_map_of_mem (hblocks block hblock))

/-- The sidecar becomes ready on stored blocks only if all that is stored then is canonical, with
the earliest block it had; a rebuild is requested if and only if the canonical chain has another
block at the earliest height; and what is stored is left as it is, unless the canonical chain has
reached the latest height with another block, where it may be cut down to the earliest block. -/
theorem reconcile_safe (config : ProofHistoryConfig) (node : StartupNode) (hlinked : window.Linked)
    (hhash : ∀ stored ∈ window.blocks, ∀ canonical ∈ chain.blocks,
      stored.block.hash = canonical.block.hash → stored = canonical) :
    let out := reconcileOrWait config node chain (some window)
    (out.2 = .ok true → ∃ window', out.1 = some window' ∧ window'.earliest = window.earliest ∧
      ∀ label ∈ window'.labels, label ∈ chain.labels) ∧
    ((∃ earliest marked, out.2 = .error (.rebuildRequested earliest marked)) ↔
      Diverges chain window.earliest) ∧
    (out.1 = some window ∨ out.1 = some ⟨window.earliest, [], window.earliest⟩ ∧
      window.latest.number ≤ chain.bestBlockNumber ∧ Diverges chain window.latest) := by
  have hnotDiverges (hcanonical : window.earliest ∈ chain.labels) :
      ¬Diverges chain window.earliest := by
    rintro ⟨label, hlabel, hnumber, hne⟩
    exact hne (CanonicalBlocks.label_unique hlabel hcanonical hnumber)
  rcases startupAction_cases hlinked with ⟨-, hnone, haction⟩ | ⟨hdiverges, haction⟩ |
    ⟨hcanonical, -, haction⟩ | ⟨hcanonical, hlatest, haction⟩ |
    ⟨hcanonical, hbest, hdiverges, haction⟩
  -- only the last of the five actions, an unwind, writes to the store
  · have hout : reconcileOrWait config node chain (some window) = (some window, .ok false) := by
      rw [reconcileOrWait, haction]
    rw [hout]
    exact ⟨fun h => (nomatch h), iff_of_false (fun ⟨_, _, h⟩ => (nomatch h)) hnone, .inl rfl⟩
  · have hout : reconcileOrWait config node chain (some window) = (some window,
        .error (.rebuildRequested window.earliest.number node.writable)) := by
      rw [reconcileOrWait, haction]
    rw [hout]
    exact ⟨fun h => (nomatch h), iff_of_true ⟨_, _, rfl⟩ hdiverges, .inl rfl⟩
  · have hout : reconcileOrWait config node chain (some window) = (some window, .ok false) := by
      rw [reconcileOrWait, haction]
    rw [hout]
    exact ⟨fun h => (nomatch h),
      iff_of_false (fun ⟨_, _, h⟩ => (nomatch h)) (hnotDiverges hcanonical), .inl rfl⟩
  · have hout : reconcileOrWait config node chain (some window) = (some window,
        (ensureInitialized config (some window)).map fun _ => true) := by
      rw [reconcileOrWait, haction]
    rw [hout]
    exact ⟨fun _ => ⟨window, rfl, rfl, labels_canonical hlinked hhash hcanonical hlatest⟩,
      iff_of_false (fun ⟨_, _, h⟩ => ensureInitialized_ne_rebuild h) (hnotDiverges hcanonical),
      .inl rfl⟩
  · cases hunwind : unwindToEarliest chain window.earliest (some window) with
    | error e =>
      have hout : reconcileOrWait config node chain (some window) =
          (some window, .error e) := by
        rw [reconcileOrWait, haction]
        simp only [hunwind]
      rw [hout]
      refine ⟨fun h => (nomatch h),
        iff_of_false (fun ⟨_, _, h⟩ => ?_) (hnotDiverges hcanonical), .inl rfl⟩
      obtain rfl := Except.error.inj h
      exact unwindToEarliest_ne_rebuild hunwind
    | ok store =>
      obtain rfl := unwindToEarliest_eq_ok hlinked hcanonical hdiverges hunwind
      have hout : reconcileOrWait config node chain (some window) =
          (some ⟨window.earliest, [], window.earliest⟩, (ensureInitialized config
            (some ⟨window.earliest, [], window.earliest⟩)).map fun _ => true) := by
        rw [reconcileOrWait, haction]
        simp only [hunwind]
      rw [hout]
      refine ⟨fun _ => ⟨_, rfl, rfl, fun label hlabel => ?_⟩,
        iff_of_false (fun ⟨_, _, h⟩ => ensureInitialized_ne_rebuild h)
          (hnotDiverges hcanonical),
        .inr ⟨rfl, hbest, hdiverges⟩⟩
      rw [List.mem_singleton.mp hlabel]
      exact hcanonical

end Reconcile

/-! ### A stored branch that was left -/

/-- A chain of three blocks. -/
def threeBlocks : CanonicalBlocks where
  root := ⟨0, 0⟩
  blocks := [⟨0, 1, 1⟩, ⟨1, 2, 12⟩, ⟨12, 3, 13⟩]
  tip := ⟨3, 13⟩
  leads := by decide

/-- The block stored above the earliest one was replaced. -/
def leftWindow : ProofWindow := ⟨⟨1, 1⟩, [⟨1, 2, 2⟩], ⟨2, 2⟩⟩

/-- A window that the chain left is cut down to its earliest block. -/
theorem reconcile_safe_left :
    ∃ window', (reconcileOrWait ⟨100, 100, true⟩ ⟨true, none, 0, none⟩ threeBlocks
        (some leftWindow)).1 = some window' ∧ window'.earliest = leftWindow.earliest ∧
      ∀ label ∈ window'.labels, label ∈ threeBlocks.labels :=
  (reconcile_safe ⟨100, 100, true⟩ ⟨true, none, 0, none⟩ (by decide) (by decide)).1 (by decide)

end AlethiaReth.ProofHistory
