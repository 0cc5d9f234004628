import AlethiaReth.Lib.Links
import AlethiaReth.Lib.Outcome
import AlethiaReth.Primitives

/-!
The proof-history store, and the collector that writes blocks to it.

An append has to extend what is recorded as latest; the other writes record a latest block without a
look at the block that is stored there.
-/

namespace AlethiaReth.ProofHistory

open MachineInt Outcome

/-- A block by number and hash. -/
structure BlockNumHash where
  number : ℕ
  hash : B256
  deriving DecidableEq, Repr

variable (below : BlockNumHash)

/-- A block with its parent's hash. -/
structure BlockWithParent where
  parent : B256
  block : BlockNumHash
  deriving DecidableEq, Repr

variable (block : BlockWithParent) {blocks : List BlockWithParent}
  {executes : BlockWithParent → Bool}

/-- The block comes on top of another. -/
def Extends : Prop :=
  block.block.number = below.number + 1 ∧ block.parent = below.hash

instance (below : BlockNumHash) (block : BlockWithParent) : Decidable (Extends below block) :=
  inferInstanceAs (Decidable (_ ∧ _))

lemma number_of_extends (h : Extends below block) : block.block.number = below.number + 1 := h.1

lemma extends_unique (below' : BlockNumHash) (block : BlockWithParent) (h : Extends below block)
    (h' : Extends below' block) : below = below' := by
  obtain ⟨number, hash⟩ := below
  obtain ⟨number', hash'⟩ := below'
  have hnumber : number + 1 = number' + 1 := h.1.symm.trans h'.1
  have hhash : hash = hash' := h.2.symm.trans h'.2
  rw [hhash, Nat.add_right_cancel hnumber]

/-- The blocks lead from one block to another. -/
abbrev Leads (blocks : List BlockWithParent) (above : BlockNumHash) :
    Prop :=
  Links Extends BlockWithParent.block below blocks above

/-! ### The store -/

/-- Why the store refuses a write. -/
inductive OpProofsStorageError where
  | noBlocksFound
  | unknownParent
  | missingParentBlock (blockNumber parentBlockNumber latestBlockNumber : ℕ)
  | outOfOrder (blockNumber : ℕ) (parentBlockHash latestBlockHash : B256)
  | unwindBeyondEarliest (number earliest : ℕ)
  /-- The block does not execute on the stored state, or to another state root. -/
  | executionFailed (blockNumber : ℕ)
  deriving DecidableEq, Repr

/-- The retained blocks above the earliest one, lowest first. -/
structure ProofWindow where
  earliest : BlockNumHash
  blocks : List BlockWithParent
  latest : BlockNumHash
  deriving DecidableEq, Repr

variable (window : ProofWindow) {window' : ProofWindow}

/-- Appends a block to the window. -/
def storeTrieUpdates (block : BlockWithParent) :
    Except OpProofsStorageError ProofWindow :=
  if Extends window.latest block then
    .ok { window with blocks := window.blocks ++ [block], latest := block.block }
  else .error (.outOfOrder block.block.number block.parent window.latest.hash)

/-- Drops the block that is named and all above it, and records its parent as latest. -/
def unwindHistory (unwindTo : BlockWithParent) :
    Except OpProofsStorageError ProofWindow :=
  if unwindTo.block.number ≤ window.earliest.number then
    .error (.unwindBeyondEarliest unwindTo.block.number window.earliest.number)
  else
    .ok { window with
      blocks := window.blocks.filter fun block => block.block.number < unwindTo.block.number
      latest := ⟨unwindTo.block.number - 1, unwindTo.parent⟩ }

/-- Drops all above a block, records it as latest, and appends. -/
def replaceUpdates (latestCommonBlock : BlockNumHash) (blocks : List BlockWithParent) :
    Except OpProofsStorageError ProofWindow :=
  if latestCommonBlock.number ≤ window.earliest.number then
    .error (.unwindBeyondEarliest latestCommonBlock.number window.earliest.number)
  else
    blocks.foldlM storeTrieUpdates
      { window with
        blocks := window.blocks.filter fun block => block.block.number ≤ latestCommonBlock.number
        latest := latestCommonBlock }

/-! ### The collector -/

/-- A block is executed on the stored state of its parent, and stored. -/
def executeAndStoreBlockUpdates (executes : BlockWithParent → Bool) (window : ProofWindow)
    (block : BlockWithParent) : Except OpProofsStorageError ProofWindow := do
  let earliest := window.earliest.number
  let latest := window.latest.number
  ensure (block.block.number ≠ 0) .unknownParent
  let parentBlockNumber := block.block.number - 1
  ensure (¬parentBlockNumber < earliest) .unknownParent
  ensure (¬parentBlockNumber > latest)
    (.missingParentBlock block.block.number parentBlockNumber latest)
  ensure (¬(parentBlockNumber ≠ latest ∨ block.parent ≠ window.latest.hash))
    (.outOfOrder block.block.number block.parent window.latest.hash)
  ensure (executes block = true) (.executionFailed block.block.number)
  storeTrieUpdates window block

/-- The blocks after a common ancestor are replaced, in one transaction. -/
def unwindAndStoreBlockUpdates (blockUpdates : List BlockWithParent) :
    Except OpProofsStorageError ProofWindow :=
  match blockUpdates with
  | [] => .ok window
  | first :: _ =>
    let latestCommonBlock : BlockNumHash := ⟨first.block.number - 1, first.parent⟩
    if latestCommonBlock.number = window.earliest.number then do
      ensure (latestCommonBlock.hash = window.earliest.hash)
        (.outOfOrder first.block.number first.parent window.earliest.hash)
      let sorted := blockUpdates.insertionSort fun a b => a.block.number ≤ b.block.number
      let unwound ← unwindHistory window
        ⟨window.earliest.hash, window.earliest.number + 1, first.block.hash⟩
      sorted.foldlM storeTrieUpdates unwound
    else replaceUpdates window latestCommonBlock blockUpdates

/-! ### Linked windows -/

/-- Every stored block extends the one below it, and the uppermost is recorded as latest. -/
def ProofWindow.Linked : Prop :=
  Leads window.earliest window.blocks window.latest

instance (window : ProofWindow) : Decidable window.Linked :=
  inferInstanceAs (Decidable (Leads _ _ _))

/-- The blocks that the window has. -/
def ProofWindow.labels : List BlockNumHash :=
  window.earliest :: window.blocks.map (·.block)

/-- Blocks were appended, each on what was recorded as latest. -/
structure Appends (window window' : ProofWindow) (blocks : List BlockWithParent) : Prop where
  earliest : window'.earliest = window.earliest
  stored : window'.blocks = window.blocks ++ blocks
  leads : Leads window.latest blocks window'.latest

lemma Appends.refl : Appends window window [] :=
  ⟨rfl, (List.append_nil _).symm, rfl⟩

lemma Appends.trans {window window'' : ProofWindow} {xs ys : List BlockWithParent}
    (h : Appends window window' xs) (h' : Appends window' window'' ys) :
    Appends window window'' (xs ++ ys) := by
  refine ⟨h'.earliest.trans h.earliest, ?_, links_append.mpr ⟨_, h.leads, h'.leads⟩⟩
  rw [h'.stored, h.stored, List.append_assoc]

lemma Appends.linked {window : ProofWindow} (h : Appends window window' blocks)
    (hlinked : window.Linked) : window'.Linked := by
  rw [ProofWindow.Linked, h.earliest, h.stored]
  exact links_append.mpr ⟨_, hlinked, h.leads⟩

lemma storeTrieUpdates_eq_ok {window : ProofWindow} {block : BlockWithParent}
    (h : storeTrieUpdates window block = .ok window') : Appends window window' [block] := by
  rw [storeTrieUpdates] at h
  split at h
  · next hextends =>
    cases h
    exact ⟨rfl, rfl, hextends, rfl⟩
  · cases h

lemma executeAndStore_eq_ok {window : ProofWindow} {block : BlockWithParent}
    (h : executeAndStoreBlockUpdates executes window block = .ok window') :
    Appends window window' [block] := by
  rw [executeAndStoreBlockUpdates] at h
  obtain ⟨_, -, h⟩ := bind_eq_ok.mp h
  obtain ⟨_, -, h⟩ := bind_eq_ok.mp h
  obtain ⟨_, -, h⟩ := bind_eq_ok.mp h
  obtain ⟨_, -, h⟩ := bind_eq_ok.mp h
  obtain ⟨_, -, h⟩ := bind_eq_ok.mp h
  exact storeTrieUpdates_eq_ok h

lemma foldlM_storeTrieUpdates_eq_ok {window : ProofWindow}
    (h : blocks.foldlM storeTrieUpdates window = .ok window') :
    Appends window window' blocks := by
  induction blocks generalizing window with
  | nil =>
    cases h
    exact .refl _
  | cons block blocks ih =>
    rw [List.foldlM_cons] at h
    obtain ⟨next, hnext, h⟩ := bind_eq_ok.mp h
    exact (storeTrieUpdates_eq_ok hnext).trans (ih h)

lemma storeTrieUpdates_of_extends {window : ProofWindow} {block : BlockWithParent}
    (h : Extends window.latest block) :
    ∃ window', storeTrieUpdates window block = .ok window' ∧ Appends window window' [block] :=
  ⟨_, if_pos h, rfl, rfl, h, rfl⟩

lemma executeAndStore_of_extends {window : ProofWindow} {block : BlockWithParent}
    (h : Extends window.latest block) (hle : window.earliest.number ≤ window.latest.number)
    (hexecutes : executes block = true) :
    ∃ window', executeAndStoreBlockUpdates executes window block = .ok window' ∧
      Appends window window' [block] := by
  obtain ⟨window', hstored, happends⟩ := storeTrieUpdates_of_extends h
  refine ⟨window', ?_, happends⟩
  have hnumber := h.1
  simp only [executeAndStoreBlockUpdates, ensure_bind_eq_ok]
  refine ⟨by omega, by omega, by omega, ?_, hexecutes, hstored⟩
  rintro (hne | hne)
  · omega
  · exact hne h.2

/-- Blocks that lead on from the latest one are stored. -/
lemma foldlM_storeTrieUpdates_of_leads {window : ProofWindow} {top : BlockNumHash}
    (h : Leads window.latest blocks top) :
    ∃ window', blocks.foldlM storeTrieUpdates window = .ok window' ∧
      Appends window window' blocks := by
  induction blocks generalizing window with
  | nil => exact ⟨window, rfl, .refl window⟩
  | cons block blocks ih =>
    obtain ⟨next, hnext, happends⟩ := storeTrieUpdates_of_extends h.1
    have hlatest : next.latest = block.block := happends.leads.2.symm
    obtain ⟨window', hfold, hrest⟩ := ih (hlatest.symm ▸ h.2)
    refine ⟨window', ?_, happends.trans hrest⟩
    rw [List.foldlM_cons, hnext]
    exact hfold

/-! ### Relabelled windows -/

/-- The window without what is above a block, with that block recorded as latest. -/
def ProofWindow.relabel (latest : BlockNumHash) : ProofWindow :=
  { window with
    blocks := window.blocks.filter fun block => block.block.number ≤ latest.number
    latest := latest }

lemma unwindHistory_of_lt {window : ProofWindow} {unwindTo : BlockWithParent}
    (h : window.earliest.number < unwindTo.block.number) :
    unwindHistory window unwindTo =
      .ok (window.relabel ⟨unwindTo.block.number - 1, unwindTo.parent⟩) := by
  rw [unwindHistory, if_neg (by omega), ProofWindow.relabel]
  refine congrArg (fun blocks => Except.ok (ProofWindow.mk _ blocks _)) ?_
  refine List.filter_congr fun block _ => decide_eq_decide.mpr ?_
  show _ < _ ↔ _ ≤ unwindTo.block.number - 1
  omega

lemma replaceUpdates_of_lt {window : ProofWindow} {latestCommonBlock : BlockNumHash}
    (h : window.earliest.number < latestCommonBlock.number) :
    replaceUpdates window latestCommonBlock blocks =
      blocks.foldlM storeTrieUpdates (window.relabel latestCommonBlock) :=
  if_neg (by omega)

/-- A relabelled window has the blocks up to its label. -/
lemma relabel_split {window : ProofWindow} {latest : BlockNumHash} (hlinked : window.Linked)
    (hlow : window.earliest.number ≤ latest.number)
    (hhigh : latest.number ≤ window.latest.number) :
    ∃ dropped, window.blocks = (window.relabel latest).blocks ++ dropped := by
  obtain ⟨kept, dropped, -, hblocks, -, -, -, hfilter⟩ :=
    Links.split number_of_extends hlinked hlow hhigh
  refine ⟨dropped, ?_⟩
  rw [show (window.relabel latest).blocks = kept from hfilter]
  exact hblocks

/-- A relabelled window, with what was appended to it, is linked if and only if the label is
that of a stored block. -/
lemma linked_of_relabel_iff {window : ProofWindow} {latest : BlockNumHash} (hlinked : window.Linked)
    (hlow : window.earliest.number ≤ latest.number) (hhigh : latest.number ≤ window.latest.number)
    (h : Appends (window.relabel latest) window' blocks) :
    window'.Linked ↔ latest ∈ window.labels := by
  obtain ⟨kept, dropped, top, hblocks, htop, hkept, hdropped, hfilter⟩ :=
    Links.split number_of_extends hlinked hlow hhigh
  -- the label is stored if and only if it is where the blocks that are kept end
  have hstored : latest ∈ window.labels ↔ top = latest := by
    constructor
    · intro hmem
      rcases List.mem_cons.mp hmem with rfl | hmem
      · have hlength := Links.height_eq number_of_extends hkept
        have hnil : kept = [] := List.length_eq_zero_iff.mp (by omega)
        rw [hnil] at hkept
        exact hkept.symm
      · obtain ⟨block, hblock, rfl⟩ := List.mem_map.mp hmem
        rw [hblocks] at hblock
        rcases List.mem_append.mp hblock with hblock | hblock
        · exact (Links.label_eq_of_height number_of_extends hkept hblock htop.symm).symm
        · have := (Links.height_mem number_of_extends hdropped block hblock).1
          omega
    · rintro rfl
      rcases List.mem_cons.mp hkept.end_mem with heq | hmem
      · exact heq ▸ List.mem_cons_self
      · rw [ProofWindow.labels, hblocks, List.map_append]
        exact List.mem_cons_of_mem _ (List.mem_append_left _ hmem)
  have hwindow : window'.blocks = kept ++ blocks := by
    rw [h.stored, ← hfilter]
    rfl
  rw [hstored, ProofWindow.Linked, h.earliest, hwindow]
  constructor
  · intro hlinked'
    obtain ⟨middle, hfirst, hsecond⟩ := links_append.mp hlinked'
    rw [Links.end_unique hkept hfirst]
    exact Links.start_unique extends_unique hsecond h.leads
  · rintro rfl
    exact links_append.mpr ⟨top, hkept, h.leads⟩

end AlethiaReth.ProofHistory
