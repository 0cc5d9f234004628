import AlethiaReth.Db.L1Origin
import AlethiaReth.Rpc.Debug

/-!
The last block of a batch, found by walking down from the head.

* `findLastBlockNumberByBatchId_spec`: what each answer says about the chain.
* `found_certain_iff`: a block below preconfirmed blocks of its own batch alone, with no origin of
  its own, is an answer the chain does not yet support.
-/

namespace AlethiaReth

open MachineInt Outcome

/-! ### Reads -/

/-- Why a read fails. -/
inductive DatabaseError where
  | openError (code : Int) (message : String)
  | readError (code : Int) (message : String)
  | other
  deriving DecidableEq, Repr

/-- Errors of the table that mean an empty one. -/
def isMissingTableError : DatabaseError → Bool
  | .openError code message | .readError code message =>
    code = -30798 || "no matching key/data pair found".toList <:+: message.toList
  | .other => false

/-- The parts of the node that the lookup reads. -/
structure LookupProvider where
  latest : Except DatabaseError (Option Block)
  blockByNumber : U64 → Except DatabaseError (Option Block)
  databaseProviderRo : Except DatabaseError Unit
  l1Origin : U64 → Except DatabaseError (Option StoredL1Origin)

/-- An error that only the log of the node tells. -/
def internalEthError {α : Type} : Except DatabaseError α → Except EthApiError α :=
  Except.mapError fun _ => .internalEthError

/-! ### The walk -/

/-- What the search ends with. -/
inductive LastBlockSearchResult where
  | found (number : U64)
  | notFound
  | uncertainAtHead
  | lookbackExceeded
  deriving DecidableEq, Repr

/-- How many blocks the search looks at. -/
def maxBackwardScanBlocks : ℕ := 768 * 21600

/-- How the walk leaves a block: for good, or for the block of a number. -/
inductive Visit where
  | stop (result : LastBlockSearchResult)
  | walk (number : U64)
  deriving DecidableEq, Repr

section Walk

variable (provider : LookupProvider) (headNumber : U64) (batchId : U256) (blockNumber : U64)

/-- A block of the batch: passed over where its row is one of a preconfirmation. -/
def visitBatchBlock : Except EthApiError Visit :=
  match provider.l1Origin blockNumber with
  | .ok (some l1Origin) =>
    if l1Origin.isPreconfRow then .ok (.walk (blockNumber - 1))
    -- at the head and below it alike
    else .ok (.stop (.found blockNumber))
  | .ok none => .ok withoutOrigin
  | .error error =>
    if isMissingTableError error then .ok withoutOrigin else .error .internalEthError
where
  withoutOrigin : Visit :=
    if headNumber = blockNumber then .stop .uncertainAtHead else .stop (.found blockNumber)

/-- An anchored block, by its proposal. -/
def visitProposal (proposalId : U256) : Except EthApiError Visit :=
  if proposalId < batchId then .ok (.stop .notFound)
  else if batchId < proposalId then .ok (.walk (blockNumber - 1))
  else visitBatchBlock provider headNumber blockNumber

/-- One block of the search. -/
def visitBlock (block : Block) : Except EthApiError Visit :=
  match block.body.transactions.head? with
  | none => .ok (.stop .notFound)
  | some firstTx =>
    if ¬ anchorV4Selector <+: firstTx.input ∨ block.header.number = 0 then
      .ok (.stop .notFound)
    else
      match decodeShastaProposalId block.header.extraData with
      | none => .error (.invalidParams
          ("extraData too short for proposalId: " ++ toString block.header.extraData.length))
      | some proposalId =>
        visitProposal provider headNumber batchId block.header.number
          (proposalId.setWidth 256)

/-- The walk from a block down, with the blocks it looked at. -/
def scan : ℕ → Option Block → Except EthApiError (LastBlockSearchResult × List Block)
  | _, none => .ok (.notFound, [])
  | 0, some _ => .ok (.lookbackExceeded, [])
  | budget + 1, some block => do
    match ← visitBlock provider headNumber batchId block with
    | .stop result => .ok (result, [block])
    | .walk number =>
      let (result, scanned) ← scan budget (← internalEthError (provider.blockByNumber number))
      .ok (result, block :: scanned)

end Walk

/-- The answer, and the blocks looked at for it. -/
def findLastBlockNumberByBatchId (provider : LookupProvider) (batchId : U256) :
    Except EthApiError (LastBlockSearchResult × List Block) := do
  match ← internalEthError provider.latest with
  | none => .ok (.notFound, [])
  | some latestBlock =>
    internalEthError provider.databaseProviderRo
    scan provider latestBlock.header.number batchId maxBackwardScanBlocks (some latestBlock)

/-! ### Canonical chains -/

/-- The blocks of a chain from its genesis, which is a header alone. -/
structure CanonicalChain where
  blocks : List Block
  numbered : ∀ i (h : i < blocks.length), blocks[i].header.number.toNat = i
  genesis : ∀ block ∈ blocks.head?, block.body.transactions = []

variable (chain : CanonicalChain) (table : U64 → Option StoredL1Origin) (block : Block)

/-- A node on which every read succeeds. -/
def LookupProvider.ofChain :
    LookupProvider where
  latest := .ok chain.blocks.getLast?
  blockByNumber number := .ok chain.blocks[number.toNat]?
  databaseProviderRo := .ok ()
  l1Origin number := .ok (table number)

/-- The first transaction calls `anchorV4`. -/
def Block.IsV4Anchored : Prop :=
  ∃ tx, block.body.transactions.head? = some tx ∧ anchorV4Selector <+: tx.input

/-- A block of the batch by its extra data. -/
def Block.Carries (batchId : U256) : Prop :=
  ∃ id, decodeShastaProposalId block.header.extraData = some id ∧ id.setWidth 256 = batchId

/-- A block whose row is that of a preconfirmation. -/
def Block.MarkedPreconf : Prop :=
  ∃ row, table block.header.number = some row ∧ row.isPreconfRow

/-- A block the walk goes past: of a newer proposal, or a preconfirmed one of the batch. -/
structure Passed (table : U64 → Option StoredL1Origin) (batchId : U256) (block : Block) :
    Prop where
  anchored : block.IsV4Anchored
  number_ne_zero : block.header.number ≠ 0
  newer_or_preconf : ∃ id, decodeShastaProposalId block.header.extraData = some id ∧
    (batchId < id.setWidth 256 ∨ id.setWidth 256 = batchId ∧ block.MarkedPreconf table)

/-- What each way of leaving a block says about it. -/
inductive VisitSpec (table : U64 → Option StoredL1Origin) (headNumber : U64) (batchId : U256)
    (block : Block) : Visit → Prop
  | passed (h : Passed table batchId block) :
      VisitSpec table headNumber batchId block (.walk (block.header.number - 1))
  | unanchored (h : ¬ block.IsV4Anchored ∨ block.header.number = 0) :
      VisitSpec table headNumber batchId block (.stop .notFound)
  | older (id : U64) (h : decodeShastaProposalId block.header.extraData = some id)
      (hlt : id.setWidth 256 < batchId) :
      VisitSpec table headNumber batchId block (.stop .notFound)
  | found (hanchored : block.IsV4Anchored) (hcarries : block.Carries batchId)
      (hmarked : ¬ block.MarkedPreconf table)
      (hhead : headNumber = block.header.number → table block.header.number ≠ none) :
      VisitSpec table headNumber batchId block (.stop (.found block.header.number))
  | uncertain (hcarries : block.Carries batchId) (hhead : headNumber = block.header.number)
      (hrow : table block.header.number = none) :
      VisitSpec table headNumber batchId block (.stop .uncertainAtHead)

section Spec

variable {chain : CanonicalChain} {table : U64 → Option StoredL1Origin} {headNumber : U64}
  {batchId : U256} {block : Block} {n : ℕ} {result : LastBlockSearchResult}
  {scanned below : List Block}

lemma visitBatchBlock_spec {E : EthApiError → Prop} (hanchored : block.IsV4Anchored)
    (hzero : block.header.number ≠ 0) (hcarries : block.Carries batchId) :
    Satisfies E (VisitSpec table headNumber batchId block)
      (visitBatchBlock (.ofChain chain table) headNumber block.header.number) := by
  have hread : (LookupProvider.ofChain chain table).l1Origin block.header.number
      = .ok (table block.header.number) := rfl
  rw [visitBatchBlock, hread]
  cases hrow : table block.header.number with
  | none =>
    dsimp only
    rw [visitBatchBlock.withoutOrigin]
    split
    · next hhead => exact .uncertain hcarries hhead hrow
    · next hhead =>
      refine .found hanchored hcarries ?_ fun heq => absurd heq hhead
      rintro ⟨row, hrow', -⟩
      rw [hrow] at hrow'
      cases hrow'
  | some row =>
    dsimp only
    split
    · next hpreconf =>
      obtain ⟨id, hid, heq⟩ := hcarries
      exact .passed ⟨hanchored, hzero, id, hid, .inr ⟨heq, row, hrow, hpreconf⟩⟩
    · next hpreconf =>
      refine .found hanchored hcarries ?_ fun _ => by simp [hrow]
      rintro ⟨row', hrow', hpreconf'⟩
      rw [hrow] at hrow'
      cases hrow'
      exact hpreconf hpreconf'

/-- A visit fails only at an anchored block without extra data for the proposal. -/
lemma visitBlock_spec :
    Satisfies
      (fun _ => block.IsV4Anchored ∧ block.header.extraData.length < shastaExtraDataLen)
      (VisitSpec table headNumber batchId block)
      (visitBlock (.ofChain chain table) headNumber batchId block) := by
  rw [visitBlock]
  split
  · next hnone =>
    refine .unanchored (.inl ?_)
    rintro ⟨tx, htx, -⟩
    rw [hnone] at htx
    cases htx
  · next firstTx hfirst =>
    split
    · next hbreak =>
      refine .unanchored (hbreak.imp_left fun hselector => ?_)
      rintro ⟨tx, htx, hprefix⟩
      rw [hfirst] at htx
      cases htx
      exact hselector hprefix
    · next hbreak =>
      obtain ⟨hselector, hzero⟩ := not_or.mp hbreak
      have hanchored : block.IsV4Anchored := ⟨firstTx, hfirst, not_not.mp hselector⟩
      split
      · next hnone =>
        refine ⟨hanchored, ?_⟩
        rw [decodeShastaProposalId] at hnone
        split_ifs at hnone with hshort
        exact hshort
      · next id hid =>
        -- the block is anchored and its id decodes: it is older, newer or the batch's
        rw [visitProposal]
        split
        · next holder => exact .older id hid holder
        · next holder =>
          split
          · next hnewer => exact .passed ⟨hanchored, hzero, id, hid, .inl hnewer⟩
          · next hnewer =>
            have heq : id.setWidth 256 = batchId :=
              BitVec.le_antisymm (BitVec.not_lt.mp hnewer) (BitVec.not_lt.mp holder)
            exact visitBatchBlock_spec hanchored hzero ⟨id, hid, heq⟩

/-- How the walk down a list of blocks ended, within `budget` of them: it looked at as many,
or it stopped at the block after those it passed. -/
def ScanSpec (table : U64 → Option StoredL1Origin) (headNumber : U64) (batchId : U256)
    (budget : ℕ) (down : List Block) (result : LastBlockSearchResult) (scanned : List Block) :
    Prop :=
  ∃ passed rest, down = passed ++ rest ∧ (∀ block ∈ passed, Passed table batchId block) ∧
    (result = .lookbackExceeded ∧ scanned = passed ∧ passed.length = budget ∨
      ∃ block below, rest = block :: below ∧ scanned = passed ++ [block] ∧
        passed.length < budget ∧ VisitSpec table headNumber batchId block (.stop result))

/-- The blocks up to a position, from there down. -/
lemma CanonicalChain.down_succ (chain : CanonicalChain) (hn : n < chain.blocks.length) :
    (chain.blocks.take (n + 1)).reverse = chain.blocks[n] :: (chain.blocks.take n).reverse := by
  rw [List.take_succ_eq_append_getElem hn, List.reverse_append, List.reverse_singleton,
    List.singleton_append]

/-- A block that is passed is followed by the block at the position below. -/
lemma CanonicalChain.toNat_number_sub_one (chain : CanonicalChain) (hn : n < chain.blocks.length)
    (hzero : chain.blocks[n].header.number ≠ 0) :
    0 < n ∧ (chain.blocks[n].header.number - 1).toNat = n - 1 := by
  have hnumber := chain.numbered n hn
  have hpos : 0 < n := by
    rw [← hnumber]
    exact Nat.pos_of_ne_zero fun h => hzero (BitVec.eq_of_toNat_eq h)
  refine ⟨hpos, ?_⟩
  rw [BitVec.toNat_sub_of_le (by rw [BitVec.le_def, hnumber]; exact hpos), hnumber]
  rfl

lemma scan_spec {budget : ℕ} (hn : n < chain.blocks.length)
    (h : scan (.ofChain chain table) headNumber batchId budget chain.blocks[n]?
      = .ok (result, scanned)) :
    ScanSpec table headNumber batchId budget (chain.blocks.take (n + 1)).reverse
      result scanned := by
  rw [List.getElem?_eq_getElem hn] at h
  rw [chain.down_succ hn]
  induction budget generalizing n scanned with
  | zero =>
    cases h
    exact ⟨[], _, rfl, by simp, .inl ⟨rfl, rfl, rfl⟩⟩
  | succ budget ih =>
    rw [scan] at h
    obtain ⟨visit, hvisit, h⟩ := bind_eq_ok.mp h
    have hspec := visitBlock_spec.of_ok hvisit
    cases visit with
    | stop result =>
      cases h
      exact ⟨[], _, rfl, by simp, .inr ⟨_, _, rfl, rfl, Nat.succ_pos _, hspec⟩⟩
    | walk number =>
      cases hspec with
      | passed hpassed =>
        obtain ⟨hpos, hbelow⟩ := chain.toNat_number_sub_one hn hpassed.number_ne_zero
        obtain ⟨n, rfl⟩ := Nat.exists_eq_succ_of_ne_zero hpos.ne'
        have hn' : n < chain.blocks.length := Nat.lt_of_succ_lt hn
        obtain ⟨next, hnext, h⟩ := bind_eq_ok.mp h
        obtain ⟨⟨result', scanned'⟩, hscan, h⟩ := bind_eq_ok.mp h
        cases h
        have hread : next = some chain.blocks[n] := by
          rw [internalEthError, LookupProvider.ofChain] at hnext
          rw [← Except.ok.inj hnext, hbelow]
          exact List.getElem?_eq_getElem hn'
        obtain ⟨passed, rest, hdown, hall, hend⟩ := ih hn' (hread ▸ hscan)
        refine ⟨_ :: passed, rest, by rw [chain.down_succ hn', hdown]; rfl,
          List.forall_mem_cons.mpr ⟨hpassed, hall⟩, hend.imp ?_ ?_⟩
        · rintro ⟨rfl, rfl, rfl⟩
          exact ⟨rfl, rfl, rfl⟩
        · rintro ⟨block, below, rfl, rfl, hlength, hstop⟩
          exact ⟨block, below, rfl, rfl, Nat.succ_lt_succ hlength, hstop⟩

/-- With extra data for the proposal in every anchored block, the walk ends with an answer. -/
lemma exists_scan (hextra : ∀ block ∈ chain.blocks, block.IsV4Anchored →
      shastaExtraDataLen ≤ block.header.extraData.length) (budget : ℕ) {current : Option Block}
    (hcurrent : ∀ block ∈ current, block ∈ chain.blocks) :
    ∃ out, scan (.ofChain chain table) headNumber batchId budget current = .ok out := by
  induction budget generalizing current with
  | zero => cases current <;> exact ⟨_, rfl⟩
  | succ budget ih =>
    cases current with
    | none => exact ⟨_, rfl⟩
    | some block =>
      have hvisits := @visitBlock_spec chain table headNumber batchId block
      rcases hvisit : visitBlock (.ofChain chain table) headNumber batchId block with
        error | result | number
      · rw [hvisit] at hvisits
        exact absurd (hextra block (hcurrent block rfl) hvisits.1) (not_le.mpr hvisits.2)
      · exact ⟨(result, [block]), by rw [scan, hvisit]; rfl⟩
      · obtain ⟨⟨result, scanned⟩, hscan⟩ := @ih chain.blocks[number.toNat]?
          fun block hblock => List.mem_of_getElem? hblock
        refine ⟨(result, block :: scanned), ?_⟩
        rw [scan, hvisit]
        change (scan (.ofChain chain table) headNumber batchId budget
          chain.blocks[number.toNat]? >>= _) = _
        rw [hscan]
        rfl

lemma findLastBlockNumberByBatchId_ofChain (hne : chain.blocks ≠ []) :
    findLastBlockNumberByBatchId (.ofChain chain table) batchId
      = scan (.ofChain chain table) (chain.blocks.getLast hne).header.number batchId
          maxBackwardScanBlocks (some (chain.blocks.getLast hne)) := by
  rw [findLastBlockNumberByBatchId]
  simp only [LookupProvider.ofChain, List.getLast?_eq_some_getLast hne]
  rfl

lemma find_spec
    (h : findLastBlockNumberByBatchId (.ofChain chain table) batchId = .ok (result, scanned)) :
    chain.blocks = [] ∧ result = .notFound ∧ scanned = [] ∨
      ∃ hne : chain.blocks ≠ [], ScanSpec table (chain.blocks.getLast hne).header.number batchId
        maxBackwardScanBlocks chain.blocks.reverse result scanned := by
  by_cases hne : chain.blocks = []
  · have hnone : findLastBlockNumberByBatchId (.ofChain chain table) batchId
        = .ok (.notFound, []) := by
      rw [findLastBlockNumberByBatchId]
      simp only [LookupProvider.ofChain, hne]
      rfl
    cases hnone.symm.trans h
    exact .inl ⟨hne, rfl, rfl⟩
  · have hlast : chain.blocks.length - 1 < chain.blocks.length :=
      Nat.sub_lt (List.length_pos_of_ne_nil hne) Nat.one_pos
    rw [findLastBlockNumberByBatchId_ofChain hne, List.getLast_eq_getElem,
      ← List.getElem?_eq_getElem hlast] at h
    have hspec := scan_spec hlast h
    rw [Nat.sub_add_cancel (List.length_pos_of_ne_nil hne), List.take_length] at hspec
    refine .inr ⟨hne, ?_⟩
    rwa [List.getLast_eq_getElem]

lemma exists_find (hextra : ∀ block ∈ chain.blocks, block.IsV4Anchored →
      shastaExtraDataLen ≤ block.header.extraData.length) :
    ∃ out, findLastBlockNumberByBatchId (.ofChain chain table) batchId = .ok out := by
  by_cases hne : chain.blocks = []
  · refine ⟨(.notFound, []), ?_⟩
    rw [findLastBlockNumberByBatchId]
    simp only [LookupProvider.ofChain, hne]
    rfl
  · rw [findLastBlockNumberByBatchId_ofChain hne]
    refine exists_scan hextra _ fun block hblock => ?_
    cases hblock
    exact List.getLast_mem hne

lemma CanonicalChain.numbers_increasing (chain : CanonicalChain) :
    chain.blocks.Pairwise fun a b => a.header.number < b.header.number := by
  rw [List.pairwise_iff_getElem]
  intro i j hi hj hij
  rwa [BitVec.lt_def, chain.numbered i hi, chain.numbered j hj]

/-- The blocks above a block are those of a larger number. -/
lemma CanonicalChain.number_lt_iff {above : List Block} {block' : Block}
    (hsplit : chain.blocks = below ++ block :: above) (hmem : block' ∈ chain.blocks) :
    block.header.number < block'.header.number ↔ block' ∈ above := by
  have hincreasing := chain.numbers_increasing
  rw [hsplit] at hmem hincreasing
  obtain ⟨-, htail, hbelow⟩ := List.pairwise_append.mp hincreasing
  have habove := (List.pairwise_cons.mp htail).1
  refine ⟨fun hlt => ?_, fun h => habove block' h⟩
  rcases List.mem_append.mp hmem with h | h
  · exact absurd hlt (BitVec.lt_asymm (hbelow block' h block List.mem_cons_self))
  · rcases List.mem_cons.mp h with rfl | h
    · exact absurd hlt (BitVec.lt_irrefl _)
    · exact h

/-- Only a header without transactions has number zero. -/
lemma CanonicalChain.not_anchored_of_number_zero (hmem : block ∈ chain.blocks)
    (hzero : block.header.number = 0) : ¬ block.IsV4Anchored := by
  obtain ⟨i, hi, rfl⟩ := List.getElem_of_mem hmem
  have hposition := chain.numbered i hi
  rw [hzero] at hposition
  obtain rfl : i = 0 := hposition.symm
  rintro ⟨tx, htx, -⟩
  have hhead : chain.blocks[0] ∈ chain.blocks.head? := by
    rw [List.head?_eq_getElem?]
    exact List.getElem?_eq_getElem hi
  rw [chain.genesis _ hhead] at htx
  cases htx

lemma Passed.markedPreconf (h : Passed table batchId block) (hcarries : block.Carries batchId) :
    block.MarkedPreconf table := by
  obtain ⟨id, hid, heq⟩ := hcarries
  obtain ⟨id', hid', hnewer | ⟨-, hmarked⟩⟩ := h.newer_or_preconf
  · cases hid.symm.trans hid'
    rw [heq] at hnewer
    exact absurd hnewer (BitVec.lt_irrefl batchId)
  · exact hmarked

/-- Proposal ids never decrease along the blocks. -/
def IdsNondecreasing (blocks : List Block) : Prop :=
  blocks.Pairwise fun a b => ∀ i j, decodeShastaProposalId a.header.extraData = some i →
    decodeShastaProposalId b.header.extraData = some j → i ≤ j

/-- Where the walk stopped short of the batch, the anchored blocks at the top of the chain
have nothing of the batch but preconfirmed blocks. -/
lemma notFound_suffix {passed suffix : List Block}
    (hsplit : chain.blocks = below ++ block :: passed)
    (hpassed : ∀ b ∈ passed, Passed table batchId b)
    (hstop : VisitSpec table headNumber batchId block (.stop .notFound))
    (hsuffix : suffix <:+ chain.blocks) (hanchored : ∀ b ∈ suffix, b.IsV4Anchored)
    (hids : IdsNondecreasing suffix) {b : Block} (hb : b ∈ suffix) (hcarries : b.Carries batchId) :
    b.MarkedPreconf table := by
  have htop : block :: passed <:+ chain.blocks := hsplit ▸ List.suffix_append below _
  have hcases : suffix <:+ passed ∨ block :: passed <:+ suffix := by
    rcases List.suffix_or_suffix_of_suffix hsuffix htop with hshort | hlong
    · rcases List.suffix_cons_iff.mp hshort with rfl | hshort
      · exact .inr (List.suffix_refl _)
      · exact .inl hshort
    · exact .inr hlong
  rcases hcases with hshort | hlong
  · exact (hpassed b (hshort.subset hb)).markedPreconf hcarries
  · -- the suffix reaches the block the walk stopped at, so that one is of an older proposal
    have hmem : block ∈ suffix := hlong.subset List.mem_cons_self
    obtain ⟨pre, rfl⟩ := hlong
    obtain ⟨id, hid, hlt⟩ : ∃ id, decodeShastaProposalId block.header.extraData = some id ∧
        id.setWidth 256 < batchId := by
      cases hstop with
      | unanchored h =>
        rcases h with h | h
        · exact absurd (hanchored block hmem) h
        · exact absurd (hanchored block hmem)
            (chain.not_anchored_of_number_zero (hsuffix.subset hmem) h)
      | older id hid hlt => exact ⟨id, hid, hlt⟩
    obtain ⟨id', hid', heq⟩ := hcarries
    have hnot : ¬ id' ≤ id := by
      intro hle
      rw [← heq, BitVec.lt_def, BitVec.toNat_setWidth, BitVec.toNat_setWidth] at hlt
      rw [BitVec.le_def] at hle
      omega
    rcases List.mem_append.mp hb with h | h
    · exact absurd ((List.pairwise_append.mp hids).2.2 b h block List.mem_cons_self id' id hid' hid)
        hnot
    · rcases List.mem_cons.mp h with rfl | h
      · cases hid.symm.trans hid'
        exact absurd (BitVec.le_refl id) hnot
      · exact (hpassed b h).markedPreconf ⟨id', hid', heq⟩

end Spec

/-- What the lookup answers on every chain and table: it ends within its limit, at the blocks
from the head down; a block found is the last of the batch that is not preconfirmed; and with
no block found there is none, above where the anchors start or among the blocks looked at. -/
theorem findLastBlockNumberByBatchId_spec (batchId : U256)
    (hextra : ∀ block ∈ chain.blocks, block.IsV4Anchored →
      shastaExtraDataLen ≤ block.header.extraData.length) :
    ∃ result scanned,
      findLastBlockNumberByBatchId (.ofChain chain table) batchId = .ok (result, scanned) ∧
      scanned.length ≤ maxBackwardScanBlocks ∧ scanned <+: chain.blocks.reverse ∧
      (∀ n, result = .found n → ∃ block ∈ chain.blocks, block.header.number = n ∧
        block.Carries batchId ∧ ¬ block.MarkedPreconf table ∧
        ∀ b ∈ chain.blocks, n < b.header.number → b.Carries batchId → b.MarkedPreconf table) ∧
      (result = .notFound → ∀ suffix, suffix <:+ chain.blocks →
        (∀ b ∈ suffix, b.IsV4Anchored) → IdsNondecreasing suffix →
        ∀ b ∈ suffix, b.Carries batchId → b.MarkedPreconf table) ∧
      (result = .lookbackExceeded → ∀ b ∈ scanned, b.Carries batchId →
        b.MarkedPreconf table) := by
  obtain ⟨⟨result, scanned⟩, h⟩ := @exists_find chain table batchId hextra
  refine ⟨result, scanned, h, ?_⟩
  rcases find_spec h with ⟨hnil, rfl, rfl⟩ | ⟨hne, passed, rest, hdown, hpassed, hend⟩
  · refine ⟨Nat.zero_le _, List.nil_prefix, fun _ h => (nomatch h), fun _ suffix hsuffix => ?_,
      fun h => (nomatch h)⟩
    rw [hnil, List.suffix_nil] at hsuffix
    simp [hsuffix]
  -- the walk ran out of budget, or stopped at a block
  rcases hend with ⟨rfl, rfl, hlength⟩ | ⟨block, below, rfl, rfl, hlength, hstop⟩
  · refine ⟨hlength.le, ⟨rest, hdown.symm⟩, fun _ h => (nomatch h), fun h => (nomatch h),
      fun _ b hb hcarries => (hpassed b hb).markedPreconf hcarries⟩
  · have hsplit : chain.blocks = below.reverse ++ block :: passed.reverse := by
      rw [← List.reverse_inj, hdown]
      simp
    have hpassed' : ∀ b ∈ passed.reverse, Passed table batchId b := fun b hb =>
      hpassed b (List.mem_reverse.mp hb)
    refine ⟨?_, ⟨below, by rw [hdown]; simp⟩, ?_, ?_, ?_⟩
    · rw [List.length_append, List.length_singleton]
      exact hlength
    · rintro n rfl
      cases hstop with
      | found hanchored hcarries hmarked hhead =>
        have hmem : block ∈ chain.blocks := by simp [hsplit]
        refine ⟨block, hmem, rfl, hcarries, hmarked, fun b hb hlt hcarries => ?_⟩
        exact (hpassed' b ((CanonicalChain.number_lt_iff hsplit hb).mp hlt)).markedPreconf
          hcarries
    · rintro rfl suffix hsuffix hanchored hids b hb hcarries
      exact notFound_suffix hsplit hpassed' hstop hsuffix hanchored hids hb hcarries
    · rintro rfl
      cases hstop

/-- A block of the lookup: genesis is a header alone, every other block anchored. -/
def lookupBlock (number : U64) (proposalId : U8) : Block where
  header :=
    { parentHash := 0, ommersHash := 0, beneficiary := 0, transactionsRoot := 0,
      receiptsRoot := 0, difficulty := 0, number, gasLimit := 0, gasUsed := 0, timestamp := 0,
      extraData := [0, 0, 0, 0, 0, 0, proposalId], nonce := none, baseFeePerGas := none,
      blockAccessListHash := none, slotNumber := none }
  body :=
    { transactions := if number = 0 then [] else
        [⟨0, 0, 1000000, .call 0, 0, anchorV4Selector, .legacy none 0, none⟩],
      ommers := [], withdrawals := none }

/-- Two blocks of proposal 7 on genesis. -/
def preconfChain : CanonicalChain where
  blocks := [lookupBlock 0 0, lookupBlock 1 7, lookupBlock 2 7]
  numbered := by decide
  genesis := by decide

/-- Only the head has a row, with an L1 height of zero. -/
def preconfTable : U64 → Option StoredL1Origin :=
  fun number => if number = 2 then
    some (.ofRpc { confirmedOrigin with blockId := 2, l1BlockHeight := none }) else none

/-- The lookup on a chain whose head is preconfirmed. -/
theorem findLastBlockNumberByBatchId_spec_preconf :
    findLastBlockNumberByBatchId (.ofChain preconfChain preconfTable) 7
        = .ok (.found 1, [lookupBlock 2 7, lookupBlock 1 7]) ∧
      ∃ block ∈ preconfChain.blocks, block.header.number = 1 ∧ block.Carries 7 ∧
        ¬ block.MarkedPreconf preconfTable := by
  have hextra : ∀ block ∈ preconfChain.blocks,
      shastaExtraDataLen ≤ block.header.extraData.length := by decide
  have heq : findLastBlockNumberByBatchId (.ofChain preconfChain preconfTable) 7
      = .ok (.found 1, [lookupBlock 2 7, lookupBlock 1 7]) := by decide +kernel
  obtain ⟨result, scanned, h, -, -, hfound, -⟩ :=
    findLastBlockNumberByBatchId_spec preconfChain preconfTable 7
      fun block hblock _ => hextra block hblock
  cases heq.symm.trans h
  obtain ⟨block, hmem, hnumber, hcarries, hmarked, -⟩ := hfound 1 rfl
  exact ⟨heq, block, hmem, hnumber, hcarries, hmarked⟩

/-! ### Certainty -/

/-- What makes a block the last of its batch for certain: an L1 block that includes it, or a
block above of a newer proposal. -/
def Certain (batchId : U256) (n : U64) : Prop :=
  (∃ row, table n = some row ∧ row.l1BlockHeight ≠ 0) ∨
    ∃ block ∈ chain.blocks, n < block.header.number ∧
      ∃ id, decodeShastaProposalId block.header.extraData = some id ∧ batchId < id.setWidth 256

/-- The chain on which an answer is in doubt: from the head down, preconfirmed blocks of the
batch and nothing else, then within the limit a block of the batch without an origin. -/
def InDoubt (batchId : U256) :
    Prop :=
  ∃ preconf block below, chain.blocks.reverse = preconf ++ block :: below ∧ preconf ≠ [] ∧
    preconf.length < maxBackwardScanBlocks ∧
    (∀ b ∈ preconf, b.IsV4Anchored ∧ b.Carries batchId ∧ b.MarkedPreconf table) ∧
    block.IsV4Anchored ∧ block.Carries batchId ∧ table block.header.number = none

section Certain

variable {chain : CanonicalChain} {table : U64 → Option StoredL1Origin} {batchId : U256}
  {headNumber : U64} {block : Block} {scanned : List Block}

/-- An anchored block of the batch is looked at by its row. -/
lemma visitBlock_of_carries (hmem : block ∈ chain.blocks) (hanchored : block.IsV4Anchored)
    (hcarries : block.Carries batchId) :
    visitBlock (.ofChain chain table) headNumber batchId block
      = visitBatchBlock (.ofChain chain table) headNumber block.header.number := by
  have hzero : block.header.number ≠ 0 := fun hzero =>
    chain.not_anchored_of_number_zero hmem hzero hanchored
  obtain ⟨tx, htx, hselector⟩ := hanchored
  obtain ⟨id, hid, rfl⟩ := hcarries
  rw [visitBlock, htx]
  dsimp only
  rw [if_neg (not_or.mpr ⟨not_not.mpr hselector, hzero⟩), hid]
  dsimp only
  rw [visitProposal, if_neg (BitVec.lt_irrefl _), if_neg (BitVec.lt_irrefl _)]

/-- The walk goes past preconfirmed blocks of the batch, and ends at the next block of it that
has no row. -/
lemma scan_preconf {preconf below : List Block} {budget n : ℕ} (hn : n < chain.blocks.length)
    (hdown : (chain.blocks.take (n + 1)).reverse = preconf ++ block :: below)
    (hpreconf : ∀ b ∈ preconf, b.IsV4Anchored ∧ b.Carries batchId ∧ b.MarkedPreconf table)
    (hanchored : block.IsV4Anchored) (hcarries : block.Carries batchId)
    (hrow : table block.header.number = none) (hhead : headNumber ≠ block.header.number)
    (hlength : preconf.length < budget) :
    scan (.ofChain chain table) headNumber batchId budget chain.blocks[n]?
      = .ok (.found block.header.number, preconf ++ [block]) := by
  obtain ⟨budget, rfl⟩ := Nat.exists_eq_succ_of_ne_zero (Nat.ne_zero_of_lt hlength)
  rw [List.getElem?_eq_getElem hn]
  rw [chain.down_succ hn] at hdown
  -- down the preconfirmed blocks; the budget covers the block below them
  induction preconf generalizing budget n with
  | nil =>
    obtain ⟨rfl, -⟩ := List.cons.inj hdown
    have hread : (LookupProvider.ofChain chain table).l1Origin chain.blocks[n].header.number
        = .ok none := congrArg Except.ok hrow
    rw [scan, visitBlock_of_carries (List.getElem_mem hn) hanchored hcarries, visitBatchBlock,
      hread]
    dsimp only
    rw [visitBatchBlock.withoutOrigin, if_neg hhead]
    rfl
  | cons b preconf ih =>
    rw [List.cons_append] at hdown
    obtain ⟨rfl, hrest⟩ := List.cons.inj hdown
    obtain ⟨⟨hanchored', hcarries', row, hrow', hmarked⟩, hpreconf'⟩ :=
      List.forall_mem_cons.mp hpreconf
    have hmem := List.getElem_mem hn
    have hread : (LookupProvider.ofChain chain table).l1Origin chain.blocks[n].header.number
        = .ok (some row) := congrArg Except.ok hrow'
    obtain ⟨hpos, hbelow⟩ := chain.toNat_number_sub_one hn fun hzero =>
      chain.not_anchored_of_number_zero hmem hzero hanchored'
    obtain ⟨n, rfl⟩ := Nat.exists_eq_succ_of_ne_zero hpos.ne'
    have hn' : n < chain.blocks.length := Nat.lt_of_succ_lt hn
    obtain ⟨budget, rfl⟩ := Nat.exists_eq_succ_of_ne_zero
      (Nat.ne_zero_of_lt (Nat.lt_of_succ_lt_succ hlength))
    have hnext : internalEthError ((LookupProvider.ofChain chain table).blockByNumber
        (chain.blocks[n + 1].header.number - 1)) = .ok (some chain.blocks[n]) := by
      show Except.ok chain.blocks[(chain.blocks[n + 1].header.number - 1).toNat]? = _
      rw [hbelow]
      exact congrArg Except.ok (List.getElem?_eq_getElem hn')
    have htail := ih hn' ((chain.down_succ hn').symm.trans hrest) hpreconf' budget
      (Nat.lt_of_succ_lt_succ hlength)
    have hvisit : visitBlock (.ofChain chain table) headNumber batchId chain.blocks[n + 1]
        = .ok (.walk (chain.blocks[n + 1].header.number - 1)) := by
      rw [visitBlock_of_carries hmem hanchored' hcarries', visitBatchBlock, hread]
      exact if_pos hmarked
    rw [scan]
    exact bind_eq_ok.mpr ⟨_, hvisit, bind_eq_ok.mpr ⟨_, hnext, bind_eq_ok.mpr ⟨_, htail, rfl⟩⟩⟩

/-- What a block found is: it comes after the blocks the walk passed. -/
lemma found_split {n : U64} (h : findLastBlockNumberByBatchId (.ofChain chain table) batchId
      = .ok (.found n, scanned)) :
    ∃ passed block below, chain.blocks.reverse = passed ++ block :: below ∧
      passed.length < maxBackwardScanBlocks ∧ (∀ b ∈ passed, Passed table batchId b) ∧
      n = block.header.number ∧ block.IsV4Anchored ∧ block.Carries batchId ∧
      ¬ block.MarkedPreconf table ∧ (passed = [] → table n ≠ none) := by
  obtain ⟨-, heq, -⟩ | ⟨hne, passed, rest, hdown, hpassed, hend⟩ := find_spec h
  · cases heq
  obtain ⟨heq, -, -⟩ | ⟨block, below, rfl, -, hlength, hstop⟩ := hend
  · cases heq
  cases hstop with
  | found hanchored hcarries hmarked hhead =>
    refine ⟨passed, block, below, hdown, hlength, hpassed, rfl, hanchored, hcarries, hmarked,
      ?_⟩
    rintro rfl
    refine hhead (congrArg (fun b : Block => b.header.number) ?_)
    have hlast := List.getLast?_eq_some_getLast hne
    rw [← List.head?_reverse, hdown] at hlast
    exact (Option.some.inj hlast).symm

/-- A block found on a chain that is not in doubt is certain. -/
lemma certain_of_not_inDoubt (hdoubt : ¬ InDoubt chain table batchId) {n : U64}
    (h : findLastBlockNumberByBatchId (.ofChain chain table) batchId
      = .ok (.found n, scanned)) :
    Certain chain table batchId n := by
  obtain ⟨passed, block, below, hdown, hlength, hpassed, rfl, hanchored, hcarries, hmarked,
    hrow⟩ := found_split h
  by_contra huncertain
  obtain ⟨hheight, hnewer⟩ := not_or.mp huncertain
  have hsplit : chain.blocks = below.reverse ++ block :: passed.reverse := by
    rw [← List.reverse_inj, hdown]
    simp
  have hnone : table block.header.number = none := by
    by_contra hne
    obtain ⟨row, hrow⟩ := Option.ne_none_iff_exists'.mp hne
    refine hheight ⟨row, hrow, fun hzero => hmarked ⟨row, hrow, ?_⟩⟩
    simp [StoredL1Origin.isPreconfRow, hzero]
  refine hdoubt ⟨passed, block, below, hdown, fun hnil => hrow hnil hnone, hlength, ?_, hanchored,
    hcarries, hnone⟩
  -- what the walk passed has no newer proposal, so it is preconfirmed
  intro b hb
  have hb' : b ∈ chain.blocks := by simp [hsplit, hb]
  obtain ⟨id, hid, hlt | ⟨heq, hpreconf⟩⟩ := (hpassed b hb).newer_or_preconf
  · refine absurd ⟨b, hb', ?_, id, hid, hlt⟩ hnewer
    exact (CanonicalChain.number_lt_iff hsplit hb').mpr (List.mem_reverse.mpr hb)
  · exact ⟨(hpassed b hb).anchored, ⟨id, hid, heq⟩, hpreconf⟩

/-- On a chain in doubt the block without an origin is found, although it is not certain. -/
lemma InDoubt.found (h : InDoubt chain table batchId) :
    ∃ n scanned, findLastBlockNumberByBatchId (.ofChain chain table) batchId
      = .ok (.found n, scanned) ∧ ¬ Certain chain table batchId n := by
  obtain ⟨preconf, block, below, hdown, hnil, hlength, hpreconf, hanchored, hcarries, hrow⟩ := h
  have hsplit : chain.blocks = below.reverse ++ block :: preconf.reverse := by
    rw [← List.reverse_inj, hdown]
    simp
  have hne : chain.blocks ≠ [] := by simp [hsplit]
  have hlast : chain.blocks.length - 1 < chain.blocks.length :=
    Nat.sub_lt (List.length_pos_of_ne_nil hne) Nat.one_pos
  have habove : ∀ b ∈ chain.blocks, block.header.number < b.header.number → b ∈ preconf :=
    fun b hb hlt => List.mem_reverse.mp ((CanonicalChain.number_lt_iff hsplit hb).mp hlt)
  have hhead : (chain.blocks.getLast hne).header.number ≠ block.header.number := by
    have hmem : chain.blocks.getLast hne ∈ preconf.reverse := by
      simp only [hsplit]
      rw [List.getLast_append_of_ne_nil _ (List.cons_ne_nil _ _), List.getLast_cons (by simpa)]
      exact List.getLast_mem _
    intro heq
    have hlt := (CanonicalChain.number_lt_iff hsplit (List.getLast_mem hne)).mpr hmem
    exact BitVec.lt_irrefl _ (heq ▸ hlt)
  refine ⟨block.header.number, preconf ++ [block], ?_, ?_⟩
  · rw [findLastBlockNumberByBatchId_ofChain hne]
    conv_lhs => arg 5; rw [List.getLast_eq_getElem, ← List.getElem?_eq_getElem hlast]
    refine scan_preconf hlast (Eq.trans ?_ hdown) hpreconf hanchored hcarries hrow hhead hlength
    rw [Nat.sub_add_cancel (List.length_pos_of_ne_nil hne), List.take_length]
  · rintro (⟨row, hsome, -⟩ | ⟨b, hb, hlt, id, hid, hnewer⟩)
    · rw [hrow] at hsome
      cases hsome
    · obtain ⟨-, ⟨id', hid', rfl⟩, -⟩ := hpreconf b (habove b hb hlt)
      cases hid.symm.trans hid'
      exact BitVec.lt_irrefl _ hnewer

end Certain

/-- Every answer is certain exactly where the chain is not in doubt, in particular where its
head is no preconfirmed block of the batch.  Below the head the walk asks for neither an
origin nor a newer proposal. -/
theorem found_certain_iff (batchId : U256) :
    ((∀ n scanned, findLastBlockNumberByBatchId (.ofChain chain table) batchId
        = .ok (.found n, scanned) → Certain chain table batchId n) ↔
      ¬ InDoubt chain table batchId) ∧
    ((∀ head ∈ chain.blocks.getLast?, ¬ (head.Carries batchId ∧ head.MarkedPreconf table)) →
      ¬ InDoubt chain table batchId) := by
  refine ⟨⟨fun hall hdoubt => ?_, fun hdoubt n scanned => certain_of_not_inDoubt hdoubt⟩, ?_⟩
  · obtain ⟨n, scanned, hfound, huncertain⟩ := hdoubt.found
    exact huncertain (hall n scanned hfound)
  · rintro hhead ⟨_ | ⟨head, preconf⟩, block, below, hdown, hnil, -, hpreconf, -⟩
    · exact hnil rfl
    · refine hhead head ?_ (hpreconf head List.mem_cons_self).2
      rw [← List.head?_reverse, hdown]
      rfl

/-- A block of proposal 7 below one of proposal 8. -/
def newerChain : CanonicalChain where
  blocks := [lookupBlock 0 0, lookupBlock 1 7, lookupBlock 2 8]
  numbered := by decide
  genesis := by decide

/-- A newer proposal above makes the block below it certain. -/
theorem found_certain_newer :
    findLastBlockNumberByBatchId (.ofChain newerChain fun _ => none) 7
        = .ok (.found 1, [lookupBlock 2 8, lookupBlock 1 7]) ∧
      Certain newerChain (fun _ => none) 7 1 := by
  have h : findLastBlockNumberByBatchId (.ofChain newerChain fun _ => none) 7
      = .ok (.found 1, [lookupBlock 2 8, lookupBlock 1 7]) := by decide +kernel
  obtain ⟨hiff, hhead⟩ := found_certain_iff newerChain (fun _ => none) 7
  refine ⟨h, hiff.mpr (hhead ?_) 1 _ h⟩
  rintro head - ⟨-, row, hrow, -⟩
  cases hrow

/-- A block without an origin is found below a preconfirmed block of the same batch, although
no block has a newer proposal. -/
theorem found_uncertain :
    findLastBlockNumberByBatchId (.ofChain preconfChain preconfTable) 7
        = .ok (.found 1, [lookupBlock 2 7, lookupBlock 1 7]) ∧
      ¬ Certain preconfChain preconfTable 7 1 := by
  refine ⟨by decide +kernel, ?_⟩
  have hnone : ∀ block ∈ preconfChain.blocks,
      ((decodeShastaProposalId block.header.extraData).all fun id =>
        decide (¬ (7 : U256) < id.setWidth 256)) = true := by decide +kernel
  rintro (⟨row, hrow, -⟩ | ⟨block, hblock, -, id, hid, hnewer⟩)
  · cases hrow
  · have hid' := hnone block hblock
    rw [hid, Option.all_some, decide_eq_true_iff] at hid'
    exact hid' hnewer

end AlethiaReth
