import AlethiaReth.ProofHistory.System

/-!
Notifications that are handled in time: if reorgs and reverts are published only while nothing is
queued, the window is on the canonical chain or agrees with it up to the fork block of the next
notification, and no section of a healthy node fails (`Step.follows`).
-/

namespace AlethiaReth.ProofHistory

open MachineInt Outcome Run

variable (node : Node)

/-- The stored window is a part of the canonical chain, on top of the blocks below. -/
structure OnChain (root : BlockNumHash) (below canonical : List BlockWithParent)
    (window : ProofWindow) : Prop where
  linked : window.Linked
  leads : Leads root below window.earliest
  within : below ++ window.blocks <+: canonical

section OnChain

variable {root tip : BlockNumHash} {below canonical : List BlockWithParent}
  {window window' : ProofWindow}

lemma OnChain.mono {canonical' : List BlockWithParent} (h : OnChain root below canonical window)
    (hle : canonical <+: canonical') : OnChain root below canonical' window :=
  ⟨h.linked, h.leads, h.within.trans hle⟩

/-- The window agrees with every other part of the canonical chain on top of what is below. -/
lemma OnChain.agrees (h : OnChain root below canonical window) {shared : List BlockWithParent}
    (hle : below ++ shared <+: canonical) :
    window.blocks <+: shared ∨ shared <+: window.blocks := by
  rcases List.prefix_or_prefix_of_prefix h.within hle with hle | hle
  · exact .inl ((List.prefix_append_right_inj below).mp hle)
  · exact .inr ((List.prefix_append_right_inj below).mp hle)

/-- The canonical chain goes on from the stored window. -/
lemma OnChain.above (h : OnChain root below canonical window) (htip : Leads root canonical tip) :
    ∃ above, canonical = (below ++ window.blocks) ++ above ∧
      Leads root (below ++ window.blocks) window.latest ∧ Leads window.latest above tip := by
  obtain ⟨above, rfl⟩ := h.within
  have hlower : Leads root (below ++ window.blocks) window.latest :=
    links_append.mpr ⟨_, h.leads, h.linked⟩
  obtain ⟨middle, hmiddle, habove⟩ := links_append.mp htip
  rw [← Links.end_unique hlower hmiddle] at habove
  exact ⟨above, rfl, hlower, habove⟩

/-- A canonical block that can be appended is the next one of the canonical chain. -/
lemma OnChain.append (h : OnChain root below canonical window) (htip : Leads root canonical tip)
    {block : BlockWithParent} (hmem : block ∈ canonical)
    (happends : Appends window window' [block]) : OnChain root below canonical window' := by
  obtain ⟨above, rfl, hlower, habove⟩ := h.above htip
  have hnumber : block.block.number = window.latest.number + 1 := happends.leads.1.1
  have hmem : block ∈ above := by
    rcases List.mem_append.mp hmem with hmem | hmem
    · have := (Links.height_mem number_of_extends hlower block hmem).2
      omega
    · exact hmem
  obtain ⟨rest, rfl⟩ := Links.eq_cons_of_height number_of_extends habove hmem hnumber
  refine ⟨happends.linked h.linked, happends.earliest ▸ h.leads, rest, ?_⟩
  rw [happends.stored, ← List.append_assoc, List.append_assoc _ [block]]
  rfl

/-- Below the canonical tip there is exactly one canonical block to append. -/
lemma OnChain.next (h : OnChain root below canonical window) (htip : Leads root canonical tip)
    (hlt : window.latest.number < tip.number) :
    ∃ block, Extends window.latest block ∧
      canonical.find? (fun b => b.block.number = window.latest.number + 1) = some block ∧
      ∀ b ∈ canonical, b.block.number = window.latest.number + 1 → b = block := by
  obtain ⟨above, hcanonical, hlower, habove⟩ := h.above htip
  cases above with
  | nil =>
    rw [show window.latest = tip from habove] at hlt
    exact absurd hlt (lt_irrefl _)
  | cons block rest =>
    rw [hcanonical] at htip ⊢
    refine ⟨block, habove.1, ?_, fun b hb hnumber => ?_⟩
    · rw [← habove.1.1]
      exact Links.find_height number_of_extends htip
    · rcases List.mem_append.mp hb with hb | hb
      · have := (Links.height_mem number_of_extends hlower b hb).2
        omega
      · obtain ⟨_, heq⟩ := Links.eq_cons_of_height number_of_extends habove hb hnumber
        exact (List.cons.inj heq).1.symm

end OnChain

section Processing

variable {verificationInterval : ℕ} {provider : Provider} {chain : Chain}
  {root tip : BlockNumHash} {below canonical : List BlockWithParent} {window : ProofWindow}
  (htip : Leads root canonical tip)
  (hread : ∀ number, provider.recoveredBlock number =
    canonical.find? fun block => block.block.number = number)
  (hexecutes : ∀ block, provider.executes block = true)
  (hchain : ∀ block ∈ chain.blocks, block ∈ canonical)
include htip hread hexecutes hchain

/-- The next canonical block is processed, from the notification or by execution. -/
lemma processBlock_onChain (hon : OnChain root below canonical window)
    (hlt : window.latest.number < tip.number) :
    ∃ window', processBlock verificationInterval provider chain (window.latest.number + 1)
        window = .ok window' ∧ OnChain root below canonical window' ∧
      window'.latest.number = window.latest.number + 1 := by
  obtain ⟨block, hextends, hfind, hunique⟩ := hon.next htip hlt
  have hmem : block ∈ canonical := List.mem_of_find?_eq_some hfind
  -- both routes append the same block
  suffices h : ∃ window', processBlock verificationInterval provider chain
      (window.latest.number + 1) window = .ok window' ∧ Appends window window' [block] by
    obtain ⟨window', hprocess, happends⟩ := h
    refine ⟨window', hprocess, hon.append htip hmem happends, ?_⟩
    rw [← happends.leads.2, hextends.1]
  rw [processBlock]
  cases hnotified : notifiedBlock verificationInterval (window.latest.number + 1) chain with
  | some notified =>
    have heq : notified = block := by
      rw [notifiedBlock] at hnotified
      split_ifs at hnotified
      have hnumber := List.find?_some hnotified
      exact hunique notified (hchain notified (List.mem_of_find?_eq_some hnotified))
        (of_decide_eq_true hnumber)
    obtain ⟨window', hstored, happends⟩ := storeTrieUpdates_of_extends hextends
    refine ⟨window', ?_, happends⟩
    simp only [heq, hstored]
    rfl
  | none =>
    have hle : window.earliest.number ≤ window.latest.number := by
      have := Links.height_eq number_of_extends hon.linked
      omega
    obtain ⟨window', hstored, happends⟩ :=
      executeAndStore_of_extends hextends hle (hexecutes block)
    refine ⟨window', ?_, happends⟩
    simp only [executeBlock, hread, hfind, hstored]
    rfl

/-- The blocks above the window, up to any canonical one, are processed without an error. -/
lemma commits_processBlock_onChain (hon : OnChain root below canonical window) {count : ℕ}
    (hle : window.latest.number + count ≤ tip.number) :
    ∃ window', commits ((List.range' (window.latest.number + 1) count).map
        (processBlock verificationInterval provider chain)) window = (window', .ok ()) ∧
      OnChain root below canonical window' := by
  induction count generalizing window with
  | zero => exact ⟨window, rfl, hon⟩
  | succ count ih =>
    obtain ⟨next, hprocess, hnext, hlatest⟩ := processBlock_onChain htip hread hexecutes hchain
      hon (show window.latest.number < tip.number by omega)
    obtain ⟨window', hrest, hon'⟩ := ih hnext (by omega)
    refine ⟨window', ?_, hon'⟩
    rw [List.range'_succ, List.map_cons, commits_cons_of_ok hprocess, ← hlatest]
    exact hrest

omit hread hexecutes hchain in
/-- A batch of the sync loop keeps the window on the canonical chain. -/
lemma syncBatch_onChain
    (hread : ∀ number block, provider.recoveredBlock number = some block → block ∈ canonical)
    (hon : OnChain root below canonical window) (executedHead : ℕ) :
    ∃ window', syncBatch provider executedHead (some window) = some window' ∧
      OnChain root below canonical window' := by
  cases htarget : proofHistorySyncTarget window.latest.number executedHead with
  | none =>
    refine ⟨window, ?_, hon⟩
    simp only [syncBatch, Option.map_some, htarget]
  | some target =>
    refine ⟨_, by simp only [syncBatch, Option.map_some, htarget]; rfl, ?_⟩
    refine commits_invariant (I := OnChain root below canonical) ?_ hon
    intro write hmem before after hbefore hwrite
    obtain ⟨number, -, rfl⟩ := List.mem_map.mp hmem
    obtain ⟨block, hblock, happends⟩ := executeBlock_eq_ok hwrite
    exact hbefore.append htip (hread number block hblock) happends

end Processing

/-! ### The window and the queue -/

/-- A commit of blocks that are still canonical. -/
def CommitsTo (canonical : List BlockWithParent) : CanonStateNotification → Prop
  | .commit new => new.blocks ≠ [] ∧ ∀ block ∈ new.blocks, block ∈ canonical
  | .reorg _ _ => False

/-- The window is on the canonical chain and only commits are queued; or the next notification is
a reorg or revert, and up to its fork block the window agrees with the canonical chain. -/
inductive Follows (node : Node) (window : ProofWindow) : Prop
  | commits {below : List BlockWithParent} (hon : OnChain node.root below node.canonical window)
      (hqueue : ∀ notification ∈ node.queue, CommitsTo node.canonical notification)
  | reorg {old new : Chain} {rest : List CanonStateNotification}
      {below shared : List BlockWithParent} {fork topOld : BlockNumHash}
      (hlinked : window.Linked) (hqueue : node.queue = .reorg old new :: rest)
      (hrest : ∀ notification ∈ rest, CommitsTo node.canonical notification)
      (hne : old.blocks ≠ []) (hold : Leads fork old.blocks topOld)
      (hbelow : Leads node.root below window.earliest)
      (hshared : Leads window.earliest shared fork)
      (hcanonical : below ++ shared ++ new.blocks <+: node.canonical)
      (hagrees : window.blocks <+: shared ∨ shared <+: window.blocks)

lemma CommitsTo.mono {canonical canonical' : List BlockWithParent}
    {notification : CanonStateNotification} (h : CommitsTo canonical notification)
    (hle : canonical <+: canonical') : CommitsTo canonical' notification := by
  cases notification with
  | commit new => exact ⟨h.1, fun block hblock => hle.subset (h.2 block hblock)⟩
  | reorg old new => exact h

/-- Reorgs and reverts leave the earliest stored block canonical. -/
def KeepsEarliest : Action → Prop
  | .published (.reorg old _) => ∀ window ∈ node.store, ∀ firstOld ∈ old.blocks.head?,
      window.earliest.number < firstOld.block.number
  | _ => True

/-- Reorgs and reverts are published only when all notifications before them were handled. -/
def ReorgsWhenIdle : Action → Prop
  | .published (.reorg _ _) => node.queue = []
  | _ => True

/-- The steps of a healthy node whose reorgs and reverts come while nothing is queued. -/
def Prompt (action : Action) : Prop :=
  action.Healthy ∧ KeepsEarliest node action ∧ ReorgsWhenIdle node action

section Follows

variable {verificationInterval : ℕ} {node} {window : ProofWindow} {tip : BlockNumHash} {new : Chain}
  {fork : BlockNumHash} {below shared : List BlockWithParent}

lemma Follows.publish_commit (h : Follows node window) (hne : new.blocks ≠ []) :
    Follows (node.publish (node.canonical ++ new.blocks) (.commit new)) window := by
  have hle : node.canonical <+: node.canonical ++ new.blocks := List.prefix_append _ _
  have hnew : CommitsTo (node.canonical ++ new.blocks) (.commit new) :=
    ⟨hne, fun block hblock => List.mem_append_right _ hblock⟩
  have hqueued : ∀ queue : List CanonStateNotification,
      (∀ notification ∈ queue, CommitsTo node.canonical notification) →
      ∀ notification ∈ queue ++ [.commit new],
        CommitsTo (node.canonical ++ new.blocks) notification := by
    intro queue hqueue notification hmem
    rcases List.mem_append.mp hmem with hmem | hmem
    · exact (hqueue notification hmem).mono hle
    · rw [List.mem_singleton.mp hmem]
      exact hnew
  cases h with
  | commits hon hqueue => exact .commits (hon.mono hle) (hqueued node.queue hqueue)
  | @reorg old new' rest _ _ _ _ hlinked hqueue hrest hold hleads hbelow hshared hcanonical
      hagrees =>
      refine .reorg hlinked ?_ (hqueued rest hrest) hold hleads hbelow hshared
        (hcanonical.trans hle) hagrees
      rw [Node.publish, hqueue]
      rfl

/-- A reorg that leaves the earliest block canonical forks off above the window's start. -/
lemma Follows.publish_reorg {base : List BlockWithParent} {old : Chain} (h : Follows node window)
    (hidle : node.queue = []) (hwf : node.WellFormed) (hne : old.blocks ≠ [])
    (hcanonical : node.canonical = base ++ old.blocks) (hfork : Leads node.root base fork)
    (hearliest : ∀ firstOld ∈ old.blocks.head?,
      window.earliest.number < firstOld.block.number) :
    Follows (node.publish (base ++ new.blocks) (.reorg old new)) window := by
  cases h with
  | reorg _ hqueue =>
    rw [hidle] at hqueue
    cases hqueue
  | @commits below hon _ =>
    have hbelow := hon.leads
    obtain ⟨topOld, hold⟩ := hwf.leads_old hcanonical hfork
    have hfirst : window.earliest.number ≤ fork.number := by
      obtain ⟨firstOld, rest, hblocks⟩ := List.exists_cons_of_ne_nil hne
      have hlt := hearliest firstOld (by rw [hblocks]; rfl)
      rw [hblocks] at hold
      have := hold.1.1
      omega
    have hbase : base <+: node.canonical := hcanonical ▸ List.prefix_append _ _
    -- what is below the window is below the fork, by its length
    obtain ⟨shared, rfl⟩ : below <+: base := by
      refine List.prefix_of_prefix_length_le ((List.prefix_append _ _).trans hon.within) hbase ?_
      have := Links.height_eq number_of_extends hbelow
      have := Links.height_eq number_of_extends hfork
      omega
    obtain ⟨middle, hmiddle, hshared⟩ := links_append.mp hfork
    rw [← Links.end_unique hbelow hmiddle] at hshared
    have hqueue : (node.publish ((below ++ shared) ++ new.blocks) (.reorg old new)).queue =
        [.reorg old new] := by
      rw [Node.publish, hidle]
      rfl
    exact .reorg hon.linked hqueue (fun _ hmem => (nomatch hmem)) hne hold hbelow hshared
      List.prefix_rfl (hon.agrees hbase)

lemma mem_canonical_of_recoveredBlock {faults : Faults} {number : ℕ} {block : BlockWithParent}
    (h : (node.provider faults).recoveredBlock number = some block) : block ∈ node.canonical := by
  simp only [Node.provider] at h
  split_ifs at h
  exact List.mem_of_find?_eq_some h

/-- A batch of the sync loop follows the canonical chain, or does not change what is shared. -/
lemma Follows.sync (h : Follows node window) (htip : Leads node.root node.canonical tip)
    (hstore : node.store = some window) (faults : Faults) (executedHead : ℕ) :
    ∃ window', (node.sync faults executedHead).store = some window' ∧
      Follows (node.sync faults executedHead) window' := by
  have hread : ∀ number block, (node.provider faults).recoveredBlock number = some block →
      block ∈ node.canonical := fun _ _ => mem_canonical_of_recoveredBlock
  rw [Node.sync, hstore]
  cases h with
  | commits hon hqueue =>
    obtain ⟨window', hsync, hon'⟩ := syncBatch_onChain htip hread hon executedHead
    exact ⟨window', hsync, .commits hon' hqueue⟩
  | @reorg _ _ _ below shared _ _ hlinked hqueue hrest hne hold hbelow hshared hcanonical
      hagrees =>
      obtain ⟨window', blocks, hsync, happends⟩ :=
        syncBatch_appends (node.provider faults) executedHead window
      refine ⟨window', hsync, .reorg (happends.linked hlinked) hqueue hrest hne hold
        (happends.earliest ▸ hbelow) (happends.earliest ▸ hshared) hcanonical ?_⟩
      rcases hagrees with hle | hle
      · -- the window is on the canonical chain, and so is the longer one
        have hon : OnChain node.root below node.canonical window := by
          refine ⟨hlinked, hbelow, ?_⟩
          refine ((List.prefix_append_right_inj below).mpr hle).trans ?_
          exact (List.prefix_append _ _).trans hcanonical
        obtain ⟨window'', hsync', hon'⟩ := syncBatch_onChain htip hread hon executedHead
        obtain rfl : window' = window'' := Option.some.inj (hsync.symm.trans hsync')
        exact hon'.agrees ((List.prefix_append _ _).trans hcanonical)
      · refine .inr (hle.trans ?_)
        rw [happends.stored]
        exact List.prefix_append _ _

lemma bestBlockNumber_healthy (node : Node) :
    (node.provider .healthy).bestBlockNumber = some node.bestBlockNumber := rfl

lemma recoveredBlock_healthy (node : Node) (number : ℕ) :
    (node.provider .healthy).recoveredBlock number =
      node.canonical.find? fun block => block.block.number = number := rfl

lemma executes_healthy (node : Node) (block : BlockWithParent) :
    (node.provider .healthy).executes block = true := rfl

/-- A commit of canonical blocks is processed, skipped or left to the sync loop. -/
lemma handleNotification_commit_onChain (htip : Leads node.root node.canonical tip)
    (hon : OnChain node.root below node.canonical window)
    (hcommit : CommitsTo node.canonical (.commit new)) :
    ∃ window', handleNotification verificationInterval (node.provider .healthy) (.commit new)
        (some window) = (some window', .ok ()) ∧
      OnChain node.root below node.canonical window' := by
  obtain ⟨hne, hnew⟩ := hcommit
  obtain ⟨first, rest, hblocks⟩ := List.exists_cons_of_ne_nil hne
  have hfirst : new.first = .ok first := first_of_cons hblocks
  have hlast : new.tip = .ok (new.blocks.getLast hne) := by
    rw [Chain.tip, List.getLast?_eq_getLast_of_ne_nil hne]
  have hle : (new.blocks.getLast hne).block.number ≤ tip.number :=
    (Links.height_mem number_of_extends htip _ (hnew _ (List.getLast_mem hne))).2
  have hwrites : notificationWrites verificationInterval (node.provider .healthy) (.commit new)
      window = _ := handleChainCommitted_eq hlast hfirst (bestBlockNumber_healthy node) _
  split_ifs at hwrites with hdirect
  · obtain ⟨window', hcommits, hon'⟩ := commits_processBlock_onChain htip
      (recoveredBlock_healthy node) (executes_healthy node) hnew hon
      (show window.latest.number +
        ((new.blocks.getLast hne).block.number - window.latest.number) ≤ tip.number by omega)
    exact ⟨window', by rw [handleNotification_of_ok hwrites, hcommits], hon'⟩
  · exact ⟨window, by rw [handleNotification_of_ok hwrites, commits_nil], hon⟩

/-- A window that has the blocks up to the fork keeps just those when it is cut there. -/
lemma relabel_blocks_of_prefix (hlinked : window.Linked)
    (hshared : Leads window.earliest shared fork) (hle : shared <+: window.blocks) :
    (window.relabel fork).blocks = shared := by
  have hfork := Links.height_eq number_of_extends hshared
  have hlatest := Links.height_eq number_of_extends hlinked
  have hlength := hle.length_le
  obtain ⟨kept, dropped, top, hblocks, htop, hkept, -, hfilter⟩ :=
    Links.split number_of_extends hlinked (show window.earliest.number ≤ fork.number by omega)
      (show fork.number ≤ window.latest.number by omega)
  have hkeptLength := Links.height_eq number_of_extends hkept
  have hkeptLe : kept <+: window.blocks := ⟨dropped, hblocks.symm⟩
  have heq : kept.length = shared.length := by omega
  rw [← (List.prefix_of_prefix_length_le hkeptLe hle heq.le).eq_of_length heq, ← hfilter]
  rfl

/-- Cut at a fork block that it reaches, the window is on the chain of that block. -/
lemma relabel_onChain (hlinked : window.Linked) (hbelow : Leads node.root below window.earliest)
    (hshared : Leads window.earliest shared fork) (hle : shared <+: window.blocks)
    (hcanonical : below ++ shared <+: node.canonical) :
    OnChain node.root below node.canonical (window.relabel fork) := by
  have hkept := relabel_blocks_of_prefix hlinked hshared hle
  refine ⟨?_, hbelow, ?_⟩
  · rw [ProofWindow.Linked, hkept]
    exact hshared
  · rw [hkept]
    exact hcanonical

/-- Canonical blocks above the fork block lead from it to a block below the tip. -/
lemma leads_above_fork {new above : List BlockWithParent}
    (htip : Leads node.root node.canonical tip) (hbelow : Leads node.root below window.earliest)
    (hshared : Leads window.earliest shared fork)
    (habove : below ++ shared ++ new ++ above = node.canonical) :
    ∃ topNew, Leads fork new topNew ∧ Leads topNew above tip := by
  rw [← habove] at htip
  obtain ⟨topNew, hlower, hrest⟩ := links_append.mp htip
  obtain ⟨middle, hmiddle, hnew⟩ := links_append.mp hlower
  rw [Links.end_unique hmiddle (links_append.mpr ⟨_, hbelow, hshared⟩)] at hnew
  exact ⟨topNew, hnew, hrest⟩

/-- A reorg or revert whose fork block is above the earliest one is applied, or skipped if the
window does not reach beyond the fork. -/
lemma handleNotification_reorg_onChain {old new : Chain} {below shared : List BlockWithParent}
    {fork topOld : BlockNumHash} (htip : Leads node.root node.canonical tip)
    (hlinked : window.Linked) (hne : old.blocks ≠ []) (hold : Leads fork old.blocks topOld)
    (hbelow : Leads node.root below window.earliest) (hshared : Leads window.earliest shared fork)
    (hcanonical : below ++ shared ++ new.blocks <+: node.canonical)
    (hagrees : window.blocks <+: shared ∨ shared <+: window.blocks) :
    ∃ window', handleNotification verificationInterval (node.provider .healthy)
        (.reorg old new) (some window) = (some window', .ok ()) ∧
      OnChain node.root below node.canonical window' := by
  have hforkNumber := Links.height_eq number_of_extends hshared
  have hlatestNumber := Links.height_eq number_of_extends hlinked
  have hsharedLe : below ++ shared <+: node.canonical :=
    (List.prefix_append _ _).trans hcanonical
  obtain ⟨firstOld, rest, hblocks⟩ := List.exists_cons_of_ne_nil hne
  have hfirstNumber : firstOld.block.number = fork.number + 1 := by
    rw [hblocks] at hold
    exact hold.1.1
  -- without a cut the window ends at the fork or below: nothing is written
  cases hcut : cutBlock window (.reorg old new) with
  | none =>
    rcases notificationWrites_of_not_cut hblocks hcut with ⟨hlt, hwrites⟩ | ⟨hle, -⟩
    · refine ⟨window, by rw [handleNotification_of_ok hwrites, commits_nil], hlinked, hbelow, ?_⟩
      have hle : window.blocks <+: shared := by
        rcases hagrees with hle | hle
        · exact hle
        · have hlength : shared.length = window.blocks.length := by
            have := hle.length_le
            omega
          rw [hle.eq_of_length hlength]
      exact ((List.prefix_append_right_inj below).mpr hle).trans hsharedLe
    · omega
  | some cut =>
    -- the window reaches beyond the fork, so it is cut there
    obtain ⟨above, habove⟩ := hcanonical
    obtain ⟨topNew, hnew, hrest⟩ := leads_above_fork htip hbelow hshared habove
    obtain ⟨firstOld', rfl, hfork, hearliest, hlatest, hroute⟩ :=
      notificationWrites_of_cut hold hnew hcut
    have hfirstNumber' : firstOld'.block.number = cut.number + 1 := by
      have hnumber : firstOld'.block.number - 1 = cut.number :=
        congrArg BlockNumHash.number hfork
      omega
    have hle : shared <+: window.blocks := by
      rcases hagrees with hle | hle
      · have := hle.length_le
        omega
      · exact hle
    have hkept := relabel_blocks_of_prefix hlinked hshared hle
    have hon := relabel_onChain hlinked hbelow hshared hle hsharedLe
    -- the new blocks are executed again, or stored from the notification
    rcases hroute with hwrites | ⟨hboundary, hnewNe, hwrites⟩
    · have hmem : ∀ block ∈ new.blocks, block ∈ node.canonical := by
        intro block hblock
        rw [← habove]
        exact List.mem_append_left _ (List.mem_append_right _ hblock)
      have htop : cut.number + new.blocks.length ≤ tip.number := by
        have := Links.height_eq number_of_extends hnew
        have := Links.height_eq number_of_extends hrest
        omega
      obtain ⟨window', hcommits, hon'⟩ := commits_processBlock_onChain htip
        (recoveredBlock_healthy node) (executes_healthy node) hmem hon htop
      refine ⟨window', ?_, hon'⟩
      have hnumbers : new.blocks.map (fun block => processBlock verificationInterval
          (node.provider .healthy) new block.block.number) =
          (List.range' (cut.number + 1) new.blocks.length).map
            (processBlock verificationInterval (node.provider .healthy) new) := by
        rw [← Links.map_height number_of_extends hnew, List.map_map]
        rfl
      rw [handleNotification_of_ok hwrites, reorgByUnwindAndReprocess, hnumbers,
        commits_cons_of_ok (unwind_write_eq hearliest), hfork]
      exact congrArg (fun out => (some out.1, out.2)) hcommits
    · obtain ⟨window', hstored, happends⟩ :=
        unwindAndStoreBlockUpdates_of_leads (show window.earliest.number < cut.number by omega)
          hnewNe hnew
      refine ⟨window', ?_, happends.linked hon.linked, happends.earliest ▸ hbelow, ?_⟩
      · rw [handleNotification_of_ok hwrites, commits_cons_of_ok (congrArg storing hstored),
          commits_nil]
      · rw [happends.stored, hkept, ← List.append_assoc, ← habove]
        exact List.prefix_append _ _

variable (verificationInterval) in
/-- The next notification is handled without an error. -/
lemma Follows.handle (h : Follows node window) (htip : Leads node.root node.canonical tip)
    {notification : CanonStateNotification} {rest : List CanonStateNotification}
    (hqueue : node.queue = notification :: rest) :
    ∃ window' below, handleNotification verificationInterval (node.provider .healthy)
        notification (some window) = (some window', .ok ()) ∧
      OnChain node.root below node.canonical window' ∧
      ∀ queued ∈ rest, CommitsTo node.canonical queued := by
  cases h with
  | @commits below hon hcommits =>
    rw [hqueue] at hcommits
    have hhead := hcommits notification List.mem_cons_self
    cases notification with
    | commit new =>
      obtain ⟨window', hhandle, hon'⟩ := handleNotification_commit_onChain htip hon hhead
      exact ⟨window', below, hhandle, hon',
        fun queued hqueued => hcommits queued (List.mem_cons_of_mem _ hqueued)⟩
    | reorg old new => exact hhead.elim
  | @reorg _ _ _ below _ _ _ hlinked hqueue' hrest hne hold hbelow hshared hcanonical hagrees =>
    rw [hqueue] at hqueue'
    obtain ⟨rfl, rfl⟩ := List.cons.inj hqueue'
    obtain ⟨window', hhandle, hon'⟩ := handleNotification_reorg_onChain htip hlinked hne hold
      hbelow hshared hcanonical hagrees
    exact ⟨window', below, hhandle, hon', hrest⟩

end Follows

/-! ### Runs of a healthy node -/

/-- The sidecar is running, and the stored window follows the canonical chain. -/
structure Node.Running (node : Node) : Prop where
  wellFormed : node.WellFormed
  stopped : node.stopped = none
  follows : ∃ window, node.store = some window ∧ Follows node window

section Runs

variable {verificationInterval : ℕ} {node node' : Node} {action : Action}

lemma Step.running (hstep : Step verificationInterval node action node')
    (hprompt : Prompt node action) (h : node.Running) : node'.Running := by
  obtain ⟨tip, htip⟩ := h.wellFormed.canonical
  obtain ⟨window, hstore, hfollows⟩ := h.follows
  obtain ⟨hhealthy, hearliest, hidle⟩ := hprompt
  have hwf := hstep.wellFormed h.wellFormed
  cases hstep with
  | commit hne _ _ => exact ⟨hwf, h.stopped, window, hstore, hfollows.publish_commit hne⟩
  | reorg hne hcanonical hfork _ =>
    exact ⟨hwf, h.stopped, window, hstore,
      hfollows.publish_reorg hidle h.wellFormed hne hcanonical hfork (hearliest window hstore)⟩
  | sync faults executedHead =>
    exact ⟨hwf, h.stopped, hfollows.sync htip hstore faults executedHead⟩
  | @handle notification rest faults hrunning hqueue =>
    obtain rfl : faults = .healthy := hhealthy
    obtain ⟨window', below, hhandle, hon, hrest⟩ :=
      hfollows.handle verificationInterval htip hqueue
    have hnode : node.handle verificationInterval .healthy notification rest =
        { node with store := some window', queue := rest, stopped := none } := by
      rw [Node.handle, hstore, hhandle]
    rw [hnode] at hwf ⊢
    exact ⟨hwf, rfl, window', rfl, .commits hon hrest⟩

/-- The sidecar starts: nothing is queued, and all that is stored is canonical. -/
structure Node.Started (node : Node) : Prop where
  canonical : ∃ tip, Leads node.root node.canonical tip
  queue : node.queue = []
  stopped : node.stopped = none
  store : ∃ window below, node.store = some window ∧
    OnChain node.root below node.canonical window

lemma Node.Started.running (h : node.Started) : node.Running := by
  obtain ⟨window, below, hstore, hon⟩ := h.store
  have hqueue : ∀ P : CanonStateNotification → Prop, ∀ queued ∈ node.queue, P queued := by
    intro P queued hqueued
    rw [h.queue] at hqueued
    exact (nomatch hqueued)
  exact ⟨⟨h.canonical, hqueue _⟩, h.stopped, window, hstore, .commits hon (hqueue _)⟩

/-- While reorgs and reverts are published only when nothing is queued, every notification of a
healthy node is handled without an error, whatever the sync loop stored before. -/
theorem notifications_handled (hstart : node.Started)
    (hrun : Reaches verificationInterval Prompt node node') :
    node'.stopped = none ∧ ∀ notification rest, node'.queue = notification :: rest →
      (handleNotification verificationInterval (node'.provider .healthy) notification
        node'.store).2 = .ok () := by
  have hrunning : node'.Running := by
    induction hrun with
    | refl => exact hstart.running
    | tail _ hnext ih =>
      obtain ⟨action, hstep, hprompt⟩ := hnext
      exact hstep.running hprompt ih
  refine ⟨hrunning.stopped, fun notification rest hqueue => ?_⟩
  obtain ⟨tip, htip⟩ := hrunning.wellFormed.canonical
  obtain ⟨window, hstore, hfollows⟩ := hrunning.follows
  obtain ⟨window', below, hhandle, -, -⟩ := hfollows.handle verificationInterval htip hqueue
  rw [hstore, hhandle]

end Runs

/-! ### A late reorg, and a commit that is stale -/

lemma startNode_started : startNode.Started := by
  refine ⟨⟨block1.block, by decide⟩, rfl, rfl, _, [], rfl, by decide, rfl, ?_⟩
  exact List.prefix_rfl

/-- The second block was stored, and replaced by two others; a batch of the sync loop came before
the notification. -/
def pendingNode : Node :=
  { startNode with
    canonical := [block1, fork2, fork3]
    store := some ⟨genesis, [block1, block2], block2.block⟩
    queue := [.reorg (chainOf [block2]) (chainOf [fork2, fork3])] }

lemma reaches_pendingNode : Reaches 0 Prompt startNode pendingNode := by
  refine .head ⟨_, step_commit2, trivial, trivial, trivial⟩ ?_
  refine .head ⟨_, .handle .healthy rfl rfl, rfl, trivial, trivial⟩ ?_
  refine .head ⟨.published (.reorg (chainOf [block2]) (chainOf [fork2, fork3])),
    .reorg (List.cons_ne_nil _ _) (show _ = [block1] ++ _ from rfl)
    (show Leads genesis [block1] block1.block by decide)
    (show Leads block1.block [fork2, fork3] fork3.block by decide), trivial, ?_, rfl⟩ ?_
  · rintro window ⟨⟩ firstOld ⟨⟩
    decide
  · refine .head ⟨_, .sync _ .healthy 3, trivial, trivial, trivial⟩ ?_
    exact .refl

/-- A reorganization that waits is handled. -/
theorem notifications_handled_pending :
    Reaches 0 Prompt startNode pendingNode ∧
      (handleNotification 0 (pendingNode.provider .healthy)
        (.reorg (chainOf [block2]) (chainOf [fork2, fork3])) pendingNode.store).2 = .ok () :=
  ⟨reaches_pendingNode,
    (notifications_handled startNode_started reaches_pendingNode).2 _ [] rfl⟩

/-- Two blocks were committed, and replaced by one that the sync loop stored; the lower commit
was skipped and the upper one failed. -/
def stoppedNode : Node :=
  { startNode with
    canonical := [block1, fork2]
    store := some ⟨genesis, [block1, fork2], fork2.block⟩
    queue := [.reorg (chainOf [block2, block3]) (chainOf [fork2])]
    stopped := some (.storage (.outOfOrder 3 block2.block.hash fork2.block.hash)) }

/-- The upper commit starts right above the stored head, by its number, and does not extend it. -/
theorem stale_commit_stops :
    startNode.Started ∧
      Reaches 0 (fun node action => action.Healthy ∧ KeepsEarliest node action) startNode
        stoppedNode ∧ stoppedNode.stopped ≠ none := by
  refine ⟨startNode_started, ?_, Option.some_ne_none _⟩
  refine .head ⟨_, step_commit2, trivial, trivial⟩ ?_
  refine .head ⟨_, step_commit3, trivial, trivial⟩ ?_
  refine .head ⟨.published (.reorg (chainOf [block2, block3]) (chainOf [fork2])),
    .reorg (List.cons_ne_nil _ _) (show _ = [block1] ++ _ from rfl)
    (show Leads genesis [block1] block1.block by decide)
    (show Leads block1.block [fork2] fork2.block by decide), trivial, ?_⟩ ?_
  · rintro window ⟨⟩ firstOld ⟨⟩
    decide
  · refine .head ⟨_, .sync _ .healthy 2, trivial, trivial⟩ ?_
    refine .head ⟨_, .handle .healthy rfl rfl, rfl, trivial⟩ ?_
    refine .head ⟨_, .handle .healthy rfl rfl, rfl, trivial⟩ ?_
    exact .refl

end AlethiaReth.ProofHistory
