import AlethiaReth.ProofHistory.System

/-!
What a reorg leaves of the stored window, on each of its routes: one that succeeds leaves the window
up to the fork block and the new chain on top of it, one that fails while it replaces leaves the
window as it was (`reorg_replaces`).
-/

namespace AlethiaReth.ProofHistory

open MachineInt Outcome Run

/-- The blocks come in the order of their numbers, one for each. -/
def Chain.Sorted (chain : Chain) : Prop :=
  chain.blocks.Pairwise fun a b => a.block.number < b.block.number

lemma Chain.Sorted.find_eq {chain : Chain} (h : chain.Sorted) {block : BlockWithParent}
    (hmem : block ∈ chain.blocks) :
    chain.blocks.find? (fun b => b.block.number = block.block.number) = some block := by
  obtain ⟨before, after, hblocks⟩ := List.append_of_mem hmem
  rw [Chain.Sorted, hblocks, List.pairwise_append] at h
  rw [hblocks, List.find?_append, List.find?_eq_none.mpr, Option.none_or,
    List.find?_cons_of_pos (by simp)]
  intro b hb heq
  have hlt := h.2.2 b hb block List.mem_cons_self
  have := of_decide_eq_true heq
  omega

section Reorg

variable {verificationInterval : ℕ} {provider : Provider} {window window' : ProofWindow}
  {old new : Chain} {block : BlockWithParent} {blocks rest : List BlockWithParent}
  {firstOld firstNew : BlockWithParent} {restNew : List BlockWithParent} {top : BlockNumHash}

lemma notifiedBlock_eq_some (hsorted : new.Sorted) (hmem : block ∈ new.blocks)
    {notified : BlockWithParent}
    (h : notifiedBlock verificationInterval block.block.number new = some notified) :
    notified = block := by
  rw [notifiedBlock, hsorted.find_eq hmem] at h
  split_ifs at h
  exact (Option.some.inj h).symm

/-- A block of the notification that is processed is that block, on both routes. -/
lemma processBlock_appends (hsorted : new.Sorted)
    (hprovider : ∀ block ∈ new.blocks, provider.recoveredBlock block.block.number = some block)
    (hmem : block ∈ new.blocks)
    (h : processBlock verificationInterval provider new block.block.number window = .ok window') :
    Appends window window' [block] := by
  rw [processBlock] at h
  cases hnotified : notifiedBlock verificationInterval block.block.number new with
  | some notified =>
    rw [hnotified, notifiedBlock_eq_some hsorted hmem hnotified] at h
    exact storeTrieUpdates_eq_ok (storing_eq_ok h)
  | none =>
    rw [hnotified] at h
    obtain ⟨read, hread, happends⟩ := executeBlock_eq_ok h
    rw [hprovider block hmem] at hread
    rwa [Option.some.inj hread]

/-- Blocks of the notification that are processed one by one are all appended. -/
lemma commits_processBlock_eq_ok (hsorted : new.Sorted)
    (hprovider : ∀ block ∈ new.blocks, provider.recoveredBlock block.block.number = some block)
    (hblocks : ∀ block ∈ blocks, block ∈ new.blocks) (h : commits (blocks.map fun block =>
      processBlock verificationInterval provider new block.block.number) window =
        (window', .ok ())) :
    Appends window window' blocks := by
  induction blocks generalizing window with
  | nil =>
    obtain rfl : window = window' := congrArg Prod.fst h
    exact .refl window
  | cons block blocks ih =>
    rw [List.map_cons] at h
    rw [List.forall_mem_cons] at hblocks
    cases hprocess : processBlock verificationInterval provider new block.block.number window with
    | error e =>
      rw [commits_cons_of_error hprocess] at h
      cases congrArg Prod.snd h
    | ok next =>
      rw [commits_cons_of_ok hprocess] at h
      exact (processBlock_appends hsorted hprovider hblocks.1 hprocess).trans
        (ih hblocks.2 h)

/-- A replacement above the earliest block appends to the fork block. -/
lemma unwindAndStoreBlockUpdates_eq_ok {first : BlockWithParent}
    (hlt : window.earliest.number < first.forkBlock.number)
    (h : unwindAndStoreBlockUpdates window (first :: rest) = .ok window') :
    Appends (window.relabel first.forkBlock) window' (first :: rest) := by
  have hnumber : first.block.number - 1 ≠ window.earliest.number := hlt.ne'
  simp only [unwindAndStoreBlockUpdates, if_neg hnumber] at h
  exact foldlM_storeTrieUpdates_eq_ok ((replaceUpdates_of_lt hlt).symm.trans h)

/-- A reorg that reaches into the window and succeeds appends its new chain to the fork block. -/
lemma handleNotification_reorg_eq_ok (hold : old.blocks = firstOld :: rest)
    (hnew : new.blocks = firstNew :: restNew) (hforks : firstOld.forkBlock = firstNew.forkBlock)
    (hearliest : window.earliest.number < firstOld.block.number)
    (hlatest : firstOld.block.number ≤ window.latest.number) (hsorted : new.Sorted)
    (hprovider : ∀ block ∈ new.blocks, provider.recoveredBlock block.block.number = some block)
    {store : Option ProofWindow}
    (h : handleNotification verificationInterval provider (.reorg old new) (some window) =
      (store, .ok ())) :
    ∃ window', store = some window' ∧
      Appends (window.relabel firstOld.forkBlock) window' new.blocks := by
  have hwrites : notificationWrites verificationInterval provider (.reorg old new) window = _ :=
    notificationWrites_of_forks hold hnew hforks hearliest hlatest
  have hreprocess : notificationWrites verificationInterval provider (.reorg old new) window =
      .ok (reorgByUnwindAndReprocess verificationInterval provider firstOld new) →
      ∃ window', store = some window' ∧
        Appends (window.relabel firstOld.forkBlock) window' new.blocks := by
    intro hwrites
    rw [handleNotification_of_ok hwrites, reorgByUnwindAndReprocess,
      commits_cons_of_ok (unwind_write_eq hearliest)] at h
    obtain ⟨hstore, hok⟩ := Prod.mk.inj h
    exact ⟨_, hstore.symm, commits_processBlock_eq_ok hsorted hprovider (fun _ hmem => hmem)
      (Prod.ext rfl hok)⟩
  split_ifs at hwrites with hboundary hdata
  · exact hreprocess hwrites
  · rw [handleNotification_of_ok hwrites] at h
    cases hstored : unwindAndStoreBlockUpdates window new.blocks with
    | error e =>
      rw [commits_cons_of_error (congrArg storing hstored)] at h
      cases congrArg Prod.snd h
    | ok window' =>
      rw [commits_cons_of_ok (congrArg storing hstored), commits_nil] at h
      refine ⟨window', (congrArg Prod.fst h).symm, ?_⟩
      rw [hnew] at hstored ⊢
      rw [hforks]
      refine unwindAndStoreBlockUpdates_eq_ok ?_ hstored
      rw [← hforks]
      show _ < firstOld.block.number - 1
      omega
  · exact hreprocess hwrites

/-- A block of the notification that comes next is stored, if it executes. -/
lemma processBlock_of_extends (hsorted : new.Sorted)
    (hprovider : ∀ block ∈ new.blocks, provider.recoveredBlock block.block.number = some block)
    (hmem : block ∈ new.blocks) (hexecutes : provider.executes block = true)
    (hextends : Extends window.latest block) (hle : window.earliest.number ≤ window.latest.number) :
    ∃ window', processBlock verificationInterval provider new block.block.number window =
      .ok window' ∧ Appends window window' [block] := by
  suffices h : ∃ window',
      processBlock verificationInterval provider new block.block.number window = .ok window' by
    obtain ⟨window', hprocess⟩ := h
    exact ⟨window', hprocess, processBlock_appends hsorted hprovider hmem hprocess⟩
  rw [processBlock]
  cases hnotified : notifiedBlock verificationInterval block.block.number new with
  | some notified =>
    have heq := notifiedBlock_eq_some hsorted hmem hnotified
    obtain ⟨window', hstored, -⟩ := storeTrieUpdates_of_extends hextends
    exact ⟨window', by simp only [heq, hstored]; rfl⟩
  | none =>
    obtain ⟨window', hstored, -⟩ := executeAndStore_of_extends hextends hle hexecutes
    exact ⟨window', by simp only [executeBlock, hprovider block hmem, hstored]; rfl⟩

lemma commits_processBlock_of_leads (hsorted : new.Sorted)
    (hprovider : ∀ block ∈ new.blocks, provider.recoveredBlock block.block.number = some block)
    (hexecutes : ∀ block ∈ new.blocks, provider.executes block = true)
    (hblocks : ∀ block ∈ blocks, block ∈ new.blocks) (hleads : Leads window.latest blocks top)
    (hle : window.earliest.number ≤ window.latest.number) :
    (commits (blocks.map fun block =>
      processBlock verificationInterval provider new block.block.number) window).2 = .ok () := by
  induction blocks generalizing window with
  | nil => rfl
  | cons block blocks ih =>
    rw [List.forall_mem_cons] at hblocks
    obtain ⟨next, hprocess, happends⟩ := processBlock_of_extends hsorted hprovider hblocks.1
      (hexecutes block hblocks.1) hleads.1 hle
    have hlatest : next.latest = block.block := happends.leads.2.symm
    rw [List.map_cons, commits_cons_of_ok hprocess]
    refine ih hblocks.2 (hlatest.symm ▸ hleads.2) ?_
    rw [happends.earliest, hlatest, hleads.1.1]
    omega

/-- A linked chain whose blocks execute replaces what is above its fork block. -/
lemma handleNotification_reorg_of_leads (hold : old.blocks = firstOld :: rest)
    (hnew : new.blocks = firstNew :: restNew)
    (hearliest : window.earliest.number < firstOld.block.number)
    (hlatest : firstOld.block.number ≤ window.latest.number) (hsorted : new.Sorted)
    (hprovider : ∀ block ∈ new.blocks, provider.recoveredBlock block.block.number = some block)
    (hexecutes : ∀ block ∈ new.blocks, provider.executes block = true)
    (hleads : Leads firstOld.forkBlock new.blocks top) :
    (handleNotification verificationInterval provider (.reorg old new) (some window)).2 =
      .ok () := by
  have hforks : firstOld.forkBlock = firstNew.forkBlock := by
    rw [hnew] at hleads
    exact (forkBlock_of_extends hleads.1).symm
  have hwrites : notificationWrites verificationInterval provider (.reorg old new) window = _ :=
    notificationWrites_of_forks hold hnew hforks hearliest hlatest
  have hreprocess : (commits (reorgByUnwindAndReprocess verificationInterval provider firstOld
      new) window).2 = .ok () := by
    rw [reorgByUnwindAndReprocess, commits_cons_of_ok (unwind_write_eq hearliest)]
    refine commits_processBlock_of_leads hsorted hprovider hexecutes (fun _ hmem => hmem) hleads ?_
    show window.earliest.number ≤ firstOld.block.number - 1
    omega
  split_ifs at hwrites with hboundary hdata
  · rw [handleNotification_of_ok hwrites]
    exact hreprocess
  · have hlt : window.earliest.number < firstOld.forkBlock.number := by
      show _ < firstOld.block.number - 1
      omega
    obtain ⟨window', hstored, -⟩ := unwindAndStoreBlockUpdates_of_leads hlt
      (hnew ▸ List.cons_ne_nil _ _) hleads
    rw [handleNotification_of_ok hwrites, commits_cons_of_ok (congrArg storing hstored),
      commits_nil]
  · rw [handleNotification_of_ok hwrites]
    exact hreprocess

/-- A reorg whose fork block is stored, and whose old chain starts above the earliest stored block
and not above the latest one, leaves the window up to the fork block and the new chain on top of
it, if it succeeds. It succeeds if the new chain is linked and its blocks execute. If it fails
while it replaces, the window is unchanged. -/
theorem reorg_replaces (verificationInterval : ℕ) (hlinked : window.Linked)
    (hold : old.blocks = firstOld :: rest) (hnew : new.blocks = firstNew :: restNew)
    (hsorted : new.Sorted) (hforks : firstOld.forkBlock = firstNew.forkBlock)
    (hstored : firstOld.forkBlock ∈ window.labels)
    (hearliest : window.earliest.number < firstOld.block.number)
    (hlatest : firstOld.block.number ≤ window.latest.number) (hprovider : ∀ block ∈ new.blocks,
      provider.recoveredBlock block.block.number = some block) :
    (∀ store, handleNotification verificationInterval provider (.reorg old new) (some window) =
        (store, .ok ()) →
      ∃ kept dropped tip, window.blocks = kept ++ dropped ∧
        Leads window.earliest kept firstOld.forkBlock ∧
        Leads firstOld.forkBlock new.blocks tip ∧
        store = some ⟨window.earliest, kept ++ new.blocks, tip⟩) ∧
    ((∃ top, Leads firstOld.forkBlock new.blocks top) →
      (∀ block ∈ new.blocks, provider.executes block = true) →
      (handleNotification verificationInterval provider (.reorg old new) (some window)).2 =
        .ok ()) ∧
    (firstOld.block.number ≠ window.earliest.number + 1 →
      (∀ block ∈ new.blocks, new.trieDataAt block.block.number = true) →
      ∀ store e, handleNotification verificationInterval provider (.reorg old new)
        (some window) = (store, .error e) → store = some window) := by
  have hlow : window.earliest.number ≤ firstOld.forkBlock.number := by
    show _ ≤ firstOld.block.number - 1
    omega
  have hhigh : firstOld.forkBlock.number ≤ window.latest.number := by
    show firstOld.block.number - 1 ≤ _
    omega
  refine ⟨fun store h => ?_, ?_, fun hboundary hdata store e h => ?_⟩
  · obtain ⟨window', rfl, happends⟩ := handleNotification_reorg_eq_ok hold hnew hforks hearliest
      hlatest hsorted hprovider h
    obtain ⟨dropped, hblocks⟩ := relabel_split hlinked hlow hhigh
    have hkept : (window.relabel firstOld.forkBlock).Linked :=
      (linked_of_relabel_iff hlinked hlow hhigh (.refl _)).mpr hstored
    refine ⟨_, dropped, window'.latest, hblocks, hkept, happends.leads, ?_⟩
    rw [← happends.stored]
    exact congrArg (fun earliest => some (ProofWindow.mk earliest _ _)) happends.earliest
  · rintro ⟨top, hleads⟩ hexecutes
    exact handleNotification_reorg_of_leads hold hnew hearliest hlatest hsorted hprovider
      hexecutes hleads
  -- above the boundary the blocks are replaced in one write, which fails as a whole
  · have hwrites : notificationWrites verificationInterval provider (.reorg old new) window = _ :=
      notificationWrites_of_forks hold hnew hforks hearliest hlatest
    rw [if_neg hboundary, if_pos (List.all_eq_true.mpr hdata)] at hwrites
    rw [handleNotification_of_ok hwrites] at h
    cases hreplaced : unwindAndStoreBlockUpdates window new.blocks with
    | error e' =>
      rw [commits_cons_of_error (congrArg storing hreplaced)] at h
      exact (congrArg Prod.fst h).symm
    | ok window' =>
      rw [commits_cons_of_ok (congrArg storing hreplaced), commits_nil] at h
      cases congrArg Prod.snd h

end Reorg

/-! ### The two routes of a reorg -/

/-- Three blocks are stored. -/
def storedWindow : ProofWindow := ⟨genesis, [block1, block2, block3], block3.block⟩

/-- A provider that has only the other branch. -/
def forkProvider : Provider where
  bestBlockNumber := some 4
  recoveredBlock number := [fork2, fork3, fork4].find? fun block => block.block.number = number
  executes _ := true

/-- The other branch replaces the upper two blocks in one write. Without trie data for one of its
blocks it is reprocessed, and leaves the same. -/
theorem reorg_replaces_fork :
    (handleNotification 0 forkProvider
      (.reorg (chainOf [block2, block3]) (chainOf [fork2, fork3, fork4])) (some storedWindow)).2 =
        .ok () ∧
      ∀ store, handleNotification 2 forkProvider
          (.reorg (chainOf [block2, block3]) ⟨[fork2, fork3, fork4], fun n => n ≠ 3⟩)
          (some storedWindow) = (store, .ok ()) →
        store = some ⟨genesis, [block1, fork2, fork3, fork4], fork4.block⟩ := by
  have hlinked : storedWindow.Linked := by decide
  have hold : (chainOf [block2, block3]).blocks = block2 :: [block3] := rfl
  have hprovider : ∀ block ∈ [fork2, fork3, fork4],
      forkProvider.recoveredBlock block.block.number = some block := by decide
  have hsorted : [fork2, fork3, fork4].Pairwise fun a b => a.block.number < b.block.number := by
    decide
  constructor
  · have hnew : (chainOf [fork2, fork3, fork4]).blocks = fork2 :: [fork3, fork4] := rfl
    exact (reorg_replaces 0 hlinked hold hnew hsorted rfl (by decide) (by decide) (by decide)
      hprovider).2.1 ⟨fork4.block, by decide⟩ fun _ _ => rfl
  · intro store h
    have hnew : (⟨[fork2, fork3, fork4], fun n => n ≠ 3⟩ : Chain).blocks =
        fork2 :: [fork3, fork4] := rfl
    obtain ⟨kept, dropped, tip, hblocks, hkept, htip, rfl⟩ := (reorg_replaces 2 hlinked hold hnew
      hsorted rfl (by decide) (by decide) (by decide) hprovider).1 store h
    have hlength := Links.height_eq number_of_extends hkept
    obtain ⟨block, rfl⟩ := List.length_eq_one_iff.mp
      (show kept.length = 1 from Nat.add_left_cancel hlength.symm)
    have htop : Leads block2.forkBlock [fork2, fork3, fork4] fork4.block := by decide
    rw [Links.end_unique htip htop, ← (List.cons.inj hblocks).1]
    rfl

end AlethiaReth.ProofHistory
