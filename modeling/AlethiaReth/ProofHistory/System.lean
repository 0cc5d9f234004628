import AlethiaReth.ProofHistory.Sidecar

/-!
The node around the proof history: a canonical chain that is committed to, reorged and reverted,
the queue of its notifications, and the two writers that take turns under the write lock.  A step
keeps a linked window linked if and only if a reorg or revert that cuts the window is handled while
its fork block is stored (`Step.linked_iff`).
-/

namespace AlethiaReth.ProofHistory

open MachineInt Run

/-- What fails when a section reads the canonical chain and executes its blocks. -/
structure Faults where
  bestBlockNumber : Bool
  unreadable : ℕ → Bool
  failing : BlockWithParent → Bool

/-- Nothing fails. -/
def Faults.healthy : Faults := ⟨false, fun _ => false, fun _ => false⟩

/-- The canonical chain, the store and the queue of notifications. -/
structure Node where
  /-- The block that the canonical chain starts from. -/
  root : BlockNumHash
  canonical : List BlockWithParent
  store : Option ProofWindow
  queue : List CanonStateNotification
  /-- The error that the sidecar stopped with; the task is critical, so the node stops too. -/
  stopped : Option SidecarError

namespace Node

/-- The height of the canonical chain. -/
def bestBlockNumber (node : Node) : ℕ :=
  (node.canonical.getLast?.map (·.block.number)).getD node.root.number

/-- What the sidecar reads of the chain. -/
def provider (node : Node) (faults : Faults) : Provider where
  bestBlockNumber := if faults.bestBlockNumber then none else some node.bestBlockNumber
  recoveredBlock number :=
    if faults.unreadable number then none
    else node.canonical.find? fun block => block.block.number = number
  executes block := !faults.failing block

/-- The chain moves, and says so. -/
def publish (node : Node) (canonical : List BlockWithParent)
    (notification : CanonStateNotification) : Node :=
  { node with canonical, queue := node.queue ++ [notification] }

/-- A batch of the worker that catches up. -/
def sync (node : Node) (faults : Faults) (executedHead : ℕ) : Node :=
  { node with store := syncBatch (node.provider faults) executedHead node.store }

/-- The section of the next notification; `run` ends with the first error. -/
def handle (node : Node) (verificationInterval : ℕ) (faults : Faults)
    (notification : CanonStateNotification) (rest : List CanonStateNotification) : Node :=
  let (store, result) :=
    handleNotification verificationInterval (node.provider faults) notification node.store
  { node with
    store
    queue := rest
    stopped := match result with
      | .ok _ => none
      | .error e => some e }

end Node

/-- What happens to a node. -/
inductive Action where
  | published (notification : CanonStateNotification)
  | synced
  | handled (notification : CanonStateNotification) (faults : Faults)

/-- The handler reads and executes what it needs. -/
def Action.Healthy : Action → Prop
  | .published _ => True
  | .synced => True
  | .handled _ faults => faults = .healthy

/-- One change of the canonical chain or one section of a writer. The executed head that a batch
goes by is any number: a batch during which the chain changes is one batch before the change and
one after it. -/
inductive Step (verificationInterval : ℕ) : Node → Action → Node → Prop
  | commit {node : Node} {tip top : BlockNumHash} {new : Chain} (hne : new.blocks ≠ [])
      (htip : Leads node.root node.canonical tip) (hnew : Leads tip new.blocks top) :
      Step verificationInterval node (.published (.commit new))
        (node.publish (node.canonical ++ new.blocks) (.commit new))
  | reorg {node : Node} {base : List BlockWithParent} {fork top : BlockNumHash}
      {old new : Chain} (hne : old.blocks ≠ [])
      (hcanonical : node.canonical = base ++ old.blocks) (hfork : Leads node.root base fork)
      (hnew : Leads fork new.blocks top) :
      Step verificationInterval node (.published (.reorg old new))
        (node.publish (base ++ new.blocks) (.reorg old new))
  | sync (node : Node) (faults : Faults) (executedHead : ℕ) :
      Step verificationInterval node .synced (node.sync faults executedHead)
  | handle {node : Node} {notification : CanonStateNotification}
      {rest : List CanonStateNotification} (faults : Faults) (hrunning : node.stopped = none)
      (hqueue : node.queue = notification :: rest) :
      Step verificationInterval node (.handled notification faults)
        (node.handle verificationInterval faults notification rest)

/-- Runs in which every step is one that is allowed. -/
def Reaches (verificationInterval : ℕ) (Allowed : Node → Action → Prop) : Node → Node → Prop :=
  Relation.ReflTransGen fun node node' =>
    ∃ action, Step verificationInterval node action node' ∧ Allowed node action

/-! ### Linked windows -/

/-- The canonical chain is linked, and so are the chains of all queued notifications. -/
structure Node.WellFormed (node : Node) : Prop where
  canonical : ∃ tip, Leads node.root node.canonical tip
  queue : ∀ notification ∈ node.queue, notification.Sound

/-- The stored window is a linked chain. -/
def Node.Linked (node : Node) : Prop := ∀ window ∈ node.store, window.Linked

/-- The block at which a notification cuts the window is stored. -/
def ForkStored (node : Node) : Action → Prop
  | .published _ => True
  | .synced => True
  | .handled notification _ =>
    ∀ window ∈ node.store, ∀ fork ∈ cutBlock window notification, fork ∈ window.labels

section Linked

variable {verificationInterval : ℕ} {node node' : Node} {action : Action}

lemma Node.WellFormed.publish {canonical : List BlockWithParent} {tip : BlockNumHash}
    {notification : CanonStateNotification} (hwf : node.WellFormed)
    (hcanonical : Leads node.root canonical tip) (hsound : notification.Sound) :
    (node.publish canonical notification).WellFormed := by
  refine ⟨⟨tip, hcanonical⟩, fun queued hqueued => ?_⟩
  rcases List.mem_append.mp hqueued with hqueued | hqueued
  · exact hwf.queue queued hqueued
  · rw [List.mem_singleton.mp hqueued]
    exact hsound

/-- The blocks that a reorg replaces lead on from the fork block. -/
lemma Node.WellFormed.leads_old (hwf : node.WellFormed) {base old : List BlockWithParent}
    {fork : BlockNumHash} (hcanonical : node.canonical = base ++ old)
    (hfork : Leads node.root base fork) : ∃ top, Leads fork old top := by
  obtain ⟨top, htop⟩ := hwf.canonical
  rw [hcanonical] at htop
  obtain ⟨middle, hbase, hold⟩ := links_append.mp htop
  rw [Links.end_unique hfork hbase]
  exact ⟨top, hold⟩

lemma Step.wellFormed (hstep : Step verificationInterval node action node')
    (hwf : node.WellFormed) : node'.WellFormed := by
  cases hstep with
  | commit hne htip hnew =>
    exact hwf.publish (links_append.mpr ⟨_, htip, hnew⟩) (.commit _)
  | reorg hne hcanonical hfork hnew =>
    obtain ⟨top, hold⟩ := hwf.leads_old hcanonical hfork
    exact hwf.publish (links_append.mpr ⟨_, hfork, hnew⟩) (.reorg hne hold hnew)
  | sync faults executedHead => exact ⟨hwf.canonical, hwf.queue⟩
  | handle faults hrunning hqueue =>
    refine ⟨hwf.canonical, fun queued hqueued => hwf.queue queued ?_⟩
    rw [hqueue]
    exact List.mem_cons_of_mem _ hqueued

/-- A step keeps a linked window linked if and only if it finds the fork block it needs. -/
lemma Step.linked_iff (hstep : Step verificationInterval node action node')
    (hwf : node.WellFormed) (hlinked : node.Linked) : node'.Linked ↔ ForkStored node action := by
  cases hstep with
  | commit => exact iff_of_true hlinked trivial
  | reorg => exact iff_of_true hlinked trivial
  | sync faults executedHead =>
    refine iff_of_true (fun window' hwindow' => ?_) trivial
    cases hstore : node.store with
    | none =>
      rw [Node.sync, hstore] at hwindow'
      exact (nomatch hwindow')
    | some window =>
      obtain ⟨after, blocks, hafter, happends⟩ := syncBatch_appends (node.provider faults)
        executedHead window
      rw [Node.sync, hstore, hafter] at hwindow'
      obtain rfl := Option.some.inj hwindow'
      exact happends.linked (hlinked window hstore)
  | @handle notification rest faults hrunning hqueue =>
    have hsound : notification.Sound :=
      hwf.queue notification (hqueue ▸ List.mem_cons_self)
    cases hstore : node.store with
    | none =>
      refine iff_of_true (fun window hwindow => ?_) fun window hwindow => ?_
      · rw [Node.handle, hstore] at hwindow
        exact (nomatch hwindow)
      · rw [hstore] at hwindow
        exact (nomatch hwindow)
    | some window =>
      have hiff := handleNotification_linked_iff verificationInterval (node.provider faults)
        hsound (hlinked window hstore)
      rw [Node.Linked, Node.handle, ForkStored, hstore]
      simp only [Option.mem_some_iff, forall_eq'] at hiff ⊢
      exact hiff

/-- In every run in which reorgs and reverts find the fork blocks they need, the stored window is
linked after every section; and it is linked after the next one if and only if that one does. -/
theorem storedWindow_linked (hwf : node.WellFormed) (hlinked : node.Linked)
    (hrun : Reaches verificationInterval ForkStored node node') :
    node'.Linked ∧ ∀ action after, Step verificationInterval node' action after →
      (after.Linked ↔ ForkStored node' action) := by
  have hinvariant : node'.WellFormed ∧ node'.Linked := by
    induction hrun with
    | refl => exact ⟨hwf, hlinked⟩
    | tail _ hnext ih =>
      obtain ⟨action, hstep, hallowed⟩ := hnext
      exact ⟨hstep.wellFormed ih.1, (hstep.linked_iff ih.1 ih.2).mpr hallowed⟩
  exact ⟨hinvariant.2, fun action after hstep => hstep.linked_iff hinvariant.1 hinvariant.2⟩

end Linked

/-! ### A reorg in time, and one that is stale -/

/-- A block with a hash, on top of another. -/
def blockOn (below : BlockNumHash) (hash : B256) : BlockWithParent :=
  ⟨below.hash, below.number + 1, hash⟩

/-- A chain whose blocks all have trie data. -/
def chainOf (blocks : List BlockWithParent) : Chain := ⟨blocks, fun _ => true⟩

/-- The root of the test chain. -/
def genesis : BlockNumHash := ⟨0, 0⟩

/-- Its first block. -/
def block1 : BlockWithParent := blockOn genesis 1

/-- Its second block. -/
def block2 : BlockWithParent := blockOn block1.block 2

/-- Its third block. -/
def block3 : BlockWithParent := blockOn block2.block 3

/-- Another branch on top of the first block. -/
def fork2 : BlockWithParent := blockOn block1.block 12

/-- A block on the fork. -/
def fork3 : BlockWithParent := blockOn fork2.block 13

/-- The next block on the fork. -/
def fork4 : BlockWithParent := blockOn fork3.block 14

/-- One block is canonical, and stored. -/
def startNode : Node where
  root := genesis
  canonical := [block1]
  store := some ⟨genesis, [block1], block1.block⟩
  queue := []
  stopped := none

lemma startNode_wellFormed : startNode.WellFormed :=
  ⟨⟨block1.block, by decide⟩, fun _ h => (nomatch h)⟩

lemma startNode_linked : startNode.Linked := by
  rintro window ⟨⟩
  decide

/-- The second block is committed. -/
def node2 : Node := startNode.publish [block1, block2] (.commit (chainOf [block2]))

lemma step_commit2 : Step 0 startNode (.published (.commit (chainOf [block2]))) node2 :=
  .commit (List.cons_ne_nil _ _) (show Leads genesis [block1] block1.block by decide)
    (show Leads block1.block [block2] block2.block by decide)

/-- The third block is committed, with the second one still queued. -/
def node3 : Node := node2.publish [block1, block2, block3] (.commit (chainOf [block3]))

lemma step_commit3 : Step 0 node2 (.published (.commit (chainOf [block3]))) node3 :=
  .commit (List.cons_ne_nil _ _) (show Leads genesis [block1, block2] block2.block by decide)
    (show Leads block2.block [block3] block3.block by decide)

/-- A second block was committed, and replaced after it was stored. -/
def reorgedNode : Node :=
  { startNode with
    canonical := [block1, fork2]
    store := some ⟨genesis, [block1, fork2], fork2.block⟩ }

lemma reaches_reorgedNode : Reaches 0 ForkStored startNode reorgedNode := by
  refine .head ⟨_, step_commit2, trivial⟩ ?_
  refine .head ⟨_, .handle .healthy rfl rfl, fun window _ fork hfork => (nomatch hfork)⟩ ?_
  refine .head ⟨.published (.reorg (chainOf [block2]) (chainOf [fork2])),
    .reorg (List.cons_ne_nil _ _) (show _ = [block1] ++ _ from rfl)
    (show Leads genesis [block1] block1.block by decide)
    (show Leads block1.block [fork2] fork2.block by decide), trivial⟩ ?_
  refine .head ⟨_, .handle .healthy rfl rfl, ?_⟩ ?_
  · rintro window ⟨⟩ fork ⟨⟩
    decide
  · exact .refl

/-- The window stays linked over a reorganization. -/
theorem storedWindow_linked_reorged :
    Reaches 0 ForkStored startNode reorgedNode ∧ reorgedNode.Linked :=
  ⟨reaches_reorgedNode,
    (storedWindow_linked startNode_wellFormed startNode_linked reaches_reorgedNode).1⟩

/-- Two blocks are committed, the upper one is reverted, and the lower one is replaced by three of
another branch. -/
def staleNode : Node :=
  { startNode with
    canonical := [block1, fork2, fork3, fork4]
    queue := [.commit (chainOf [block2]), .commit (chainOf [block3]),
      .reorg (chainOf [block3]) (chainOf []),
      .reorg (chainOf [block2]) (chainOf [fork2, fork3, fork4])] }

lemma reaches_staleNode : Reaches 0 (fun _ action => action.Healthy) startNode staleNode := by
  refine .head ⟨_, step_commit2, trivial⟩ ?_
  refine .head ⟨_, step_commit3, trivial⟩ ?_
  refine .head ⟨.published (.reorg (chainOf [block3]) (chainOf [])),
    .reorg (List.cons_ne_nil _ _) (show _ = [block1, block2] ++ _ from rfl)
    (show Leads genesis [block1, block2] block2.block by decide) rfl, trivial⟩ ?_
  exact .single ⟨.published (.reorg (chainOf [block2]) (chainOf [fork2, fork3, fork4])),
    .reorg (List.cons_ne_nil _ _) (show _ = [block1] ++ _ from rfl)
    (show Leads genesis [block1] block1.block by decide)
    (show Leads block1.block [fork2, fork3, fork4] fork4.block by decide), trivial⟩

/-- The stale node after a batch of the sync loop and three notifications. -/
def unlinkedNode : Node :=
  { staleNode with
    store := some ⟨genesis, [block1, fork2], block2.block⟩
    queue := [.reorg (chainOf [block2]) (chainOf [fork2, fork3, fork4])] }

/-- The sync loop stores the other branch before the first notification is handled. Both commits
are below the stored head, and the revert records its own parent on top of the other branch. -/
theorem stale_revert_unlinks :
    startNode.WellFormed ∧ startNode.Linked ∧
      Reaches 0 (fun _ action => action.Healthy) startNode unlinkedNode ∧
      ¬unlinkedNode.Linked := by
  refine ⟨startNode_wellFormed, startNode_linked, reaches_staleNode.trans ?_, fun hlinked => ?_⟩
  · refine .head ⟨_, .sync _ .healthy 4, trivial⟩ ?_
    refine .head ⟨_, .handle .healthy rfl rfl, rfl⟩ ?_
    refine .head ⟨_, .handle .healthy rfl rfl, rfl⟩ ?_
    refine .head ⟨_, .handle .healthy rfl rfl, rfl⟩ ?_
    exact .refl
  · exact absurd (hlinked _ rfl) (by decide)

end AlethiaReth.ProofHistory
