import AlethiaReth.ProofHistory.LifeAlive

/-!
The stored window over the life of the sidecar: it stays linked through all of it, and existing
storage is canonical when the flag is set by the step that reconciled it (`sidecar_linked`).
-/

namespace AlethiaReth.ProofHistory

section Linked

variable {verificationInterval capacity : ℕ} {config : ProofHistoryConfig} {life life' : Life}
  {event : LifeEvent} {node : Node}

/-- What makes the windows of a run linked. -/
structure Life.Sound (life : Life) : Prop where
  wellFormed : life.node.WellFormed
  linked : life.node.Linked
  pending : ∀ notification ∈ life.phase.pending, notification.Sound
  running : life.phase ≠ .stopped → life.node.stopped = none

/-- A notification that cuts the window finds the block that it cuts at. -/
def ForksStored (life : Life) : LifeEvent → Prop
  | .handled notification faults => ForkStored life.node (.handled notification faults)
  | _ => True

lemma Node.WellFormed.with_store (hwf : node.WellFormed) (store : Option ProofWindow) :
    { node with store }.WellFormed :=
  ⟨hwf.canonical, hwf.queue⟩

lemma Life.Sound.step (hsound : life.Sound) {node : Node} {action : Action}
    (hstep : Step verificationInterval life.node action node)
    (hstopped : node.stopped = life.node.stopped) (hfork : ForkStored life.node action) :
    { life with node }.Sound :=
  ⟨hstep.wellFormed hsound.wellFormed,
    (hstep.linked_iff hsound.wellFormed hsound.linked).mpr hfork, hsound.pending,
    fun h => hstopped.trans (hsound.running h)⟩

/-- The task goes on with other storage. -/
lemma Life.Sound.with_store (hsound : life.Sound) {store : Option ProofWindow}
    (hstore : ∀ window ∈ store, window.Linked)
    (hnode : life'.node = { life.node with store })
    (hpending : life'.phase.pending = none ∨ life'.phase.pending = life.phase.pending)
    (hstopped : life.phase ≠ .stopped) : life'.Sound := by
  refine ⟨hnode ▸ hsound.wellFormed.with_store store, ?_, fun notification hmem => ?_, fun _ => ?_⟩
  · rw [Node.Linked, hnode]
    exact hstore
  · rcases hpending with hnone | hsame
    · rw [hnone] at hmem
      cases hmem
    · exact hsound.pending notification (hsame ▸ hmem)
  · rw [hnode]
    exact hsound.running hstopped

lemma Life.Sound.handle (hsound : life.Sound) {notification : CanonStateNotification}
    (hphase : life.phase = .serving (some notification)) (faults : Faults)
    (hfork : ForkStored life.node (.handled notification faults)) :
    (life.handle verificationInterval faults notification).Sound := by
  have hnotification : notification.Sound := hsound.pending notification (by rw [hphase]; rfl)
  have hrunning : life.node.stopped = none := hsound.running (by rw [hphase]; rintro ⟨⟩)
  -- the notification goes back to the head of the queue for the step of the node
  have hwf : { life.node with queue := notification :: life.node.queue }.WellFormed := by
    refine ⟨hsound.wellFormed.canonical, fun queued hqueued => ?_⟩
    rcases List.mem_cons.mp hqueued with rfl | hqueued
    · exact hnotification
    · exact hsound.wellFormed.queue queued hqueued
  have hstep : Step verificationInterval
      { life.node with queue := notification :: life.node.queue } (.handled notification faults)
      (life.node.handle verificationInterval faults notification life.node.queue) :=
    .handle faults hrunning rfl
  have hwf' := hstep.wellFormed hwf
  have hlinked' := (hstep.linked_iff hwf hsound.linked).mpr hfork
  rcases life.handle_cases verificationInterval faults notification with ⟨heq, hstopped⟩ | heq
    <;> rw [heq]
  · exact ⟨hwf', hlinked', by rintro _ ⟨⟩, fun _ => hstopped⟩
  · exact ⟨hwf', hlinked', by rintro _ ⟨⟩, fun h => absurd rfl h⟩

lemma Life.Sound.receives (hsound : life.Sound) {notification : Option CanonStateNotification}
    {phase : Phase} (hphase : Receives life.phase notification phase)
    (hnotification : ∀ pending ∈ notification, pending.Sound)
    {queue : List CanonStateNotification} (hqueue : queue ⊆ life.node.queue) (received : ℕ) :
    { life with node := { life.node with queue }, received, phase }.Sound := by
  obtain ⟨-, hstopped, hpending, -⟩ := hphase.facts
  refine ⟨⟨hsound.wellFormed.canonical, fun queued h => hsound.wellFormed.queue queued (hqueue h)⟩,
    hsound.linked, fun pending hmem => ?_, fun _ => hsound.running hstopped⟩
  exact hnotification pending (hpending ▸ hmem)

lemma LifeStep.sound (hstep : LifeStep verificationInterval capacity config life event life')
    (hsound : life.Sound) (hfork : ForksStored life event) : life'.Sound := by
  cases hstep with
  -- steps of the node and of its pruner
  | publish hstep =>
    refine hsound.step hstep ?_ trivial
    cases hstep with
    | commit => rfl
    | reorg => rfl
  | sync faults executedHead hworkers hlock =>
    have hstep : Step verificationInterval life.node .synced _ :=
      .sync life.node faults executedHead
    exact hsound.step hstep rfl trivial
  | prune hworkers hlock hwindow hprunes =>
    refine ⟨hsound.wellFormed.with_store _, ?_, hsound.pending, hsound.running⟩
    rintro window' ⟨⟩
    exact hprunes.linked (hsound.linked _ hwindow)
  -- notifications arrive
  | retry hphase =>
    refine hsound.with_store hsound.linked rfl (.inl rfl) ?_
    rw [hphase]
    rintro ⟨⟩
  | @receive _ rest phase hqueue hlength hphase =>
    have hmem {queued : CanonStateNotification} (h : queued ∈ rest) : queued ∈ life.node.queue :=
      hqueue ▸ List.mem_cons_of_mem _ h
    refine hsound.receives hphase ?_ (fun _ => hmem) _
    rintro pending ⟨⟩
    exact hsound.wellFormed.queue _ (hqueue ▸ List.mem_cons_self)
  | lag hlagged hphase =>
    exact hsound.receives hphase (by rintro _ ⟨⟩) (List.nil_subset _) _
  -- the store is written, and stays linked; what waits is what waited
  | @reconcile pending startup chain hphase hroot hblocks =>
    have hstopped : life.phase ≠ .stopped := by
      rw [hphase]
      rintro ⟨⟩
    have hpending : life.phase.pending = pending := by
      rw [hphase]
      rfl
    obtain ⟨store, result, hreconcile, hcases⟩ :=
      life.reconcile_cases config startup chain pending
    have hstore := reconcileOrWait_linked hsound.linked hreconcile
    rcases hcases with ⟨e, -, heq⟩ | ⟨-, heq⟩ | ⟨-, heq | heq⟩ <;> rw [heq]
    · exact hsound.with_store hstore rfl (.inl rfl) hstopped
    · exact hsound.with_store hstore rfl (.inl rfl) hstopped
    · exact hsound.with_store hstore rfl (.inr hpending.symm) hstopped
    · exact hsound.with_store hstore rfl (.inr hpending.symm) hstopped
  | @backfill pending window window' _ _ returned hphase hwindow _ hprepends writable chain =>
    have hstopped : life.phase ≠ .stopped := by
      rw [hphase]
      rintro ⟨⟩
    have hpending : life.phase.pending = pending := by
      rw [hphase]
      rfl
    have hstore : ∀ window ∈ some window', window.Linked := by
      rintro _ ⟨⟩
      exact hprepends.linked (hsound.linked window hwindow)
    rcases life.backfilled_cases writable chain pending window' returned with
      heq | heq | ⟨marks, -, heq⟩ <;> rw [heq]
    · exact hsound.with_store hstore rfl (.inr hpending.symm) hstopped
    · exact hsound.with_store hstore rfl (.inl rfl) hstopped
    · exact hsound.with_store hstore rfl (.inl rfl) hstopped
  | lock hphase =>
    refine hsound.with_store hsound.linked rfl (.inl rfl) ?_
    rw [hphase]
    rintro ⟨⟩
  | recover startup chain hphase hroot hblocks =>
    have hstopped : life.phase ≠ .stopped := by
      rw [hphase]
      rintro ⟨⟩
    obtain ⟨store, result, hreconcile, hcases⟩ := life.recover_cases config startup chain
    have hstore := reconcileOrWait_linked hsound.linked hreconcile
    rcases hcases with ⟨marks, -, heq⟩ | ⟨-, heq⟩ <;> rw [heq]
    · exact hsound.with_store hstore rfl (.inl rfl) hstopped
    · exact hsound.with_store hstore rfl (.inl rfl) hstopped
  | handle faults hphase => exact hsound.handle hphase faults hfork
  | shutdown =>
    exact ⟨hsound.wellFormed, hsound.linked, by rintro _ ⟨⟩, fun h => absurd rfl h⟩

/-- The hash of a stored block is that of a canonical block only if it is that block. -/
def HashesAgree (window : ProofWindow) (blocks : List BlockWithParent) : Prop :=
  ∀ stored ∈ window.blocks, ∀ canonical ∈ blocks,
    stored.block.hash = canonical.block.hash → stored = canonical

/-- The blocks that are canonical now. -/
def Node.labels (node : Node) : List BlockNumHash := node.root :: node.canonical.map (·.block)

/-- A reconciliation of existing storage lets the sidecar go on if all that is left is
canonical. -/
lemma reconcileOrWait_canonical {startup : StartupNode} {chain : CanonicalBlocks}
    (hroot : chain.root = node.root) (hblocks : chain.blocks = node.canonical)
    {window window' : ProofWindow} (hlinked : window.Linked)
    (hhash : HashesAgree window node.canonical)
    (h : reconcileOrWait config startup chain (some window) = (some window', .ok true)) :
    ∀ label ∈ window'.labels, label ∈ node.labels := by
  have hlabels : chain.labels = node.labels := by
    rw [CanonicalBlocks.labels, Node.labels, hroot, hblocks]
  rw [← hlabels]
  rcases reconcileOrWait_stored hlinked h with ⟨heq, hends⟩ | ⟨heq, hearliest⟩
  · obtain rfl := Option.some.inj heq
    obtain ⟨hearliest, hlatest⟩ := hends rfl
    exact labels_canonical hlinked (hblocks ▸ hhash) hearliest hlatest
  · obtain rfl := Option.some.inj heq
    intro label hlabel
    rw [List.mem_singleton.mp hlabel]
    exact hearliest

/-- A step that sets the flag ends a backfill, or has just reconciled what is stored. -/
lemma LifeStep.sets_ready (hstep : LifeStep verificationInterval capacity config life event life')
    (hbefore : life.ready = false) (hafter : life'.ready = true) :
    (∃ pending, life.phase = .backfilling pending) ∨
      ∃ startup chain, chain.root = life.node.root ∧ chain.blocks = life.node.canonical ∧
        life'.node.canonical = life.node.canonical ∧ life'.node.root = life.node.root ∧
        reconcileOrWait config startup chain life.node.store = (life'.node.store, .ok true) := by
  have hfalse (h : life.ready = true) : False :=
    absurd (hbefore.symm.trans h) Bool.false_ne_true
  cases hstep with
  | reconcile startup chain hphase hroot hblocks =>
    obtain ⟨store, result, hreconcile, hcases⟩ := life.reconcile_cases config startup chain _
    rcases hcases with ⟨e, -, heq⟩ | ⟨-, heq⟩ | ⟨rfl, heq | heq⟩ <;> rw [heq] at hafter ⊢
    · exact (hfalse hafter).elim
    · exact (hfalse hafter).elim
    · exact (hfalse hafter).elim
    · exact .inr ⟨startup, chain, hroot, hblocks, rfl, rfl, hreconcile⟩
  | recover startup chain hphase hroot hblocks =>
    obtain ⟨store, result, hreconcile, hcases⟩ := life.recover_cases config startup chain
    rcases hcases with ⟨marks, -, heq⟩ | ⟨rfl, heq⟩ <;> rw [heq] at hafter ⊢
    · exact (hfalse hafter).elim
    · exact .inr ⟨startup, chain, hroot, hblocks, rfl, rfl, hreconcile⟩
  | backfill hphase => exact .inl ⟨_, hphase⟩
  | lock => cases hafter
  | publish => exact (hfalse hafter).elim
  | sync => exact (hfalse hafter).elim
  | prune => exact (hfalse hafter).elim
  | retry => exact (hfalse hafter).elim
  | receive => exact (hfalse hafter).elim
  | lag => exact (hfalse hafter).elim
  | handle => exact (hfalse hafter).elim
  | shutdown => exact (hfalse hafter).elim

/-- A step that sets the flag on stored blocks leaves canonical blocks only, unless it ends a
backfill. -/
lemma LifeStep.canonical (hstep : LifeStep verificationInterval capacity config life event life')
    (hsound : life.Sound) (hbefore : life.ready = false) (hafter : life'.ready = true)
    (hbackfilling : ¬∃ pending, life.phase = .backfilling pending) {window : ProofWindow}
    (hwindow : window ∈ life.node.store) (hhash : HashesAgree window life.node.canonical) :
    ∀ window' ∈ life'.node.store, ∀ label ∈ window'.labels, label ∈ life'.node.labels := by
  rcases hstep.sets_ready hbefore hafter with
    h | ⟨startup, chain, hroot, hblocks, hcanonical, hroot', hreconcile⟩
  · exact absurd h hbackfilling
  · intro window' hwindow'
    rw [Option.mem_def.mp hwindow, Option.mem_def.mp hwindow'] at hreconcile
    have hlabels : life'.node.labels = life.node.labels := by
      rw [Node.labels, Node.labels, hcanonical, hroot']
    rw [hlabels]
    exact reconcileOrWait_canonical hroot hblocks (hsound.linked window hwindow) hhash hreconcile

lemma Lives.sound (hwf : node.WellFormed) (hlinked : node.Linked) (hrunning : node.stopped = none)
    (hrun : Lives verificationInterval capacity config ForksStored (.installed node) life) :
    life.Sound := by
  induction hrun with
  | refl => exact ⟨⟨hwf.canonical, by rintro _ ⟨⟩⟩, hlinked, by rintro _ ⟨⟩, fun _ => hrunning⟩
  | tail _ hnext ih =>
    obtain ⟨event, hstep, hallowed⟩ := hnext
    exact hstep.sound ih hallowed

/-- In every run in which notifications find the fork blocks they need, the stored window is
linked, through initialization, unwinding, backfill, syncing, pruning and recovery.  A step that
sets the flag on existing storage leaves canonical blocks only, unless it ends a backfill, which
the reconciliation came before. -/
theorem sidecar_linked (hwf : node.WellFormed) (hlinked : node.Linked)
    (hrunning : node.stopped = none)
    (hrun : Lives verificationInterval capacity config ForksStored (.installed node) life) :
    life.node.Linked ∧
    ∀ event life', LifeStep verificationInterval capacity config life event life' →
      life.ready = false → life'.ready = true →
      (∃ pending, life.phase = .backfilling pending) ∨
      ∀ window ∈ life.node.store, HashesAgree window life.node.canonical →
        ∀ window' ∈ life'.node.store, ∀ label ∈ window'.labels, label ∈ life'.node.labels := by
  have hsound := Lives.sound hwf hlinked hrunning hrun
  refine ⟨hsound.linked, fun event life' hstep hbefore hafter => ?_⟩
  by_cases hbackfilling : ∃ pending, life.phase = .backfilling pending
  · exact .inl hbackfilling
  · exact .inr fun window hwindow hhash =>
      hstep.canonical hsound hbefore hafter hbackfilling hwindow hhash

end Linked

/-- The window of the sidecar that came up is linked, and canonical. -/
theorem sidecar_linked_serving :
    servingLife.ready = true ∧ servingLife.node.Linked ∧
      ∀ window' ∈ servingLife.node.store, ∀ label ∈ window'.labels,
        label ∈ servingLife.node.labels := by
  refine ⟨rfl, (sidecar_linked startNode_wellFormed startNode_linked rfl
    (.single ⟨_, step_servingLife, trivial⟩)).1, ?_⟩
  rcases (sidecar_linked startNode_wellFormed startNode_linked rfl .refl).2 _ _ step_servingLife
    rfl rfl with ⟨pending, hphase⟩ | hcanonical
  · cases hphase
  · exact hcanonical _ rfl (by rw [HashesAgree]; decide)

end AlethiaReth.ProofHistory
