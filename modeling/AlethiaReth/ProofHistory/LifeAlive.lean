import AlethiaReth.ProofHistory.Lifecycle
import AlethiaReth.ProofHistory.Rebuild

/-!
What holds in every run of the sidecar, whatever the chain does and whatever fails: while the flag
is set there is a window, the workers run and no recovery is under way; of the notifications
since the last reconciliation none is passed over; and the run is a history of the directory that
the sidecar is on, with the marker where it asked for a rebuild (`sidecar_alive`).
-/

namespace AlethiaReth.ProofHistory

/-! ### The invariant -/

/-- Whether there are workers where the task is. -/
def Phase.Fits : Phase → Bool → Prop
  | .starting _, workers => workers = false
  | .backfilling _, workers => workers = false
  | .idle, workers => workers = false
  | .serving _, workers => workers = true
  | .lagged, workers => workers = true
  | .recovering, workers => workers = true
  | .stopped, _ => True

/-- The parts of a sidecar agree. -/
structure Life.Sane (life : Life) : Prop where
  workers : life.phase.Fits life.workers
  /-- Workers, and the backfill, have storage that is initialized. -/
  initialized : (life.workers = true ∨ ∃ pending, life.phase = .backfilling pending) →
    life.node.store.isSome
  ready : life.ready = true → life.workers = true ∧ life.phase ≠ .recovering ∧ life.marked = false
  marked : life.marked = true → life.phase = .stopped

/-- The notifications since the last reconciliation are dealt with in turn. -/
structure Life.Counted (life : Life) : Prop where
  pending : life.phase.pending.isSome → 0 < life.received
  backfilling : ∀ pending, life.phase = .backfilling pending → life.received ≤ life.reconciledAt
  ordered : life.handled.Pairwise (· < ·)
  bounded : ∀ i ∈ life.handled, i < life.settled
  noneLost : ∀ pending, life.phase = .serving pending →
    ∀ i, life.reconciledAt ≤ i → i < life.settled → i ∈ life.handled

section Invariant

variable {verificationInterval capacity : ℕ} {config : ProofHistoryConfig} {life life' : Life}
  {event : LifeEvent} {Allowed : Life → LifeEvent → Prop} {node : Node} {phase phase' : Phase}
  {notification pending : Option CanonStateNotification}

lemma Life.Sane.of_store (hsane : life.Sane) (hstore : life.node.store.isSome → node.store.isSome) :
    { life with node }.Sane :=
  ⟨hsane.workers, fun h => hstore (hsane.initialized h), hsane.ready, hsane.marked⟩

lemma Receives.fits (h : Receives phase notification phase') {workers : Bool}
    (hfits : phase.Fits workers) :
    phase'.Fits workers := by
  cases h with
  | idle => exact hfits
  | serving => exact hfits
  | lagged => exact hfits

lemma Receives.facts (h : Receives phase notification phase') :
    phase.pending = none ∧ phase ≠ .stopped ∧ phase'.pending = notification ∧
      phase' ≠ .recovering ∧ ∀ pending, phase' ≠ .backfilling pending := by
  cases h with
  | idle => exact ⟨rfl, by rintro ⟨⟩, rfl, by rintro ⟨⟩, by rintro _ ⟨⟩⟩
  | serving => exact ⟨rfl, by rintro ⟨⟩, rfl, by rintro ⟨⟩, by rintro _ ⟨⟩⟩
  | lagged => exact ⟨rfl, by rintro ⟨⟩, rfl, by rintro ⟨⟩, by rintro _ ⟨⟩⟩

/-- The task goes on to a phase in which no recovery and no backfill is under way. -/
lemma Life.Sane.receives (hsane : life.Sane) (hphase : Receives life.phase notification phase)
    {received : ℕ} {queue : List CanonStateNotification} :
    { life with node := { life.node with queue }, received, phase }.Sane := by
  obtain ⟨-, hstopped, -, hrecovering, hbackfilling⟩ := hphase.facts
  refine ⟨hphase.fits hsane.workers, ?_,
    fun h => ⟨(hsane.ready h).1, hrecovering, (hsane.ready h).2.2⟩,
    fun h => absurd (hsane.marked h) hstopped⟩
  rintro (h | ⟨pending, h⟩)
  · exact hsane.initialized (.inl h)
  · exact absurd h (hbackfilling pending)

/-- Storage that is initialized is served. -/
lemma Life.start_sane (life : Life) (hstore : life.node.store.isSome)
    (hmarked : life.marked = false) (pending : Option CanonStateNotification) :
    (life.start pending).Sane :=
  ⟨rfl, fun _ => hstore, fun _ => ⟨rfl, by rintro ⟨⟩, hmarked⟩,
    fun h => absurd (hmarked.symm.trans h) Bool.false_ne_true⟩

/-- A sidecar that is not ready may fail at any point. -/
lemma Life.fail_sane (life : Life) (hstore : life.workers = true → life.node.store.isSome)
    (hready : life.ready = false) (marks : Bool) : (life.fail marks).Sane := by
  refine ⟨trivial, ?_, fun h => absurd (hready.symm.trans h) Bool.false_ne_true, fun _ => rfl⟩
  rintro (h | ⟨pending, h⟩)
  · exact hstore h
  · cases h

/-- A sidecar without workers may wait. -/
lemma Life.idle_sane (life : Life) (hworkers : life.workers = false) (hready : life.ready = false)
    (hmarked : life.marked = false) : { life with phase := .idle }.Sane := by
  refine ⟨hworkers, ?_, fun h => absurd (hready.symm.trans h) Bool.false_ne_true,
    fun h => absurd (hmarked.symm.trans h) Bool.false_ne_true⟩
  rintro (h | ⟨pending, h⟩)
  · exact absurd (hworkers.symm.trans h) Bool.false_ne_true
  · cases h

lemma Life.Sane.not_marked (hsane : life.Sane) (hphase : life.phase ≠ .stopped) :
    life.marked = false :=
  Bool.eq_false_iff.mpr fun h => hphase (hsane.marked h)

/-- Without workers the flag is not set. -/
lemma Life.Sane.not_ready (hsane : life.Sane) (hworkers : life.workers = false) :
    life.ready = false :=
  Bool.eq_false_iff.mpr fun h =>
    absurd (hworkers.symm.trans (hsane.ready h).1) Bool.false_ne_true

/-- In a phase without workers the flag is not set, and no rebuild was asked for. -/
lemma Life.Sane.unready (hsane : life.Sane) (hworkers : life.phase.Fits life.workers →
    life.workers = false) (hphase : life.phase ≠ .stopped) :
    life.workers = false ∧ life.ready = false ∧ life.marked = false :=
  have h := hworkers hsane.workers
  ⟨h, hsane.not_ready h, hsane.not_marked hphase⟩

lemma Life.Sane.reconcile (hsane : life.Sane) {pending : Option CanonStateNotification}
    (hphase : life.phase = .starting pending) (startup : StartupNode) (chain : CanonicalBlocks) :
    (life.reconcile config startup chain pending).Sane := by
  obtain ⟨hworkers, hready, hmarked⟩ :=
    hsane.unready (fun hfits => by rwa [hphase] at hfits) (by rw [hphase]; rintro ⟨⟩)
  obtain ⟨store, result, hreconcile, hcases⟩ := life.reconcile_cases config startup chain pending
  rcases hcases with ⟨e, -, heq⟩ | ⟨-, heq⟩ | ⟨rfl, heq | heq⟩ <;> rw [heq]
  · exact (life.reconciled store).fail_sane
      (fun h => absurd (hworkers.symm.trans h) Bool.false_ne_true) hready _
  · exact (life.reconciled store).idle_sane hworkers hready hmarked
  · exact ⟨hworkers, fun _ => reconcileOrWait_isSome hreconcile (.inr rfl),
      fun h => absurd (hready.symm.trans h) Bool.false_ne_true,
      fun h => absurd (hmarked.symm.trans h) Bool.false_ne_true⟩
  · exact (life.reconciled store).start_sane (reconcileOrWait_isSome hreconcile (.inr rfl))
      hmarked pending

lemma Life.Sane.backfilled (hsane : life.Sane) (hphase : life.phase = .backfilling pending)
    (writable : Bool) (chain : CanonicalBlocks) (window : ProofWindow)
    (returned : Except String ProofHistoryBackfill) :
    (life.backfilled writable chain pending window returned).Sane := by
  obtain ⟨hworkers, hready, hmarked⟩ :=
    hsane.unready (fun hfits => by rwa [hphase] at hfits) (by rw [hphase]; rintro ⟨⟩)
  rcases life.backfilled_cases writable chain pending window returned with
    heq | heq | ⟨marks, -, heq⟩ <;> rw [heq]
  · exact (life.stored window).start_sane rfl hmarked pending
  · exact (life.stored window).idle_sane hworkers hready hmarked
  · exact (life.stored window).fail_sane (fun _ => rfl) hready marks

lemma Life.Sane.recover (hsane : life.Sane) (hphase : life.phase = .recovering)
    (startup : StartupNode) (chain : CanonicalBlocks) :
    (life.recover config startup chain).Sane := by
  have hready : life.ready = false :=
    Bool.eq_false_iff.mpr fun h => (hsane.ready h).2.1 hphase
  have hworkers : life.workers = true := by
    have hfits := hsane.workers
    rwa [hphase] at hfits
  have hmarked := hsane.not_marked (by rw [hphase]; rintro ⟨⟩)
  obtain ⟨store, result, hreconcile, hcases⟩ := life.recover_cases config startup chain
  have hstore := reconcileOrWait_isSome hreconcile (.inl (hsane.initialized (.inl hworkers)))
  rcases hcases with ⟨marks, -, heq⟩ | ⟨-, heq⟩ <;> rw [heq]
  · exact (life.reconciled store).fail_sane (fun _ => hstore) hready marks
  · exact ⟨hworkers, fun _ => hstore, fun _ => ⟨hworkers, by rintro ⟨⟩, hmarked⟩,
      fun h => absurd (hmarked.symm.trans h) Bool.false_ne_true⟩

lemma handleNotification_isSome (verificationInterval : ℕ) (provider : Provider)
    (notification : CanonStateNotification) {store : Option ProofWindow}
    (hstore : store.isSome) :
    (handleNotification verificationInterval provider notification store).1.isSome := by
  cases store with
  | none => cases hstore
  | some window =>
    rw [handleNotification]
    split
    · rfl
    · rfl

lemma Life.Sane.handle (hsane : life.Sane) {notification : CanonStateNotification}
    (hphase : life.phase = .serving (some notification)) (faults : Faults) :
    (life.handle verificationInterval faults notification).Sane := by
  have hworkers : life.workers = true := by
    have hfits := hsane.workers
    rwa [hphase] at hfits
  have hmarked := hsane.not_marked (by rw [hphase]; rintro ⟨⟩)
  have hstore := handleNotification_isSome verificationInterval (life.node.provider faults)
    notification (hsane.initialized (.inl hworkers))
  rcases life.handle_cases verificationInterval faults notification with ⟨heq, -⟩ | heq
    <;> rw [heq]
  · exact ⟨hworkers, fun _ => hstore, fun _ => ⟨hworkers, by rintro ⟨⟩, hmarked⟩,
      fun h => absurd (hmarked.symm.trans h) Bool.false_ne_true⟩
  · exact ⟨trivial, fun _ => hstore, fun _ => ⟨hworkers, by rintro ⟨⟩, hmarked⟩, fun _ => rfl⟩

lemma LifeStep.sane (hstep : LifeStep verificationInterval capacity config life event life')
    (hsane : life.Sane) : life'.Sane := by
  cases hstep with
  | publish hstep =>
    cases hstep with
    | commit => exact hsane.of_store id
    | reorg => exact hsane.of_store id
  | sync faults executedHead hworkers hlock =>
    exact hsane.of_store fun h => by rwa [Node.sync, syncBatch, Option.isSome_map]
  | prune => exact hsane.of_store fun _ => rfl
  | retry hphase =>
    have hreceives : Receives life.phase none (.starting none) := by
      rw [hphase]
      exact .idle none
    exact hsane.receives hreceives
  | receive hqueue hlength hphase => exact hsane.receives hphase
  | lag hlagged hphase => exact hsane.receives hphase
  | reconcile startup chain hphase hroot hblocks => exact hsane.reconcile hphase startup chain
  | backfill hphase hwindow hbackfill hprepends writable chain =>
    exact hsane.backfilled hphase writable chain _ _
  | lock hphase =>
    have hfits := hsane.workers
    rw [hphase] at hfits
    have hmarked := hsane.not_marked (by rw [hphase]; rintro ⟨⟩)
    exact ⟨hfits, fun _ => hsane.initialized (.inl hfits), by rintro ⟨⟩,
      fun h => absurd (hmarked.symm.trans h) Bool.false_ne_true⟩
  | recover startup chain hphase hroot hblocks => exact hsane.recover hphase startup chain
  | handle faults hphase => exact hsane.handle hphase faults
  | shutdown =>
    refine ⟨trivial, ?_, fun h => ⟨(hsane.ready h).1, by rintro ⟨⟩, (hsane.ready h).2.2⟩,
      fun _ => rfl⟩
    rintro (h | ⟨pending, h⟩)
    · exact hsane.initialized (.inl h)
    · cases h

/-! ### Notifications are dealt with in turn -/

lemma Life.settled_le_received (life : Life) : life.settled ≤ life.received := Nat.sub_le _ _

lemma Life.settled_of_pending_none (h : life.phase.pending = none) :
    life.settled = life.received := by
  rw [Life.settled, h]
  rfl

lemma Life.received_le_published (life : Life) : life.received ≤ life.published :=
  Nat.le_add_right _ _

/-- A step that handles nothing keeps the count, as far as it does not go on to serve. -/
lemma Life.Counted.keep (hcounted : life.Counted) (hhandled : life'.handled = life.handled)
    (hsettled : life.settled ≤ life'.settled)
    (hpending : life'.phase.pending.isSome → 0 < life'.received)
    (hbackfilling : ∀ pending, life'.phase = .backfilling pending →
      life'.received ≤ life'.reconciledAt)
    (hserving : ∀ pending, life'.phase = .serving pending → life'.settled ≤ life'.reconciledAt ∨
      (∃ pending, life.phase = .serving pending) ∧ life'.reconciledAt = life.reconciledAt ∧
        life'.settled = life.settled) : life'.Counted := by
  refine ⟨hpending, hbackfilling, hhandled ▸ hcounted.ordered, fun i hi => ?_,
    fun pending hphase i hlow hhigh => ?_⟩
  · exact (hcounted.bounded i (hhandled ▸ hi)).trans_le hsettled
  · rw [hhandled]
    rcases hserving pending hphase with hnone | ⟨⟨pending', hphase'⟩, hreconciled, hsame⟩
    · omega
    · exact hcounted.noneLost pending' hphase' i (hreconciled ▸ hlow) (hsame ▸ hhigh)

/-- Only the node is changed. -/
lemma Life.Counted.of_node (hcounted : life.Counted) (node : Node) :
    { life with node }.Counted :=
  ⟨hcounted.pending, hcounted.backfilling, hcounted.ordered, hcounted.bounded, hcounted.noneLost⟩

/-- The task goes to a phase in which no notification waits and none is handled. -/
lemma Life.Counted.rest (hcounted : life.Counted) (hhandled : life'.handled = life.handled)
    (hreceived : life.received ≤ life'.received) (hpending : life'.phase.pending = none)
    (hbackfilling : ∀ pending, life'.phase ≠ .backfilling pending)
    (hserving : ∀ pending, life'.phase ≠ .serving pending) : life'.Counted := by
  refine hcounted.keep hhandled ?_ (fun h => ?_) (fun pending h => absurd h (hbackfilling pending))
    fun pending h => absurd h (hserving pending)
  · rw [Life.settled_of_pending_none hpending]
    exact life.settled_le_received.trans hreceived
  · rw [hpending] at h
    cases h

lemma Receives.ne_serving_of_none (h : Receives phase none phase')
    (pending : Option CanonStateNotification) : phase' ≠ .serving pending := by
  cases h with
  | idle => rintro ⟨⟩
  | lagged => rintro ⟨⟩

lemma Life.Counted.receive (hcounted : life.Counted) {notification : CanonStateNotification}
    {phase : Phase} (hphase : Receives life.phase (some notification) phase) (node : Node) :
    { life with node, received := life.received + 1, phase }.Counted := by
  have hsettled := Life.settled_of_pending_none hphase.facts.1
  generalize hphase' : life.phase = before at hphase
  cases hphase with
  | idle =>
    refine hcounted.keep rfl hsettled.le (fun _ => Nat.succ_pos _) ?_ ?_
    · rintro _ ⟨⟩
    · rintro _ ⟨⟩
  | serving =>
    refine hcounted.keep rfl hsettled.le (fun _ => Nat.succ_pos _) ?_ fun _ _ => ?_
    · rintro _ ⟨⟩
    · exact .inr ⟨⟨_, hphase'⟩, rfl, hsettled.symm⟩

lemma Life.Counted.lag (hcounted : life.Counted) (hphase : Receives life.phase none phase)
    (node : Node) :
    { life with node, received := life.published, phase }.Counted := by
  obtain ⟨-, -, hpending, -, hbackfilling⟩ := hphase.facts
  exact hcounted.rest rfl life.received_le_published hpending hbackfilling
    hphase.ne_serving_of_none

/-- What is waiting left the channel, and is not dealt with. -/
lemma Life.Counted.waiting (hcounted : life.Counted) (hphase : life.phase.pending = pending) :
    (pending.isSome → 0 < life.received) ∧
      life.settled = life.received - pending.toList.length := by
  subst hphase
  exact ⟨hcounted.pending, rfl⟩

lemma Life.Counted.reconcile (hcounted : life.Counted)
    (hphase : life.phase = .starting pending) (startup : StartupNode) (chain : CanonicalBlocks) :
    (life.reconcile config startup chain pending).Counted := by
  obtain ⟨hpending, hsettled⟩ := hcounted.waiting (congrArg Phase.pending hphase)
  have hlate : life.received - pending.toList.length ≤ life.published :=
    (Nat.sub_le _ _).trans life.received_le_published
  obtain ⟨store, result, -, hcases⟩ := life.reconcile_cases config startup chain pending
  rcases hcases with ⟨e, -, heq⟩ | ⟨-, heq⟩ | ⟨-, heq | heq⟩ <;> rw [heq]
  · exact hcounted.rest rfl le_rfl rfl (by rintro _ ⟨⟩) (by rintro _ ⟨⟩)
  · exact hcounted.rest rfl le_rfl rfl (by rintro _ ⟨⟩) (by rintro _ ⟨⟩)
  · exact hcounted.keep rfl hsettled.le hpending (fun _ _ => life.received_le_published)
      (by rintro _ ⟨⟩)
  · exact hcounted.keep rfl hsettled.le hpending (by rintro _ ⟨⟩) fun _ _ => .inl hlate

lemma Life.Counted.backfilled (hcounted : life.Counted) (hphase : life.phase = .backfilling pending)
    (writable : Bool) (chain : CanonicalBlocks) (window : ProofWindow)
    (returned : Except String ProofHistoryBackfill) :
    (life.backfilled writable chain pending window returned).Counted := by
  obtain ⟨hpending, hsettled⟩ := hcounted.waiting (congrArg Phase.pending hphase)
  have hlate : life.received - pending.toList.length ≤ life.reconciledAt :=
    (Nat.sub_le _ _).trans (hcounted.backfilling pending hphase)
  rcases life.backfilled_cases writable chain pending window returned with
    heq | heq | ⟨marks, -, heq⟩ <;> rw [heq]
  · exact hcounted.keep rfl hsettled.le hpending (by rintro _ ⟨⟩) fun _ _ => .inl hlate
  · exact hcounted.rest rfl le_rfl rfl (by rintro _ ⟨⟩) (by rintro _ ⟨⟩)
  · exact hcounted.rest rfl le_rfl rfl (by rintro _ ⟨⟩) (by rintro _ ⟨⟩)

lemma Life.Counted.recover (hcounted : life.Counted) (startup : StartupNode)
    (chain : CanonicalBlocks) : (life.recover config startup chain).Counted := by
  obtain ⟨store, result, -, hcases⟩ := life.recover_cases config startup chain
  rcases hcases with ⟨marks, -, heq⟩ | ⟨-, heq⟩ <;> rw [heq]
  · exact hcounted.rest rfl le_rfl rfl (by rintro _ ⟨⟩) (by rintro _ ⟨⟩)
  · refine hcounted.keep rfl life.settled_le_received (by rintro ⟨⟩) (by rintro _ ⟨⟩)
      fun _ _ => .inl life.received_le_published

/-- The notification that was received is the next one in turn. -/
lemma Life.Counted.handle (hcounted : life.Counted) {notification : CanonStateNotification}
    (hphase : life.phase = .serving (some notification)) (faults : Faults) :
    (life.handle verificationInterval faults notification).Counted := by
  have hreceived : 0 < life.received := hcounted.pending (by rw [hphase]; rfl)
  have hsettled : life.settled = life.received - 1 := by
    rw [Life.settled, hphase]
    rfl
  have hordered : (life.handled ++ [life.received - 1]).Pairwise (· < ·) := by
    refine List.pairwise_append.mpr ⟨hcounted.ordered, List.pairwise_singleton _ _, ?_⟩
    intro i hi j hj
    rw [List.mem_singleton.mp hj, ← hsettled]
    exact hcounted.bounded i hi
  have hbounded : ∀ i ∈ life.handled ++ [life.received - 1], i < life.received := by
    intro i hi
    rcases List.mem_append.mp hi with hi | hi
    · exact (hcounted.bounded i hi).trans_le life.settled_le_received
    · rw [List.mem_singleton.mp hi]
      omega
  rcases life.handle_cases verificationInterval faults notification with ⟨heq, -⟩ | heq
    <;> rw [heq]
  · refine ⟨by rintro ⟨⟩, by rintro _ ⟨⟩, hordered, hbounded, fun _ _ i hlow hhigh => ?_⟩
    have hhigh : i < life.received := hhigh
    rcases Nat.lt_or_ge i (life.received - 1) with hlt | hge
    · exact List.mem_append_left _
        (hcounted.noneLost _ hphase i hlow (by rwa [hsettled]))
    · refine List.mem_append_right _ (List.mem_singleton.mpr ?_)
      omega
  · exact ⟨by rintro ⟨⟩, by rintro _ ⟨⟩, hordered, hbounded, by rintro _ ⟨⟩⟩

lemma LifeStep.counted (hstep : LifeStep verificationInterval capacity config life event life')
    (hcounted : life.Counted) : life'.Counted := by
  cases hstep with
  | publish => exact hcounted.of_node _
  | sync => exact hcounted.of_node _
  | prune => exact hcounted.of_node _
  | retry hphase => exact hcounted.rest rfl le_rfl rfl (by rintro _ ⟨⟩) (by rintro _ ⟨⟩)
  | receive hqueue hlength hphase => exact hcounted.receive hphase _
  | lag hlagged hphase => exact hcounted.lag hphase _
  | reconcile startup chain hphase => exact hcounted.reconcile hphase startup chain
  | backfill hphase hwindow hbackfill hprepends writable chain =>
    exact hcounted.backfilled hphase writable chain _ _
  | lock hphase => exact hcounted.rest rfl le_rfl rfl (by rintro _ ⟨⟩) (by rintro _ ⟨⟩)
  | recover startup chain hphase => exact hcounted.recover startup chain
  | handle faults hphase => exact hcounted.handle hphase faults
  | shutdown => exact hcounted.rest rfl le_rfl rfl (by rintro _ ⟨⟩) (by rintro _ ⟨⟩)

lemma Lives.alive
    (hrun : Lives verificationInterval capacity config Allowed (.installed node) life) :
    life.Sane ∧ life.Counted := by
  induction hrun with
  | refl =>
    refine ⟨⟨rfl, ?_, by rintro ⟨⟩, by rintro ⟨⟩⟩, by rintro ⟨⟩, by rintro _ ⟨⟩,
      List.Pairwise.nil, by rintro _ ⟨⟩, by rintro _ ⟨⟩⟩
    rintro (h | ⟨pending, h⟩)
    · cases h
    · cases h
  | tail _ hnext ih =>
    obtain ⟨event, hstep, -⟩ := hnext
    exact ⟨hstep.sane ih.1, hstep.counted ih.2⟩

/-! ### The directory of a sidecar -/

/-- A sidecar is on a host: its window is the one in the directory, and the marker is there if it
asked for a rebuild. -/
structure Life.On (life : Life) (host : Host) : Prop where
  running : host.running = true
  stored : ∃ data, host.dir "mdbx.dat" = some (.store data) ∧ data.window = life.node.store
  marked : host.dir.Marked ↔ life.marked = true

section On

variable {host : Host}

/-- A step that asks for nothing writes the database at most. -/
lemma Life.On.write (hon : life.On host) (hmarked : life'.marked = life.marked) :
    ∃ host', HostRun host host' ∧ life'.On host' := by
  obtain ⟨data, -, -⟩ := hon.stored
  refine ⟨_, .single ⟨.wrote, .write { data with window := life'.node.store } hon.running,
    by rintro _ ⟨⟩⟩, hon.running, ⟨_, Function.update_self "mdbx.dat" _ host.dir, rfl⟩, ?_⟩
  rw [hmarked, ← hon.marked]
  exact marked_update host.dir _ (by decide)

/-- A reconciliation is one of the window in the directory. -/
lemma Life.On.reconcile (hon : life.On host) {startup : StartupNode} {chain : CanonicalBlocks}
    {store : Option ProofWindow} {result : Except ReconcileError Bool}
    (hreconcile : reconcileOrWait config startup chain life.node.store = (store, result))
    (hstore : life'.node.store = store)
    (hmarked : life'.marked = true ↔
      life.marked = true ∨ ∃ earliest, result = .error (.rebuildRequested earliest true)) :
    ∃ host', HostRun host host' ∧ life'.On host' := by
  obtain ⟨data, hdata, hwindow⟩ := hon.stored
  rcases hstep : host.reconcile config startup chain data with ⟨host', answer⟩
  obtain ⟨hrunning, hmarker, data', hdata', hwindow'⟩ := Host.reconcile_eq hstep
  rw [hwindow, hreconcile] at hwindow'
  obtain ⟨rfl, rfl⟩ := Prod.mk.inj hwindow'
  refine ⟨host', .single ⟨_, .reconcile config startup chain hon.running hdata hstep,
    by rintro _ ⟨⟩⟩, hrunning.trans hon.running, ⟨data', hdata', hstore.symm⟩, ?_⟩
  rw [hmarker, hmarked, hon.marked]

/-- A backfill writes the database, and asks for a rebuild if the earliest block was replaced. -/
lemma Life.On.request (hon : life.On host) {window : ProofWindow} {chain : CanonicalBlocks}
    {marks : Bool} (hmarks : marks = true →
      ∃ earliest, startupAction chain (some window) = .ok (.rebuildRequired earliest)) :
    ∃ host', HostRun host host' ∧ ((life.stored window).fail marks).On host' := by
  cases marks with
  | false => exact hon.write (Bool.or_false _)
  | true =>
    obtain ⟨earliest, haction⟩ := hmarks rfl
    have hmarked : (life.stored window).marked = life.marked := rfl
    obtain ⟨written, hrun, hwritten⟩ := hon.write hmarked
    obtain ⟨data, hdata, hwindow⟩ := hwritten.stored
    replace haction : startupAction chain data.window = .ok (.rebuildRequired earliest) := by
      rw [hwindow]
      exact haction
    have hrequest := HostStep.request true chain hwritten.running hdata haction
    refine ⟨_, hrun.tail ⟨_, hrequest, by rintro _ ⟨⟩⟩, hwritten.running,
      ⟨data, (mdbx_requestProofHistoryRebuild true _).trans hdata, hwindow⟩, ?_⟩
    exact iff_of_true rfl (Bool.or_true _)

/-- A step of the sidecar is a short history of its directory. -/
lemma LifeStep.on (hstep : LifeStep verificationInterval capacity config life event life')
    (hon : life.On host) : ∃ host', HostRun host host' ∧ life'.On host' := by
  cases hstep with
  | publish => exact hon.write rfl
  | sync => exact hon.write rfl
  | prune => exact hon.write rfl
  | retry => exact hon.write rfl
  | receive => exact hon.write rfl
  | lag => exact hon.write rfl
  | lock => exact hon.write rfl
  | handle => exact hon.write rfl
  | shutdown => exact hon.write rfl
  | @reconcile pending startup chain =>
    obtain ⟨store, result, hreconcile, hcases⟩ :=
      life.reconcile_cases config startup chain pending
    rcases hcases with ⟨e, rfl, heq⟩ | ⟨rfl, heq⟩ | ⟨rfl, heq | heq⟩ <;> rw [heq]
    · refine hon.reconcile hreconcile rfl ?_
      rw [Life.fail, Bool.or_eq_true, Life.marks_eq_true]
      simp only [Except.error.injEq, Life.reconciled]
    · exact hon.reconcile hreconcile rfl (by simp [Life.reconciled])
    · exact hon.reconcile hreconcile rfl (by simp [Life.reconciled])
    · exact hon.reconcile hreconcile rfl (by simp [Life.reconciled, Life.start])
  | @backfill pending window window' fuel rounds returned _ _ _ _ writable chain =>
    rcases life.backfilled_cases writable chain pending window' returned with
      heq | heq | ⟨marks, hmarks, heq⟩ <;> rw [heq]
    · exact hon.write rfl
    · exact hon.write rfl
    · exact hon.request hmarks
  | recover startup chain =>
    obtain ⟨store, result, hreconcile, hcases⟩ := life.recover_cases config startup chain
    rcases hcases with ⟨marks, hmarks, heq⟩ | ⟨rfl, heq⟩ <;> rw [heq]
    · refine hon.reconcile hreconcile rfl ?_
      rw [← hmarks, Life.fail, Bool.or_eq_true]
      rfl
    · exact hon.reconcile hreconcile rfl (by simp [Life.reconciled])

lemma Lives.on (hrun : Lives verificationInterval capacity config Allowed life life')
    (hon : life.On host) : ∃ host', HostRun host host' ∧ life'.On host' := by
  induction hrun with
  | refl => exact ⟨host, .refl, hon⟩
  | tail _ hnext ih =>
    obtain ⟨event, hstep, -⟩ := hnext
    obtain ⟨middle, hmiddle, honMiddle⟩ := ih
    obtain ⟨host', hhost', hon'⟩ := hstep.on honMiddle
    exact ⟨host', hmiddle.trans hhost', hon'⟩

end On

/-- In every run of a sidecar from its installation: the flag is set only while the storage is
initialized, the workers run, no recovery is under way and no rebuild was asked for; the workers
are there as soon as notifications are handled; and the notifications that came since the last
reconciliation are handled one after the other, none of them passed over and none twice.  The run
is a history of the directory, in which the marker was written if a rebuild was asked for. -/
theorem sidecar_alive
    (hrun : Lives verificationInterval capacity config (fun _ _ => True) (.installed node) life) :
    (life.ready = true → life.workers = true ∧ life.node.store.isSome ∧
      life.phase ≠ .recovering ∧ life.marked = false) ∧
    life.handled.Pairwise (· < ·) ∧ (∀ i ∈ life.handled, i < life.settled) ∧
    (∀ pending, life.phase = .serving pending → life.workers = true ∧
      ∀ i, life.reconciledAt ≤ i → i < life.settled → i ∈ life.handled) ∧
    ∀ host, (Life.installed node).On host → ∃ host', HostRun host host' ∧ life.On host' := by
  obtain ⟨hsane, hcounted⟩ := hrun.alive
  refine ⟨fun hready => ?_, hcounted.ordered, hcounted.bounded, fun pending hphase => ⟨?_, ?_⟩,
    fun host => hrun.on⟩
  · obtain ⟨hworkers, hrecovering, hmarked⟩ := hsane.ready hready
    exact ⟨hworkers, hsane.initialized (.inl hworkers), hrecovering, hmarked⟩
  · have hfits := hsane.workers
    rwa [hphase] at hfits
  · exact hcounted.noneLost pending hphase

end Invariant

/-! ### A sidecar that comes up and handles a block -/

/-- A window of a hundred blocks. -/
def liveConfig : ProofHistoryConfig := ⟨100, 100, false⟩

/-- A chain of one block. -/
def startChain : CanonicalBlocks where
  root := genesis
  blocks := [block1]
  tip := block1.block
  leads := by decide

/-- A node that executed it. -/
def liveStartup : StartupNode := ⟨true, none, 1, none⟩

/-- The window that is stored is canonical, and served. -/
def servingLife : Life :=
  (Life.installed startNode).reconcile liveConfig liveStartup startChain none

lemma step_servingLife :
    LifeStep 0 16 liveConfig (.installed startNode) .tried servingLife :=
  .reconcile liveStartup startChain rfl rfl rfl

/-- A block is committed, received and handled. -/
def handledLife : Life :=
  { servingLife with
    node := { startNode with
      canonical := [block1, block2]
      store := some ⟨genesis, [block1, block2], block2.block⟩ }
    received := 1
    handled := [0] }

lemma lives_handledLife :
    Lives 0 16 liveConfig (fun _ _ => True) (.installed startNode) handledLife := by
  refine .head ⟨_, step_servingLife, trivial⟩ ?_
  have hcommit : Step 0 servingLife.node (.published (.commit (chainOf [block2]))) _ :=
    .commit (List.cons_ne_nil _ _) (show Leads genesis [block1] block1.block by decide)
      (show Leads block1.block [block2] block2.block by decide)
  refine .head ⟨_, .publish hcommit, trivial⟩ ?_
  refine .head ⟨_, .receive rfl (by decide) (.serving _), trivial⟩ ?_
  refine .head ⟨_, .handle .healthy rfl, trivial⟩ ?_
  exact .refl

/-- The block after the start was handled. -/
theorem sidecar_alive_handled :
    handledLife.ready = true ∧ handledLife.workers = true ∧
      ∀ i, handledLife.reconciledAt ≤ i → i < handledLife.settled → i ∈ handledLife.handled :=
  have halive := sidecar_alive lives_handledLife
  ⟨rfl, (halive.1 rfl).1, (halive.2.2.2.1 none rfl).2⟩

end AlethiaReth.ProofHistory
