import AlethiaReth.ProofHistory.Backfill
import AlethiaReth.ProofHistory.Reconcile
import AlethiaReth.ProofHistory.System

/-!
The life of the sidecar: it subscribes, reconciles, fills the window, spawns its two workers,
handles notifications, and reconciles again when it lagged behind them.
-/

namespace AlethiaReth.ProofHistory

open Run

/-! ### Pruning and prepending -/

/-- The pruner drops the lowest blocks, and none that is within the retention of the latest.  It
commits in batches, so it may end anywhere below its target. -/
structure Prunes (retention : ℕ) (window window' : ProofWindow) : Prop where
  latest : window'.latest = window.latest
  dropped : ∃ below, window.blocks = below ++ window'.blocks ∧
    window'.earliest = (below.getLast?.map (·.block)).getD window.earliest ∧
    ∀ block ∈ below, block.block.number ≤ window.latest.number - retention

/-- The blocks that one read transaction of a backfill serves. -/
def backfillChunkBlocks : ℕ := 2000

/-- A backfill puts blocks below the earliest one. -/
structure Prepends (window window' : ProofWindow) : Prop where
  latest : window'.latest = window.latest
  stored : ∃ below, window'.blocks = below ++ window.blocks ∧
    Leads window'.earliest below window.earliest

lemma Prepends.linked {window window' : ProofWindow} (h : Prepends window window')
    (hlinked : window.Linked) : window'.Linked := by
  obtain ⟨below, hblocks, hbelow⟩ := h.stored
  rw [ProofWindow.Linked, hblocks, h.latest]
  exact links_append.mpr ⟨_, hbelow, hlinked⟩

lemma Prunes.linked {retention : ℕ} {window window' : ProofWindow}
    (h : Prunes retention window window') (hlinked : window.Linked) : window'.Linked := by
  obtain ⟨below, hblocks, hearliest, -⟩ := h.dropped
  rw [ProofWindow.Linked, hblocks] at hlinked
  rw [ProofWindow.Linked, h.latest, hearliest]
  rcases below.eq_nil_or_concat with rfl | ⟨dropped, last, rfl⟩
  · exact hlinked
  · rw [List.concat_eq_append] at hlinked
    obtain ⟨middle, hbelow, hrest⟩ := links_append.mp hlinked
    obtain ⟨_, -, -, rfl⟩ := links_append.mp hbelow
    rwa [List.concat_eq_append, List.getLast?_concat]

/-! ### The sidecar -/

/-- Where the task of the sidecar is. -/
inductive Phase where
  /-- In `try_start`; a notification that was received waits for how it ends. -/
  | starting (pending : Option CanonStateNotification)
  | backfilling (pending : Option CanonStateNotification)
  /-- There are no workers; a notification or the retry tick is next. -/
  | idle
  /-- The workers run; a notification that was received is handled next. -/
  | serving (pending : Option CanonStateNotification)
  /-- The receiver lagged and was replaced; the write lock is next. -/
  | lagged
  | recovering
  | stopped

/-- The notification that is next. -/
def Phase.pending : Phase → Option CanonStateNotification
  | .starting pending => pending
  | .backfilling pending => pending
  | .serving pending => pending
  | _ => none

/-- The sidecar and its node. -/
structure Life where
  node : Node
  phase : Phase
  /-- The flag that the RPC layer reads. -/
  ready : Bool
  workers : Bool
  /-- The file that asks for a rebuild was written. -/
  marked : Bool
  /-- How many notifications left the channel, received or lost. -/
  received : ℕ
  /-- How many there had been when the last reconciliation read the chain. -/
  reconciledAt : ℕ
  /-- The positions of the notifications that were handled. -/
  handled : List ℕ

namespace Life

variable (life : Life)

/-- A node on which the sidecar was installed; its task has subscribed. -/
def installed (node : Node) : Life :=
  ⟨{ node with queue := [] }, .starting none, false, false, false, 0, 0, []⟩

/-- How many notifications there were. -/
def published : ℕ := life.received + life.node.queue.length

/-- How many notifications were dealt with. -/
def settled : ℕ := life.received - life.phase.pending.toList.length

/-- The flag is set and the workers are spawned. -/
def start (life : Life) (pending : Option CanonStateNotification) : Life :=
  { life with ready := true, workers := true, phase := .serving pending }

/-- What is stored after a reconciliation that read the chain now. -/
def reconciled (store : Option ProofWindow) : Life :=
  { life with node := { life.node with store }, reconciledAt := life.published }

/-- The task ends with an error. -/
def fail (marks : Bool) : Life :=
  { life with phase := .stopped, marked := life.marked || marks }

/-- The error says that the marker was written. -/
def marks : ReconcileError → Bool
  | .rebuildRequested _ marked => marked
  | _ => false

/-- The first part of `try_start`. -/
def reconcile (life : Life) (config : ProofHistoryConfig) (startup : StartupNode)
    (chain : CanonicalBlocks) (pending : Option CanonStateNotification) : Life :=
  let (store, result) := reconcileOrWait config startup chain life.node.store
  let life := life.reconciled store
  match result with
  | .error e => life.fail (marks e)
  | .ok false => { life with phase := .idle }
  | .ok true =>
    if config.backfillWindowOnly then { life with phase := .backfilling pending }
    else life.start pending

/-- The sidecar with another window. -/
def stored (window : ProofWindow) : Life :=
  { life with node := { life.node with store := some window } }

/-- The end of `try_start`, after a backfill.  One that failed looks once more whether the
earliest block was replaced. -/
def backfilled (writable : Bool) (chain : CanonicalBlocks) (pending : Option CanonStateNotification)
    (window : ProofWindow) (returned : Except String ProofHistoryBackfill) : Life :=
  let life := life.stored window
  match returned with
  | .ok .complete => life.start pending
  | .ok (.waitForPersistedEarliest _ _) => { life with phase := .idle }
  | .error _ =>
    match startupAction chain (some window) with
    | .ok (.rebuildRequired _) => life.fail writable
    | _ => life.fail false

/-- The section of `recover_from_lag`, with the flag cleared. -/
def recover (config : ProofHistoryConfig) (startup : StartupNode) (chain : CanonicalBlocks) :
    Life :=
  let (store, result) := reconcileOrWait config startup chain life.node.store
  let life := life.reconciled store
  match result with
  | .error e => life.fail (marks e)
  | .ok false => life.fail false
  | .ok true => { life with ready := true, phase := .serving none }

/-- Handles a notification. -/
def handle (life : Life) (verificationInterval : ℕ) (faults : Faults)
    (notification : CanonStateNotification) : Life :=
  let node := life.node.handle verificationInterval faults notification life.node.queue
  { life with
    node
    phase := if node.stopped.isNone then .serving none else .stopped
    handled := life.handled ++ [life.received - 1] }

end Life

/-- What the task does with the next notification, or with having lagged. -/
inductive Receives : Phase → Option CanonStateNotification → Phase → Prop
  | idle (notification : Option CanonStateNotification) :
      Receives .idle notification (.starting notification)
  | serving (notification : CanonStateNotification) :
      Receives (.serving none) (some notification) (.serving (some notification))
  | lagged : Receives (.serving none) none .lagged

/-- What happened to the sidecar. -/
inductive LifeEvent where
  | published
  | worked
  | received
  | tried
  | locked
  | recovered
  | handled (notification : CanonStateNotification) (faults : Faults)
  | stopped

section Steps

variable (verificationInterval capacity : ℕ) (config : ProofHistoryConfig)

/-- One step of the sidecar's task, of a worker, or of the canonical chain.  The workers and the
sections of the task take turns under the write lock, which a recovery holds. -/
inductive LifeStep : Life → LifeEvent → Life → Prop
  | publish {life : Life} {node : Node} {notification : CanonStateNotification}
      (hstep : Step verificationInterval life.node (.published notification) node) :
      LifeStep life .published { life with node }
  | sync {life : Life} (faults : Faults) (executedHead : ℕ) (hworkers : life.workers = true)
      (hlock : life.phase ≠ .recovering) :
      LifeStep life .worked { life with node := life.node.sync faults executedHead }
  | prune {life : Life} {window window' : ProofWindow} (hworkers : life.workers = true)
      (hlock : life.phase ≠ .recovering) (hwindow : life.node.store = some window)
      (hprunes : Prunes config.window window window') :
      LifeStep life .worked (life.stored window')
  | retry {life : Life} (hphase : life.phase = .idle) :
      LifeStep life .received { life with phase := .starting none }
  | receive {life : Life} {notification : CanonStateNotification}
      {rest : List CanonStateNotification} {phase : Phase}
      (hqueue : life.node.queue = notification :: rest)
      (hlength : life.node.queue.length ≤ capacity)
      (hphase : Receives life.phase (some notification) phase) :
      LifeStep life .received
        { life with
          node := { life.node with queue := rest }
          received := life.received + 1
          phase }
  | lag {life : Life} {phase : Phase} (hlagged : capacity < life.node.queue.length)
      (hphase : Receives life.phase none phase) :
      LifeStep life .received
        { life with
          node := { life.node with queue := [] }
          received := life.published
          phase }
  | reconcile {life : Life} {pending : Option CanonStateNotification} (startup : StartupNode)
      (chain : CanonicalBlocks) (hphase : life.phase = .starting pending)
      (hroot : chain.root = life.node.root) (hblocks : chain.blocks = life.node.canonical) :
      LifeStep life .tried (life.reconcile config startup chain pending)
  | backfill {life : Life} {pending : Option CanonStateNotification} {window window' : ProofWindow}
      {fuel : ℕ} {rounds : ℕ → BackfillRound} {returned : Except String ProofHistoryBackfill}
      (hphase : life.phase = .backfilling pending) (hwindow : life.node.store = some window)
      (hbackfill : backfillProofHistoryWindow config.window backfillChunkBlocks fuel rounds
        window.earliest.number = some (window'.earliest.number, returned))
      (hprepends : Prepends window window') (writable : Bool) (chain : CanonicalBlocks) :
      LifeStep life .tried (life.backfilled writable chain pending window' returned)
  | lock {life : Life} (hphase : life.phase = .lagged) :
      LifeStep life .locked { life with ready := false, phase := .recovering }
  | recover {life : Life} (startup : StartupNode) (chain : CanonicalBlocks)
      (hphase : life.phase = .recovering) (hroot : chain.root = life.node.root)
      (hblocks : chain.blocks = life.node.canonical) :
      LifeStep life .recovered (life.recover config startup chain)
  | handle {life : Life} {notification : CanonStateNotification} (faults : Faults)
      (hphase : life.phase = .serving (some notification)) :
      LifeStep life (.handled notification faults)
        (life.handle verificationInterval faults notification)
  | shutdown (life : Life) :
      LifeStep life .stopped { life with phase := .stopped }

/-- The runs of a sidecar in which every step is one that is allowed. -/
def Lives (Allowed : Life → LifeEvent → Prop) : Life → Life → Prop :=
  Relation.ReflTransGen fun life life' =>
    ∃ event, LifeStep verificationInterval capacity config life event life' ∧ Allowed life event

end Steps

/-! ### What a reconciliation leaves -/

section Reconcile

variable {config : ProofHistoryConfig} {startup : StartupNode} {chain : CanonicalBlocks}
  {store : Option ProofWindow} {window : ProofWindow} {result : Except ReconcileError Bool}
  {store' : Option ProofWindow}

/-- Stored blocks are left as they are, or cut down to the earliest one, which is canonical then;
and the answer is that the sidecar may go on only if both ends are canonical. -/
lemma reconcileOrWait_stored (hlinked : window.Linked)
    (h : reconcileOrWait config startup chain (some window) = (store, result)) :
    (store = some window ∧ (result = .ok true →
      window.earliest ∈ chain.labels ∧ window.latest ∈ chain.labels)) ∨
    store = some ⟨window.earliest, [], window.earliest⟩ ∧ window.earliest ∈ chain.labels := by
  rw [reconcileOrWait] at h
  rcases @startupAction_cases chain window hlinked with ⟨-, -, haction⟩ | ⟨-, haction⟩ |
    ⟨-, -, haction⟩ | ⟨hearliest, hlatest, haction⟩ | ⟨hearliest, -, hdiverges, haction⟩
  · rw [haction] at h
    cases h
    exact .inl ⟨rfl, fun h => by cases h⟩
  · rw [haction] at h
    cases h
    exact .inl ⟨rfl, fun h => by cases h⟩
  · rw [haction] at h
    cases h
    exact .inl ⟨rfl, fun h => by cases h⟩
  · rw [haction] at h
    cases h
    exact .inl ⟨rfl, fun _ => ⟨hearliest, hlatest⟩⟩
  · rw [haction] at h
    dsimp only at h
    split at h
    · cases h
      exact .inl ⟨rfl, fun h => by cases h⟩
    · next hunwind =>
      cases h
      exact .inr ⟨unwindToEarliest_eq_ok hlinked hearliest hdiverges hunwind, hearliest⟩

/-- Empty storage stays empty, or is initialized at the anchor. -/
lemma reconcileOrWait_empty_cases
    (h : reconcileOrWait config startup chain none = (store, result)) :
    (store = none ∧ result ≠ .ok true) ∨
      ∃ anchor, startup.anchor = some anchor ∧ store = some ⟨anchor, [], anchor⟩ := by
  have hfill : reconcileOrWait config startup chain none =
    initializeOrWait config startup none := rfl
  rw [hfill, initializeOrWait] at h
  split_ifs at h
  · cases h
    exact .inl ⟨rfl, by rintro ⟨⟩⟩
  · split at h
    · cases h
      exact .inl ⟨rfl, by rintro ⟨⟩⟩
    · next anchor hanchor =>
      cases h
      exact .inr ⟨anchor, hanchor, rfl⟩

lemma reconcileOrWait_linked (hlinked : ∀ window ∈ store, window.Linked)
    (h : reconcileOrWait config startup chain store = (store', result)) :
    ∀ window ∈ store', window.Linked := by
  cases store with
  | none =>
    rcases reconcileOrWait_empty_cases h with ⟨rfl, -⟩ | ⟨anchor, -, rfl⟩
    · rintro window ⟨⟩
    · rintro window ⟨⟩
      exact rfl
  | some window =>
    rcases reconcileOrWait_stored (hlinked window rfl) h with ⟨rfl, -⟩ | ⟨rfl, -⟩
    · exact hlinked
    · rintro window ⟨⟩
      exact rfl

lemma unwindToEarliest_isSome {earliest : BlockNumHash}
    (h : unwindToEarliest chain earliest (some window) = .ok store) : store.isSome := by
  rw [unwindToEarliest] at h
  split_ifs at h
  · cases h
    rfl
  · split at h
    · cases h
    · split at h
      · cases h
        rfl
      · cases h

/-- Storage stays initialized, and the sidecar goes on only if it is. -/
lemma reconcileOrWait_isSome (h : reconcileOrWait config startup chain store = (store', result))
    (hsome : store.isSome ∨ result = .ok true) : store'.isSome := by
  cases store with
  | none =>
    rcases reconcileOrWait_empty_cases h with ⟨-, hresult⟩ | ⟨anchor, -, rfl⟩
    · rcases hsome with hsome | hsome
      · cases hsome
      · exact absurd hsome hresult
    · rfl
  | some window =>
    rw [reconcileOrWait] at h
    split at h
    any_goals
      cases h
      rfl
    split at h
    · cases h
      rfl
    · next hunwind =>
      cases h
      exact unwindToEarliest_isSome hunwind

end Reconcile

/-! ### The ways a section ends -/

namespace Life

variable (life : Life) (config : ProofHistoryConfig) (startup : StartupNode)
  (chain : CanonicalBlocks)

lemma reconcile_cases (pending : Option CanonStateNotification) :
    ∃ store result, reconcileOrWait config startup chain life.node.store = (store, result) ∧
      ((∃ e, result = .error e ∧
        life.reconcile config startup chain pending = (life.reconciled store).fail (marks e)) ∨
      result = .ok false ∧ life.reconcile config startup chain pending =
        { life.reconciled store with phase := .idle } ∨
      result = .ok true ∧ (life.reconcile config startup chain pending =
          { life.reconciled store with phase := .backfilling pending } ∨
        life.reconcile config startup chain pending = (life.reconciled store).start pending)) := by
  rcases h : reconcileOrWait config startup chain life.node.store with ⟨store, result⟩
  refine ⟨store, result, rfl, ?_⟩
  rw [reconcile, h]
  rcases result with e | _ | _
  · exact .inl ⟨e, rfl, rfl⟩
  · exact .inr (.inl ⟨rfl, rfl⟩)
  · refine .inr (.inr ⟨rfl, ?_⟩)
    dsimp only
    split_ifs
    · exact .inl rfl
    · exact .inr rfl

lemma backfilled_cases (writable : Bool) (chain : CanonicalBlocks)
    (pending : Option CanonStateNotification) (window : ProofWindow)
    (returned : Except String ProofHistoryBackfill) :
    life.backfilled writable chain pending window returned = (life.stored window).start pending ∨
      life.backfilled writable chain pending window returned =
        { life.stored window with phase := .idle } ∨
      ∃ marks, (marks = true →
          ∃ earliest, startupAction chain (some window) = .ok (.rebuildRequired earliest)) ∧
        life.backfilled writable chain pending window returned =
          (life.stored window).fail marks := by
  rcases returned with e | _ | _
  · refine .inr (.inr ?_)
    have hbackfilled : life.backfilled writable chain pending window (.error e) =
        match startupAction chain (some window) with
        | .ok (.rebuildRequired _) => (life.stored window).fail writable
        | _ => (life.stored window).fail false := rfl
    rw [hbackfilled]
    split
    · next earliest haction => exact ⟨writable, fun _ => ⟨earliest, haction⟩, rfl⟩
    · exact ⟨false, by rintro ⟨⟩, rfl⟩
  · exact .inl rfl
  · exact .inr (.inl rfl)

lemma marks_eq_true {e : ReconcileError} :
    marks e = true ↔ ∃ earliest, e = .rebuildRequested earliest true := by
  constructor
  · intro h
    cases e with
    | rebuildRequested earliest marked => exact ⟨earliest, congrArg _ h⟩
    | _ => cases h
  · rintro ⟨earliest, rfl⟩
    rfl

lemma recover_cases :
    ∃ store result, reconcileOrWait config startup chain life.node.store = (store, result) ∧
      ((∃ marks, (marks = true ↔ ∃ earliest, result = .error (.rebuildRequested earliest true)) ∧
        life.recover config startup chain = (life.reconciled store).fail marks) ∨
      result = .ok true ∧ life.recover config startup chain =
        { life.reconciled store with ready := true, phase := .serving none }) := by
  rcases h : reconcileOrWait config startup chain life.node.store with ⟨store, result⟩
  refine ⟨store, result, rfl, ?_⟩
  rw [recover, h]
  rcases result with e | _ | _
  · refine .inl ⟨marks e, ?_, rfl⟩
    simp only [marks_eq_true, Except.error.injEq]
  · exact .inl ⟨false, iff_of_false Bool.false_ne_true (by rintro ⟨_, ⟨⟩⟩), rfl⟩
  · exact .inr ⟨rfl, rfl⟩

lemma handle_cases (verificationInterval : ℕ) (faults : Faults)
    (notification : CanonStateNotification) :
    let node := life.node.handle verificationInterval faults notification life.node.queue
    let handled := life.handled ++ [life.received - 1]
    life.handle verificationInterval faults notification =
        { life with node, handled, phase := .serving none } ∧ node.stopped = none ∨
      life.handle verificationInterval faults notification =
        { life with node, handled, phase := .stopped } := by
  intro node handled
  have hhandle : life.handle verificationInterval faults notification =
    { life with node, handled, phase := if node.stopped.isNone then .serving none else .stopped } :=
    rfl
  rw [hhandle]
  split_ifs with h
  · exact .inl ⟨rfl, Option.isNone_iff_eq_none.mp h⟩
  · exact .inr rfl

end Life

end AlethiaReth.ProofHistory
