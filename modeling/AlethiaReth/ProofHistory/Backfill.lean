import AlethiaReth.Lib.Loop

/-!
The backfill of the window below the earliest block: the loop ends, and no round of it oversteps
(`backfill_bounded`).
-/

namespace AlethiaReth.ProofHistory

variable (window chunkBlocks : ℕ)

/-- The failures of a backfill job, as they are shown. -/
inductive BackfillError where
  | stateRootMismatch (shown : String)
  | blockBodyPruned (shown : String)
  | other (shown : String)
  deriving DecidableEq, Repr

/-- How a backfill ends. -/
inductive ProofHistoryBackfill where
  | complete
  | waitForPersistedEarliest (earliest onDiskBest : ℕ)
  deriving DecidableEq, Repr

/-- What a round reads besides the earliest block. -/
structure BackfillReads where
  latest : ℕ
  onDiskBest : ℕ

/-- How far down the window reaches. -/
def BackfillReads.target (reads : BackfillReads) (window : ℕ) : ℕ :=
  max reads.latest reads.onDiskBest - window

/-- How a job ends: a failed one has prepended some blocks before. -/
inductive BackfillJobEnd where
  | done
  | failed (error : BackfillError) (prepended : ℕ)

/-- A round as the store and the persisted chain let it happen. -/
structure BackfillRound where
  reads : Except String BackfillReads
  job : BackfillJobEnd

/-- The text of an error. -/
def backfillError (error : BackfillError) : String :=
  match error with
  | .stateRootMismatch shown => "proof-history backfill failed: " ++ shown ++
      "; if reth pruned changesets inside the window, lower --proofs-history.window; " ++
      "otherwise delete the proof-history store files (mdbx.dat, mdbx.lck, database.version) " ++
      "and restart to rebuild it"
  | .blockBodyPruned shown => "proof-history backfill failed: " ++ shown ++
      "; the backfill window is set by --proofs-history.window"
  | .other shown => "proof-history backfill failed: " ++ shown

/-- What a round did: the earliest block before and after it, the target of its job, and what it
returned, if it ended the loop. -/
structure BackfillRecord where
  round : BackfillRound
  earliest : ℕ
  stored : ℕ
  chunkTarget : Option ℕ
  returned : Option (Except String ProofHistoryBackfill)

/-- One round, and the earliest block it goes on from. -/
def backfillRound (round : BackfillRound) (earliest : ℕ) :
    BackfillRecord × Option ℕ :=
  match round.reads with
  | .error e => (⟨round, earliest, earliest, none, some (.error e)⟩, none)
  | .ok reads =>
    let target := reads.target window
    if earliest ≤ target then
      (⟨round, earliest, earliest, none, some (.ok .complete)⟩, none)
    else if reads.onDiskBest < earliest then
      (⟨round, earliest, earliest, none,
        some (.ok (.waitForPersistedEarliest earliest reads.onDiskBest))⟩, none)
    else
      let chunkTarget := max target (earliest - max chunkBlocks 1)
      match round.job with
      | .done => (⟨round, earliest, chunkTarget, some chunkTarget, none⟩, some chunkTarget)
      | .failed e prepended =>
        (⟨round, earliest, max chunkTarget (earliest - prepended), some chunkTarget,
          some (.error (backfillError e))⟩, none)

/-- The rounds of the loop, as far as the fuel goes. -/
def backfillRecords (fuel : ℕ) (rounds : ℕ → BackfillRound) (earliest : ℕ) : List BackfillRecord :=
  Loop.records fuel (fun i earliest => some (backfillRound window chunkBlocks (rounds i) earliest))
    earliest

/-- The earliest block stored in the end, and what is returned; nothing if the fuel is too
little. -/
def backfillProofHistoryWindow (fuel : ℕ) (rounds : ℕ → BackfillRound) (earliest : ℕ) :
    Option (ℕ × Except String ProofHistoryBackfill) := do
  let last ← (backfillRecords window chunkBlocks fuel rounds earliest).getLast?
  let returned ← last.returned
  return (last.stored, returned)

/-- What a round may do. -/
structure BackfillRecord.Safe (window chunkBlocks : ℕ) (r : BackfillRecord) : Prop where
  /-- Only a job changes what is stored. -/
  frame : r.chunkTarget = none → r.stored = r.earliest
  /-- A job runs above the target, and on persisted blocks only. -/
  job : ∀ chunkTarget, r.chunkTarget = some chunkTarget → ∃ reads, r.round.reads = .ok reads ∧
    r.earliest ≤ reads.onDiskBest ∧ reads.target window ≤ r.stored ∧
    r.stored ≤ r.earliest ∧ r.earliest ≤ r.stored + max chunkBlocks 1 ∧
    (r.round.job = .done → r.stored = chunkTarget ∧ r.stored < r.earliest)
  complete : r.returned = some (.ok .complete) → r.chunkTarget = none ∧
    ∃ reads, r.round.reads = .ok reads ∧ r.earliest ≤ reads.target window
  wait : ∀ earliest onDiskBest,
    r.returned = some (.ok (.waitForPersistedEarliest earliest onDiskBest)) →
      r.chunkTarget = none ∧ earliest = r.earliest ∧
      ∃ reads, r.round.reads = .ok reads ∧ reads.onDiskBest = onDiskBest ∧ onDiskBest < earliest
  /-- While the persisted head is below the earliest block, no job runs. -/
  persisted : ∀ reads, r.round.reads = .ok reads → reads.onDiskBest < r.earliest →
    r.chunkTarget = none

/-- Rounds that returned nothing, and the block they left as the earliest. -/
structure Backfilled (earliest : ℕ) (before : List BackfillRecord) (stored : ℕ) : Prop where
  length_add_le : before.length + stored ≤ earliest
  returned : ∀ r ∈ before, r.returned = none
  stored_eq : stored = (before.getLast?.map (·.stored)).getD earliest

lemma Backfilled.start (earliest : ℕ) : Backfilled earliest [] earliest :=
  ⟨(Nat.zero_add _).le, nofun, rfl⟩

section Backfill

variable {window chunkBlocks earliest fuel : ℕ} {round : BackfillRound} {r : BackfillRecord}
  {next : Option ℕ} {before : List BackfillRecord}

/-- A round that returns nothing goes on from what it stored, and that is lower. -/
lemma backfillRound_next (h : backfillRound window chunkBlocks round earliest = (r, next)) :
    r.round = round ∧ r.earliest = earliest ∧ (next = none ∧ r.returned ≠ none ∨
      next = some r.stored ∧ r.returned = none ∧ r.stored < earliest) := by
  rw [backfillRound] at h
  split at h
  · cases h
    exact ⟨rfl, rfl, .inl ⟨rfl, nofun⟩⟩
  · dsimp only at h
    split_ifs at h with htarget
    · cases h
      exact ⟨rfl, rfl, .inl ⟨rfl, nofun⟩⟩
    · cases h
      exact ⟨rfl, rfl, .inl ⟨rfl, nofun⟩⟩
    · split at h
      · cases h
        refine ⟨rfl, rfl, .inr ⟨rfl, rfl, ?_⟩⟩
        dsimp only
        omega
      · cases h
        exact ⟨rfl, rfl, .inl ⟨rfl, nofun⟩⟩

/-- Whatever a round reads, it keeps to its bounds. -/
lemma backfillRound_safe (h : backfillRound window chunkBlocks round earliest = (r, next)) :
    r.Safe window chunkBlocks := by
  rw [backfillRound] at h
  split at h
  · cases h
    exact ⟨fun _ => rfl, nofun, nofun, nofun, fun _ _ _ => rfl⟩
  · next reads hreads =>
    dsimp only at h
    -- the target is reached, the chain is behind, or a chunk is written
    split_ifs at h with htarget hpersisted
    · cases h
      exact ⟨fun _ => rfl, nofun, fun _ => ⟨rfl, reads, hreads, htarget⟩, nofun,
        fun _ _ _ => rfl⟩
    · cases h
      refine ⟨fun _ => rfl, nofun, nofun, ?_, fun _ _ _ => rfl⟩
      rintro _ _ ⟨⟩
      exact ⟨rfl, rfl, reads, hreads, rfl, hpersisted⟩
    · have hnone {stored : BackfillReads} (hstored : round.reads = .ok stored) :
          ¬stored.onDiskBest < earliest := by
        rw [hreads] at hstored
        rwa [← Except.ok.inj hstored]
      split at h
      · cases h
        refine ⟨nofun, ?_, nofun, nofun, fun _ hstored hlt => absurd hlt (hnone hstored)⟩
        rintro _ ⟨⟩
        refine ⟨reads, hreads, not_lt.mp hpersisted, le_max_left _ _, ?_, ?_,
          fun _ => ⟨rfl, ?_⟩⟩
        all_goals
          dsimp only
          omega
      · next hjob =>
        cases h
        refine ⟨nofun, ?_, nofun, nofun, fun _ hstored hlt => absurd hlt (hnone hstored)⟩
        rintro _ ⟨⟩
        refine ⟨reads, hreads, not_lt.mp hpersisted,
          (le_max_left _ _).trans (le_max_left _ _), ?_, ?_, fun hdone => ?_⟩
        · dsimp only
          omega
        · dsimp only
          omega
        · rw [hjob] at hdone
          cases hdone

/-- With fuel for every block below the earliest one, the loop comes to a round that returns. -/
lemma backfillRecords_end (rounds : ℕ → BackfillRound) (hfuel : earliest < fuel) :
    ∃ init last, backfillRecords window chunkBlocks fuel rounds earliest = init ++ [last] ∧
      last.returned ≠ none := by
  have hlower : ∀ i s r next, True → some (backfillRound window chunkBlocks (rounds i) s) =
      some (r, next) → 0 < s + 1 ∧ ∀ s', next = some s' → True ∧ s' + 1 < s + 1 := by
    intro i s r next _ hstep
    refine ⟨Nat.succ_pos s, ?_⟩
    rintro s' rfl
    refine ⟨trivial, ?_⟩
    rcases (backfillRound_next (Option.some.inj hstep)).2.2 with ⟨h, -⟩ | ⟨h, -, hlt⟩
    · cases h
    · rw [Option.some.inj h]
      omega
  obtain ⟨hnil, hend⟩ := Loop.records_end (· + 1) hlower trivial hfuel
  rcases List.eq_nil_or_concat (backfillRecords window chunkBlocks fuel rounds earliest) with
    hrecords | ⟨init, last, hrecords⟩
  · cases hnil hrecords
  · rw [List.concat_eq_append] at hrecords
    obtain ⟨i, s, next, hstep, hover⟩ := hend init last hrecords
    refine ⟨init, last, hrecords, ?_⟩
    rcases (backfillRound_next (Option.some.inj hstep)).2.2 with ⟨-, h⟩ | ⟨h, -, -⟩
    · exact h
    · cases hover last.stored h

/-- A round that goes on leaves the loop one round further. -/
lemma Backfilled.snoc {s : ℕ} (h : Backfilled earliest before s)
    (hround : backfillRound window chunkBlocks round s = (r, next)) :
    ∀ s', next = some s' → Backfilled earliest (before ++ [r]) s' := by
  rintro s' rfl
  rcases (backfillRound_next hround).2.2 with ⟨hnone, -⟩ | ⟨hsome, hreturned, hlt⟩
  · cases hnone
  · obtain rfl := Option.some.inj hsome
    refine ⟨?_, ?_, ?_⟩
    · have := h.length_add_le
      rw [List.length_append, List.length_singleton]
      omega
    · rw [List.forall_mem_append, List.forall_mem_singleton]
      exact ⟨h.returned, hreturned⟩
    · rw [List.getLast?_concat]
      rfl

/-- A round of the loop reads in its turn, and starts where the rounds before it left the earliest
block. -/
lemma backfillRecords_rule {rounds : ℕ → BackfillRound} {after : List BackfillRecord}
    (heq : backfillRecords window chunkBlocks fuel rounds earliest = before ++ r :: after) :
    r.round = rounds before.length ∧ Backfilled earliest before r.earliest ∧
      r.Safe window chunkBlocks := by
  obtain ⟨s, next, hstep⟩ := Loop.step_of_records_eq heq
  refine ⟨(backfillRound_next (Option.some.inj hstep)).1, ?_⟩
  refine Loop.records_rule (I := Backfilled earliest)
    (P := fun before r => Backfilled earliest before r.earliest ∧ r.Safe window chunkBlocks)
    ?_ (Backfilled.start earliest) heq
  intro i before s r next hbefore hstep
  have hround := Option.some.inj hstep
  obtain ⟨-, rfl, -⟩ := backfillRound_next hround
  exact ⟨⟨hbefore, backfillRound_safe hround⟩, hbefore.snoc hround⟩

/-- The loop returns, after no more rounds than there are blocks below the earliest one, and the
one that returns.  Each round starts from the earliest block that the one before it stored and
keeps to its bounds. -/
theorem backfill_bounded (window chunkBlocks earliest fuel : ℕ) (rounds : ℕ → BackfillRound)
    (hfuel : earliest < fuel) :
    ∃ init last returned,
      backfillRecords window chunkBlocks fuel rounds earliest = init ++ [last] ∧
      init.length ≤ earliest ∧ last.returned = some returned ∧
      backfillProofHistoryWindow window chunkBlocks fuel rounds earliest =
        some (last.stored, returned) ∧
      ∀ before r after,
        backfillRecords window chunkBlocks fuel rounds earliest = before ++ r :: after →
          r.round = rounds before.length ∧ Backfilled earliest before r.earliest ∧
          r.Safe window chunkBlocks := by
  obtain ⟨init, last, hrecords, hreturned⟩ := backfillRecords_end rounds hfuel
  obtain ⟨returned, hreturned⟩ := Option.ne_none_iff_exists'.mp hreturned
  refine ⟨init, last, returned, hrecords, ?_, hreturned, ?_, fun before r after heq =>
    backfillRecords_rule heq⟩
  · have := (backfillRecords_rule hrecords).2.1.length_add_le
    omega
  · rw [backfillProofHistoryWindow, hrecords, List.getLast?_concat]
    simp only [Option.bind_eq_bind, Option.bind_some, hreturned]
    rfl

/-- The window of ten blocks is filled in chunks of four, while the chain grows. -/
theorem backfill_bounded_grows :
    (backfillProofHistoryWindow 10 4 21 (fun i => ⟨.ok ⟨20, 20 + i⟩, .done⟩) 20 =
      some (12, .ok .complete)) ∧
    ∃ init last returned,
      backfillRecords 10 4 21 (fun i => ⟨.ok ⟨20, 20 + i⟩, .done⟩) 20 = init ++ [last] ∧
      init.length ≤ 20 ∧ last.returned = some returned :=
  have ⟨init, last, returned, hrecords, hlength, hreturned, _⟩ :=
    backfill_bounded 10 4 20 21 (fun i => ⟨.ok ⟨20, 20 + i⟩, .done⟩) (by decide)
  ⟨by decide, init, last, returned, hrecords, hlength, hreturned⟩

end Backfill

end AlethiaReth.ProofHistory
