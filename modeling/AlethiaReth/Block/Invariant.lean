import AlethiaReth.ZkGas.Refinement
import AlethiaReth.Evm.Transfer
import AlethiaReth.Block.Bracket

/-!
The accounting of a block over whole runs of its executor: reservations, transactions committed,
declined or failed, and cleared exhaustions, in any order.

* `apply_spec`, `run_accounts`: the invariant `Accounts`, over a step and over a run.
* `zkGasMeter_refines_ideal`: the meter of every run is the ideal budget, so the
  commit never reaches its unreachable branch.
* `executor_accounting`: the accounts of every run of a fresh executor.
-/

namespace AlethiaReth

open MachineInt Outcome Run

namespace TaikoBlockExecutor

/-! ### The meter under the executor -/

variable {checks : OverflowChecks} {e₀ e e' : TaikoBlockExecutor}

/-- The machine meter refines the ideal meter over every sequence of operations:
the same answers and counts, three counters that make up the limit, charges that
succeed exactly when they fit, failures without effect, and commits that always
succeed, so that the executor's commit never panics. -/
theorem zkGasMeter_refines_ideal (schedule : ZkGasSchedule) (ops : List ZkGasMeter.Op) :
    let machine := Run.run ZkGasMeter.apply (.new schedule) ops
    let ideal := Run.run (ZkGasMeter.idealApply schedule) (.empty schedule.blockLimit.toNat) ops
    let m := machine.2
    (machine.1 = ideal.1 ∧ m.blockZkGasUsed.toNat = ideal.2.settled ∧
      m.txZkGasUsed.toNat = ideal.2.pending ∧ m.remainingZkGas.toNat = ideal.2.remaining) ∧
    m.blockZkGasUsed.toNat + m.txZkGasUsed.toNat + m.remainingZkGas.toNat
      = schedule.blockLimit.toNat ∧
    (∀ op charge, ZkGasMeter.Op.charge? schedule op = some charge →
      ((m.apply op).1 = .ok () ↔
        charge ≤ schedule.blockLimit.toNat - m.blockZkGasUsed.toNat - m.txZkGasUsed.toNat)) ∧
    (∀ op, (m.apply op).1 ≠ .ok () → (m.apply op).2 = m) ∧
    m.commitTransaction.1 = .ok () ∧ m.commitWouldExceedBlockLimit = false ∧
    ∀ e : TaikoBlockExecutor, e.evm.meter = some m →
      ∃ e', e.commitCurrentTransactionZkGas = .ok e' := by
  intro machine ideal m
  obtain ⟨hanswers, hmeters⟩ := ZkGasMeter.run_refines schedule ops
  have hbalanced : m.Balanced := hmeters.balanced
  have hsum := hbalanced
  rw [ZkGasMeter.Balanced, hmeters.schedule_eq] at hsum
  refine ⟨⟨hanswers, hmeters.block_eq, hmeters.tx_eq, hmeters.remaining_eq⟩, hsum, ?_, ?_, ?_,
    ZkGasMeter.commitWouldExceedBlockLimit_of_balanced hbalanced, ?_⟩
  · intro op charge hcharge
    exact ZkGasMeter.apply_charge_ok_iff hmeters hcharge
  · intro op hfailed
    exact (m.apply_okOrSame op).resolve_left hfailed
  · rw [ZkGasMeter.commitTransaction_of_balanced hbalanced]
  · intro e he
    have hb : MeterBalanced e := by
      intro m' hm'
      rw [he] at hm'
      cases hm'
      exact hbalanced
    obtain ⟨evm, ctx, hcommit, -⟩ := commitCurrentTransactionZkGas_spec hb
    exact ⟨_, hcommit⟩

/-! ### Operations and events -/

/-- The operations of a running executor.  A transaction comes with the condition
under which its result is committed. -/
inductive Op where
  | reserveBlockZkGas (amount : U64)
  | executeTransaction (tx : Recovered) (shouldCommit : EthTxResult → Bool)
  | clearZkGasExhaustion

/-- What an operation reports.  A commit reports the gas and the zk gas of its
transaction. -/
inductive Event where
  | reserved (amount : U64)
  | notReserved (error : BlockExecutionError)
  | committed (gasUsed zkGas : U64)
  | declined
  | failed (error : BlockExecutionError)
  | cleared

variable (events events' : List Event)

/-- The zk gas of a transaction: the in-flight total, intrinsic charge included,
when its first half has succeeded. -/
def transactionZkGas (revm : Revm) (checks : OverflowChecks) (e : TaikoBlockExecutor)
    (tx : Recovered) : U64 :=
  match e.executeTransactionWithoutCommit revm checks tx with
  | .ok (.ok _, e') => (e'.evm.meter.map (·.txZkGasUsed)).getD 0
  | _ => 0

/-- The report of an execution, given the zk gas of its transaction. -/
def executionEvent (zkGas : U64) : Except BlockExecutionError (Option U64) → Event
  | .error error => .failed error
  | .ok none => .declined
  | .ok (some gasUsed) => .committed gasUsed zkGas

/-- One operation. -/
def apply (revm : Revm) (checks : OverflowChecks) (e : TaikoBlockExecutor) :
    Op → Except Panic (Event × TaikoBlockExecutor)
  | .reserveBlockZkGas amount =>
    match e.reserveBlockZkGas amount with
    | (.ok (), e) => .ok (.reserved amount, e)
    | (.error error, e) => .ok (.notReserved error, e)
  | .executeTransaction tx shouldCommit => do
    let (answer, e') ← e.executeTransactionWithCommitCondition revm checks tx shouldCommit
    pure (executionEvent (e.transactionZkGas revm checks tx) answer, e')
  | .clearZkGasExhaustion => .ok (.cleared, e.clearZkGasExhaustion)

/-! ### What the events say -/

/-- The gas of the committed transactions, in order. -/
def gasCommitted : List Event → List ℕ
  | [] => []
  | .committed gasUsed _ :: events => gasUsed.toNat :: gasCommitted events
  | _ :: events => gasCommitted events

/-- The zk gas finalized by reservations and commits. -/
def zkGasFinalized : List Event → ℕ
  | [] => 0
  | .reserved amount :: events => amount.toNat + zkGasFinalized events
  | .committed _ zkGas :: events => zkGas.toNat + zkGasFinalized events
  | _ :: events => zkGasFinalized events

/-- Whether a transaction overflowed the zk gas budget since the last clear, given
whether one had before. -/
def overflowed : Bool → List Event → Bool
  | before, [] => before
  | before, .failed error :: events => overflowed (before || isZkGasLimitExceeded error) events
  | _, .cleared :: events => overflowed false events
  | before, _ :: events => overflowed before events

/-- The running sums of a list, the cumulative gas of receipts. -/
def runningSums (gas : List ℕ) : List ℕ := (gas.inits.tail.map List.sum)

lemma gasCommitted_append :
    gasCommitted (events ++ events') = gasCommitted events ++ gasCommitted events' := by
  induction events with
  | nil => rfl
  | cons event events ih => cases event <;> simp [gasCommitted, ih]

lemma zkGasFinalized_append :
    zkGasFinalized (events ++ events') = zkGasFinalized events + zkGasFinalized events' := by
  induction events with
  | nil => simp [zkGasFinalized]
  | cons event events ih => cases event <;> simp [zkGasFinalized, ih] <;> omega

lemma overflowed_append (before : Bool) (events events' : List Event) :
    overflowed before (events ++ events') = overflowed (overflowed before events) events' := by
  induction events generalizing before with
  | nil => rfl
  | cons event events ih => cases event <;> simp [overflowed, ih]

lemma runningSums_append_singleton (gas : List ℕ) (g : ℕ) :
    runningSums (gas ++ [g]) = runningSums gas ++ [gas.sum + g] := by
  have hne : gas.inits ≠ [] := by cases gas <;> simp
  simp [runningSums, List.inits_append, List.tail_append_of_ne_nil hne]

/-! ### The invariant -/

/-- The books of a block that started as `e₀`: gas, receipts, zk gas and exhaustion
are what the events so far say. -/
structure Accounts (e₀ : TaikoBlockExecutor) (events : List Event) (e : TaikoBlockExecutor) :
    Prop where
  owns : OwnsEvm e
  balanced : MeterBalanced e
  published : e.Published
  block : e.evm.block = e₀.evm.block
  schedule : e.evm.meter.map (·.schedule) = e₀.evm.meter.map (·.schedule)
  gasUsed : e.gasUsed.toNat = (gasCommitted events).sum
  withinLimit : e.gasUsed.toNat ≤ e.evm.block.gasLimit.toNat
  receipts : e.receipts.map (·.cumulativeGasUsed.toNat) = runningSums (gasCommitted events)
  zkGas : ∀ m, e.evm.meter = some m → m.blockZkGasUsed.toNat = zkGasFinalized events
  exhausted : e.zkGasExhausted = overflowed false events
  ordered : ∀ before after gasUsed zkGas,
    events = before ++ .committed gasUsed zkGas :: after → overflowed false before = false
  intrinsic : ∀ m gasUsed zkGas, e.evm.meter = some m → .committed gasUsed zkGas ∈ events →
    m.schedule.txIntrinsicZkGas.toNat ≤ zkGas.toNat

/-- An event that is no commit adds none. -/
lemma ordered_append {events : List Event} {event : Event} (hordered : ∀ before after gasUsed zkGas,
      events = before ++ .committed gasUsed zkGas :: after → overflowed false before = false)
    (hlast : ∀ gasUsed zkGas, event = .committed gasUsed zkGas → overflowed false events = false) :
    ∀ before after gasUsed zkGas,
      events ++ [event] = before ++ .committed gasUsed zkGas :: after →
        overflowed false before = false := by
  intro before after gasUsed zkGas heq
  rcases List.eq_nil_or_concat after with rfl | ⟨after, last, rfl⟩
  · obtain ⟨rfl, hevent⟩ := List.append_inj' heq rfl
    exact hlast gasUsed zkGas (List.singleton_inj.mp hevent)
  · rw [List.concat_eq_append, ← List.cons_append, ← List.append_assoc] at heq
    obtain ⟨heq, -⟩ := List.append_inj' heq rfl
    exact hordered before after gasUsed zkGas heq

/-- An operation that keeps the block keeps its books, under an event that reports
neither gas nor zk gas. -/
lemma Accounts.of_kept {events : List Event} {event : Event} (h : Accounts e₀ events e)
    (hkept : Kept e e') (hgas : gasCommitted [event] = []) (hzk : zkGasFinalized [event] = 0)
    (hexhausted : e'.zkGasExhausted = overflowed e.zkGasExhausted [event]) :
    Accounts e₀ (events ++ [event]) e' := by
  have hnot : ∀ gasUsed zkGas, event ≠ .committed gasUsed zkGas := by
    rintro gasUsed zkGas rfl
    simp [gasCommitted] at hgas
  have hmeter : ∀ m', e'.evm.meter = some m' → ∃ m, e.evm.meter = some m ∧
      m'.schedule = m.schedule ∧ m'.blockZkGasUsed = m.blockZkGasUsed := by
    intro m' hm'
    have hmk := hkept.meter
    rw [hm'] at hmk
    obtain ⟨m, hm, hschedule, hblock, -⟩ := hmk.exists_of_some
    exact ⟨m, hm, hschedule, hblock⟩
  have hevents : gasCommitted (events ++ [event]) = gasCommitted events := by
    rw [gasCommitted_append, hgas, List.append_nil]
  have hsame := hkept.same
  refine ⟨hkept.owns h.owns, hkept.balanced h.balanced, hkept.published h.published, ?_, ?_, ?_, ?_,
    ?_, ?_, ?_, ordered_append h.ordered fun g z hg => absurd hg (hnot g z), ?_⟩
  · rw [hsame]
    exact h.block
  · rw [← h.schedule, hkept.meter.schedule_eq]
  · rw [hevents, hsame]
    exact h.gasUsed
  · rw [hsame]
    exact h.withinLimit
  · rw [hevents, hsame]
    exact h.receipts
  · intro m' hm'
    obtain ⟨m, hm, -, hblock⟩ := hmeter m' hm'
    rw [zkGasFinalized_append, hzk, hblock, h.zkGas m hm, Nat.add_zero]
  · rw [hexhausted, overflowed_append, h.exhausted]
  · intro m' g z hm' hmem
    obtain ⟨m, hm, hschedule, -⟩ := hmeter m' hm'
    rcases List.mem_append.mp hmem with hmem | hmem
    · rw [hschedule]
      exact h.intrinsic m g z hm hmem
    · exact absurd (List.mem_singleton.mp hmem).symm (hnot g z)

/-- A reservation is booked as finalized zk gas. -/
lemma Accounts.of_reserved {events : List Event} {amount : U64} (h : Accounts e₀ events e)
    (hreserved : ReservedBy amount e e') :
    Accounts e₀ (events ++ [.reserved amount]) e' := by
  have hevents : gasCommitted (events ++ [.reserved amount]) = gasCommitted events := by
    rw [gasCommitted_append]
    exact List.append_nil _
  -- only the meter differs
  have hmeter : ∀ m', e'.evm.meter = some m' → ∃ m, e.evm.meter = some m ∧
      reservedMeter amount m = m' := by
    intro m' hm'
    rw [hreserved.meter] at hm'
    exact Option.map_eq_some_iff.mp hm'
  have hsame := hreserved.same
  refine ⟨?_, ?_, hreserved.published, ?_, ?_, ?_, ?_, ?_, ?_, ?_, ?_, ?_⟩
  · rw [hsame]
    exact ⟨h.owns.reset, h.owns.derive⟩
  · intro m' hm'
    obtain ⟨m, hm, rfl⟩ := hmeter m' hm'
    exact (reservedMeter_spec (h.balanced m hm) (hreserved.fits m hm)).1
  · rw [hsame]
    exact h.block
  · rw [← h.schedule, hreserved.meter, Option.map_map]
    rfl
  · rw [hevents, hsame]
    exact h.gasUsed
  · rw [hsame]
    exact h.withinLimit
  · rw [hevents, hsame]
    exact h.receipts
  · intro m' hm'
    obtain ⟨m, hm, rfl⟩ := hmeter m' hm'
    rw [(reservedMeter_spec (h.balanced m hm) (hreserved.fits m hm)).2, h.zkGas m hm,
      zkGasFinalized_append]
    rfl
  · rw [overflowed_append, ← h.exhausted, hsame]
    rfl
  · exact ordered_append h.ordered fun g z hg => by cases hg
  · intro m' g z hm' hmem
    obtain ⟨m, hm, rfl⟩ := hmeter m' hm'
    rcases List.mem_append.mp hmem with hmem | hmem
    · exact h.intrinsic m g z hm hmem
    · cases List.mem_singleton.mp hmem

/-- A commit is booked with the gas and the zk gas of its transaction. -/
lemma Accounts.of_committed {e₁ : TaikoBlockExecutor} {events : List Event} {tx : Recovered}
    {output : EthTxResult} (h : Accounts e₀ events e)
    (hspec : WithoutCommitSpec e tx (.ok output, e₁)) (hgrew : GrewBy output e₁ e') :
    Accounts e₀ (events ++ [.committed output.result.result.txGasUsed
      ((e₁.evm.meter.map (·.txZkGasUsed)).getD 0)]) e' := by
  obtain ⟨hkept, hbefore, hexhausted, hfits, hused, hintrinsic⟩ := hspec
  have hgasUsed : e₁.gasUsed = e.gasUsed := by rw [hkept.same]
  have hreceipts : e₁.receipts = e.receipts := by rw [hkept.same]
  have hblock : e₁.evm.block = e.evm.block := by rw [hkept.same]
  have hgas : e'.gasUsed.toNat
      = (gasCommitted events).sum + output.result.result.txGasUsed.toNat := by
    rw [hgrew.gasUsed, hgasUsed, h.gasUsed]
  have hoverflowed : overflowed false events = false := by rw [← h.exhausted, hbefore]
  -- the meter after is the promoted one of an execution that kept the block's sum
  have hmeter : ∀ m', e'.evm.meter = some m' → ∃ m₁ m, e₁.evm.meter = some m₁ ∧
      e.evm.meter = some m ∧ m₁.promoted = m' ∧ m₁.schedule = m.schedule ∧
      m₁.blockZkGasUsed = m.blockZkGasUsed ∧ m₁.Balanced := by
    intro m' hm'
    rw [hgrew.meter] at hm'
    obtain ⟨m₁, hm₁, hpromoted⟩ := Option.map_eq_some_iff.mp hm'
    have hmk := hkept.meter
    rw [hm₁] at hmk
    obtain ⟨m, hm, hschedule, hblock, hbalanced⟩ := hmk.exists_of_some
    exact ⟨m₁, m, hm₁, hm, hpromoted, hschedule, hblock, hbalanced (h.balanced m hm)⟩
  refine ⟨hgrew.owns (hkept.owns h.owns), ?_, hgrew.published, ?_, ?_, ?_, ?_, ?_, ?_, ?_,
    ordered_append h.ordered fun _ _ _ => hoverflowed, ?_⟩
  · intro m' hm'
    obtain ⟨m₁, m, -, -, rfl, -, -, hbalanced⟩ := hmeter m' hm'
    exact (ZkGasMeter.promoted_spec hbalanced).1
  · rw [hgrew.block, hblock, h.block]
  · rw [← h.schedule, hgrew.meter, Option.map_map, ← hkept.meter.schedule_eq]
    rfl
  · rw [hgas, gasCommitted_append]
    simp [gasCommitted]
  · rw [hgrew.block, hblock, hgas, ← h.gasUsed]
    omega
  · rw [hgrew.receipts, List.map_append, hreceipts, h.receipts, gasCommitted_append]
    change _ ++ [e'.gasUsed.toNat] = runningSums (_ ++ [_])
    rw [runningSums_append_singleton, hgas]
  · intro m' hm'
    obtain ⟨m₁, m, hm₁, hm, rfl, -, hblock', hbalanced⟩ := hmeter m' hm'
    rw [(ZkGasMeter.promoted_spec hbalanced).2, hblock', h.zkGas m hm, zkGasFinalized_append, hm₁]
    rfl
  · rw [hgrew.exhausted, hexhausted, overflowed_append, hoverflowed]
    rfl
  · intro m' g z hm' hmem
    obtain ⟨m₁, m, hm₁, hm, rfl, hschedule, -, -⟩ := hmeter m' hm'
    change m₁.schedule.txIntrinsicZkGas.toNat ≤ z.toNat
    rcases List.mem_append.mp hmem with hmem | hmem
    · rw [hschedule]
      exact h.intrinsic m g z hm hmem
    · cases List.mem_singleton.mp hmem
      rw [hm₁]
      exact hintrinsic m₁ hm₁

/-! ### One operation, and runs -/

/-- What one operation does: its event is booked, and a transaction that fails or is
declined keeps the block. -/
def ApplySpec (e₀ : TaikoBlockExecutor) (events : List Event) (e : TaikoBlockExecutor)
    (out : Event × TaikoBlockExecutor) : Prop :=
  Accounts e₀ (events ++ [out.1]) out.2 ∧
    ((∃ error, out.1 = .failed error) ∨ out.1 = .declined → Kept e out.2)

lemma commitCurrentTransactionZkGas_gasUsed (h : e.commitCurrentTransactionZkGas = .ok e') :
    e'.gasUsed = e.gasUsed := by
  rw [commitCurrentTransactionZkGas] at h
  split at h
  · cases h
    rfl
  · cases h
    rfl
  · cases h

/-- A commit adds the gas of its transaction. -/
lemma commitTransaction_gasUsed {output : EthTxResult} {gasUsed : U64}
    (h : e.commitTransaction checks output = .ok (gasUsed, e')) :
    gasUsed = output.result.result.txGasUsed ∧
      plainAdd checks e.gasUsed gasUsed = .ok e'.gasUsed := by
  obtain ⟨e₁, hzk, h⟩ := bind_eq_ok.mp h
  obtain ⟨cumulative, hadd, h⟩ := bind_eq_ok.mp h
  cases h
  rw [commitCurrentTransactionZkGas_gasUsed hzk] at hadd
  exact ⟨rfl, hadd⟩

/-- A commit reports the gas the interpreter reported of its transaction. -/
lemma apply_committed {revm : Revm} {op : Op} {gasUsed zkGas : U64}
    (h : e.apply revm checks op = .ok (.committed gasUsed zkGas, e')) :
    ∃ tx shouldCommit output e₁, op = .executeTransaction tx shouldCommit ∧
      e.executeTransactionWithoutCommit revm checks tx = .ok (.ok output, e₁) ∧
      gasUsed = output.result.result.txGasUsed := by
  cases op with
  | reserveBlockZkGas amount =>
    rw [apply] at h
    split at h <;> cases h
  | clearZkGasExhaustion => cases h
  | executeTransaction tx shouldCommit =>
    obtain ⟨⟨answer, e₂⟩, hexecute, h⟩ := bind_eq_ok.mp h
    obtain ⟨⟨executed, e₁⟩, hrun, hexecute⟩ := bind_eq_ok.mp hexecute
    cases executed with
    | error error =>
      cases hexecute
      cases h
    | ok output =>
      dsimp only at hexecute
      split at hexecute
      · obtain ⟨⟨reported, e₃⟩, hcommit, hexecute⟩ := bind_eq_ok.mp hexecute
        cases hexecute
        cases h
        exact ⟨tx, shouldCommit, output, e₁, rfl, hrun, (commitTransaction_gasUsed hcommit).1⟩
      · cases hexecute
        cases h

lemma apply_execute_spec {revm : Revm} (hgas : revm.ReportsGasWithinLimit) (checks : OverflowChecks)
    {events : List Event} (h : Accounts e₀ events e) (tx : Recovered)
    (shouldCommit : EthTxResult → Bool) :
    Satisfies (EvmPanics revm checks) (ApplySpec e₀ events e)
      (e.apply revm checks (.executeTransaction tx shouldCommit)) := by
  have hspec := executeTransactionWithoutCommit_spec hgas checks h.owns h.withinLimit tx
  have hlimit := e.evm.block.gasLimit.isLt
  rw [apply, executeTransactionWithCommitCondition, transactionZkGas]
  cases hrun : e.executeTransactionWithoutCommit revm checks tx with
  | error p => rw [hrun] at hspec; exact hspec
  | ok out =>
    rw [hrun] at hspec
    obtain ⟨answer, e₁⟩ := out
    cases answer with
    | error error =>
      have hkept : Kept e e₁ := hspec.1
      exact ⟨h.of_kept hkept rfl rfl hspec.2, fun _ => hkept⟩
    | ok output =>
      have hspec : WithoutCommitSpec e tx (.ok output, e₁) := hspec
      have hkept : Kept e e₁ := hspec.1
      have hgasUsed : e₁.gasUsed = e.gasUsed := by rw [hkept.same]
      have hfits := hspec.2.2.2.1
      have hused := hspec.2.2.2.2.1
      -- the result is committed or declined
      cases hcommit : shouldCommit output with
      | true =>
        obtain ⟨e', heq, hgrew⟩ := commitTransaction_spec checks
          (hkept.balanced h.balanced) output (by rw [hgasUsed]; omega)
        change Satisfies _ _ ((if shouldCommit output then _ else _) >>= _)
        rw [if_pos hcommit, heq]
        refine ⟨h.of_committed hspec hgrew, ?_⟩
        rintro (⟨error, hevent⟩ | hevent)
        · cases hevent
        · cases hevent
      | false =>
        have hreset := hkept.trans e₁.resetCurrentTransactionZkGas_kept
        change Satisfies _ _ ((if shouldCommit output then _ else _) >>= _)
        rw [if_neg (by simp [hcommit])]
        refine ⟨h.of_kept hreset rfl rfl ?_, fun _ => hreset⟩
        rw [resetCurrentTransactionZkGas_exhausted, hspec.2.2.1, hspec.2.1]
        rfl

lemma apply_spec {revm : Revm} (hgas : revm.ReportsGasWithinLimit) (checks : OverflowChecks)
    {events : List Event} (h : Accounts e₀ events e) (op : Op) :
    Satisfies (EvmPanics revm checks) (ApplySpec e₀ events e) (e.apply revm checks op) := by
  cases op with
  | reserveBlockZkGas amount =>
    rw [apply]
    rcases reserveBlockZkGas_spec h.balanced h.published amount with
      ⟨e', heq, hreserved⟩ | ⟨e', heq, hkept, hexhausted⟩
    · rw [heq]
      refine ⟨h.of_reserved hreserved, ?_⟩
      rintro (⟨error, hevent⟩ | hevent)
      · cases hevent
      · cases hevent
    · rw [heq]
      exact ⟨h.of_kept hkept rfl rfl hexhausted, fun _ => hkept⟩
  | executeTransaction tx shouldCommit => exact apply_execute_spec hgas checks h tx shouldCommit
  | clearZkGasExhaustion =>
    have hkept := e.clearZkGasExhaustion_kept
    exact ⟨h.of_kept hkept rfl rfl (clearZkGasExhaustion_exhausted e), fun _ => hkept⟩

/-- Every run books its events. -/
theorem run_accounts {revm : Revm} (hgas : revm.ReportsGasWithinLimit) (checks : OverflowChecks)
    (h : Accounts e₀ [] e₀) (ops : List Op) :
    Satisfies (EvmPanics revm checks) (fun out => Accounts e₀ out.1 out.2)
      (runE (apply revm checks) e₀ ops) :=
  runE_invariant (Accounts e₀)
    (fun _ _ op haccounts => (apply_spec hgas checks haccounts op).mono fun _ hout => hout.1)
    ops h

/-! ### Runs of a fresh executor -/

/-- A fresh executor over an EVM the factory made, with nothing published. -/
structure Fresh (e : TaikoBlockExecutor) : Prop where
  unpublished : e.ctx.finalizedBlockZkGas = 0
  made : ∃ db cfg block,
    e = new (.createEvm db cfg block) e.ctx e.spec ∨
      e = new (.createEvmWithInspector db cfg block) e.ctx e.spec

lemma Fresh.meter (h : Fresh e) {m : ZkGasMeter} (hm : e.evm.meter = some m) :
    ∃ schedule, m = .new schedule := by
  obtain ⟨db, cfg, block, heq | heq⟩ := h.made
  · rw [heq] at hm
    change ((scheduleFor cfg.spec).map ZkGasMeter.new).or none = some m at hm
    rw [Option.or_none] at hm
    obtain ⟨schedule, -, rfl⟩ := Option.map_eq_some_iff.mp hm
    exact ⟨schedule, rfl⟩
  · rw [heq] at hm
    change Option.or none (((scheduleFor cfg.spec).map ZkGasMeteringState.new).map (·.meter))
      = some m at hm
    rw [Option.none_or, Option.map_map] at hm
    obtain ⟨schedule, -, rfl⟩ := Option.map_eq_some_iff.mp hm
    exact ⟨schedule, rfl⟩

lemma Fresh.gasUsed (h : Fresh e) : e.gasUsed = 0 := by
  obtain ⟨db, cfg, block, heq | heq⟩ := h.made <;> rw [heq] <;> rfl

lemma Fresh.accounts (h : Fresh e) : Accounts e [] e := by
  have hstart : e.gasUsed = 0 ∧ e.receipts = [] ∧ e.zkGasExhausted = false ∧ OwnsEvm e := by
    obtain ⟨db, cfg, block, heq | heq⟩ := h.made <;> rw [heq] <;> exact ⟨rfl, rfl, rfl, rfl, rfl⟩
  obtain ⟨hgasUsed, hreceipts, hexhausted, howns⟩ := hstart
  refine ⟨howns, ?_, ?_, rfl, rfl, ?_, ?_, ?_, ?_, hexhausted, ?_, ?_⟩
  · intro m hm
    obtain ⟨schedule, rfl⟩ := h.meter hm
    exact ZkGasMeter.balanced_new schedule
  · intro m hm
    obtain ⟨schedule, rfl⟩ := h.meter hm
    exact h.unpublished
  · rw [hgasUsed]
    rfl
  · rw [hgasUsed]
    exact Nat.zero_le _
  · rw [hreceipts]
    rfl
  · intro m hm
    obtain ⟨schedule, rfl⟩ := h.meter hm
    rfl
  · intro before after gasUsed zkGas heq
    simp at heq
  · intro m gasUsed zkGas _ hmem
    simp at hmem

/-- The accounting of every run of a fresh executor.  A panic can only come out of the EVM;
otherwise gas used is the sum over the committed transactions, each with the gas the interpreter
reported of it, and stays within the block gas limit, receipts carry its running sums, the
published zk gas of a metered block is its reservations and commits and stays within the
schedule's limit, a failed or declined transaction leaves no trace, and no transaction commits
between an overflow and the next clear. -/
theorem executor_accounting {revm : Revm} (hgas : revm.ReportsGasWithinLimit)
    (checks : OverflowChecks) (hfresh : Fresh e₀) (ops : List Op) :
    match runE (apply revm checks) e₀ ops with
    | .error p => EvmPanics revm checks p
    | .ok (events, e) =>
      e.gasUsed.toNat = (gasCommitted events).sum ∧
      e.gasUsed.toNat ≤ e₀.evm.block.gasLimit.toNat ∧
      plainSub checks e.evm.block.gasLimit e.gasUsed = .ok (e.evm.block.gasLimit - e.gasUsed) ∧
      e.receipts.map (·.cumulativeGasUsed.toNat) = runningSums (gasCommitted events) ∧
      (∀ m₀, e₀.evm.meter = some m₀ →
        e.ctx.finalizedBlockZkGas.toNat = zkGasFinalized events ∧
        zkGasFinalized events ≤ m₀.schedule.blockLimit.toNat ∧
        ∀ gasUsed zkGas, .committed gasUsed zkGas ∈ events →
          m₀.schedule.txIntrinsicZkGas.toNat ≤ zkGas.toNat) ∧
      (∀ op event e', e.apply revm checks op = .ok (event, e') →
        (∃ error, event = .failed error) ∨ event = .declined →
          e'.gasUsed = e.gasUsed ∧ e'.receipts = e.receipts ∧ e'.evm.db = e.evm.db ∧
            e'.ctx.finalizedBlockZkGas = e.ctx.finalizedBlockZkGas) ∧
      (∀ op gasUsed zkGas e', e.apply revm checks op = .ok (.committed gasUsed zkGas, e') →
        ∃ tx shouldCommit output e₁, op = .executeTransaction tx shouldCommit ∧
          e.executeTransactionWithoutCommit revm checks tx = .ok (.ok output, e₁) ∧
          gasUsed = output.result.result.txGasUsed) ∧
      ∀ before after gasUsed zkGas, events = before ++ .committed gasUsed zkGas :: after →
        overflowed false before = false := by
  -- each part is a field of the invariant of the run
  have hrun := run_accounts hgas checks hfresh.accounts ops
  cases hout : runE (apply revm checks) e₀ ops with
  | error p => rw [hout] at hrun; exact hrun
  | ok out =>
    obtain ⟨events, e⟩ := out
    rw [hout] at hrun
    have h : Accounts e₀ events e := hrun
    refine ⟨h.gasUsed, h.block ▸ h.withinLimit, plainSub_eq_ok_of_le checks h.withinLimit,
      h.receipts, ?_, ?_, fun _ _ _ _ => apply_committed, h.ordered⟩
    · intro m₀ hm₀
      have hschedule := h.schedule
      rw [hm₀] at hschedule
      obtain ⟨m, hm, heq⟩ := Option.map_eq_some_iff.mp hschedule
      have heq : m.schedule = m₀.schedule := heq
      have hbalanced := h.balanced m hm
      rw [ZkGasMeter.Balanced, heq, h.zkGas m hm] at hbalanced
      refine ⟨by rw [h.published m hm, h.zkGas m hm], by omega, fun gasUsed zkGas hmem => ?_⟩
      rw [← heq]
      exact h.intrinsic m gasUsed zkGas hm hmem
    · intro op event e' happly hevent
      have hkept : Kept e e' := ((apply_spec hgas checks h op).of_ok happly).2 hevent
      refine ⟨?_, ?_, ?_, hkept.finalized h.published⟩ <;> rw [hkept.same]

/-- A fresh executor for a block of transfers. -/
def transferExecutor : TaikoBlockExecutor :=
  new (.createEvm transferDb transferCfg transferBlock) ⟨0, some 0, [], true, none, 0⟩ transferSpec

lemma transferExecutor_fresh : Fresh transferExecutor :=
  ⟨rfl, transferDb, transferCfg, transferBlock, .inl rfl⟩

/-- A committed transfer, a declined one, and a reservation: the books of the run. -/
theorem executor_accounting_transfer :
    let ops : List Op := [.executeTransaction (transferTx 0xa1 0) fun _ => true,
      .executeTransaction (transferTx 0xa1 1) fun _ => false, .reserveBlockZkGas 5]
    ∃ events e, runE (apply transferRevm .on) transferExecutor ops = .ok (events, e) ∧
      gasCommitted events = [21000] ∧ e.gasUsed.toNat = (gasCommitted events).sum ∧
      zkGasFinalized events = 243005 := by
  intro ops
  have h := executor_accounting transferRevm_reportsGasWithinLimit .on transferExecutor_fresh ops
  exact ⟨_, _, rfl, rfl, h.1, rfl⟩

end TaikoBlockExecutor

end AlethiaReth
