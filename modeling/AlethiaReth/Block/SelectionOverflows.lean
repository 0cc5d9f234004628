import AlethiaReth.Block.Invariant
import AlethiaReth.Block.SelectionRounds

/-!
What zk gas overflows cost a selection: each of the two allowances of a call stays below twice the
limit of a list, no round follows the first, and the second ends no loop
(`selection_overflow_allowances`).
-/

namespace AlethiaReth

open MachineInt Outcome

namespace TxSelection

section Allowances

variable (revm : Revm) (checks : OverflowChecks) (codec : Codec) (config : TxSelectionConfig)
variable {best : BestTransactions}

/-- The round overflowed the zk gas budget on a candidate that is, or is not, remembered. -/
def Round.overflowed (remembered : Bool) (r : Round best) : Bool :=
  r.event revm checks codec config = .overflowed &&
    (r.before.overflows.state r.candidate.tx.hash).isSome == remembered

/-- The gas limits of the candidates, remembered or not, that overflowed. -/
def overflowGas (remembered : Bool) (rs : List (Round best)) : ℕ :=
  ((rs.filter (Round.overflowed revm checks codec config remembered)).map
    (·.candidate.tx.gasLimit.toNat)).sum

/-- The gas limits of candidates that were not remembered. -/
def firstTimeOverflowGas (rs : List (Round best)) : ℕ :=
  overflowGas revm checks codec config false rs

/-- The gas limits of candidates that were. -/
def rerunOverflowGas (rs : List (Round best)) : ℕ :=
  overflowGas revm checks codec config true rs

variable {revm checks codec config}

lemma overflowGas_append (remembered : Bool) (rs : List (Round best)) (r : Round best) :
    overflowGas revm checks codec config remembered (rs ++ [r]) =
      overflowGas revm checks codec config remembered rs +
        if r.overflowed revm checks codec config remembered then r.candidate.tx.gasLimit.toNat
        else 0 := by
  rw [overflowGas, overflowGas, List.filter_append, List.map_append, List.sum_append]
  cases hr : r.overflowed revm checks codec config remembered <;> simp [hr]

section Counters

variable {isCancelled : Bool} {s s' : Selection best} {tx : Recovered} {event : RoundEvent}
variable {answer : Except BlockExecutionError Flow}

/-- Only an overflow moves a counter, and it moves the one its candidate belongs to. -/
lemma Happens.counters (h : Happens revm checks codec config isCancelled s tx event answer s') :
    s'.firstTimeOverflowGas =
      (if event = .overflowed ∧ (s.overflows.state tx.tx.hash).isSome = false then
        saturatingAdd s.firstTimeOverflowGas tx.tx.gasLimit else s.firstTimeOverflowGas) ∧
    s'.rerunOverflowGas =
      (if event = .overflowed ∧ (s.overflows.state tx.tx.hash).isSome = true then
        saturatingAdd s.rerunOverflowGas tx.tx.gasLimit else s.rerunOverflowGas) := by
  cases h with
  | cancelled h => exact ⟨rfl, rfl⟩
  | budgetGone h => exact ⟨rfl, rfl⟩
  | rejected h => exact ⟨rfl, rfl⟩
  | skipped hadmitted h => exact ⟨rfl, rfl⟩
  | unfit hconsidered hfit => rw [hfit.same]; exact ⟨rfl, rfl⟩
  | committed hconsidered hfit hrun hlists hgas hda => rw [hfit.same]; exact ⟨rfl, rfl⟩
  | overflowed hconsidered hfit hrun herror =>
    rw [hfit.same, Selection.recordOverflow]
    cases hremembered : (s.overflows.state tx.tx.hash).isSome <;> simp [Selection.markInvalid]
  | invalid hconsidered hfit hrun =>
    rw [hfit.same]
    split <;> exact ⟨rfl, rfl⟩
  | failed hconsidered hfit hrun herror => rw [hfit.same]; exact ⟨rfl, rfl⟩

/-- A round that does not end the loop left the first counter below the cap, if it moved
it; one that does was cancelled, found the budget gone, failed, or reached the cap. -/
lemma Happens.flow (h : Happens revm checks codec config isCancelled s tx event answer s') :
    (answer = .ok .next → event = .overflowed → (s.overflows.state tx.tx.hash).isSome = false →
      s'.firstTimeOverflowGas < config.gasLimitPerList) ∧
    (answer ≠ .ok .next → event = .cancelled ∨ event = .budgetGone ∨
      (∃ error, answer = .error error) ∨
      event = .overflowed ∧ (s.overflows.state tx.tx.hash).isSome = false ∧
        config.gasLimitPerList ≤ s'.firstTimeOverflowGas) := by
  cases h with
  | cancelled h => simp
  | budgetGone h => simp
  | rejected h => simp
  | skipped hadmitted h => simp
  | unfit hconsidered hfit => simp
  | committed hconsidered hfit hrun hlists hgas hda => simp
  | overflowed hconsidered hfit hrun herror =>
    rw [Selection.recordOverflow]
    cases hremembered : (s.overflows.state tx.tx.hash).isSome with
    | true => simp
    | false =>
      dsimp only
      rw [if_neg Bool.false_ne_true]
      dsimp only
      split
      · next hcap => simpa using hcap
      · next hcap => simpa using hcap
  | invalid hconsidered hfit hrun => simp
  | failed hconsidered hfit hrun herror => simp

end Counters

/-- The counters between two rounds: they are the sums, the second as far as it goes, and
the first has not reached its cap. -/
structure Allowed (revm : Revm) (checks : OverflowChecks) (codec : Codec)
    (config : TxSelectionConfig) (rs : List (Round best)) (s : Selection best) : Prop where
  firstTime : s.firstTimeOverflowGas.toNat = firstTimeOverflowGas revm checks codec config rs
  firstTime_lt : firstTimeOverflowGas revm checks codec config rs < config.gasLimitPerList.toNat
  rerun : s.rerunOverflowGas.toNat
    = min (rerunOverflowGas revm checks codec config rs) (2 ^ 64 - 1)
  rerun_lt : rerunOverflowGas revm checks codec config rs < 2 * config.gasLimitPerList.toNat

variable {rs : List (Round best)} {r : Round best}

lemma Round.overflowed_iff {remembered : Bool} :
    r.overflowed revm checks codec config remembered = true ↔
      r.event revm checks codec config = .overflowed ∧
        (r.before.overflows.state r.candidate.tx.hash).isSome = remembered := by
  simp [Round.overflowed]

/-- A candidate that overflowed has a gas limit no list refuses, and if it is remembered
the second allowance was not used up. -/
lemma Round.overflowed_bounds {remembered : Bool}
    (h : r.overflowed revm checks codec config remembered = true) :
    r.candidate.tx.gasLimit.toNat ≤ config.gasLimitPerList.toNat ∧
      (remembered = true → r.before.rerunOverflowGas.toNat < config.gasLimitPerList.toNat) := by
  obtain ⟨hevent, hremembered⟩ := Round.overflowed_iff.mp h
  have hconsiders : (r.event revm checks codec config).considers = true := by rw [hevent]; rfl
  have hconsidered := Round.considered revm checks codec config hconsiders
  refine ⟨BitVec.le_def.mp (rejectCandidate_eq_none hconsidered.admitted).gasLimit, ?_⟩
  rintro rfl
  by_contra hspent
  exact hconsidered.notRemembered (.inr ⟨hremembered, BitVec.le_def.mpr (by omega)⟩)

/-- A round stays within both allowances. -/
lemma Allowed.round (h : Allowed revm checks codec config rs r.before) :
    firstTimeOverflowGas revm checks codec config (rs ++ [r])
        < 2 * config.gasLimitPerList.toNat ∧
      rerunOverflowGas revm checks codec config (rs ++ [r])
        < 2 * config.gasLimitPerList.toNat := by
  have hfirst := h.firstTime_lt
  have hrerun := h.rerun_lt
  have hcounter := h.rerun
  have hcap := config.gasLimitPerList.isLt
  rw [firstTimeOverflowGas] at hfirst
  rw [rerunOverflowGas] at hrerun hcounter
  rw [firstTimeOverflowGas, rerunOverflowGas, overflowGas_append, overflowGas_append]
  refine ⟨?_, ?_⟩
  · split
    · next hover =>
      have hbound := (Round.overflowed_bounds hover).1
      omega
    · omega
  · split
    · next hover =>
      obtain ⟨hbound, hunspent⟩ := Round.overflowed_bounds hover
      have hlt := hunspent rfl
      omega
    · omega

/-- A round that goes on keeps the counters the sums. -/
lemma Allowed.next (h : Allowed revm checks codec config rs r.before)
    (hgenuine : r.Genuine revm checks codec config) {s' : Selection best}
    (hnext : r.next = some s') : Allowed revm checks codec config (rs ++ [r]) s' := by
  have hhappens := hgenuine.happens (Round.next_eq_some.mp hnext)
  obtain ⟨hfirst, hrerun⟩ := hhappens.counters
  have hflow := hhappens.flow.1 rfl
  have hcap := config.gasLimitPerList.isLt
  have hbelow := h.firstTime_lt
  have hcounter := h.rerun
  obtain ⟨-, hrerun_lt⟩ := h.round
  rw [firstTimeOverflowGas] at hbelow
  rw [rerunOverflowGas] at hcounter
  have hsum : s'.firstTimeOverflowGas.toNat
      = firstTimeOverflowGas revm checks codec config (rs ++ [r]) := by
    rw [firstTimeOverflowGas, overflowGas_append, hfirst]
    simp only [Round.overflowed_iff]
    split
    · next hover =>
      -- the counter is below the cap, so the addition did not saturate
      have hlt := BitVec.lt_def.mp (hflow hover.1 hover.2)
      rw [hfirst, if_pos hover, toNat_saturatingAdd, h.firstTime, firstTimeOverflowGas] at hlt
      rw [toNat_saturatingAdd, h.firstTime, firstTimeOverflowGas]
      omega
    · rw [h.firstTime, firstTimeOverflowGas, Nat.add_zero]
  refine ⟨hsum, ?_, ?_, hrerun_lt⟩
  · rw [← hsum]
    by_cases hover : r.event revm checks codec config = .overflowed ∧
        (r.before.overflows.state r.candidate.tx.hash).isSome = false
    · exact BitVec.lt_def.mp (hflow hover.1 hover.2)
    · rw [hfirst, if_neg hover, h.firstTime]
      exact h.firstTime_lt
  · rw [rerunOverflowGas, overflowGas_append, hrerun]
    simp only [Round.overflowed_iff]
    split
    · rw [toNat_saturatingAdd, hcounter]
      omega
    · rw [hcounter, Nat.add_zero]

/-- The ways a loop with these rounds may end: cancelled, without the budget for another
transaction, in a panic or an error, at the cap of first-time overflows, or with the pool. -/
def EndsWith (revm : Revm) (checks : OverflowChecks) (codec : Codec) (config : TxSelectionConfig)
    (rounds : List (Round best)) (last : Round best) : Prop :=
  last.event revm checks codec config = .cancelled ∨
  last.event revm checks codec config = .budgetGone ∨
  (∃ panic, last.result = .error panic) ∨
  (∃ error s', last.result = .ok (.error error, s')) ∨
  (last.overflowed revm checks codec config false ∧
    config.gasLimitPerList.toNat ≤ firstTimeOverflowGas revm checks codec config rounds) ∨
  ∃ s', last.next = some s' ∧ best.next s'.bestTxs = none

/-- A round that ends the loop ends it in one of these ways. -/
lemma Allowed.ends (h : Allowed revm checks codec config rs r.before)
    (hgenuine : r.Genuine revm checks codec config) (hnext : r.next = none) :
    EndsWith revm checks codec config (rs ++ [r]) r := by
  cases hresult : r.result with
  | error panic => exact .inr (.inr (.inl ⟨panic, hresult⟩))
  | ok out =>
    obtain ⟨answer, s'⟩ := out
    have hhappens := hgenuine.happens hresult
    have hstops : answer ≠ .ok .next := by
      rintro rfl
      rw [Round.next_eq_some.mpr hresult] at hnext
      cases hnext
    rcases hhappens.flow.2 hstops with hevent | hevent | ⟨error, rfl⟩ | ⟨hevent, hfresh, hcap⟩
    · exact .inl hevent
    · exact .inr (.inl hevent)
    · exact .inr (.inr (.inr (.inl ⟨error, s', hresult⟩)))
    · have hover : r.overflowed revm checks codec config false = true :=
        Round.overflowed_iff.mpr ⟨hevent, hfresh⟩
      refine .inr (.inr (.inr (.inr (.inl ⟨hover, ?_⟩))))
      have hcap := BitVec.le_def.mp hcap
      have hfirst := h.firstTime
      rw [hhappens.counters.1, if_pos ⟨hevent, hfresh⟩, toNat_saturatingAdd, hfirst] at hcap
      rw [firstTimeOverflowGas, overflowGas_append, if_pos hover]
      rw [firstTimeOverflowGas] at hcap
      omega

/-- The allowances of a call.  The gas limits of first-time overflows, and those of
remembered candidates that overflowed again, sum to less than twice the limit of a list;
no round follows first-time overflows that reach the limit, and overflows of remembered
candidates end no loop. -/
theorem selection_overflow_allowances (revm : Revm) (checks : OverflowChecks) (codec : Codec)
    (config : TxSelectionConfig) (hpos : 0 < config.gasLimitPerList.toNat)
    (builder : BlockBuilder) (pool : Pool) (overflows : ZkOverflowMemory)
    (isCancelled : ℕ → Bool) :
    let rounds := selectionRounds revm checks codec config builder pool overflows isCancelled
    selectAndExecutePoolTransactions revm checks codec config builder pool overflows isCancelled
      = answerAfter (.start config builder pool overflows) rounds.getLast? ∧
    firstTimeOverflowGas revm checks codec config rounds < 2 * config.gasLimitPerList.toNat ∧
    rerunOverflowGas revm checks codec config rounds < 2 * config.gasLimitPerList.toNat ∧
    (∀ before r after, rounds = before ++ r :: after →
      firstTimeOverflowGas revm checks codec config before < config.gasLimitPerList.toNat) ∧
    (rounds = [] → pool.best.next (pool.bestTransactionsWithAttributes config.baseFee) = none) ∧
    ∀ init last, rounds = init ++ [last] →
      EndsWith revm checks codec config rounds last := by
  intro rounds
  have hstart : Allowed revm checks codec config ([] : List (Round pool.best))
      (.start config builder pool overflows) :=
    ⟨rfl, hpos, rfl, by simpa [rerunOverflowGas, overflowGas] using hpos⟩
  -- both allowances hold before every round; the last round adds less than one more
  have hrule : ∀ before r after, rounds = before ++ r :: after →
      Allowed revm checks codec config before r.before ∧ r.Genuine revm checks codec config := by
    intro before r after heq
    exact rounds_rule (I := Allowed revm checks codec config)
      (P := fun rs r => Allowed revm checks codec config rs r.before ∧
        r.Genuine revm checks codec config)
      (fun rs s bestTxs h => ⟨h.firstTime, h.firstTime_lt, h.rerun, h.rerun_lt⟩)
      (fun rs r hgenuine h => ⟨⟨h, hgenuine⟩, fun s' hnext => h.next hgenuine hnext⟩)
      (Selection.start_intact config builder pool overflows) hstart heq
  have hsums : firstTimeOverflowGas revm checks codec config rounds
        < 2 * config.gasLimitPerList.toNat ∧
      rerunOverflowGas revm checks codec config rounds
        < 2 * config.gasLimitPerList.toNat := by
    rcases List.eq_nil_or_concat rounds with hnil | ⟨init, last, hconcat⟩
    · rw [hnil]
      simpa [firstTimeOverflowGas, rerunOverflowGas, overflowGas] using hpos
    · rw [List.concat_eq_append] at hconcat
      rw [hconcat]
      exact (hrule init last [] hconcat).1.round
  obtain ⟨hempty, hlast⟩ := rounds_end revm checks codec config isCancelled
    (Selection.start_intact config builder pool overflows) le_rfl
  refine ⟨selectAndExecutePoolTransactions_eq builder pool overflows isCancelled, hsums.1,
    hsums.2, fun before r after heq => (hrule before r after heq).1.firstTime_lt, hempty,
    fun init last heq => ?_⟩
  obtain ⟨hallowed, hgenuine⟩ := hrule init last [] heq
  cases hnext : last.next with
  | some s' => exact .inr (.inr (.inr (.inr (.inr ⟨s', hnext, hlast init last heq s' hnext⟩))))
  | none => rw [heq]; exact hallowed.ends hgenuine hnext

end Allowances

/-- Of three calls, the first two overflow and reach the cap of first-time overflows; the
third is not looked at. -/
theorem selection_overflow_allowances_calls :
    let rounds := selectionRounds precompileRevm .on unitCodec smallList
      ⟨TaikoBlockExecutor.transferExecutor, []⟩
      (listPool [callTx 1 0x5555 0, callTx 2 0x5556 0, callTx 3 5 0])
      (fun _ => none) fun _ => false
    rounds.map (·.event precompileRevm .on unitCodec smallList)
      = [.overflowed, .overflowed] ∧
    firstTimeOverflowGas precompileRevm .on unitCodec smallList rounds = 42000 ∧
    firstTimeOverflowGas precompileRevm .on unitCodec smallList rounds < 60000 := by
  intro rounds
  have h := selection_overflow_allowances precompileRevm .on unitCodec smallList (by decide)
    ⟨TaikoBlockExecutor.transferExecutor, []⟩
    (listPool [callTx 1 0x5555 0, callTx 2 0x5556 0, callTx 3 5 0])
    (fun _ => none) fun _ => false
  exact ⟨rfl, rfl, h.2.1⟩

end TxSelection

end AlethiaReth
