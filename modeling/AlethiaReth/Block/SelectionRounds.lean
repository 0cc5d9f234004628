import AlethiaReth.Lib.Loop
import AlethiaReth.Block.TxSelection

/-!
The rounds of a selection: everything one candidate can do to the loop (`Happens`), and the loop as
the list of its rounds, of which the last has the answer of the call
(`selectAndExecutePoolTransactions_eq`).
-/

namespace AlethiaReth

open MachineInt Outcome

namespace TxSelection

/-- The estimated size of a candidate. -/
def Codec.daSize (codec : Codec) (tx : Recovered) : U64 :=
  codec.txEstimatedSizeFjordBytes (codec.encoded2718 tx.tx)

/-! ### Lists -/

/-- A candidate is within the limits of a list. -/
structure HasRoom (config : TxSelectionConfig) (list : ExecutedTxList) (gasLimit daSize : U64) :
    Prop where
  gas : saturatingAdd list.totalGasUsed gasLimit ≤ config.gasLimitPerList
  da : saturatingAdd list.totalDaBytes daSize ≤ config.maxDaBytesPerList

lemma exceedsDaLimit_none {codec : Codec} {list : ExecutedTxList} {tx : Recovered}
    {daSize : U64} {state : DaRatioState} {config : TxSelectionConfig}
    (h : (exceedsDaLimit codec list tx daSize state config).1 = none) :
    saturatingAdd list.totalDaBytes daSize ≤ config.maxDaBytesPerList := by
  rw [exceedsDaLimit] at h
  dsimp only at h
  split at h
  · cases h
  · next hle => exact BitVec.not_lt.mp hle

lemma hasRoom_of_exceedsListLimits {codec : Codec} {list : ExecutedTxList} {tx : Recovered}
    {gasLimit daSize : U64} {state : DaRatioState} {config : TxSelectionConfig}
    (hgas : (exceedsListLimits codec list tx gasLimit daSize state config).1.1 = false)
    (hda : (exceedsListLimits codec list tx gasLimit daSize state config).1.2 = none) :
    HasRoom config list gasLimit daSize where
  gas := BitVec.not_lt.mp (of_decide_eq_false hgas)
  da := exceedsDaLimit_none hda

namespace Selection

variable {best : BestTransactions}

/-- There is a current list, and every list has the state of its sizing. -/
structure Intact (s : Selection best) : Prop where
  ne_nil : s.lists ≠ []
  length_eq : s.daGuardStates.length = s.lists.length

@[simp] lemma markInvalid_builder (s : Selection best) (tx : Recovered)
    (error : InvalidPoolTransactionError) : (s.markInvalid tx error).builder = s.builder := rfl

section RecordOverflow

variable (config : TxSelectionConfig) (s : Selection best) (tx : Recovered)
  (remembered : Option B256)

@[simp] lemma recordOverflow_builder : (s.recordOverflow config tx remembered).2.builder
    = { s.builder with executor := s.builder.executor.clearZkGasExhaustion } := by
  rw [recordOverflow]
  split <;> rfl

@[simp] lemma recordOverflow_lists :
    (s.recordOverflow config tx remembered).2.lists = s.lists := by
  rw [recordOverflow]
  split <;> rfl

@[simp] lemma recordOverflow_bestTxs : (s.recordOverflow config tx remembered).2.bestTxs
    = best.markInvalid s.bestTxs tx .zkGasBudgetExceeded := by
  rw [recordOverflow]
  split <;> rfl

@[simp] lemma recordOverflow_daGuardStates :
    (s.recordOverflow config tx remembered).2.daGuardStates = s.daGuardStates := by
  rw [recordOverflow]
  split <;> rfl

@[simp] lemma recordOverflow_overflows : (s.recordOverflow config tx remembered).2.overflows
    = s.overflows.record tx.tx.hash s.state := by
  rw [recordOverflow]
  split <;> rfl

@[simp] lemma recordOverflow_state :
    (s.recordOverflow config tx remembered).2.state = s.state := by
  rw [recordOverflow]
  split <;> rfl

end RecordOverflow

lemma Intact.markInvalid {s : Selection best} (h : s.Intact) {tx : Recovered}
    {error : InvalidPoolTransactionError} : (s.markInvalid tx error).Intact :=
  ⟨h.ne_nil, h.length_eq⟩

variable (codec : Codec) (config : TxSelectionConfig)

/-- The candidate is over the limits of the current list. -/
def exceedsCurrent (s : Selection best) (tx : Recovered) : Bool :=
  match s.checkCurrentList codec config tx (codec.daSize tx) with
  | .ok (.ok (exceedsGas, exceedsDa), _) => exceedsGas || exceedsDa.isSome
  | _ => false

/-- The candidate is over the limits of the current list, and another can be started. -/
def opensList (s : Selection best) (tx : Recovered) : Bool :=
  s.exceedsCurrent codec config tx && decide (s.lists.length < config.maxLists)

/-- A new list has no room for the candidate: compressed, it alone is over a limit that the
estimate of its size keeps. -/
def newListRefuses (tx : Recovered) : Bool :=
  let exceeds := (exceedsListLimits codec .default tx tx.tx.gasLimit (codec.daSize tx) .default
    config).1
  exceeds.1 || exceeds.2.isSome

/-- A candidate that overflowed before and is not run again: the state is the same, or the
allowance is used up. -/
def Remembers (s : Selection best) (tx : Recovered) : Prop :=
  s.overflows.state tx.tx.hash = some s.state ∨
    (s.overflows.state tx.tx.hash).isSome ∧ s.rerunOverflowGas ≥ config.gasLimitPerList

instance (s : Selection best) (tx : Recovered) : Decidable (s.Remembers config tx) :=
  inferInstanceAs (Decidable (_ ∨ _))

end Selection

section Fitted

variable {codec : Codec} {config : TxSelectionConfig} {best : BestTransactions}
variable {s s₁ : Selection best} {tx : Recovered}

/-- The check of the current list answers, and touches nothing but the state of its
sizing. -/
lemma checkCurrentList_spec (codec : Codec) (config : TxSelectionConfig) (h : s.Intact)
    (tx : Recovered) (daSize : U64) :
    ∃ earlier current exceedsGas exceedsDa guards,
      s.lists = earlier ++ [current] ∧ guards.length = s.lists.length ∧
      s.checkCurrentList codec config tx daSize
        = .ok (.ok (exceedsGas, exceedsDa), { s with daGuardStates := guards }) ∧
      (exceedsGas = false → exceedsDa = none →
        HasRoom config current tx.tx.gasLimit daSize) := by
  obtain ⟨earlier, current, hlists⟩ := List.eq_nil_or_concat s.lists |>.resolve_left h.ne_nil
  rw [List.concat_eq_append] at hlists
  have hindex : s.lists.length - 1 = earlier.length := by simp [hlists]
  have hcurrent : s.lists[earlier.length]? = some current := by simp [hlists]
  have hlt : earlier.length < s.daGuardStates.length := by simp [h.length_eq, hlists]
  obtain ⟨guardState, hguard⟩ : ∃ g, s.daGuardStates[earlier.length]? = some g :=
    ⟨_, List.getElem?_eq_getElem hlt⟩
  let checked := exceedsListLimits codec current tx tx.tx.gasLimit daSize guardState config
  refine ⟨earlier, current, checked.1.1, checked.1.2,
    s.daGuardStates.set earlier.length checked.2, hlists, ?_, ?_,
    hasRoom_of_exceedsListLimits⟩
  · rw [List.length_set, h.length_eq]
  · rw [Selection.checkCurrentList, hindex]
    simp only [hcurrent, hguard]
    rfl

lemma pushList_intact (h : s.Intact) : s.pushList.Intact where
  ne_nil := by simp [Selection.pushList]
  length_eq := by simp [Selection.pushList, h.length_eq]

/-- The check of a list that was just opened reads nothing of the lists before it. -/
lemma exceedsCurrent_pushList (codec : Codec) (config : TxSelectionConfig) (h : s.Intact)
    (tx : Recovered) :
    s.pushList.exceedsCurrent codec config tx = Selection.newListRefuses codec config tx := by
  have hcurrent : (s.lists ++ [ExecutedTxList.default])[s.lists.length]? = some .default := by
    simp
  have hguard : (s.daGuardStates ++ [DaRatioState.default])[s.lists.length]? = some .default := by
    simp [← h.length_eq]
  rw [Selection.exceedsCurrent, Selection.checkCurrentList]
  simp only [Selection.pushList, List.length_append, List.length_singleton, Nat.add_sub_cancel,
    hcurrent, hguard]
  rfl

/-- What looking for a list leaves: a list may have been opened, and where the answer is
no error the last list has room for the candidate. -/
structure Fitted (codec : Codec) (config : TxSelectionConfig) (s : Selection best)
    (tx : Recovered) (answer : Option InvalidPoolTransactionError) (s₁ : Selection best) :
    Prop where
  same : s₁ = { s with lists := s₁.lists, daGuardStates := s₁.daGuardStates }
  intact : s₁.Intact
  lists : s₁.lists = if s.opensList codec config tx then s.lists ++ [.default] else s.lists
  room : answer = none → ∃ earlier current, s₁.lists = earlier ++ [current] ∧
    HasRoom config current tx.tx.gasLimit (codec.daSize tx)
  fits : answer = none ↔ (s.exceedsCurrent codec config tx = true →
    s.lists.length < config.maxLists ∧ Selection.newListRefuses codec config tx = false)

/-- Looking for a list always answers. -/
theorem fitList_spec (codec : Codec) (config : TxSelectionConfig) (h : s.Intact) (tx : Recovered) :
    ∃ answer s₁, s.fitList codec config tx (codec.daSize tx) = .ok (.ok answer, s₁) ∧
      Fitted codec config s tx answer s₁ := by
  obtain ⟨earlier, current, exceedsGas, exceedsDa, guards, hlists, hlength, hcheck, hroom⟩ :=
    checkCurrentList_spec codec config h tx (codec.daSize tx)
  have hexceeds : s.exceedsCurrent codec config tx = (exceedsGas || exceedsDa.isSome) := by
    rw [Selection.exceedsCurrent, hcheck]
  rw [Selection.fitList, hcheck]
  dsimp only [bind, Except.bind]
  split
  · next hfits =>
    have hgas : exceedsGas = false := by simpa using hfits.1
    have hda : exceedsDa = none := Option.isNone_iff_eq_none.mp hfits.2
    refine ⟨none, _, rfl, rfl, ⟨h.ne_nil, hlength⟩, ?_, fun _ =>
      ⟨earlier, current, hlists, hroom hgas hda⟩, ?_⟩
    · simp [Selection.opensList, hexceeds, hgas, hda]
    · simp [hexceeds, hgas, hda]
  · next hover =>
    have hover : s.exceedsCurrent codec config tx = true := by
      rw [hexceeds]
      cases exceedsGas <;> cases exceedsDa <;> simp_all
    split
    · next hfull =>
      refine ⟨_, _, rfl, rfl, ⟨h.ne_nil, hlength⟩, ?_, (by rintro ⟨⟩), ?_⟩ <;>
        have hfull : ¬ s.lists.length < config.maxLists := Nat.not_lt.mpr hfull
      · simp [Selection.opensList, hfull]
      · simp [hover, hfull]
    · next hslot =>
      have hslot : s.lists.length < config.maxLists := Nat.lt_of_not_le hslot
      have hopens : s.opensList codec config tx = true := by
        simp [Selection.opensList, hover, hslot]
      -- the new list is empty, and is checked as the current one
      have hpushed : ({ s with daGuardStates := guards } : Selection best).pushList.Intact :=
        pushList_intact ⟨h.ne_nil, hlength⟩
      obtain ⟨earlier', current', exceedsGas', exceedsDa', guards', hlists', hlength',
        hcheck', hroom'⟩ := checkCurrentList_spec codec config hpushed tx (codec.daSize tx)
      have hrefuses : Selection.newListRefuses codec config tx
          = (exceedsGas' || exceedsDa'.isSome) := by
        have hintact : ({ s with daGuardStates := guards } : Selection best).Intact :=
          ⟨h.ne_nil, hlength⟩
        rw [← exceedsCurrent_pushList codec config hintact tx, Selection.exceedsCurrent, hcheck']
      rw [hcheck']
      dsimp only
      split
      · next hfits =>
        refine ⟨none, _, rfl, rfl, ⟨hpushed.ne_nil, hlength'⟩, ?_, fun _ =>
          ⟨earlier', current', hlists', hroom' (by simpa using hfits.1)
            (Option.isNone_iff_eq_none.mp hfits.2)⟩, ?_⟩
        · rw [hopens, if_pos rfl]
          rfl
        · have hnone := Option.isNone_iff_eq_none.mp hfits.2
          simp_all
      · next hexceeds' =>
        refine ⟨_, _, rfl, rfl, ⟨hpushed.ne_nil, hlength'⟩, ?_, (by rintro ⟨⟩), ?_⟩
        · rw [hopens, if_pos rfl]
          rfl
        · simp only [reduceCtorEq, false_iff, hrefuses, hover, hslot, true_and]
          cases exceedsGas' <;> cases exceedsDa' <;> simp_all

end Fitted

/-! ### Admission -/

/-- What a candidate needs whatever is in the block: a local sender where locals are given,
the tip, an allowed type, and a place in an empty list. -/
structure Admitted (codec : Codec) (config : TxSelectionConfig) (tx : Recovered) : Prop where
  sender : config.locals ≠ [] → tx.signer ∈ config.locals
  tip : ∃ tip, tx.tx.effectiveTipPerGas config.baseFee = some tip ∧
    config.minTip.setWidth 128 ≤ tip
  txType : isAllowedTxType tx.tx = true
  gasLimit : tx.tx.gasLimit ≤ config.gasLimitPerList
  daSize : codec.daSize tx ≤ config.maxDaBytesPerList

lemma rejectCandidate_eq_none {codec : Codec} {config : TxSelectionConfig} {tx : Recovered}
    (h : rejectCandidate codec config tx = none) : Admitted codec config tx := by
  rw [rejectCandidate] at h
  split at h
  · cases h
  · next hsender =>
    split at h
    · cases h
    · next htip =>
      split at h
      · cases h
      · next htype =>
        split at h
        · cases h
        · next hgas =>
          split at h
          · cases h
          · next hda =>
            refine ⟨fun hlocals => ?_, ?_, by simpa using htype,
              BitVec.not_lt.mp hgas, BitVec.not_lt.mp hda⟩
            · by_contra hmem
              exact hsender ⟨hlocals, hmem⟩
            · cases heffective : tx.tx.effectiveTipPerGas config.baseFee with
              | none => simp [heffective] at htip
              | some tip => exact ⟨tip, rfl, by simpa [heffective] using htip⟩

/-! ### One round -/

/-- The ways a round ends. -/
inductive RoundEvent where
  | cancelled
  | budgetGone
  | rejected
  | skipped
  | unfit
  | committed
  | overflowed
  | invalid
  | failed
  deriving DecidableEq, Repr

/-- The error of an invalid transaction. -/
def isInvalidTx : BlockExecutionError → Bool
  | .validation (.invalidTx _ _) => true
  | _ => false

/-- The way a round ends that executes its candidate. -/
def ranEvent : Except Panic (Except BlockExecutionError U64 × BlockBuilder) → RoundEvent
  | .error _ => .failed
  | .ok (.ok _, _) => .committed
  | .ok (.error error, _) =>
    if isZkGasLimitExceeded error then .overflowed
    else if isInvalidTx error then .invalid
    else .failed

/-- The ways of a round whose candidate gets as far as looking for a list. -/
def RoundEvent.considers : RoundEvent → Bool
  | .cancelled | .budgetGone | .rejected | .skipped => false
  | .unfit | .committed | .overflowed | .invalid | .failed => true

section Round

variable (revm : Revm) (checks : OverflowChecks) (codec : Codec) (config : TxSelectionConfig)
variable {best : BestTransactions}

/-- The way a round on a candidate ends. -/
def roundEvent (isCancelled : Bool) (s : Selection best) (tx : Recovered) : RoundEvent :=
  if isCancelled then .cancelled
  else if !s.builder.executor.canFitAnotherTransactionZkGas then .budgetGone
  else if (rejectCandidate codec config tx).isSome then .rejected
  else if s.Remembers config tx then .skipped
  else
    match s.fitList codec config tx (codec.daSize tx) with
    | .ok (.ok none, _) => ranEvent (s.builder.executeTransaction revm checks tx)
    | .ok (.ok (some _), _) => .unfit
    | _ => .failed

/-- A candidate that gets as far as looking for a list. -/
structure Considered (s : Selection best) (tx : Recovered) : Prop where
  canFit : s.builder.executor.canFitAnotherTransactionZkGas = true
  admitted : rejectCandidate codec config tx = none
  notRemembered : ¬ s.Remembers config tx

/-- Everything a round can do, with the conditions it does it under. -/
inductive Happens (isCancelled : Bool) (s : Selection best) (tx : Recovered) :
    RoundEvent → Except BlockExecutionError Flow → Selection best → Prop
  | cancelled (h : isCancelled = true) : Happens isCancelled s tx .cancelled (.ok .cancelled) s
  | budgetGone (h : s.builder.executor.canFitAnotherTransactionZkGas = false) :
      Happens isCancelled s tx .budgetGone (.ok .stop) s
  | rejected {error : InvalidPoolTransactionError}
      (h : rejectCandidate codec config tx = some error) :
      Happens isCancelled s tx .rejected (.ok .next) (s.markInvalid tx error)
  | skipped (hadmitted : rejectCandidate codec config tx = none) (h : s.Remembers config tx) :
      Happens isCancelled s tx .skipped (.ok .next) (s.markInvalid tx .zkGasBudgetExceeded)
  | unfit {error : InvalidPoolTransactionError} {s₁ : Selection best}
      (hconsidered : Considered codec config s tx)
      (hfit : Fitted codec config s tx (some error) s₁) :
      Happens isCancelled s tx .unfit (.ok .next) (s₁.markInvalid tx error)
  | committed {gasUsed totalGasUsed totalDaBytes : U64} {builder : BlockBuilder}
      {earlier : List ExecutedTxList} {current : ExecutedTxList} {s₁ : Selection best}
      (hconsidered : Considered codec config s tx) (hfit : Fitted codec config s tx none s₁)
      (hrun : s.builder.executeTransaction revm checks tx = .ok (.ok gasUsed, builder))
      (hlists : s₁.lists = earlier ++ [current])
      (hgas : plainAdd checks current.totalGasUsed gasUsed = .ok totalGasUsed)
      (hda : plainAdd checks current.totalDaBytes (codec.daSize tx) = .ok totalDaBytes) :
      Happens isCancelled s tx .committed (.ok .next) { s₁ with
        builder := builder
        state := advanceSelectionState codec s.state tx.tx.hash
        overflows := s.overflows.forget tx.tx.hash
        lists := earlier ++ [⟨current.transactions ++ [⟨tx, gasUsed, codec.daSize tx⟩],
          totalGasUsed, totalDaBytes⟩] }
  | overflowed {error : BlockExecutionError} {builder : BlockBuilder} {s₁ : Selection best}
      (hconsidered : Considered codec config s tx) (hfit : Fitted codec config s tx none s₁)
      (hrun : s.builder.executeTransaction revm checks tx = .ok (.error error, builder))
      (herror : isZkGasLimitExceeded error = true) :
      Happens isCancelled s tx .overflowed
        (.ok (Selection.recordOverflow config { s₁ with builder := builder } tx
          (s.overflows.state tx.tx.hash)).1)
        (Selection.recordOverflow config { s₁ with builder := builder } tx
          (s.overflows.state tx.tx.hash)).2
  | invalid {hash : B256} {error : InvalidTransaction} {builder : BlockBuilder}
      {s₁ : Selection best}
      (hconsidered : Considered codec config s tx) (hfit : Fitted codec config s tx none s₁)
      (hrun : s.builder.executeTransaction revm checks tx
        = .ok (.error (.validation (.invalidTx hash error)), builder)) :
      Happens isCancelled s tx .invalid (.ok .next)
        (if isNonceTooLow error then { s₁ with builder := builder }
          else ({ s₁ with builder := builder } : Selection best).markInvalid tx
            .txTypeNotSupported)
  | failed {error : BlockExecutionError} {builder : BlockBuilder} {s₁ : Selection best}
      (hconsidered : Considered codec config s tx) (hfit : Fitted codec config s tx none s₁)
      (hrun : s.builder.executeTransaction revm checks tx = .ok (.error error, builder))
      (herror : isZkGasLimitExceeded error = false) :
      Happens isCancelled s tx .failed (.error error) { s₁ with builder := builder }

variable {revm checks codec config}
variable {isCancelled : Bool} {s s₁ s' : Selection best} {tx : Recovered}

lemma considered_of_roundEvent
    (h : (roundEvent revm checks codec config isCancelled s tx).considers = true) :
    Considered codec config s tx := by
  rw [roundEvent] at h
  split at h
  · cases h
  · split at h
    · cases h
    · next hcanFit =>
      split at h
      · cases h
      · next hadmitted =>
        split at h
        · cases h
        · next hremembers =>
          refine ⟨by simpa using hcanFit, ?_, hremembers⟩
          exact Option.isNone_iff_eq_none.mp (Option.isSome_eq_false_iff.mp
            (Bool.eq_false_of_not_eq_true hadmitted))

lemma polled_of_roundEvent
    (h : (roundEvent revm checks codec config isCancelled s tx).considers = true) :
    isCancelled = false := by
  rw [roundEvent] at h
  split at h
  · cases h
  · next hpolled => exact Bool.eq_false_of_not_eq_true hpolled

/-- Nothing remembered is nothing to forget. -/
lemma forget_of_none {memory : ZkOverflowMemory} {hash : B256} (h : memory.state hash = none) :
    memory.forget hash = memory := by
  rw [ZkOverflowMemory.forget, ← h]
  exact Function.update_eq_self hash memory

lemma recordExecuted_eq_ok {gasUsed daSize : U64} {remembered : Option B256}
    {answer : Except BlockExecutionError Flow} {earlier : List ExecutedTxList}
    {current : ExecutedTxList} (hlists : s.lists = earlier ++ [current])
    (hremembered : remembered = s.overflows.state tx.tx.hash)
    (h : s.recordExecuted codec checks tx remembered gasUsed daSize = .ok (answer, s')) :
    ∃ totalGasUsed totalDaBytes, plainAdd checks current.totalGasUsed gasUsed = .ok totalGasUsed ∧
      plainAdd checks current.totalDaBytes daSize = .ok totalDaBytes ∧ answer = .ok .next ∧
      s' = { s with
        state := advanceSelectionState codec s.state tx.tx.hash
        overflows := s.overflows.forget tx.tx.hash
        lists := earlier ++ [⟨current.transactions ++ [⟨tx, gasUsed, daSize⟩], totalGasUsed,
          totalDaBytes⟩] } := by
  have hforget : (if remembered.isSome then s.overflows.forget tx.tx.hash else s.overflows)
      = s.overflows.forget tx.tx.hash := by
    split
    · rfl
    · next hnone =>
      rw [hremembered, Bool.not_eq_true, Option.isSome_eq_false_iff,
        Option.isNone_iff_eq_none] at hnone
      exact (forget_of_none hnone).symm
  rw [Selection.recordExecuted, hforget] at h
  simp only [hlists, List.getLast?_append_cons, List.getLast?_singleton,
    List.dropLast_concat] at h
  obtain ⟨totalGasUsed, hgas, h⟩ := bind_eq_ok.mp h
  obtain ⟨totalDaBytes, hda, h⟩ := bind_eq_ok.mp h
  cases h
  exact ⟨totalGasUsed, totalDaBytes, hgas, hda, rfl, rfl⟩

lemma Fitted.builder_eq {answer : Option InvalidPoolTransactionError}
    (h : Fitted codec config s tx answer s₁) : s₁.builder = s.builder := by
  rw [h.same]

lemma Fitted.overflows_eq {answer : Option InvalidPoolTransactionError}
    (h : Fitted codec config s tx answer s₁) : s₁.overflows = s.overflows := by
  rw [h.same]

lemma Fitted.state_eq {answer : Option InvalidPoolTransactionError}
    (h : Fitted codec config s tx answer s₁) : s₁.state = s.state := by
  rw [h.same]

/-- The rounds that execute their candidate. -/
lemma executeCandidate_happens (hconsidered : Considered codec config s tx)
    (hfit : Fitted codec config s tx none s₁) {answer : Except BlockExecutionError Flow}
    (h : executeCandidate revm checks codec config s₁ tx (s.overflows.state tx.tx.hash)
      (codec.daSize tx) = .ok (answer, s')) :
    Happens revm checks codec config isCancelled s tx
      (ranEvent (s.builder.executeTransaction revm checks tx)) answer s' := by
  obtain ⟨⟨ran, builder⟩, hrun, h⟩ := bind_eq_ok.mp h
  rw [hfit.builder_eq] at hrun
  rw [hrun]
  cases ran with
  | ok gasUsed =>
    obtain ⟨earlier, current, hlists, -⟩ := hfit.room rfl
    obtain ⟨totalGasUsed, totalDaBytes, hgas, hda, rfl, rfl⟩ := recordExecuted_eq_ok
      (s := { s₁ with builder := builder }) hlists
      (congrArg (·.state tx.tx.hash) hfit.overflows_eq.symm) h
    have hcommitted : Happens revm checks codec config isCancelled s tx .committed
      (.ok .next) _ := .committed hconsidered hfit hrun hlists hgas hda
    rwa [← hfit.overflows_eq, ← hfit.state_eq] at hcommitted
  | error error =>
    -- the classes of errors: over the budget, invalid, fatal
    dsimp only at h
    split at h
    · next hzk =>
      cases h
      rw [ranEvent, if_pos hzk]
      exact .overflowed hconsidered hfit hrun hzk
    · next hzk =>
      rw [ranEvent, if_neg hzk]
      split at h
      · next hash error =>
        have hinvalid : Happens revm checks codec config isCancelled s tx .invalid
          (.ok .next) _ := .invalid hconsidered hfit hrun
        split at h
        · next hnonce =>
          cases h
          rwa [if_pos hnonce] at hinvalid
        · next hnonce =>
          cases h
          rwa [if_neg hnonce] at hinvalid
      · next hother =>
        cases h
        have hvalid : isInvalidTx error = false := by
          rw [isInvalidTx]
          exact hother
        rw [if_neg (by simp [hvalid])]
        exact .failed hconsidered hfit hrun (Bool.eq_false_of_not_eq_true hzk)

/-- What a round does is what happens at it. -/
theorem selectCandidate_happens (hintact : s.Intact) {answer : Except BlockExecutionError Flow}
    (h : selectCandidate revm checks codec config isCancelled s tx = .ok (answer, s')) :
    Happens revm checks codec config isCancelled s tx
      (roundEvent revm checks codec config isCancelled s tx) answer s' := by
  rw [selectCandidate] at h
  rw [roundEvent]
  split at h
  · next hcancelled =>
    cases h
    rw [if_pos hcancelled]
    exact .cancelled hcancelled
  · next hcancelled =>
    rw [if_neg hcancelled]
    split at h
    · next hgone =>
      cases h
      rw [if_pos hgone]
      exact .budgetGone (by simpa using hgone)
    · next hcanFit =>
      rw [if_neg hcanFit]
      split at h
      · next error hreject =>
        cases h
        rw [hreject, Option.isSome_some, if_pos rfl]
        exact .rejected hreject
      · next hadmitted =>
        rw [hadmitted, Option.isSome_none, if_neg Bool.false_ne_true]
        dsimp only at h
        split at h
        · next hremembers =>
          cases h
          rw [if_pos (show s.Remembers config tx from hremembers)]
          exact .skipped hadmitted hremembers
        · next hremembers =>
          rw [if_neg (show ¬ s.Remembers config tx from hremembers)]
          have hconsidered : Considered codec config s tx :=
            ⟨by simpa using hcanFit, hadmitted, hremembers⟩
          -- the candidate is considered: it is fitted, then run
          obtain ⟨fit, s₁, hrun, hfit⟩ := fitList_spec codec config hintact tx
          obtain ⟨out, hout, h⟩ := bind_eq_ok.mp h
          obtain rfl := Except.ok.inj (hrun.symm.trans hout)
          rw [hrun]
          cases fit with
          | some error =>
            cases h
            exact .unfit hconsidered hfit
          | none => exact executeCandidate_happens hconsidered hfit h

lemma Happens.intact {event : RoundEvent} {answer : Except BlockExecutionError Flow}
    (h : Happens revm checks codec config isCancelled s tx event answer s')
    (hintact : s.Intact) : s'.Intact := by
  cases h with
  | cancelled h => exact hintact
  | budgetGone h => exact hintact
  | rejected h => exact hintact.markInvalid
  | skipped hadmitted h => exact hintact.markInvalid
  | unfit hconsidered hfit => exact hfit.intact.markInvalid
  | committed hconsidered hfit hrun hlists hgas hda =>
    refine ⟨by simp, ?_⟩
    have hlength := hfit.intact.length_eq
    rw [hlists] at hlength
    simpa using hlength
  | overflowed hconsidered hfit hrun herror =>
    exact ⟨by simpa using hfit.intact.ne_nil, by simpa using hfit.intact.length_eq⟩
  | invalid hconsidered hfit hrun => split <;> exact ⟨hfit.intact.ne_nil, hfit.intact.length_eq⟩
  | failed hconsidered hfit hrun herror => exact ⟨hfit.intact.ne_nil, hfit.intact.length_eq⟩

/-- The pool does not grow. -/
lemma Happens.remaining_le {event : RoundEvent} {answer : Except BlockExecutionError Flow}
    (h : Happens revm checks codec config isCancelled s tx event answer s') :
    best.remaining s'.bestTxs ≤ best.remaining s.bestTxs := by
  cases h with
  | cancelled h => exact le_rfl
  | budgetGone h => exact le_rfl
  | rejected h => exact best.markInvalid_le _ _ _
  | skipped hadmitted h => exact best.markInvalid_le _ _ _
  | unfit hconsidered hfit =>
    rw [hfit.same]
    exact best.markInvalid_le _ _ _
  | committed hconsidered hfit hrun hlists hgas hda =>
    rw [hfit.same]
  | overflowed hconsidered hfit hrun herror =>
    rw [Selection.recordOverflow_bestTxs, hfit.same]
    exact best.markInvalid_le _ _ _
  | invalid hconsidered hfit hrun =>
    rw [hfit.same]
    split
    · exact le_rfl
    · exact best.markInvalid_le _ _ _
  | failed hconsidered hfit hrun herror =>
    rw [hfit.same]

end Round

/-! ### The rounds of a call -/

/-- A round: the poll, the state in which the candidate was taken from the pool, and what
the round left. -/
structure Round (best : BestTransactions) where
  isCancelled : Bool
  before : Selection best
  candidate : Recovered
  result : Except Panic (Except BlockExecutionError Flow × Selection best)

/-- The state the loop goes on from, if it does. -/
def Round.next {best : BestTransactions} (r : Round best) : Option (Selection best) :=
  match r.result with
  | .ok (.ok .next, s) => some s
  | _ => none

section Rounds

variable (revm : Revm) (checks : OverflowChecks) (codec : Codec) (config : TxSelectionConfig)
variable {best : BestTransactions}

/-- What happened in a round. -/
def Round.event (r : Round best) : RoundEvent :=
  roundEvent revm checks codec config r.isCancelled r.before r.candidate

lemma Round.considered {r : Round best} (h : (r.event revm checks codec config).considers = true) :
    Considered codec config r.before r.candidate :=
  considered_of_roundEvent h

/-- A round of the loop on a state that has a list. -/
structure Round.Genuine (r : Round best) : Prop where
  intact : r.before.Intact
  result_eq : r.result
    = selectCandidate revm checks codec config r.isCancelled r.before r.candidate

/-- The round on the next candidate of the pool. -/
def roundAt (isCancelled : ℕ → Bool) (i : ℕ) (s : Selection best) :
    Option (Round best × Option (Selection best)) :=
  match best.next s.bestTxs with
  | none => none
  | some (tx, bestTxs) =>
    let before := { s with bestTxs := bestTxs }
    let round : Round best := ⟨isCancelled i, before, tx,
      selectCandidate revm checks codec config (isCancelled i) before tx⟩
    some (round, round.next)

/-- What the loop answers after its last round. -/
def answerAfter (s : Selection best) : Option (Round best) →
    Except Panic (Except BlockExecutionError SelectionOutcome × Selection best)
  | none => .ok (.ok (.completed s.lists), s)
  | some r =>
    match r.result with
    | .error panic => .error panic
    | .ok (.error error, s) => .ok (.error error, s)
    | .ok (.ok .cancelled, s) => .ok (.ok .cancelled, s)
    | .ok (.ok _, s) => .ok (.ok (.completed s.lists), s)

lemma Selection.start_intact (builder : BlockBuilder) (pool : Pool)
    (overflows : ZkOverflowMemory) : (start config builder pool overflows).Intact :=
  ⟨by simp [start], rfl⟩

/-- The rounds of a call. -/
def selectionRounds (builder : BlockBuilder) (pool : Pool) (overflows : ZkOverflowMemory)
    (isCancelled : ℕ → Bool) : List (Round pool.best) :=
  let start := Selection.start config builder pool overflows
  Loop.records (pool.best.remaining start.bestTxs)
    (roundAt revm checks codec config isCancelled) start

variable {revm checks codec config}

/-- The loop answers what its last round says. -/
theorem selectLoop_eq (fuel : ℕ) (isCancelled : ℕ → Bool) (s : Selection best) :
    selectLoop revm checks codec config fuel isCancelled s =
      answerAfter s
        (Loop.records fuel (roundAt revm checks codec config isCancelled) s).getLast? := by
  induction fuel generalizing isCancelled s with
  | zero => rfl
  | succ fuel ih =>
    rw [selectLoop]
    cases hnext : best.next s.bestTxs with
    | none => rw [Loop.records_of_none (by rw [roundAt, hnext])]; rfl
    | some offered =>
      obtain ⟨tx, bestTxs⟩ := offered
      dsimp only
      cases hrun : selectCandidate revm checks codec config (isCancelled 0)
          { s with bestTxs := bestTxs } tx with
      | error panic =>
        rw [Loop.records_of_last (by rw [roundAt, hnext]; simp only [hrun]; rfl)]
        rfl
      | ok out =>
        obtain ⟨answer, s₁⟩ := out
        rcases answer with error | _ | _ | _
        · rw [Loop.records_of_last (by rw [roundAt, hnext]; simp only [hrun]; rfl)]
          rfl
        · rw [Loop.records_of_next (by rw [roundAt, hnext]; simp only [hrun]; rfl)]
          change selectLoop revm checks codec config fuel _ s₁ = _
          rw [ih]
          change answerAfter s₁ (Loop.records fuel
            (fun i => roundAt revm checks codec config isCancelled (i + 1)) s₁).getLast? = _
          cases Loop.records fuel
              (fun i => roundAt revm checks codec config isCancelled (i + 1)) s₁ with
          | nil => rfl
          | cons r rs => rw [List.getLast?_cons_cons]; rfl
        · rw [Loop.records_of_last (by rw [roundAt, hnext]; simp only [hrun]; rfl)]
          rfl
        · rw [Loop.records_of_last (by rw [roundAt, hnext]; simp only [hrun]; rfl)]
          rfl

lemma selectAndExecutePoolTransactions_eq (builder : BlockBuilder) (pool : Pool)
    (overflows : ZkOverflowMemory) (isCancelled : ℕ → Bool) :
    selectAndExecutePoolTransactions revm checks codec config builder pool overflows isCancelled =
      answerAfter (.start config builder pool overflows)
        (selectionRounds revm checks codec config builder pool overflows isCancelled).getLast? :=
  selectLoop_eq _ _ _

lemma Round.Genuine.happens {r : Round best} (h : r.Genuine revm checks codec config)
    {answer : Except BlockExecutionError Flow} {s' : Selection best}
    (hresult : r.result = .ok (answer, s')) :
    Happens revm checks codec config r.isCancelled r.before r.candidate
      (r.event revm checks codec config) answer s' :=
  selectCandidate_happens h.intact (h.result_eq.symm.trans hresult)

lemma Round.next_eq_some {r : Round best} {s' : Selection best} :
    r.next = some s' ↔ r.result = .ok (.ok .next, s') := by
  rw [Round.next]
  split
  · next s hresult => simp [hresult]
  · next hother =>
    simp only [reduceCtorEq, false_iff]
    exact hother s'

/-- A round takes the next candidate of the pool and runs the body of the loop on it. -/
lemma roundAt_eq_some {isCancelled : ℕ → Bool} {i : ℕ} {s : Selection best} {r : Round best}
    {next : Option (Selection best)}
    (h : roundAt revm checks codec config isCancelled i s = some (r, next)) :
    ∃ bestTxs, best.next s.bestTxs = some (r.candidate, bestTxs) ∧
      r.before = { s with bestTxs := bestTxs } ∧ next = r.next ∧ r.result
        = selectCandidate revm checks codec config r.isCancelled r.before r.candidate := by
  rw [roundAt] at h
  split at h
  · cases h
  · next tx bestTxs hnext =>
    cases h
    exact ⟨bestTxs, hnext, rfl, rfl, rfl⟩

/-- What a round preserves, given the rounds before it, holds before every round. -/
theorem rounds_rule {I : List (Round best) → Selection best → Prop}
    {P : List (Round best) → Round best → Prop}
    (hoffer : ∀ rs s bestTxs, I rs s → I rs { s with bestTxs := bestTxs })
    (hround : ∀ rs r, r.Genuine revm checks codec config → I rs r.before →
      P rs r ∧ ∀ s', r.next = some s' → I (rs ++ [r]) s')
    {fuel : ℕ} {isCancelled : ℕ → Bool} {s : Selection best} (hintact : s.Intact) (hs : I [] s)
    {before after : List (Round best)} {r : Round best}
    (heq : Loop.records fuel (roundAt revm checks codec config isCancelled) s
      = before ++ r :: after) : P before r := by
  refine Loop.records_rule (I := fun rs s => s.Intact ∧ I rs s) (P := P) ?_ ⟨hintact, hs⟩ heq
  rintro i rs s r next ⟨hintact, hs⟩ hstep
  obtain ⟨bestTxs, -, hbefore, rfl, hresult⟩ := roundAt_eq_some hstep
  have hgenuine : r.Genuine revm checks codec config :=
    ⟨hbefore ▸ ⟨hintact.ne_nil, hintact.length_eq⟩, hresult⟩
  obtain ⟨hP, hI⟩ := hround rs r hgenuine (hbefore ▸ hoffer rs s bestTxs hs)
  refine ⟨hP, fun s' hnext => ⟨?_, hI s' hnext⟩⟩
  exact (hgenuine.happens (Round.next_eq_some.mp hnext)).intact hgenuine.intact

/-- The loop ends where its last round ends it, or with the pool. -/
theorem rounds_end (revm : Revm) (checks : OverflowChecks) (codec : Codec)
    (config : TxSelectionConfig) (isCancelled : ℕ → Bool) {fuel : ℕ} {s : Selection best}
    (hintact : s.Intact) (hfuel : best.remaining s.bestTxs ≤ fuel) :
    (Loop.records fuel (roundAt revm checks codec config isCancelled) s = [] →
      best.next s.bestTxs = none) ∧
    ∀ init last, Loop.records fuel (roundAt revm checks codec config isCancelled) s
        = init ++ [last] → ∀ s', last.next = some s' → best.next s'.bestTxs = none := by
  have hover : ∀ i s, roundAt revm checks codec config isCancelled i s = none →
      best.next s.bestTxs = none := by
    intro i s h
    rw [roundAt] at h
    split at h
    · assumption
    · cases h
  have hlower : ∀ i (s : Selection best) r next, s.Intact →
      roundAt revm checks codec config isCancelled i s = some (r, next) →
      0 < best.remaining s.bestTxs ∧ ∀ s', next = some s' →
        s'.Intact ∧ best.remaining s'.bestTxs < best.remaining s.bestTxs := by
    intro i s r next hintact hstep
    obtain ⟨bestTxs, hnext, hbefore, rfl, hresult⟩ := roundAt_eq_some hstep
    have hlt := best.next_lt hnext
    have hgenuine : r.Genuine revm checks codec config :=
      ⟨hbefore ▸ ⟨hintact.ne_nil, hintact.length_eq⟩, hresult⟩
    refine ⟨by omega, fun s' hs' => ?_⟩
    have hhappens := hgenuine.happens (Round.next_eq_some.mp hs')
    have hle := hhappens.remaining_le
    rw [hbefore] at hle
    exact ⟨hhappens.intact hgenuine.intact, lt_of_le_of_lt hle hlt⟩
  obtain ⟨hnil, hlast⟩ :=
    Loop.records_end (fun s : Selection best => best.remaining s.bestTxs) hlower hintact hfuel
  refine ⟨fun h => hover 0 s (hnil h), fun init last heq s' hnext => ?_⟩
  obtain ⟨i, s₀, next, hround, hend⟩ := hlast init last heq
  obtain ⟨bestTxs, -, -, rfl, -⟩ := roundAt_eq_some hround
  exact hover (i + 1) s' (hend s' hnext)

/-- A call that answers stopped at its start, or after a round whose answer it passes on. -/
lemma answerAfter_eq_ok {s s' : Selection best} {last : Option (Round best)}
    {answer : Except BlockExecutionError SelectionOutcome}
    (h : answerAfter s last = .ok (answer, s')) :
    (last = none ∧ s' = s ∧ answer = .ok (.completed s.lists)) ∨
      ∃ r ran, last = some r ∧ r.result = .ok (ran, s') ∧
        ((∃ error, ran = .error error ∧ answer = .error error) ∨ answer = .ok .cancelled ∨
          answer = .ok (.completed s'.lists)) := by
  cases last with
  | none =>
    cases h
    exact .inl ⟨rfl, rfl, rfl⟩
  | some r =>
    right
    rw [answerAfter] at h
    split at h
    · cases h
    · next error s₁ hresult =>
      cases h
      exact ⟨r, _, rfl, hresult, .inl ⟨error, rfl, rfl⟩⟩
    · next s₁ hresult =>
      cases h
      exact ⟨r, _, rfl, hresult, .inr (.inl rfl)⟩
    · next flow s₁ _ hresult =>
      cases h
      exact ⟨r, _, rfl, hresult, .inr (.inr rfl)⟩

section Invariant

variable {builder : BlockBuilder} {pool : Pool} {overflows : ZkOverflowMemory}
variable {isCancelled : ℕ → Bool}

/-- What the rounds of a call preserve holds before every one of them. -/
theorem selection_rounds_rule {I : Selection pool.best → Prop}
    (hoffer : ∀ s bestTxs, I s → I { s with bestTxs := bestTxs })
    (hround : ∀ r ∈ selectionRounds revm checks codec config builder pool overflows isCancelled,
      r.Genuine revm checks codec config → I r.before →
        ∀ answer s', r.result = .ok (answer, s') → I s')
    (hstart : I (.start config builder pool overflows)) {r : Round pool.best}
    (hr : r ∈ selectionRounds revm checks codec config builder pool overflows isCancelled) :
    r.Genuine revm checks codec config ∧ I r.before := by
  obtain ⟨before, after, heq⟩ := List.append_of_mem hr
  -- the rule speaks of any round, so the rounds so far are carried along as those of the call
  let rounds := selectionRounds revm checks codec config builder pool overflows isCancelled
  have hrule := rounds_rule (I := fun rs s => rs ⊆ rounds → I s)
    (P := fun rs r => r.Genuine revm checks codec config ∧ (rs ⊆ rounds → I r.before))
    (fun _ s bestTxs h hsub => hoffer s bestTxs (h hsub))
    (fun rs r hgenuine h => ⟨⟨hgenuine, h⟩, fun s' hnext hsub => hround r
      (hsub (List.mem_append_right _ (List.mem_singleton_self r))) hgenuine
      (h fun r' hr' => hsub (List.mem_append_left _ hr')) _ s' (Round.next_eq_some.mp hnext)⟩)
    (Selection.start_intact config builder pool overflows) (fun _ => hstart) heq
  refine ⟨hrule.1, hrule.2 fun r' hr' => ?_⟩
  change r' ∈ selectionRounds revm checks codec config builder pool overflows isCancelled
  rw [heq]
  exact List.mem_append_left _ hr'

/-- What every round preserves holds before every round of a call. -/
theorem selection_rounds_invariant {I : Selection pool.best → Prop}
    (hoffer : ∀ s bestTxs, I s → I { s with bestTxs := bestTxs })
    (hhappens : ∀ isCancelled s tx event answer s',
      Happens revm checks codec config isCancelled s tx event answer s' → I s → I s')
    (hstart : I (.start config builder pool overflows)) {r : Round pool.best}
    (hr : r ∈ selectionRounds revm checks codec config builder pool overflows isCancelled) :
    r.Genuine revm checks codec config ∧ I r.before :=
  selection_rounds_rule hoffer (fun _ _ hgenuine h _ _ hresult =>
    hhappens _ _ _ _ _ _ (hgenuine.happens hresult) h) hstart hr

/-- What every round preserves holds where a call ends. -/
theorem selection_invariant {I : Selection pool.best → Prop}
    (hoffer : ∀ s bestTxs, I s → I { s with bestTxs := bestTxs })
    (hhappens : ∀ isCancelled s tx event answer s',
      Happens revm checks codec config isCancelled s tx event answer s' → I s → I s')
    (hstart : I (.start config builder pool overflows))
    {answer : Except BlockExecutionError SelectionOutcome} {s' : Selection pool.best}
    (h : selectAndExecutePoolTransactions revm checks codec config builder pool overflows
      isCancelled = .ok (answer, s')) : s'.Intact ∧ I s' := by
  rw [selectAndExecutePoolTransactions_eq] at h
  rcases answerAfter_eq_ok h with ⟨-, rfl, -⟩ | ⟨r, ran, hlast, hresult, -⟩
  · exact ⟨Selection.start_intact config builder pool overflows, hstart⟩
  · obtain ⟨hgenuine, hI⟩ := selection_rounds_invariant hoffer hhappens hstart
      (List.mem_of_getLast? hlast)
    have hround := hgenuine.happens hresult
    exact ⟨hround.intact hgenuine.intact, hhappens _ _ _ _ _ _ hround hI⟩

/-- A call that completes returns the lists of the state it ends in. -/
lemma completed_lists {lists : List ExecutedTxList} {s : Selection pool.best}
    (h : selectAndExecutePoolTransactions revm checks codec config builder pool overflows
      isCancelled = .ok (.ok (.completed lists), s)) : lists = s.lists := by
  rw [selectAndExecutePoolTransactions_eq] at h
  rcases answerAfter_eq_ok h with ⟨-, rfl, hanswer⟩ | ⟨r, ran, -, -, hanswer⟩
  · cases hanswer
    rfl
  · rcases hanswer with ⟨error, -, hanswer⟩ | hanswer | hanswer
    · cases hanswer
    · cases hanswer
    · cases hanswer
      rfl

end Invariant

end Rounds

end TxSelection

end AlethiaReth
