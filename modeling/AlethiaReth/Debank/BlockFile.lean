import AlethiaReth.Block.Executor
import AlethiaReth.Debank.Formatting

/-!
The arrays of a block, and the check of its events against the stored receipts: the arrays of every
transaction account for its arena, and if its receipt has the logs that survive, the block file
passes the check (`debankTraces_account_for_arenas`).
-/

namespace AlethiaReth.Debank

open MachineInt Outcome

variable (results : List TraceArrays) {events : List DebankEvent}

/-- What the replay of a transaction leaves to the formatter. -/
structure TracedTransaction where
  txHash : B256
  nodes : List CallTraceNode
  exactErrors : List (Option String)

/-- The arrays of every transaction. -/
def traceTransactions (md5 : String → BitVec 128) : List TracedTransaction → ℕ →
    Except FormatError (List TraceArrays)
  | [], _ => .ok []
  | tx :: txs, logIndex => do
    let (arrays, next) ← buildDebankTraces md5 tx.txHash tx.nodes tx.exactErrors logIndex
    let rest ← traceTransactions md5 txs next
    pure (arrays :: rest)

/-- The arrays of a block. -/
structure BlockFile where
  events : List DebankEvent := []
  traces : List DebankTrace := []
  errorEvents : List DebankEvent := []
  errorTraces : List DebankTrace := []
  deriving DecidableEq, Repr

variable (file : BlockFile)

/-- Adds those of a transaction. -/
def BlockFile.extend (arrays : TraceArrays) : BlockFile where
  events := file.events ++ arrays.events
  traces := file.traces ++ arrays.traces
  errorEvents := file.errorEvents ++ arrays.errorEvents
  errorTraces := file.errorTraces ++ arrays.errorTraces

/-- The arrays of all transactions. -/
def blockFile : BlockFile := results.foldl BlockFile.extend {}

lemma foldl_extend (file : BlockFile) :
    results.foldl BlockFile.extend file =
      ⟨file.events ++ results.flatMap (·.events), file.traces ++ results.flatMap (·.traces),
        file.errorEvents ++ results.flatMap (·.errorEvents),
        file.errorTraces ++ results.flatMap (·.errorTraces)⟩ := by
  induction results generalizing file with
  | nil => simp
  | cons arrays results ih =>
    rw [List.foldl_cons, ih]
    simp [BlockFile.extend]

/-- The arrays of a block file are those of the transactions one after another. -/
lemma blockFile_eq :
    blockFile results =
      ⟨results.flatMap (·.events), results.flatMap (·.traces), results.flatMap (·.errorEvents),
        results.flatMap (·.errorTraces)⟩ := by
  rw [blockFile, foldl_extend]
  simp

/-! ### The check of the events -/

/-- Why events are not those of the receipts. -/
inductive EventsError where
  | count (formatted stored : ℕ)
  | outside (idx : ℕ)
  | duplicated (idx : ℕ)
  | differs (idx : ℕ)
  deriving DecidableEq, Repr

/-- An event is the stored log at its index. -/
def checkEvent (storedLogs : List Log) (seen : List ℕ) (event : DebankEvent) :
    Except EventsError (List ℕ) :=
  match storedLogs[event.idx]? with
  | none => .error (.outside event.idx)
  | some log =>
    if event.idx ∈ seen then .error (.duplicated event.idx)
    else
      let selector := (log.topics.head?.map displayHash).getD ""
      let remaining := if log.topics = [] then none else some (log.topics.tail.map displayHash)
      if event.contractId ≠ log.address ∨ event.selector ≠ selector ∨
          event.topics ≠ remaining ∨ event.data ≠ log.data then
        .error (.differs event.idx)
      else .ok (event.idx :: seen)

/-- The events are the stored logs. -/
def validateFormattedEvents (receipts : List Receipt) :
    Except EventsError Unit := do
  let storedLogs := receipts.flatMap (·.logs)
  ensure (file.events.length = storedLogs.length) (.count file.events.length storedLogs.length)
  let _ ← file.events.foldlM (checkEvent storedLogs) []
  pure ()

/-- An event passes with the content of the log at its index. -/
lemma checkEvent_ok {storedLogs : List Log} {seen : List ℕ} {event : DebankEvent} {log : Log}
    (hlog : storedLogs[event.idx]? = some log) (hseen : event.idx ∉ seen)
    (hcontent : event.content = logContent log) :
    checkEvent storedLogs seen event = .ok (event.idx :: seen) := by
  have hcontract := congrArg DebankEvent.contractId hcontent
  have hselector := congrArg DebankEvent.selector hcontent
  have htopics := congrArg DebankEvent.topics hcontent
  have hdata := congrArg DebankEvent.data hcontent
  rw [checkEvent, hlog]
  dsimp only
  rw [if_neg hseen, if_neg]
  rintro (h | h | h | h)
  · exact h hcontract
  · exact h hselector
  · exact h htopics
  · exact h hdata

lemma foldlM_checkEvent {storedLogs : List Log} {seen : List ℕ}
    (hnodup : (events.map (·.idx)).Nodup) (hseen : ∀ event ∈ events, event.idx ∉ seen)
    (hlogs : ∀ event ∈ events, ∃ log, storedLogs[event.idx]? = some log ∧
      event.content = logContent log) :
    ∃ seen', events.foldlM (checkEvent storedLogs) seen = .ok seen' := by
  induction events generalizing seen with
  | nil => exact ⟨seen, rfl⟩
  | cons event events ih =>
    rw [List.map_cons, List.nodup_cons] at hnodup
    obtain ⟨log, hlog, hcontent⟩ := hlogs event List.mem_cons_self
    rw [List.foldlM_cons, checkEvent_ok hlog (hseen event List.mem_cons_self) hcontent]
    refine ih hnodup.2 (fun other hother => ?_) fun other hother =>
      hlogs other (List.mem_cons_of_mem _ hother)
    rw [List.mem_cons, not_or]
    refine ⟨fun heq => hnodup.1 ?_, hseen other (List.mem_cons_of_mem _ hother)⟩
    rw [← heq]
    exact List.mem_map_of_mem hother

/-- Events that are, in some order, those of the stored logs by index pass. -/
lemma validateFormattedEvents_ok {file : BlockFile} {receipts : List Receipt}
    (hperm : file.events.Perm events) (hindices : events.map (·.idx) = List.range events.length)
    (hcontents : List.Forall₂ (fun event log => event.content = logContent log) events
      (receipts.flatMap (·.logs))) :
    validateFormattedEvents file receipts = .ok () := by
  have hnodup : (file.events.map (·.idx)).Nodup := by
    rw [(hperm.map _).nodup_iff, hindices]
    exact List.nodup_range
  have hlogs : ∀ event ∈ file.events, ∃ log, (receipts.flatMap (·.logs))[event.idx]? = some log ∧
      event.content = logContent log := by
    intro event hevent
    obtain ⟨i, hi, rfl⟩ := List.getElem_of_mem (hperm.mem_iff.mp hevent)
    have hi' : i < (receipts.flatMap (·.logs)).length := hcontents.length_eq ▸ hi
    have hidx : (events[i]).idx = i := by
      have hget := congrArg (fun l : List ℕ => l[i]?) hindices
      rw [List.getElem?_map, List.getElem?_eq_getElem hi, List.getElem?_range hi] at hget
      exact Option.some.inj hget
    rw [hidx]
    exact ⟨_, List.getElem?_eq_getElem hi', hcontents.get hi hi'⟩
  obtain ⟨seen, hfold⟩ := foldlM_checkEvent hnodup (fun _ _ => List.not_mem_nil) hlogs
  rw [validateFormattedEvents, ensure_of (hperm.length_eq.trans hcontents.length_eq), hfold]
  rfl

/-! ### The events of a block -/

/-- The events of the transactions, in execution order: numbered from the index on, with the
content of the receipts' logs. -/
lemma traceTransactions_events {md5 : String → BitVec 128} {txs : List TracedTransaction}
    {receipts : List Receipt}
    (hreceipts : List.Forall₂ (fun tx receipt => transactionLogs tx.nodes = receipt.logs) txs
      receipts) {logIndex : ℕ} {results : List TraceArrays}
    (h : traceTransactions md5 txs logIndex = .ok results) :
    ∃ events, (results.flatMap (·.events)).Perm events ∧
      events.map (·.idx) = List.range' logIndex events.length ∧
      List.Forall₂ (fun event log => event.content = logContent log) events
        (receipts.flatMap (·.logs)) := by
  induction hreceipts generalizing logIndex results with
  | nil =>
    cases h
    exact ⟨[], .nil, rfl, .nil⟩
  | @cons tx receipt txs receipts hlogs _ ih =>
    rw [traceTransactions] at h
    obtain ⟨⟨arrays, next⟩, hbuild, h⟩ := bind_eq_ok.mp h
    obtain ⟨rest, hrest, h⟩ := bind_eq_ok.mp h
    cases h
    obtain ⟨entries, logged, haccounts⟩ := buildDebankTraces_accounts hbuild
    obtain ⟨events, hperm, hindices, hcontents⟩ := ih hrest
    refine ⟨(logged.filter (·.survives)).map (·.event) ++ events, ?_, ?_, ?_⟩
    · exact haccounts.events.append hperm
    · have hnumbered := haccounts.numbered
      rw [List.map_append, List.map_map, hindices, haccounts.next_eq, List.length_append,
        List.length_map, ← List.range'_append_1]
      exact congrArg (· ++ _) hnumbered
    · rw [List.flatMap_cons, ← hlogs]
      exact List.rel_append haccounts.surviving hcontents

/-- The arrays of every transaction account for its arena, whatever the log index, which does
not overflow where it has room for the logs. In a block whose receipts have the logs that
survive, the events pass the check. -/
theorem debankTraces_account_for_arenas (md5 : String → BitVec 128) :
    (∀ txHash nodes exactErrors logIndex arrays next,
      buildDebankTraces md5 txHash nodes exactErrors logIndex = .ok (arrays, next) →
      ∃ entries logged, Accounts nodes exactErrors logIndex arrays next entries logged) ∧
    (∀ txHash nodes exactErrors logIndex, logIndex + (allLogs nodes).length < 2 ^ 64 →
      buildDebankTraces md5 txHash nodes exactErrors logIndex ≠ .error .indexOverflow) ∧
    ∀ txs results receipts, traceTransactions md5 txs 0 = .ok results →
      List.Forall₂ (fun (tx : TracedTransaction) (receipt : Receipt) =>
        transactionLogs tx.nodes = receipt.logs) txs receipts →
      validateFormattedEvents (blockFile results) receipts = .ok () := by
  refine ⟨fun _ _ _ _ _ _ h => buildDebankTraces_accounts h, ?_, ?_⟩
  · intro txHash nodes exactErrors logIndex hfits hoverflow
    have hreports := @buildDebankTraces_reports md5 nodes exactErrors _ txHash logIndex
      fun hvalid hroom => hvalid.leafCount_eq ▸ hroom
    rw [hoverflow] at hreports
    exact hreports.2.1 hfits rfl
  intro txs results receipts h hlogs
  obtain ⟨events, hperm, hindices, hcontents⟩ := traceTransactions_events hlogs h
  refine validateFormattedEvents_ok ?_ ?_ hcontents
  · rw [blockFile_eq]
    exact hperm
  · rw [hindices, List.range_eq_range']

/-- A frame without calls that emits one log and ends in a status. -/
def loggingNode (index : ℕ) (status : InstructionResult) (topic : B256) : CallTraceNode where
  parent := some 0
  children := []
  idx := index
  trace := ⟨status.isOk, 1, 2, .call, 0, [], [], 10, 20, some status, [sstore], none, none, none⟩
  logs := [⟨[topic], [7]⟩]
  ordering := [.step 0, .log 0]
  isSelfdestruct := status = .selfDestruct

/-- A frame that emits a log between a call that reverts and one that destroys itself. -/
def nestedArena : List CallTraceNode :=
  [{ loggingNode 0 .stop 5 with
      parent := none, children := [1, 2], ordering := [.call 0, .log 0, .call 1] },
    loggingNode 1 .revert 6, loggingNode 2 .selfDestruct 7]

/-- Two transactions of that shape. -/
def nestedTransactions : List TracedTransaction :=
  [⟨1, nestedArena, [none, none, none]⟩, ⟨2, nestedArena, [none, none, none]⟩]

/-- The receipt of the nested calls. -/
def nestedReceipt : Receipt where
  txType := .legacy
  success := true
  cumulativeGasUsed := 0
  logs := [⟨2, [5], [7]⟩, ⟨2, [7], [7]⟩]

/-- The arrays of three nested calls. -/
theorem debankTraces_account_for_nested :
    (∃ arrays entries logged,
      buildDebankTraces (fun text => .ofNat 128 text.length) 1 nestedArena [none, none, none] 5 =
        .ok (arrays, 7) ∧
      Accounts nestedArena [none, none, none] 5 arrays 7 entries logged) ∧
    ∃ results,
      traceTransactions (fun text => .ofNat 128 text.length) nestedTransactions 0 =
        .ok results ∧
      validateFormattedEvents (blockFile results) [nestedReceipt, nestedReceipt] = .ok () := by
  have hmd5 := debankTraces_account_for_arenas fun text => .ofNat 128 text.length
  constructor
  · have hnext : (buildDebankTraces (fun text => .ofNat 128 text.length) 1 nestedArena
        [none, none, none] 5).toOption.map Prod.snd = some 7 := by decide +kernel
    rcases hbuild : buildDebankTraces (fun text => .ofNat 128 text.length) 1 nestedArena
        [none, none, none] 5 with error | ⟨arrays, next⟩
    · rw [hbuild] at hnext
      cases hnext
    · rw [hbuild] at hnext
      cases hnext
      obtain ⟨entries, logged, haccounts⟩ := hmd5.1 _ _ _ _ _ _ hbuild
      exact ⟨arrays, entries, logged, rfl, haccounts⟩
  · have hsome : (traceTransactions (fun text => .ofNat 128 text.length)
        nestedTransactions 0).isOk = true := by decide +kernel
    rcases htrace : traceTransactions (fun text => .ofNat 128 text.length)
        nestedTransactions 0 with error | results
    · rw [htrace] at hsome
      cases hsome
    · have hlogs : transactionLogs nestedArena = nestedReceipt.logs := by decide +kernel
      exact ⟨results, rfl, hmd5.2.2 _ _ _ htrace (.cons hlogs (.cons hlogs .nil))⟩

end AlethiaReth.Debank
