import AlethiaReth.Evm.Revm
import AlethiaReth.Debank.Traces

/-!
The arrays of a transaction account for its arena: every frame and log comes once, in the array of
its fate, and the logs that survive are numbered in execution order (`buildDebankTraces_accounts`).

The tree that the code builds is a `Built` one (`buildNode_built`), and what holds of the entries is
by induction on it.
-/

namespace AlethiaReth.Debank

open MachineInt Outcome

/-! ### Sources -/

/-- What a trace entry stands for, by the index of the frame. -/
inductive Source where
  | frame (index : ℕ)
  | suicide (index : ℕ)
  deriving DecidableEq, Repr

/-- The node it is of. -/
def Source.index : Source → ℕ
  | .frame index => index
  | .suicide index => index

/-- A trace entry without its place, its fate and what it has from its members. -/
def DebankTrace.content (trace : DebankTrace) : DebankTrace :=
  { trace with
    id := "", txId := "", parentTraceId := "", posInParentTrace := 0, traceAddress := []
    storageChange := false, subtraces := 0, error := "" }

/-- An event without its place and its index. -/
def DebankEvent.content (event : DebankEvent) : DebankEvent :=
  { event with id := "", parentTraceId := "", posInParentTrace := 0, idx := 0 }

/-- The content of the event of a log. -/
def logContent (log : Log) : DebankEvent :=
  { eventFromLog ⟨log.topics, log.data⟩ with contractId := log.address }

section Sources

variable (nodes : List CallTraceNode) (exactErrors : List (Option String))

/-- An entry has the content of its source. -/
def Describes : Source → DebankTrace → Prop
  | .frame index, trace => ∃ node exactError bare, nodes[index]? = some node ∧
      exactErrors[index]? = some exactError ∧ traceFromNode node exactError = .ok bare ∧
      trace.content = bare.content
  | .suicide index, trace => ∃ node, nodes[index]? = some node ∧ node.isSelfdestruct = true ∧
      trace.content =
        { fromAddr := node.trace.selfdestructAddress.getD 0
          toAddr := node.trace.selfdestructRefundTarget.getD 0
          value := node.trace.selfdestructTransferredValue.getD 0
          callCreateType := "suicide" }

/-- A log of a frame by its position, as receipts have it. -/
def logAt (index position : ℕ) : Option Log := do
  let node ← nodes[index]?
  let log ← node.logs[position]?
  pure ⟨node.executionAddress, log.topics, log.data⟩

/-- The event is a log of the node. -/
def DescribesLog (index position : ℕ) (event : DebankEvent) : Prop :=
  ∃ log, logAt nodes index position = some log ∧ event.content = logContent log

/-- The frame succeeded, and so did the frames around it. -/
inductive Succeeds : ℕ → Prop
  | root {i : ℕ} {node : CallTraceNode} (hnode : nodes[i]? = some node)
      (hparent : node.parent = none) (h : node.trace.success = true) : Succeeds i
  | call {i j : ℕ} {node : CallTraceNode} (hnode : nodes[i]? = some node)
      (hparent : node.parent = some j) (h : node.trace.success = true) (hj : Succeeds j) :
      Succeeds i

/-- The node destroyed itself. -/
def selfdestructs (index : ℕ) : Bool := (nodes[index]?).any (·.isSelfdestruct)

/-- The logs of the frames that succeed with all around them, in execution order. -/
def survivingLogs : ℕ → Bool → CallTree → List Log
  | _, _, .nil => []
  | index, survives, .leaf position rest =>
    (if survives then (logAt nodes index position).toList else [])
      ++ survivingLogs index survives rest
  | index, survives, .node (_, child) inner rest =>
    survivingLogs child (survives && (nodes[child]?).any (·.trace.success)) inner
      ++ survivingLogs index survives rest

/-- The logs that a transaction leaves. -/
def transactionLogs : List Log :=
  survivingLogs nodes 0 ((nodes[0]?).any (·.trace.success)) (executionTree nodes)

/-- The logs of an arena by frame and position. -/
def allLogs : List (ℕ × ℕ) :=
  (List.range nodes.length).flatMap fun i =>
    (List.range ((nodes[i]?).elim 0 (·.logs.length))).map (i, ·)

end Sources

/-- The logs in execution order: depth first, along the orderings. -/
def CallTree.executionOrder (tree : CallTree) : List (ℕ × ℕ) := tree.leavesIn Prod.snd 0

/-! ### The tree with its sources -/

/-- Members with what they stand for; a log is named by its position. -/
abbrev Labelled := Forest (Source × Frame) (ℕ × DebankEvent)

/-- The members without labels. -/
def Labelled.members (labelled : Labelled) : Members := labelled.map Prod.snd Prod.snd

/-- What a log has from its frame: the index, and whether it survives. -/
def logMark (label : Source × Frame) : ℕ × Bool :=
  (label.1.index, label.2.effectiveSucceeded)

section Built

variable (md5 : String → BitVec 128) (txId : String) (nodes : List CallTraceNode)
  (exactErrors : List (Option String))

/-- The members that the code builds of the frame at an index, along an ordering, from a
position and a log index on: the tree unfolded, the members, and the next log index. -/
inductive Built : ℕ → CallTraceNode → Frame → List TraceMemberOrder → ℕ → ℕ → CallTree →
    Labelled → ℕ → Prop
  | done {index : ℕ} {node : CallTraceNode} {frame : Frame} {position logIndex : ℕ}
      (h : node.isSelfdestruct = false) :
      Built index node frame [] position logIndex .nil .nil logIndex
  | suicide {index : ℕ} {node : CallTraceNode} {frame : Frame} {position logIndex : ℕ}
      (h : node.isSelfdestruct = true) :
      Built index node frame [] position logIndex .nil
        (.node (.suicide index, frame.suicide md5 txId node position) .nil .nil) logIndex
  | step {index : ℕ} {node : CallTraceNode} {frame : Frame} {position logIndex next : ℕ}
      {ordering : List TraceMemberOrder} {tree : CallTree} {labelled : Labelled} (i : ℕ)
      (h : Built index node frame ordering position logIndex tree labelled next) :
      Built index node frame (.step i :: ordering) position logIndex tree labelled next
  | log {index : ℕ} {node : CallTraceNode} {frame : Frame} {position logIndex next i : ℕ}
      {ordering : List TraceMemberOrder} {tree : CallTree} {labelled : Labelled} {log : CallLog}
      (hlog : node.logs[i]? = some log)
      (h : Built index node frame ordering (position + 1)
        (if frame.effectiveSucceeded then logIndex + 1 else logIndex) tree labelled next) :
      Built index node frame (.log i :: ordering) position logIndex (.leaf i tree)
        (.leaf (i, frame.event md5 node position logIndex log) labelled) next
  | call {index : ℕ} {node : CallTraceNode} {frame : Frame} {position logIndex mid next : ℕ}
      {i childIndex : ℕ} {ordering : List TraceMemberOrder} {innerTree tree : CallTree}
      {inner labelled : Labelled} {child : CallTraceNode} {opened : Frame}
      (hindex : node.children[i]? = some childIndex) (hchild : nodes[childIndex]? = some child)
      (hopen : openFrame md5 txId exactErrors (frame.childPlace position i) child = .ok opened)
      (hinner : Built childIndex child opened child.ordering 0 logIndex innerTree inner mid)
      (hrest : Built index node frame ordering (position + 1) mid tree labelled next) :
      Built index node frame (.call i :: ordering) position logIndex
        (.node (i, childIndex) innerTree tree)
        (.node (.frame childIndex, opened.close inner.members) inner labelled) next

end Built

section Spec

variable {md5 : String → BitVec 128} {txId : String} {nodes : List CallTraceNode}
  {exactErrors : List (Option String)}

/-- Members are built, if calls are. -/
lemma buildMembers_built
    {build : Place → CallTraceNode → ℕ → Except FormatError ((Frame × Members) × ℕ)}
    (hbuild : ∀ place child logIndex label inner next,
      build place child logIndex = .ok ((label, inner), next) → ∀ index,
      ∃ opened tree labelled, openFrame md5 txId exactErrors place child = .ok opened ∧
        label = opened.close inner ∧ labelled.members = inner ∧
        Built md5 txId nodes exactErrors index child opened child.ordering 0 logIndex tree
          labelled next)
    {frame : Frame} {node : CallTraceNode} {ordering : List TraceMemberOrder}
    {position logIndex next : ℕ} {members : Members}
    (h : buildMembers md5 txId nodes build frame node ordering position logIndex =
      .ok (members, next)) (index : ℕ) :
    ∃ tree labelled, labelled.members = members ∧
      Built md5 txId nodes exactErrors index node frame ordering position logIndex tree labelled
        next := by
  -- along the ordering; what a call builds is given by hbuild
  induction ordering generalizing position logIndex members with
  | nil =>
    rw [buildMembers] at h
    cases h
    split
    · next hsuicide => exact ⟨.nil, _, rfl, .suicide hsuicide⟩
    · next hdone => exact ⟨.nil, .nil, rfl, .done (Bool.eq_false_iff.mpr hdone)⟩
  | cons member ordering ih =>
    cases member with
    | step i =>
      obtain ⟨tree, labelled, hmembers, hbuilt⟩ := ih h
      exact ⟨tree, labelled, hmembers, .step i hbuilt⟩
    | log i =>
      rw [buildMembers] at h
      split at h
      · cases h
      · next log hlog =>
        obtain ⟨mid, hmid, h⟩ := bind_eq_ok.mp h
        obtain rfl := nextIndex_eq_ok hmid
        obtain ⟨⟨rest, next⟩, hrest, h⟩ := bind_eq_ok.mp h
        cases h
        obtain ⟨tree, labelled, rfl, hbuilt⟩ := ih hrest
        exact ⟨_, _, rfl, .log hlog hbuilt⟩
    | call i =>
      rw [buildMembers] at h
      split at h
      · cases h
      · next childIndex hindex =>
        split at h
        · cases h
        · next child hchild =>
          obtain ⟨⟨⟨label, inner⟩, mid⟩, hinner, h⟩ := bind_eq_ok.mp h
          obtain ⟨⟨rest, next⟩, hrest, h⟩ := bind_eq_ok.mp h
          cases h
          obtain ⟨opened, innerTree, innerLabelled, hopen, rfl, rfl, hbuilt⟩ :=
            hbuild _ _ _ _ _ _ hinner childIndex
          obtain ⟨tree, labelled, rfl, hbuiltRest⟩ := ih hrest
          exact ⟨_, _, rfl, .call hindex hchild hopen hbuilt hbuiltRest⟩

/-- What the code builds of a node. -/
lemma buildNode_built {depth : ℕ} {place : Place} {node : CallTraceNode} {logIndex next : ℕ}
    {label : Frame} {members : Members}
    (h : buildNode md5 txId nodes exactErrors depth place node logIndex =
      .ok ((label, members), next)) (index : ℕ) :
    ∃ opened tree labelled, openFrame md5 txId exactErrors place node = .ok opened ∧
      label = opened.close members ∧ labelled.members = members ∧
      Built md5 txId nodes exactErrors index node opened node.ordering 0 logIndex tree labelled
        next := by
  induction depth generalizing place node logIndex next label members index with
  | zero => cases h
  | succ depth ih =>
    rw [buildNode] at h
    obtain ⟨opened, hopen, h⟩ := bind_eq_ok.mp h
    obtain ⟨⟨members, next⟩, hmembers, h⟩ := bind_eq_ok.mp h
    cases h
    obtain ⟨tree, labelled, hlabelled, hbuilt⟩ :=
      buildMembers_built (fun _ _ _ _ _ _ hchild => ih hchild) hmembers index
    exact ⟨opened, tree, labelled, hopen, rfl, hlabelled, hbuilt⟩

/-! ### What holds of the entries -/

variable {index : ℕ} {node : CallTraceNode} {frame : Frame} {ordering : List TraceMemberOrder}
  {position logIndex next : ℕ} {tree : CallTree} {labelled : Labelled}

/-- A frame that is opened. -/
lemma openFrame_eq_ok {place : Place} {opened : Frame}
    (h : openFrame md5 txId exactErrors place node = .ok opened) :
    (∃ exactError bare, exactErrors[node.idx]? = some exactError ∧
      traceFromNode node exactError = .ok bare ∧ opened.trace.content = bare.content) ∧
      opened.effectiveSucceeded = (place.ancestorsSucceeded && node.trace.success) ∧
      opened.trace.txId = txId ∧ opened.trace.parentTraceId = place.parentId ∧
      opened.trace.posInParentTrace = place.position ∧
      opened.trace.traceAddress = place.traceAddress ∧
      opened.trace.id = traceId md5 txId place.parentId place.position := by
  rw [openFrame] at h
  split at h
  · cases h
  · next exactError herror =>
    obtain ⟨bare, hbare, h⟩ := bind_eq_ok.mp h
    obtain rfl := Except.ok.inj h
    refine ⟨⟨exactError, bare, herror, hbare, ?_⟩, rfl, rfl, rfl, rfl, rfl, rfl⟩
    simp only [DebankTrace.content]

section Checked

variable (hchecked : ∀ i node, nodes[i]? = some node → Checked nodes i node)
include hchecked

/-- The children of a node know it as their parent. -/
lemma child_parent {i childIndex : ℕ} {child : CallTraceNode}
    (hnode : nodes[index]? = some node) (hindex : node.children[i]? = some childIndex)
    (hchild : nodes[childIndex]? = some child) : child.parent = some index := by
  have hi : i ∈ callPositions node.ordering :=
    (hchecked index node hnode).calls.mem_iff.mpr
      (List.mem_range.mpr (List.getElem?_eq_some_iff.mp hindex).1)
  obtain ⟨childIndex', child', hindex', hchild', hparent⟩ :=
    (hchecked index node hnode).child i hi
  obtain rfl := Option.some.inj (hindex.symm.trans hindex')
  obtain rfl := Option.some.inj (hchild.symm.trans hchild')
  exact hparent

/-- A call succeeds with all around it when it succeeds in a frame that does. -/
lemma opened_effectiveSucceeded_iff {i childIndex : ℕ} {child : CallTraceNode} {opened : Frame}
    (hnode : nodes[index]? = some node)
    (heffective : frame.effectiveSucceeded = true ↔ Succeeds nodes index)
    (hindex : node.children[i]? = some childIndex) (hchild : nodes[childIndex]? = some child)
    (hopen : openFrame md5 txId exactErrors (frame.childPlace position i) child = .ok opened) :
    opened.effectiveSucceeded = true ↔ Succeeds nodes childIndex := by
  have hparent := child_parent hchecked hnode hindex hchild
  rw [(openFrame_eq_ok hopen).2.1, Bool.and_eq_true]
  show frame.effectiveSucceeded = true ∧ _ ↔ _
  rw [heffective]
  constructor
  · rintro ⟨hframe, hsuccess⟩
    exact .call hchild hparent hsuccess hframe
  · intro h
    cases h with
    | root hnode' hnone _ =>
      obtain rfl := Option.some.inj (hchild.symm.trans hnode')
      rw [hparent] at hnone
      cases hnone
    | call hnode' hsome hsuccess hframe =>
      obtain rfl := Option.some.inj (hchild.symm.trans hnode')
      rw [hparent] at hsome
      cases hsome
      exact ⟨hframe, hsuccess⟩

end Checked

variable (h : Built md5 txId nodes exactErrors index node frame ordering position logIndex tree
  labelled next)
include h

lemma Built.unfolds : Unfolds nodes node ordering tree := by
  induction h with
  | done => exact .nil _
  | suicide => exact .nil _
  | step i _ ih => exact .step i ih
  | log hlog _ ih => exact .log (List.getElem?_eq_some_iff.mp hlog).1 ih
  | call hindex hchild _ _ _ ihInner ihRest => exact .call hindex hchild ihInner ihRest

/-- Every call has its entry, and so has every frame that destroyed itself. -/
lemma Built.sources :
    (labelled.nodes.map Prod.fst).Perm (tree.indices.map Source.frame ++
      (tree.indices.filter (selfdestructs nodes)).map Source.suicide ++
      if node.isSelfdestruct then [Source.suicide index] else []) := by
  induction h with
  | done h => rw [h]; exact .nil
  | suicide h => rw [h]; exact .refl _
  | step i _ ih => exact ih
  | log _ _ ih => exact ih
  | @call index node frame _ _ _ _ _ childIndex _ innerTree tree inner labelled child _ _ hchild
      _ _ _ ihInner ihRest =>
      have hself : selfdestructs nodes childIndex = child.isSelfdestruct := by
        rw [selfdestructs, hchild]
        rfl
      rw [List.perm_iff_count] at ihInner ihRest ⊢
      intro source
      have hinner := ihInner source
      have hrest := ihRest source
      -- the child's own destruction is listed with its members
      cases hdestroyed : child.isSelfdestruct <;>
        simp only [CallTree.indices, Forest.nodes, List.map_cons, List.map_append,
          List.filter_cons, List.filter_append, hself, hdestroyed, List.count_cons,
          List.count_append, List.count_nil, Bool.false_eq_true, if_true, if_false]
          at hinner hrest ⊢ <;>
        omega

/-- The logs come in execution order. -/
lemma Built.leaves (survives : Bool) :
    (labelled.leavesIn logMark (index, survives)).map (fun leaf => (leaf.1.1, leaf.2.1)) =
      tree.leavesIn Prod.snd index := by
  induction h generalizing survives with
  | done => rfl
  | suicide => rfl
  | step i _ ih => exact ih survives
  | log _ _ ih => exact congrArg _ (ih survives)
  | call _ _ _ _ _ ihInner ihRest =>
    rw [Forest.leavesIn, Forest.leavesIn, List.map_append, ← ihRest survives]
    exact congrArg (· ++ _) (ihInner _)

/-- The logs that survive are numbered as they come. -/
lemma Built.numbered :
    ∃ count, next = logIndex + count ∧
      ((labelled.leavesIn logMark (index, frame.effectiveSucceeded)).filter (·.1.2)).map
        (·.2.2.idx) = List.range' logIndex count := by
  induction h with
  | done => exact ⟨0, rfl, rfl⟩
  | suicide => exact ⟨0, rfl, rfl⟩
  | step i _ ih => exact ih
  | @log index node frame _ logIndex _ i _ _ labelled log _ _ ih =>
    obtain ⟨count, hnext, hindices⟩ := ih
    cases heffective : frame.effectiveSucceeded with
    | false =>
      rw [heffective] at hnext hindices
      exact ⟨count, hnext, hindices⟩
    | true =>
      rw [heffective, if_pos rfl] at hnext
      rw [heffective, if_pos rfl] at hindices
      refine ⟨count + 1, by omega, ?_⟩
      rw [Forest.leavesIn, List.filter_cons_of_pos rfl, List.map_cons, hindices,
        List.range'_succ]
      exact congrArg (· :: _) (if_pos heffective)
  | @call index _ frame _ _ mid _ _ childIndex _ _ _ inner labelled _ opened _ _ _ _ _ ihInner
      ihRest =>
      obtain ⟨countInner, rfl, hinner⟩ := ihInner
      obtain ⟨countRest, rfl, hrest⟩ := ihRest
      refine ⟨countInner + countRest, by omega, ?_⟩
      rw [Forest.leavesIn, List.filter_append, List.map_append, hrest]
      show (List.filter _ (inner.leavesIn logMark (childIndex, opened.effectiveSucceeded))).map _
        ++ _ = _
      rw [hinner, ← List.range'_append_1]

/-- The logs that survive are those of the frames that succeed, one by one. -/
lemma Built.surviving (hnode : nodes[index]? = some node) :
    List.Forall₂ (fun event log => event.content = logContent log)
      (((labelled.leavesIn logMark (index, frame.effectiveSucceeded)).filter (·.1.2)).map
        (·.2.2))
      (survivingLogs nodes index frame.effectiveSucceeded tree) := by
  induction h with
  | done => exact .nil
  | suicide => exact .nil
  | step i _ ih => exact ih hnode
  | @log index node frame _ _ _ i _ tree labelled log hlog _ ih =>
    rw [Forest.leavesIn, survivingLogs]
    cases heffective : frame.effectiveSucceeded with
    | false =>
      have hrest := ih hnode
      rw [heffective] at hrest
      exact hrest
    | true =>
      have hrest := ih hnode
      have hlogAt : logAt nodes index i =
          some ⟨node.executionAddress, log.topics, log.data⟩ := by
        rw [logAt, hnode]
        show (node.logs[i]? >>= _) = _
        rw [hlog]
        rfl
      rw [heffective] at hrest
      rw [if_pos rfl, hlogAt, List.filter_cons_of_pos rfl, List.map_cons]
      exact .cons rfl hrest
  | @call index _ frame _ _ _ _ _ childIndex _ _ _ inner labelled child opened _ hchild hopen _ _
      ihInner ihRest =>
      rw [Forest.leavesIn, survivingLogs, List.filter_append, List.map_append]
      refine List.rel_append ?_ (ihRest hnode)
      have heffective : opened.effectiveSucceeded =
          (frame.effectiveSucceeded && child.trace.success) := (openFrame_eq_ok hopen).2.1
      have hany : (nodes[childIndex]?).any (·.trace.success) = child.trace.success := by
        rw [hchild]
        rfl
      rw [hany, ← heffective]
      exact ihInner hchild

variable (hchecked : ∀ i node, nodes[i]? = some node → Checked nodes i node)
include hchecked

/-- Every entry describes its source and knows its fate. -/
lemma Built.frames (hnode : nodes[index]? = some node)
    (heffective : frame.effectiveSucceeded = true ↔ Succeeds nodes index) :
    ∀ label ∈ labelled.nodes, Describes nodes exactErrors label.1 label.2.trace ∧
      (label.2.effectiveSucceeded = true ↔ Succeeds nodes label.1.index) := by
  induction h with
  | done => exact fun _ h => (nomatch h)
  | suicide h =>
    intro label hlabel
    rw [Forest.nodes, Forest.nodes, List.append_nil, List.mem_singleton] at hlabel
    subst hlabel
    refine ⟨⟨_, hnode, h, ?_⟩, heffective⟩
    simp only [DebankTrace.content, Frame.suicide]
  | step i _ ih => exact ih hnode heffective
  | log _ _ ih => exact ih hnode heffective
  | @call _ _ _ _ _ _ _ _ childIndex _ _ _ _ _ child _ hindex hchild hopen _ _ ihInner
      ihRest =>
      have hopened := opened_effectiveSucceeded_iff hchecked hnode heffective hindex hchild hopen
      intro label hlabel
      rcases List.mem_cons.mp hlabel with rfl | hlabel
      · obtain ⟨⟨exactError, bare, herror, hbare, hcontent⟩, -⟩ := openFrame_eq_ok hopen
        rw [(hchecked childIndex child hchild).idx] at herror
        exact ⟨⟨child, exactError, bare, hchild, herror, hbare, hcontent⟩, hopened⟩
      · rcases List.mem_append.mp hlabel with hlabel | hlabel
        · exact ihInner hchild hopened label hlabel
        · exact ihRest hnode heffective label hlabel

/-- Every event describes its log and knows its fate. -/
lemma Built.events (hnode : nodes[index]? = some node)
    (heffective : frame.effectiveSucceeded = true ↔ Succeeds nodes index) :
    ∀ leaf ∈ labelled.leavesIn logMark (index, frame.effectiveSucceeded),
      DescribesLog nodes leaf.1.1 leaf.2.1 leaf.2.2 ∧
        (leaf.1.2 = true ↔ Succeeds nodes leaf.1.1) := by
  induction h with
  | done => exact fun _ h => (nomatch h)
  | suicide => exact fun _ h => (nomatch h)
  | step i _ ih => exact ih hnode heffective
  | @log index node frame _ _ _ i _ _ _ log hlog _ ih =>
    intro leaf hleaf
    rcases List.mem_cons.mp hleaf with rfl | hleaf
    · refine ⟨⟨⟨node.executionAddress, log.topics, log.data⟩, ?_, rfl⟩, heffective⟩
      rw [logAt, hnode]
      show (node.logs[i]? >>= _) = _
      rw [hlog]
      rfl
    · exact ih hnode heffective leaf hleaf
  | call hindex hchild hopen _ _ ihInner ihRest =>
    have hopened := opened_effectiveSucceeded_iff hchecked hnode heffective hindex hchild hopen
    intro leaf hleaf
    rcases List.mem_append.mp hleaf with hleaf | hleaf
    · exact ihInner hchild hopened leaf hleaf
    · exact ihRest hnode heffective leaf hleaf

end Spec

/-! ### The arrays -/

/-- The entries of what survived, or of what did not. -/
def TraceArrays.tracesOf (arrays : TraceArrays) : Bool → List DebankTrace
  | true => arrays.traces
  | false => arrays.errorTraces

/-- The events that count, or the others. -/
def TraceArrays.eventsOf (arrays : TraceArrays) : Bool → List DebankEvent
  | true => arrays.events
  | false => arrays.errorEvents

lemma tracesOf_foldl_appendTrace (entries : List (DebankTrace × Bool)) (arrays : TraceArrays)
    (fate : Bool) :
    (entries.foldl appendTrace arrays).tracesOf fate =
      arrays.tracesOf fate ++ (entries.filter (·.2 == fate)).map Prod.fst := by
  induction entries generalizing arrays with
  | nil => exact (List.append_nil _).symm
  | cons entry entries ih =>
    obtain ⟨trace, survives⟩ := entry
    rw [List.foldl_cons, ih]
    cases survives <;> cases fate <;> simp [appendTrace, TraceArrays.tracesOf]

lemma eventsOf_foldl_appendTrace (entries : List (DebankTrace × Bool)) (arrays : TraceArrays)
    (fate : Bool) : (entries.foldl appendTrace arrays).eventsOf fate = arrays.eventsOf fate := by
  induction entries generalizing arrays with
  | nil => rfl
  | cons entry entries ih =>
    obtain ⟨trace, survives⟩ := entry
    rw [List.foldl_cons, ih]
    cases survives <;> cases fate <;> rfl

lemma eventsOf_foldl_appendEvent (survives : Bool) (events : List DebankEvent)
    (arrays : TraceArrays) (fate : Bool) :
    (events.foldl (appendEvent survives) arrays).eventsOf fate =
      arrays.eventsOf fate ++ if survives == fate then events else [] := by
  induction events generalizing arrays with
  | nil => simp
  | cons event events ih =>
    rw [List.foldl_cons, ih]
    cases survives <;> cases fate <;> simp [appendEvent, TraceArrays.eventsOf]

lemma tracesOf_foldl_appendEvent (survives : Bool) (events : List DebankEvent)
    (arrays : TraceArrays) (fate : Bool) :
    (events.foldl (appendEvent survives) arrays).tracesOf fate = arrays.tracesOf fate := by
  induction events generalizing arrays with
  | nil => rfl
  | cons event events ih =>
    rw [List.foldl_cons, ih]
    cases survives <;> cases fate <;> rfl

/-- Each frame of a tree goes into the array of its fate. -/
lemma tracesOf_flattenMembers (survives : Bool) (members : Members)
    (directTraces : List (DebankTrace × Bool)) (logs : List DebankEvent) (arrays : TraceArrays)
    (fate : Bool) :
    ((flattenMembers survives members directTraces logs arrays).tracesOf fate).Perm
      (arrays.tracesOf fate ++ (directTraces.filter (·.2 == fate)).map Prod.fst ++
        (members.nodes.filter (·.effectiveSucceeded == fate)).map (·.trace)) := by
  induction members generalizing survives directTraces logs arrays with
  | nil =>
    rw [flattenMembers, tracesOf_foldl_appendTrace, tracesOf_foldl_appendEvent]
    simp [Forest.nodes]
  | leaf event rest ih => exact ih survives directTraces _ arrays
  | node child inner rest ihInner ihRest =>
    rw [flattenMembers]
    refine (ihRest _ _ _ _).trans ?_
    rw [List.perm_iff_count]
    intro trace
    have hinner := List.perm_iff_count.mp
      (ihInner child.effectiveSucceeded [] [] arrays) trace
    simp only [List.filter_nil, List.map_nil, List.append_nil, List.count_append] at hinner
    simp only [Forest.nodes, List.filter_append, List.map_append, List.count_append, hinner,
      List.filter_cons, List.filter_nil]
    split <;> simp only [List.map_cons, List.map_nil, List.map_append, List.count_cons,
      List.count_append, List.count_nil] <;> omega

/-- Each log of a tree goes into the array of its frame's fate. -/
lemma eventsOf_flattenMembers (survives : Bool) (members : Members)
    (directTraces : List (DebankTrace × Bool)) (logs : List DebankEvent) (arrays : TraceArrays)
    (fate : Bool) :
    ((flattenMembers survives members directTraces logs arrays).eventsOf fate).Perm
      (arrays.eventsOf fate ++ (if survives == fate then logs else []) ++
        ((members.leavesIn (·.effectiveSucceeded) survives).filter (·.1 == fate)).map
          Prod.snd) := by
  induction members generalizing survives directTraces logs arrays with
  | nil =>
    rw [flattenMembers, eventsOf_foldl_appendTrace, eventsOf_foldl_appendEvent]
    simp [Forest.leavesIn]
  | leaf event rest ih =>
    rw [flattenMembers]
    refine (ih survives directTraces _ arrays).trans ?_
    cases hfate : survives == fate <;> simp [Forest.leavesIn, hfate]
  | node child inner rest ihInner ihRest =>
    rw [flattenMembers]
    refine (ihRest _ _ _ _).trans ?_
    rw [List.perm_iff_count]
    intro event
    have hinner := List.perm_iff_count.mp
      (ihInner child.effectiveSucceeded [] [] arrays) event
    simp only [ite_self, List.append_nil, List.count_append] at hinner
    simp only [Forest.leavesIn, List.filter_append, List.map_append, List.count_append, hinner]
    omega

/-! ### Accounts -/

/-- The logs of a frame by position, in the order of its ordering. -/
def orderedLogs (nodes : List CallTraceNode) (index : ℕ) : List (ℕ × ℕ) :=
  (nodes[index]?).elim [] fun node => (logPositions node.ordering).map (index, ·)

lemma Unfolds.leavesIn_perm {nodes : List CallTraceNode} {node : CallTraceNode}
    {ordering : List TraceMemberOrder} {tree : CallTree} (h : Unfolds nodes node ordering tree)
    (index : ℕ) :
    (tree.leavesIn Prod.snd index).Perm ((logPositions ordering).map (index, ·) ++
      tree.indices.flatMap (orderedLogs nodes)) := by
  induction h generalizing index with
  | nil => exact .nil
  | step position _ ih => exact ih index
  | log _ _ ih => exact (ih index).cons _
  | @call node child ordering inner rest position childIndex _ hchild _ _ ihInner ihRest =>
    have hordered : orderedLogs nodes childIndex =
        (logPositions child.ordering).map (childIndex, ·) := by
      rw [orderedLogs, hchild]
      rfl
    rw [List.perm_iff_count]
    intro log
    have hinner := List.perm_iff_count.mp (ihInner childIndex) log
    have hrest := List.perm_iff_count.mp (ihRest index) log
    have hsplit : logPositions (.call position :: ordering) = logPositions ordering := rfl
    simp only [CallTree.indices, Forest.leavesIn, Forest.nodes, List.map_cons, List.map_append,
      List.flatMap_cons, List.flatMap_append, hordered, hsplit, List.count_append]
      at hinner hrest ⊢
    omega

/-- Execution order has each log once. -/
lemma ValidArena.executionOrder_perm {nodes : List CallTraceNode} {tree : CallTree}
    (h : ValidArena nodes tree) : tree.executionOrder.Perm (allLogs nodes) := by
  obtain ⟨root, hroot, -, hunfolds⟩ := h.root
  have hordered : orderedLogs nodes 0 = (logPositions root.ordering).map (0, ·) := by
    rw [orderedLogs, hroot]
    rfl
  have horder : tree.executionOrder.Perm ((0 :: tree.indices).flatMap (orderedLogs nodes)) := by
    rw [List.flatMap_cons, hordered]
    exact hunfolds.leavesIn_perm 0
  refine (horder.trans (h.once.flatMap_right _)).trans (List.Perm.flatMap_left _ fun i hi => ?_)
  obtain ⟨node, hnode⟩ : ∃ node, nodes[i]? = some node :=
    ⟨_, List.getElem?_eq_getElem (List.mem_range.mp hi)⟩
  rw [orderedLogs, hnode]
  exact (h.checked i node hnode).logs.map _

lemma ValidArena.leafCount_eq {nodes : List CallTraceNode} {tree : CallTree}
    (h : ValidArena nodes tree) : tree.leafCount = (allLogs nodes).length := by
  rw [← h.executionOrder_perm.length_eq]
  exact (tree.length_leavesIn _ _).symm

/-- A trace entry with its source and its fate. -/
structure TraceEntry where
  source : Source
  survives : Bool
  trace : DebankTrace

/-- An event with the log it is of and its fate. -/
structure EventEntry where
  node : ℕ
  position : ℕ
  survives : Bool
  event : DebankEvent

/-- The arrays, with the log index before and after, account for the arena. -/
structure Accounts (nodes : List CallTraceNode) (exactErrors : List (Option String))
    (logIndex : ℕ) (arrays : TraceArrays) (next : ℕ) (entries : List TraceEntry)
    (logged : List EventEntry) : Prop where
  /-- Every node comes once, and once more if it destroyed itself. -/
  sources : (entries.map (·.source)).Perm ((List.range nodes.length).map Source.frame ++
    ((List.range nodes.length).filter (selfdestructs nodes)).map Source.suicide)
  describes : ∀ entry ∈ entries, Describes nodes exactErrors entry.source entry.trace
  survives_iff : ∀ entry ∈ entries, entry.survives = true ↔ Succeeds nodes entry.source.index
  traces : arrays.traces.Perm ((entries.filter (·.survives)).map (·.trace))
  errorTraces : arrays.errorTraces.Perm ((entries.filter (!·.survives)).map (·.trace))
  /-- The logs are listed in execution order. -/
  order : logged.map (fun entry => (entry.node, entry.position)) =
    (executionTree nodes).executionOrder
  /-- Every log comes once. -/
  logs : (logged.map fun entry => (entry.node, entry.position)).Perm (allLogs nodes)
  describesLog : ∀ entry ∈ logged, DescribesLog nodes entry.node entry.position entry.event
  logSurvives_iff : ∀ entry ∈ logged, entry.survives = true ↔ Succeeds nodes entry.node
  events : arrays.events.Perm ((logged.filter (·.survives)).map (·.event))
  errorEvents : arrays.errorEvents.Perm ((logged.filter (!·.survives)).map (·.event))
  /-- The logs that survive are numbered in execution order, from the index on. -/
  numbered : (logged.filter (·.survives)).map (·.event.idx) =
    List.range' logIndex (logged.filter (·.survives)).length
  next_eq : next = logIndex + (logged.filter (·.survives)).length
  /-- They have the content of the logs that the transaction leaves, one by one. -/
  surviving : List.Forall₂ (fun event log => event.content = logContent log)
    ((logged.filter (·.survives)).map (·.event)) (transactionLogs nodes)

/-- The entries of a tree from its root, depth first. -/
def Labelled.entries (labelled : Labelled) (root : Frame) : List TraceEntry :=
  ((Source.frame 0, root) :: labelled.nodes).map fun label =>
    ⟨label.1, label.2.effectiveSucceeded, label.2.trace⟩

/-- The events of a tree in execution order. -/
def Labelled.logged (labelled : Labelled) (root : Frame) : List EventEntry :=
  (labelled.leavesIn logMark (0, root.effectiveSucceeded)).map fun leaf =>
    ⟨leaf.1.1, leaf.2.1, leaf.1.2, leaf.2.2⟩

lemma Labelled.filter_logged (labelled : Labelled) (root : Frame) (fate : Bool) :
    (labelled.logged root).filter (·.survives == fate) =
      ((labelled.leavesIn logMark (0, root.effectiveSucceeded)).filter (·.1.2 == fate)).map
        fun leaf => ⟨leaf.1.1, leaf.2.1, leaf.1.2, leaf.2.2⟩ :=
  List.filter_map

/-- The arrays that the code fills from a tree. -/
def Labelled.arrays (labelled : Labelled) (root : Frame) : TraceArrays :=
  flattenDescendants root labelled.members
    (appendTrace {} (root.trace, root.effectiveSucceeded))

lemma Labelled.tracesOf_arrays (labelled : Labelled) (root : Frame) (fate : Bool) :
    ((labelled.arrays root).tracesOf fate).Perm
      (((labelled.entries root).filter (·.survives == fate)).map (·.trace)) := by
  refine (tracesOf_flattenMembers _ _ _ _ _ _).trans (List.Perm.of_eq ?_)
  have hroot : (appendTrace {} (root.trace, root.effectiveSucceeded)).tracesOf fate =
      ([(root.trace, root.effectiveSucceeded)].filter (·.2 == fate)).map Prod.fst :=
    (tracesOf_foldl_appendTrace [(root.trace, root.effectiveSucceeded)] {} fate).trans
      (by cases fate <;> rfl)
  rw [hroot, Labelled.members, Forest.nodes_map, Labelled.entries]
  cases hfate : root.effectiveSucceeded == fate <;>
    simp [hfate, List.filter_map, Function.comp_def]

lemma Labelled.eventsOf_arrays (labelled : Labelled) (root : Frame) (fate : Bool) :
    ((labelled.arrays root).eventsOf fate).Perm
      (((labelled.logged root).filter (·.survives == fate)).map (·.event)) := by
  refine (eventsOf_flattenMembers _ _ _ _ _ _).trans (List.Perm.of_eq ?_)
  have hroot : (appendTrace {} (root.trace, root.effectiveSucceeded)).eventsOf fate = [] :=
    (eventsOf_foldl_appendTrace [(root.trace, root.effectiveSucceeded)] {} fate).trans
      (by cases fate <;> rfl)
  have hleaves : labelled.members.leavesIn (·.effectiveSucceeded) root.effectiveSucceeded =
      (labelled.leavesIn logMark (0, root.effectiveSucceeded)).map
        fun leaf => (leaf.1.2, leaf.2.2) := by
    have hmark := Forest.leavesIn_comp logMark Prod.snd (0, root.effectiveSucceeded) labelled
    rw [Labelled.members, Forest.leavesIn_map]
    refine (congrArg (List.map _) hmark).trans ?_
    rw [List.map_map]
    rfl
  rw [hroot, hleaves, labelled.filter_logged, ite_self, List.filter_map, List.map_map,
    List.map_map]
  rfl

/-- The frame of the root succeeds alone. -/
lemma root_effectiveSucceeded_iff {md5 : String → BitVec 128} {txId : String}
    {nodes : List CallTraceNode} {exactErrors : List (Option String)} {root : CallTraceNode}
    {opened : Frame} (hroot : nodes[0]? = some root) (hparent : root.parent = none)
    (hopen : openFrame md5 txId exactErrors rootPlace root = .ok opened) :
    opened.effectiveSucceeded = true ↔ Succeeds nodes 0 := by
  have heffective : opened.effectiveSucceeded = root.trace.success := (openFrame_eq_ok hopen).2.1
  rw [heffective]
  refine ⟨Succeeds.root hroot hparent, fun h => ?_⟩
  cases h with
  | root hnode _ hsuccess =>
    obtain rfl := Option.some.inj (hroot.symm.trans hnode)
    exact hsuccess
  | call hnode _ hsuccess _ =>
    obtain rfl := Option.some.inj (hroot.symm.trans hnode)
    exact hsuccess

section Root

variable {md5 : String → BitVec 128} {txId : String} {nodes : List CallTraceNode}
  {exactErrors : List (Option String)} {logIndex next : ℕ} {root : CallTraceNode} {opened : Frame}
  {labelled : Labelled}

variable (hvalid : ValidArena nodes (executionTree nodes)) (hroot : nodes[0]? = some root)
  (hbuilt : Built md5 txId nodes exactErrors 0 root opened root.ordering 0 logIndex
    (executionTree nodes) labelled next)
include hvalid hroot hbuilt

/-- The entries are of the frames of the arena, each once, and once more if it destroyed
itself. -/
lemma Built.sources_perm (frame : Frame) :
    ((labelled.entries frame).map (·.source)).Perm ((List.range nodes.length).map Source.frame ++
      ((List.range nodes.length).filter (selfdestructs nodes)).map Source.suicide) := by
  have hdestroyed : selfdestructs nodes 0 = root.isSelfdestruct := by
    rw [selfdestructs, hroot]
    rfl
  have htree : (Source.frame 0 :: labelled.nodes.map Prod.fst).Perm
      ((0 :: (executionTree nodes).indices).map Source.frame ++
        ((0 :: (executionTree nodes).indices).filter (selfdestructs nodes)).map
          Source.suicide) := by
    rw [List.perm_iff_count]
    intro source
    have hcounts := List.perm_iff_count.mp hbuilt.sources source
    cases hself : root.isSelfdestruct <;>
      simp only [List.map_cons, List.filter_cons, hdestroyed, hself, List.count_cons,
        List.count_append, List.count_nil, Bool.false_eq_true, if_true, if_false]
        at hcounts ⊢ <;>
      omega
  have hsources : (labelled.entries frame).map (·.source) =
      Source.frame 0 :: labelled.nodes.map Prod.fst := by
    rw [Labelled.entries, List.map_map]
    rfl
  rw [hsources]
  exact htree.trans ((hvalid.once.map _).append ((hvalid.once.filter _).map _))

variable (hopen : openFrame md5 txId exactErrors rootPlace root = .ok opened)
include hopen

/-- Each entry describes its frame, and survives where that does. -/
lemma Built.entries_describe (hsucceeds : opened.effectiveSucceeded = true ↔ Succeeds nodes 0) :
    ∀ entry ∈ labelled.entries (opened.close labelled.members),
      Describes nodes exactErrors entry.source entry.trace ∧
        (entry.survives = true ↔ Succeeds nodes entry.source.index) := by
  intro entry hentry
  obtain ⟨label, hlabel, rfl⟩ := List.mem_map.mp hentry
  rcases List.mem_cons.mp hlabel with rfl | hlabel
  · obtain ⟨⟨exactError, bare, herror, hbare, hcontent⟩, -⟩ := openFrame_eq_ok hopen
    rw [(hvalid.checked 0 root hroot).idx] at herror
    exact ⟨⟨root, exactError, bare, hroot, herror, hbare, hcontent⟩, hsucceeds⟩
  · exact hbuilt.frames hvalid.checked hroot hsucceeds label hlabel

/-- The members built of the root account for the arena. -/
lemma Built.accounts :
    Accounts nodes exactErrors logIndex (labelled.arrays (opened.close labelled.members)) next
      (labelled.entries (opened.close labelled.members))
      (labelled.logged (opened.close labelled.members)) := by
  have hparent : root.parent = none := by
    obtain ⟨root', hroot', hparent, -⟩ := hvalid.root
    obtain rfl := Option.some.inj (hroot.symm.trans hroot')
    exact hparent
  -- what each entry describes, then the order of the logs and how they are counted
  have hsucceeds := root_effectiveSucceeded_iff hroot hparent hopen
  have hentries := hbuilt.entries_describe hvalid hroot hopen hsucceeds
  have hlogged : ∀ entry ∈ labelled.logged (opened.close labelled.members),
      DescribesLog nodes entry.node entry.position entry.event ∧
        (entry.survives = true ↔ Succeeds nodes entry.node) := by
    intro entry hentry
    obtain ⟨leaf, hleaf, rfl⟩ := List.mem_map.mp hentry
    exact hbuilt.events hvalid.checked hroot hsucceeds leaf hleaf
  have horder : (labelled.logged (opened.close labelled.members)).map
      (fun entry => (entry.node, entry.position)) = (executionTree nodes).executionOrder := by
    rw [Labelled.logged, List.map_map]
    exact hbuilt.leaves _
  have hfilter := labelled.filter_logged (opened.close labelled.members) true
  simp only [beq_true] at hfilter
  obtain ⟨count, rfl, hnumbered⟩ := hbuilt.numbered
  have hcount : count = ((labelled.logged (opened.close labelled.members)).filter
      (·.survives)).length := by
    rw [hfilter, List.length_map]
    have hlength := congrArg List.length hnumbered
    rw [List.length_map, List.length_range'] at hlength
    exact hlength.symm
  have htraces := labelled.tracesOf_arrays (opened.close labelled.members)
  have hevents := labelled.eventsOf_arrays (opened.close labelled.members)
  refine
    { sources := hbuilt.sources_perm hvalid hroot _
      describes := fun entry h => (hentries entry h).1
      survives_iff := fun entry h => (hentries entry h).2
      traces := by simpa [TraceArrays.tracesOf] using htraces true
      errorTraces := by simpa [TraceArrays.tracesOf] using htraces false
      order := horder
      logs := by rw [horder]; exact hvalid.executionOrder_perm
      describesLog := fun entry h => (hlogged entry h).1
      logSurvives_iff := fun entry h => (hlogged entry h).2
      events := by simpa [TraceArrays.eventsOf] using hevents true
      errorEvents := by simpa [TraceArrays.eventsOf] using hevents false
      numbered := ?_
      next_eq := by rw [hcount]
      surviving := ?_ }
  · rw [← hcount, hfilter, List.map_map]
    exact hnumbered
  · have heffective : opened.effectiveSucceeded = (nodes[0]?).any (·.trace.success) := by
      rw [hroot]
      exact (openFrame_eq_ok hopen).2.1
    rw [hfilter, List.map_map, transactionLogs, ← heffective]
    exact hbuilt.surviving hroot

end Root

section Run

variable {md5 : String → BitVec 128} {txHash : B256} {nodes : List CallTraceNode}
  {exactErrors : List (Option String)} {logIndex next : ℕ} {arrays : TraceArrays}

/-- A transaction that is formatted: the arena is a tree, and the arrays are those of the
members built of its root. -/
lemma buildDebankTraces_built
    (h : buildDebankTraces md5 txHash nodes exactErrors logIndex = .ok (arrays, next)) :
    ValidArena nodes (executionTree nodes) ∧
      ∃ root opened labelled, nodes[0]? = some root ∧
        openFrame md5 (displayHash txHash) exactErrors rootPlace root = .ok opened ∧
        Built md5 (displayHash txHash) nodes exactErrors 0 root opened root.ordering 0 logIndex
          (executionTree nodes) labelled next ∧
        arrays = labelled.arrays (opened.close labelled.members) := by
  rw [buildDebankTraces] at h
  obtain ⟨_, -, h⟩ := bind_eq_ok.mp h
  obtain ⟨_, hvalidate, h⟩ := bind_eq_ok.mp h
  have hvalid : ValidArena nodes (executionTree nodes) := by
    refine validateTraceArena_valid ?_
    cases hcheck : validateTraceArena nodes with
    | ok _ => rfl
    | error error =>
      rw [hcheck] at hvalidate
      cases hvalidate
  split at h
  · cases h
  · next root hroot =>
    rw [List.head?_eq_getElem?] at hroot
    obtain ⟨⟨⟨label, members⟩, next⟩, hbuild, h⟩ := bind_eq_ok.mp h
    obtain ⟨opened, tree, labelled, hopen, rfl, rfl, hbuilt⟩ := buildNode_built hbuild 0
    obtain ⟨root', hroot', -, hunfolds⟩ := hvalid.root
    obtain rfl := Option.some.inj (hroot.symm.trans hroot')
    obtain rfl := hunfolds.unique hbuilt.unfolds
    cases h
    exact ⟨hvalid, root, opened, labelled, hroot, hopen, hbuilt, rfl⟩

/-- The arrays of a transaction account for its arena. -/
lemma buildDebankTraces_accounts
    (h : buildDebankTraces md5 txHash nodes exactErrors logIndex = .ok (arrays, next)) :
    ∃ entries logged, Accounts nodes exactErrors logIndex arrays next entries logged := by
  obtain ⟨hvalid, root, opened, labelled, hroot, hopen, hbuilt, rfl⟩ := buildDebankTraces_built h
  exact ⟨_, _, hbuilt.accounts hvalid hroot hopen⟩

end Run

end AlethiaReth.Debank
