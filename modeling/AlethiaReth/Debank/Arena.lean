import AlethiaReth.Lib.Forest
import AlethiaReth.Lib.Outcome
import AlethiaReth.Debank.ErrorText

/-!
The arena of call frames that a tracer leaves, and the check that it is a tree: an arena that
passes unfolds from its root to a tree in which every node comes once, and every child and log of a
node once in its ordering (`validateTraceArena_valid`).
-/

namespace AlethiaReth.Debank

open MachineInt Outcome

/-! ### Arenas -/

/-- The kinds of calls. -/
inductive CallKind where
  | call
  | staticCall
  | callCode
  | delegateCall
  | authCall
  | create
  | create2
  deriving DecidableEq, Repr

/-- What was recorded of a call. -/
structure CallTrace where
  success : Bool
  caller : Address
  address : Address
  kind : CallKind
  value : U256
  data : Bytes
  output : Bytes
  gasUsed : U64
  gasLimit : U64
  status : Option InstructionResult
  /-- The opcodes of the steps. -/
  steps : List U8
  selfdestructAddress : Option Address
  selfdestructRefundTarget : Option Address
  selfdestructTransferredValue : Option U256
  deriving DecidableEq, Repr

/-- A log of a call. -/
structure CallLog where
  topics : List B256
  data : Bytes
  deriving DecidableEq, Repr

/-- What happened in a call, by position. -/
inductive TraceMemberOrder where
  | log (position : ℕ)
  | call (position : ℕ)
  | step (position : ℕ)
  deriving DecidableEq, Repr

/-- A call of the arena. -/
structure CallTraceNode where
  parent : Option ℕ
  children : List ℕ
  idx : ℕ
  trace : CallTrace
  logs : List CallLog
  ordering : List TraceMemberOrder
  isSelfdestruct : Bool
  deriving DecidableEq, Repr

variable (node : CallTraceNode) (ordering : List TraceMemberOrder) {nodes : List CallTraceNode}

/-- The address whose storage a frame runs in. -/
def CallTraceNode.executionAddress : Address :=
  if node.trace.kind = .delegateCall ∨ node.trace.kind = .callCode then node.trace.caller
  else node.trace.address

/-! ### The check -/

/-- Why an arena is refused. -/
inductive ArenaError where
  | emptyArena
  | rootShape
  | referencedTwice (node : ℕ)
  | declaresIndex (position idx : ℕ)
  | noFinalStatus (node : ℕ)
  | successDisagrees (node : ℕ)
  | missingChildPosition (node position : ℕ)
  | repeatsChildPosition (node position : ℕ)
  | missingChild (node child : ℕ)
  | childParent (child : ℕ) (parent : Option ℕ) (expected : ℕ)
  | missingLogPosition (node position : ℕ)
  | repeatsLogPosition (node position : ℕ)
  | unorderedChild (node : ℕ)
  | unorderedLog (node : ℕ)
  | disconnectedNode
  /-- An index out of bounds, where the code would panic. -/
  | outOfBounds (node : ℕ)
  /-- More rounds than there are nodes. -/
  | diverges
  deriving DecidableEq, Repr

/-- What the walk over an ordering has seen, and the stack of nodes to visit, top first. -/
structure OrderCheck where
  calls : List ℕ
  logs : List ℕ
  pending : List ℕ

section Check

variable (nodes : List CallTraceNode) (nodeIndex : ℕ) (node : CallTraceNode)

/-- Checks one member of the ordering. -/
def checkMember (seen : OrderCheck) : TraceMemberOrder → Except ArenaError OrderCheck
  | .call position =>
    match node.children[position]? with
    | none => .error (.missingChildPosition nodeIndex position)
    | some childIndex =>
      if position ∈ seen.calls then .error (.repeatsChildPosition nodeIndex position)
      else
        match nodes[childIndex]? with
        | none => .error (.missingChild nodeIndex childIndex)
        | some child =>
          if child.parent ≠ some nodeIndex then
            .error (.childParent childIndex child.parent nodeIndex)
          else
            .ok { seen with
              calls := position :: seen.calls
              pending := childIndex :: seen.pending }
  | .log position =>
    if position < node.logs.length then
      if position ∈ seen.logs then .error (.repeatsLogPosition nodeIndex position)
      else .ok { seen with logs := position :: seen.logs }
    else .error (.missingLogPosition nodeIndex position)
  | .step _ => .ok seen

/-- The checks of one node; answers the stack with its children on top. -/
def checkNode (pending : List ℕ) : Except ArenaError (List ℕ) := do
  ensure (node.idx = nodeIndex) (.declaresIndex nodeIndex node.idx)
  match node.trace.status with
  | none => .error (.noFinalStatus nodeIndex)
  | some status =>
    ensure (status.isOk = node.trace.success) (.successDisagrees nodeIndex)
    let seen ← node.ordering.foldlM (checkMember nodes nodeIndex node) ⟨[], [], pending⟩
    ensure (∀ position < node.children.length, position ∈ seen.calls)
      (.unorderedChild nodeIndex)
    ensure (∀ position < node.logs.length, position ∈ seen.logs) (.unorderedLog nodeIndex)
    pure seen.pending

end Check

/-- The search, by the nodes visited, last first, and the stack. -/
def visitArena (nodes : List CallTraceNode) : ℕ → List ℕ → List ℕ →
    Except ArenaError (List ℕ)
  | _, visited, [] => .ok visited
  | 0, _, _ :: _ => .error .diverges
  | fuel + 1, visited, nodeIndex :: pending =>
    if nodeIndex ∈ visited then .error (.referencedTwice nodeIndex)
    else
      match nodes[nodeIndex]? with
      | none => .error (.outOfBounds nodeIndex)
      | some node => do
        let pending ← checkNode nodes nodeIndex node pending
        visitArena nodes fuel (nodeIndex :: visited) pending

/-- Checks the arena. -/
def validateTraceArena (nodes : List CallTraceNode) : Except ArenaError Unit :=
  match nodes.head? with
  | none => .error .emptyArena
  | some root =>
    if root.idx ≠ 0 ∨ root.parent.isSome then .error .rootShape
    else do
      let visited ← visitArena nodes (nodes.length + 1) [] [0]
      ensure (∀ i < nodes.length, i ∈ visited) .disconnectedNode

/-! ### Trees -/

/-- The calls of a frame with their positions among its children and in the arena, and its
logs by position. -/
abbrev CallTree := Forest (ℕ × ℕ) ℕ

/-- The arena positions of the calls. -/
def CallTree.indices (tree : CallTree) : List ℕ := tree.nodes.map Prod.snd

/-- The calls and logs of a frame along an ordering, each call with its own. -/
inductive Unfolds (nodes : List CallTraceNode) :
    CallTraceNode → List TraceMemberOrder → CallTree → Prop
  | nil (node : CallTraceNode) : Unfolds nodes node [] .nil
  | step {node : CallTraceNode} {ordering : List TraceMemberOrder} {tree : CallTree}
      (position : ℕ) (h : Unfolds nodes node ordering tree) :
      Unfolds nodes node (.step position :: ordering) tree
  | log {node : CallTraceNode} {ordering : List TraceMemberOrder} {tree : CallTree}
      {position : ℕ} (hlog : position < node.logs.length)
      (h : Unfolds nodes node ordering tree) :
      Unfolds nodes node (.log position :: ordering) (.leaf position tree)
  | call {node child : CallTraceNode} {ordering : List TraceMemberOrder}
      {inner rest : CallTree} {position index : ℕ}
      (hposition : node.children[position]? = some index) (hchild : nodes[index]? = some child)
      (hinner : Unfolds nodes child child.ordering inner)
      (hrest : Unfolds nodes node ordering rest) :
      Unfolds nodes node (.call position :: ordering) (.node (position, index) inner rest)

/-- The positions that an ordering has of calls and of logs. -/
def callPositions : List ℕ :=
  ordering.filterMap fun
    | .call position => some position
    | _ => none

/-- The positions of logs in an ordering. -/
def logPositions : List ℕ :=
  ordering.filterMap fun
    | .log position => some position
    | _ => none

/-- A node that passed: it is at its own index, has a final status that its success agrees
with, and orders each child and each log once; its children know it as their parent. -/
structure Checked (nodes : List CallTraceNode) (nodeIndex : ℕ) (node : CallTraceNode) :
    Prop where
  idx : node.idx = nodeIndex
  status : ∃ status, node.trace.status = some status ∧ status.isOk = node.trace.success
  calls : (callPositions node.ordering).Perm (List.range node.children.length)
  logs : (logPositions node.ordering).Perm (List.range node.logs.length)
  child : ∀ position ∈ callPositions node.ordering, ∃ index child,
    node.children[position]? = some index ∧ nodes[index]? = some child ∧
    child.parent = some nodeIndex

/-- The children of a node in the order of an ordering. -/
def childIndices : List ℕ :=
  (callPositions ordering).filterMap fun position => node.children[position]?

lemma childIndices_call {node : CallTraceNode} {position index : ℕ}
    (h : node.children[position]? = some index) (ordering : List TraceMemberOrder) :
    childIndices node (.call position :: ordering) = index :: childIndices node ordering :=
  List.filterMap_cons_some h

section Spec

variable {nodes : List CallTraceNode} {nodeIndex : ℕ} {node : CallTraceNode}
  {seen seen' : OrderCheck} {ordering : List TraceMemberOrder}

/-- What one member of an ordering adds. -/
lemma checkMember_eq_ok {member : TraceMemberOrder}
    (h : checkMember nodes nodeIndex node seen member = .ok seen') :
    (∃ position index child, member = .call position ∧ position ∉ seen.calls ∧
      node.children[position]? = some index ∧ nodes[index]? = some child ∧
      child.parent = some nodeIndex ∧
      seen' = ⟨position :: seen.calls, seen.logs, index :: seen.pending⟩) ∨
    (∃ position, member = .log position ∧ position < node.logs.length ∧
      position ∉ seen.logs ∧ seen' = ⟨seen.calls, position :: seen.logs, seen.pending⟩) ∨
    ∃ position, member = .step position ∧ seen' = seen := by
  cases member with
  | call position =>
    rw [checkMember] at h
    split at h
    · cases h
    · next index hindex =>
      split at h
      · cases h
      · next hfresh =>
        split at h
        · cases h
        · next child hchild =>
          split at h
          · cases h
          · next hparent =>
            cases h
            exact .inl ⟨position, index, child, rfl, hfresh, hindex, hchild,
              not_not.mp hparent, rfl⟩
  | log position =>
    rw [checkMember] at h
    split at h
    · next hlt =>
      split at h
      · cases h
      · next hfresh =>
        cases h
        exact .inr (.inl ⟨position, rfl, hlt, hfresh, rfl⟩)
    · cases h
  | step position =>
    cases h
    exact .inr (.inr ⟨position, rfl, rfl⟩)

/-- What a whole ordering adds. -/
lemma foldlM_checkMember (h : ordering.foldlM (checkMember nodes nodeIndex node) seen = .ok seen')
    (hcalls : seen.calls.Nodup) (hlogs : seen.logs.Nodup) :
    seen'.calls = (callPositions ordering).reverse ++ seen.calls ∧
      seen'.logs = (logPositions ordering).reverse ++ seen.logs ∧
      seen'.pending = (childIndices node ordering).reverse ++ seen.pending ∧
      seen'.calls.Nodup ∧ seen'.logs.Nodup ∧
      (∀ position ∈ callPositions ordering, ∃ index child,
        node.children[position]? = some index ∧ nodes[index]? = some child ∧
        child.parent = some nodeIndex) ∧
      ∀ position ∈ logPositions ordering, position < node.logs.length := by
  induction ordering generalizing seen with
  | nil =>
    cases h
    exact ⟨rfl, rfl, rfl, hcalls, hlogs, by simp [callPositions], by simp [logPositions]⟩
  | cons member ordering ih =>
    rw [List.foldlM_cons] at h
    obtain ⟨next, hmember, h⟩ := bind_eq_ok.mp h
    -- a call, a log or a step
    rcases checkMember_eq_ok hmember with
      ⟨position, index, child, rfl, hfresh, hindex, hchild, hparent, rfl⟩ |
      ⟨position, rfl, hlt, hfresh, rfl⟩ | ⟨position, rfl, rfl⟩
    · obtain ⟨heqCalls, heqLogs, heqPending, hnodup, hnodup', hall, hall'⟩ :=
        ih h (List.nodup_cons.mpr ⟨hfresh, hcalls⟩) hlogs
      refine ⟨?_, heqLogs, ?_, hnodup, hnodup', ?_, hall'⟩
      · rw [heqCalls]
        simp [callPositions]
      · rw [heqPending]
        simp [childIndices, callPositions, hindex]
      · intro q hq
        rcases List.mem_cons.mp hq with rfl | hq
        · exact ⟨index, child, hindex, hchild, hparent⟩
        · exact hall q hq
    · obtain ⟨heqCalls, heqLogs, heqPending, hnodup, hnodup', hall, hall'⟩ :=
        ih h hcalls (List.nodup_cons.mpr ⟨hfresh, hlogs⟩)
      refine ⟨heqCalls, ?_, heqPending, hnodup, hnodup', hall, ?_⟩
      · rw [heqLogs]
        simp [logPositions]
      · intro q hq
        rcases List.mem_cons.mp hq with rfl | hq
        · exact hlt
        · exact hall' q hq
    · exact ih h hcalls hlogs

lemma perm_range {l : List ℕ} {n : ℕ} (hnodup : l.Nodup) (hlt : ∀ i ∈ l, i < n)
    (hall : ∀ i < n, i ∈ l) : l.Perm (List.range n) := by
  rw [List.perm_ext_iff_of_nodup hnodup List.nodup_range]
  exact fun i => ⟨fun hi => List.mem_range.mpr (hlt i hi), fun hi => hall i (List.mem_range.mp hi)⟩

/-- A node that passes is checked, and its children come on top of the stack. -/
lemma checkNode_eq_ok {pending pending' : List ℕ}
    (h : checkNode nodes nodeIndex node pending = .ok pending') :
    Checked nodes nodeIndex node ∧
      pending' = (childIndices node node.ordering).reverse ++ pending := by
  rw [checkNode] at h
  obtain ⟨_, hidx, h⟩ := bind_eq_ok.mp h
  have hidx := ensure_eq_ok.mp hidx
  split at h
  · cases h
  · next status hstatus =>
    obtain ⟨_, hsuccess, h⟩ := bind_eq_ok.mp h
    obtain ⟨seen, hseen, h⟩ := bind_eq_ok.mp h
    obtain ⟨_, hcalls, h⟩ := bind_eq_ok.mp h
    obtain ⟨_, hlogs, h⟩ := bind_eq_ok.mp h
    cases h
    have hcalls := ensure_eq_ok.mp hcalls
    have hlogs := ensure_eq_ok.mp hlogs
    obtain ⟨heqCalls, heqLogs, heqPending, hnodup, hnodup', hall, hall'⟩ :=
      foldlM_checkMember hseen List.nodup_nil List.nodup_nil
    rw [List.append_nil] at heqCalls heqLogs
    rw [heqCalls] at hcalls hnodup
    rw [heqLogs] at hlogs hnodup'
    simp only [List.mem_reverse] at hcalls hlogs
    refine ⟨⟨hidx, ⟨status, hstatus, ensure_eq_ok.mp hsuccess⟩, ?_, ?_, hall⟩, heqPending⟩
    · refine perm_range (List.nodup_reverse.mp hnodup) (fun position hposition => ?_) hcalls
      obtain ⟨index, -, hindex, -⟩ := hall position hposition
      exact (List.getElem?_eq_some_iff.mp hindex).1
    · exact perm_range (List.nodup_reverse.mp hnodup') hall' hlogs

/-! ### The search -/

variable {trees : ℕ → CallTree}

/-- The forest along an ordering, given the tree of each child. -/
def assemble (trees : ℕ → CallTree) (node : CallTraceNode) : List TraceMemberOrder → CallTree
  | [] => .nil
  | .step _ :: ordering => assemble trees node ordering
  | .log position :: ordering => .leaf position (assemble trees node ordering)
  | .call position :: ordering =>
    match node.children[position]? with
    | none => assemble trees node ordering
    | some index => .node (position, index) (trees index) (assemble trees node ordering)

lemma indices_assemble (ordering : List TraceMemberOrder) :
    CallTree.indices (assemble trees node ordering) =
      (childIndices node ordering).flatMap fun i => i :: (trees i).indices := by
  induction ordering with
  | nil => rfl
  | cons member ordering ih =>
    cases member with
    | step position => exact ih
    | log position => exact ih
    | call position =>
      cases hindex : node.children[position]? with
      | none =>
        have hskip : childIndices node (.call position :: ordering) =
            childIndices node ordering := List.filterMap_cons_none hindex
        rw [assemble, hindex, hskip]
        exact ih
      | some index =>
        rw [assemble, hindex, childIndices_call hindex, List.flatMap_cons]
        show index :: List.map Prod.snd (_ ++ _) = _
        rw [List.map_append, List.cons_append]
        exact congrArg _ (congrArg _ ih)

lemma unfolds_assemble (hcalls : ∀ position ∈ callPositions ordering, ∃ index child,
      node.children[position]? = some index ∧ nodes[index]? = some child ∧
      child.parent = some nodeIndex)
    (hlogs : ∀ position ∈ logPositions ordering, position < node.logs.length)
    (htrees : ∀ i ∈ childIndices node ordering, ∃ child, nodes[i]? = some child ∧
      Unfolds nodes child child.ordering (trees i)) :
    Unfolds nodes node ordering (assemble trees node ordering) := by
  induction ordering with
  | nil => exact .nil node
  | cons member ordering ih =>
    cases member with
    | step position => exact .step position (ih hcalls hlogs htrees)
    | log position =>
      exact .log (hlogs position List.mem_cons_self)
        (ih hcalls (fun q hq => hlogs q (List.mem_cons_of_mem _ hq)) htrees)
    | call position =>
      obtain ⟨index, child, hindex, hchild, -⟩ := hcalls position List.mem_cons_self
      rw [childIndices_call hindex] at htrees
      obtain ⟨child', hchild', hinner⟩ := htrees index List.mem_cons_self
      obtain rfl := Option.some.inj (hchild.symm.trans hchild')
      rw [assemble, hindex]
      exact .call hindex hchild hinner
        (ih (fun q hq => hcalls q (List.mem_cons_of_mem _ hq)) hlogs
          fun i hi => htrees i (List.mem_cons_of_mem _ hi))

/-- A search that ends has unfolded what was on the stack: it visited each node of the trees
once and checked it. -/
lemma visitArena_eq_ok {fuel : ℕ} {visited pending visited' : List ℕ}
    (h : visitArena nodes fuel visited pending = .ok visited') (hvisited : visited.Nodup) :
    ∃ (order : List ℕ) (trees : ℕ → CallTree),
      visited' = order.reverse ++ visited ∧ visited'.Nodup ∧
      (∀ i ∈ order, ∃ node, nodes[i]? = some node ∧ Checked nodes i node) ∧
      (∀ i ∈ pending, ∃ node, nodes[i]? = some node ∧
        Unfolds nodes node node.ordering (trees i)) ∧
      order.Perm (pending.flatMap fun i => i :: (trees i).indices) := by
  induction fuel generalizing visited pending with
  | zero =>
    cases pending with
    | nil =>
      cases h
      exact ⟨[], fun _ => .nil, rfl, hvisited, by simp, by simp, .nil⟩
    | cons i pending => cases h
  | succ fuel ih =>
    cases pending with
    | nil =>
      cases h
      exact ⟨[], fun _ => .nil, rfl, hvisited, by simp, by simp, .nil⟩
    | cons i pending =>
      rw [visitArena] at h
      split at h
      · cases h
      · next hfresh =>
        split at h
        · cases h
        · next node hnode =>
          obtain ⟨pending', hcheck, h⟩ := bind_eq_ok.mp h
          obtain ⟨hchecked, rfl⟩ := checkNode_eq_ok hcheck
          obtain ⟨order, trees, rfl, hnodup, hall, hunfolds, hperm⟩ :=
            ih h (List.nodup_cons.mpr ⟨hfresh, hvisited⟩)
          -- the node itself does not come again, so its tree can be set
          have hnot : i ∉ order := by
            intro hi
            have hdisjoint := (List.nodup_append.mp hnodup).2.2
            exact hdisjoint i (List.mem_reverse.mpr hi) i List.mem_cons_self rfl
          have hne : ∀ q ∈ pending, q ≠ i := by
            rintro q hq rfl
            refine hnot (hperm.mem_iff.mpr (List.mem_flatMap.mpr ⟨q, ?_, ?_⟩))
            · exact List.mem_append_right _ hq
            · exact List.mem_cons_self
          refine ⟨i :: order, Function.update trees i (assemble trees node node.ordering),
            ?_, hnodup, ?_, ?_, ?_⟩
          · rw [List.reverse_cons, List.append_assoc]
            rfl
          · intro q hq
            rcases List.mem_cons.mp hq with rfl | hq
            · exact ⟨node, hnode, hchecked⟩
            · exact hall q hq
          · intro q hq
            rcases List.mem_cons.mp hq with rfl | hq
            · rw [Function.update_self]
              refine ⟨node, hnode, unfolds_assemble hchecked.child ?_ fun c hc => ?_⟩
              · intro position hposition
                exact List.mem_range.mp (hchecked.logs.mem_iff.mp hposition)
              · exact hunfolds c
                  (List.mem_append_left _ (List.mem_reverse.mpr hc))
            · rw [Function.update_of_ne (hne q hq)]
              exact hunfolds q (List.mem_append_right _ hq)
          · rw [List.flatMap_cons, Function.update_self, indices_assemble,
              List.cons_append]
            refine List.Perm.cons i (hperm.trans ?_)
            rw [List.flatMap_append]
            refine List.Perm.append ((List.reverse_perm _).flatMap_right _) ?_
            refine List.Perm.of_eq (List.flatMap_congr fun q hq => ?_)
            rw [Function.update_of_ne (hne q hq)]

/-- The tree of a node by its index, to a depth. -/
def callTree (nodes : List CallTraceNode) : ℕ → ℕ → CallTree
  | 0, _ => .nil
  | depth + 1, i =>
    match nodes[i]? with
    | none => .nil
    | some node => assemble (callTree nodes depth) node node.ordering

/-- To a depth of its height, what unfolds is the tree. -/
lemma Unfolds.assemble_eq {tree : CallTree} (h : Unfolds nodes node ordering tree) {depth : ℕ}
    (hdepth : tree.height ≤ depth) :
    assemble (callTree nodes depth) node ordering = tree := by
  induction h generalizing depth with
  | nil node => rfl
  | step position _ ih => exact ih hdepth
  | log hlog _ ih => rw [assemble, ih hdepth]
  | @call node child ordering inner rest position index hposition hchild _ _ ihInner ihRest =>
    rw [Forest.height] at hdepth
    obtain ⟨depth, rfl⟩ : ∃ d, depth = d + 1 := ⟨depth - 1, by omega⟩
    rw [assemble, hposition, ihRest (by omega)]
    dsimp only
    rw [callTree, hchild]
    dsimp only
    rw [ihInner (by omega)]

lemma Unfolds.unique {tree tree' : CallTree} (h : Unfolds nodes node ordering tree)
    (h' : Unfolds nodes node ordering tree') :
    tree = tree' := by
  rw [← h.assemble_eq (le_max_left tree.height tree'.height),
    h'.assemble_eq (le_max_right tree.height tree'.height)]

end Spec

/-- The calls and logs of an arena from its root. -/
def executionTree (nodes : List CallTraceNode) : CallTree := callTree nodes nodes.length 0

/-- An arena whose root unfolds to the tree, with every node once in it and every node
checked. -/
structure ValidArena (nodes : List CallTraceNode) (tree : CallTree) : Prop where
  root : ∃ root, nodes[0]? = some root ∧ root.parent = none ∧
    Unfolds nodes root root.ordering tree
  once : (0 :: tree.indices).Perm (List.range nodes.length)
  checked : ∀ i node, nodes[i]? = some node → Checked nodes i node

/-- There is one node more than the tree has calls. -/
lemma ValidArena.length_eq {tree : CallTree} (h : ValidArena nodes tree) :
    tree.nodes.length + 1 = nodes.length := by
  have hlength := h.once.length_eq
  rwa [List.length_cons, CallTree.indices, List.length_map, List.length_range] at hlength

lemma ValidArena.executionTree_eq {tree : CallTree} (h : ValidArena nodes tree) :
    executionTree nodes = tree := by
  obtain ⟨root, hroot, -, hunfolds⟩ := h.root
  rw [executionTree, ← h.length_eq, callTree, hroot]
  exact hunfolds.assemble_eq tree.height_le_length_nodes

lemma exists_validArena (h : validateTraceArena nodes = .ok ()) :
    ∃ tree, ValidArena nodes tree := by
  rw [validateTraceArena] at h
  split at h
  · cases h
  · next root hroot =>
    split at h
    · cases h
    · next hshape =>
      obtain ⟨visited, hvisit, h⟩ := bind_eq_ok.mp h
      have hcover := ensure_eq_ok.mp h
      obtain ⟨order, trees, rfl, hnodup, hall, hunfolds, hperm⟩ :=
        visitArena_eq_ok hvisit List.nodup_nil
      rw [List.append_nil, List.nodup_reverse] at hnodup
      simp only [List.append_nil, List.mem_reverse] at hcover
      rw [List.head?_eq_getElem?] at hroot
      obtain ⟨root', hroot', hunfold⟩ := hunfolds 0 List.mem_cons_self
      obtain rfl := Option.some.inj (hroot.symm.trans hroot')
      refine ⟨trees 0, ⟨root, hroot, ?_, hunfold⟩, ?_, fun i node hnode => ?_⟩
      · rw [not_or] at hshape
        exact Option.not_isSome_iff_eq_none.mp hshape.2
      · have hrange : order.Perm (List.range nodes.length) := by
          refine perm_range hnodup (fun i hi => ?_) hcover
          obtain ⟨node, hnode, -⟩ := hall i hi
          exact (List.getElem?_eq_some_iff.mp hnode).1
        rw [List.flatMap_singleton] at hperm
        exact hperm.symm.trans hrange
      · have hi := hcover i (List.getElem?_eq_some_iff.mp hnode).1
        obtain ⟨node', hnode', hchecked⟩ := hall i hi
        obtain rfl := Option.some.inj (hnode.symm.trans hnode')
        exact hchecked

/-! ### No panic and no divergence -/

/-- An error that the code reports, as against a panic or a search without end. -/
def ArenaError.Reported (error : ArenaError) : Prop :=
  error ≠ .diverges ∧ ∀ node, error ≠ .outOfBounds node

section Reports

variable (nodes : List CallTraceNode)

lemma checkMember_reports (nodeIndex : ℕ) (node : CallTraceNode) (seen : OrderCheck)
    (member : TraceMemberOrder) :
    Satisfies ArenaError.Reported (fun _ => True)
      (checkMember nodes nodeIndex node seen member) := by
  cases member with
  | call position =>
    rw [checkMember]
    split
    · exact ⟨nofun, nofun⟩
    · split
      · exact ⟨nofun, nofun⟩
      · split
        · exact ⟨nofun, nofun⟩
        · split
          · exact ⟨nofun, nofun⟩
          · exact trivial
  | log position =>
    rw [checkMember]
    split
    · split
      · exact ⟨nofun, nofun⟩
      · exact trivial
    · exact ⟨nofun, nofun⟩
  | step position => exact trivial

lemma checkNode_reports (nodeIndex : ℕ) (node : CallTraceNode) (pending : List ℕ) :
    Satisfies ArenaError.Reported (fun _ => True) (checkNode nodes nodeIndex node pending) := by
  rw [checkNode]
  refine (Satisfies.ensure ⟨nofun, nofun⟩).bind fun _ _ => ?_
  split
  · exact ⟨nofun, nofun⟩
  · refine (Satisfies.ensure ⟨nofun, nofun⟩).bind fun _ _ => ?_
    have hordering := Satisfies.foldlM (P := fun _ => True)
      (fun seen member _ => checkMember_reports nodes nodeIndex node seen member)
      node.ordering (a := ⟨[], [], pending⟩) trivial
    exact hordering.bind fun _ _ => (Satisfies.ensure ⟨nofun, nofun⟩).bind fun _ _ =>
      (Satisfies.ensure ⟨nofun, nofun⟩).bind fun _ _ => trivial

/-- The search sees each node once before it fails or ends, so it never runs out of rounds, and
only children that exist come on the stack. -/
lemma visitArena_reports {fuel : ℕ} {visited pending : List ℕ} (hnodup : visited.Nodup)
    (hvisited : ∀ i ∈ visited, i < nodes.length) (hpending : ∀ i ∈ pending, i < nodes.length)
    (hfuel : nodes.length < fuel + visited.length) :
    Satisfies ArenaError.Reported (fun _ => True) (visitArena nodes fuel visited pending) := by
  -- no node is visited twice, so the fuel outlasts the arena
  induction fuel generalizing visited pending with
  | zero =>
    have hsubset : visited ⊆ List.range nodes.length :=
      fun i hi => List.mem_range.mpr (hvisited i hi)
    have hle := (hnodup.subperm hsubset).length_le
    rw [List.length_range] at hle
    omega
  | succ fuel ih =>
    cases pending with
    | nil => exact trivial
    | cons i pending =>
      rw [visitArena]
      split
      · exact ⟨nofun, nofun⟩
      · next hfresh =>
        have hi := hpending i List.mem_cons_self
        have hreported := checkNode_reports nodes i nodes[i] pending
        rw [List.getElem?_eq_getElem hi]
        dsimp only
        cases hcheck : checkNode nodes i nodes[i] pending with
        | error error =>
          rw [hcheck] at hreported
          exact hreported
        | ok pending' =>
          obtain ⟨hchecked, rfl⟩ := checkNode_eq_ok hcheck
          refine ih (List.nodup_cons.mpr ⟨hfresh, hnodup⟩) ?_ ?_ ?_
          · intro j hj
            rcases List.mem_cons.mp hj with rfl | hj
            · exact hi
            · exact hvisited j hj
          · intro j hj
            rcases List.mem_append.mp hj with hj | hj
            · obtain ⟨position, hposition, hindex⟩ :=
                List.mem_filterMap.mp (List.mem_reverse.mp hj)
              obtain ⟨index, child, hindex', hchild, -⟩ := hchecked.child position hposition
              obtain rfl := Option.some.inj (hindex.symm.trans hindex')
              exact (List.getElem?_eq_some_iff.mp hchild).1
            · exact hpending j (List.mem_cons_of_mem _ hj)
          · rw [List.length_cons]
            omega

/-- The check ends for every arena, and never indexes out of bounds. -/
lemma validateTraceArena_reports :
    Satisfies ArenaError.Reported (fun _ => True) (validateTraceArena nodes) := by
  rw [validateTraceArena]
  split
  · exact ⟨nofun, nofun⟩
  · next root hroot =>
    split
    · exact ⟨nofun, nofun⟩
    · have hlength : 0 < nodes.length := by
        rw [List.head?_eq_getElem?] at hroot
        exact (List.getElem?_eq_some_iff.mp hroot).1
      have hvisit : Satisfies ArenaError.Reported (fun _ => True)
          (visitArena nodes (nodes.length + 1) [] [0]) := by
        refine visitArena_reports nodes List.nodup_nil (by simp) ?_ (by simp)
        intro i hi
        rw [List.mem_singleton.mp hi]
        exact hlength
      exact hvisit.bind fun _ _ =>
        (Satisfies.ensure ⟨nofun, nofun⟩).mono fun _ _ => trivial

end Reports

/-- What passes is a tree. -/
lemma validateTraceArena_valid (h : validateTraceArena nodes = .ok ()) :
    ValidArena nodes (executionTree nodes) := by
  obtain ⟨tree, hvalid⟩ := exists_validArena h
  rw [hvalid.executionTree_eq]
  exact hvalid

end AlethiaReth.Debank
