import AlethiaReth.Debank.Formatting

/-!
Which nodes of an arena the formatter builds, and how often: an arena that passes the check is a
tree that it walks without a panic, no node twice, and of which it builds one frame for each node
(`traceArena_visits`).
-/

namespace AlethiaReth.Debank

open MachineInt Outcome

section Visits

variable (md5 : String → BitVec 128) (txId : String) (nodes : List CallTraceNode)
  (exactErrors : List (Option String))

/-- The nodes below a frame from a position on, given how a call is built and what it visits. -/
def visitMembers (build : Place → CallTraceNode → ℕ → Except FormatError ((Frame × Members) × ℕ))
    (visit : Place → CallTraceNode → ℕ → List ℕ) (frame : Frame) (node : CallTraceNode) :
    List TraceMemberOrder → ℕ → ℕ → List ℕ
  | [], _, _ => []
  | .step _ :: ordering, position, logIndex =>
    visitMembers build visit frame node ordering position logIndex
  | .log index :: ordering, position, logIndex =>
    match node.logs[index]? with
    | none => []
    | some _ =>
      match nextIndex frame.effectiveSucceeded logIndex with
      | .error _ => []
      | .ok next => visitMembers build visit frame node ordering (position + 1) next
  | .call index :: ordering, position, logIndex =>
    match node.children[index]? with
    | none => []
    | some childIndex =>
      match nodes[childIndex]? with
      | none => []
      | some child =>
        childIndex :: (visit (frame.childPlace position index) child logIndex ++
          match build (frame.childPlace position index) child logIndex with
          | .error _ => []
          | .ok (_, next) =>
            visitMembers build visit frame node ordering (position + 1) next)

/-- The nodes that are visited from a node on. -/
def visitNode : ℕ → Place → CallTraceNode → ℕ → List ℕ
  | 0, _, _, _ => []
  | depth + 1, place, node, logIndex =>
    match openFrame md5 txId exactErrors place node with
    | .error _ => []
    | .ok frame =>
      visitMembers nodes (buildNode md5 txId nodes exactErrors depth) (visitNode depth)
        frame node node.ordering 0 logIndex

end Visits

section Prefix

variable {md5 : String → BitVec 128} {txId : String} {nodes : List CallTraceNode}
  {exactErrors : List (Option String)}

/-- The visits of a run are at the front of a list, and the whole of it if the run returns. -/
def VisitsFrom {α : Type} (run : Except FormatError α) (visits all : List ℕ) : Prop :=
  visits <+: all ∧ ∀ out, run = .ok out → visits = all

/-- What a node visits, given what its members do. -/
lemma visitNode_from {depth : ℕ} (place : Place) {node : CallTraceNode} {logIndex : ℕ}
    {all : List ℕ}
    (hmembers : ∀ frame, VisitsFrom
      (buildMembers md5 txId nodes (buildNode md5 txId nodes exactErrors depth) frame node
        node.ordering 0 logIndex)
      (visitMembers nodes (buildNode md5 txId nodes exactErrors depth)
        (visitNode md5 txId nodes exactErrors depth) frame node node.ordering 0 logIndex) all) :
    VisitsFrom (buildNode md5 txId nodes exactErrors (depth + 1) place node logIndex)
      (visitNode md5 txId nodes exactErrors (depth + 1) place node logIndex) all := by
  rw [buildNode, visitNode]
  cases openFrame md5 txId exactErrors place node with
  | error error =>
    refine ⟨List.nil_prefix, ?_⟩
    rintro out ⟨⟩
  | ok frame =>
    obtain ⟨hvisits, hreturned⟩ := hmembers frame
    refine ⟨hvisits, ?_⟩
    intro out hout
    obtain ⟨opened, hopened, hout⟩ := bind_eq_ok.mp hout
    obtain rfl := Except.ok.inj hopened
    obtain ⟨members, hbuilt, -⟩ := bind_eq_ok.mp hout
    exact hreturned members hbuilt

/-- The visits along an ordering that unfolds, to a depth of its height. -/
lemma visitMembers_from {node : CallTraceNode} {ordering : List TraceMemberOrder}
    {tree : CallTree} (h : Unfolds nodes node ordering tree) {depth : ℕ}
    (hdepth : tree.height ≤ depth) (frame : Frame) (position logIndex : ℕ) :
    VisitsFrom
      (buildMembers md5 txId nodes (buildNode md5 txId nodes exactErrors depth) frame node
        ordering position logIndex)
      (visitMembers nodes (buildNode md5 txId nodes exactErrors depth)
        (visitNode md5 txId nodes exactErrors depth) frame node ordering position logIndex)
      tree.indices := by
  induction h generalizing depth frame position logIndex with
  | nil node => exact ⟨List.nil_prefix, fun _ _ => rfl⟩
  | step index _ ih => exact ih hdepth frame position logIndex
  | log hlog _ ih =>
    rw [buildMembers, visitMembers, List.getElem?_eq_getElem hlog]
    cases nextIndex frame.effectiveSucceeded logIndex with
    | error error =>
      refine ⟨List.nil_prefix, ?_⟩
      rintro out ⟨⟩
    | ok next =>
      obtain ⟨hvisits, hreturned⟩ := ih hdepth frame (position + 1) next
      refine ⟨hvisits, ?_⟩
      intro out hout
      obtain ⟨index, hindex, hout⟩ := bind_eq_ok.mp hout
      obtain rfl := Except.ok.inj hindex
      obtain ⟨members, hbuilt, -⟩ := bind_eq_ok.mp hout
      exact hreturned members hbuilt
  | @call node child ordering inner rest index childIndex hindex hchild _ _ ihInner ihRest =>
    rw [Forest.height] at hdepth
    obtain ⟨depth, rfl⟩ : ∃ d, depth = d + 1 := ⟨depth - 1, by omega⟩
    have hheight : inner.height ≤ depth := by omega
    have hheightRest : rest.height ≤ depth + 1 := by omega
    have hinner := visitNode_from (frame.childPlace position index)
      fun opened => ihInner hheight opened 0 logIndex
    have hindices : CallTree.indices (.node (index, childIndex) inner rest) =
        childIndex :: (inner.indices ++ rest.indices) := by
      simp [CallTree.indices, Forest.nodes]
    rw [buildMembers, visitMembers, hindex, hindices]
    dsimp only
    rw [hchild]
    dsimp only
    cases hbuild : buildNode md5 txId nodes exactErrors (depth + 1)
        (frame.childPlace position index) child logIndex with
    | error error =>
      refine ⟨?_, ?_⟩
      · rw [List.append_nil, List.cons_prefix_cons]
        exact ⟨rfl, hinner.1.trans (List.prefix_append _ _)⟩
      · rintro out ⟨⟩
    | ok out =>
      obtain ⟨label, next⟩ := out
      -- the child returned, so all below it was visited before its siblings
      rw [hinner.2 _ hbuild]
      obtain ⟨hvisits, hreturned⟩ := ihRest hheightRest frame (position + 1) next
      refine ⟨?_, ?_⟩
      · rw [List.cons_prefix_cons]
        exact ⟨rfl, List.prefix_append_right_inj _ |>.mpr hvisits⟩
      · intro out hout
        obtain ⟨child, hchild, hout⟩ := bind_eq_ok.mp hout
        obtain rfl := Except.ok.inj hchild
        obtain ⟨members, hbuilt, -⟩ := bind_eq_ok.mp hout
        exact congrArg (fun below => childIndex :: (inner.indices ++ below))
          (hreturned members hbuilt)

variable (md5 txId exactErrors) in
/-- The visits from the root of an arena that is a tree. -/
lemma visitNode_root (hvalid : ValidArena nodes (executionTree nodes)) {root : CallTraceNode}
    (hroot : nodes[0]? = some root) (place : Place) (logIndex : ℕ) :
    VisitsFrom (buildNode md5 txId nodes exactErrors nodes.length place root logIndex)
      (visitNode md5 txId nodes exactErrors nodes.length place root logIndex)
      (executionTree nodes).indices := by
  obtain ⟨root', hroot', -, hunfolds⟩ := hvalid.root
  obtain rfl := Option.some.inj (hroot.symm.trans hroot')
  rw [← hvalid.length_eq]
  exact visitNode_from place fun frame =>
    visitMembers_from hunfolds (executionTree nodes).height_le_length_nodes frame 0 logIndex

end Prefix

/-- The check of an arena ends and reports its errors, and passes only trees.  Of a tree that
passed, the formatter visits no node twice; if it returns, it visited every node, and its frames
are of the nodes, each once, and once more if that destroyed itself; if it fails, it does so with
an error that it reports. -/
theorem traceArena_visits (nodes : List CallTraceNode) :
    Satisfies ArenaError.Reported (fun _ => ValidArena nodes (executionTree nodes))
      (validateTraceArena nodes) ∧
    (validateTraceArena nodes = .ok () →
      ∀ (md5 : String → BitVec 128) (txId : String) (exactErrors : List (Option String))
        (place : Place) (logIndex : ℕ) (root : CallTraceNode), nodes[0]? = some root →
      Satisfies (FormatError.Reported (logIndex + (allLogs nodes).length < 2 ^ 64))
        (fun _ => True)
        (buildNode md5 txId nodes exactErrors nodes.length place root logIndex) ∧
      (0 :: visitNode md5 txId nodes exactErrors nodes.length place root logIndex).Nodup ∧
      ∀ frame members next,
        buildNode md5 txId nodes exactErrors nodes.length place root logIndex
          = .ok ((frame, members), next) →
        (0 :: visitNode md5 txId nodes exactErrors nodes.length place root logIndex).Perm
          (List.range nodes.length) ∧
        ∃ opened labelled, labelled.members = members ∧
          Built md5 txId nodes exactErrors 0 root opened root.ordering 0 logIndex
            (executionTree nodes) labelled next ∧
          ((labelled.entries frame).map (·.source)).Perm
            ((List.range nodes.length).map Source.frame ++
              ((List.range nodes.length).filter (selfdestructs nodes)).map Source.suicide)) := by
  constructor
  · have hreports := validateTraceArena_reports nodes
    cases hvalidate : validateTraceArena nodes with
    | error error =>
      rw [hvalidate] at hreports
      exact hreports
    | ok _ => exact validateTraceArena_valid hvalidate
  · intro hvalidate md5 txId exactErrors place logIndex root hroot
    have hvalid := validateTraceArena_valid hvalidate
    obtain ⟨hvisits, hreturned⟩ :=
      visitNode_root md5 txId exactErrors hvalid hroot place logIndex
    have hnodup : (0 :: (executionTree nodes).indices).Nodup :=
      hvalid.once.nodup_iff.mpr List.nodup_range
    refine ⟨buildNode_reports hvalid hroot place fun hroom => hvalid.leafCount_eq ▸ hroom, ?_, ?_⟩
    · exact hnodup.sublist (hvisits.sublist.cons_cons 0)
    -- what was built is the tree that the check found
    · intro frame members next hout
      obtain ⟨opened, tree, labelled, -, -, hmembers, hbuilt⟩ := buildNode_built hout 0
      obtain ⟨root', hroot', -, hunfolds⟩ := hvalid.root
      obtain rfl := Option.some.inj (hroot.symm.trans hroot')
      obtain rfl := hunfolds.unique hbuilt.unfolds
      refine ⟨?_, opened, labelled, hmembers, hbuilt, hbuilt.sources_perm hvalid hroot frame⟩
      rw [hreturned _ hout]
      exact hvalid.once

/-- A call that ends in a status after the call it made. -/
def pairArena (status : InstructionResult) : List CallTraceNode :=
  let trace (status : InstructionResult) : CallTrace :=
    ⟨status.isOk, 1, 2, .call, 0, [], [], 10, 20, some status, [], none, none, none⟩
  [{ parent := none, children := [1], idx := 0, trace := trace status, logs := []
     ordering := [.call 0], isSelfdestruct := false },
    { parent := some 0, children := [], idx := 1, trace := trace .stop, logs := [], ordering := []
      isSelfdestruct := false }]

/-- Both frames of a call that made a call are built, each once. -/
theorem traceArena_visits_pair :
    validateTraceArena (pairArena .stop) = .ok () ∧
      ∃ root frame members next, ∃ labelled : Labelled, (pairArena .stop)[0]? = some root ∧
        buildNode (fun _ => 0) "" (pairArena .stop) [none, none] 2 rootPlace root 0
          = .ok ((frame, members), next) ∧
        (0 :: visitNode (fun _ => 0) "" (pairArena .stop) [none, none] 2 rootPlace root 0).Perm
          [0, 1] ∧
        labelled.members = members ∧
        ((labelled.entries frame).map (·.source)).Perm [.frame 0, .frame 1] := by
  have hvalidate : validateTraceArena (pairArena .stop) = .ok () := by decide +kernel
  obtain ⟨-, -, hreturned⟩ := (traceArena_visits (pairArena .stop)).2 hvalidate (fun _ => 0) ""
    [none, none] rootPlace 0 _ rfl
  obtain ⟨hvisits, opened, labelled, hmembers, -, hsources⟩ := hreturned _ _ _ rfl
  exact ⟨hvalidate, _, _, _, _, labelled, rfl, rfl, hvisits, hmembers, hsources⟩

/-- The outermost frame has an ending without a text: the formatter stops there and never comes
to the call inside. -/
theorem unsupported_stops_visits :
    validateTraceArena (pairArena .fatalExternalError) = .ok () ∧
      ∃ root, (pairArena .fatalExternalError)[0]? = some root ∧
        buildNode (fun _ => 0) "" (pairArena .fatalExternalError) [none, none] 2 rootPlace root 0 =
          .error (.unsupported .fatalExternalError) ∧
        1 ∉ 0 :: visitNode (fun _ => 0) "" (pairArena .fatalExternalError) [none, none] 2
          rootPlace root 0 := by
  refine ⟨by decide +kernel, _, rfl, rfl, ?_⟩
  decide +kernel

end AlethiaReth.Debank
