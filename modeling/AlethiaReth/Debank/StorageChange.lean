import AlethiaReth.Debank.Formatting

/-!
The storage flags of a frame, as facts about the arena: whether it has an `SSTORE` among its steps,
and whether calls that succeeded themselves lead from it to a frame that has (`Built.flagged`).
-/

namespace AlethiaReth.Debank

open MachineInt Outcome

section Chains

variable (nodes : List CallTraceNode)

/-- The node wrote storage. -/
def StoresItself (index : ℕ) : Prop :=
  ∃ node, nodes[index]? = some node ∧ sstore ∈ node.trace.steps

/-- The second frame is a call of the first and succeeded itself. -/
def CallSucceeds (index childIndex : ℕ) : Prop :=
  ∃ node child, nodes[index]? = some node ∧ childIndex ∈ node.children ∧
    nodes[childIndex]? = some child ∧ child.trace.success = true

/-- A chain of calls, each of which succeeded itself, leads to a frame that stores. -/
def StoresBelow (index : ℕ) : Prop :=
  ∃ last, Relation.ReflTransGen (CallSucceeds nodes) index last ∧ StoresItself nodes last

/-- An entry has the storage flags of its source. -/
def Flagged : Source × Frame → Prop
  | (.frame index, frame) =>
    (frame.trace.storageChange = true ↔ StoresBelow nodes index) ∧
    (frame.trace.selfStorageChange = true ↔ StoresItself nodes index) ∧
    ∃ node, nodes[index]? = some node ∧ frame.frameSucceeded = node.trace.success
  | (.suicide _, frame) =>
    frame.trace.storageChange = false ∧ frame.trace.selfStorageChange = false

end Chains

section Flags

variable {md5 : String → BitVec 128} {txId : String} {nodes : List CallTraceNode}
  {exactErrors : List (Option String)} {index : ℕ} {node : CallTraceNode} {frame : Frame}
  {ordering : List TraceMemberOrder} {position logIndex next : ℕ} {tree : CallTree}
  {labelled : Labelled}

/-- A frame stores below if it stores itself, or a call of it that succeeded stores below. -/
lemma storesBelow_iff : StoresBelow nodes index ↔ StoresItself nodes index ∨
    ∃ childIndex, CallSucceeds nodes index childIndex ∧ StoresBelow nodes childIndex := by
  constructor
  · rintro ⟨last, hchain, hstores⟩
    rcases hchain.cases_head with rfl | ⟨childIndex, hcall, hchain⟩
    · exact .inl hstores
    · exact .inr ⟨childIndex, hcall, last, hchain, hstores⟩
  · rintro (hstores | ⟨childIndex, hcall, last, hchain, hstores⟩)
    · exact ⟨index, .refl, hstores⟩
    · exact ⟨last, hchain.head hcall, hstores⟩

/-- What a frame knows before its members. -/
lemma openFrame_storage {place : Place} {opened : Frame}
    (h : openFrame md5 txId exactErrors place node = .ok opened) :
    opened.trace.selfStorageChange = node.trace.steps.any (· = sstore) ∧
      opened.trace.storageChange = node.trace.steps.any (· = sstore) ∧
      opened.frameSucceeded = node.trace.success := by
  rw [openFrame] at h
  split at h
  · cases h
  · next exactError _ =>
    obtain ⟨bare, hbare, h⟩ := bind_eq_ok.mp h
    obtain rfl := Except.ok.inj h
    rw [traceFromNode] at hbare
    split at hbare
    · cases hbare
    · obtain ⟨_, -, hbare⟩ := bind_eq_ok.mp hbare
      obtain ⟨error, -, hbare⟩ := bind_eq_ok.mp hbare
      obtain rfl := Except.ok.inj hbare
      exact ⟨rfl, rfl, rfl⟩

lemma any_sstore_iff (hnode : nodes[index]? = some node) :
    node.trace.steps.any (· = sstore) = true ↔ StoresItself nodes index := by
  rw [List.any_eq_true]
  constructor
  · rintro ⟨opcode, hopcode, heq⟩
    rw [of_decide_eq_true heq] at hopcode
    exact ⟨node, hnode, hopcode⟩
  · rintro ⟨node', hnode', hstep⟩
    obtain rfl := Option.some.inj (hnode.symm.trans hnode')
    exact ⟨sstore, hstep, decide_eq_true rfl⟩

/-- The members that are calls are the children along the ordering. -/
lemma Built.mem_roots (h : Built md5 txId nodes exactErrors index node frame ordering position
    logIndex tree labelled next) (childIndex : ℕ) :
    childIndex ∈ childIndices node ordering ↔
      ∃ closed, (Source.frame childIndex, closed) ∈ labelled.roots := by
  induction h with
  | done => simp [childIndices, callPositions, Forest.roots]
  | suicide => simp [childIndices, callPositions, Forest.roots]
  | step i _ ih => exact ih
  | log _ _ ih => exact ih
  | call hindex _ _ _ _ _ ihRest =>
    rw [childIndices_call hindex, List.mem_cons, ihRest]
    simp only [Forest.roots, List.mem_cons, Prod.mk.injEq, Source.frame.injEq]
    constructor
    · rintro (rfl | ⟨closed, hclosed⟩)
      · exact ⟨_, .inl ⟨rfl, rfl⟩⟩
      · exact ⟨closed, .inr hclosed⟩
    · rintro ⟨closed, ⟨rfl, -⟩ | hclosed⟩
      · exact .inl rfl
      · exact .inr ⟨closed, hclosed⟩

/-- A node that is checked orders all its children. -/
lemma Checked.mem_childIndices (h : Checked nodes index node) (childIndex : ℕ) :
    childIndex ∈ childIndices node node.ordering ↔ childIndex ∈ node.children := by
  rw [childIndices, List.mem_filterMap]
  constructor
  · rintro ⟨position, -, hposition⟩
    exact List.mem_of_getElem? hposition
  · intro hmem
    obtain ⟨position, hlt, hposition⟩ := List.mem_iff_getElem.mp hmem
    refine ⟨position, h.calls.mem_iff.mpr (List.mem_range.mpr hlt), ?_⟩
    rw [List.getElem?_eq_getElem hlt, hposition]

/-- The flag of a frame once its members are known, if theirs are right. -/
lemma Frame.close_flagged {place : Place} {opened : Frame}
    (hchecked : Checked nodes index node) (hnode : nodes[index]? = some node)
    (hopen : openFrame md5 txId exactErrors place node = .ok opened)
    (hbuilt : Built md5 txId nodes exactErrors index node frame node.ordering position logIndex
      tree labelled next)
    (hmembers : ∀ label ∈ labelled.nodes, Flagged nodes label) :
    Flagged nodes (.frame index, opened.close labelled.members) := by
  obtain ⟨hself, hstorage, hsucceeded⟩ := openFrame_storage hopen
  refine ⟨?_, ?_, node, hnode, hsucceeded⟩
  · rw [storesBelow_iff, ← any_sstore_iff hnode, ← hstorage]
    show (_ || _) = true ↔ _
    rw [Bool.or_eq_true, List.any_eq_true]
    refine or_congr_right ?_
    rw [Labelled.members, Forest.roots_map]
    -- a flagged child is a child in the arena that stores, and conversely
    constructor
    · rintro ⟨child, hchild, hflags⟩
      rw [Bool.and_eq_true] at hflags
      obtain ⟨⟨source, closed⟩, hroot, rfl⟩ := List.mem_map.mp hchild
      have hflagged := hmembers _ (Forest.mem_nodes_of_mem_roots hroot)
      cases source with
      | suicide i =>
        exact absurd hflags.1 (Bool.eq_false_iff.mp hflagged.1)
      | frame childIndex =>
        obtain ⟨hbelow, -, childNode, hchildNode, hsuccess⟩ := hflagged
        have hmem := (hchecked.mem_childIndices childIndex).mp
          ((hbuilt.mem_roots childIndex).mpr ⟨closed, hroot⟩)
        exact ⟨childIndex, ⟨node, childNode, hnode, hmem, hchildNode, hsuccess ▸ hflags.2⟩,
          hbelow.mp hflags.1⟩
    · rintro ⟨childIndex, ⟨node', childNode, hnode', hmem, hchildNode, hsuccess⟩, hbelow⟩
      obtain rfl := Option.some.inj (hnode.symm.trans hnode')
      obtain ⟨closed, hroot⟩ := (hbuilt.mem_roots childIndex).mp
        ((hchecked.mem_childIndices childIndex).mpr hmem)
      obtain ⟨hflag, -, childNode', hchildNode', hclosed⟩ :=
        hmembers _ (Forest.mem_nodes_of_mem_roots hroot)
      obtain rfl := Option.some.inj (hchildNode.symm.trans hchildNode')
      refine ⟨closed, List.mem_map.mpr ⟨_, hroot, rfl⟩, ?_⟩
      rw [Bool.and_eq_true]
      exact ⟨hflag.mpr hbelow, hclosed.trans hsuccess⟩
  · rw [← any_sstore_iff hnode, ← hself]
    rfl

/-- Every entry of the members has the flags of its source. -/
lemma Built.flagged (hchecked : ∀ i node, nodes[i]? = some node → Checked nodes i node)
    (h : Built md5 txId nodes exactErrors index node frame ordering position logIndex tree
      labelled next) : ∀ label ∈ labelled.nodes, Flagged nodes label := by
  induction h with
  | done => exact fun _ h => (nomatch h)
  | suicide =>
    intro label hlabel
    rw [Forest.nodes, Forest.nodes, List.append_nil, List.mem_singleton] at hlabel
    subst hlabel
    exact ⟨rfl, rfl⟩
  | step i _ ih => exact ih
  | log _ _ ih => exact ih
  | @call _ _ _ _ _ _ _ _ childIndex _ _ _ _ _ child _ hindex hchild hopen hinner _ ihInner
      ihRest =>
      intro label hlabel
      rcases List.mem_cons.mp hlabel with rfl | hlabel
      · exact Frame.close_flagged (hchecked childIndex child hchild) hchild hopen hinner ihInner
      · rcases List.mem_append.mp hlabel with hlabel | hlabel
        · exact ihInner label hlabel
        · exact ihRest label hlabel

end Flags

/-- The storage flags of all entries: those of a frame are as the chains of calls below it
say, those of a destruction are not set. -/
theorem buildDebankTraces_storageChange {md5 : String → BitVec 128} {txHash : B256}
    {nodes : List CallTraceNode} {exactErrors : List (Option String)} {logIndex next : ℕ}
    {arrays : TraceArrays}
    (h : buildDebankTraces md5 txHash nodes exactErrors logIndex = .ok (arrays, next)) :
    ∃ entries logged, Accounts nodes exactErrors logIndex arrays next entries logged ∧
      ∀ entry ∈ entries, ∀ index,
        (entry.source = .frame index →
          (entry.trace.storageChange = true ↔ StoresBelow nodes index) ∧
          (entry.trace.selfStorageChange = true ↔ StoresItself nodes index)) ∧
        (entry.source = .suicide index →
          entry.trace.storageChange = false ∧ entry.trace.selfStorageChange = false) := by
  obtain ⟨hvalid, root, opened, labelled, hroot, hopen, hbuilt, rfl⟩ := buildDebankTraces_built h
  refine ⟨_, _, hbuilt.accounts hvalid hroot hopen, ?_⟩
  have hmembers := hbuilt.flagged hvalid.checked
  have hflagged : ∀ label ∈ (Source.frame 0, opened.close labelled.members) :: labelled.nodes,
      Flagged nodes label := by
    intro label hlabel
    rcases List.mem_cons.mp hlabel with rfl | hlabel
    · exact Frame.close_flagged (hvalid.checked 0 root hroot) hroot hopen hbuilt hmembers
    · exact hmembers label hlabel
  intro entry hentry index
  obtain ⟨⟨source, frame⟩, hlabel, rfl⟩ := List.mem_map.mp hentry
  have hlabelled := hflagged _ hlabel
  constructor
  · rintro rfl
    exact ⟨hlabelled.1, hlabelled.2.1⟩
  · rintro rfl
    exact hlabelled

/-- A frame of an arena that calls the next one, if there is one. -/
def chainNode (index : ℕ) (status : InstructionResult) (children : List ℕ) (steps : List U8) :
    CallTraceNode where
  parent := if index = 0 then none else some (index - 1)
  children := children
  idx := index
  trace := ⟨status.isOk, 1, 2, .call, 0, [], [], 10, 20, some status, steps, none, none, none⟩
  logs := []
  ordering := children.mapIdx fun position _ => .call position
  isSelfdestruct := false

/-- A frame that reverts after a call that succeeded, which called one that stores. -/
def revertedArena : List CallTraceNode :=
  [chainNode 0 .revert [1] [], chainNode 1 .stop [2] [], chainNode 2 .stop [] [sstore]]

/-- A call that writes and reverts. -/
theorem buildDebankTraces_storageChange_reverted :
    ∃ arrays entries logged,
      buildDebankTraces (fun text => .ofNat 128 text.length) 1 revertedArena [none, none, none]
        0 = .ok (arrays, 0) ∧
      Accounts revertedArena [none, none, none] 0 arrays 0 entries logged ∧
      ∀ entry ∈ entries, entry.source = .frame 0 →
        entry.trace.storageChange = true ∧ entry.trace.selfStorageChange = false := by
  have hnext : (buildDebankTraces (fun text => .ofNat 128 text.length) 1 revertedArena
      [none, none, none] 0).toOption.map Prod.snd = some 0 := by decide +kernel
  rcases hbuild : buildDebankTraces (fun text => .ofNat 128 text.length) 1 revertedArena
      [none, none, none] 0 with error | ⟨arrays, next⟩
  · rw [hbuild] at hnext
    cases hnext
  · rw [hbuild] at hnext
    cases hnext
    obtain ⟨entries, logged, haccounts, hflags⟩ := buildDebankTraces_storageChange hbuild
    refine ⟨arrays, entries, logged, rfl, haccounts, ?_⟩
    intro entry hentry hsource
    obtain ⟨hstorage, hself⟩ := (hflags entry hentry 0).1 hsource
    have hfirst : CallSucceeds revertedArena 0 1 :=
      ⟨_, _, rfl, List.mem_singleton_self 1, rfl, rfl⟩
    have hsecond : CallSucceeds revertedArena 1 2 :=
      ⟨_, _, rfl, List.mem_singleton_self 2, rfl, rfl⟩
    constructor
    · exact hstorage.mpr ⟨2, .head hfirst (.single hsecond), _, rfl, List.mem_singleton_self _⟩
    · rw [Bool.eq_false_iff, ne_eq, hself]
      rintro ⟨node, hnode, hstep⟩
      obtain rfl := Option.some.inj hnode
      exact nomatch hstep

end AlethiaReth.Debank
