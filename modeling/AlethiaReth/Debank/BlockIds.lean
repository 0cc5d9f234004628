import AlethiaReth.Debank.Identifiers

/-!
The entries of a block name the entries of the frames that they are in.

* `debankIds_identify`: every block file is identified, and its transactions are nested, if the
  digest has no collision among the texts of the block and the transactions have distinct
  hashes.
* `roots_share_slot`: the roots of two transactions have one parent and one position.
-/

namespace AlethiaReth.Debank

open MachineInt Outcome

variable {md5 : String → BitVec 128} {nodes : List CallTraceNode}
  {exactErrors : List (Option String)} {logIndex next : ℕ} {labelled : Labelled}
  {txs : List TracedTransaction} {results : List TraceArrays}

/-- The frame that an entry is in. -/
def parentFrame (nodes : List CallTraceNode) : Source → Option ℕ
  | .frame index => (nodes[index]?).bind (·.parent)
  | .suicide index => some index

/-- The entries of a transaction name the entries of their frames. -/
structure Nested (nodes : List CallTraceNode) (entries : List TraceEntry)
    (logged : List EventEntry) : Prop where
  root : ∀ entry ∈ entries, parentFrame nodes entry.source = none →
    entry.trace.parentTraceId = "" ∧ entry.trace.posInParentTrace = 0 ∧
      entry.trace.traceAddress = []
  parent : ∀ entry ∈ entries, ∀ j, parentFrame nodes entry.source = some j →
    ∃ parent ∈ entries, parent.source = .frame j ∧
      entry.trace.parentTraceId = parent.trace.id ∧
      ∃ i, entry.trace.traceAddress = parent.trace.traceAddress ++ [i]
  eventParent : ∀ entry ∈ logged, ∃ parent ∈ entries, parent.source = .frame entry.node ∧
    entry.event.parentTraceId = parent.trace.id
  addresses : (entries.map (·.trace.traceAddress)).Nodup

section Built

variable {txId : String} {index : ℕ} {node : CallTraceNode} {frame : Frame}
  {ordering : List TraceMemberOrder} {position logIndex next : ℕ} {tree : CallTree}

variable (h : Built md5 txId nodes exactErrors index node frame ordering position logIndex tree
  labelled next)
include h

/-- Every event is in the frame of its log. -/
lemma Built.eventParent (survives : Bool) :
    ∀ leaf ∈ labelled.leavesIn logMark (index, survives),
      ∃ parent ∈ (Source.frame index, frame) :: labelled.nodes,
        parent.1 = .frame leaf.1.1 ∧ leaf.2.2.parentTraceId = parent.2.trace.id := by
  induction h generalizing survives with
  | done => exact fun _ h => (nomatch h)
  | suicide => exact fun _ h => (nomatch h)
  | step _ _ ih => exact ih survives
  | log _ _ ih =>
    intro leaf hleaf
    rcases List.mem_cons.mp hleaf with rfl | hleaf
    · exact ⟨_, List.mem_cons_self, rfl, rfl⟩
    · exact ih survives leaf hleaf
  | call _ _ _ _ _ ihInner ihRest =>
    intro leaf hleaf
    rcases List.mem_append.mp hleaf with hleaf | hleaf
    · obtain ⟨parent, hparent, hsource, hid⟩ := ihInner _ leaf hleaf
      rcases List.mem_cons.mp hparent with rfl | hparent
      · exact ⟨_, List.mem_cons_of_mem _ List.mem_cons_self, hsource, hid⟩
      · exact ⟨parent, List.mem_cons_of_mem _ (List.mem_cons_of_mem _
          (List.mem_append_left _ hparent)), hsource, hid⟩
    · obtain ⟨parent, hparent, hsource, hid⟩ := ihRest survives leaf hleaf
      rcases List.mem_cons.mp hparent with rfl | hparent
      · exact ⟨_, List.mem_cons_self, hsource, hid⟩
      · exact ⟨parent, List.mem_cons_of_mem _ (List.mem_cons_of_mem _
          (List.mem_append_right _ hparent)), hsource, hid⟩

variable (hchecked : ∀ i node, nodes[i]? = some node → Checked nodes i node)
include hchecked

/-- Every entry is in its parent frame, and its address extends that of the frame. -/
lemma Built.parent (hnode : nodes[index]? = some node) :
    ∀ label ∈ labelled.nodes, ∃ j, parentFrame nodes label.1 = some j ∧
      ∃ parent ∈ (Source.frame index, frame) :: labelled.nodes, parent.1 = .frame j ∧
        label.2.trace.parentTraceId = parent.2.trace.id ∧
        ∃ i, label.2.trace.traceAddress = parent.2.trace.traceAddress ++ [i] := by
  induction h with
  | done => exact fun _ h => (nomatch h)
  | @suicide index node frame _ _ _ =>
    intro label hlabel
    obtain rfl := List.mem_singleton.mp hlabel
    exact ⟨index, rfl, _, List.mem_cons_self, rfl, rfl, node.children.length, rfl⟩
  | step _ _ ih => exact ih hnode
  | log _ _ ih => exact ih hnode
  | @call index _ _ _ _ _ _ i _ _ _ _ _ _ _ _ hindex hchild hopen _ _ ihInner ihRest =>
    intro label hlabel
    rcases List.mem_cons.mp hlabel with rfl | hlabel
    · obtain ⟨-, -, -, hparent, -, haddress, -⟩ := openFrame_eq_ok hopen
      refine ⟨index, ?_, _, List.mem_cons_self, rfl, hparent, i, haddress⟩
      rw [parentFrame, hchild]
      exact child_parent hchecked hnode hindex hchild
    · rcases List.mem_append.mp hlabel with hlabel | hlabel
      · obtain ⟨j, hj, parent, hparent, hsource, hrest⟩ := ihInner hchild label hlabel
        rcases List.mem_cons.mp hparent with rfl | hparent
        · exact ⟨j, hj, _, List.mem_cons_of_mem _ List.mem_cons_self, hsource, hrest⟩
        · exact ⟨j, hj, parent, List.mem_cons_of_mem _ (List.mem_cons_of_mem _
            (List.mem_append_left _ hparent)), hsource, hrest⟩
      · obtain ⟨j, hj, parent, hparent, hsource, hrest⟩ := ihRest hnode label hlabel
        rcases List.mem_cons.mp hparent with rfl | hparent
        · exact ⟨j, hj, _, List.mem_cons_self, hsource, hrest⟩
        · exact ⟨j, hj, parent, List.mem_cons_of_mem _ (List.mem_cons_of_mem _
            (List.mem_append_right _ hparent)), hsource, hrest⟩

/-- Addresses go through the calls of the frame, or past them, and are distinct. -/
lemma Built.addresses (hordering : (callPositions ordering).Nodup) :
    (∀ label ∈ labelled.nodes, ∃ i rest,
      label.2.trace.traceAddress = frame.trace.traceAddress ++ i :: rest ∧
        (i ∈ callPositions ordering ∨ i = node.children.length)) ∧
      (labelled.nodes.map (·.2.trace.traceAddress)).Nodup := by
  induction h with
  | done => exact ⟨fun _ h => (nomatch h), List.nodup_nil⟩
  | @suicide index node frame _ _ _ =>
    refine ⟨fun label hlabel => ?_, List.nodup_singleton _⟩
    obtain rfl := List.mem_singleton.mp hlabel
    exact ⟨node.children.length, [], rfl, .inr rfl⟩
  | step _ _ ih => exact ih hordering
  | log _ _ ih => exact ih hordering
  | @call index node frame _ _ _ _ i childIndex ordering _ _ inner labelled child opened hindex
      hchild hopen _ _ ihInner ihRest =>
      have hordering : i ∉ callPositions ordering ∧ (callPositions ordering).Nodup :=
        List.nodup_cons.mp hordering
      have hlt : i < node.children.length := (List.getElem?_eq_some_iff.mp hindex).1
      have haddress : opened.trace.traceAddress = frame.trace.traceAddress ++ [i] := by
        obtain ⟨-, -, -, -, -, haddress, -⟩ := openFrame_eq_ok hopen
        exact haddress
      obtain ⟨hinner, hinnerNodup⟩ := ihInner
        ((hchecked childIndex child hchild).calls.nodup_iff.mpr List.nodup_range)
      obtain ⟨hrest, hrestNodup⟩ := ihRest hordering.2
      -- what is inside the call goes through it, what comes after it does not
      have hthrough : ∀ label ∈ inner.nodes, ∃ j rest,
          label.2.trace.traceAddress = frame.trace.traceAddress ++ i :: j :: rest := by
        intro label hlabel
        obtain ⟨j, rest, heq, -⟩ := hinner label hlabel
        refine ⟨j, rest, ?_⟩
        rw [heq, haddress, List.append_assoc]
        rfl
      have hother : ∀ label ∈ labelled.nodes, ∀ rest,
          label.2.trace.traceAddress ≠ frame.trace.traceAddress ++ i :: rest := by
        intro label hlabel rest heq
        obtain ⟨j, rest', heq', hj⟩ := hrest label hlabel
        rw [heq', List.append_cancel_left_eq] at heq
        obtain ⟨rfl, -⟩ := List.cons.inj heq
        rcases hj with hj | hj
        · exact hordering.1 hj
        · omega
      constructor
      · intro label hlabel
        rcases List.mem_cons.mp hlabel with rfl | hlabel
        · exact ⟨i, [], haddress, .inl List.mem_cons_self⟩
        · rcases List.mem_append.mp hlabel with hlabel | hlabel
          · obtain ⟨j, rest, heq⟩ := hthrough label hlabel
            exact ⟨i, _, heq, .inl List.mem_cons_self⟩
          · obtain ⟨j, rest, heq, hj⟩ := hrest label hlabel
            exact ⟨j, rest, heq, hj.imp_left (List.mem_cons_of_mem _)⟩
      · rw [Forest.nodes, List.map_cons, List.map_append, List.nodup_cons, List.nodup_append]
        refine ⟨fun hmem => ?_, hinnerNodup, hrestNodup, ?_⟩
        · rcases List.mem_append.mp hmem with hmem | hmem
          · obtain ⟨label, hlabel, heq⟩ := List.mem_map.mp hmem
            obtain ⟨j, rest, hlong⟩ := hthrough label hlabel
            have hshort : opened.trace.traceAddress = label.2.trace.traceAddress := heq.symm
            rw [hlong, haddress, List.append_cancel_left_eq] at hshort
            cases (List.cons.inj hshort).2
          · obtain ⟨label, hlabel, heq⟩ := List.mem_map.mp hmem
            exact hother label hlabel [] (heq.trans haddress)
        · rintro address haddr address' haddr' rfl
          obtain ⟨label, hlabel, rfl⟩ := List.mem_map.mp haddr
          obtain ⟨label', hlabel', heq⟩ := List.mem_map.mp haddr'
          obtain ⟨j, rest, hlong⟩ := hthrough label hlabel
          exact hother label' hlabel' _ (heq.trans hlong)

end Built

/-- The members built of the root are nested in it. -/
lemma Built.nested {txId : String} {root : CallTraceNode} {opened : Frame}
    (hvalid : ValidArena nodes (executionTree nodes)) (hroot : nodes[0]? = some root)
    (hopen : openFrame md5 txId exactErrors rootPlace root = .ok opened)
    (hbuilt : Built md5 txId nodes exactErrors 0 root opened root.ordering 0 logIndex
      (executionTree nodes) labelled next) :
    Nested nodes (labelled.entries (opened.close labelled.members))
      (labelled.logged (opened.close labelled.members)) := by
  obtain ⟨-, -, -, hparentId, hposition, haddress, -⟩ := openFrame_eq_ok hopen
  have hrootParent : parentFrame nodes (.frame 0) = none := by
    obtain ⟨root', hroot', hparent, -⟩ := hvalid.root
    rw [parentFrame, hroot']
    exact hparent
  -- a parent among the labels is one among the entries
  have hlift : ∀ parent ∈ (Source.frame 0, opened) :: labelled.nodes,
      ∃ entry ∈ labelled.entries (opened.close labelled.members), entry.source = parent.1 ∧
        entry.trace.id = parent.2.trace.id ∧
        entry.trace.traceAddress = parent.2.trace.traceAddress := by
    intro parent hparent
    rcases List.mem_cons.mp hparent with rfl | hparent
    · exact ⟨_, List.mem_map_of_mem List.mem_cons_self, rfl, rfl, rfl⟩
    · exact ⟨_, List.mem_map_of_mem (List.mem_cons_of_mem _ hparent), rfl, rfl, rfl⟩
  have hparents := hbuilt.parent hvalid.checked hroot
  refine ⟨?_, ?_, ?_, ?_⟩
  · intro entry hentry hnone
    obtain ⟨label, hlabel, rfl⟩ := List.mem_map.mp hentry
    rcases List.mem_cons.mp hlabel with rfl | hlabel
    · exact ⟨hparentId, hposition, haddress⟩
    · obtain ⟨j, hj, -⟩ := hparents label hlabel
      cases hnone.symm.trans hj
  · intro entry hentry j hj
    obtain ⟨label, hlabel, rfl⟩ := List.mem_map.mp hentry
    rcases List.mem_cons.mp hlabel with rfl | hlabel
    · cases hrootParent.symm.trans hj
    · obtain ⟨j', hj', parent, hparent, hsource, hid, i, hextends⟩ := hparents label hlabel
      obtain rfl := Option.some.inj (hj'.symm.trans hj)
      obtain ⟨lifted, hlifted, hsource', hid', haddress'⟩ := hlift parent hparent
      exact ⟨lifted, hlifted, hsource'.trans hsource, hid.trans hid'.symm, i,
        haddress' ▸ hextends⟩
  · intro entry hentry
    obtain ⟨leaf, hleaf, rfl⟩ := List.mem_map.mp hentry
    obtain ⟨parent, hparent, hsource, hid⟩ := hbuilt.eventParent _ leaf hleaf
    obtain ⟨lifted, hlifted, hsource', hid', -⟩ := hlift parent hparent
    exact ⟨lifted, hlifted, hsource'.trans hsource, hid.trans hid'.symm⟩
  · obtain ⟨hthrough, hnodup⟩ := hbuilt.addresses hvalid.checked
      ((hvalid.checked 0 root hroot).calls.nodup_iff.mpr List.nodup_range)
    rw [Labelled.entries, List.map_map, List.map_cons, List.nodup_cons]
    refine ⟨fun hmem => ?_, hnodup⟩
    obtain ⟨label, hlabel, heq⟩ := List.mem_map.mp hmem
    obtain ⟨i, rest, hextends, -⟩ := hthrough label hlabel
    have hempty : label.2.trace.traceAddress = [] := heq.trans haddress
    rw [hextends] at hempty
    exact absurd hempty (by simp)

/-! ### Blocks -/

/-- The entries of a transaction. -/
def TraceArrays.entries (arrays : TraceArrays) : List Entry :=
  (arrays.traces ++ arrays.errorTraces).map .inl ++ (arrays.events ++ arrays.errorEvents).map .inr

/-- The arrays of a transaction have the entries of its tree. -/
lemma Accounts.entries_perm {root : Frame} {arrays : TraceArrays}
    (h : Accounts nodes exactErrors logIndex arrays next (labelled.entries root)
      (labelled.logged root)) (hash : B256) :
    arrays.entries.Perm
      ((TxEntries.items ⟨hash, root.trace, labelled.entryForest⟩).map Prod.snd) := by
  have htraces : (arrays.traces ++ arrays.errorTraces).Perm
      (root.trace :: labelled.entryForest.nodes) := by
    have hnodes : (labelled.entries root).map (·.trace) =
        root.trace :: labelled.entryForest.nodes := by
      rw [Labelled.entries, Labelled.entryForest, Forest.nodes_map, List.map_map, List.map_cons]
      rfl
    refine (h.traces.append h.errorTraces).trans ?_
    rw [← List.map_append, ← hnodes]
    exact (List.filter_append_perm _ _).map _
  have hevents : (arrays.events ++ arrays.errorEvents).Perm
      ((labelled.entryForest.leavesIn (fun _ => ()) ()).map Prod.snd) := by
    have hleaves : (labelled.logged root).map (·.event) =
        (labelled.entryForest.leavesIn (fun _ => ()) ()).map Prod.snd := by
      have hmark := Forest.leavesIn_comp logMark (fun _ => ()) (0, root.effectiveSucceeded)
        labelled
      rw [Labelled.logged, Labelled.entryForest, Forest.leavesIn_map, hmark, List.map_map,
        List.map_map, List.map_map]
      rfl
    refine (h.events.append h.errorEvents).trans ?_
    rw [← List.map_append, ← hleaves]
    exact (List.filter_append_perm _ _).map _
  refine ((htraces.map _).append (hevents.map _)).trans ?_
  rw [TxEntries.items, List.map_cons, List.map_cons, List.cons_append]
  exact ((labelled.entryForest.map_snd_places_perm _ _ _ _).cons _).symm

/-- The arrays of a transaction have its entries, each at its place. -/
lemma buildDebankTraces_placed {txHash : B256} {arrays : TraceArrays}
    (h : buildDebankTraces md5 txHash nodes exactErrors logIndex = .ok (arrays, next)) :
    (∃ entries logged, Accounts nodes exactErrors logIndex arrays next entries logged ∧
      Nested nodes entries logged) ∧
    ∃ tx : TxEntries, tx.hash = txHash ∧ tx.Placed md5 ∧
      arrays.entries.Perm (tx.items.map Prod.snd) := by
  obtain ⟨hvalid, root, opened, labelled, hroot, hopen, hbuilt, rfl⟩ := buildDebankTraces_built h
  have haccounts := hbuilt.accounts hvalid hroot hopen
  obtain ⟨-, -, htx, hparent, hposition, -, hid⟩ := openFrame_eq_ok hopen
  refine ⟨⟨_, _, haccounts, hbuilt.nested hvalid hroot hopen⟩,
    ⟨txHash, (opened.close labelled.members).trace, labelled.entryForest⟩, rfl, ?_, ?_⟩
  · refine ⟨fun item hitem => ?_, ?_, hbuilt.each_subtraces⟩
    · rcases List.mem_cons.mp hitem with rfl | hitem
      · refine ⟨htx, ?_⟩
        show Link.mk opened.trace.id opened.trace.parentTraceId opened.trace.posInParentTrace = _
        rw [hid, hparent, hposition]
        rfl
      · have hid : opened.trace.id = pathId md5 txHash [] := hid
        exact hbuilt.entryAt hid item hitem
    · show labelled.members.roots.length = (Forest.map _ _ labelled).roots.length
      rw [Labelled.members, Forest.roots_map, Forest.roots_map, List.length_map, List.length_map]
  · exact haccounts.entries_perm txHash

/-- The entries of a block, each at its place. -/
lemma traceTransactions_placed (h : traceTransactions md5 txs logIndex = .ok results) :
    List.Forall₂ (fun tx arrays => ∃ first next entries logged,
      Accounts tx.nodes tx.exactErrors first arrays next entries logged ∧
        Nested tx.nodes entries logged) txs results ∧
    ∃ block : List TxEntries, block.map (·.hash) = txs.map (·.txHash) ∧
      (∀ tx ∈ block, tx.Placed md5) ∧
      (results.flatMap (·.entries)).Perm ((blockItems block).map (·.2.2)) := by
  induction txs generalizing logIndex results with
  | nil =>
    cases h
    exact ⟨.nil, [], rfl, fun _ h => (nomatch h), .nil⟩
  | cons tx txs ih =>
    rw [traceTransactions] at h
    obtain ⟨⟨arrays, next⟩, hbuild, h⟩ := bind_eq_ok.mp h
    obtain ⟨rest, hrest, h⟩ := bind_eq_ok.mp h
    cases h
    obtain ⟨⟨entries, logged, haccounts, hnested⟩, placed, hhash, hplaced, hperm⟩ :=
      buildDebankTraces_placed hbuild
    obtain ⟨htransactions, block, hhashes, hblock, hblockPerm⟩ := ih hrest
    refine ⟨.cons ⟨_, _, entries, logged, haccounts, hnested⟩ htransactions, placed :: block,
      ?_, ?_, ?_⟩
    · rw [List.map_cons, List.map_cons, hhashes, hhash]
    · intro other hother
      rcases List.mem_cons.mp hother with rfl | hother
      · exact hplaced
      · exact hblock other hother
    · rw [List.flatMap_cons, blockItems, List.flatMap_cons, List.map_append, List.map_map]
      exact hperm.append hblockPerm

/-- The entries of a block file are those of its transactions. -/
lemma entries_blockFile_perm (results : List TraceArrays) :
    (blockFile results).entries.Perm (results.flatMap (·.entries)) := by
  rw [blockFile_eq]
  induction results with
  | nil => exact .nil
  | cons arrays results ih =>
    simp only [BlockFile.entries, TraceArrays.entries, List.flatMap_cons, List.map_append,
      ← Multiset.coe_eq_coe, ← Multiset.coe_add] at ih ⊢
    rw [← ih]
    abel

/-- The texts that the identifiers of a block file are digests of. -/
def BlockFile.texts (file : BlockFile) : List String := file.entries.map (·.text)

/-- If the digest has no collision among the texts of a block, and the transactions have
distinct hashes, its entries are identified, and nested in each transaction. -/
theorem debankIds_identify (h : traceTransactions md5 txs logIndex = .ok results)
    (hhashes : (txs.map (·.txHash)).Nodup)
    (hmd5 : Set.InjOn md5 {text | text ∈ (blockFile results).texts}) :
    Identified (blockFile results) ∧
      List.Forall₂ (fun tx arrays => ∃ first next entries logged,
        Accounts tx.nodes tx.exactErrors first arrays next entries logged ∧
          Nested tx.nodes entries logged) txs results := by
  obtain ⟨htransactions, block, hblock, hplaced, hperm⟩ := traceTransactions_placed h
  refine ⟨identified_of_perm ((entries_blockFile_perm results).trans hperm) hplaced ?_ ?_,
    htransactions⟩
  · rw [hblock]
    exact hhashes
  · refine hmd5.mono ?_
    rintro text ⟨entry, hentry, rfl⟩
    exact List.mem_map_of_mem hentry

/-- A digest of the last characters of a text. -/
def suffixDigest (text : String) : BitVec 128 :=
  .ofNat 128 (text.toList.foldl (fun digest c => digest * 256 + c.toNat) 0)

/-- A transaction of one frame, and one with a call that destroys itself. -/
def pairTransactions : List TracedTransaction :=
  [⟨1, [{ loggingNode 0 .stop 5 with parent := none }], [none]⟩,
    ⟨2, [{ loggingNode 0 .stop 5 with
        parent := none, children := [1], logs := [], ordering := [.call 0] },
      { loggingNode 1 .selfDestruct 6 with logs := [], ordering := [] }], [none, none]⟩]

/-- The digest has no collision there, and the two roots are both at the start of nothing. -/
lemma exists_pairTransactions :
    ∃ results, traceTransactions suffixDigest pairTransactions 0 = .ok results ∧
      Set.InjOn suffixDigest {text | text ∈ (blockFile results).texts} ∧
      ∃ a ∈ (blockFile results).traces, ∃ b ∈ (blockFile results).traces, a.id ≠ b.id ∧
        (a.parentTraceId, a.posInParentTrace) = (b.parentTraceId, b.posInParentTrace) := by
  have heval : (traceTransactions suffixDigest pairTransactions 0).toOption.any
      (fun results => decide (((blockFile results).texts.map suffixDigest).Nodup ∧
        ∃ a ∈ (blockFile results).traces, ∃ b ∈ (blockFile results).traces, a.id ≠ b.id ∧
          (a.parentTraceId, a.posInParentTrace) = (b.parentTraceId, b.posInParentTrace))) =
      true := by
    decide +kernel
  rcases htrace : traceTransactions suffixDigest pairTransactions 0 with error | results
  · rw [htrace] at heval
    cases heval
  · rw [htrace] at heval
    obtain ⟨hnodup, hroots⟩ := of_decide_eq_true heval
    exact ⟨results, rfl, fun a ha b hb => List.inj_on_of_nodup_map hnodup ha hb, hroots⟩

/-- The entries of the two transactions are identified. -/
theorem debankIds_identify_pair :
    ∃ results, traceTransactions suffixDigest pairTransactions 0 = .ok results ∧
      Identified (blockFile results) := by
  obtain ⟨results, htrace, hmd5, -⟩ := exists_pairTransactions
  exact ⟨results, htrace, (debankIds_identify htrace (by decide) hmd5).1⟩

/-- The roots of two transactions have one parent and one position. -/
theorem roots_share_slot :
    (pairTransactions.map (·.txHash)).Nodup ∧
    ∃ results, traceTransactions suffixDigest pairTransactions 0 = .ok results ∧
      Set.InjOn suffixDigest {text | text ∈ (blockFile results).texts} ∧
      ∃ a ∈ (blockFile results).traces, ∃ b ∈ (blockFile results).traces, a.id ≠ b.id ∧
        (a.parentTraceId, a.posInParentTrace) = (b.parentTraceId, b.posInParentTrace) :=
  ⟨by decide, exists_pairTransactions⟩

end AlethiaReth.Debank
