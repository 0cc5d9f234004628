import AlethiaReth.Lib.Keyed
import AlethiaReth.Debank.BlockFile

/-!
The identifiers of the entries of a block.

* `traceText_inj`, `eventText_inj`, `traceText_ne_eventText`: the texts that are hashed have no
  separators, but every part except the last has a fixed length, and only a transaction hash
  has an `x`.
* `identified_of_perm`: a block file whose entries say where they are is identified.
* `Built.entryAt`: the entries that the code builds say where they are.
-/

namespace AlethiaReth.Debank

open MachineInt Outcome

/-! ### Texts -/

variable {parentId' : String} {position' : ℕ} (file : BlockFile)

lemma length_hexChars (width n : ℕ) : (hexChars width n).length = width := by
  induction width generalizing n with
  | zero => rfl
  | succ width ih => rw [hexChars, List.length_append, ih, List.length_singleton]

lemma digitChar_inj : ∀ a < 16, ∀ b < 16, Nat.digitChar a = Nat.digitChar b → a = b := by
  decide

lemma digitChar_ne_x : ∀ a < 16, Nat.digitChar a ≠ 'x' := by decide

lemma hexChars_inj {width n m : ℕ} (hn : n < 16 ^ width) (hm : m < 16 ^ width)
    (h : hexChars width n = hexChars width m) : n = m := by
  induction width generalizing n m with
  | zero => omega
  | succ width ih =>
    rw [pow_succ] at hn hm
    rw [hexChars, hexChars] at h
    obtain ⟨hhigh, hlow⟩ := List.append_inj' h rfl
    have hdiv := ih (by omega) (by omega) hhigh
    have hmod := digitChar_inj _ (Nat.mod_lt n (by omega)) _ (Nat.mod_lt m (by omega))
      (List.cons.inj hlow).1
    omega

lemma x_not_mem_hexChars (width n : ℕ) : 'x' ∉ hexChars width n := by
  induction width generalizing n with
  | zero => exact List.not_mem_nil
  | succ width ih =>
    rw [hexChars, List.mem_append, List.mem_singleton, not_or]
    exact ⟨ih _, (digitChar_ne_x _ (Nat.mod_lt n (by omega))).symm⟩

lemma toList_displayHash (hash : B256) :
    (displayHash hash).toList = '0' :: 'x' :: hexChars 64 hash.toNat := by
  rw [displayHash, String.toList_append, String.toList_ofList, String.toList_ofList,
    List.cons_append, List.cons_append, List.nil_append]

lemma length_displayHash (hash : B256) : (displayHash hash).toList.length = 66 := by
  rw [toList_displayHash, List.length_cons, List.length_cons, length_hexChars]

lemma displayHash_injective : Function.Injective displayHash := by
  intro a b h
  have hlist := congrArg String.toList h
  rw [toList_displayHash, toList_displayHash] at hlist
  have hwidth : 2 ^ 256 = 16 ^ 64 := by norm_num
  exact BitVec.eq_of_toNat_eq (hexChars_inj (hwidth ▸ a.isLt) (hwidth ▸ b.isLt)
    (List.cons.inj (List.cons.inj hlist).2).2)

/-- The text of an identifier. -/
def IsId (text : String) : Prop := ∃ n, text.toList = hexChars 32 n

lemma IsId.length {text : String} (h : IsId text) : text.toList.length = 32 := by
  obtain ⟨n, hn⟩ := h
  rw [hn, length_hexChars]

lemma IsId.ne_empty {text : String} (h : IsId text) : text ≠ "" := by
  rintro rfl
  exact absurd h.length (by decide)

section Digest

variable {md5 : String → BitVec 128}

lemma isId_debankId (parts : List String) : IsId (debankId md5 parts) := by
  refine ⟨(md5 (String.join parts)).toNat, ?_⟩
  rw [debankId, String.toList_ofList]

/-- Equal identifiers are of texts with one digest. -/
lemma digest_eq_of_debankId_eq {parts parts' : List String}
    (h : debankId md5 parts = debankId md5 parts') :
    md5 (String.join parts) = md5 (String.join parts') := by
  have hlist := congrArg String.toList h
  rw [debankId, debankId, String.toList_ofList, String.toList_ofList] at hlist
  have hwidth : 2 ^ 128 = 16 ^ 32 := by norm_num
  exact BitVec.eq_of_toNat_eq (hexChars_inj
    (hwidth ▸ (md5 (String.join parts)).isLt) (hwidth ▸ (md5 (String.join parts')).isLt) hlist)

end Digest

lemma repr_injective : Function.Injective Nat.repr := by
  intro a b h
  have hdigits := congrArg String.toList h
  rw [Nat.toList_repr, Nat.toList_repr] at hdigits
  have hparsed := congrArg (fun digits => Nat.ofDigitChars 10 digits 0) hdigits
  simpa using hparsed

/-- What a frame is in: nothing, or a frame by its identifier. -/
def Slot (parentId : String) (position : ℕ) : Prop :=
  (parentId = "" ∧ position = 0) ∨ IsId parentId

/-- The text of a frame determines its transaction, its parent and its position. -/
lemma traceText_inj {hash hash' : B256} {parentId : String} {position : ℕ}
    (hslot : Slot parentId position) (hslot' : Slot parentId' position')
    (h : String.join [displayHash hash, parentId, position.repr] =
      String.join [displayHash hash', parentId', position'.repr]) :
    hash = hash' ∧ parentId = parentId' ∧ position = position' := by
  have hlist := congrArg String.toList h
  simp only [String.toList_join, List.flatMap_cons, List.flatMap_nil, List.append_nil] at hlist
  obtain ⟨hhash, hrest⟩ := List.append_inj hlist
    ((length_displayHash hash).trans (length_displayHash hash').symm)
  refine ⟨displayHash_injective (String.toList_inj.mp hhash), ?_⟩
  -- the text after the hash is one digit for a root, and longer than an identifier otherwise
  have hzero : (Nat.repr 0).toList.length = 1 := by decide
  have hlength := congrArg List.length hrest
  rw [List.length_append, List.length_append] at hlength
  rcases hslot with ⟨rfl, rfl⟩ | hid <;> rcases hslot' with ⟨rfl, rfl⟩ | hid'
  · exact ⟨rfl, rfl⟩
  · have := hid'.length
    have hempty : "".toList.length = 0 := rfl
    omega
  · have := hid.length
    have hempty : "".toList.length = 0 := rfl
    omega
  · obtain ⟨hparent, hposition⟩ := List.append_inj hrest (hid.length.trans hid'.length.symm)
    exact ⟨String.toList_inj.mp hparent, repr_injective (String.toList_inj.mp hposition)⟩

/-- The text of an event determines its frame and its position. -/
lemma eventText_inj {parentId : String} {position : ℕ} (hid : IsId parentId) (hid' : IsId parentId')
    (h : String.join [parentId, position.repr] = String.join [parentId', position'.repr]) :
    parentId = parentId' ∧ position = position' := by
  have hlist := congrArg String.toList h
  simp only [String.toList_join, List.flatMap_cons, List.flatMap_nil, List.append_nil] at hlist
  obtain ⟨hparent, hposition⟩ := List.append_inj hlist (hid.length.trans hid'.length.symm)
  exact ⟨String.toList_inj.mp hparent, repr_injective (String.toList_inj.mp hposition)⟩

/-- The text of a frame has the mark of a hash, that of an event has a digit there. -/
lemma traceText_ne_eventText {hash : B256} {parentId : String} {position : ℕ}
    (hid : IsId parentId') :
    String.join [displayHash hash, parentId, position.repr] ≠
      String.join [parentId', position'.repr] := by
  intro h
  have hlist := congrArg String.toList h
  simp only [String.toList_join, List.flatMap_cons, List.flatMap_nil, List.append_nil,
    toList_displayHash, List.cons_append] at hlist
  have hx : 'x' ∈ parentId'.toList := by
    have hsecond := congrArg (fun text : List Char => text[1]?) hlist
    rw [List.getElem?_append_left (by rw [hid.length]; omega)] at hsecond
    exact List.mem_of_getElem? hsecond.symm
  obtain ⟨n, hn⟩ := hid
  exact x_not_mem_hexChars 32 n (hn ▸ hx)

/-! ### Paths -/

section Paths

variable (md5 : String → BitVec 128) (hash : B256) (path : List ℕ)

/-- The identifier of the frame at a path, innermost position first. -/
def pathId : List ℕ → String
  | [] => traceId md5 (displayHash hash) "" 0
  | position :: path => traceId md5 (displayHash hash) (pathId path) position

/-- The identifier of what an entry is in. -/
def parentPathId : List ℕ → String
  | [] => ""
  | _ :: path => pathId md5 hash path

/-- The text of the frame at a path. -/
def pathText : String :=
  String.join [displayHash hash, parentPathId md5 hash path, (path.headD 0).repr]

lemma pathId_eq :
    pathId md5 hash path =
      debankId md5 [displayHash hash, parentPathId md5 hash path, (path.headD 0).repr] := by
  cases path <;> rfl

lemma isId_pathId : IsId (pathId md5 hash path) := by
  rw [pathId_eq]
  exact isId_debankId _

lemma slot_path : Slot (parentPathId md5 hash path) (path.headD 0) := by
  cases path with
  | nil => exact .inl ⟨rfl, rfl⟩
  | cons position path => exact .inr (isId_pathId md5 hash path)

variable {md5 hash}

/-- Where the digest has no collision, frames are told apart by their identifiers. -/
lemma pathId_inj {V : B256 → List ℕ → Prop}
    (hclosed : ∀ hash position path, V hash (position :: path) → V hash path)
    (hmd5 : Set.InjOn md5 {text | ∃ hash path, V hash path ∧ text = pathText md5 hash path})
    {hash' : B256} {path path' : List ℕ} (hV : V hash path) (hV' : V hash' path')
    (h : pathId md5 hash path = pathId md5 hash' path') : hash = hash' ∧ path = path' := by
  induction path generalizing path' with
  | nil =>
    rw [pathId_eq, pathId_eq] at h
    have htext := hmd5 ⟨hash, [], hV, rfl⟩ ⟨hash', path', hV', rfl⟩
      (digest_eq_of_debankId_eq h)
    obtain ⟨hhash, hparent, -⟩ :=
      traceText_inj (slot_path md5 hash []) (slot_path md5 hash' path') htext
    refine ⟨hhash, ?_⟩
    cases path' with
    | nil => rfl
    | cons position path' => exact absurd hparent.symm (isId_pathId md5 hash' path').ne_empty
  | cons position path ih =>
    rw [pathId_eq, pathId_eq] at h
    have htext := hmd5 ⟨hash, _, hV, rfl⟩ ⟨hash', path', hV', rfl⟩
      (digest_eq_of_debankId_eq h)
    obtain ⟨hhash, hparent, hposition⟩ := traceText_inj (slot_path md5 hash (position :: path))
      (slot_path md5 hash' path') htext
    refine ⟨hhash, ?_⟩
    cases path' with
    | nil => exact absurd hparent (isId_pathId md5 hash path).ne_empty
    | cons position' path' =>
      obtain ⟨-, rfl⟩ := ih (hclosed _ _ _ hV) (hclosed _ _ _ hV') hparent
      obtain rfl : position = position' := hposition
      rfl

end Paths

/-! ### Entries by place -/

/-- An entry of either kind. -/
abbrev Entry := DebankTrace ⊕ DebankEvent

/-- The identifier of an entry, and where it is. -/
structure Link where
  id : String
  parentId : String
  position : ℕ
  deriving DecidableEq, Repr

/-- The identifier and the place of an entry. -/
def Entry.link : Entry → Link
  | .inl trace => ⟨trace.id, trace.parentTraceId, trace.posInParentTrace⟩
  | .inr event => ⟨event.id, event.parentTraceId, event.posInParentTrace⟩

/-- The text that the identifier is the digest of. -/
def Entry.text : Entry → String
  | .inl trace => String.join [trace.txId, trace.parentTraceId, trace.posInParentTrace.repr]
  | .inr event => String.join [event.parentTraceId, event.posInParentTrace.repr]

/-- The entries of a transaction as a tree. -/
structure TxEntries where
  hash : B256
  root : DebankTrace
  forest : Forest DebankTrace DebankEvent

/-- The entries by path. -/
def TxEntries.items (tx : TxEntries) : List (List ℕ × Entry) :=
  ([], .inl tx.root) :: tx.forest.places [] 0

/-- An entry says where it is. -/
def EntryAt (md5 : String → BitVec 128) (hash : B256) (path : List ℕ) : Entry → Prop
  | .inl trace => trace.txId = displayHash hash ∧
      Entry.link (.inl trace) =
        ⟨pathId md5 hash path, parentPathId md5 hash path, path.headD 0⟩
  | .inr event => Entry.link (.inr event) =
      ⟨eventId md5 (parentPathId md5 hash path) (path.headD 0), parentPathId md5 hash path,
        path.headD 0⟩

/-- The entries of a transaction are at their places. -/
structure TxEntries.Placed (md5 : String → BitVec 128) (tx : TxEntries) : Prop where
  entryAt : ∀ item ∈ tx.items, EntryAt md5 tx.hash item.1 item.2
  rootSubtraces : tx.root.subtraces = tx.forest.roots.length
  subtraces : tx.forest.Each fun trace inner => trace.subtraces = inner.roots.length

/-- The entries of a block by transaction and path. -/
def blockItems (block : List TxEntries) : List (B256 × List ℕ × Entry) :=
  block.flatMap fun tx => tx.items.map fun item => (tx.hash, item)

section Block

variable {md5 : String → BitVec 128} {block : List TxEntries} {hash : B256} {path : List ℕ}
  {entry : Entry} {item : List ℕ × Entry}

lemma EntryAt.parentId (h : EntryAt md5 hash path entry) :
    entry.link.parentId = parentPathId md5 hash path := by
  cases entry with
  | inl trace => exact congrArg Link.parentId h.2
  | inr event => exact congrArg Link.parentId h

lemma EntryAt.position (h : EntryAt md5 hash path entry) : entry.link.position = path.headD 0 := by
  cases entry with
  | inl trace => exact congrArg Link.position h.2
  | inr event => exact congrArg Link.position h

/-- The text of an entry by its place. -/
lemma EntryAt.traceText {trace : DebankTrace} (h : EntryAt md5 hash path (.inl trace)) :
    Entry.text (.inl trace) = pathText md5 hash path := by
  have hparent : trace.parentTraceId = _ := h.parentId
  have hposition : trace.posInParentTrace = _ := h.position
  rw [Entry.text, pathText, h.1, hparent, hposition]

lemma EntryAt.eventText {event : DebankEvent} (h : EntryAt md5 hash path (.inr event)) :
    Entry.text (.inr event) =
      String.join [parentPathId md5 hash path, (path.headD 0).repr] := by
  have hparent : event.parentTraceId = _ := h.parentId
  have hposition : event.posInParentTrace = _ := h.position
  rw [Entry.text, hparent, hposition]

/-- Equal identifiers are of texts with one digest. -/
lemma EntryAt.digest_eq {hash' : B256} {path' : List ℕ} {entry' : Entry}
    (h : EntryAt md5 hash path entry) (h' : EntryAt md5 hash' path' entry')
    (hid : entry.link.id = entry'.link.id) : md5 entry.text = md5 entry'.text := by
  have hparts : ∀ {hash : B256} {path : List ℕ} {entry : Entry}, EntryAt md5 hash path entry →
      ∃ parts, entry.link.id = debankId md5 parts ∧ entry.text = String.join parts := by
    intro hash path entry h
    cases entry with
    | inl trace =>
      exact ⟨_, (congrArg Link.id h.2).trans (pathId_eq md5 hash path), h.traceText⟩
    | inr event => exact ⟨_, congrArg Link.id h, h.eventText⟩
  obtain ⟨parts, hleft, htext⟩ := hparts h
  obtain ⟨parts', hright, htext'⟩ := hparts h'
  rw [htext, htext']
  exact digest_eq_of_debankId_eq (hleft.symm.trans (hid.trans hright))

/-- Members that are not the root have a nonempty path. -/
lemma TxEntries.path_ne_nil {tx : TxEntries} (h : item ∈ tx.forest.places [] 0) : item.1 ≠ [] := by
  obtain ⟨m, -, hm⟩ := Forest.exists_suffix_of_mem_places h
  intro hnil
  rw [hnil] at hm
  exact absurd hm.length_le (by simp)

/-- What an entry is in has an entry. -/
lemma TxEntries.tail_mem_items {tx : TxEntries} (h : item ∈ tx.items) :
    ∃ trace, (item.1.tail, Sum.inl trace) ∈ tx.items := by
  rcases List.mem_cons.mp h with rfl | h
  · exact ⟨tx.root, List.mem_cons_self⟩
  · rcases Forest.tail_mem_places h with htail | ⟨trace, htrace⟩
    · exact ⟨tx.root, htail ▸ List.mem_cons_self⟩
    · exact ⟨trace, List.mem_cons_of_mem _ htrace⟩

lemma mem_blockItems {x : B256 × List ℕ × Entry} :
    x ∈ blockItems block ↔ ∃ tx ∈ block, tx.hash = x.1 ∧ x.2 ∈ tx.items := by
  rw [blockItems, List.mem_flatMap]
  refine exists_congr fun tx => and_congr_right fun _ => ?_
  rw [List.mem_map]
  constructor
  · rintro ⟨item, hitem, rfl⟩
    exact ⟨rfl, hitem⟩
  · rintro ⟨hhash, hitem⟩
    exact ⟨x.2, hitem, by rw [hhash]⟩

/-- Transactions and paths tell entries apart. -/
lemma nodup_blockItems (hhashes : (block.map (·.hash)).Nodup) :
    ((blockItems block).map fun x => (x.1, x.2.1)).Nodup := by
  rw [blockItems, List.map_flatMap, List.nodup_flatMap]
  constructor
  · intro tx _
    rw [List.map_map]
    have hpaths : (tx.items.map Prod.fst).Nodup := by
      refine List.nodup_cons.mpr ⟨fun hmem => ?_, Forest.nodup_places [] 0 tx.forest⟩
      obtain ⟨item, hitem, hnil⟩ := List.mem_map.mp hmem
      exact TxEntries.path_ne_nil hitem hnil
    have hmap : tx.items.map ((fun x : B256 × List ℕ × Entry => (x.1, x.2.1)) ∘
        fun item => (tx.hash, item)) = (tx.items.map Prod.fst).map fun path => (tx.hash, path) := by
      rw [List.map_map]
      rfl
    rw [hmap]
    exact hpaths.map fun _ _ h => (Prod.mk.inj h).2
  · refine (List.pairwise_map.mp hhashes).imp fun {tx tx'} hne => ?_
    have hfirst : ∀ (tx : TxEntries) (x : B256 × List ℕ),
        x ∈ (tx.items.map fun item => (tx.hash, item)).map
          (fun x : B256 × List ℕ × Entry => (x.1, x.2.1)) → x.1 = tx.hash := by
      intro tx x hx
      obtain ⟨_, hy, rfl⟩ := List.mem_map.mp hx
      obtain ⟨item, -, rfl⟩ := List.mem_map.mp hy
      rfl
    intro x hx hx'
    exact hne ((hfirst tx x hx).symm.trans (hfirst tx' x hx'))

section Unique

variable (hplaced : ∀ tx ∈ block, tx.Placed md5)
  (hmd5 : Set.InjOn md5 {text | ∃ x ∈ blockItems block, text = x.2.2.text})
  {x : B256 × List ℕ × Entry} {trace : DebankTrace} {x' : B256 × List ℕ × Entry}
include hplaced

lemma entryAt_of_mem (h : x ∈ blockItems block) :
    EntryAt md5 x.1 x.2.1 x.2.2 := by
  obtain ⟨tx, htx, hhash, hitem⟩ := mem_blockItems.mp h
  rw [← hhash]
  exact (hplaced tx htx).entryAt x.2 hitem

include hmd5

/-- Frames of a block with one identifier are one. -/
lemma frame_unique {hash' : B256} {path' : List ℕ} {trace' : DebankTrace}
    (h : (hash, path, .inl trace) ∈ blockItems block)
    (h' : (hash', path', .inl trace') ∈ blockItems block)
    (hid : pathId md5 hash path = pathId md5 hash' path') : hash = hash' ∧ path = path' := by
  refine pathId_inj
    (V := fun hash path => ∃ trace, (hash, path, Sum.inl trace) ∈ blockItems block) ?_ ?_
    ⟨trace, h⟩ ⟨trace', h'⟩ hid
  · rintro hash position path ⟨trace, hmem⟩
    obtain ⟨tx, htx, hhash, hitem⟩ := mem_blockItems.mp hmem
    obtain ⟨parent, hparent⟩ := TxEntries.tail_mem_items hitem
    exact ⟨parent, mem_blockItems.mpr ⟨tx, htx, hhash, hparent⟩⟩
  · refine hmd5.mono ?_
    rintro text ⟨hash, path, ⟨trace, hmem⟩, rfl⟩
    exact ⟨_, hmem, (EntryAt.traceText (entryAt_of_mem hplaced hmem)).symm⟩

/-- Entries in one frame, by its identifier, have one parent. -/
lemma parent_unique (h : x ∈ blockItems block) (h' : x' ∈ blockItems block)
    (hid : pathId md5 x.1 x.2.1.tail = pathId md5 x'.1 x'.2.1.tail) :
    x.1 = x'.1 ∧ x.2.1.tail = x'.2.1.tail := by
  obtain ⟨tx, htx, hhash, hitem⟩ := mem_blockItems.mp h
  obtain ⟨tx', htx', hhash', hitem'⟩ := mem_blockItems.mp h'
  obtain ⟨parent, hparent⟩ := TxEntries.tail_mem_items hitem
  obtain ⟨parent', hparent'⟩ := TxEntries.tail_mem_items hitem'
  exact frame_unique hplaced hmd5 (mem_blockItems.mpr ⟨tx, htx, hhash, hparent⟩)
    (mem_blockItems.mpr ⟨tx', htx', hhash', hparent'⟩) hid

/-- An entry that is in a frame is found by it and its position. -/
lemma slot_unique (h : x ∈ blockItems block) (h' : x' ∈ blockItems block) (hne : x.2.1 ≠ [])
    (hne' : x'.2.1 ≠ []) (hparent : parentPathId md5 x.1 x.2.1 = parentPathId md5 x'.1 x'.2.1)
    (hposition : x.2.1.headD 0 = x'.2.1.headD 0) : (x.1, x.2.1) = (x'.1, x'.2.1) := by
  obtain ⟨hash, path, entry⟩ := x
  obtain ⟨hash', path', entry'⟩ := x'
  cases path with
  | nil => exact absurd rfl hne
  | cons position path =>
    cases path' with
    | nil => exact absurd rfl hne'
    | cons position' path' =>
      obtain ⟨hhash, htail⟩ := parent_unique hplaced hmd5 h h' hparent
      exact Prod.ext hhash (congrArg₂ _ hposition htail)

omit hplaced hmd5 in
/-- An event is in a frame. -/
lemma event_path_ne_nil {event : DebankEvent} (h : (hash, path, .inr event) ∈ blockItems block) :
    path ≠ [] := by
  obtain ⟨tx, -, -, hitem⟩ := mem_blockItems.mp h
  rcases List.mem_cons.mp hitem with heq | hitem
  · cases heq
  · exact TxEntries.path_ne_nil hitem

omit hplaced hmd5 in
lemma isId_parentPathId (h : path ≠ []) :
    IsId (parentPathId md5 hash path) := by
  cases path with
  | nil => exact absurd rfl h
  | cons position path => exact isId_pathId md5 hash path

/-- Entries of a block with one identifier are one. -/
lemma id_unique (h : x ∈ blockItems block) (h' : x' ∈ blockItems block)
    (hid : x.2.2.link.id = x'.2.2.link.id) :
    (x.1, x.2.1) = (x'.1, x'.2.1) := by
  have hat := entryAt_of_mem hplaced h
  have hat' := entryAt_of_mem hplaced h'
  have htext := hmd5 ⟨x, h, rfl⟩ ⟨x', h', rfl⟩ (hat.digest_eq hat' hid)
  obtain ⟨hash, path, entry⟩ := x
  obtain ⟨hash', path', entry'⟩ := x'
  cases entry with
  | inl trace =>
    cases entry' with
    | inl trace' =>
      have hleft : trace.id = pathId md5 hash path := congrArg Link.id hat.2
      have hright : trace'.id = pathId md5 hash' path' := congrArg Link.id hat'.2
      obtain ⟨rfl, rfl⟩ := frame_unique hplaced hmd5 h h' (hleft.symm.trans (hid.trans hright))
      rfl
    | inr event' =>
      rw [hat.traceText, hat'.eventText] at htext
      exact absurd htext (traceText_ne_eventText (isId_parentPathId (event_path_ne_nil h')))
  | inr event =>
    cases entry' with
    | inl trace' =>
      rw [hat.eventText, hat'.traceText] at htext
      exact absurd htext.symm
        (traceText_ne_eventText (isId_parentPathId (event_path_ne_nil h)))
    | inr event' =>
      have hne := event_path_ne_nil h
      have hne' := event_path_ne_nil h'
      rw [hat.eventText, hat'.eventText] at htext
      obtain ⟨hparent, hposition⟩ :=
        eventText_inj (isId_parentPathId hne) (isId_parentPathId hne') htext
      exact slot_unique hplaced hmd5 h h' hne hne' hparent hposition

/-- The entries in a frame, by its identifier, are those under its path. -/
lemma filter_blockItems (hhashes : (block.map (·.hash)).Nodup) {tx : TxEntries} (htx : tx ∈ block)
    (hitem : (path, .inl trace) ∈ tx.items) :
    (blockItems block).filter (fun x => x.2.2.link.parentId = trace.id) =
      ((tx.forest.places [] 0).filter fun item => item.1.tail = path).map
        fun item => (tx.hash, item) := by
  have hid : trace.id = pathId md5 tx.hash path :=
    congrArg Link.id ((hplaced tx htx).entryAt _ hitem).2
  have hframe : (tx.hash, path, Sum.inl trace) ∈ blockItems block :=
    mem_blockItems.mpr ⟨tx, htx, rfl, hitem⟩
  -- a root is in nothing, and other entries have their parent's identifier
  have hroot : ∀ tx' ∈ block, (Entry.link (.inl tx'.root)).parentId ≠ trace.id := by
    intro tx' htx' heq
    have hat := (hplaced tx' htx').entryAt _ List.mem_cons_self
    rw [hat.parentId, hid] at heq
    exact (isId_pathId md5 tx.hash path).ne_empty heq.symm
  have hinner : ∀ tx' ∈ block, ∀ item ∈ tx'.forest.places [] 0,
      (Entry.link item.2).parentId = trace.id ↔ tx'.hash = tx.hash ∧ item.1.tail = path := by
    intro tx' htx' item hmem
    have hmem' : item ∈ tx'.items := List.mem_cons_of_mem _ hmem
    have hat := (hplaced tx' htx').entryAt item hmem'
    have hparent : parentPathId md5 tx'.hash item.1 = pathId md5 tx'.hash item.1.tail := by
      obtain ⟨head, tail, hcons⟩ := List.exists_cons_of_ne_nil (TxEntries.path_ne_nil hmem)
      rw [hcons]
      rfl
    rw [hat.parentId, hparent, hid]
    constructor
    · intro heq
      obtain ⟨parent, hparent'⟩ := TxEntries.tail_mem_items hmem'
      exact frame_unique hplaced hmd5 (mem_blockItems.mpr ⟨tx', htx', rfl, hparent'⟩) hframe heq
    · rintro ⟨hhash, htail⟩
      rw [hhash, htail]
  have hitems : ∀ tx' ∈ block, (tx'.items.map fun item => (tx'.hash, item)).filter
      (fun x => x.2.2.link.parentId = trace.id) =
      ((tx'.forest.places [] 0).filter fun item =>
        tx'.hash = tx.hash ∧ item.1.tail = path).map fun item => (tx'.hash, item) := by
    intro tx' htx'
    rw [List.filter_map, TxEntries.items, List.filter_cons_of_neg (by simpa using hroot tx' htx')]
    refine congrArg _ (List.filter_congr fun item hmem => ?_)
    exact decide_eq_decide.mpr (hinner tx' htx' item hmem)
  rw [blockItems, List.filter_flatMap, Keyed.flatMap_eq_of_key hhashes htx]
  · rw [hitems tx htx]
    simp
  · intro tx' htx' hne
    rw [hitems tx' htx', List.map_eq_nil_iff, List.filter_eq_nil_iff]
    intro item _ hitem
    exact hne (of_decide_eq_true hitem).1

/-- What is in a frame: consecutive positions, and as many frames as it says. -/
lemma exists_under (hhashes : (block.map (·.hash)).Nodup) (hx : x ∈ blockItems block)
    (htrace : x.2.2 = .inl trace) :
    ∃ under : List (List ℕ × Entry),
      ((blockItems block).map (·.2.2)).filter (·.link.parentId = trace.id) =
        under.map Prod.snd ∧
      (under.map fun item => item.2.link.position) = List.range under.length ∧
      trace.subtraces = under.countP (·.2.isLeft) := by
  obtain ⟨hash, path, entry⟩ := x
  obtain rfl : entry = Sum.inl trace := htrace
  obtain ⟨tx, htx, -, hitem⟩ := mem_blockItems.mp hx
  have hfilter := filter_blockItems hplaced hmd5 hhashes htx hitem
  refine ⟨(tx.forest.places [] 0).filter fun item => item.1.tail = path, ?_, ?_⟩
  · rw [List.filter_map]
    refine (congrArg (List.map _) hfilter).trans ?_
    rw [List.map_map]
    rfl
  · obtain ⟨inner, hsubtraces, hinner⟩ : ∃ inner : Forest DebankTrace DebankEvent,
        trace.subtraces = inner.roots.length ∧
        (tx.forest.places [] 0).filter (fun item => item.1.tail = path) =
          (inner.places path 0).filter fun item => item.1.tail = path := by
      rcases List.mem_cons.mp hitem with heq | hmem
      · cases heq
        exact ⟨tx.forest, (hplaced tx htx).rootSubtraces, rfl⟩
      · exact (hplaced tx htx).subtraces.filter_places hmem
    have hpositions : ((tx.forest.places [] 0).filter fun item => item.1.tail = path).map
        (fun item => (Entry.link item.2).position) =
        ((tx.forest.places [] 0).filter fun item => item.1.tail = path).map
          fun item => item.1.headD 0 := by
      refine List.map_congr_left fun item hmem => ?_
      have hmem : item ∈ tx.items := List.mem_cons_of_mem _ (List.mem_of_mem_filter hmem)
      exact ((hplaced tx htx).entryAt item hmem).position
    rw [hpositions, hinner, Forest.map_head_filter_places, List.range_eq_range',
      Forest.countP_filter_places]
    exact ⟨rfl, hsubtraces⟩

end Unique

end Block

/-! ### Identified block files -/

/-- The entries of a block. -/
def BlockFile.entries : List Entry :=
  (file.traces ++ file.errorTraces).map .inl ++ (file.events ++ file.errorEvents).map .inr

/-- The entries of a block file are told apart by their identifiers and by where they are. -/
structure Identified (file : BlockFile) : Prop where
  ids : (file.entries.map (·.link.id)).Nodup
  /-- An entry that is in a frame is found by it and its position. -/
  slots : ((file.entries.filter (·.link.parentId ≠ "")).map fun entry =>
    (entry.link.parentId, entry.link.position)).Nodup
  /-- The positions in a frame are consecutive. -/
  positions : ∀ trace ∈ file.traces ++ file.errorTraces,
    ((file.entries.filter (·.link.parentId = trace.id)).map (·.link.position)).Perm
      (List.range (file.entries.filter (·.link.parentId = trace.id)).length)
  subtraces : ∀ trace ∈ file.traces ++ file.errorTraces,
    trace.subtraces =
      ((file.traces ++ file.errorTraces).filter (·.parentTraceId = trace.id)).length

/-- The frames among the entries in a frame. -/
lemma countP_entries (id : String) :
    (file.entries.filter (·.link.parentId = id)).countP (·.isLeft) =
      ((file.traces ++ file.errorTraces).filter (·.parentTraceId = id)).length := by
  rw [BlockFile.entries, List.filter_append, List.countP_append, List.filter_map,
    List.filter_map, List.countP_map, List.countP_map]
  have hleft : ∀ l : List DebankTrace,
      l.countP ((fun entry : Entry => entry.isLeft) ∘ Sum.inl) = l.length :=
    fun l => List.countP_eq_length.mpr fun _ _ => rfl
  have hright : ∀ l : List DebankEvent,
      l.countP ((fun entry : Entry => entry.isLeft) ∘ Sum.inr) = 0 :=
    fun l => List.countP_eq_zero.mpr fun _ _ => Bool.false_ne_true
  rw [hleft, hright, Nat.add_zero]
  rfl

/-- A block file of placed entries is identified. -/
lemma identified_of_perm {md5 : String → BitVec 128} {block : List TxEntries} {file : BlockFile}
    (hperm : file.entries.Perm ((blockItems block).map (·.2.2)))
    (hplaced : ∀ tx ∈ block, tx.Placed md5) (hhashes : (block.map (·.hash)).Nodup)
    (hmd5 : Set.InjOn md5 {text | ∃ entry ∈ file.entries, text = entry.text}) :
    Identified file := by
  have hmd5 : Set.InjOn md5 {text | ∃ x ∈ blockItems block, text = x.2.2.text} := by
    refine hmd5.mono ?_
    rintro text ⟨x, hx, rfl⟩
    exact ⟨x.2.2, hperm.mem_iff.mpr (List.mem_map_of_mem hx), rfl⟩
  have hkeys := nodup_blockItems hhashes
  have hunder : ∀ trace ∈ file.traces ++ file.errorTraces,
      ∃ under : List (List ℕ × Entry),
        (file.entries.filter (·.link.parentId = trace.id)).Perm (under.map Prod.snd) ∧
        (under.map fun item => item.2.link.position) = List.range under.length ∧
        trace.subtraces = under.countP (·.2.isLeft) := by
    intro trace htrace
    have hentry : Sum.inl trace ∈ file.entries :=
      List.mem_append_left _ (List.mem_map_of_mem htrace)
    obtain ⟨x, hx, heq⟩ := List.mem_map.mp (hperm.mem_iff.mp hentry)
    obtain ⟨under, hfilter, hpositions, hsubtraces⟩ := exists_under hplaced hmd5 hhashes hx heq
    exact ⟨under, hfilter ▸ hperm.filter _, hpositions, hsubtraces⟩
  refine ⟨?_, ?_, fun trace htrace => ?_, fun trace htrace => ?_⟩
  · rw [(hperm.map _).nodup_iff, List.map_map]
    refine hkeys.of_map.map_on fun x hx y hy hid => ?_
    exact List.inj_on_of_nodup_map hkeys hx hy (id_unique hplaced hmd5 hx hy hid)
  · rw [((hperm.filter _).map _).nodup_iff, List.filter_map, List.map_map]
    refine (hkeys.of_map.filter _).map_on fun x hx y hy hslot => ?_
    -- what is in a frame has a nonempty path
    have hpath : ∀ z ∈ blockItems block, z.2.2.link.parentId ≠ "" → z.2.1 ≠ [] := by
      intro z hz hne hnil
      have hparent := (entryAt_of_mem hplaced hz).parentId
      rw [hnil] at hparent
      exact hne hparent
    obtain ⟨hx, hxne⟩ := List.mem_filter.mp hx
    obtain ⟨hy, hyne⟩ := List.mem_filter.mp hy
    obtain ⟨hparent, hposition⟩ := Prod.mk.inj hslot
    have hatx := entryAt_of_mem hplaced hx
    have haty := entryAt_of_mem hplaced hy
    refine List.inj_on_of_nodup_map hkeys hx hy (slot_unique hplaced hmd5 hx hy ?_ ?_ ?_ ?_)
    · exact hpath x hx (of_decide_eq_true hxne)
    · exact hpath y hy (of_decide_eq_true hyne)
    · exact hatx.parentId.symm.trans (hparent.trans haty.parentId)
    · exact hatx.position.symm.trans (hposition.trans haty.position)
  · obtain ⟨under, hfilter, hpositions, -⟩ := hunder trace htrace
    rw [hfilter.length_eq, List.length_map, ← hpositions]
    refine (hfilter.map _).trans (List.Perm.of_eq ?_)
    rw [List.map_map]
    rfl
  · obtain ⟨under, hfilter, -, hsubtraces⟩ := hunder trace htrace
    rw [← countP_entries, hfilter.countP_eq, List.countP_map, hsubtraces]
    rfl

/-! ### The entries that the code builds -/

/-- The entries of the members without their sources. -/
def Labelled.entryForest (labelled : Labelled) : Forest DebankTrace DebankEvent :=
  labelled.map (·.2.trace) Prod.snd

section Built

variable {md5 : String → BitVec 128} {hash : B256} {nodes : List CallTraceNode}
  {exactErrors : List (Option String)} {index : ℕ} {node : CallTraceNode} {frame : Frame}
  {ordering : List TraceMemberOrder} {position logIndex next : ℕ} {tree : CallTree}
  {labelled : Labelled}

/-- Every entry says where it is. -/
lemma Built.entryAt (h : Built md5 (displayHash hash) nodes exactErrors index node frame ordering
    position logIndex tree labelled next) {path : List ℕ}
    (hid : frame.trace.id = pathId md5 hash path) :
    ∀ item ∈ labelled.entryForest.places path position, EntryAt md5 hash item.1 item.2 := by
  -- along the tree; the path of a child has its position in front
  induction h generalizing path with
  | done => exact fun _ h => (nomatch h)
  | @suicide _ node frame position _ _ =>
    intro item hitem
    obtain rfl := List.mem_singleton.mp hitem
    refine ⟨rfl, ?_⟩
    have hsuicide : (frame.suicide md5 (displayHash hash) node position).trace.id =
        pathId md5 hash (position :: path) := by
      rw [pathId, ← hid]
      rfl
    exact congrArg₂ (fun id parentId => Link.mk id parentId position) hsuicide hid
  | step _ _ ih => exact ih hid
  | @log _ node frame position logIndex _ _ _ _ _ log _ _ ih =>
    intro item hitem
    rcases List.mem_cons.mp hitem with rfl | hitem
    · have hevent : (frame.event md5 node position logIndex log).id =
          eventId md5 (pathId md5 hash path) position := by
        rw [← hid]
        rfl
      exact congrArg₂ (fun id parentId => Link.mk id parentId position) hevent hid
    · exact ih hid item hitem
  | @call _ _ frame position _ _ _ _ _ _ _ _ _ _ _ opened _ _ hopen _ _ ihInner ihRest =>
    obtain ⟨-, -, htx, hparent, hposition, -, hopened⟩ := openFrame_eq_ok hopen
    have hpath : opened.trace.id = pathId md5 hash (position :: path) := by
      rw [hopened, pathId, ← hid]
      rfl
    intro item hitem
    rcases List.mem_cons.mp hitem with rfl | hitem
    · refine ⟨htx, ?_⟩
      have hparent : opened.trace.parentTraceId = pathId md5 hash path := hparent.trans hid
      have hposition : opened.trace.posInParentTrace = position := hposition
      show Link.mk opened.trace.id opened.trace.parentTraceId opened.trace.posInParentTrace = _
      rw [hpath, hparent, hposition]
      rfl
    · rcases List.mem_append.mp hitem with hitem | hitem
      · exact ihInner hpath item hitem
      · exact ihRest hid item hitem

/-- Every frame counts the frames in it. -/
lemma Built.each_subtraces (h : Built md5 (displayHash hash) nodes exactErrors index node frame
    ordering position logIndex tree labelled next) :
    labelled.entryForest.Each fun trace inner => trace.subtraces = inner.roots.length := by
  induction h with
  | done => exact trivial
  | suicide => exact ⟨rfl, trivial, trivial⟩
  | step _ _ ih => exact ih
  | log _ _ ih => exact ih
  | @call _ _ _ _ _ _ _ _ _ _ _ _ inner _ _ _ _ _ _ _ _ ihInner ihRest =>
    refine ⟨?_, ihInner, ihRest⟩
    show inner.members.roots.length = (Forest.map _ _ inner).roots.length
    rw [Labelled.members, Forest.roots_map, Forest.roots_map, List.length_map,
      List.length_map]

end Built

end AlethiaReth.Debank
