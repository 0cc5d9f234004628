import Mathlib.Tactic

/-!
Ordered forests whose trees have members of two kinds, trees again and leaves.

The members are also listed by path, the positions on the way, innermost first: paths are distinct
(`nodup_places`), and what is under a tree is what its own members say (`Each.filter_places`).
-/

/-- The members of a tree in order: trees with their own members, and leaves. -/
inductive Forest (α β : Type*) where
  | nil
  | node (label : α) (inner rest : Forest α β)
  | leaf (label : β) (rest : Forest α β)
  deriving DecidableEq

namespace Forest

variable {α β γ δ μ ν : Type*}

/-- The labels of the trees, each before those inside. -/
def nodes : Forest α β → List α
  | nil => []
  | node a inner rest => a :: (inner.nodes ++ rest.nodes)
  | leaf _ rest => rest.nodes

/-- The labels of the trees that are members themselves. -/
def roots : Forest α β → List α
  | nil => []
  | node a _ rest => a :: rest.roots
  | leaf _ rest => rest.roots

/-- The leaves, depth first, each with the mark of the tree that it is a member of. -/
def leavesIn (mark : α → μ) : μ → Forest α β → List (μ × β)
  | _, nil => []
  | m, node a inner rest => inner.leavesIn mark (mark a) ++ rest.leavesIn mark m
  | m, leaf b rest => (m, b) :: rest.leavesIn mark m

/-- How many leaves there are. -/
def leafCount : Forest α β → ℕ
  | nil => 0
  | node _ inner rest => inner.leafCount + rest.leafCount
  | leaf _ rest => rest.leafCount + 1

/-- How deep the nodes are nested. -/
def height : Forest α β → ℕ
  | nil => 0
  | node _ inner rest => max (inner.height + 1) rest.height
  | leaf _ rest => rest.height

/-- The members by path, from a position of the tree at a path on. -/
def places : List ℕ → ℕ → Forest α β → List (List ℕ × (α ⊕ β))
  | _, _, nil => []
  | path, n, node a inner rest =>
    (n :: path, .inl a) :: (inner.places (n :: path) 0 ++ rest.places path (n + 1))
  | path, n, leaf b rest => (n :: path, .inr b) :: rest.places path (n + 1)

/-- Every tree and its members satisfy `P`. -/
def Each (P : α → Forest α β → Prop) : Forest α β → Prop
  | nil => True
  | node a inner rest => P a inner ∧ inner.Each P ∧ rest.Each P
  | leaf _ rest => rest.Each P

/-- The same forest under other labels. -/
def map (f : α → γ) (g : β → δ) : Forest α β → Forest γ δ
  | nil => nil
  | node a inner rest => node (f a) (inner.map f g) (rest.map f g)
  | leaf b rest => leaf (g b) (rest.map f g)

lemma height_le_length_nodes (t : Forest α β) : t.height ≤ t.nodes.length := by
  induction t with
  | nil => exact le_rfl
  | node a inner rest ihInner ihRest =>
    rw [height, nodes, List.length_cons, List.length_append]
    omega
  | leaf b rest ih => exact ih

lemma length_leavesIn (mark : α → μ) (m : μ) (t : Forest α β) :
    (t.leavesIn mark m).length = t.leafCount := by
  induction t generalizing m with
  | nil => rfl
  | node a inner rest ihInner ihRest =>
    rw [leavesIn, List.length_append, ihInner, ihRest, leafCount]
  | leaf b rest ih => rw [leavesIn, List.length_cons, ih, leafCount]

lemma mem_nodes_of_mem_roots {t : Forest α β} {a : α} (h : a ∈ t.roots) : a ∈ t.nodes := by
  induction t with
  | nil => cases h
  | node b inner rest _ ihRest =>
    rcases List.mem_cons.mp h with rfl | h
    · exact List.mem_cons_self
    · exact List.mem_cons_of_mem _ (List.mem_append_right _ (ihRest h))
  | leaf b rest ih => exact ih h

section Map

variable (f : α → γ) (g : β → δ) (t : Forest α β)

@[simp] lemma nodes_map : (t.map f g).nodes = t.nodes.map f := by
  induction t with
  | nil => rfl
  | node a inner rest ihInner ihRest => simp [map, nodes, ihInner, ihRest]
  | leaf b rest ih => exact ih

@[simp] lemma roots_map : (t.map f g).roots = t.roots.map f := by
  induction t with
  | nil => rfl
  | node a inner rest _ ihRest => simp [map, roots, ihRest]
  | leaf b rest ih => exact ih

/-- Marks and leaves may be relabelled after they are listed. -/
lemma leavesIn_map (mark : γ → μ) (m : μ) (t : Forest α β) :
    (t.map f g).leavesIn mark m =
      (t.leavesIn (fun a => mark (f a)) m).map fun leaf => (leaf.1, g leaf.2) := by
  induction t generalizing m with
  | nil => rfl
  | node a inner rest ihInner ihRest => simp [map, leavesIn, ihInner, ihRest]
  | leaf b rest ih => simp [map, leavesIn, ih]

end Map

/-- A mark of the marks. -/
lemma leavesIn_comp (mark : α → μ) (h : μ → ν) (m : μ) (t : Forest α β) :
    t.leavesIn (fun a => h (mark a)) (h m) =
      (t.leavesIn mark m).map fun leaf => (h leaf.1, leaf.2) := by
  induction t generalizing m with
  | nil => rfl
  | node a inner rest ihInner ihRest => simp [leavesIn, ihInner, ihRest]
  | leaf b rest ih => simp [leavesIn, ih]

/-! ### Places -/

section Places

variable {path : List ℕ} {n : ℕ} {t : Forest α β} {x : List ℕ × (α ⊕ β)} {q : List ℕ}

/-- A path goes through a position of the tree. -/
lemma exists_suffix_of_mem_places (h : x ∈ t.places path n) :
    ∃ m, n ≤ m ∧ (m :: path) <:+ x.1 := by
  induction t generalizing path n with
  | nil => cases h
  | node a inner rest ihInner ihRest =>
    rcases List.mem_cons.mp h with rfl | h
    · exact ⟨n, le_rfl, List.suffix_rfl⟩
    · rcases List.mem_append.mp h with h | h
      · obtain ⟨m, -, hm⟩ := ihInner h
        exact ⟨n, le_rfl, (List.suffix_cons m _).trans hm⟩
      · obtain ⟨m, hle, hm⟩ := ihRest h
        exact ⟨m, by omega, hm⟩
  | leaf b rest ih =>
    rcases List.mem_cons.mp h with rfl | h
    · exact ⟨n, le_rfl, List.suffix_rfl⟩
    · obtain ⟨m, hle, hm⟩ := ih h
      exact ⟨m, by omega, hm⟩

/-- Two positions of one tree that a path goes through are one. -/
lemma position_unique {m m' : ℕ} (h : (m :: path) <:+ q) (h' : (m' :: path) <:+ q) :
    m = m' := by
  have heq := (List.suffix_of_suffix_length_le h h' le_rfl).eq_of_length rfl
  exact (List.cons.inj heq).1

lemma not_cons_suffix_self (m : ℕ) : ¬(m :: path) <:+ path := by
  intro h
  have hlength := h.length_le
  rw [List.length_cons] at hlength
  omega

/-- Without its innermost position, a path still goes through the tree. -/
lemma suffix_tail {m : ℕ} (h : (m :: path) <:+ q) : path <:+ q.tail := by
  obtain ⟨front, rfl⟩ := h
  cases front with
  | nil => exact List.suffix_rfl
  | cons c front => exact (List.suffix_cons m path).trans (List.suffix_append front _)

/-- A path through a position is not one of the members after it. -/
lemma not_mem_places_of_suffix (hq : (n :: path) <:+ q) :
    ∀ x ∈ t.places path (n + 1), ¬q <:+ x.1 := by
  intro x hx hsuffix
  obtain ⟨m, hle, hm⟩ := exists_suffix_of_mem_places hx
  have := position_unique (hq.trans hsuffix) hm
  omega

/-- Paths are distinct. -/
lemma nodup_places (path : List ℕ) (n : ℕ) (t : Forest α β) :
    ((t.places path n).map Prod.fst).Nodup := by
  induction t generalizing path n with
  | nil => exact List.nodup_nil
  | leaf b rest ih =>
    rw [places, List.map_cons, List.nodup_cons]
    refine ⟨fun hmem => ?_, ih path (n + 1)⟩
    obtain ⟨x, hx, heq⟩ := List.mem_map.mp hmem
    exact not_mem_places_of_suffix List.suffix_rfl x hx (heq ▸ List.suffix_rfl)
  | node a inner rest ihInner ihRest =>
    rw [places, List.map_cons, List.map_append, List.nodup_cons, List.nodup_append]
    refine ⟨fun hmem => ?_, ihInner _ _, ihRest _ _, ?_⟩
    · rcases List.mem_append.mp hmem with hmem | hmem
      · obtain ⟨x, hx, heq⟩ := List.mem_map.mp hmem
        obtain ⟨m, -, hm⟩ := exists_suffix_of_mem_places hx
        exact not_cons_suffix_self m (heq ▸ hm)
      · obtain ⟨x, hx, heq⟩ := List.mem_map.mp hmem
        exact not_mem_places_of_suffix List.suffix_rfl x hx (heq ▸ List.suffix_rfl)
    · rintro q hq q' hq' rfl
      obtain ⟨x, hx, rfl⟩ := List.mem_map.mp hq
      obtain ⟨y, hy, heq⟩ := List.mem_map.mp hq'
      obtain ⟨m, -, hm⟩ := exists_suffix_of_mem_places hx
      have hthrough : (n :: path) <:+ x.1 := (List.suffix_cons m _).trans hm
      exact not_mem_places_of_suffix hthrough y hy (heq ▸ List.suffix_rfl)

/-- The parent of a member is the tree itself or a tree in it. -/
lemma tail_mem_places (h : x ∈ t.places path n) :
    x.1.tail = path ∨ ∃ a, (x.1.tail, Sum.inl a) ∈ t.places path n := by
  induction t generalizing path n with
  | nil => cases h
  | leaf b rest ih =>
    rcases List.mem_cons.mp h with rfl | h
    · exact .inl rfl
    · rcases ih h with htail | ⟨a, ha⟩
      · exact .inl htail
      · exact .inr ⟨a, List.mem_cons_of_mem _ ha⟩
  | node a inner rest ihInner ihRest =>
    rcases List.mem_cons.mp h with rfl | h
    · exact .inl rfl
    · rcases List.mem_append.mp h with h | h
      · rcases ihInner h with htail | ⟨c, hc⟩
        · exact .inr ⟨a, htail ▸ List.mem_cons_self⟩
        · exact .inr ⟨c, List.mem_cons_of_mem _ (List.mem_append_left _ hc)⟩
      · rcases ihRest h with htail | ⟨c, hc⟩
        · exact .inl htail
        · exact .inr ⟨c, List.mem_cons_of_mem _ (List.mem_append_right _ hc)⟩

/-- No member that is inside a member is under the tree itself. -/
lemma filter_places_inner (hq : ¬(n :: path) <:+ q) (inner : Forest α β) :
    (inner.places (n :: path) 0).filter (fun x => x.1.tail = q) = [] := by
  rw [List.filter_eq_nil_iff]
  intro x hx htail
  obtain ⟨m, -, hm⟩ := exists_suffix_of_mem_places hx
  exact hq (of_decide_eq_true htail ▸ suffix_tail hm)

/-- Nothing after a member is under what is inside it. -/
lemma filter_places_rest (hq : (n :: path) <:+ q) (rest : Forest α β) :
    (rest.places path (n + 1)).filter (fun x => x.1.tail = q) = [] := by
  rw [List.filter_eq_nil_iff]
  intro x hx htail
  obtain ⟨m, hle, front, hfront⟩ := exists_suffix_of_mem_places hx
  have htail := of_decide_eq_true htail
  cases front with
  | nil =>
    rw [← hfront] at htail
    exact not_cons_suffix_self n (htail ▸ hq)
  | cons c front =>
    have hm : (m :: path) <:+ q := by
      rw [← htail, ← hfront]
      exact List.suffix_append front _
    have := position_unique hq hm
    omega

/-- What is under a tree, by its path, is what its own members say. -/
lemma Each.filter_places {P : α → Forest α β → Prop} (ht : t.Each P) {a : α}
    (h : (q, Sum.inl a) ∈ t.places path n) :
    ∃ inner, P a inner ∧ (t.places path n).filter (fun x => x.1.tail = q) =
      (inner.places q 0).filter (fun x => x.1.tail = q) := by
  induction t generalizing path n with
  | nil => cases h
  | leaf b rest ih =>
    rcases List.mem_cons.mp h with h | h
    · cases h
    · obtain ⟨inner, hinner, hfilter⟩ := ih ht h
      obtain ⟨m, -, hm⟩ := exists_suffix_of_mem_places h
      refine ⟨inner, hinner, ?_⟩
      rw [places, List.filter_cons_of_neg, hfilter]
      rw [decide_eq_true_iff]
      rintro rfl
      exact not_cons_suffix_self m hm
  | node c inner rest ihInner ihRest =>
    obtain ⟨hhead, hinner, hrest⟩ := ht
    -- the tree of the first member is not under a path that goes through a position
    have hself : ∀ {m : ℕ}, (m :: path) <:+ q →
        (places path n (node c inner rest)).filter (fun x => x.1.tail = q) =
          (inner.places (n :: path) 0).filter (fun x => x.1.tail = q) ++
            (rest.places path (n + 1)).filter (fun x => x.1.tail = q) := by
      intro m hm
      rw [places, List.filter_cons_of_neg, List.filter_append]
      rw [decide_eq_true_iff]
      rintro rfl
      exact not_cons_suffix_self m hm
    rcases List.mem_cons.mp h with h | h
    · cases h
      refine ⟨inner, hhead, ?_⟩
      rw [hself List.suffix_rfl, filter_places_rest List.suffix_rfl, List.append_nil]
    · rcases List.mem_append.mp h with h | h
      · obtain ⟨deep, hdeep, hfilter⟩ := ihInner hinner h
        obtain ⟨m, -, hm⟩ := exists_suffix_of_mem_places h
        have hq : (n :: path) <:+ q := (List.suffix_cons m _).trans hm
        refine ⟨deep, hdeep, ?_⟩
        rw [hself hq, hfilter, filter_places_rest hq, List.append_nil]
      · obtain ⟨deep, hdeep, hfilter⟩ := ihRest hrest h
        obtain ⟨m, hle, hm⟩ := exists_suffix_of_mem_places h
        have hq : ¬(n :: path) <:+ q := by
          intro hn
          have := position_unique hn hm
          omega
        refine ⟨deep, hdeep, ?_⟩
        rw [hself hm, filter_places_inner hq, List.nil_append, hfilter]

/-- The members themselves have the positions one after another. -/
lemma map_head_filter_places (path : List ℕ) (n : ℕ) (t : Forest α β) :
    ((t.places path n).filter (fun x => x.1.tail = path)).map (fun x => x.1.headD 0) =
      List.range' n ((t.places path n).filter fun x => x.1.tail = path).length := by
  induction t generalizing n with
  | nil => rfl
  | leaf b rest ih =>
    rw [places, List.filter_cons_of_pos (by simp), List.map_cons, ih, List.length_cons,
      List.range'_succ]
    rfl
  | node a inner rest _ ihRest =>
    rw [places, List.filter_cons_of_pos (by simp), List.filter_append,
      filter_places_inner (not_cons_suffix_self n), List.nil_append, List.map_cons, ihRest,
      List.length_cons, List.range'_succ]
    rfl

/-- The trees among the members themselves. -/
lemma countP_filter_places (path : List ℕ) (n : ℕ) (t : Forest α β) :
    ((t.places path n).filter (fun x => x.1.tail = path)).countP (·.2.isLeft) =
      t.roots.length := by
  induction t generalizing n with
  | nil => rfl
  | leaf b rest ih =>
    rw [places, List.filter_cons_of_pos (by simp), List.countP_cons_of_neg (by simp), ih]
    rfl
  | node a inner rest _ ihRest =>
    rw [places, List.filter_cons_of_pos (by simp), List.filter_append,
      filter_places_inner (not_cons_suffix_self n), List.nil_append,
      List.countP_cons_of_pos (by simp), ihRest]
    rfl

/-- The places without the paths are the trees and the leaves. -/
lemma map_snd_places_perm (mark : α → μ) (m : μ) (path : List ℕ) (n : ℕ) (t : Forest α β) :
    ((t.places path n).map Prod.snd).Perm
      (t.nodes.map .inl ++ ((t.leavesIn mark m).map Prod.snd).map .inr) := by
  induction t generalizing path n m with
  | nil => exact .nil
  | leaf b rest ih => exact ((ih m path (n + 1)).cons _).trans List.perm_middle.symm
  | node a inner rest ihInner ihRest =>
    have hmembers := (ihInner (mark a) (n :: path) 0).append (ihRest m path (n + 1))
    rw [places, nodes, leavesIn, List.map_cons, List.map_append, List.map_cons,
      List.cons_append]
    refine (hmembers.cons _).trans (List.Perm.cons _ ?_)
    simp only [List.map_append, ← Multiset.coe_eq_coe, ← Multiset.coe_add]
    abel

end Places

end Forest
