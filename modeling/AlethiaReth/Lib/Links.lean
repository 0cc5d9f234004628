import Mathlib.Tactic

/-!
Chains of blocks in which every block extends the one before it: where they are cut and joined
(`links_append`, `Links.split`), and what their ends determine (`Links.end_unique`,
`Links.start_unique`, `Links.mem_of_end_mem`).
-/

section Links

variable {L β : Type*} {Extends : L → β → Prop} {label : β → L}

variable (Extends label)
  {a z : L} {bs : List β} in
/-- The blocks lead from one label to the other. -/
def Links : L → List β → L → Prop
  | a, [], z => a = z
  | a, b :: bs, z => Extends a b ∧ Links (label b) bs z

instance Links.decidable [∀ a b, Decidable (Extends a b)] [DecidableEq L] :
    ∀ a bs z, Decidable (Links Extends label a bs z)
  | a, [], z => inferInstanceAs (Decidable (a = z))
  | _, b :: bs, z =>
    haveI := Links.decidable (label b) bs z
    inferInstanceAs (Decidable (_ ∧ _))

lemma links_append {xs ys : List β} :
    Links Extends label a (xs ++ ys) z ↔
      ∃ m, Links Extends label a xs m ∧ Links Extends label m ys z := by
  induction xs generalizing a with
  | nil =>
    constructor
    · exact fun h => ⟨a, rfl, h⟩
    · rintro ⟨m, rfl, h⟩
      exact h
  | cons x xs ih =>
    rw [List.cons_append, Links, ih]
    constructor
    · rintro ⟨hx, m, hxs, hys⟩
      exact ⟨m, ⟨hx, hxs⟩, hys⟩
    · rintro ⟨m, ⟨hx, hxs⟩, hys⟩
      exact ⟨hx, m, hxs, hys⟩

/-- A chain ends at its start or at one of its blocks. -/
lemma Links.end_mem (h : Links Extends label a bs z) :
    z ∈ a :: bs.map label := by
  induction bs generalizing a with
  | nil =>
    rw [show a = z from h]
    exact List.mem_cons_self
  | cons b bs ih => exact List.mem_cons_of_mem _ (ih h.2)

lemma Links.end_unique {z' : L} (h : Links Extends label a bs z)
    (h' : Links Extends label a bs z') : z = z' := by
  induction bs generalizing a with
  | nil => exact h.symm.trans h'
  | cons b bs ih => exact ih h.2 h'.2

lemma Links.start_unique (hbase : ∀ a a' b, Extends a b → Extends a' b → a = a') {a' : L}
    (h : Links Extends label a bs z) (h' : Links Extends label a' bs z) :
    a = a' := by
  cases bs with
  | nil => exact h.trans h'.symm
  | cons b bs => exact hbase a a' b h.1 h'.1

section Height

variable {height : L → ℕ} (hheight : ∀ a b, Extends a b → height (label b) = height a + 1) {a z : L}
  {bs : List β}
include hheight

lemma Links.height_eq (h : Links Extends label a bs z) :
    height z = height a + bs.length := by
  induction bs generalizing a with
  | nil =>
    rw [show a = z from h]
    rfl
  | cons b bs ih =>
    rw [ih h.2, hheight a b h.1, List.length_cons]
    omega

/-- All blocks are above where the chain starts and not above where it ends. -/
lemma Links.height_mem (h : Links Extends label a bs z) :
    ∀ b ∈ bs, height a < height (label b) ∧ height (label b) ≤ height z := by
  induction bs generalizing a with
  | nil => exact fun _ h => (nomatch h)
  | cons c bs ih =>
    have hc := hheight a c h.1
    have hend := Links.height_eq hheight h.2
    intro b hb
    rcases List.mem_cons.mp hb with rfl | hb
    · omega
    · have := ih h.2 b hb
      omega

/-- A chain is cut at every height between its ends. -/
lemma Links.split (h : Links Extends label a bs z) {k : ℕ} (hlow : height a ≤ k)
    (hhigh : k ≤ height z) :
    ∃ xs ys m, bs = xs ++ ys ∧ height m = k ∧ Links Extends label a xs m ∧
      Links Extends label m ys z ∧ bs.filter (fun b => height (label b) ≤ k) = xs := by
  have hlength := Links.height_eq hheight h
  obtain ⟨m, hxs, hys⟩ := links_append.mp
    ((List.take_append_drop (k - height a) bs).symm ▸ h)
  have hm := Links.height_eq hheight hxs
  rw [List.length_take] at hm
  have hk : height m = k := by omega
  refine ⟨_, _, m, (List.take_append_drop _ bs).symm, hk, hxs, hys, ?_⟩
  conv_lhs => rw [← List.take_append_drop (k - height a) bs]
  rw [List.filter_append, List.filter_eq_self.mpr, List.filter_eq_nil_iff.mpr, List.append_nil]
  · intro b hb hle
    have := (Links.height_mem hheight hys b hb).1
    have := of_decide_eq_true hle
    omega
  · intro b hb
    have := (Links.height_mem hheight hxs b hb).2
    exact decide_eq_true (by omega)

/-- A block as high as the chain is its end. -/
lemma Links.label_eq_of_height (h : Links Extends label a bs z) {b : β} (hb : b ∈ bs)
    (heq : height (label b) = height z) : label b = z := by
  obtain ⟨xs, ys, rfl⟩ := List.append_of_mem hb
  obtain ⟨m, -, -, hys⟩ := links_append.mp h
  have hlength := Links.height_eq hheight hys
  have hnil : ys = [] := List.length_eq_zero_iff.mp (by omega)
  subst hnil
  exact hys

/-- The block one above where a chain starts is its first. -/
lemma Links.eq_cons_of_height (h : Links Extends label a bs z) {b : β} (hb : b ∈ bs)
    (heq : height (label b) = height a + 1) : ∃ rest, bs = b :: rest := by
  cases bs with
  | nil => exact (nomatch hb)
  | cons c bs =>
    rcases List.mem_cons.mp hb with rfl | hb
    · exact ⟨bs, rfl⟩
    · have := (Links.height_mem hheight h.2 b hb).1
      have := hheight a c h.1
      omega

/-- The heights of a chain are those above where it starts, in order. -/
lemma Links.map_height (h : Links Extends label a bs z) :
    bs.map (fun b => height (label b)) = List.range' (height a + 1) bs.length := by
  induction bs generalizing a with
  | nil => rfl
  | cons b bs ih =>
    rw [List.map_cons, ih h.2, hheight a b h.1, List.length_cons, List.range'_succ]

/-- A chain that ends on another one, and does not start below it, is a part of it: where a block
is the other's, so is what it extends. -/
lemma Links.mem_of_end_mem (hbase : ∀ a a' b, Extends a b → Extends a' b → a = a') {r t : L}
    {cs : List β} (h : Links Extends label a bs z) (h' : Links Extends label r cs t)
    (hsame : ∀ b ∈ bs, ∀ c ∈ cs, label b = label c → b = c) (hle : height r ≤ height a)
    (hend : z ∈ r :: cs.map label) : a ∈ r :: cs.map label ∧ ∀ b ∈ bs, b ∈ cs := by
  -- from the last block back
  induction bs using List.reverseRecOn generalizing z with
  | nil => exact ⟨(show a = z from h) ▸ hend, fun _ hb => (nomatch hb)⟩
  | append_singleton bs b ih =>
    obtain ⟨m, hbs, hb, rfl⟩ := links_append.mp h
    have hheightb := hheight m b hb
    have hheightm := Links.height_eq hheight hbs
    rcases List.mem_cons.mp hend with hroot | hmem
    · rw [hroot] at hheightb
      omega
    · obtain ⟨c, hc, hlabel⟩ := List.mem_map.mp hmem
      obtain rfl := hsame b (List.mem_append_right _ List.mem_cons_self) c hc hlabel.symm
      obtain ⟨us, vs, rfl⟩ := List.append_of_mem hc
      obtain ⟨m', hus, hb', -⟩ := links_append.mp h'
      have hm : m ∈ r :: (us ++ b :: vs).map label := by
        rw [hbase m m' b hb hb', List.map_append, ← List.cons_append]
        exact List.mem_append_left _ hus.end_mem
      obtain ⟨hstart, hrest⟩ := ih hbs
        (fun b' hb' => hsame b' (List.mem_append_left _ hb')) hm
      refine ⟨hstart, fun b' hb' => ?_⟩
      rcases List.mem_append.mp hb' with hb' | hb'
      · exact hrest b' hb'
      · rw [List.mem_singleton.mp hb']
        exact hc

/-- A block is found by its height. -/
lemma Links.find_height {xs ys : List β} {b : β} (h : Links Extends label a (xs ++ b :: ys) z) :
    (xs ++ b :: ys).find? (fun c => height (label c) = height (label b)) = some b := by
  obtain ⟨m, hxs, hb, -⟩ := links_append.mp h
  have hheightb := hheight m b hb
  rw [List.find?_append, List.find?_eq_none.mpr, Option.none_or,
    List.find?_cons_of_pos (by simp)]
  intro c hc heq
  have := (Links.height_mem hheight hxs c hc).2
  have := of_decide_eq_true heq
  omega

end Height

end Links
