import Mathlib.Tactic

/-!
Lists of entries with a key, no two of one key, and maps that are filled from them.

* `lookup_filterMap`: a list made of another entry by entry, under keys that an injective function
  gives, is looked up through the other one.
* `foldlM_insert_empty`, `foldlM_insert_eq_ok`: a loop that adds one entry to a map a round, and
  fails only at a key the map has, ends with the map of the list, and only where no key comes twice.
-/

namespace Keyed

variable {K K' α β V : Type*} [DecidableEq K] [DecidableEq K'] {ε : Type*}
  {step : (K → Option V) → α → Except ε (K → Option V)} {value : α → V} {map : K → Option V}

/-- The first entry of a key. -/
def lookup (key : α → K) (k : K) (l : List α) : Option α := l.find? fun x => key x = k

variable {key : α → K} {l l' : List α} {k : K} {x : α}

lemma mem_of_lookup (h : lookup key k l = some x) : x ∈ l ∧ key x = k :=
  ⟨List.mem_of_find?_eq_some h, by simpa using List.find?_some h⟩

lemma lookup_eq_none_iff : lookup key k l = none ↔ ∀ x ∈ l, key x ≠ k := by
  simp [lookup, List.find?_eq_none]

lemma lookup_eq_some_iff (hnodup : (l.map key).Nodup) :
    lookup key k l = some x ↔ x ∈ l ∧ key x = k := by
  refine ⟨mem_of_lookup, ?_⟩
  rintro ⟨hmem, rfl⟩
  cases hlookup : lookup key (key x) l with
  | none => exact absurd rfl (lookup_eq_none_iff.mp hlookup x hmem)
  | some y =>
    obtain ⟨hy, heq⟩ := mem_of_lookup hlookup
    rw [List.inj_on_of_nodup_map hnodup hy hmem heq]

lemma lookup_perm (hnodup : (l.map key).Nodup) (hperm : l'.Perm l) :
    lookup key k l' = lookup key k l := by
  have hnodup' : (l'.map key).Nodup := (hperm.map key).nodup_iff.mpr hnodup
  refine Option.ext fun x => ?_
  rw [lookup_eq_some_iff hnodup', lookup_eq_some_iff hnodup, hperm.mem_iff]

omit [DecidableEq K] in
lemma flatMap_eq_of_key (hnodup : (l.map key).Nodup) (hx : x ∈ l) {f : α → List β}
    (h : ∀ y ∈ l, key y ≠ key x → f y = []) : l.flatMap f = f x := by
  induction l with
  | nil => cases hx
  | cons y l ih =>
    rw [List.map_cons, List.nodup_cons] at hnodup
    rw [List.flatMap_cons]
    rcases List.mem_cons.mp hx with rfl | hx
    · have hrest : l.flatMap f = [] := by
        refine List.flatMap_eq_nil_iff.mpr fun z hz => h z (List.mem_cons_of_mem _ hz) ?_
        intro hkey
        exact hnodup.1 (hkey ▸ List.mem_map_of_mem hz)
      rw [hrest, List.append_nil]
    · have hne : key y ≠ key x := by
        intro hkey
        exact hnodup.1 (hkey ▸ List.mem_map_of_mem hx)
      rw [h y List.mem_cons_self hne, List.nil_append]
      exact ih hnodup.2 hx fun z hz => h z (List.mem_cons_of_mem _ hz)

section FilterMap

variable {key' : β → K'} {hash : K → K'} {f : α → Option β}

omit [DecidableEq K] [DecidableEq K'] in
lemma sublist_filterMap (hf : ∀ x y, f x = some y → key' y = hash (key x)) (l : List α) :
    ((l.filterMap f).map key').Sublist (l.map fun x => hash (key x)) := by
  induction l with
  | nil => exact .slnil
  | cons x l ih =>
    cases hx : f x with
    | none =>
      rw [List.filterMap_cons_none hx]
      exact ih.cons _
    | some y =>
      rw [List.filterMap_cons_some hx, List.map_cons, List.map_cons, hf x y hx]
      exact ih.cons_cons _

omit [DecidableEq K] [DecidableEq K'] in
/-- What is made of entries of distinct keys has distinct keys. -/
lemma nodup_filterMap (hhash : Function.Injective hash)
    (hf : ∀ x y, f x = some y → key' y = hash (key x)) (hnodup : (l.map key).Nodup) :
    ((l.filterMap f).map key').Nodup := by
  refine (sublist_filterMap hf l).nodup ?_
  have hmap := hnodup.map hhash
  rwa [List.map_map] at hmap

/-- What is made of entries is looked up by looking up the entry. -/
lemma lookup_filterMap (hhash : Function.Injective hash)
    (hf : ∀ x y, f x = some y → key' y = hash (key x)) (hnodup : (l.map key).Nodup) (k : K) :
    lookup key' (hash k) (l.filterMap f) = (lookup key k l).bind f := by
  refine Option.ext fun y => ?_
  rw [lookup_eq_some_iff (nodup_filterMap hhash hf hnodup), List.mem_filterMap,
    Option.bind_eq_some_iff]
  constructor
  · rintro ⟨⟨x, hx, hfx⟩, hkey⟩
    rw [hf x y hfx] at hkey
    exact ⟨x, (lookup_eq_some_iff hnodup).mpr ⟨hx, hhash hkey⟩, hfx⟩
  · rintro ⟨x, hx, hfx⟩
    obtain ⟨hmem, rfl⟩ := mem_of_lookup hx
    exact ⟨⟨x, hmem, hfx⟩, hf x y hfx⟩

omit [DecidableEq K] [DecidableEq K'] in
/-- The same of what is made of every entry. -/
lemma nodup_map {g : α → β} (hhash : Function.Injective hash)
    (hg : ∀ x, key' (g x) = hash (key x)) (hnodup : (l.map key).Nodup) :
    ((l.map g).map key').Nodup := by
  rw [List.map_map, show key' ∘ g = hash ∘ key from funext hg, ← List.map_map]
  exact hnodup.map hhash

lemma lookup_map {g : α → β} (hhash : Function.Injective hash)
    (hg : ∀ x, key' (g x) = hash (key x)) (k : K) :
    lookup key' (hash k) (l.map g) = (lookup key k l).map g := by
  rw [lookup, lookup, List.find?_map]
  refine congrArg (Option.map g) (congrArg (List.find? · l) (funext fun x => ?_))
  simp [hg, hhash.eq_iff]

end FilterMap

/-- A loop that adds the entries of a list to a map ends with the map of the list, over what
was there before, if no key comes twice. -/
lemma foldlM_insert (hnodup : (l.map key).Nodup)
    (hstep : ∀ x ∈ l, ∀ map : K → Option V, map (key x) = none →
      step map x = .ok (Function.update map (key x) (some (value x))))
    (hfresh : ∀ x ∈ l, map (key x) = none) :
    l.foldlM step map = .ok fun k => ((lookup key k l).map value).or (map k) := by
  induction l generalizing map with
  | nil => rfl
  | cons x l ih =>
    obtain ⟨hx, hnodup⟩ := List.nodup_cons.mp hnodup
    have hne : ∀ y ∈ l, key y ≠ key x := fun y hy heq =>
      hx (heq ▸ List.mem_map_of_mem hy)
    rw [List.foldlM_cons, hstep x List.mem_cons_self map (hfresh x List.mem_cons_self)]
    refine (ih hnodup (fun y hy => hstep y (List.mem_cons_of_mem x hy)) fun y hy => ?_).trans ?_
    · rw [Function.update_of_ne (hne y hy)]
      exact hfresh y (List.mem_cons_of_mem x hy)
    · refine congrArg Except.ok (funext fun k => ?_)
      by_cases hk : key x = k
      · subst hk
        have hnone : lookup key (key x) l = none := lookup_eq_none_iff.mpr hne
        have hsome : lookup key (key x) (x :: l) = some x := by simp [lookup]
        rw [hnone, hsome, Function.update_self]
        rfl
      · have hskip : lookup key k (x :: l) = lookup key k l := by simp [lookup, hk]
        rw [hskip, Function.update_of_ne (Ne.symm hk)]

/-- The same from the empty map. -/
lemma foldlM_insert_empty (hnodup : (l.map key).Nodup)
    (hstep : ∀ x ∈ l, ∀ map : K → Option V, map (key x) = none →
      step map x = .ok (Function.update map (key x) (some (value x)))) :
    l.foldlM step (fun _ => none) = .ok fun k => (lookup key k l).map value := by
  rw [foldlM_insert hnodup hstep fun _ _ => rfl]
  exact congrArg Except.ok (funext fun k => Option.or_none)

/-- A loop that refuses a key it has seen ends only where no key comes twice. -/
lemma of_foldlM_insert (key : α → K) (value : α → V) (P : α → Prop)
    (hstep : ∀ map x map', step map x = .ok map' →
      P x ∧ map (key x) = none ∧ map' = Function.update map (key x) (some (value x)))
    {map' : K → Option V} (h : l.foldlM step map = .ok map') :
    (l.map key).Nodup ∧ ∀ x ∈ l, P x ∧ map (key x) = none := by
  induction l generalizing map with
  | nil => exact ⟨List.nodup_nil, by simp⟩
  | cons x l ih =>
    rw [List.foldlM_cons] at h
    cases hx : step map x with
    | error e =>
      rw [hx] at h
      cases h
    | ok next =>
      rw [hx] at h
      obtain ⟨hP, hnone, rfl⟩ := hstep map x next hx
      obtain ⟨hnodup, hrest⟩ := ih h
      have hne : ∀ y ∈ l, key y ≠ key x := by
        intro y hy heq
        have hseen := (hrest y hy).2
        rw [heq, Function.update_self] at hseen
        cases hseen
      refine ⟨List.nodup_cons.mpr ⟨fun hmem => ?_, hnodup⟩, ?_⟩
      · obtain ⟨y, hy, heq⟩ := List.mem_map.mp hmem
        exact hne y hy heq
      · refine List.forall_mem_cons.mpr ⟨⟨hP, hnone⟩, fun y hy => ⟨(hrest y hy).1, ?_⟩⟩
        rw [← (hrest y hy).2, Function.update_of_ne (hne y hy)]

/-- It ends exactly where no key comes twice and all entries pass, with the map of the list. -/
lemma foldlM_insert_eq_ok (key : α → K) (value : α → V) (P : α → Prop)
    (hstep : ∀ map x map', step map x = .ok map' ↔
      P x ∧ map (key x) = none ∧ map' = Function.update map (key x) (some (value x))) :
    l.foldlM step (fun _ => none) = .ok map ↔
      (l.map key).Nodup ∧ (∀ x ∈ l, P x) ∧ map = fun k => (lookup key k l).map value := by
  have hends (hnodup : (l.map key).Nodup) (hP : ∀ x ∈ l, P x) :=
    foldlM_insert_empty hnodup fun x hx map hnone => (hstep map x _).mpr ⟨hP x hx, hnone, rfl⟩
  constructor
  · intro h
    obtain ⟨hnodup, hrest⟩ :=
      of_foldlM_insert key value P (fun map x map' => (hstep map x map').mp) h
    have hP : ∀ x ∈ l, P x := fun x hx => (hrest x hx).1
    exact ⟨hnodup, hP, Except.ok.inj (h.symm.trans (hends hnodup hP))⟩
  · rintro ⟨hnodup, hP, rfl⟩
    exact hends hnodup hP

end Keyed
