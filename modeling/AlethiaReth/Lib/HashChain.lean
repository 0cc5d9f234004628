import Mathlib.Tactic

/-!
Digests of histories: a digest of where a history starts, hashed together with one entry after the
other.  A hash without collisions among what is hashed for two histories tells them apart, if starts
and links do and no start is a link (`digest_inj`).
-/

namespace HashChain

variable {ι τ π δ : Type*}

section

variable (hash : π → δ) (seed : ι → π) (link : δ → τ → π) (i : ι) (ts : List τ)

/-- The digest of a history. -/
def digest : δ :=
  ts.foldl (fun d t => hash (link d t)) (hash (seed i))

@[simp] lemma digest_nil : digest hash seed link i [] = hash (seed i) := rfl

@[simp] lemma digest_concat (t : τ) :
    digest hash seed link i (ts ++ [t]) = hash (link (digest hash seed link i ts) t) := by
  simp [digest]

/-- What is hashed for the digest of a history: its start, and its links. -/
def preimages : Set π :=
  {p | p = seed i ∨ ∃ us t, us ++ [t] <+: ts ∧ p = link (digest hash seed link i us) t}

end

variable {hash : π → δ} {seed : ι → π} {link : δ → τ → π} {us : List τ}

lemma seed_mem_preimages (i : ι) (ts : List τ) : seed i ∈ preimages hash seed link i ts :=
  .inl rfl

lemma link_mem_preimages (i : ι) (ts : List τ) (t : τ) :
    link (digest hash seed link i ts) t ∈ preimages hash seed link i (ts ++ [t]) :=
  .inr ⟨ts, t, List.prefix_rfl, rfl⟩

/-- What is hashed for a history is hashed for a longer one. -/
lemma preimages_subset (i : ι) {ts : List τ} (h : ts <+: us) :
    preimages hash seed link i ts ⊆ preimages hash seed link i us := by
  rintro p (rfl | ⟨vs, t, hprefix, rfl⟩)
  · exact seed_mem_preimages i us
  · exact .inr ⟨vs, t, hprefix.trans h, rfl⟩

/-- Without collisions the digest determines the history. -/
theorem digest_inj (hseed : Function.Injective seed)
    (hlink : ∀ d t d' t', link d t = link d' t' → d = d' ∧ t = t')
    (hapart : ∀ i d t, seed i ≠ link d t) {known : Set π} (hhash : Set.InjOn hash known) {i j : ι}
    {ts : List τ} (hts : preimages hash seed link i ts ⊆ known)
    (hus : preimages hash seed link j us ⊆ known)
    (h : digest hash seed link i ts = digest hash seed link j us) : i = j ∧ ts = us := by
  -- from the last entries back
  induction ts using List.reverseRecOn generalizing us with
  | nil =>
    rcases List.eq_nil_or_concat us with rfl | ⟨us, u, rfl⟩
    · exact ⟨hseed (hhash (hts (seed_mem_preimages i [])) (hus (seed_mem_preimages j [])) h),
        rfl⟩
    · rw [List.concat_eq_append] at h hus
      rw [digest_nil, digest_concat] at h
      exact absurd (hhash (hts (seed_mem_preimages i [])) (hus (link_mem_preimages j us u)) h)
        (hapart _ _ _)
  | append_singleton ts t ih =>
    rcases List.eq_nil_or_concat us with rfl | ⟨us, u, rfl⟩
    · rw [digest_nil, digest_concat] at h
      exact absurd (hhash (hus (seed_mem_preimages j [])) (hts (link_mem_preimages i ts t))
        h.symm) (hapart _ _ _)
    · rw [List.concat_eq_append] at h hus ⊢
      rw [digest_concat, digest_concat] at h
      obtain ⟨hdigest, rfl⟩ := hlink _ _ _ _
        (hhash (hts (link_mem_preimages i ts t)) (hus (link_mem_preimages j us u)) h)
      obtain ⟨rfl, rfl⟩ := ih
        (subset_trans (preimages_subset i (List.prefix_append ts [t])) hts)
        (subset_trans (preimages_subset j (List.prefix_append us [t])) hus) hdigest
      exact ⟨rfl, rfl⟩

lemma eq_of_map_eq {κ : Type*} {name : τ → κ} {known : Set τ} (hname : Set.InjOn name known)
    {ts : List τ} (hts : ∀ t ∈ ts, t ∈ known) (hus : ∀ u ∈ us, u ∈ known)
    (h : ts.map name = us.map name) : ts = us := by
  induction ts generalizing us with
  | nil => exact (List.map_eq_nil_iff.mp h.symm).symm
  | cons t ts ih =>
    cases us with
    | nil => cases h
    | cons u us =>
      rw [List.map_cons, List.map_cons, List.cons.injEq] at h
      rw [List.forall_mem_cons] at hts hus
      rw [hname hts.1 hus.1 h.1, ih hts.2 hus.2 h.2]

end HashChain
