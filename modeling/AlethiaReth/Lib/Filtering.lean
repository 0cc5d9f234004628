import Mathlib.Tactic

/-!
Filtering a list of inputs through a machine, and running the inputs that were
kept again without filtering.

* `Filtered.replay`: when discarding leaves no trace up to a relation that commits
  respect, the committed inputs run strictly to a related state.
* `Filtered.countP_marked_le_one`: inputs that commit only at one level of a measure,
  and leave it, commit at most once.
* `sift_gated_iff`: when a loop that does not offer some inputs to the machine at all commits the
  same ones.
-/

namespace Filtering

variable {σ τ ι : Type*} {is : List ι}

/-- A run from a state to a state, with the inputs it committed on the way. -/
inductive Filtered (Commits : σ → ι → σ → Prop) (Discards : σ → σ → Prop) :
    σ → List ι → σ → Prop
  | nil (s : σ) : Filtered Commits Discards s [] s
  | discard {s s₁ t : σ} {is : List ι} (h : Discards s s₁)
      (rest : Filtered Commits Discards s₁ is t) : Filtered Commits Discards s is t
  | commit {s s₁ t : σ} {i : ι} {is : List ι} (h : Commits s i s₁)
      (rest : Filtered Commits Discards s₁ is t) : Filtered Commits Discards s (i :: is) t

/-- Every input commits. -/
inductive Strictly (Commits : σ → ι → σ → Prop) : σ → List ι → σ → Prop
  | nil (s : σ) : Strictly Commits s [] s
  | cons {s s₁ t : σ} {i : ι} {is : List ι} (h : Commits s i s₁)
      (rest : Strictly Commits s₁ is t) : Strictly Commits s (i :: is) t

variable {Commits : σ → ι → σ → Prop} {Discards : σ → σ → Prop}

/-- Two filtered runs, one after the other. -/
lemma Filtered.append {s t u : σ} {js : List ι} (h : Filtered Commits Discards s is t)
    (h' : Filtered Commits Discards t js u) : Filtered Commits Discards s (is ++ js) u := by
  induction h with
  | nil s => exact h'
  | discard h _ ih => exact .discard h (ih h')
  | commit h _ ih => exact .commit h (ih h')

/-- A filtered run of other inputs that commit alike. -/
lemma Filtered.map {κ : Type*} {Commits' : σ → κ → σ → Prop} {f : ι → κ} {s t : σ}
    (h : Filtered Commits Discards s is t) (hf : ∀ s i s₁, Commits s i s₁ → Commits' s (f i) s₁) :
    Filtered Commits' Discards s (is.map f) t := by
  induction h with
  | nil s => exact .nil s
  | discard h _ ih => exact .discard h ih
  | commit h _ ih => exact .commit (hf _ _ _ h) ih

/-- The committed inputs of a filtered run commit strictly, from any related state,
and end in a related state. -/
theorem Filtered.replay {Commits' : τ → ι → τ → Prop} (R : σ → τ → Prop)
    (hdiscard : ∀ s s₁ u, Discards s s₁ → R s u → R s₁ u)
    (hcommit : ∀ s i s₁ u, Commits s i s₁ → R s u → ∃ u₁, Commits' u i u₁ ∧ R s₁ u₁) {s t : σ}
    {u : τ} (h : Filtered Commits Discards s is t) (hs : R s u) :
    ∃ v, Strictly Commits' u is v ∧ R t v := by
  induction h generalizing u with
  | nil s => exact ⟨u, .nil u, hs⟩
  | discard h _ ih => exact ih (hdiscard _ _ _ h hs)
  | commit h _ ih =>
    obtain ⟨u₁, hu, hu₁⟩ := hcommit _ _ _ _ h hs
    obtain ⟨v, hrest, hv⟩ := ih hu₁
    exact ⟨v, .cons hu hrest, hv⟩

/-! ### Inputs that commit at one level of a measure -/

section Once

variable {I : σ → Prop} {μ : σ → ℕ} {level : ℕ} {marked : ι → Bool}
  (hdiscard : ∀ s s₁, Discards s s₁ → I s → I s₁ ∧ μ s₁ = μ s)
  (hcommit : ∀ s i s₁, Commits s i s₁ → I s →
    I s₁ ∧ μ s ≤ μ s₁ ∧ (marked i = true → μ s = level ∧ level < μ s₁))
include hdiscard hcommit

/-- Above the level, no marked input commits. -/
lemma Filtered.unmarked {s t : σ} (h : Filtered Commits Discards s is t) (hs : I s)
    (hlt : level < μ s) : ∀ i ∈ is, marked i = false := by
  induction h with
  | nil s => simp
  | discard h _ ih =>
    obtain ⟨hI, hμ⟩ := hdiscard _ _ h hs
    exact ih hI (hμ ▸ hlt)
  | @commit s s₁ t i is h _ ih =>
    obtain ⟨hI, hle, hmarked⟩ := hcommit _ _ _ h hs
    intro j hj
    rcases List.mem_cons.mp hj with rfl | hj
    · by_contra hne
      have := (hmarked (by simpa using hne)).1
      omega
    · exact ih hI (lt_of_lt_of_le hlt hle) j hj

/-- When marked inputs commit only at a level that their commit leaves, and the
measure never goes down, at most one of them commits. -/
theorem Filtered.countP_marked_le_one {s t : σ} (h : Filtered Commits Discards s is t)
    (hs : I s) : is.countP marked ≤ 1 := by
  induction h with
  | nil s => simp
  | discard h _ ih => exact ih (hdiscard _ _ h hs).1
  | @commit s s₁ t i is h rest ih =>
    obtain ⟨hI, -, hmarked⟩ := hcommit _ _ _ h hs
    rw [List.countP_cons]
    cases hi : marked i with
    | false => simpa [hi] using ih hI
    | true =>
      have hrest := rest.unmarked hdiscard hcommit hI (hmarked hi).2
      have hzero : is.countP marked = 0 := by
        rw [List.countP_eq_zero]
        intro j hj
        simp [hrest j hj]
      simp [hzero]

/-- When the first commit leaves the level, no later input is marked. -/
lemma Filtered.unmarked_tail {s t : σ} {i : ι} (h : Filtered Commits Discards s (i :: is) t)
    (hs : I s) (hμ : μ s = level)
    (hfirst : ∀ s s₁, I s → μ s = level → Commits s i s₁ → level < μ s₁) :
    ∀ j ∈ is, marked j = false := by
  generalize hinputs : i :: is = inputs at h
  induction h with
  | nil s => cases hinputs
  | discard h _ ih =>
    obtain ⟨hI, hsame⟩ := hdiscard _ _ h hs
    exact ih hI (hsame.trans hμ) hinputs
  | commit h rest _ =>
    cases hinputs
    exact rest.unmarked hdiscard hcommit (hcommit _ _ _ h hs).1 (hfirst _ _ hs hμ h)

end Once

/-! ### Loops over a list of inputs -/

section Sift

variable {ε : Type*}

/-- What a loop does at an input: commit it, skip it, or finish for a reason. -/
inductive Verdict (σ ε : Type*) where
  | commit (s : σ)
  | skip (s : σ)
  | finish (ending : ε)

variable (step : σ → ι → Verdict σ ε) (exhausted : ε) (allowed : ι → Bool)

/-- The inputs a loop commits, and how it finishes. -/
def sift : σ → List ι → List ι × ε
  | _, [] => ([], exhausted)
  | s, i :: is =>
    match step s i with
    | .commit s => (i :: (sift s is).1, (sift s is).2)
    | .skip s => sift s is
    | .finish ending => ([], ending)

/-- The loop body that skips the inputs it does not allow. -/
def gated (s : σ) (i : ι) : Verdict σ ε :=
  if allowed i then step s i else .skip s

/-- From a state, no allowed input commits, and the first that is not skipped
finishes with the ending. -/
def Quiet (s : σ) (ending : ε) : List ι → Prop
  | [] => exhausted = ending
  | i :: is =>
    if allowed i then
      match step s i with
      | .commit _ => False
      | .skip _ => Quiet s ending is
      | .finish ending' => ending' = ending
    else
      Quiet s ending is

/-- The inputs that are not allowed have no effect where the machine meets them:
none commits, and one that finishes the loop finishes it the way it would have
finished without a further commit. -/
def Inert : σ → List ι → Prop
  | _, [] => True
  | s, i :: is =>
    match step s i with
    | .commit s => allowed i ∧ Inert s is
    | .skip s => Inert s is
    | .finish ending => allowed i ∨ Quiet step exhausted allowed s ending is

/-- Verdicts that agree up to a relation of states. -/
inductive Verdict.Alike (R : σ → σ → Prop) : Verdict σ ε → Verdict σ ε → Prop
  | commit {s t : σ} (h : R s t) : Alike R (.commit s) (.commit t)
  | skip {s t : σ} (h : R s t) : Alike R (.skip s) (.skip t)
  | finish (ending : ε) : Alike R (.finish ending) (.finish ending)

variable {step exhausted allowed}

/-- Inputs that are skipped wherever they are not allowed are inert. -/
lemma Inert.of_skipped {is : List ι}
    (h : ∀ s, ∀ i ∈ is, ¬ allowed i → ∃ s', step s i = .skip s') (s : σ) :
    Inert step exhausted allowed s is := by
  induction is generalizing s with
  | nil => exact trivial
  | cons i is ih =>
    have hrest := ih fun s j hj => h s j (List.mem_cons_of_mem _ hj)
    rw [Inert]
    by_cases hi : allowed i
    · cases step s i with
      | commit s' => exact ⟨hi, hrest s'⟩
      | skip s' => exact hrest s'
      | finish ending => exact .inl hi
    · obtain ⟨s', hskip⟩ := h s i List.mem_cons_self hi
      rw [hskip]
      exact hrest s'

lemma sift_gated_allowed {s : σ} {is : List ι} {i : ι}
    (h : i ∈ (sift (gated step allowed) exhausted s is).1) : allowed i := by
  induction is generalizing s with
  | nil => cases h
  | cons j js ih =>
    rw [sift, gated] at h
    by_cases hj : allowed j
    · rw [if_pos hj] at h
      cases hstep : step s j with
      | commit s' =>
        rw [hstep] at h
        rcases List.mem_cons.mp h with rfl | h
        · exact hj
        · exact ih h
      | skip s' => rw [hstep] at h; exact ih h
      | finish ending => rw [hstep] at h; cases h
    · rw [if_neg hj] at h
      exact ih h

variable {R : σ → σ → Prop}

/-- A loop does not tell related states apart. -/
lemma sift_congr (hR : ∀ s t i, R s t → (step s i).Alike R (step t i)) {s t : σ} (h : R s t)
    (is : List ι) : sift step exhausted s is = sift step exhausted t is := by
  induction is generalizing s t with
  | nil => rfl
  | cons i is ih =>
    have hstep := hR s t i h
    rw [sift, sift]
    generalize step s i = v at hstep
    generalize step t i = w at hstep
    cases hstep with
    | commit h => dsimp only; rw [ih h]
    | skip h => exact ih h
    | finish ending => rfl

lemma gated_alike (hR : ∀ s t i, R s t → (step s i).Alike R (step t i)) (s t : σ) (i : ι)
    (h : R s t) : (gated step allowed s i).Alike R (gated step allowed t i) := by
  rw [gated, gated]
  by_cases hi : allowed i
  · rw [if_pos hi, if_pos hi]
    exact hR s t i h
  · rw [if_neg hi, if_neg hi]
    exact .skip h

section Traceless

variable (hR : ∀ s t i, R s t → (step s i).Alike R (step t i))
  (hskip : ∀ s i s', R s s → step s i = .skip s' → R s s')
include hR hskip

lemma sift_gated_eq_nil_iff {s : σ} (hs : R s s) (is : List ι) (ending : ε) :
    sift (gated step allowed) exhausted s is = ([], ending) ↔
      Quiet step exhausted allowed s ending is := by
  induction is with
  | nil => simp [sift, Quiet]
  | cons i is ih =>
    rw [sift, gated, Quiet]
    by_cases hi : allowed i
    · rw [if_pos hi, if_pos hi]
      cases hstep : step s i with
      | commit s' => simp
      | skip s' =>
        have hs' : R s s' := hskip s i s' hs hstep
        dsimp only
        rw [← sift_congr (gated_alike hR) hs' is]
        exact ih
      | finish ending' => simp
    · rw [if_neg hi, if_neg hi]
      exact ih

/-- A loop that offers every input to the machine and one that offers only the
allowed inputs commit the same and finish alike exactly when the other inputs are
inert. -/
theorem sift_gated_iff {s : σ} (hs : R s s) (is : List ι) :
    sift step exhausted s is = sift (gated step allowed) exhausted s is ↔
      Inert step exhausted allowed s is := by
  induction is generalizing s with
  | nil => simp [sift, Inert]
  | cons i is ih =>
    have halike := hR s s i hs
    rw [sift, sift, Inert]
    by_cases hi : allowed i
    · -- both loops take the same step
      rw [gated, if_pos hi]
      cases hstep : step s i with
      | commit s' =>
        rw [hstep] at halike
        cases halike with
        | commit h =>
          have htail := ih h
          dsimp only
          rw [← htail, and_iff_right hi]
          simp [Prod.ext_iff]
      | skip s' =>
        rw [hstep] at halike
        cases halike with
        | skip h => exact ih h
      | finish ending => simp [hi]
    · rw [gated, if_neg hi]
      cases hstep : step s i with
      | commit s' =>
        refine ⟨fun h => ?_, fun h => absurd h.1 hi⟩
        have hmem : i ∈ (sift (gated step allowed) exhausted s is).1 := by
          rw [← congrArg Prod.fst h]
          exact List.mem_cons_self
        exact absurd (sift_gated_allowed hmem) hi
      | skip s' =>
        have hs' : R s s' := hskip s i s' hs hstep
        rw [hstep] at halike
        cases halike with
        | skip h =>
          dsimp only
          rw [sift_congr (gated_alike hR) hs' is]
          exact ih h
      | finish ending =>
        dsimp only
        rw [or_iff_right hi, eq_comm]
        exact sift_gated_eq_nil_iff hR hskip hs is ending

end Traceless

end Sift

end Filtering
