import Mathlib.Tactic

/-!
Loops that leave one record a round.

* `records_rule`: what a round preserves, given the records before it, holds before every
  round, and so does what follows from it for the round.
* `followed_concat_iff`: every record of one kind is followed by one of another kind, as the
  loop goes on.
* `records_end`: with fuel for a measure that every round lowers, the loop ends only where
  a round ends it or there is no next one.
-/

namespace Loop

variable {σ ρ : Type*}

/-- The records of a loop; `step i` is the round of number `i`, if there is one. -/
def records : ℕ → (ℕ → σ → Option (ρ × Option σ)) → σ → List ρ
  | 0, _, _ => []
  | fuel + 1, step, s =>
    match step 0 s with
    | none => []
    | some (r, none) => [r]
    | some (r, some s') => r :: records fuel (fun i => step (i + 1)) s'

variable {step : ℕ → σ → Option (ρ × Option σ)} {s s' : σ} {r : ρ} {fuel : ℕ}

lemma records_of_none (h : step 0 s = none) : records fuel step s = [] := by
  cases fuel with
  | zero => rfl
  | succ fuel => rw [records, h]

lemma records_of_last (h : step 0 s = some (r, none)) : records (fuel + 1) step s = [r] := by
  rw [records, h]

lemma records_of_next (h : step 0 s = some (r, some s')) :
    records (fuel + 1) step s = r :: records fuel (fun i => step (i + 1)) s' := by
  rw [records, h]

/-- What a round preserves, given the records before it, holds before every round. -/
theorem records_rule {I : List ρ → σ → Prop} {P : List ρ → ρ → Prop}
    (hround : ∀ i rs s r next, I rs s → step i s = some (r, next) →
      P rs r ∧ ∀ s', next = some s' → I (rs ++ [r]) s')
    {rs : List ρ} (h : I rs s) {before after : List ρ}
    (heq : records fuel step s = before ++ r :: after) : P (rs ++ before) r := by
  induction fuel generalizing step s rs before with
  | zero => simp [records] at heq
  | succ fuel ih =>
    cases hstep : step 0 s with
    | none => simp [records_of_none hstep] at heq
    | some out =>
      obtain ⟨r₀, next⟩ := out
      obtain ⟨hr₀, hnext⟩ := hround 0 rs s r₀ next h hstep
      cases next with
      | none =>
        rw [records_of_last hstep] at heq
        cases before with
        | nil =>
          cases heq
          rwa [List.append_nil]
        | cons b before => simp at heq
      | some s' =>
        rw [records_of_next hstep] at heq
        cases before with
        | nil =>
          obtain ⟨rfl, -⟩ := List.cons.inj heq
          rwa [List.append_nil]
        | cons b before =>
          rw [List.cons_append, List.cons.injEq] at heq
          obtain ⟨rfl, htail⟩ := heq
          rw [List.append_cons]
          exact ih (fun i => hround (i + 1)) (hnext s' rfl) htail

/-- The record of a round is left by the step of its number. -/
lemma step_of_records_eq {before after : List ρ}
    (heq : records fuel step s = before ++ r :: after) :
    ∃ s₀ next, step before.length s₀ = some (r, next) := by
  induction fuel generalizing step s before with
  | zero => simp [records] at heq
  | succ fuel ih =>
    cases hstep : step 0 s with
    | none => simp [records_of_none hstep] at heq
    | some out =>
      obtain ⟨r₀, next⟩ := out
      cases before with
      | nil =>
        refine ⟨s, next, hstep.trans ?_⟩
        cases next with
        | none => rw [(List.cons.inj ((records_of_last hstep).symm.trans heq)).1]
        | some s' => rw [(List.cons.inj ((records_of_next hstep).symm.trans heq)).1]
      | cons b before =>
        cases next with
        | none => simp [records_of_last hstep] at heq
        | some s' =>
          rw [records_of_next hstep, List.cons_append, List.cons.injEq] at heq
          obtain ⟨s₀, next, hround⟩ := ih heq.2
          exact ⟨s₀, next, hround⟩

/-- Every record with the first property is followed, itself included, by one with the second:
what the last record adds to that. -/
theorem followed_concat_iff {l : List ρ} {r : ρ} {p q : ρ → Prop} :
    (∀ x after, x :: after <:+ l ++ [r] → p x → ∃ y ∈ x :: after, q y) ↔
      q r ∨ ¬ p r ∧ ∀ x after, x :: after <:+ l → p x → ∃ y ∈ x :: after, q y := by
  constructor
  · intro h
    by_cases hr : q r
    · exact .inl hr
    · refine .inr ⟨fun hp => ?_, fun x after hsuffix hp => ?_⟩
      · obtain ⟨y, hy, hq⟩ := h r [] ⟨l, rfl⟩ hp
        rw [List.mem_singleton.mp hy] at hq
        exact hr hq
      · obtain ⟨before, rfl⟩ := hsuffix
        obtain ⟨y, hy, hq⟩ := h x (after ++ [r]) ⟨before, by simp⟩ hp
        rcases List.mem_append.mp (List.cons_append ▸ hy) with hy | hy
        · exact ⟨y, hy, hq⟩
        · rw [List.mem_singleton.mp hy] at hq
          exact absurd hq hr
  · rintro h x after ⟨before, heq⟩ hp
    rcases List.eq_nil_or_concat after with rfl | ⟨init, last, rfl⟩
    · obtain ⟨-, heq⟩ := List.append_inj' heq rfl
      obtain rfl := List.singleton_injective heq
      exact ⟨x, by simp, h.resolve_right fun h => h.1 hp⟩
    · rw [List.concat_eq_append, ← List.cons_append, ← List.append_assoc] at heq
      obtain ⟨rfl, hlast⟩ := List.append_inj' heq rfl
      obtain rfl := List.singleton_injective hlast
      rcases h with h | ⟨-, h⟩
      · exact ⟨last, by simp, h⟩
      · obtain ⟨y, hy, hq⟩ := h x init ⟨before, rfl⟩ hp
        rw [List.concat_eq_append, ← List.cons_append]
        exact ⟨y, List.mem_append_left _ hy, hq⟩

/-- A loop with enough fuel ends only where a round ends it or no round follows. -/
theorem records_end {I : σ → Prop} (μ : σ → ℕ) (hμ : ∀ i s r next, I s → step i s = some (r, next) →
      0 < μ s ∧ ∀ s', next = some s' → I s' ∧ μ s' < μ s)
    (hs : I s) (hfuel : μ s ≤ fuel) :
    (records fuel step s = [] → step 0 s = none) ∧
      ∀ init r, records fuel step s = init ++ [r] → ∃ i s₀ next, step i s₀ = some (r, next) ∧
        ∀ s', next = some s' → step (i + 1) s' = none := by
  induction fuel generalizing step s with
  | zero =>
    refine ⟨fun _ => ?_, fun init r heq => by simp [records] at heq⟩
    cases hstep : step 0 s with
    | none => rfl
    | some out =>
      have hpos := (hμ 0 s out.1 out.2 hs hstep).1
      omega
  | succ fuel ih =>
    cases hstep : step 0 s with
    | none =>
      rw [records_of_none hstep]
      exact ⟨fun _ => rfl, fun init r heq => by simp at heq⟩
    | some out =>
      obtain ⟨r₀, next⟩ := out
      obtain ⟨-, hnext⟩ := hμ 0 s r₀ next hs hstep
      -- the loop ends here, or the rest of it ends as it says
      cases next with
      | none =>
        rw [records_of_last hstep]
        refine ⟨fun h => by simp at h, fun init r heq => ?_⟩
        have heq : [] ++ [r₀] = init ++ [r] := heq
        obtain rfl := List.singleton_inj.mp (List.append_inj' heq rfl).2
        exact ⟨0, s, none, hstep, fun s' h => by cases h⟩
      | some s' =>
        obtain ⟨hs', hlt⟩ := hnext s' rfl
        have hfuel' : μ s' ≤ fuel := by omega
        obtain ⟨hnil, hcons⟩ := ih (fun i => hμ (i + 1)) hs' hfuel'
        rw [records_of_next hstep]
        refine ⟨fun h => by simp at h, fun init r heq => ?_⟩
        cases init with
        | nil =>
          obtain ⟨rfl, hrest⟩ := List.cons.inj heq
          exact ⟨0, s, some s', hstep, by rintro _ ⟨⟩; exact hnil hrest⟩
        | cons b init =>
          rw [List.cons_append, List.cons.injEq] at heq
          obtain ⟨i, s₀, next, hround, hend⟩ := hcons init r heq.2
          exact ⟨i + 1, s₀, next, hround, hend⟩

end Loop
