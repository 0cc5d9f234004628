import AlethiaReth.Lib.Outcome

/-!
Runs of a machine over a list of inputs, with the outputs collected, and the two
rules every development over such runs needs: an invariant of one step is an
invariant of every run, and two machines whose steps answer alike from related
states answer alike over every run.
-/

namespace Run

variable {σ τ ι ρ ε : Type*}

/-! ### Machines that always answer -/

/-- The outputs of a run and the state it ends in. -/
def run (step : σ → ι → ρ × σ) : σ → List ι → List ρ × σ
  | s, [] => ([], s)
  | s, i :: is =>
    let (r, s') := step s i
    let (rs, t) := run step s' is
    (r :: rs, t)

@[simp] lemma run_nil (step : σ → ι → ρ × σ) (s : σ) : run step s [] = ([], s) := rfl

@[simp] lemma run_cons (step : σ → ι → ρ × σ) (s : σ) (i : ι) (is : List ι) :
    run step s (i :: is)
      = ((step s i).1 :: (run step (step s i).2 is).1, (run step (step s i).2 is).2) := rfl

/-- Two machines that answer alike from related states, and stay related, answer
alike over every run. -/
theorem run_simulation {step : σ → ι → ρ × σ} {step' : τ → ι → ρ × τ} (R : σ → τ → Prop)
    (hstep : ∀ s t i, R s t → (step s i).1 = (step' t i).1 ∧ R (step s i).2 (step' t i).2)
    (is : List ι) {s : σ} {t : τ} (h : R s t) :
    (run step s is).1 = (run step' t is).1 ∧ R (run step s is).2 (run step' t is).2 := by
  induction is generalizing s t with
  | nil => exact ⟨rfl, h⟩
  | cons i is ih =>
    obtain ⟨hout, hnext⟩ := hstep s t i h
    obtain ⟨houts, hend⟩ := ih hnext
    simp only [run_cons]
    exact ⟨by rw [hout, houts], hend⟩

/-! ### Machines that may fail -/

open Outcome

universe u v

variable {ε : Type u} {σ ρ : Type v}

/-- The outputs of a run and the state it ends in, unless a step fails. -/
def runE (step : σ → ι → Except ε (ρ × σ)) : σ → List ι → Except ε (List ρ × σ)
  | s, [] => .ok ([], s)
  | s, i :: is => do
    let (r, s') ← step s i
    let (rs, t) ← runE step s' is
    pure (r :: rs, t)

/-- What every step preserves, given the outputs before it, every run preserves. -/
theorem runE_invariant {step : σ → ι → Except ε (ρ × σ)} {E : ε → Prop} (I : List ρ → σ → Prop)
    (hstep : ∀ rs s i, I rs s → Satisfies E (fun out => I (rs ++ [out.1]) out.2) (step s i))
    (is : List ι) {rs : List ρ} {s : σ} (h : I rs s) :
    Satisfies E (fun out => I (rs ++ out.1) out.2) (runE step s is) := by
  induction is generalizing rs s with
  | nil =>
    rw [runE, satisfies_ok, List.append_nil]
    exact h
  | cons i is ih =>
    refine Satisfies.bind (hstep rs s i h) fun out hout => ?_
    refine Satisfies.bind (ih hout) fun rest hrest => ?_
    rw [satisfies_pure, List.append_cons]
    exact hrest

/-! ### Writes that take effect one by one -/

/-- The state after the writes up to the first that fails, and its failure. -/
def commits : List (σ → Except ε σ) → σ → σ × Except ε Unit
  | [], s => (s, .ok ())
  | write :: writes, s =>
    match write s with
    | .ok s' => commits writes s'
    | .error e => (s, .error e)

@[simp] lemma commits_nil (s : σ) : commits ([] : List (σ → Except ε σ)) s = (s, .ok ()) := rfl

lemma commits_cons_of_ok {write : σ → Except ε σ} {writes : List (σ → Except ε σ)} {s s' : σ}
    (h : write s = .ok s') : commits (write :: writes) s = commits writes s' := by
  rw [commits, h]

lemma commits_cons_of_error {write : σ → Except ε σ} {writes : List (σ → Except ε σ)} {s : σ}
    {e : ε} (h : write s = .error e) : commits (write :: writes) s = (s, .error e) := by
  rw [commits, h]

/-- What every write that succeeds preserves holds after the writes, also if one fails. -/
theorem commits_invariant {I : σ → Prop} {writes : List (σ → Except ε σ)}
    (hwrite : ∀ write ∈ writes, ∀ s s', I s → write s = .ok s' → I s') {s : σ} (h : I s) :
    I (commits writes s).1 := by
  induction writes generalizing s with
  | nil => exact h
  | cons write writes ih =>
    cases hs : write s with
    | ok s' =>
      rw [commits_cons_of_ok hs]
      exact ih (fun w hw => hwrite w (List.mem_cons_of_mem _ hw))
        (hwrite write List.mem_cons_self s s' h hs)
    | error e =>
      rw [commits_cons_of_error hs]
      exact h

end Run
