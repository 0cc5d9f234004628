import Mathlib.Tactic

/-!
Postconditions of computations that may fail: what holds of a value if there is
one, and what holds of the failure if there is not.

`Satisfies.bind` and `Related.bind` are the rules of sequencing, for one computation and for two
that fail alike; `bind_eq_ok` says that a sequence returns exactly when both its parts do.
-/

namespace Outcome

universe u v

variable {ε : Type u} {α β : Type v} {E : ε → Prop} {P Q : α → Prop} {a : α} {x : Except ε α}
  {f : α → Except ε β} {γ : Type*}

/-- The value satisfies `P`, or the failure satisfies `E`. -/
def Satisfies (E : ε → Prop) (P : α → Prop) : Except ε α → Prop
  | .ok a => P a
  | .error e => E e

@[simp] lemma satisfies_ok : Satisfies E P (.ok a) ↔ P a := Iff.rfl

@[simp] lemma satisfies_error {e : ε} :
    Satisfies E P (.error e : Except ε α) ↔ E e := Iff.rfl

@[simp] lemma satisfies_pure : Satisfies E P (pure a : Except ε α) ↔ P a := Iff.rfl

/-- A computation followed by another one. -/
lemma Satisfies.bind {R : β → Prop} (hx : Satisfies E P x) (hf : ∀ a, P a → Satisfies E R (f a)) :
    Satisfies E R (x >>= f) := by
  cases x with
  | ok a => exact hf a hx
  | error e => exact hx

lemma Satisfies.mono (hx : Satisfies E P x) (hPQ : ∀ a, P a → Q a) :
    Satisfies E Q x := by
  cases x with
  | ok a => exact hPQ a hx
  | error e => exact hx

lemma Satisfies.of_ok (hx : Satisfies E P x) (ha : x = .ok a) :
    P a := by
  rw [ha] at hx
  exact hx

/-- A failure of one computation per element is the failure of one of them. -/
lemma Satisfies.mapM {f : γ → Except ε α} (hf : ∀ c, Satisfies E (fun _ => True) (f c))
    (cs : List γ) :
    Satisfies E (fun _ => True) (cs.mapM f) := by
  induction cs with
  | nil => exact trivial
  | cons c cs ih =>
    rw [List.mapM_cons]
    exact (hf c).bind fun _ _ => ih.bind fun _ _ => trivial

/-- A loop whose steps keep an invariant or fail. -/
lemma Satisfies.foldlM {f : α → γ → Except ε α} (hf : ∀ a c, P a → Satisfies E P (f a c))
    (cs : List γ) (ha : P a) :
    Satisfies E P (cs.foldlM f a) := by
  induction cs generalizing a with
  | nil => exact ha
  | cons c cs ih =>
    rw [List.foldlM_cons]
    exact (hf a c ha).bind fun _ hnext => ih hnext

/-- A sequence returns a value exactly when its first part returns one from which
the second part returns it. -/
lemma bind_eq_ok {b : β} :
    (x >>= f) = .ok b ↔ ∃ a, x = .ok a ∧ f a = .ok b := by
  refine ⟨fun h => ?_, ?_⟩
  · cases x with
    | ok a => exact ⟨a, rfl, h⟩
    | error e => cases h
  · rintro ⟨a, rfl, h⟩
    exact h

/-- One computation per element, each of which returns. -/
lemma mapM_map_of_ok {δ : Type*} {f : γ → Except ε α} {g : δ → γ} {h : δ → α} {l : List δ}
    (hl : ∀ x ∈ l, f (g x) = .ok (h x)) : (l.map g).mapM f = .ok (l.map h) := by
  induction l with
  | nil => rfl
  | cons x l ih =>
    obtain ⟨hx, hl⟩ := List.forall_mem_cons.mp hl
    rw [List.map_cons, List.mapM_cons, hx, ih hl]
    rfl

/-- Renaming the errors of a computation keeps its value. -/
@[simp] lemma mapError_eq_ok {ε' : Type*} {f : ε → ε'} :
    x.mapError f = .ok a ↔ x = .ok a := by
  cases x <;> simp [Except.mapError]

lemma Satisfies.mapError {ε' : Type*} {E' : ε' → Prop} {f : ε → ε'} (hf : ∀ e, E' (f e)) :
    Satisfies E' (fun _ => True) (x.mapError f) := by
  cases x with
  | ok a => exact trivial
  | error e => exact hf e

/-- Two computations fail alike, or return related values. -/
def Related (R : α → β → Prop) : Except ε α → Except ε β → Prop
  | .ok a, .ok b => R a b
  | .error e, .error e' => e = e'
  | _, _ => False

section Related

variable {γ δ : Type v} {R : α → β → Prop} {S : γ → δ → Prop}

/-- Related computations followed by computations that related values keep related. -/
lemma Related.bind {y : Except ε β} {f : α → Except ε γ} {g : β → Except ε δ} (h : Related R x y)
    (hf : ∀ a b, R a b → Related S (f a) (g b)) :
    Related S (x >>= f) (y >>= g) := by
  cases x with
  | ok a =>
    cases y with
    | ok b => exact hf a b h
    | error e => exact h.elim
  | error e =>
    cases y with
    | ok b => exact h.elim
    | error e' => exact h

lemma Related.refl (x : Except ε α) : Related Eq x x := by
  cases x <;> rfl

/-- Computations related by equality are equal. -/
lemma Related.eq {y : Except ε α} (h : Related Eq x y) : x = y := by
  cases x with
  | ok a =>
    cases y with
    | ok b => exact congrArg Except.ok h
    | error e => exact h.elim
  | error e =>
    cases y with
    | ok b => exact h.elim
    | error e' => exact congrArg Except.error h

end Related

/-- A check, with the error of its failure. -/
def ensure (p : Prop) [Decidable p] (e : ε) : Except ε Unit :=
  if p then .ok () else .error e

section Ensure

variable {p : Prop} [Decidable p] {e : ε}

@[simp] lemma ensure_eq_ok {u : Unit} : ensure p e = .ok u ↔ p := by
  by_cases hp : p <;> simp [ensure, hp]

lemma ensure_of (hp : p) : ensure p e = .ok () := if_pos hp

lemma ensure_of_not (hp : ¬ p) : ensure p e = .error e := if_neg hp

lemma Satisfies.ensure {E : ε → Prop} (he : E e) :
    Satisfies E (fun _ => p) (Outcome.ensure p e) := by
  by_cases hp : p
  · rw [ensure_of hp]
    exact hp
  · rw [ensure_of_not hp]
    exact he

@[simp] lemma ensure_bind_eq_ok {β : Type} {f : Unit → Except ε β} {b : β} :
    (ensure p e >>= f) = .ok b ↔ p ∧ f () = .ok b := by
  by_cases hp : p
  · rw [ensure_of hp]
    exact ⟨fun h => ⟨hp, h⟩, fun h => h.2⟩
  · rw [ensure_of_not hp]
    refine ⟨fun h => ?_, fun h => absurd h.1 hp⟩
    cases h

end Ensure

end Outcome
