import Mathlib.Tactic

/-!
Credits to the accounts of a ledger, when some of the accounts may be the same.
-/

namespace Ledger

variable {α : Type*} [DecidableEq α] (credit : α × ℕ) (credits credits' : List (α × ℕ))

/-- What a list of credits gives an account. -/
def received : List (α × ℕ) → α → ℕ
  | [], _ => 0
  | credit :: credits, a => (if a = credit.1 then credit.2 else 0) + received credits a

/-- What a list of credits gives in all. -/
def total : List (α × ℕ) → ℕ
  | [] => 0
  | credit :: credits => credit.2 + total credits

@[simp] lemma received_nil (a : α) : received [] a = 0 := rfl

@[simp] lemma received_cons (a : α) :
    received (credit :: credits) a
      = (if a = credit.1 then credit.2 else 0) + received credits a := rfl

omit [DecidableEq α] in
@[simp] lemma total_nil : total ([] : List (α × ℕ)) = 0 := rfl

omit [DecidableEq α] in
@[simp] lemma total_cons :
    total (credit :: credits) = credit.2 + total credits := rfl

@[simp] lemma received_append (a : α) :
    received (credits ++ credits') a = received credits a + received credits' a := by
  induction credits with
  | nil => simp
  | cons credit credits ih => simp [ih, Nat.add_assoc]

omit [DecidableEq α] in
@[simp] lemma total_append :
    total (credits ++ credits') = total credits + total credits' := by
  induction credits with
  | nil => simp
  | cons credit credits ih => simp [ih, Nat.add_assoc]

/-- No account receives more than the total. -/
lemma received_le_total (a : α) : received credits a ≤ total credits := by
  induction credits with
  | nil => simp
  | cons credit credits ih =>
    rw [received_cons, total_cons]
    split <;> omega

end Ledger
