import Mathlib.Tactic

/-!
A budget shared by a sequence of attempts: units are settled for good or pending
for the attempt in flight, and the two together never exceed the limit, which is
a field of the type.
-/

/-- A budget of `limit` units with the units settled and pending so far. -/
structure Budget (limit : ℕ) where
  settled : ℕ
  pending : ℕ
  fits : settled + pending ≤ limit

namespace Budget

variable {limit : ℕ} (b : Budget limit)

/-- The budget before the first attempt. -/
def empty (limit : ℕ) : Budget limit := ⟨0, 0, by omega⟩

/-- The units still free. -/
def remaining : ℕ := limit - b.settled - b.pending

/-- Takes `n` units for the attempt in flight, when they fit. -/
def charge (n : ℕ) : Option (Budget limit) :=
  if h : n ≤ b.remaining then
    some ⟨b.settled, b.pending + n, by have := b.fits; unfold remaining at h; omega⟩
  else
    none

/-- Settles `n` units outside any attempt, when they fit. -/
def reserve (n : ℕ) : Option (Budget limit) :=
  if h : n ≤ b.remaining then
    some ⟨b.settled + n, b.pending, by have := b.fits; unfold remaining at h; omega⟩
  else
    none

/-- Ends the attempt in flight and keeps its units. -/
def settle : Budget limit := ⟨b.settled + b.pending, 0, by have := b.fits; omega⟩

/-- Ends the attempt in flight and returns its units. -/
def discard (b : Budget limit) : Budget limit := ⟨b.settled, 0, by have := b.fits; omega⟩

lemma settled_add_pending_add_remaining :
    b.settled + b.pending + b.remaining = limit := by
  have := b.fits
  unfold remaining
  omega

end Budget
