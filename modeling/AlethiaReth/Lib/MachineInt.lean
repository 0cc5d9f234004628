import Mathlib.Tactic

/-!
Fixed-width unsigned integers, at any width `w`: the arithmetic a systems
language offers beside the plain operators, each operation read in `ℕ`.

The plain operators fail on an overflow when the build checks for it (`OverflowChecks.on`) and wrap
when it does not.  An operation inside the range never notices the build (`plainMul_eq_ok_of_lt` and
its companions), and a checking build accepts no other product (`plainMul_on_eq_ok_iff`).
-/

namespace MachineInt

/-- Words of 8 bits. -/
abbrev U8 := BitVec 8

/-- Words of 16 bits. -/
abbrev U16 := BitVec 16

/-- Words of 64 bits. -/
abbrev U64 := BitVec 64

/-- Words of 128 bits. -/
abbrev U128 := BitVec 128

/-- Words of 256 bits. -/
abbrev U256 := BitVec 256

/-- What stops a computation without a value. -/
inductive Panic where
  | overflow
  | divideByZero
  | unreachable
  | indexOutOfBounds
  | assertion
  deriving DecidableEq, Repr

/-- Whether a build checks its plain arithmetic operators for overflow. -/
inductive OverflowChecks where
  | on
  | off
  deriving DecidableEq, Repr

variable {w : ℕ}

/-! ### Checked arithmetic -/

/-- The sum, when it fits. -/
def checkedAdd (a b : BitVec w) : Option (BitVec w) :=
  if a.toNat + b.toNat < 2 ^ w then some (a + b) else none

/-- The product, when it fits. -/
def checkedMul (a b : BitVec w) : Option (BitVec w) :=
  if a.toNat * b.toNat < 2 ^ w then some (a * b) else none

/-- A checked sum is the exact one. -/
lemma checkedAdd_eq_some {a b c : BitVec w} :
    checkedAdd a b = some c ↔ c.toNat = a.toNat + b.toNat := by
  unfold checkedAdd
  split
  · next h =>
    rw [Option.some.injEq, ← BitVec.toNat_add_of_lt h]
    exact ⟨fun hc => by rw [hc], fun hc => (BitVec.eq_of_toNat_eq hc).symm⟩
  · next h =>
    have hc := c.isLt
    simp only [reduceCtorEq, false_iff]
    omega

/-- A checked product is the exact one. -/
lemma checkedMul_eq_some {a b c : BitVec w} :
    checkedMul a b = some c ↔ c.toNat = a.toNat * b.toNat := by
  unfold checkedMul
  split
  · next h =>
    rw [Option.some.injEq, ← BitVec.toNat_mul_of_lt h]
    exact ⟨fun hc => by rw [hc], fun hc => (BitVec.eq_of_toNat_eq hc).symm⟩
  · next h =>
    have hc := c.isLt
    simp only [reduceCtorEq, false_iff]
    omega

lemma checkedMul_eq_none {a b : BitVec w} :
    checkedMul a b = none ↔ 2 ^ w ≤ a.toNat * b.toNat := by
  unfold checkedMul
  split <;> simp <;> omega

/-! ### Saturating arithmetic -/

/-- The sum, the largest value when it does not fit. -/
def saturatingAdd (a b : BitVec w) : BitVec w :=
  if a.toNat + b.toNat < 2 ^ w then a + b else BitVec.allOnes w

/-- The difference, `0` when it would be negative. -/
def saturatingSub (a b : BitVec w) : BitVec w :=
  if b.toNat ≤ a.toNat then a - b else 0

/-- The product, the largest value when it does not fit. -/
def saturatingMul (a b : BitVec w) : BitVec w :=
  if a.toNat * b.toNat < 2 ^ w then a * b else BitVec.allOnes w

lemma toNat_saturatingAdd (a b : BitVec w) :
    (saturatingAdd a b).toNat = min (a.toNat + b.toNat) (2 ^ w - 1) := by
  unfold saturatingAdd
  split
  · next h => rw [BitVec.toNat_add_of_lt h]; omega
  · next h => rw [BitVec.toNat_allOnes]; omega

@[simp] lemma toNat_saturatingSub (a b : BitVec w) :
    (saturatingSub a b).toNat = a.toNat - b.toNat := by
  unfold saturatingSub
  split
  · next h => exact BitVec.toNat_sub_of_le (BitVec.le_def.mpr h)
  · next h => simp; omega

lemma toNat_saturatingMul (a b : BitVec w) :
    (saturatingMul a b).toNat = min (a.toNat * b.toNat) (2 ^ w - 1) := by
  unfold saturatingMul
  split
  · next h => rw [BitVec.toNat_mul_of_lt h]; omega
  · next h => rw [BitVec.toNat_allOnes]; omega

lemma toNat_saturatingMul_of_lt {a b : BitVec w} (h : a.toNat * b.toNat < 2 ^ w) :
    (saturatingMul a b).toNat = a.toNat * b.toNat := by
  rw [toNat_saturatingMul]; omega

/-! ### The plain operators -/

/-- The result of an operator that left the range: a failure in a checking build,
the wrapped value in the other. -/
def overflowed (checks : OverflowChecks) (wrapped : BitVec w) : Except Panic (BitVec w) :=
  match checks with
  | .on => .error .overflow
  | .off => .ok wrapped

/-- The operator `+`. -/
def plainAdd (checks : OverflowChecks) (a b : BitVec w) : Except Panic (BitVec w) :=
  if a.toNat + b.toNat < 2 ^ w then .ok (a + b) else overflowed checks (a + b)

/-- The operator `-`. -/
def plainSub (checks : OverflowChecks) (a b : BitVec w) : Except Panic (BitVec w) :=
  if b.toNat ≤ a.toNat then .ok (a - b) else overflowed checks (a - b)

/-- The operator `*`. -/
def plainMul (checks : OverflowChecks) (a b : BitVec w) : Except Panic (BitVec w) :=
  if a.toNat * b.toNat < 2 ^ w then .ok (a * b) else overflowed checks (a * b)

/-- The operator `/`. -/
def plainDiv (a b : BitVec w) : Except Panic (BitVec w) :=
  if b.toNat = 0 then .error .divideByZero else .ok (a / b)

lemma plainAdd_eq_ok_of_lt (checks : OverflowChecks) {a b : BitVec w}
    (h : a.toNat + b.toNat < 2 ^ w) : plainAdd checks a b = .ok (a + b) :=
  if_pos h

/-- What an addition gives, if anything, is the wrapped sum. -/
lemma eq_add_of_plainAdd {checks : OverflowChecks} {a b c : BitVec w}
    (h : plainAdd checks a b = .ok c) : c = a + b := by
  rw [plainAdd] at h
  split at h
  · exact (Except.ok.inj h).symm
  · cases checks with
    | on => cases h
    | off => exact (Except.ok.inj h).symm

lemma plainSub_eq_ok_of_le (checks : OverflowChecks) {a b : BitVec w}
    (h : b.toNat ≤ a.toNat) : plainSub checks a b = .ok (a - b) :=
  if_pos h

lemma plainMul_eq_ok_of_lt (checks : OverflowChecks) {a b : BitVec w}
    (h : a.toNat * b.toNat < 2 ^ w) : plainMul checks a b = .ok (a * b) :=
  if_pos h

/-- A checking build accepts no product outside the range. -/
lemma plainMul_on_eq_ok_iff {a b c : BitVec w} :
    plainMul .on a b = .ok c ↔ a.toNat * b.toNat < 2 ^ w ∧ a * b = c := by
  rw [plainMul]
  split
  · next h => simp [h]
  · next h => simp [overflowed, h]

lemma plainDiv_eq_ok_of_pos {a b : BitVec w} (h : 0 < b.toNat) :
    plainDiv a b = .ok (a / b) :=
  if_neg (by omega)

end MachineInt
