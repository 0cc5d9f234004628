import Mathlib.Tactic
import Mathlib.Data.Nat.Digits.Lemmas

/-!
Big-endian byte strings of a fixed width: a word is determined by its bytes, and their number by its
width, so that `append_beBytes_inj` splits what follows a word from the word.
-/

namespace ByteString

variable {n : ℕ} {s t : List (BitVec 8)}

/-- The big-endian bytes of a word of whole bytes. -/
def beBytes (n : ℕ) (x : BitVec (8 * n)) : List (BitVec 8) :=
  (List.range n).map fun i => (x >>> (8 * (n - 1 - i))).setWidth 8

@[simp] lemma length_beBytes (x : BitVec (8 * n)) : (beBytes n x).length = n := by
  simp [beBytes]

lemma beBytes_injective : Function.Injective (beBytes n) := by
  intro x y h
  refine BitVec.eq_of_getLsbD_eq fun k hk => ?_
  -- bit `k` is bit `k % 8` of the byte `k / 8` from the end
  have hbyte : (x >>> (8 * (k / 8))).setWidth 8 = (y >>> (8 * (k / 8))).setWidth 8 := by
    have hmem : n - 1 - k / 8 ∈ List.range n := List.mem_range.mpr (by omega)
    have hsame := List.map_inj_left.mp h _ hmem
    have hindex : n - 1 - (n - 1 - k / 8) = k / 8 := by omega
    rwa [hindex] at hsame
  have hbit := congrArg (fun b => b.getLsbD (k % 8)) hbyte
  simp only [BitVec.getLsbD_setWidth, BitVec.getLsbD_ushiftRight] at hbit
  have hlt : k % 8 < 8 := Nat.mod_lt k (by omega)
  have hposition : 8 * (k / 8) + k % 8 = k := Nat.div_add_mod k 8
  simpa [hlt, hposition] using hbit

/-- A word and what follows it are determined by the string they make. -/
lemma append_beBytes_inj {x y : BitVec (8 * n)} :
    beBytes n x ++ s = beBytes n y ++ t ↔ x = y ∧ s = t := by
  refine ⟨fun h => ?_, ?_⟩
  · obtain ⟨hword, hrest⟩ := List.append_inj h (by simp)
    exact ⟨beBytes_injective hword, hrest⟩
  · rintro ⟨rfl, rfl⟩
    rfl

/-- The number that bytes spell, the most significant first. -/
def beValue (s : List (BitVec 8)) : ℕ := Nat.ofDigits 256 (s.reverse.map BitVec.toNat)

lemma lt_of_mem_toNat {s : List (BitVec 8)} {digit : ℕ} (h : digit ∈ s.map BitVec.toNat) :
    digit < 256 := by
  obtain ⟨b, -, rfl⟩ := List.mem_map.mp h
  exact b.isLt

lemma beValue_lt (s : List (BitVec 8)) : beValue s < 256 ^ s.length := by
  have h := Nat.ofDigits_lt_base_pow_length (by omega : 1 < 256)
    fun _ => @lt_of_mem_toNat s.reverse _
  rwa [List.length_map, List.length_reverse] at h

@[simp] lemma beValue_zero_cons (s : List (BitVec 8)) : beValue (0 :: s) = beValue s := by
  rw [beValue, List.reverse_cons, List.map_append, List.map_singleton]
  exact Nat.ofDigits_append_zero _

/-- Strings of one length that spell the same number are the same. -/
lemma beValue_inj (hlength : s.length = t.length) (h : beValue s = beValue t) : s = t := by
  have hdigits := Nat.ofDigits_inj_of_len_eq (by omega : 1 < 256) (by simpa using hlength)
    (fun _ => @lt_of_mem_toNat s.reverse _) (fun _ => @lt_of_mem_toNat t.reverse _) h
  exact List.reverse_injective
    (List.map_injective_iff.mpr (fun _ _ => BitVec.eq_of_toNat_eq) hdigits)

/-- The low digits of a number make it, up to what they leave out. -/
lemma ofDigits_range (x : ℕ) : ∀ k,
    Nat.ofDigits 256 ((List.range k).map fun i => x / 256 ^ i % 256) = x % 256 ^ k
  | 0 => by simp [Nat.mod_one]
  | k + 1 => by
    rw [List.range_succ, List.map_append, List.map_singleton, Nat.ofDigits_append,
      Nat.ofDigits_singleton, ofDigits_range x k, List.length_map, List.length_range,
      Nat.mod_pow_succ]

lemma beValue_beBytes (x : BitVec (8 * n)) : beValue (beBytes n x) = x.toNat := by
  have hdigits : ((beBytes n x).reverse.map BitVec.toNat)
      = (List.range n).map fun i => x.toNat / 256 ^ i % 256 := by
    refine List.ext_getElem (by simp) fun i hi hi' => ?_
    have hlt : i < n := by simpa using hi
    have hindex : n - 1 - (n - 1 - i) = i := by omega
    simp [beBytes, hindex, Nat.shiftRight_eq_div_pow, pow_mul]
  rw [beValue, hdigits, ofDigits_range, Nat.mod_eq_of_lt]
  have hlt := x.isLt
  rwa [pow_mul] at hlt

/-- Bytes are those of the word they spell. -/
lemma beBytes_beValue (h : s.length = n) :
    beBytes n (BitVec.ofNat (8 * n) (beValue s)) = s := by
  refine beValue_inj (by rw [length_beBytes, h]) ?_
  rw [beValue_beBytes, BitVec.toNat_ofNat, Nat.mod_eq_of_lt]
  have hlt := beValue_lt s
  rwa [h, show 256 = 2 ^ 8 from rfl, ← pow_mul] at hlt

end ByteString
