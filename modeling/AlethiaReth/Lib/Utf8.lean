import Mathlib.Tactic

/-!
UTF-8, and how Go reads bytes that need not be it.

* `encodeChar_codePoint`, `wellFormed_encodeChar`: the well-formed sequences, given by the ranges
  of their bytes, are the encodings of characters.
* `GoReads.unique`: bytes have one reading by Go, the characters that are encoded and one
  replacement character for each byte that is rejected.
-/

namespace Utf8

variable (c : Char) {n : ℕ} {taken : Char × ℕ} {text : List Char}

/-- Bytes. -/
abbrev Byte := BitVec 8

variable {bytes rest : List Byte}

/-- The bytes of a character. -/
def encodeChar : List Byte := (String.utf8EncodeChar c).map UInt8.toBitVec

/-- The bytes after the first. -/
def IsTail (b : Byte) : Prop := 0x80 ≤ b.toNat ∧ b.toNat ≤ 0xbf

/-- The bytes of one character. -/
inductive WellFormed : List Byte → Prop
  | one {b₀ : Byte} (h₀ : b₀.toNat < 0x80) : WellFormed [b₀]
  | two {b₀ b₁ : Byte} (h₀ : 0xc2 ≤ b₀.toNat ∧ b₀.toNat ≤ 0xdf) (h₁ : IsTail b₁) :
      WellFormed [b₀, b₁]
  | three {b₀ b₁ b₂ : Byte} (h₀ : 0xe0 ≤ b₀.toNat ∧ b₀.toNat ≤ 0xef) (h₁ : IsTail b₁)
      (hshort : b₀.toNat = 0xe0 → 0xa0 ≤ b₁.toNat)
      (hsurrogate : b₀.toNat = 0xed → b₁.toNat ≤ 0x9f) (h₂ : IsTail b₂) :
      WellFormed [b₀, b₁, b₂]
  | four {b₀ b₁ b₂ b₃ : Byte} (h₀ : 0xf0 ≤ b₀.toNat ∧ b₀.toNat ≤ 0xf4) (h₁ : IsTail b₁)
      (hshort : b₀.toNat = 0xf0 → 0x90 ≤ b₁.toNat) (hlast : b₀.toNat = 0xf4 → b₁.toNat ≤ 0x8f)
      (h₂ : IsTail b₂) (h₃ : IsTail b₃) : WellFormed [b₀, b₁, b₂, b₃]

/-- The payload bits of up to four bytes. -/
def codePoint : List Byte → ℕ
  | [b₀] => b₀.toNat
  | [b₀, b₁] => b₀.toNat % 32 * 64 + b₁.toNat % 64
  | [b₀, b₁, b₂] => (b₀.toNat % 16 * 64 + b₁.toNat % 64) * 64 + b₂.toNat % 64
  | [b₀, b₁, b₂, b₃] =>
    ((b₀.toNat % 8 * 64 + b₁.toNat % 64) * 64 + b₂.toNat % 64) * 64 + b₃.toNat % 64
  | _ => 0

/-! ### Encodings -/

lemma encodeChar_eq : encodeChar c =
    if c.toNat ≤ 0x7f then [.ofNat 8 c.toNat]
    else if c.toNat ≤ 0x7ff then
      [.ofNat 8 (c.toNat / 64 % 32 + 192), .ofNat 8 (c.toNat % 64 + 128)]
    else if c.toNat ≤ 0xffff then
      [.ofNat 8 (c.toNat / 4096 % 16 + 224), .ofNat 8 (c.toNat / 64 % 64 + 128),
        .ofNat 8 (c.toNat % 64 + 128)]
    else
      [.ofNat 8 (c.toNat / 262144 % 8 + 240), .ofNat 8 (c.toNat / 4096 % 64 + 128),
        .ofNat 8 (c.toNat / 64 % 64 + 128), .ofNat 8 (c.toNat % 64 + 128)] := by
  rw [encodeChar, String.utf8EncodeChar]
  show List.map _ (if c.toNat ≤ _ then _ else if c.toNat ≤ _ then _ else
    if c.toNat ≤ _ then _ else _) = _
  split_ifs <;> rfl

lemma ofNat_eq_of_toNat {b : Byte} (h : n = b.toNat) : BitVec.ofNat 8 n = b := by
  rw [h, BitVec.ofNat_toNat, BitVec.setWidth_eq]

lemma toNat_char_ofNat (h : n.isValidChar) : (Char.ofNat n).toNat = n := by
  rw [Char.ofNat, dif_pos h]
  rfl

/-- A well formed sequence is the encoding of its character. -/
lemma encodeChar_codePoint (h : WellFormed bytes) :
    encodeChar (Char.ofNat (codePoint bytes)) = bytes := by
  cases h with
  | @one b₀ h₀ =>
    rw [encodeChar_eq, toNat_char_ofNat (.inl (by simp only [codePoint]; omega)), codePoint,
      if_pos (by omega), ofNat_eq_of_toNat rfl]
  | @two b₀ b₁ h₀ h₁ =>
    rw [IsTail] at h₁
    rw [encodeChar_eq, toNat_char_ofNat (.inl (by simp only [codePoint]; omega)), codePoint,
      if_neg (by omega), if_pos (by omega), ofNat_eq_of_toNat (b := b₀) (by omega),
      ofNat_eq_of_toNat (b := b₁) (by omega)]
  | @three b₀ b₁ b₂ h₀ h₁ hshort hsurrogate h₂ =>
    rw [IsTail] at h₁ h₂
    have hvalid : (codePoint [b₀, b₁, b₂]).isValidChar := by
      rw [codePoint, Nat.isValidChar]
      omega
    rw [encodeChar_eq, toNat_char_ofNat hvalid, codePoint, if_neg (by omega),
      if_neg (by omega), if_pos (by omega), ofNat_eq_of_toNat (b := b₀) (by omega),
      ofNat_eq_of_toNat (b := b₁) (by omega), ofNat_eq_of_toNat (b := b₂) (by omega)]
  | @four b₀ b₁ b₂ b₃ h₀ h₁ hshort hlast h₂ h₃ =>
    rw [IsTail] at h₁ h₂ h₃
    have hvalid : (codePoint [b₀, b₁, b₂, b₃]).isValidChar := by
      rw [codePoint, Nat.isValidChar]
      omega
    rw [encodeChar_eq, toNat_char_ofNat hvalid, codePoint, if_neg (by omega),
      if_neg (by omega), if_neg (by omega), ofNat_eq_of_toNat (b := b₀) (by omega),
      ofNat_eq_of_toNat (b := b₁) (by omega), ofNat_eq_of_toNat (b := b₂) (by omega),
      ofNat_eq_of_toNat (b := b₃) (by omega)]

lemma toNat_byte (h : n < 256) : (BitVec.ofNat 8 n).toNat = n := by
  rw [BitVec.toNat_ofNat]
  omega

/-- The encoding of a character is well formed, and has its number. -/
lemma wellFormed_encodeChar :
    WellFormed (encodeChar c) ∧ codePoint (encodeChar c) = c.toNat := by
  have hvalid : c.toNat < 0xd800 ∨ 0xdfff < c.toNat ∧ c.toNat < 0x110000 := c.valid
  rw [encodeChar_eq]
  split_ifs with hone htwo hthree
  · exact ⟨.one (by rw [toNat_byte (by omega)]; omega), toNat_byte (by omega)⟩
  · have h₀ := toNat_byte (n := c.toNat / 64 % 32 + 192) (by omega)
    have h₁ := toNat_byte (n := c.toNat % 64 + 128) (by omega)
    refine ⟨.two (by omega) (by rw [IsTail]; omega), ?_⟩
    rw [codePoint, h₀, h₁]
    omega
  · have h₀ := toNat_byte (n := c.toNat / 4096 % 16 + 224) (by omega)
    have h₁ := toNat_byte (n := c.toNat / 64 % 64 + 128) (by omega)
    have h₂ := toNat_byte (n := c.toNat % 64 + 128) (by omega)
    refine ⟨.three (by omega) (by rw [IsTail]; omega) (by omega) (by omega)
      (by rw [IsTail]; omega), ?_⟩
    rw [codePoint, h₀, h₁, h₂]
    omega
  · have h₀ := toNat_byte (n := c.toNat / 262144 % 8 + 240) (by omega)
    have h₁ := toNat_byte (n := c.toNat / 4096 % 64 + 128) (by omega)
    have h₂ := toNat_byte (n := c.toNat / 64 % 64 + 128) (by omega)
    have h₃ := toNat_byte (n := c.toNat % 64 + 128) (by omega)
    refine ⟨.four (by omega) (by rw [IsTail]; omega) (by omega) (by omega)
      (by rw [IsTail]; omega) (by rw [IsTail]; omega), ?_⟩
    rw [codePoint, h₀, h₁, h₂, h₃]
    omega

/-! ### Go's decoder -/

/-- What Go's table has of a first byte that is not a character alone: the size, and the range
of the second byte. -/
def firstByte (b₀ : Byte) : Option (ℕ × ℕ × ℕ) :=
  if 0xc2 ≤ b₀.toNat ∧ b₀.toNat ≤ 0xdf then some (2, 0x80, 0xbf)
  else if 0xe0 ≤ b₀.toNat ∧ b₀.toNat ≤ 0xef then
    some (3, if b₀.toNat = 0xe0 then 0xa0 else 0x80, if b₀.toNat = 0xed then 0x9f else 0xbf)
  else if 0xf0 ≤ b₀.toNat ∧ b₀.toNat ≤ 0xf4 then
    some (4, if b₀.toNat = 0xf0 then 0x90 else 0x80, if b₀.toNat = 0xf4 then 0x8f else 0xbf)
  else none

instance (b : Byte) : Decidable (IsTail b) := inferInstanceAs (Decidable (_ ∧ _))

/-- The character that a first byte begins, by its size and the range of the second byte. -/
def decodeTail (b₀ : Byte) (lo hi : ℕ) : ℕ → List Byte → Option (Char × ℕ)
  | 2, b₁ :: _ =>
    if lo ≤ b₁.toNat ∧ b₁.toNat ≤ hi then some (Char.ofNat (codePoint [b₀, b₁]), 2)
    else none
  | 3, b₁ :: b₂ :: _ =>
    if (lo ≤ b₁.toNat ∧ b₁.toNat ≤ hi) ∧ IsTail b₂ then
      some (Char.ofNat (codePoint [b₀, b₁, b₂]), 3)
    else none
  | 4, b₁ :: b₂ :: b₃ :: _ =>
    if (lo ≤ b₁.toNat ∧ b₁.toNat ≤ hi) ∧ IsTail b₂ ∧ IsTail b₃ then
      some (Char.ofNat (codePoint [b₀, b₁, b₂, b₃]), 4)
    else none
  | _, _ => none

/-- The character at the front and how many bytes it takes; none where Go answers the
replacement character with a width of one. -/
def decodeRune : List Byte → Option (Char × ℕ)
  | [] => none
  | b₀ :: rest =>
    if b₀.toNat < 0x80 then some (Char.ofNat b₀.toNat, 1)
    else
      match firstByte b₀ with
      | none => none
      | some (size, lo, hi) => decodeTail b₀ lo hi size rest

/-- A byte that is none of the first bytes is rejected. -/
lemma decodeRune_eq_none_of_isTail {b₀ : Byte} (h : IsTail b₀) (rest : List Byte) :
    decodeRune (b₀ :: rest) = none := by
  rw [IsTail] at h
  have hfirst : firstByte b₀ = none := by
    rw [firstByte, if_neg (by omega), if_neg (by omega), if_neg (by omega)]
  simp only [decodeRune, hfirst]
  rw [if_neg (by omega)]

/-- The decoder takes what is well formed. -/
lemma decodeRune_append (h : WellFormed bytes) (rest : List Byte) :
    decodeRune (bytes ++ rest) = some (Char.ofNat (codePoint bytes), bytes.length) := by
  cases h with
  | @one b₀ h₀ =>
    simp only [List.cons_append, decodeRune]
    rw [if_pos h₀]
    rfl
  | @two b₀ b₁ h₀ h₁ =>
    simp only [List.cons_append, decodeRune, firstByte]
    rw [if_neg (by omega), if_pos h₀]
    exact if_pos h₁
  | @three b₀ b₁ b₂ h₀ h₁ hshort hsurrogate h₂ =>
    rw [IsTail] at h₁
    have hlo : (if b₀.toNat = 0xe0 then 0xa0 else 0x80) ≤ b₁.toNat := by split <;> omega
    have hhi : b₁.toNat ≤ if b₀.toNat = 0xed then 0x9f else 0xbf := by split <;> omega
    simp only [List.cons_append, decodeRune, firstByte]
    rw [if_neg (by omega), if_neg (by omega), if_pos h₀]
    exact if_pos ⟨⟨hlo, hhi⟩, h₂⟩
  | @four b₀ b₁ b₂ b₃ h₀ h₁ hshort hlast h₂ h₃ =>
    rw [IsTail] at h₁
    have hlo : (if b₀.toNat = 0xf0 then 0x90 else 0x80) ≤ b₁.toNat := by split <;> omega
    have hhi : b₁.toNat ≤ if b₀.toNat = 0xf4 then 0x8f else 0xbf := by split <;> omega
    simp only [List.cons_append, decodeRune, firstByte]
    rw [if_neg (by omega), if_neg (by omega), if_neg (by omega), if_pos h₀]
    exact if_pos ⟨⟨hlo, hhi⟩, h₂, h₃⟩

/-- What the decoder takes of a character of a size in the table. -/
lemma decodeTail_eq_some {b₀ : Byte} {lo hi size : ℕ}
    (h : decodeTail b₀ lo hi size rest = some taken) :
    (∃ b₁ more, size = 2 ∧ rest = b₁ :: more ∧ lo ≤ b₁.toNat ∧ b₁.toNat ≤ hi) ∨
    (∃ b₁ b₂ more, size = 3 ∧ rest = b₁ :: b₂ :: more ∧ (lo ≤ b₁.toNat ∧ b₁.toNat ≤ hi) ∧
      IsTail b₂) ∨
    ∃ b₁ b₂ b₃ more, size = 4 ∧ rest = b₁ :: b₂ :: b₃ :: more ∧
      (lo ≤ b₁.toNat ∧ b₁.toNat ≤ hi) ∧ IsTail b₂ ∧ IsTail b₃ := by
  rw [decodeTail.eq_def] at h
  split at h
  · next b₁ more =>
    split_ifs at h with hrange
    exact .inl ⟨b₁, more, rfl, rfl, hrange⟩
  · next b₁ b₂ more =>
    split_ifs at h with hrange
    exact .inr (.inl ⟨b₁, b₂, more, rfl, rfl, hrange⟩)
  · next b₁ b₂ b₃ more =>
    split_ifs at h with hrange
    exact .inr (.inr ⟨b₁, b₂, b₃, more, rfl, rfl, hrange⟩)
  · cases h

/-- What the decoder takes is well formed. -/
lemma wellFormed_of_decodeRune (h : decodeRune bytes = some taken) :
    ∃ front rest, bytes = front ++ rest ∧ WellFormed front := by
  cases bytes with
  | nil => cases h
  | cons b₀ rest =>
    simp only [decodeRune] at h
    split_ifs at h with hone
    · exact ⟨[b₀], rest, rfl, .one hone⟩
    · split at h
      · cases h
      · next size lo hi hfirst =>
        rw [firstByte] at hfirst
        split at hfirst
        · next htwo =>
          cases hfirst
          rcases decodeTail_eq_some h with ⟨b₁, more, -, rfl, h₁⟩ | ⟨_, _, _, hsize, -⟩ |
            ⟨_, _, _, _, hsize, -⟩
          · exact ⟨[b₀, b₁], more, rfl, .two htwo h₁⟩
          · cases hsize
          · cases hsize
        · split at hfirst
          · next hthree =>
            cases hfirst
            rcases decodeTail_eq_some h with ⟨_, _, hsize, -⟩ |
              ⟨b₁, b₂, more, -, rfl, ⟨hlo, hhi⟩, h₂⟩ | ⟨_, _, _, _, hsize, -⟩
            · cases hsize
            · refine ⟨[b₀, b₁, b₂], more, rfl, .three hthree ⟨?_, ?_⟩ ?_ ?_ h₂⟩
              all_goals split at hlo <;> split at hhi <;> omega
            · cases hsize
          · split at hfirst
            · next hfour =>
              cases hfirst
              rcases decodeTail_eq_some h with ⟨_, _, hsize, -⟩ | ⟨_, _, _, hsize, -⟩ |
                ⟨b₁, b₂, b₃, more, -, rfl, ⟨hlo, hhi⟩, h₂, h₃⟩
              · cases hsize
              · cases hsize
              · refine ⟨[b₀, b₁, b₂, b₃], more, rfl, .four hfour ⟨?_, ?_⟩ ?_ ?_ h₂ h₃⟩
                all_goals split at hlo <;> split at hhi <;> omega
            · cases hfirst

/-! ### Readings -/

/-- Bytes as Go reads them: what encodes a character is that character, and each byte that the
decoder rejects is a replacement character. -/
inductive GoReads : List Byte → List Char → Prop
  | nil : GoReads [] []
  | char (c : Char) {rest : List Byte} {text : List Char} (h : GoReads rest text) :
      GoReads (encodeChar c ++ rest) (c :: text)
  | rejected {b : Byte} {rest : List Byte} {text : List Char}
      (hrune : decodeRune (b :: rest) = none) (h : GoReads rest text) :
      GoReads (b :: rest) ('\uFFFD' :: text)

/-- Bytes that start no character are each rejected. -/
lemma GoReads.append_isTail {tails : List Byte} (htails : ∀ b ∈ tails, IsTail b)
    (h : GoReads rest text) :
    GoReads (tails ++ rest) (List.replicate tails.length '\uFFFD' ++ text) := by
  induction tails with
  | nil => exact h
  | cons b tails ih =>
    have hrune := decodeRune_eq_none_of_isTail (htails b List.mem_cons_self) (tails ++ rest)
    exact .rejected hrune (ih fun b' hb' => htails b' (List.mem_cons_of_mem _ hb'))

lemma decodeRune_encodeChar_append (rest : List Byte) :
    decodeRune (encodeChar c ++ rest) = some (c, (encodeChar c).length) := by
  obtain ⟨hformed, hpoint⟩ := wellFormed_encodeChar c
  rw [decodeRune_append hformed, hpoint, Char.ofNat_toNat]

/-- Bytes have one reading. -/
lemma GoReads.unique {text' : List Char} (h : GoReads bytes text) (h' : GoReads bytes text') :
    text = text' := by
  induction h generalizing text' with
  | nil =>
    generalize hbytes : ([] : List Byte) = bytes at h'
    cases h' with
    | nil => rfl
    | @char c rest _ h' =>
      have hrune := decodeRune_encodeChar_append c rest
      rw [← hbytes] at hrune
      cases hrune
    | rejected => cases hbytes
  | @char c rest text _ ih =>
    generalize hbytes : encodeChar c ++ rest = bytes at h'
    have hrune := decodeRune_encodeChar_append c rest
    cases h' with
    | nil =>
      rw [hbytes] at hrune
      cases hrune
    | @char c' rest' _ h' =>
      rw [hbytes, decodeRune_encodeChar_append c' rest'] at hrune
      obtain rfl := congrArg Prod.fst (Option.some.inj hrune)
      obtain rfl := List.append_cancel_left hbytes
      rw [ih h']
    | rejected hnone _ =>
      rw [hbytes, hnone] at hrune
      cases hrune
  | @rejected b rest text hnone _ ih =>
    generalize hbytes : b :: rest = bytes at h'
    cases h' with
    | nil => cases hbytes
    | char c h' =>
      rw [hbytes, decodeRune_encodeChar_append] at hnone
      cases hnone
    | rejected _ h' =>
      cases hbytes
      rw [ih h']

end Utf8
