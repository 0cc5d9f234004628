import Mathlib.Data.List.TakeWhile
import AlethiaReth.Lib.Outcome
import AlethiaReth.Lib.Utf8
import AlethiaReth.Debank.ErrorText

/-!
The reason of a revert against what Geth reports of it: the decoder never panics
(`indexedRevertReason_eq`), and the parts of a string that belong together are read as Go reads
them, a character as itself and each byte of another part as rejected
(`indexedRevertReason_reads`).
-/

namespace AlethiaReth.Debank

open MachineInt Outcome ByteString

/-! ### Indices -/

variable (output : Bytes) {bytes : Bytes}

/-- The range of an index operation: a panic unless the bytes have it. -/
def indexRange (bytes : Bytes) (start stop : ℕ) : Except Panic Bytes :=
  match slice bytes start stop with
  | none => .error .indexOutOfBounds
  | some range => .ok range

/-- A sum without a check, which must fit a machine word. -/
def plainAddUsize (a b : ℕ) : Except Panic ℕ :=
  if a + b < 2 ^ 64 then .ok (a + b) else .error .overflow

/-- The string whose bytes start at an offset, by the word of their number. -/
def errorStringAt (dataOffset : ℕ) (word : Bytes) : Option String := do
  let length ← toUsize (beNat word)
  let stop ← toUsize (dataOffset + length)
  (slice output dataOffset stop).map decodeGoJsonString

/-- The string of an error from its length on, which follows its offset. -/
def indexedErrorString (lengthOffset dataOffset : ℕ) :
    Except Panic (Option String) :=
  if output.length < dataOffset then .ok none
  else do
    let bound ← plainAddUsize lengthOffset 32
    if output.length < bound then .ok none
    else do
      let word ← indexRange output lengthOffset dataOffset
      .ok (errorStringAt output dataOffset word)

/-- The reason, with the indexing of the source. -/
def indexedRevertReason : Except Panic (Option String) :=
  if output.length < 4 then .ok none
  else do
    let selector ← indexRange output 0 4
    if selector = [0x4e, 0x48, 0x7b, 0x71] then
      .ok ((slice output 4 36).map fun code => panicReason (beNat code))
    else if output.length < 68 then .ok none
    else if selector ≠ [0x08, 0xc3, 0x79, 0xa0] then .ok none
    else do
      let word ← indexRange output 4 36
      match toUsize (beNat word) with
      | none => .ok none
      | some offset =>
        match toUsize (4 + offset) with
        | none => .ok none
        | some lengthOffset =>
          match toUsize (lengthOffset + 32) with
          | none => .ok none
          | some dataOffset => indexedErrorString output lengthOffset dataOffset

lemma slice_of_le {start stop : ℕ} (hstart : start ≤ stop) (hstop : stop ≤ bytes.length) :
    slice bytes start stop = some ((bytes.drop start).take (stop - start)) :=
  if_pos ⟨hstart, hstop⟩

lemma indexRange_of_le {start stop : ℕ} (hstart : start ≤ stop) (hstop : stop ≤ bytes.length) :
    indexRange bytes start stop = .ok ((bytes.drop start).take (stop - start)) := by
  rw [indexRange, slice_of_le hstart hstop]

lemma toUsize_eq_some {n m : ℕ} (h : toUsize n = some m) : m = n ∧ n < 2 ^ 64 := by
  rw [toUsize] at h
  split_ifs at h with hlt
  exact ⟨(Option.some.inj h).symm, hlt⟩

/-- The string is read only where the output has it. -/
lemma indexedErrorString_eq {output : Bytes} {lengthOffset dataOffset : ℕ}
    (hoffset : toUsize (lengthOffset + 32) = some dataOffset) :
    indexedErrorString output lengthOffset dataOffset =
      .ok ((slice output lengthOffset dataOffset).bind (errorStringAt output dataOffset)) := by
  obtain ⟨rfl, hlt⟩ := toUsize_eq_some hoffset
  rw [indexedErrorString]
  split_ifs with hlength
  · have hnone : slice output lengthOffset (lengthOffset + 32) = none := by
      rw [slice, if_neg (by omega)]
    rw [hnone]
    rfl
  · have hrange : lengthOffset + 32 ≤ output.length := by omega
    have hsum : plainAddUsize lengthOffset 32 = .ok (lengthOffset + 32) := if_pos hlt
    rw [hsum, slice_of_le (by omega) hrange]
    show (if output.length < lengthOffset + 32 then _ else _) = _
    rw [if_neg hlength, indexRange_of_le (by omega) hrange]
    rfl

/-- The reason of an error, by the words of its encoding. -/
lemma decodeRevertReason_error {output : Bytes} (hsize : 68 ≤ output.length)
    (hselector : output.take 4 = [0x08, 0xc3, 0x79, 0xa0]) :
    decodeRevertReason output =
      (slice output 4 36).bind fun word => (toUsize (beNat word)).bind fun offset =>
        (toUsize (4 + offset)).bind fun lengthOffset =>
          (toUsize (lengthOffset + 32)).bind fun dataOffset =>
            (slice output lengthOffset dataOffset).bind (errorStringAt output dataOffset) := by
  rw [decodeRevertReason, if_neg (by omega), if_neg (by rw [hselector]; decide),
    if_neg (not_or.mpr ⟨by omega, not_not.mpr hselector⟩)]
  simp only [bind, Option.bind_assoc]
  rfl

/-- The decoder never panics. -/
lemma indexedRevertReason_eq :
    indexedRevertReason output = .ok (decodeRevertReason output) := by
  rw [indexedRevertReason]
  by_cases hshort : output.length < 4
  · rw [if_pos hshort, decodeRevertReason, if_pos hshort]
  have hselector : indexRange output 0 4 = .ok (output.take 4) :=
    indexRange_of_le (by omega) (by omega)
  rw [if_neg hshort, hselector]
  show (if output.take 4 = _ then _ else _) = _
  by_cases hpanic : output.take 4 = [0x4e, 0x48, 0x7b, 0x71]
  · rw [if_pos hpanic, decodeRevertReason, if_neg hshort, if_pos hpanic]
  rw [if_neg hpanic]
  by_cases hsize : output.length < 68
  · rw [if_pos hsize, decodeRevertReason, if_neg hshort, if_neg hpanic, if_pos (.inl hsize)]
  rw [if_neg hsize]
  by_cases herror : output.take 4 ≠ [0x08, 0xc3, 0x79, 0xa0]
  · rw [if_pos herror, decodeRevertReason, if_neg hshort, if_neg hpanic, if_pos (.inr herror)]
  rw [if_neg herror, decodeRevertReason_error (by omega) (not_not.mp herror),
    indexRange_of_le (by omega) (by omega), slice_of_le (by omega) (by omega), Option.bind_some]
  dsimp only [bind, Except.bind]
  cases toUsize (beNat ((output.drop 4).take (36 - 4))) with
  | none => rfl
  | some offset =>
    dsimp only [Option.bind_some]
    cases toUsize (4 + offset) with
    | none => rfl
    | some lengthOffset =>
      dsimp only [Option.bind_some]
      cases hoffset : toUsize (lengthOffset + 32) with
      | none => rfl
      | some dataOffset => exact indexedErrorString_eq hoffset

/-! ### Encoded reasons -/

/-- A reason as the return data of a revert: the selector, the offset of the string, its length,
its bytes, and whatever follows. -/
def abiErrorString (content padding : Bytes) : Bytes :=
  [0x08, 0xc3, 0x79, 0xa0] ++ (beBytes 32 (32 : U256) ++
    (beBytes 32 (BitVec.ofNat 256 content.length) ++ (content ++ padding)))

/-- The middle of three parts. -/
lemma slice_append {front middle back : Bytes} {start stop : ℕ} (hstart : start = front.length)
    (hstop : stop = start + middle.length) :
    slice (front ++ (middle ++ back)) start stop = some middle := by
  subst hstart hstop
  rw [slice_of_le (by omega) (by simp only [List.length_append]; omega), List.drop_left,
    Nat.add_sub_cancel_left, List.take_left]

/-- The reason of encoded bytes that fit a machine word is those bytes as a string. -/
lemma decodeRevertReason_abiErrorString {content padding : Bytes}
    (hmemory : (abiErrorString content padding).length < 2 ^ 64) :
    decodeRevertReason (abiErrorString content padding) = some (decodeGoJsonString content) := by
  have hlength : (abiErrorString content padding).length =
      68 + content.length + padding.length := by
    simp only [abiErrorString, List.length_append, length_beBytes, List.length_cons,
      List.length_nil]
    omega
  have hoffset : slice (abiErrorString content padding) 4 36 = some (beBytes 32 (32 : U256)) :=
    slice_append rfl (by rw [length_beBytes])
  have hword : slice (abiErrorString content padding) (4 + 32) (4 + 32 + 32) =
      some (beBytes 32 (BitVec.ofNat 256 content.length)) := by
    rw [abiErrorString, ← List.append_assoc]
    exact slice_append (by simp) (by rw [length_beBytes])
  have hcontent : slice (abiErrorString content padding) (4 + 32 + 32)
      (4 + 32 + 32 + content.length) = some content := by
    rw [abiErrorString, ← List.append_assoc, ← List.append_assoc]
    exact slice_append (by simp) rfl
  have hthirtytwo : beNat (beBytes 32 (32 : U256)) = 32 := beNat_beBytes _
  have hsize : beNat (beBytes 32 (BitVec.ofNat 256 content.length)) = content.length := by
    rw [beNat_beBytes, BitVec.toNat_ofNat]
    exact Nat.mod_eq_of_lt (by omega)
  have hfits (n : ℕ) (h : n < 2 ^ 64) : toUsize n = some n := if_pos h
  rw [decodeRevertReason_error (by omega) rfl, hoffset, Option.bind_some, hthirtytwo,
    hfits 32 (by omega), Option.bind_some, hfits (4 + 32) (by omega), Option.bind_some,
    hfits (4 + 32 + 32) (by omega), Option.bind_some, hword, Option.bind_some, errorStringAt, hsize,
    hfits content.length (by omega)]
  show (toUsize (4 + 32 + 32 + content.length) >>= _) = _
  rw [hfits (4 + 32 + 32 + content.length) (by omega)]
  show (slice _ (4 + 32 + 32) (4 + 32 + 32 + content.length)).map _ = _
  rw [hcontent]
  rfl

/-! ### Strings -/

open Utf8

lemma isContinuation_iff (b : U8) : isContinuation b = true ↔ IsTail b := by
  simp only [isContinuation, IsTail, Bool.and_eq_true, decide_eq_true_eq, BitVec.le_def]
  rfl

/-- The width of a character by the number of its first byte. -/
lemma utf8CharWidth_cases (b : U8) :
    (utf8CharWidth b = 0 ∧ (0x80 ≤ b.toNat ∧ b.toNat < 0xc2 ∨ 0xf4 < b.toNat)) ∨
    (utf8CharWidth b = 1 ∧ b.toNat < 0x80) ∨
    (utf8CharWidth b = 2 ∧ 0xc2 ≤ b.toNat ∧ b.toNat ≤ 0xdf) ∨
    (utf8CharWidth b = 3 ∧ 0xe0 ≤ b.toNat ∧ b.toNat ≤ 0xef) ∨
    (utf8CharWidth b = 4 ∧ 0xf0 ≤ b.toNat ∧ b.toNat ≤ 0xf4) := by
  rw [utf8CharWidth]
  simp only [BitVec.lt_def, BitVec.le_def, BitVec.toNat_ofNat, BitVec.ofNat_eq_ofNat]
  split_ifs <;> omega

/-- The second byte of a character, by the numbers of the two. -/
lemma isSecondByte_iff (first second : U8) :
    isSecondByte first second = true ↔ IsTail second ∧
      (first.toNat = 0xe0 → 0xa0 ≤ second.toNat) ∧
      (first.toNat = 0xed → second.toNat ≤ 0x9f) ∧
      (first.toNat = 0xf0 → 0x90 ≤ second.toNat) ∧
      (first.toNat = 0xf4 → second.toNat ≤ 0x8f) := by
  rw [isSecondByte, IsTail]
  simp only [BitVec.toNat_eq, BitVec.toNat_ofNat, BitVec.ofNat_eq_ofNat, isContinuation]
  split_ifs <;>
    simp only [Bool.and_eq_true, decide_eq_true_eq, BitVec.le_def, BitVec.toNat_ofNat] <;>
    omega

lemma utf8Char_eq (h : WellFormed bytes) :
    utf8Char bytes = Char.ofNat (codePoint bytes) := by
  cases h <;> rfl

/-- The bytes at the front that belong together are a first byte and bytes that start no
character; if they are a character, they are well formed. -/
lemma utf8Prefix_split (first : U8) (rest : Bytes) :
    ∃ tails back, rest = tails ++ back ∧ (∀ b ∈ tails, IsTail b) ∧
      (utf8Prefix (first :: rest)).1 = tails.length + 1 ∧
      ((utf8Prefix (first :: rest)).2 = true → WellFormed (first :: tails)) := by
  rw [utf8Prefix.eq_def]
  dsimp only
  have hwidth := utf8CharWidth_cases first
  split_ifs with hzero hone
  · exact ⟨[], rest, rfl, by simp, rfl, nofun⟩
  · exact ⟨[], rest, rfl, by simp, rfl, fun _ => .one (by omega)⟩
  · cases rest with
    | nil => exact ⟨[], [], rfl, by simp, rfl, nofun⟩
    | cons second rest =>
      dsimp only
      split_ifs with hsecond
      · obtain ⟨htail, he0, hed, hf0, hf4⟩ := (isSecondByte_iff first second).mp hsecond
        obtain ⟨back, hback⟩ : (rest.take (utf8CharWidth first - 2)).takeWhile isContinuation <+:
            rest := (List.takeWhile_prefix _).trans (List.take_prefix _ _)
        generalize hmore : (rest.take (utf8CharWidth first - 2)).takeWhile isContinuation = more
          at hback
        have htails : ∀ b ∈ more, IsTail b := by
          intro b hb
          rw [← hmore] at hb
          exact (isContinuation_iff b).mp (List.mem_takeWhile_imp hb)
        refine ⟨second :: more, back, by rw [← hback]; rfl, ?_, ?_, ?_⟩
        · intro b hb
          rcases List.mem_cons.mp hb with rfl | hb
          · exact htail
          · exact htails b hb
        · rw [List.length_cons]
          omega
        · intro hvalid
          have hlength := of_decide_eq_true hvalid
          -- the width of the first byte says which form the character has
          rcases hwidth with h | h | ⟨h, h₀⟩ | ⟨h, h₀⟩ | ⟨h, h₀⟩
          · omega
          · omega
          · rw [h] at hlength
            obtain rfl := List.length_eq_zero_iff.mp hlength
            exact .two h₀ htail
          · rw [h] at hlength
            obtain ⟨third, rfl⟩ := List.length_eq_one_iff.mp hlength
            exact .three h₀ htail he0 hed (htails third List.mem_cons_self)
          · rw [h] at hlength
            obtain ⟨third, fourth, rfl⟩ := List.length_eq_two.mp hlength
            exact .four h₀ htail hf0 hf4 (htails third List.mem_cons_self)
              (htails fourth (by simp))
      · exact ⟨[], second :: rest, rfl, by simp, rfl, nofun⟩

/-- What is well formed is a character of that front. -/
lemma utf8Prefix_append (h : WellFormed bytes) (rest : Bytes) :
    (utf8Prefix (bytes ++ rest)).2 = true := by
  cases h with
  | @one b₀ h₀ =>
    have hwidth : utf8CharWidth b₀ = 1 := by
      have hcases := utf8CharWidth_cases b₀
      omega
    simp [utf8Prefix, hwidth]
  | @two b₀ b₁ h₀ h₁ =>
    have hwidth : utf8CharWidth b₀ = 2 := by
      have hcases := utf8CharWidth_cases b₀
      omega
    have hsecond : isSecondByte b₀ b₁ = true :=
      (isSecondByte_iff b₀ b₁).mpr ⟨h₁, by omega, by omega, by omega, by omega⟩
    simp [utf8Prefix, hwidth, hsecond]
  | @three b₀ b₁ b₂ h₀ h₁ hshort hsurrogate h₂ =>
    have hwidth : utf8CharWidth b₀ = 3 := by
      have hcases := utf8CharWidth_cases b₀
      omega
    have hsecond : isSecondByte b₀ b₁ = true :=
      (isSecondByte_iff b₀ b₁).mpr ⟨h₁, hshort, hsurrogate, by omega, by omega⟩
    simp [utf8Prefix, hwidth, hsecond, (isContinuation_iff b₂).mpr h₂]
  | @four b₀ b₁ b₂ b₃ h₀ h₁ hshort hlast h₂ h₃ =>
    have hwidth : utf8CharWidth b₀ = 4 := by
      have hcases := utf8CharWidth_cases b₀
      omega
    have hsecond : isSecondByte b₀ b₁ = true :=
      (isSecondByte_iff b₀ b₁).mpr ⟨h₁, by omega, by omega, hshort, hlast⟩
    simp [utf8Prefix, hwidth, hsecond, (isContinuation_iff b₂).mpr h₂,
      (isContinuation_iff b₃).mpr h₃]

/-- The characters of a string are those that Go reads. -/
lemma decodeGoJsonChars_reads {fuel : ℕ} (hfuel : bytes.length ≤ fuel) :
    GoReads bytes (decodeGoJsonChars fuel bytes) := by
  induction fuel generalizing bytes with
  | zero =>
    obtain rfl := List.length_eq_zero_iff.mp (Nat.le_zero.mp hfuel)
    exact .nil
  | succ fuel ih =>
    cases bytes with
    | nil => exact .nil
    | cons first rest =>
      obtain ⟨tails, back, rfl, htails, hcount, hformed⟩ := utf8Prefix_split first rest
      have hdrop : (first :: (tails ++ back)).drop (tails.length + 1) = back := by simp
      have htake : (first :: (tails ++ back)).take (tails.length + 1) = first :: tails := by
        simp
      have hback : GoReads back (decodeGoJsonChars fuel back) := by
        refine ih ?_
        simp only [List.length_cons, List.length_append] at hfuel
        omega
      have hpair : utf8Prefix (first :: (tails ++ back)) =
          (tails.length + 1, (utf8Prefix (first :: (tails ++ back))).2) := Prod.ext hcount rfl
      rw [decodeGoJsonChars.eq_def]
      dsimp only
      rw [hpair]
      dsimp only
      rw [hdrop, htake]
      cases hvalid : (utf8Prefix (first :: (tails ++ back))).2 with
      | true =>
        have hchar := encodeChar_codePoint (hformed hvalid)
        rw [if_pos rfl, utf8Char_eq (hformed hvalid)]
        have hreads := GoReads.char (Char.ofNat (codePoint (first :: tails))) hback
        rw [hchar] at hreads
        exact hreads
      | false =>
        -- the decoder takes nothing here, or it would be a character
        have hrune : decodeRune (first :: (tails ++ back)) = none := by
          cases htaken : decodeRune (first :: (tails ++ back)) with
          | none => rfl
          | some taken =>
            obtain ⟨front, more, hsplit, hfront⟩ := wellFormed_of_decodeRune htaken
            have hcharacter := utf8Prefix_append hfront more
            rw [← hsplit, hvalid] at hcharacter
            cases hcharacter
        rw [if_neg (by simp)]
        exact .rejected hrune (.append_isTail htails hback)

/-- The reason of a revert: no output makes the decoder panic, and of an encoded string it
answers what Go reads, whatever its bytes and what follows them. -/
theorem indexedRevertReason_reads :
    (∀ output, indexedRevertReason output = .ok (decodeRevertReason output)) ∧
    ∀ content padding, (abiErrorString content padding).length < 2 ^ 64 →
      ∃ text, GoReads content text ∧ (∀ other, GoReads content other → other = text) ∧
        indexedRevertReason (abiErrorString content padding) =
          .ok (some (String.ofList text)) := by
  refine ⟨indexedRevertReason_eq, ?_⟩
  intro content padding hmemory
  have hreads := decodeGoJsonChars_reads (le_refl content.length)
  refine ⟨_, hreads, fun _ hother => hother.unique hreads, ?_⟩
  rw [indexedRevertReason_eq, decodeRevertReason_abiErrorString hmemory, decodeGoJsonString]

/-- A character cut off between two letters: each of its bytes is replaced. -/
theorem indexedRevertReason_reads_truncated :
    indexedRevertReason (abiErrorString [0x61, 0xe2, 0x82, 0x62] [0x00]) =
      .ok (some "a\uFFFD\uFFFDb") := by
  have hmemory : (abiErrorString [0x61, 0xe2, 0x82, 0x62] [0x00]).length < 2 ^ 64 := by
    decide +kernel
  obtain ⟨text, -, hunique, hdecode⟩ := indexedRevertReason_reads.2 _ _ hmemory
  have hreads : GoReads [0x61, 0xe2, 0x82, 0x62] ['a', '\uFFFD', '\uFFFD', 'b'] :=
    .char 'a' (.rejected rfl (.rejected rfl (.char 'b' .nil)))
  rw [hdecode, ← hunique _ hreads]

end AlethiaReth.Debank
