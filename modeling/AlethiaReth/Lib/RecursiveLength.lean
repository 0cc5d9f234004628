import AlethiaReth.Lib.ByteString
import AlethiaReth.Lib.Outcome

/-!
The recursive-length encoding: strings of bytes, and lists of items, each under a header with the
length of what follows.  A `Codec` is an encoder and a decoder that reads back what is written and
accepts nothing else.
-/

namespace RecursiveLength

open ByteString Outcome

variable (list : Bool) (length : ℕ)

/-- A string of bytes. -/
abbrev Octets := List (BitVec 8)

variable (s : Octets)

/-- Why bytes are not read. -/
inductive Error where
  | overflow
  | leadingZero
  | inputTooShort
  | nonCanonicalSingleByte
  | nonCanonicalSize
  | unexpectedLength
  | unexpectedString
  | unexpectedList
  | listLengthMismatch (expected got : ℕ)
  deriving DecidableEq, Repr

/-- The text of an error. -/
def Error.text : Error → String
  | .overflow => "overflow"
  | .leadingZero => "leading zero"
  | .inputTooShort => "input too short"
  | .nonCanonicalSingleByte => "non-canonical single byte"
  | .nonCanonicalSize => "non-canonical size"
  | .unexpectedLength => "unexpected length"
  | .unexpectedString => "unexpected string"
  | .unexpectedList => "unexpected list"
  | .listLengthMismatch expected got =>
    "unexpected list length (got " ++ reprStr got ++ ", expected " ++ reprStr expected ++ ")"

/-! ### Leading zeros -/

/-- The bytes without leading zeros. -/
def trim : Octets := s.dropWhile (· = 0)

@[simp] lemma trim_zero_cons : trim (0 :: s) = trim s := rfl

lemma trim_of_head? {s : Octets} (h : s.head? ≠ some 0) : trim s = s := by
  cases s with
  | nil => rfl
  | cons b s => exact List.dropWhile_cons_of_neg (by simpa using h)

@[simp] lemma trim_replicate_append (k : ℕ) (s : Octets) :
    trim (List.replicate k 0 ++ s) = trim s := by
  induction k with
  | zero => rfl
  | succ k ih => rw [List.replicate_succ, List.cons_append, trim_zero_cons, ih]

lemma beValue_replicate_append (k : ℕ) (s : Octets) :
    beValue (List.replicate k 0 ++ s) = beValue s := by
  induction k with
  | zero => rfl
  | succ k ih => rw [List.replicate_succ, List.cons_append, beValue_zero_cons, ih]

/-- Dropped zeros are all there is between bytes and their trimmed form. -/
lemma exists_replicate_trim : ∃ k, s = List.replicate k 0 ++ trim s := by
  induction s with
  | nil => exact ⟨0, rfl⟩
  | cons b s ih =>
    by_cases hb : b = 0
    · obtain ⟨k, hk⟩ := ih
      refine ⟨k + 1, ?_⟩
      rw [hb, trim_zero_cons, List.replicate_succ, List.cons_append, ← hk]
    · exact ⟨0, (trim_of_head? (by simpa using hb)).symm⟩

@[simp] lemma beValue_trim : beValue (trim s) = beValue s := by
  obtain ⟨k, hk⟩ := exists_replicate_trim s
  exact (beValue_replicate_append k (trim s)).symm.trans (congrArg beValue hk.symm)

lemma length_trim_le : (trim s).length ≤ s.length :=
  (List.dropWhile_sublist _).length_le

lemma head?_trim_ne : (trim s).head? ≠ some 0 := by
  have h := List.head?_dropWhile_not (fun b : BitVec 8 => decide (b = 0)) s
  intro hzero
  rw [trim] at hzero
  rw [hzero] at h
  simp at h

/-- Bytes without a leading zero are the trimmed bytes of the word they spell. -/
lemma trim_beBytes_beValue {n : ℕ} {s : Octets} (hlength : s.length ≤ n)
    (hhead : s.head? ≠ some 0) : trim (beBytes n (BitVec.ofNat (8 * n) (beValue s))) = s := by
  rw [← beValue_replicate_append (n - s.length) s, beBytes_beValue (by simp; omega),
    trim_replicate_append, trim_of_head? hhead]

/-! ### Headers -/

/-- What the first bytes say of the item. -/
structure Header where
  list : Bool
  payloadLength : ℕ
  deriving DecidableEq, Repr

/-- The first byte of an empty item. -/
def emptyCode : ℕ := if list then 0xc0 else 0x80

/-- The bytes of a length that needs more than the first byte. -/
def lengthBytes : Octets := trim (beBytes 8 (BitVec.ofNat 64 length))

/-- The bytes of a header. -/
def header : Octets :=
  if length < 56 then [BitVec.ofNat 8 (emptyCode list + length)]
  else BitVec.ofNat 8 (emptyCode list + 55 + (lengthBytes length).length) :: lengthBytes length

/-- A header whose payload is there. -/
def available (rest : Octets) : Except Error (Header × Octets) := do
  ensure (length ≤ rest.length) .inputTooShort
  pure (⟨list, length⟩, rest)

/-- A length in bytes of its own, which has no shorter form. -/
def decodeLong (lengthOfLength : ℕ) (rest : Octets) :
    Except Error (Header × Octets) := do
  ensure (lengthOfLength ≤ rest.length) .inputTooShort
  ensure ((rest.take lengthOfLength).head? ≠ some 0) .leadingZero
  ensure (56 ≤ beValue (rest.take lengthOfLength)) .nonCanonicalSize
  available list (beValue (rest.take lengthOfLength)) (rest.drop lengthOfLength)

/-- A byte that stands for itself has no header. -/
def checkSingle (rest : Octets) : Except Error Unit :=
  if length = 1 then
    match rest with
    | [] => .error .inputTooShort
    | b :: _ => ensure (0x80 ≤ b.toNat) .nonCanonicalSingleByte
  else
    .ok ()

/-- Reads a header. -/
def decodeHeader : Octets → Except Error (Header × Octets)
  | [] => .error .inputTooShort
  | b :: rest =>
    if b.toNat < 0x80 then
      .ok (⟨false, 1⟩, b :: rest)
    else if b.toNat < 0xb8 then do
      checkSingle (b.toNat - 0x80) rest
      available false (b.toNat - 0x80) rest
    else if b.toNat < 0xc0 then
      decodeLong false (b.toNat - 0xb7) rest
    else if b.toNat < 0xf8 then
      available true (b.toNat - 0xc0) rest
    else
      decodeLong true (b.toNat - 0xf7) rest

/-- Whether a string is one byte that stands for itself. -/
def single : Octets → Bool
  | [b] => b.toNat < 0x80
  | _ => false

section Headers

variable {list} {length k : ℕ} {b : BitVec 8} {s rest : Octets} {h : Header} {p : Header × Octets}

lemma available_eq_ok :
    available list length s = .ok p ↔ p = (⟨list, length⟩, s) ∧ length ≤ s.length := by
  rw [available, ensure_bind_eq_ok]
  exact ⟨fun h => ⟨(Except.ok.inj h.2).symm, h.1⟩, fun h => ⟨h.2, congrArg Except.ok h.1.symm⟩⟩

lemma decodeLong_eq_ok :
    decodeLong list k s = .ok p ↔ k ≤ s.length ∧ (s.take k).head? ≠ some 0 ∧
      56 ≤ beValue (s.take k) ∧ p = (⟨list, beValue (s.take k)⟩, s.drop k) ∧
      beValue (s.take k) ≤ (s.drop k).length := by
  rw [decodeLong, ensure_bind_eq_ok, ensure_bind_eq_ok, ensure_bind_eq_ok, available_eq_ok]

lemma checkSingle_eq_ok : checkSingle length s = .ok () ↔
    (length = 1 → ∃ b t, s = b :: t ∧ 0x80 ≤ b.toNat) := by
  unfold checkSingle
  split
  · next hone =>
    cases s with
    | nil => simp [hone]
    | cons b t => simp [hone, ensure_eq_ok]
  · next hmany => simp [hmany]

lemma beValue_lengthBytes (h : length < 2 ^ 64) : beValue (lengthBytes length) = length := by
  rw [lengthBytes, beValue_trim, beValue_beBytes, BitVec.toNat_ofNat, Nat.mod_eq_of_lt h]

lemma length_lengthBytes_le : (lengthBytes length).length ≤ 8 :=
  (length_trim_le _).trans (length_beBytes _).le

lemma lengthBytes_ne_nil (hlong : 56 ≤ length) (h : length < 2 ^ 64) : lengthBytes length ≠ [] := by
  intro hnil
  have hvalue := beValue_lengthBytes h
  rw [hnil] at hvalue
  exact absurd (hvalue.symm.trans rfl : length = 0) (by omega)

lemma toNat_code (h : k < 64) :
    (BitVec.ofNat 8 (emptyCode list + k)).toNat = emptyCode list + k := by
  rw [BitVec.toNat_ofNat, Nat.mod_eq_of_lt]
  cases list <;> simp only [emptyCode] <;> simp <;> omega

lemma checkSingle_of_single (hfits : length ≤ s.length) (h : single (s.take length) = false) :
    checkSingle length s = .ok () := by
  refine checkSingle_eq_ok.mpr fun hone => ?_
  subst hone
  cases s with
  | nil => simp at hfits
  | cons b t =>
    refine ⟨b, t, rfl, ?_⟩
    simpa [single] using h

/-- A header is read back, but for that of a byte that stands for itself. -/
lemma decodeHeader_header (hfits : length ≤ s.length) (hbound : length < 2 ^ 64)
    (hsingle : list = false → single (s.take length) = false) :
    decodeHeader (header list length ++ s) = .ok (⟨list, length⟩, s) := by
  rw [header]
  split
  · next hshort =>
    have hcode := @toNat_code list length (by omega)
    rw [List.cons_append, List.nil_append, decodeHeader, hcode]
    cases list with
    | false =>
      simp only [emptyCode, Bool.false_eq_true, if_false]
      rw [if_neg (by omega), if_pos (by omega), Nat.add_sub_cancel_left,
        checkSingle_of_single hfits (hsingle rfl)]
      exact available_eq_ok.mpr ⟨rfl, hfits⟩
    | true =>
      simp only [emptyCode, if_true]
      rw [if_neg (by omega), if_neg (by omega), if_neg (by omega), if_pos (by omega),
        Nat.add_sub_cancel_left]
      exact available_eq_ok.mpr ⟨rfl, hfits⟩
  · next hlong =>
    -- the long form: the bytes of the length follow the first one
    have hvalue := beValue_lengthBytes hbound
    have hle := @length_lengthBytes_le length
    have hpos := List.length_pos_of_ne_nil (lengthBytes_ne_nil (by omega) hbound)
    have hlongs (list : Bool) :
        decodeLong list (lengthBytes length).length (lengthBytes length ++ s)
          = .ok (⟨list, length⟩, s) := by
      rw [decodeLong_eq_ok, List.take_left, List.drop_left, hvalue]
      exact ⟨by simp, head?_trim_ne _, by omega, rfl, hfits⟩
    have hcode := @toNat_code list (55 + (lengthBytes length).length) (by omega)
    rw [← add_assoc] at hcode
    rw [List.cons_append, decodeHeader, hcode]
    cases list with
    | false =>
      simp only [emptyCode, Bool.false_eq_true, if_false]
      rw [if_neg (by omega), if_neg (by omega), if_pos (by omega),
        show 128 + 55 + (lengthBytes length).length - 0xb7 = (lengthBytes length).length by
          omega, hlongs]
    | true =>
      simp only [emptyCode, if_true]
      rw [if_neg (by omega), if_neg (by omega), if_neg (by omega), if_neg (by omega),
        show 192 + 55 + (lengthBytes length).length - 0xf7 = (lengthBytes length).length by
          omega, hlongs]

lemma cons_eq_header (hshort : k < 56) (hcode : b.toNat = emptyCode list + k) :
    b :: rest = header list k ++ rest := by
  rw [header, if_pos hshort, ← hcode, BitVec.ofNat_toNat, BitVec.setWidth_eq]
  rfl

lemma single_of_length (h : s.length ≠ 1) : single s = false := by
  rcases s with _ | ⟨b, _ | ⟨b', s⟩⟩
  · rfl
  · simp at h
  · rfl

/-- What is read as a long header is one. -/
lemma header_of_decodeLong (hpos : 0 < k) (hle : k ≤ 8)
    (hcode : b.toNat = emptyCode list + 55 + k) (hread : decodeLong list k rest = .ok (h, s)) :
    h.payloadLength ≤ s.length ∧ b :: rest = header h.list h.payloadLength ++ s ∧
      single (s.take h.payloadLength) = false := by
  obtain ⟨hk, hhead, hlong, heq, hfits⟩ := decodeLong_eq_ok.mp hread
  obtain ⟨rfl, rfl⟩ := Prod.mk.inj heq
  have hlength : (rest.take k).length = k := List.length_take_of_le hk
  have hbytes : lengthBytes (beValue (rest.take k)) = rest.take k :=
    @trim_beBytes_beValue 8 (rest.take k) (by omega) hhead
  refine ⟨hfits, ?_, single_of_length ?_⟩
  · rw [header, if_neg (by simpa using hlong), hbytes, hlength, ← hcode, BitVec.ofNat_toNat,
      BitVec.setWidth_eq, List.cons_append, List.take_append_drop]
  · rw [List.length_take_of_le hfits]
    omega

/-- What is read as a header is one, or a byte that stands for itself. -/
lemma decodeHeader_eq_ok (hread : decodeHeader s = .ok (h, rest)) :
    h.payloadLength ≤ rest.length ∧
      (s = header h.list h.payloadLength ++ rest ∧
          (h.list = false → single (rest.take h.payloadLength) = false) ∨
        h = ⟨false, 1⟩ ∧ s = rest ∧ single (rest.take 1) = true) := by
  cases s with
  | nil => cases hread
  | cons b t =>
    have hb : b.toNat < 256 := b.isLt
    rw [decodeHeader] at hread
    split_ifs at hread with hself hshort hlong hshortList
    · cases hread
      exact ⟨by simp, .inr ⟨rfl, rfl, by simpa [single] using hself⟩⟩
    · obtain ⟨_, hsingle, hread⟩ := bind_eq_ok.mp hread
      obtain ⟨heq, hfits⟩ := available_eq_ok.mp hread
      obtain ⟨rfl, rfl⟩ := Prod.mk.inj heq
      refine ⟨hfits, .inl ⟨cons_eq_header (by dsimp only; omega) ?_, fun _ => ?_⟩⟩
      · simp only [emptyCode, Bool.false_eq_true, if_false]
        omega
      · by_cases hone : b.toNat - 0x80 = 1
        · obtain ⟨c, u, rfl, hc⟩ := checkSingle_eq_ok.mp hsingle hone
          simpa [hone, single] using hc
        · exact single_of_length (by rw [List.length_take_of_le hfits]; exact hone)
    · obtain ⟨hfits, heq, hsingle⟩ := @header_of_decodeLong false _ b rest t h (by omega)
        (by omega) (by simp only [emptyCode, Bool.false_eq_true, if_false]; omega) hread
      exact ⟨hfits, .inl ⟨heq, fun _ => hsingle⟩⟩
    · obtain ⟨heq, hfits⟩ := available_eq_ok.mp hread
      obtain ⟨rfl, rfl⟩ := Prod.mk.inj heq
      refine ⟨hfits, .inl ⟨cons_eq_header (by dsimp only; omega) ?_, fun hlist => ?_⟩⟩
      swap
      · cases hlist
      simp only [emptyCode, if_true]
      omega
    · obtain ⟨hfits, heq, hsingle⟩ := @header_of_decodeLong true _ b rest t h (by omega)
        (by omega) (by simp only [emptyCode, if_true]; omega) hread
      exact ⟨hfits, .inl ⟨heq, fun _ => hsingle⟩⟩

end Headers

/-! ### Strings and lists of items -/

/-- The bytes of a string. -/
def encodeString : Octets := if single s then s else header false s.length ++ s

/-- The bytes of a list with a payload. -/
def encodeList (payload : Octets) : Octets := header true payload.length ++ payload

/-- The payload of a string, or of a list, and what follows it. -/
def decodeBytes (s : Octets) : Except Error (Octets × Octets) := do
  let (h, rest) ← decodeHeader s
  ensure (h.list = list) (if list then .unexpectedString else .unexpectedList)
  pure (rest.take h.payloadLength, rest.drop h.payloadLength)

section Payloads

variable {s payload rest : Octets}

lemma exists_of_single (h : single s = true) : ∃ b : BitVec 8, s = [b] ∧ b.toNat < 0x80 := by
  rcases s with _ | ⟨b, _ | ⟨b', s⟩⟩
  · cases h
  · exact ⟨b, rfl, by simpa [single] using h⟩
  · cases h

lemma header_ne_nil (list : Bool) (length : ℕ) : header list length ≠ [] := by
  rw [header]
  split <;> exact List.cons_ne_nil _ _

lemma encodeString_ne_nil (s : Octets) : encodeString s ≠ [] := by
  rw [encodeString]
  split
  · next hsingle =>
    obtain ⟨b, rfl, -⟩ := exists_of_single hsingle
    exact List.cons_ne_nil _ _
  · exact List.append_ne_nil_of_left_ne_nil (header_ne_nil _ _) _

lemma length_le_encodeString (s : Octets) : s.length ≤ (encodeString s).length := by
  rw [encodeString]
  split
  · exact le_rfl
  · simp

lemma decodeBytes_of_header {list : Bool} (hbound : payload.length < 2 ^ 64)
    (hsingle : list = false → single payload = false) :
    decodeBytes list (header list payload.length ++ (payload ++ rest)) = .ok (payload, rest) := by
  rw [decodeBytes, decodeHeader_header (by simp) hbound (by rwa [List.take_left])]
  dsimp only [bind, Except.bind]
  rw [ensure_of rfl, List.take_left, List.drop_left]
  rfl

lemma decodeBytes_encodeString (hbound : payload.length < 2 ^ 64) :
    decodeBytes false (encodeString payload ++ rest) = .ok (payload, rest) := by
  rw [encodeString]
  split
  · next hsingle =>
    obtain ⟨b, rfl, hb⟩ := exists_of_single hsingle
    rw [List.cons_append, List.nil_append, decodeBytes, decodeHeader, if_pos hb]
    rfl
  · next hsingle =>
    rw [List.append_assoc]
    exact decodeBytes_of_header hbound fun _ => by simpa using hsingle

lemma decodeBytes_encodeList (hbound : payload.length < 2 ^ 64) :
    decodeBytes true (encodeList payload ++ rest) = .ok (payload, rest) := by
  rw [encodeList, List.append_assoc]
  exact decodeBytes_of_header hbound (by simp)

lemma eq_encodeString (h : decodeBytes false s = .ok (payload, rest)) :
    s = encodeString payload ++ rest := by
  obtain ⟨⟨⟨list, length⟩, after⟩, hheader, h⟩ := bind_eq_ok.mp h
  obtain ⟨rfl, h⟩ := ensure_bind_eq_ok.mp h
  cases h
  dsimp only at hheader ⊢
  obtain ⟨hfits, ⟨rfl, hsingle⟩ | ⟨hone, rfl, hsingle⟩⟩ := decodeHeader_eq_ok hheader
  · rw [encodeString, if_neg (by simpa using hsingle rfl), List.length_take_of_le hfits,
      List.append_assoc, List.take_append_drop]
  · cases hone
    rw [encodeString, if_pos hsingle, List.take_append_drop]

lemma eq_encodeList (h : decodeBytes true s = .ok (payload, rest)) :
    s = encodeList payload ++ rest := by
  obtain ⟨⟨⟨list, length⟩, after⟩, hheader, h⟩ := bind_eq_ok.mp h
  obtain ⟨rfl, h⟩ := ensure_bind_eq_ok.mp h
  cases h
  dsimp only at hheader ⊢
  obtain ⟨hfits, ⟨rfl, -⟩ | ⟨hone, -, -⟩⟩ := decodeHeader_eq_ok hheader
  · rw [encodeList, List.length_take_of_le hfits, List.append_assoc, List.take_append_drop]
  · cases hone

end Payloads

/-! ### Codecs -/

/-- An encoding that is told apart from what follows it, and a decoder that reads it back and
accepts nothing else. What is encoded fits the memory of a machine. -/
structure Codec (α : Type) where
  encode : α → Octets
  decode : Octets → Except Error (α × Octets)
  encode_ne_nil : ∀ a, encode a ≠ []
  decode_encode : ∀ a rest, (encode a).length < 2 ^ 64 → decode (encode a ++ rest) = .ok (a, rest)
  eq_encode : ∀ {s a rest}, decode s = .ok (a, rest) → s = encode a ++ rest

variable {α β : Type}

namespace Codec

/-- Strings. -/
def string : Codec Octets where
  encode := encodeString
  decode := decodeBytes false
  encode_ne_nil := encodeString_ne_nil
  decode_encode s _ hbound :=
    decodeBytes_encodeString ((length_le_encodeString s).trans_lt hbound)
  eq_encode := eq_encodeString

/-! Values that stand for others, of which a check passes those that are written. -/

section Refined

variable (c : Codec α) (check : α → Except Error Unit) (read : α → β)

/-- Reads a value and checks it. -/
def decodeRefined (s : Octets) : Except Error (β × Octets) := do
  let (a, rest) ← c.decode s
  check a
  pure (read a, rest)

variable {c check read} {write : β → α}

lemma decodeRefined_encode (hwrite : ∀ b, check (write b) = .ok () ∧ read (write b) = b) (b : β)
    (rest : Octets) (hbound : (c.encode (write b)).length < 2 ^ 64) :
    decodeRefined c check read (c.encode (write b) ++ rest) = .ok (b, rest) := by
  rw [decodeRefined, c.decode_encode _ _ hbound]
  dsimp only [bind, Except.bind]
  rw [(hwrite b).1, (hwrite b).2]
  rfl

lemma eq_encode_of_decodeRefined (hread : ∀ a, check a = .ok () → write (read a) = a)
    {s rest : Octets} {b : β} (h : decodeRefined c check read s = .ok (b, rest)) :
    s = c.encode (write b) ++ rest := by
  obtain ⟨⟨a, after⟩, ha, h⟩ := bind_eq_ok.mp h
  obtain ⟨_, hpassed, h⟩ := bind_eq_ok.mp h
  cases h
  rw [hread a hpassed]
  exact c.eq_encode ha

/-- The values of a codec that pass a check, under other names. -/
def refined (c : Codec α) (check : α → Except Error Unit) (read : α → β) (write : β → α)
    (hwrite : ∀ b, check (write b) = .ok () ∧ read (write b) = b)
    (hread : ∀ a, check a = .ok () → write (read a) = a) : Codec β where
  encode b := c.encode (write b)
  decode := decodeRefined c check read
  encode_ne_nil _ := c.encode_ne_nil _
  decode_encode := decodeRefined_encode hwrite
  eq_encode := eq_encode_of_decodeRefined hread

/-- Values that are made of others. -/
def via (c : Codec α) (e : β ≃ α) : Codec β :=
  c.refined (fun _ => .ok ()) e.symm e (fun b => ⟨rfl, e.symm_apply_apply b⟩)
    fun a _ => e.apply_symm_apply a

end Refined

/-! Words of a fixed width, and numbers without leading zeros, as strings. Decoders of numbers
differ in what they check first. -/

section Words

variable {n : ℕ}

/-- The word that bytes spell. -/
def word (n : ℕ) (bytes : Octets) : BitVec (8 * n) := BitVec.ofNat (8 * n) (beValue bytes)

lemma word_of_beValue {bytes : Octets} {x : BitVec (8 * n)} (h : beValue bytes = x.toNat) :
    word n bytes = x := by
  rw [word, h, BitVec.ofNat_toNat, BitVec.setWidth_eq]

/-- Words of a fixed length. -/
def fixed (n : ℕ) : Codec (BitVec (8 * n)) :=
  string.refined (fun bytes => ensure (bytes.length = n) .unexpectedLength) (word n) (beBytes n)
    (fun x => ⟨ensure_of (length_beBytes x), word_of_beValue (beValue_beBytes x)⟩)
    fun _ hpassed => beBytes_beValue (ensure_eq_ok.mp hpassed)

/-- Checks the length, then the first byte. -/
def overflowFirst (n : ℕ) (bytes : Octets) : Except Error Unit := do
  ensure (bytes.length ≤ n) .overflow
  ensure (bytes.head? ≠ some 0) .leadingZero

/-- Checks the first byte, then the length. -/
def zeroFirst (n : ℕ) (bytes : Octets) : Except Error Unit := do
  ensure (bytes.head? ≠ some 0) .leadingZero
  ensure (bytes.length ≤ n) .overflow

/-- A check that passes what a number of `n` bytes is written as. -/
def Minimal (n : ℕ) (check : Octets → Except Error Unit) : Prop :=
  ∀ bytes, check bytes = .ok () ↔ bytes.length ≤ n ∧ bytes.head? ≠ some 0

lemma minimal_overflowFirst : Minimal n (overflowFirst n) := by
  intro bytes
  rw [overflowFirst, ensure_bind_eq_ok, ensure_eq_ok]

lemma minimal_zeroFirst : Minimal n (zeroFirst n) := by
  intro bytes
  rw [zeroFirst, ensure_bind_eq_ok, ensure_eq_ok, and_comm]

/-- Words without leading zeros. -/
def uint (n : ℕ) (check : Octets → Except Error Unit) (hcheck : Minimal n check) :
    Codec (BitVec (8 * n)) :=
  string.refined check (word n) (fun x => trim (beBytes n x))
    (fun x => ⟨(hcheck _).mpr ⟨(length_trim_le _).trans (length_beBytes x).le, head?_trim_ne _⟩,
      word_of_beValue ((beValue_trim _).trans (beValue_beBytes x))⟩)
    fun bytes hpassed => trim_beBytes_beValue ((hcheck bytes).mp hpassed).1
      ((hcheck bytes).mp hpassed).2

end Words

/-! Fields in sequence, and a record of them. -/

section Records

variable (c : Codec α) (d : Codec β)

/-- Reads one value after another. -/
def decodePair (s : Octets) : Except Error ((α × β) × Octets) := do
  let (a, s) ← c.decode s
  let (b, s) ← d.decode s
  pure ((a, b), s)

variable {c d}

lemma decodePair_encode (p : α × β) (rest : Octets)
    (hbound : (c.encode p.1 ++ d.encode p.2).length < 2 ^ 64) :
    decodePair c d (c.encode p.1 ++ d.encode p.2 ++ rest) = .ok (p, rest) := by
  rw [List.length_append] at hbound
  rw [decodePair, List.append_assoc, c.decode_encode _ _ (by omega)]
  dsimp only [bind, Except.bind]
  rw [d.decode_encode _ _ (by omega)]
  rfl

lemma eq_encode_of_decodePair {s rest : Octets} {p : α × β}
    (h : decodePair c d s = .ok (p, rest)) : s = c.encode p.1 ++ d.encode p.2 ++ rest := by
  obtain ⟨⟨a, s'⟩, ha, h⟩ := bind_eq_ok.mp h
  obtain ⟨⟨b, s''⟩, hb, h⟩ := bind_eq_ok.mp h
  cases h
  rw [c.eq_encode ha, d.eq_encode hb, List.append_assoc]

variable (c d)

/-- Two values. -/
def pair : Codec (α × β) where
  encode p := c.encode p.1 ++ d.encode p.2
  decode := decodePair c d
  encode_ne_nil _ := List.append_ne_nil_of_left_ne_nil (c.encode_ne_nil _) _
  decode_encode := decodePair_encode
  eq_encode := eq_encode_of_decodePair

/-- The fields are read from all that follows the header, and must end where the list does. -/
def decodeRecord (s : Octets) : Except Error (α × Octets) := do
  let (h, rest) ← decodeHeader s
  ensure (h.list = true) .unexpectedString
  let (a, after) ← c.decode rest
  ensure (rest.length - after.length = h.payloadLength)
    (.listLengthMismatch h.payloadLength (rest.length - after.length))
  pure (a, after)

variable {c}

lemma decodeRecord_encode (a : α) (rest : Octets)
    (hbound : (encodeList (c.encode a)).length < 2 ^ 64) :
    decodeRecord c (encodeList (c.encode a) ++ rest) = .ok (a, rest) := by
  rw [encodeList, List.length_append] at hbound
  rw [decodeRecord, encodeList, List.append_assoc,
    decodeHeader_header (by simp) (by omega) (by simp)]
  dsimp only [bind, Except.bind]
  rw [ensure_of rfl, c.decode_encode a rest (by omega)]
  dsimp only
  rw [ensure_of (by rw [List.length_append, Nat.add_sub_cancel])]
  rfl

lemma eq_encode_of_decodeRecord {s rest : Octets} {a : α}
    (h : decodeRecord c s = .ok (a, rest)) : s = encodeList (c.encode a) ++ rest := by
  obtain ⟨⟨⟨list, length⟩, after⟩, hheader, h⟩ := bind_eq_ok.mp h
  obtain ⟨rfl, h⟩ := ensure_bind_eq_ok.mp h
  obtain ⟨⟨a', s'⟩, hfields, h⟩ := bind_eq_ok.mp h
  obtain ⟨hlength, h⟩ := ensure_bind_eq_ok.mp h
  cases h
  dsimp only at hheader hfields hlength
  obtain ⟨-, ⟨rfl, -⟩ | ⟨hone, -, -⟩⟩ := decodeHeader_eq_ok hheader
  · obtain rfl := c.eq_encode hfields
    rw [List.length_append, Nat.add_sub_cancel] at hlength
    rw [encodeList, hlength, List.append_assoc]
  · cases hone

lemma encodeList_ne_nil (payload : Octets) : encodeList payload ≠ [] :=
  List.append_ne_nil_of_left_ne_nil (header_ne_nil _ _) _

/-- A value in a list of its own. -/
def record (c : Codec α) : Codec α where
  encode a := encodeList (c.encode a)
  decode := decodeRecord c
  encode_ne_nil _ := encodeList_ne_nil _
  decode_encode := decodeRecord_encode
  eq_encode := eq_encode_of_decodeRecord

end Records

/-! The items of a list, read until its payload is used up. -/

section Items

variable (c : Codec α) (as : List α)

/-- The bytes of a list's members. -/
def encodeItems : Octets := as.flatMap c.encode

/-- Each item takes a byte at least, so that the length of the payload is enough fuel. -/
def decodeItems : ℕ → Octets → Except Error (List α)
  | _, [] => .ok []
  | 0, _ :: _ => .error .inputTooShort
  | fuel + 1, b :: s => do
    let (a, rest) ← c.decode (b :: s)
    let as ← decodeItems fuel rest
    pure (a :: as)

/-- Reads the members of a list. -/
def decodeList (s : Octets) : Except Error (List α × Octets) := do
  let (payload, rest) ← decodeBytes true s
  let as ← decodeItems c payload.length payload
  pure (as, rest)

variable {c}

lemma decodeItems_encodeItems {fuel : ℕ} (hbound : (encodeItems c as).length < 2 ^ 64)
    (hfuel : (encodeItems c as).length ≤ fuel) :
    decodeItems c fuel (encodeItems c as) = .ok as := by
  induction as generalizing fuel with
  | nil => exact decodeItems.eq_1 c fuel
  | cons a as ih =>
    have hsplit : encodeItems c (a :: as) = c.encode a ++ encodeItems c as := List.flatMap_cons
    have hpos := List.length_pos_of_ne_nil (c.encode_ne_nil a)
    rw [hsplit, List.length_append] at hbound hfuel
    rw [hsplit]
    obtain ⟨fuel, rfl⟩ := Nat.exists_eq_succ_of_ne_zero (by omega : fuel ≠ 0)
    obtain ⟨b, s, hs⟩ := List.exists_cons_of_ne_nil
      (List.append_ne_nil_of_left_ne_nil (c.encode_ne_nil a) (encodeItems c as))
    rw [hs, decodeItems, ← hs, c.decode_encode a _ (by omega)]
    dsimp only [bind, Except.bind]
    rw [ih (by omega) (by omega)]
    rfl

lemma eq_encodeItems {fuel : ℕ} {s : Octets} {as : List α} (h : decodeItems c fuel s = .ok as) :
    s = encodeItems c as := by
  induction fuel generalizing s as with
  | zero =>
    cases s with
    | nil =>
      cases h
      rfl
    | cons b s => cases h
  | succ fuel ih =>
    cases s with
    | nil =>
      cases h
      rfl
    | cons b s =>
      obtain ⟨⟨a, rest⟩, ha, h⟩ := bind_eq_ok.mp h
      obtain ⟨as, has, h⟩ := bind_eq_ok.mp h
      cases h
      rw [c.eq_encode ha, ih has]
      rfl

lemma decodeList_encode (rest : Octets) (hbound : (encodeList (encodeItems c as)).length < 2 ^ 64) :
    decodeList c (encodeList (encodeItems c as) ++ rest) = .ok (as, rest) := by
  rw [encodeList, List.length_append] at hbound
  rw [decodeList, decodeBytes_encodeList (by omega)]
  dsimp only [bind, Except.bind]
  rw [decodeItems_encodeItems as (by omega) le_rfl]
  rfl

lemma eq_encode_of_decodeList {s rest : Octets} {as : List α}
    (h : decodeList c s = .ok (as, rest)) : s = encodeList (encodeItems c as) ++ rest := by
  obtain ⟨⟨payload, after⟩, hpayload, h⟩ := bind_eq_ok.mp h
  obtain ⟨as', hitems, h⟩ := bind_eq_ok.mp h
  cases h
  rw [← eq_encodeItems hitems]
  exact eq_encodeList hpayload

/-- Lists. -/
def items (c : Codec α) : Codec (List α) where
  encode as := encodeList (encodeItems c as)
  decode := decodeList c
  encode_ne_nil _ := encodeList_ne_nil _
  decode_encode := decodeList_encode
  eq_encode := eq_encode_of_decodeList

end Items

end Codec

end RecursiveLength
