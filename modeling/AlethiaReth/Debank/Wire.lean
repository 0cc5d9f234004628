import AlethiaReth.Lib.RecursiveLength
import AlethiaReth.Debank.StorageDiff

/-!
The bytes of a state diff: the decoder accepts the bytes of a well-formed diff and nothing else
(`storageDiff_accepted_iff`), so the producer's check of its own output accepts every diff that is
built (`decodeAndValidate_built`).
-/

namespace AlethiaReth.Debank

open MachineInt Outcome RecursiveLength ByteString

/-! ### The format -/

/-- Hashes. -/
def b256Rlp : Codec B256 := .fixed 32

/-- Words of 256 bits. -/
def u256Rlp : Codec U256 := .uint 32 (Codec.zeroFirst 32) Codec.minimal_zeroFirst

/-- Words of 64 bits. -/
def u64Rlp : Codec U64 := .uint 8 (Codec.overflowFirst 8) Codec.minimal_overflowFirst

/-- Strings. -/
def bytesRlp : Codec Bytes := .string

/-- The fields in the order they are written. -/
def NewCode.fields : NewCode ≃ B256 × Bytes where
  toFun code := (code.codeHash, code.code)
  invFun fields := ⟨fields.1, fields.2⟩
  left_inv _ := rfl
  right_inv _ := rfl

/-- The fields in the order they are written. -/
def NewAccount.fields : NewAccount ≃ B256 × U256 × U64 × B256 where
  toFun account := (account.address, account.balance, account.nonce, account.codeHash)
  invFun fields := ⟨fields.1, fields.2.1, fields.2.2.1, fields.2.2.2⟩
  left_inv _ := rfl
  right_inv _ := rfl

/-- The fields in the order they are written. -/
def IndexValuePair.fields : IndexValuePair ≃ B256 × U256 where
  toFun pair := (pair.index, pair.value)
  invFun fields := ⟨fields.1, fields.2⟩
  left_inv _ := rfl
  right_inv _ := rfl

/-- The fields in the order they are written. -/
def AccountStorageDiff.fields : AccountStorageDiff ≃ B256 × List IndexValuePair where
  toFun storage := (storage.address, storage.diffs)
  invFun fields := ⟨fields.1, fields.2⟩
  left_inv _ := rfl
  right_inv _ := rfl

/-- The fields in the order they are written. -/
def BlockStorageDiff.fields : BlockStorageDiff ≃
    B256 × B256 × List NewAccount × List B256 × List AccountStorageDiff × List NewCode where
  toFun diff := (diff.hash, diff.parentHash, diff.newAccounts, diff.deletedAccounts,
    diff.storageDiffs, diff.newCodes)
  invFun fields := ⟨fields.1, fields.2.1, fields.2.2.1, fields.2.2.2.1, fields.2.2.2.2.1,
    fields.2.2.2.2.2⟩
  left_inv _ := rfl
  right_inv _ := rfl

/-- Codes. -/
def newCodeRlp : Codec NewCode := (b256Rlp.pair bytesRlp).record.via NewCode.fields

/-- Accounts. -/
def newAccountRlp : Codec NewAccount :=
  (b256Rlp.pair (u256Rlp.pair (u64Rlp.pair b256Rlp))).record.via NewAccount.fields

/-- Slots. -/
def indexValuePairRlp : Codec IndexValuePair :=
  (b256Rlp.pair u256Rlp).record.via IndexValuePair.fields

/-- The slots of an account. -/
def accountStorageDiffRlp : Codec AccountStorageDiff :=
  (b256Rlp.pair indexValuePairRlp.items).record.via AccountStorageDiff.fields

/-- Diffs. -/
def blockStorageDiffRlp : Codec BlockStorageDiff :=
  (b256Rlp.pair (b256Rlp.pair (newAccountRlp.items.pair (b256Rlp.items.pair
    (accountStorageDiffRlp.items.pair newCodeRlp.items))))).record.via BlockStorageDiff.fields

/-- The wire format of a diff; of an error, what it displays. -/
def storageDiffRlp : Rlp where
  encode := blockStorageDiffRlp.encode
  decode encoded := (blockStorageDiffRlp.decode encoded).mapError Error.text

/-- What makes a diff one of a state: keys come once, and what an entry refers to is there. -/
structure BlockStorageDiff.WellFormed (keccak256 : Bytes → B256) (diff : BlockStorageDiff) :
    Prop where
  newAccounts : (diff.newAccounts.map NewAccount.address).Nodup
  deletedAccounts : (diff.deletedAccounts.map id).Nodup
  storageDiffs : (diff.storageDiffs.map AccountStorageDiff.address).Nodup
  slots : ∀ storage ∈ diff.storageDiffs, (storage.diffs.map IndexValuePair.index).Nodup
  finalAccounts : ∀ storage ∈ diff.storageDiffs,
    storage.address ∈ diff.newAccounts.map NewAccount.address
  newCodes : (diff.newCodes.map NewCode.codeHash).Nodup
  codes : ∀ code ∈ diff.newCodes, keccak256 code.code = code.codeHash ∧
    code.codeHash ∈ diff.newAccounts.map NewAccount.codeHash

section Accepted

variable {keccak256 : Bytes → B256} {diff : BlockStorageDiff} {state : HashedPostState}
  {encoded : Bytes}

lemma insertNew_eq_ok {K V : Type} [DecidableEq K] {map map' : K → Option V} {key : K}
    {value : V} {refuse : StorageDiffError} : insertNew map key value refuse = .ok map' ↔
      map key = none ∧ map' = Function.update map key (some value) := by
  cases hkey : map key <;> simp [insertNew, hkey, eq_comm]

lemma isSome_postAccounts {address : B256} : (diff.postAccounts address).isSome = true ↔
    address ∈ diff.newAccounts.map NewAccount.address := by
  rw [BlockStorageDiff.postAccounts, Option.isSome_map, Option.isSome_iff_ne_none, Ne,
    Keyed.lookup_eq_none_iff]
  simp

/-! Each loop ends exactly where its keys come once, with the map of its list. -/

lemma foldlM_insertNew_eq_ok {α K V : Type} [DecidableEq K] {items : List α} {key : α → K}
    {value : α → V} {refuse : α → StorageDiffError} {map : K → Option V} :
    items.foldlM (fun map item => insertNew map (key item) (value item) (refuse item))
        (fun _ => none) = .ok map ↔
      (items.map key).Nodup ∧ map = fun k => (Keyed.lookup key k items).map value := by
  rw [Keyed.foldlM_insert_eq_ok key value fun _ => True]
  · simp
  · intro map item map'
    rw [insertNew_eq_ok, true_and]

lemma collectAccounts_eq_ok {accounts : B256 → Option PostAccount} :
    collectAccounts diff.newAccounts = .ok accounts ↔
      (diff.newAccounts.map NewAccount.address).Nodup ∧ accounts = diff.postAccounts :=
  foldlM_insertNew_eq_ok

lemma collectDeleted_eq_ok {deleted : B256 → Option Unit} :
    collectDeleted diff.deletedAccounts = .ok deleted ↔
      (diff.deletedAccounts.map id).Nodup ∧ deleted = diff.postDeleted :=
  foldlM_insertNew_eq_ok

lemma collectSlots_eq_ok {storage : AccountStorageDiff} {slots : B256 → Option U256} :
    collectSlots storage = .ok slots ↔
      (storage.diffs.map IndexValuePair.index).Nodup ∧ slots = storage.slots :=
  foldlM_insertNew_eq_ok

lemma collectStorages_eq_ok {storages : B256 → Option (B256 → Option U256)} :
    collectStorages diff.postAccounts diff.storageDiffs = .ok storages ↔
      (diff.storageDiffs.map AccountStorageDiff.address).Nodup ∧
      (∀ storage ∈ diff.storageDiffs, (storage.diffs.map IndexValuePair.index).Nodup ∧
        storage.address ∈ diff.newAccounts.map NewAccount.address) ∧
      storages = diff.postStorages := by
  refine Keyed.foldlM_insert_eq_ok AccountStorageDiff.address AccountStorageDiff.slots
    (fun storage => (storage.diffs.map IndexValuePair.index).Nodup ∧
      storage.address ∈ diff.newAccounts.map NewAccount.address) fun map storage map' => ?_
  rw [ensure_bind_eq_ok, bind_eq_ok, isSome_postAccounts]
  simp only [collectSlots_eq_ok, insertNew_eq_ok]
  constructor
  · rintro ⟨haccount, slots, ⟨hslots, rfl⟩, hnew⟩
    exact ⟨⟨hslots, haccount⟩, hnew⟩
  · rintro ⟨⟨hslots, haccount⟩, hnew⟩
    exact ⟨haccount, _, ⟨hslots, rfl⟩, hnew⟩

lemma collectCodes_eq_ok {codes : B256 → Option Unit} :
    collectCodes keccak256 diff.newAccounts diff.newCodes = .ok codes ↔
      (diff.newCodes.map NewCode.codeHash).Nodup ∧
      (∀ code ∈ diff.newCodes, keccak256 code.code = code.codeHash ∧
        code.codeHash ∈ diff.newAccounts.map NewAccount.codeHash) ∧
      codes = fun codeHash =>
        (Keyed.lookup NewCode.codeHash codeHash diff.newCodes).map fun _ => () := by
  refine Keyed.foldlM_insert_eq_ok NewCode.codeHash (fun _ => ())
    (fun code => keccak256 code.code = code.codeHash ∧
      code.codeHash ∈ diff.newAccounts.map NewAccount.codeHash) fun map code map' => ?_
  rw [ensure_bind_eq_ok, bind_eq_ok]
  simp only [insertNew_eq_ok, ensure_bind_eq_ok]
  constructor
  · rintro ⟨hhash, codes, ⟨hnone, rfl⟩, hmem, ⟨⟩⟩
    exact ⟨⟨hhash, hmem⟩, hnone, rfl⟩
  · rintro ⟨⟨hhash, hmem⟩, hnone, rfl⟩
    exact ⟨hhash, _, ⟨hnone, rfl⟩, hmem, rfl⟩

/-- A well-formed diff is read back through any format that reads it back. -/
lemma decodeStorageDiffExact_of_wellFormed {rlp : Rlp}
    (hrlp : rlp.decode (rlp.encode diff) = .ok (diff, [])) (h : diff.WellFormed keccak256) :
    decodeStorageDiffExact keccak256 rlp (rlp.encode diff) = .ok (diff, diff.postState) := by
  rw [decodeStorageDiffExact, hrlp]
  dsimp only
  rw [ensure_of rfl, collectAccounts_eq_ok.mpr ⟨h.newAccounts, rfl⟩,
    collectDeleted_eq_ok.mpr ⟨h.deletedAccounts, rfl⟩]
  dsimp only [bind, Except.bind]
  rw [collectStorages_eq_ok.mpr ⟨h.storageDiffs, fun storage hstorage =>
    ⟨h.slots storage hstorage, h.finalAccounts storage hstorage⟩, rfl⟩,
    collectCodes_eq_ok.mpr ⟨h.newCodes, h.codes, rfl⟩]
  rfl

/-- So it passes the check against itself. -/
lemma decodeAndValidate_of_wellFormed {rlp : Rlp}
    (hrlp : rlp.decode (rlp.encode diff) = .ok (diff, [])) (h : diff.WellFormed keccak256) :
    decodeAndValidateStorageDiffExact keccak256 rlp (rlp.encode diff) diff
      = .ok diff.postState := by
  rw [decodeAndValidateStorageDiffExact, decodeStorageDiffExact_of_wellFormed hrlp h]
  dsimp only [bind, Except.bind]
  rw [ensure_of rfl]
  rfl

lemma storageDiffRlp_decode_encode (hsize : (storageDiffRlp.encode diff).length < 2 ^ 64) :
    storageDiffRlp.decode (storageDiffRlp.encode diff) = .ok (diff, []) := by
  refine mapError_eq_ok.mpr ?_
  have hread := blockStorageDiffRlp.decode_encode diff [] hsize
  rwa [List.append_nil] at hread

/-- What is read is well formed, and the bytes are its own. -/
lemma decodeStorageDiffExact_eq_ok
    (h : decodeStorageDiffExact keccak256 storageDiffRlp encoded = .ok (diff, state)) :
    encoded = storageDiffRlp.encode diff ∧ diff.WellFormed keccak256 ∧
      state = diff.postState := by
  rw [decodeStorageDiffExact] at h
  split at h
  · cases h
  · next decoded input hread =>
    obtain ⟨hinput, h⟩ := ensure_bind_eq_ok.mp h
    obtain ⟨accounts, haccounts, h⟩ := bind_eq_ok.mp h
    obtain ⟨deleted, hdeleted, h⟩ := bind_eq_ok.mp h
    obtain ⟨storages, hstorages, h⟩ := bind_eq_ok.mp h
    obtain ⟨codes, hcodes, h⟩ := bind_eq_ok.mp h
    cases h
    have hbytes := blockStorageDiffRlp.eq_encode (mapError_eq_ok.mp hread)
    rw [hinput, List.append_nil] at hbytes
    obtain ⟨hnewAccounts, rfl⟩ := collectAccounts_eq_ok.mp haccounts
    obtain ⟨hdeletedAccounts, rfl⟩ := collectDeleted_eq_ok.mp hdeleted
    obtain ⟨hstorageDiffs, hrows, rfl⟩ := collectStorages_eq_ok.mp hstorages
    obtain ⟨hnewCodes, hcodesOf, -⟩ := collectCodes_eq_ok.mp hcodes
    exact ⟨hbytes, ⟨hnewAccounts, hdeletedAccounts, hstorageDiffs,
      fun row hrow => (hrows row hrow).1, fun row hrow => (hrows row hrow).2, hnewCodes,
      hcodesOf⟩, rfl⟩

/-- What is built is well formed. -/
lemma Emitted.wellFormed {bundle : BundleState} (h : Emitted keccak256 bundle diff)
    (haddress : Function.Injective (hashedAddress keccak256))
    (hslot : Function.Injective (hashedSlot keccak256)) : diff.WellFormed keccak256 where
  newAccounts := h.nodup_newAccounts haddress
  deletedAccounts := h.nodup_deletedAccounts haddress
  storageDiffs := h.nodup_storageDiffs haddress
  slots row hrow := by
    obtain ⟨entry, -, hstorage⟩ := List.mem_filterMap.mp (h.storageDiffs.mem_iff.mp hrow)
    rw [(storageOf_eq_some hstorage).2.1]
    exact nodup_emittedSlots hslot entry.2
  finalAccounts row hrow := by
    obtain ⟨entry, hentry, hstorage⟩ := List.mem_filterMap.mp (h.storageDiffs.mem_iff.mp hrow)
    obtain ⟨account, haccount⟩ := exists_accountOf_of_storageOf hstorage
    rw [(storageOf_eq_some hstorage).2.1, ← accountOf_eq_some haccount]
    exact List.mem_map_of_mem
      (h.newAccounts.mem_iff.mpr (List.mem_filterMap.mpr ⟨entry, hentry, haccount⟩))
  newCodes := h.codes_nodup
  codes code hcode := by
    obtain ⟨hhash, hrequired⟩ := h.codes code hcode
    obtain ⟨entry, hentry, hcodeOf⟩ := List.mem_filterMap.mp hrequired
    obtain ⟨account, haccount, hcodeHash⟩ := exists_accountOf_of_codeOf hcodeOf
    rw [← hcodeHash]
    exact ⟨hcodeHash ▸ hhash, List.mem_map_of_mem
      (h.newAccounts.mem_iff.mpr (List.mem_filterMap.mpr ⟨entry, hentry, haccount⟩))⟩

end Accepted

/-! A hash that is the number its bytes make, and a bundle with an account that was destroyed
and made again. -/

/-- The bytes read as a number. -/
def numberHash (bytes : Bytes) : B256 :=
  BitVec.ofNat 256 (Nat.ofDigits 256 (bytes.map BitVec.toNat))

lemma numberHash_inj {s t : Bytes} (hlength : s.length = t.length) (hshort : s.length ≤ 32)
    (h : numberHash s = numberHash t) : s = t := by
  have hdigit : ∀ bytes : Bytes, ∀ d ∈ bytes.map BitVec.toNat, d < 256 := by
    intro bytes d hd
    obtain ⟨b, -, rfl⟩ := List.mem_map.mp hd
    exact b.isLt
  have hlt : ∀ bytes : Bytes, bytes.length ≤ 32 →
      Nat.ofDigits 256 (bytes.map BitVec.toNat) < 2 ^ 256 := by
    intro bytes hbytes
    calc Nat.ofDigits 256 (bytes.map BitVec.toNat)
        < 256 ^ (bytes.map BitVec.toNat).length :=
          Nat.ofDigits_lt_base_pow_length (by omega) (hdigit bytes)
      _ ≤ 256 ^ 32 := Nat.pow_le_pow_right (by omega) (by rwa [List.length_map])
      _ = 2 ^ 256 := by norm_num
  have hdigits := congrArg BitVec.toNat h
  rw [numberHash, numberHash, BitVec.toNat_ofNat, BitVec.toNat_ofNat,
    Nat.mod_eq_of_lt (hlt s hshort), Nat.mod_eq_of_lt (hlt t (hlength ▸ hshort))] at hdigits
  have hmap := Nat.ofDigits_inj_of_len_eq (by omega) (by simp [hlength]) (hdigit s) (hdigit t)
    hdigits
  exact List.map_injective_iff.mpr (fun _ _ => BitVec.eq_of_toNat_eq) hmap

lemma hashedAddress_numberHash : Function.Injective (hashedAddress numberHash) := by
  intro a b h
  exact beBytes_injective (numberHash_inj (by simp) (by simp) h)

lemma hashedSlot_numberHash : Function.Injective (hashedSlot numberHash) := by
  intro a b h
  exact beBytes_injective (numberHash_inj (by simp) (by simp) h)

/-- An account destroyed and created again, and one that was read. -/
def recreatedBundle : BundleState where
  state := [⟨5, { info := some ⟨10, 1, 513⟩, originalInfo := some ⟨3, 7, 0⟩,
                  storage := [⟨2, ⟨0, 9⟩⟩, ⟨1, ⟨0, 0⟩⟩].toAList, status := .destroyedChanged }⟩,
    ⟨4, { info := some ⟨1, 1, 0⟩, originalInfo := some ⟨1, 1, 0⟩,
          storage := [⟨3, ⟨8, 0⟩⟩].toAList, status := .changed }⟩].toAList
  contracts codeHash := if codeHash = 513 then some [1, 2] else none

/-- Its diff. -/
def recreatedDiff : BlockStorageDiff where
  hash := 1
  parentHash := 0
  newAccounts := [⟨hashedAddress numberHash 4, 1, 1, 0⟩, ⟨hashedAddress numberHash 5, 10, 1, 513⟩]
  deletedAccounts := [hashedAddress numberHash 5]
  storageDiffs := [⟨hashedAddress numberHash 4, [⟨hashedSlot numberHash 3, 0⟩]⟩,
    ⟨hashedAddress numberHash 5, [⟨hashedSlot numberHash 2, 9⟩]⟩]
  newCodes := [⟨513, [1, 2]⟩]

lemma buildStorageDiff_recreated :
    buildStorageDiff numberHash recreatedBundle 1 0 = .ok recreatedDiff := by
  decide +kernel

lemma length_encode_recreated : (storageDiffRlp.encode recreatedDiff).length = 427 := by
  decide +kernel

lemma decode_encode_recreated :
    storageDiffRlp.decode (storageDiffRlp.encode recreatedDiff) = .ok (recreatedDiff, []) :=
  storageDiffRlp_decode_encode (by rw [length_encode_recreated]; norm_num)

/-- The producer's check of its own output accepts every diff that is built. -/
theorem decodeAndValidate_built (keccak256 : Bytes → B256)
    (haddress : Function.Injective (hashedAddress keccak256))
    (hslot : Function.Injective (hashedSlot keccak256)) (rlp : Rlp) (bundle : BundleState)
    (hash parentHash : B256) (diff : BlockStorageDiff)
    (h : buildStorageDiff keccak256 bundle hash parentHash = .ok diff)
    (hrlp : rlp.decode (rlp.encode diff) = .ok (diff, [])) :
    ∃ state, decodeAndValidateStorageDiffExact keccak256 rlp (rlp.encode diff) diff
      = .ok state :=
  ⟨diff.postState, decodeAndValidate_of_wellFormed hrlp
    ((buildStorageDiff_emitted h).wellFormed haddress hslot)⟩

/-- The check accepts the diff of that bundle. -/
theorem decodeAndValidate_recreated :
    ∃ state, decodeAndValidateStorageDiffExact numberHash storageDiffRlp
      (storageDiffRlp.encode recreatedDiff) recreatedDiff = .ok state :=
  decodeAndValidate_built numberHash hashedAddress_numberHash hashedSlot_numberHash storageDiffRlp
    recreatedBundle 1 0 recreatedDiff buildStorageDiff_recreated decode_encode_recreated

/-- The decoder accepts the bytes of a well-formed diff, with the changes its lists make, and
nothing else. -/
theorem storageDiff_accepted_iff (keccak256 : Bytes → B256) (encoded : Bytes)
    (hsize : encoded.length < 2 ^ 64) (diff : BlockStorageDiff) (state : HashedPostState) :
    decodeStorageDiffExact keccak256 storageDiffRlp encoded = .ok (diff, state) ↔
      encoded = storageDiffRlp.encode diff ∧ diff.WellFormed keccak256 ∧
        state = diff.postState := by
  refine ⟨decodeStorageDiffExact_eq_ok, ?_⟩
  rintro ⟨rfl, hwell, rfl⟩
  exact decodeStorageDiffExact_of_wellFormed (storageDiffRlp_decode_encode hsize) hwell

/-- The account that was destroyed and made again is read back from its 427 bytes. -/
theorem storageDiff_accepted_recreated :
    (storageDiffRlp.encode recreatedDiff).length = 427 ∧
      decodeStorageDiffExact numberHash storageDiffRlp (storageDiffRlp.encode recreatedDiff)
        = .ok (recreatedDiff, recreatedDiff.postState) := by
  refine ⟨length_encode_recreated, (storageDiff_accepted_iff numberHash _
    (by rw [length_encode_recreated]; norm_num) recreatedDiff recreatedDiff.postState).mpr
      ⟨rfl, ?_, rfl⟩⟩
  exact (buildStorageDiff_emitted buildStorageDiff_recreated).wellFormed
    hashedAddress_numberHash hashedSlot_numberHash

end AlethiaReth.Debank
