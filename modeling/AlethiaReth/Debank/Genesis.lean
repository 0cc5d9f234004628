import AlethiaReth.Debank.Application
import AlethiaReth.Debank.Identifiers

/-!
The state diff of the first block, which is its whole state: it is well formed
(`Genesis.wellFormed`), leads from nothing to the allocation (`Genesis.applyTo_nothing`), and has
the root of the trie of the allocation (`Genesis.completeStateRoot_eq`).
-/

namespace AlethiaReth.Debank

open MachineInt Outcome ByteString RecursiveLength

/-! ### Allocations -/

/-- An account of the allocation. -/
structure GenesisAccount where
  nonce : Option U64
  balance : U256
  code : Option Bytes
  storage : Option (AList fun _ : B256 => B256)

/-- The allocation. -/
structure Genesis where
  alloc : AList fun _ : Address => GenesisAccount

/-- Its storage. -/
def GenesisAccount.slots (account : GenesisAccount) : AList fun _ : B256 => B256 :=
  account.storage.getD ∅

section Build

variable (keccak256 : Bytes → B256)

/-- The hash of its code. -/
def GenesisAccount.codeHash (account : GenesisAccount) : B256 :=
  match account.code with
  | none => keccakEmpty keccak256
  | some code => keccak256 code

/-- Its entry in the diff. -/
def genesisAccount (entry : (_ : Address) × GenesisAccount) : NewAccount :=
  ⟨hashedAddress keccak256 entry.1, entry.2.balance, entry.2.nonce.getD 0,
    entry.2.codeHash keccak256⟩

/-- The entry of a slot. -/
def genesisSlot (slot : (_ : B256) × B256) : IndexValuePair :=
  ⟨keccak256 (beBytes 32 slot.1), slot.2⟩

/-- The slots of an account, sorted. -/
def genesisStorage (entry : (_ : Address) × GenesisAccount) : AccountStorageDiff :=
  ⟨hashedAddress keccak256 entry.1,
    (entry.2.slots.entries.map (genesisSlot keccak256)).insertionSort fun a b =>
      a.index ≤ b.index⟩

/-- A code is kept once, as the first account has it. -/
def insertCode (codes : List NewCode) (entry : (_ : Address) × GenesisAccount) : List NewCode :=
  match entry.2.code with
  | none => codes
  | some code =>
    if keccak256 code ∈ codes.map NewCode.codeHash then codes
    else codes ++ [⟨keccak256 code, code⟩]

/-- The allocation as a diff on nothing. -/
def buildGenesisStorageDiff (genesis : Genesis) (stateRoot : B256) : BlockStorageDiff where
  hash := stateRoot
  parentHash := emptyRootHash
  newAccounts := (genesis.alloc.entries.map (genesisAccount keccak256)).insertionSort fun a b =>
    a.address ≤ b.address
  deletedAccounts := []
  storageDiffs := (genesis.alloc.entries.map (genesisStorage keccak256)).insertionSort fun a b =>
    a.address ≤ b.address
  newCodes := (genesis.alloc.entries.foldl (insertCode keccak256) []).insertionSort fun a b =>
    a.codeHash ≤ b.codeHash

end Build

/-- The accounts with storage. -/
def genesisStorageContracts (genesis : Genesis) : List Address :=
  ((genesis.alloc.entries.filter fun entry => !entry.2.slots.entries.isEmpty).map
    Sigma.fst).insertionSort fun a b => a ≤ b

/-! ### The root of a whole state -/

/-- An account as the trie has it. -/
structure TrieAccount where
  nonce : U64
  balance : U256
  storageRoot : B256
  codeHash : B256

/-- The fields in the order they are written. -/
def TrieAccount.fields : TrieAccount ≃ U64 × U256 × B256 × B256 where
  toFun account := (account.nonce, account.balance, account.storageRoot, account.codeHash)
  invFun fields := ⟨fields.1, fields.2.1, fields.2.2.1, fields.2.2.2⟩
  left_inv _ := rfl
  right_inv _ := rfl

/-- Accounts in the trie. -/
def trieAccountRlp : Codec TrieAccount :=
  (u64Rlp.pair (u256Rlp.pair (b256Rlp.pair b256Rlp))).record.via TrieAccount.fields

section Root

variable (trieRoot : List (B256 × Bytes) → B256)

/-- The key and the value of an account in the trie; a later row of slots replaces an earlier
one. -/
def encodedAccount (diff : BlockStorageDiff) (account : NewAccount) :
    Except String (B256 × Bytes) :=
  match Keyed.lookup AccountStorageDiff.address account.address diff.storageDiffs.reverse with
  | none => .error ("missing complete storage row for " ++ displayHash account.address)
  | some row =>
    let storageRoot :=
      trieRoot (row.diffs.map fun slot => (slot.index, u256Rlp.encode slot.value))
    .ok (account.address, trieAccountRlp.encode
      ⟨account.nonce, account.balance, storageRoot, account.codeHash⟩)

/-- The root of a diff on nothing. -/
def completeStateRoot (diff : BlockStorageDiff) : Except String B256 := do
  ensure (diff.deletedAccounts = []) "complete state cannot contain deleted accounts"
  ensure ((diff.storageDiffs.map AccountStorageDiff.address).dedup.length
      = diff.newAccounts.length)
    "complete state must contain exactly one storage row per account"
  let encodedAccounts ← diff.newAccounts.mapM (encodedAccount trieRoot diff)
  pure (trieRoot encodedAccounts)

end Root

/-- How many accounts the changes of a diff have. Their keys are among those of the diff. -/
def HashedPostState.accountsLen (state : HashedPostState) (diff : BlockStorageDiff) : ℕ :=
  ((diff.newAccounts.map NewAccount.address ++ diff.deletedAccounts).dedup.filter fun address =>
    (state.accounts address).isSome).length

/-! ### What the diff says -/

section Allocation

variable {keccak256 : Bytes → B256} {genesis : Genesis} {stateRoot : B256}
  (haddress : Function.Injective (hashedAddress keccak256))
  (hslot : Function.Injective (hashedSlot keccak256))

/-! The lists of the diff are those of the allocation, in the order of the hashes. -/

lemma newAccounts_perm : (buildGenesisStorageDiff keccak256 genesis stateRoot).newAccounts.Perm
    (genesis.alloc.entries.map (genesisAccount keccak256)) :=
  List.perm_insertionSort _ _

/-- The accounts are those of the entries in some order. -/
lemma exists_newAccounts_eq : ∃ sorted : List ((_ : Address) × GenesisAccount),
    (buildGenesisStorageDiff keccak256 genesis stateRoot).newAccounts
      = sorted.map (genesisAccount keccak256) ∧ sorted.Perm genesis.alloc.entries := by
  refine ⟨genesis.alloc.entries.insertionSort fun a b =>
    hashedAddress keccak256 a.1 ≤ hashedAddress keccak256 b.1, ?_, List.perm_insertionSort _ _⟩
  exact (List.map_insertionSort _ _ (genesisAccount keccak256) _ fun _ _ _ _ => Iff.rfl).symm

lemma storageDiffs_perm : (buildGenesisStorageDiff keccak256 genesis stateRoot).storageDiffs.Perm
    (genesis.alloc.entries.map (genesisStorage keccak256)) :=
  List.perm_insertionSort _ _

lemma genesisStorage_perm (entry : (_ : Address) × GenesisAccount) :
    (genesisStorage keccak256 entry).diffs.Perm
      (entry.2.slots.entries.map (genesisSlot keccak256)) :=
  List.perm_insertionSort _ _

include haddress in
lemma nodup_genesisAccounts : ((genesis.alloc.entries.map (genesisAccount keccak256)).map
    NewAccount.address).Nodup :=
  Keyed.nodup_map haddress (fun _ => rfl) genesis.alloc.nodupKeys

include haddress in
lemma nodup_genesisStorages : ((genesis.alloc.entries.map (genesisStorage keccak256)).map
    AccountStorageDiff.address).Nodup :=
  Keyed.nodup_map haddress (fun _ => rfl) genesis.alloc.nodupKeys

include hslot in
lemma nodup_genesisSlots (account : GenesisAccount) :
    ((account.slots.entries.map (genesisSlot keccak256)).map IndexValuePair.index).Nodup :=
  Keyed.nodup_map hslot (fun _ => rfl) account.slots.nodupKeys

/-! Codes are kept once, under their hashes, and are those of accounts. -/

/-- The codes kept of some accounts. -/
structure KeptCodes (keccak256 : Bytes → B256) (entries : List ((_ : Address) × GenesisAccount))
    (codes : List NewCode) : Prop where
  nodup : (codes.map NewCode.codeHash).Nodup
  hash : ∀ code ∈ codes, keccak256 code.code = code.codeHash ∧
    code.codeHash ∈ entries.map fun entry => entry.2.codeHash keccak256

lemma KeptCodes.insertCode {entries : List ((_ : Address) × GenesisAccount)}
    {codes : List NewCode} (h : KeptCodes keccak256 entries codes)
    (entry : (_ : Address) × GenesisAccount) :
    KeptCodes keccak256 (entries ++ [entry]) (insertCode keccak256 codes entry) := by
  have hwider : ∀ code ∈ codes, keccak256 code.code = code.codeHash ∧
      code.codeHash ∈ (entries ++ [entry]).map fun entry => entry.2.codeHash keccak256 :=
    fun code hcode => ⟨(h.hash code hcode).1, by
      rw [List.map_append]
      exact List.mem_append_left _ (h.hash code hcode).2⟩
  rw [Debank.insertCode]
  split
  · exact ⟨h.nodup, hwider⟩
  · next code hcode =>
    split
    · exact ⟨h.nodup, hwider⟩
    · next hnew =>
      refine ⟨?_, fun kept hkept => ?_⟩
      · rw [List.map_append, List.map_singleton]
        refine List.nodup_append.mpr ⟨h.nodup, List.nodup_singleton _, fun a ha b hb heq => ?_⟩
        rw [heq, List.mem_singleton.mp hb] at ha
        exact hnew ha
      · rcases List.mem_append.mp hkept with hkept | hkept
        · exact hwider kept hkept
        · obtain rfl := List.mem_singleton.mp hkept
          refine ⟨rfl, ?_⟩
          rw [List.map_append, List.map_singleton]
          refine List.mem_append_right _ (List.mem_singleton.mpr ?_)
          rw [GenesisAccount.codeHash, hcode]

lemma KeptCodes.foldl {entries entries' : List ((_ : Address) × GenesisAccount)}
    {codes : List NewCode} (h : KeptCodes keccak256 entries codes) :
    KeptCodes keccak256 (entries ++ entries')
      (entries'.foldl (Debank.insertCode keccak256) codes) := by
  induction entries' generalizing entries codes with
  | nil => simpa using h
  | cons entry entries' ih =>
    have hrest := ih (h.insertCode entry)
    rwa [List.append_assoc, List.singleton_append] at hrest

lemma newCodes_kept : KeptCodes keccak256 genesis.alloc.entries
    (buildGenesisStorageDiff keccak256 genesis stateRoot).newCodes := by
  have hkept : KeptCodes keccak256 genesis.alloc.entries
      (genesis.alloc.entries.foldl (insertCode keccak256) []) :=
    @KeptCodes.foldl keccak256 [] genesis.alloc.entries [] ⟨List.nodup_nil, by simp⟩
  have hperm := List.perm_insertionSort (fun a b : NewCode => a.codeHash ≤ b.codeHash)
    (genesis.alloc.entries.foldl (insertCode keccak256) [])
  exact ⟨(hperm.map _).nodup_iff.mpr hkept.nodup, fun code hcode =>
    hkept.hash code (hperm.mem_iff.mp hcode)⟩

include haddress hslot

/-- The diff of an allocation is well formed. -/
lemma Genesis.wellFormed :
    (buildGenesisStorageDiff keccak256 genesis stateRoot).WellFormed keccak256 where
  newAccounts := (newAccounts_perm.map _).nodup_iff.mpr (nodup_genesisAccounts haddress)
  deletedAccounts := List.nodup_nil
  storageDiffs := (storageDiffs_perm.map _).nodup_iff.mpr (nodup_genesisStorages haddress)
  slots row hrow := by
    obtain ⟨entry, -, rfl⟩ := List.mem_map.mp (storageDiffs_perm.mem_iff.mp hrow)
    exact ((genesisStorage_perm entry).map _).nodup_iff.mpr (nodup_genesisSlots hslot entry.2)
  finalAccounts row hrow := by
    obtain ⟨entry, hentry, rfl⟩ := List.mem_map.mp (storageDiffs_perm.mem_iff.mp hrow)
    exact List.mem_map.mpr ⟨genesisAccount keccak256 entry,
      newAccounts_perm.mem_iff.mpr (List.mem_map_of_mem hentry), rfl⟩
  newCodes := newCodes_kept.nodup
  codes code hcode := by
    obtain ⟨hhash, hmem⟩ := newCodes_kept.hash code hcode
    obtain ⟨entry, hentry, heq⟩ := List.mem_map.mp hmem
    exact ⟨hhash, List.mem_map.mpr ⟨genesisAccount keccak256 entry,
      newAccounts_perm.mem_iff.mpr (List.mem_map_of_mem hentry), heq⟩⟩

omit hslot in
lemma lookup_genesisAccounts (address : Address) :
    Keyed.lookup NewAccount.address (hashedAddress keccak256 address)
        (buildGenesisStorageDiff keccak256 genesis stateRoot).newAccounts
      = (genesis.alloc.lookup address).map fun account =>
        genesisAccount keccak256 ⟨address, account⟩ := by
  have hkey : ∀ entry, (genesisAccount keccak256 entry).address
      = hashedAddress keccak256 entry.1 := fun _ => rfl
  rw [Keyed.lookup_perm (nodup_genesisAccounts haddress) newAccounts_perm,
    Keyed.lookup_map haddress hkey, lookup_entries, Option.map_map]
  rfl

omit hslot in
lemma lookup_genesisStorages (address : Address) :
    Keyed.lookup AccountStorageDiff.address (hashedAddress keccak256 address)
        (buildGenesisStorageDiff keccak256 genesis stateRoot).storageDiffs
      = (genesis.alloc.lookup address).map fun account =>
        genesisStorage keccak256 ⟨address, account⟩ := by
  have hkey : ∀ entry, (genesisStorage keccak256 entry).address
      = hashedAddress keccak256 entry.1 := fun _ => rfl
  rw [Keyed.lookup_perm (nodup_genesisStorages haddress) storageDiffs_perm,
    Keyed.lookup_map haddress hkey, lookup_entries, Option.map_map]
  rfl

omit haddress in
lemma slots_genesisStorage (entry : (_ : Address) × GenesisAccount) (slot : B256) :
    (genesisStorage keccak256 entry).slots (hashedSlot keccak256 slot)
      = entry.2.slots.lookup slot := by
  have hkey : ∀ slot, (genesisSlot keccak256 slot).index = hashedSlot keccak256 slot.1 :=
    fun _ => rfl
  rw [AccountStorageDiff.slots,
    Keyed.lookup_perm (nodup_genesisSlots hslot entry.2) (genesisStorage_perm entry),
    Keyed.lookup_map hslot hkey, lookup_entries, Option.map_map, Option.map_map]
  exact Option.map_id'

omit haddress hslot in
/-- Under a key that is no hash of a slot a row has nothing. -/
lemma slots_genesisStorage_of_not_slot (entry : (_ : Address) × GenesisAccount) {index : B256}
    (hindex : ∀ slot, hashedSlot keccak256 slot ≠ index) :
    (genesisStorage keccak256 entry).slots index = none := by
  rw [AccountStorageDiff.slots, Option.map_eq_none_iff, Keyed.lookup_eq_none_iff]
  intro pair hpair
  obtain ⟨slot, -, rfl⟩ := List.mem_map.mp ((genesisStorage_perm entry).mem_iff.mp hpair)
  exact hindex slot.1

omit haddress hslot in
/-- Under a key that is no hash of an address the diff has nothing. -/
lemma genesis_nothing_of_not_address {key : B256}
    (hkey : ∀ address, hashedAddress keccak256 address ≠ key) :
    Keyed.lookup NewAccount.address key
        (buildGenesisStorageDiff keccak256 genesis stateRoot).newAccounts = none ∧
      Keyed.lookup AccountStorageDiff.address key
        (buildGenesisStorageDiff keccak256 genesis stateRoot).storageDiffs = none := by
  refine ⟨Keyed.lookup_eq_none_iff.mpr fun account haccount => ?_,
    Keyed.lookup_eq_none_iff.mpr fun row hrow => ?_⟩
  · obtain ⟨entry, -, rfl⟩ := List.mem_map.mp (newAccounts_perm.mem_iff.mp haccount)
    exact hkey entry.1
  · obtain ⟨entry, -, rfl⟩ := List.mem_map.mp (storageDiffs_perm.mem_iff.mp hrow)
    exact hkey entry.1

end Allocation

/-- The state of an allocation. -/
def Genesis.world (keccak256 : Bytes → B256) (genesis : Genesis) : WorldState where
  account address := (genesis.alloc.lookup address).map fun account =>
    ⟨account.balance, account.nonce.getD 0, account.codeHash keccak256⟩
  storage address slot :=
    ((genesis.alloc.lookup address).bind fun account => account.slots.lookup slot).getD 0
  empty address h slot := by
    rw [Option.map_eq_none_iff.mp h]
    rfl

lemma Genesis.world_account (keccak256 : Bytes → B256) (genesis : Genesis) (address : Address) :
    (genesis.world keccak256).account address = (genesis.alloc.lookup address).map fun account =>
      ⟨account.balance, account.nonce.getD 0, account.codeHash keccak256⟩ := rfl

lemma Genesis.world_storage (keccak256 : Bytes → B256) (genesis : Genesis) (address : Address)
    (slot : U256) : (genesis.world keccak256).storage address slot
      = ((genesis.alloc.lookup address).bind fun account => account.slots.lookup slot).getD 0 :=
  rfl

/-- The state before the first block. -/
def HashedState.nothing : HashedState := ⟨fun _ => none, fun _ _ => 0⟩

section Effect

variable {keccak256 : Bytes → B256} {genesis : Genesis} {stateRoot : B256}
  (haddress : Function.Injective (hashedAddress keccak256))
  (hslot : Function.Injective (hashedSlot keccak256))

include haddress hslot

/-- The diff leads from nothing to the allocation. -/
lemma Genesis.applyTo_nothing :
    (buildGenesisStorageDiff keccak256 genesis stateRoot).applyTo .nothing
      = (genesis.world keccak256).hashed keccak256 := by
  refine WorldState.eq_hashed _ haddress hslot (fun address => ?_) (fun address slot => ?_)
    (fun address index hindex => ?_) fun key hkey => ?_
  · rw [BlockStorageDiff.applyTo, BlockStorageDiff.install]
    dsimp only
    rw [lookup_genesisAccounts haddress, Genesis.world_account]
    cases genesis.alloc.lookup address <;> rfl
  · rw [BlockStorageDiff.applyTo, BlockStorageDiff.install]
    dsimp only
    rw [lookup_genesisStorages haddress, Genesis.world_storage]
    cases genesis.alloc.lookup address with
    | none => rfl
    | some account =>
      exact congrArg (·.getD 0) (slots_genesisStorage hslot ⟨address, account⟩ slot)
  · rw [BlockStorageDiff.applyTo, BlockStorageDiff.install]
    dsimp only
    rw [lookup_genesisStorages haddress]
    cases genesis.alloc.lookup address with
    | none => rfl
    | some account =>
      exact congrArg (·.getD 0) (slots_genesisStorage_of_not_slot ⟨address, account⟩ hindex)
  · obtain ⟨haccount, hstorage⟩ := @genesis_nothing_of_not_address _ genesis stateRoot key hkey
    rw [BlockStorageDiff.applyTo, BlockStorageDiff.install]
    dsimp only
    rw [haccount, hstorage]
    exact ⟨rfl, fun _ => rfl⟩

end Effect

/-! ### The root of an allocation -/

section Trie

variable (keccak256 : Bytes → B256) (trieRoot : List (B256 × Bytes) → B256)

/-- The root depends on what the trie has, not on the order it is listed in. -/
def OrderFree : Prop :=
  ∀ l l' : List (B256 × Bytes), (l.map Prod.fst).Nodup → l.Perm l' → trieRoot l = trieRoot l'

/-- A slot in the trie of its account. -/
def slotEntry (slot : (_ : B256) × B256) : B256 × Bytes :=
  (hashedSlot keccak256 slot.1, u256Rlp.encode slot.2)

/-- An account of an allocation in the trie, over the trie of its slots. -/
def trieEntry (entry : (_ : Address) × GenesisAccount) : B256 × Bytes :=
  (hashedAddress keccak256 entry.1, trieAccountRlp.encode
    ⟨entry.2.nonce.getD 0, entry.2.balance,
      trieRoot (entry.2.slots.entries.map (slotEntry keccak256)), entry.2.codeHash keccak256⟩)

/-- The root of the allocation. -/
def Genesis.stateRoot (genesis : Genesis) : B256 :=
  trieRoot (genesis.alloc.entries.map (trieEntry keccak256 trieRoot))

variable {keccak256 trieRoot} {genesis : Genesis} {root : B256}
  (haddress : Function.Injective (hashedAddress keccak256))
  (hslot : Function.Injective (hashedSlot keccak256)) (htrie : OrderFree trieRoot)

include hslot htrie in
lemma trieRoot_genesisStorage (entry : (_ : Address) × GenesisAccount) :
    trieRoot ((genesisStorage keccak256 entry).diffs.map
        fun slot => (slot.index, u256Rlp.encode slot.value))
      = trieRoot (entry.2.slots.entries.map (slotEntry keccak256)) := by
  refine (htrie _ _ ?_ ?_).symm
  · exact Keyed.nodup_map hslot (fun _ => rfl) entry.2.slots.nodupKeys
  · have hperm := ((@genesisStorage_perm keccak256 entry).map
      fun slot => (slot.index, u256Rlp.encode slot.value)).symm
    rwa [List.map_map] at hperm

include haddress hslot htrie

lemma encodedAccount_genesis {entry : (_ : Address) × GenesisAccount}
    (hentry : entry ∈ genesis.alloc.entries) :
    encodedAccount trieRoot (buildGenesisStorageDiff keccak256 genesis root)
      (genesisAccount keccak256 entry) = .ok (trieEntry keccak256 trieRoot entry) := by
  have hkey : ∀ entry, (genesisStorage keccak256 entry).address
      = hashedAddress keccak256 entry.1 := fun _ => rfl
  have hrow : Keyed.lookup AccountStorageDiff.address (genesisAccount keccak256 entry).address
      (buildGenesisStorageDiff keccak256 genesis root).storageDiffs.reverse
      = some (genesisStorage keccak256 entry) := by
    change Keyed.lookup _ (hashedAddress keccak256 entry.1) _ = _
    rw [Keyed.lookup_perm (nodup_genesisStorages haddress)
        ((List.reverse_perm _).trans storageDiffs_perm), Keyed.lookup_map haddress hkey,
      (Keyed.lookup_eq_some_iff genesis.alloc.nodupKeys).mpr ⟨hentry, rfl⟩]
    rfl
  rw [encodedAccount, hrow]
  dsimp only
  rw [trieRoot_genesisStorage hslot htrie]
  rfl

/-- The diff of an allocation describes a whole state, with the root of the allocation. -/
lemma Genesis.completeStateRoot_eq :
    completeStateRoot trieRoot (buildGenesisStorageDiff keccak256 genesis root)
      = .ok (genesis.stateRoot keccak256 trieRoot) := by
  have hrows : ((buildGenesisStorageDiff keccak256 genesis root).storageDiffs.map
      AccountStorageDiff.address).dedup.length
      = (buildGenesisStorageDiff keccak256 genesis root).newAccounts.length := by
    rw [(Genesis.wellFormed haddress hslot).storageDiffs.dedup, List.length_map,
      storageDiffs_perm.length_eq, newAccounts_perm.length_eq, List.length_map, List.length_map]
  have hdeleted : (buildGenesisStorageDiff keccak256 genesis root).deletedAccounts = [] := rfl
  obtain ⟨sorted, hsorted, hperm⟩ := @exists_newAccounts_eq keccak256 genesis root
  rw [completeStateRoot, ensure_of hdeleted, ensure_of hrows, hsorted,
    mapM_map_of_ok fun entry hentry => encodedAccount_genesis haddress hslot htrie
      (hperm.mem_iff.mp hentry)]
  refine congrArg Except.ok (htrie _ _ ?_ (hperm.map _))
  exact Keyed.nodup_map haddress (fun _ => rfl)
    ((hperm.map Sigma.fst).nodup_iff.mpr genesis.alloc.nodupKeys)

omit htrie in
/-- Every account of the allocation is in the changes that are decoded, and nothing else. -/
lemma Genesis.accountsLen_eq :
    (buildGenesisStorageDiff keccak256 genesis root).postState.accountsLen
      (buildGenesisStorageDiff keccak256 genesis root) = genesis.alloc.entries.length := by
  have hwell := @Genesis.wellFormed keccak256 genesis root haddress hslot
  have hall : ∀ address ∈ (buildGenesisStorageDiff keccak256 genesis root).newAccounts.map
      NewAccount.address,
      ((buildGenesisStorageDiff keccak256 genesis root).postState.accounts address).isSome
        = true := by
    intro address hmem
    obtain ⟨account, haccount⟩ := Option.isSome_iff_exists.mp (isSome_postAccounts.mpr hmem)
    rw [BlockStorageDiff.postState, decodedState]
    dsimp only
    rw [haccount]
    rfl
  rw [HashedPostState.accountsLen]
  change ((_ ++ []).dedup.filter _).length = _
  rw [List.append_nil, hwell.newAccounts.dedup, List.filter_eq_self.mpr hall, List.length_map,
    newAccounts_perm.length_eq, List.length_map]

end Trie

end AlethiaReth.Debank
