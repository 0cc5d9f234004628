import AlethiaReth.Debank.Wire

/-!
What a state diff does to the state of the parent: applied under hashed keys, as consumers do it,
or written to the database, which has no deletion of a whole storage, it leads to the state the
replay bundle describes (`storageDiff_applies`).
-/

namespace AlethiaReth.Debank

open MachineInt Outcome ByteString

/-! ### States -/

/-- Accounts and their storage; where there is no account there is no storage. -/
structure WorldState where
  account : Address → Option AccountInfo
  storage : Address → U256 → U256
  empty : ∀ address, account address = none → ∀ slot, storage address slot = 0

/-- A state under hashed keys. -/
@[ext] structure HashedState where
  account : B256 → Option AccountInfo
  storage : B256 → B256 → U256

section Hashed

variable (keccak256 : Bytes → B256)

/-- A state under the hashes of its keys, with nothing under a key that is no hash. -/
noncomputable def WorldState.hashed (state : WorldState) : HashedState where
  account := Function.extend (hashedAddress keccak256) state.account fun _ => none
  storage := Function.extend (hashedAddress keccak256)
    (fun address => Function.extend (hashedSlot keccak256) (state.storage address) fun _ => 0)
    fun _ _ => 0

variable {keccak256} (state : WorldState) (haddress : Function.Injective (hashedAddress keccak256))
  (hslot : Function.Injective (hashedSlot keccak256))

include haddress

lemma WorldState.hashed_account (address : Address) :
    (state.hashed keccak256).account (hashedAddress keccak256 address)
      = state.account address := by
  rw [WorldState.hashed]
  dsimp only
  rw [haddress.extend_apply]

include hslot in
lemma WorldState.hashed_storage (address : Address) (slot : U256) :
    (state.hashed keccak256).storage (hashedAddress keccak256 address)
      (hashedSlot keccak256 slot) = state.storage address slot := by
  rw [WorldState.hashed]
  dsimp only
  rw [haddress.extend_apply, hslot.extend_apply]

lemma WorldState.hashed_storage_of_not_slot (address : Address) {index : B256}
    (hindex : ∀ slot, hashedSlot keccak256 slot ≠ index) :
    (state.hashed keccak256).storage (hashedAddress keccak256 address) index = 0 := by
  rw [WorldState.hashed]
  dsimp only
  rw [haddress.extend_apply, Function.extend_apply' _ _ _ (not_exists.mpr hindex)]

omit haddress in
lemma WorldState.hashed_of_not_address {key : B256}
    (hkey : ∀ address, hashedAddress keccak256 address ≠ key) :
    (state.hashed keccak256).account key = none ∧
      ∀ index, (state.hashed keccak256).storage key index = 0 := by
  rw [WorldState.hashed]
  dsimp only
  rw [Function.extend_apply' _ _ _ (not_exists.mpr hkey),
    Function.extend_apply' _ _ _ (not_exists.mpr hkey)]
  exact ⟨rfl, fun _ => rfl⟩

include hslot in
/-- A state is the hashed form of another if it agrees with it on hashes and has nothing
under any other key. -/
lemma WorldState.eq_hashed {hashed : HashedState}
    (haccount : ∀ address, hashed.account (hashedAddress keccak256 address)
      = state.account address)
    (hstorage : ∀ address slot, hashed.storage (hashedAddress keccak256 address)
      (hashedSlot keccak256 slot) = state.storage address slot)
    (hindex : ∀ address index, (∀ slot, hashedSlot keccak256 slot ≠ index) →
      hashed.storage (hashedAddress keccak256 address) index = 0)
    (hother : ∀ key, (∀ address, hashedAddress keccak256 address ≠ key) →
      hashed.account key = none ∧ ∀ index, hashed.storage key index = 0) :
    hashed = state.hashed keccak256 := by
  refine HashedState.ext (funext fun key => ?_) (funext fun key => funext fun index => ?_)
  · by_cases hkey : ∃ address, hashedAddress keccak256 address = key
    · obtain ⟨address, rfl⟩ := hkey
      rw [haccount, state.hashed_account haddress]
    · rw [(hother key (not_exists.mp hkey)).1,
        (state.hashed_of_not_address (not_exists.mp hkey)).1]
  · by_cases hkey : ∃ address, hashedAddress keccak256 address = key
    · obtain ⟨address, rfl⟩ := hkey
      by_cases hslotOf : ∃ slot, hashedSlot keccak256 slot = index
      · obtain ⟨slot, rfl⟩ := hslotOf
        rw [hstorage, state.hashed_storage haddress hslot]
      · rw [hindex address index (not_exists.mp hslotOf),
          state.hashed_storage_of_not_slot haddress address (not_exists.mp hslotOf)]
    · rw [(hother key (not_exists.mp hkey)).2,
        (state.hashed_of_not_address (not_exists.mp hkey)).2]

end Hashed

/-! ### The state a bundle describes -/

section Described

variable (bundle : BundleState) (parent : WorldState)

/-- The slot of an account that the block modified.  An account that is gone has no slots, one
that was destroyed those it has since. -/
def BundleAccount.finalSlot (account : BundleAccount) (parentValue : U256) (slot : U256) : U256 :=
  if account.info.isNone then 0
  else
    match account.storage.lookup slot with
    | some value => value.presentValue
    | none => if account.wasDestroyed then 0 else parentValue

/-- The accounts the block modified as the bundle has them, over the parent. -/
def BundleState.described : WorldState where
  account address :=
    match bundle.state.lookup address with
    | some account =>
      if account.status.isNotModified then parent.account address else account.info
    | none => parent.account address
  storage address slot :=
    match bundle.state.lookup address with
    | some account =>
      if account.status.isNotModified then parent.storage address slot
      else account.finalSlot (parent.storage address slot) slot
    | none => parent.storage address slot
  empty address h slot := by
    split at h
    · next account _ =>
      split at h
      · next hmodified =>
        simp only [hmodified, if_true]
        exact parent.empty address h slot
      · next hmodified =>
        simp [hmodified, BundleAccount.finalSlot, h]
    · exact parent.empty address h slot

/-- An account that was recorded over the parent: its originals are the parent's, and it is
gone at the end exactly if it ended destroyed.  What a destroyed account had in its slots
before is not recorded. -/
structure RecordedOver (address : Address) (account : BundleAccount) : Prop where
  originalInfo : account.originalInfo = parent.account address
  info_eq_none_iff : account.info = none ↔
    account.status = .destroyed ∨ account.status = .destroyedAgain
  original : account.wasDestroyed = false → ∀ slot value,
    account.storage.lookup slot = some value →
    value.previousOrOriginalValue = parent.storage address slot

/-- A replay bundle of a block on the parent. -/
def BundleState.ConsistentWith : Prop :=
  ∀ address account, bundle.state.lookup address = some account →
    account.status.isNotModified = false → RecordedOver parent address account

end Described

/-! ### Applying a diff -/

section Apply

variable (diff : BlockStorageDiff) (state : HashedState)

/-- The state without the deleted accounts. -/
def BlockStorageDiff.clear : HashedState where
  account address := if address ∈ diff.deletedAccounts then none else state.account address
  storage address index :=
    if address ∈ diff.deletedAccounts then 0 else state.storage address index

/-- The state with the accounts and slots of the diff. -/
def BlockStorageDiff.install : HashedState where
  account address :=
    match Keyed.lookup NewAccount.address address diff.newAccounts with
    | some account => some ⟨account.balance, account.nonce, account.codeHash⟩
    | none => state.account address
  storage address index :=
    ((Keyed.lookup AccountStorageDiff.address address diff.storageDiffs).bind
      fun row => row.slots index).getD (state.storage address index)

/-- The consumer's way: clear what is deleted, then install what is new. -/
def BlockStorageDiff.applyTo : HashedState := diff.install (diff.clear state)

end Apply

/-! ### The way of the database -/

section Database

variable (keccak256 : Bytes → B256)

/-- An account as the state has it. -/
def PostAccount.toInfo (account : PostAccount) : AccountInfo :=
  ⟨account.balance, account.nonce, account.bytecodeHash.getD (keccakEmpty keccak256)⟩

/-- Writes the changes of a post state. -/
def HashedPostState.applyTo (changes : HashedPostState) (state : HashedState) : HashedState where
  account address :=
    match changes.accounts address with
    | some account => account.map (PostAccount.toInfo keccak256)
    | none => state.account address
  storage address index :=
    ((changes.storages address).bind fun slots => slots index).getD (state.storage address index)

/-- Changes after others. -/
def HashedPostState.extend (changes other : HashedPostState) : HashedPostState where
  accounts address := (other.accounts address).or (changes.accounts address)
  storages address :=
    match changes.storages address, other.storages address with
    | some slots, some slots' => some fun index => (slots' index).or (slots index)
    | some slots, none => some slots
    | none, slots' => slots'

/-- An account that is destroyed, with nothing else recorded of it. -/
def BundleAccount.wiped : BundleAccount :=
  { info := none
    originalInfo := some ⟨0, 0, keccakEmpty keccak256⟩
    storage := ∅
    status := .destroyed }

/-- Marks the account of a hashed address as destroyed; only the bundle knows its address. -/
def insertWipe (bundle : BundleState) (wipes : AList fun _ : Address => BundleAccount)
    (hashed : B256) : Except StorageDiffError (AList fun _ : Address => BundleAccount) :=
  match bundle.state.entries.find? fun entry => hashedAddress keccak256 entry.1 = hashed with
  | none => .error (.missingPreimage hashed)
  | some entry => .ok (wipes.insert entry.1 (.wiped keccak256))

/-- The changes with the slots of destroyed accounts at zero. -/
def materializeStorageWipes (changes : HashedPostState) (diff : BlockStorageDiff)
    (bundle : BundleState) (hashedPostState : BundleState → Except String HashedPostState) :
    Except StorageDiffError HashedPostState :=
  if diff.deletedAccounts = [] then .ok changes
  else do
    let wipes ← diff.deletedAccounts.foldlM (insertWipe keccak256 bundle) ∅
    let materialized ← (hashedPostState ⟨wipes, fun _ => none⟩).mapError .provider
    pure (materialized.extend changes)

/-- The changes the database makes of destroyed accounts: they are gone, with a zero in every
slot that the parent has of them. -/
def destroyedState (parent : HashedState) (wipes : AList fun _ : Address => BundleAccount) :
    HashedPostState where
  accounts address :=
    if address ∈ wipes.keys.map (hashedAddress keccak256) then some none else none
  storages address :=
    if address ∈ wipes.keys.map (hashedAddress keccak256) then
      some fun index => if parent.storage address index = 0 then none else some 0
    else none

/-- What is needed of the database over a parent. -/
def ZeroesDestroyed (parent : HashedState)
    (hashedPostState : BundleState → Except String HashedPostState) : Prop :=
  ∀ wipes : BundleState, (∀ entry ∈ wipes.state.entries, entry.2 = .wiped keccak256) →
    hashedPostState wipes = .ok (destroyedState keccak256 parent wipes.state)

end Database

/-! ### The diff at one address -/

lemma lookup_entries {K V : Type} [DecidableEq K] (table : AList fun _ : K => V) (key : K) :
    Keyed.lookup Sigma.fst key table.entries = (table.lookup key).map (Sigma.mk key) := by
  refine Option.ext fun entry => ?_
  rw [Keyed.lookup_eq_some_iff table.nodupKeys, Option.map_eq_some_iff]
  constructor
  · rintro ⟨hmem, rfl⟩
    exact ⟨entry.2, AList.mem_lookup_iff.mpr hmem, rfl⟩
  · rintro ⟨value, hvalue, rfl⟩
    exact ⟨AList.mem_lookup_iff.mp hvalue, rfl⟩

section AtAddress

variable {keccak256 : Bytes → B256} {bundle : BundleState} {diff : BlockStorageDiff}
  (h : Emitted keccak256 bundle diff) (haddress : Function.Injective (hashedAddress keccak256))
  (hslot : Function.Injective (hashedSlot keccak256))

include h haddress

lemma Emitted.lookup_newAccounts (address : Address) :
    Keyed.lookup NewAccount.address (hashedAddress keccak256 address) diff.newAccounts
      = (bundle.state.lookup address).bind fun account =>
        accountOf keccak256 ⟨address, account⟩ := by
  have hkey : ∀ entry account, accountOf keccak256 entry = some account →
      account.address = hashedAddress keccak256 entry.1 := fun _ _ h => accountOf_eq_some h
  rw [Keyed.lookup_perm (Keyed.nodup_filterMap haddress hkey bundle.state.nodupKeys)
      h.newAccounts, Keyed.lookup_filterMap haddress hkey bundle.state.nodupKeys,
    lookup_entries, Option.bind_map]
  rfl

lemma Emitted.lookup_storageDiffs (address : Address) :
    Keyed.lookup AccountStorageDiff.address (hashedAddress keccak256 address) diff.storageDiffs
      = (bundle.state.lookup address).bind fun account =>
        storageOf keccak256 ⟨address, account⟩ := by
  have hkey : ∀ entry row, storageOf keccak256 entry = some row →
      row.address = hashedAddress keccak256 entry.1 := fun _ _ h => by
    rw [(storageOf_eq_some h).2.1]
  rw [Keyed.lookup_perm (Keyed.nodup_filterMap haddress hkey bundle.state.nodupKeys)
      h.storageDiffs, Keyed.lookup_filterMap haddress hkey bundle.state.nodupKeys,
    lookup_entries, Option.bind_map]
  rfl

lemma Emitted.mem_deletedAccounts (address : Address) :
    hashedAddress keccak256 address ∈ diff.deletedAccounts ↔
      ∃ account, bundle.state.lookup address = some account ∧ account.isSkipped = false ∧
        account.wasDestroyed = true := by
  rw [h.deletedAccounts.mem_iff, List.mem_filterMap]
  constructor
  · rintro ⟨⟨address', account⟩, hentry, hdeletion⟩
    obtain rfl := haddress (deletionOf_eq_some hdeletion)
    refine ⟨account, AList.mem_lookup_iff.mpr hentry, ?_⟩
    simpa [deletionOf, emittedDeletion] using hdeletion
  · rintro ⟨account, hlookup, hskip, hdestroyed⟩
    refine ⟨⟨address, account⟩, AList.mem_lookup_iff.mp hlookup, ?_⟩
    simp [deletionOf, emittedDeletion, hskip, hdestroyed]

omit haddress in
/-- Under a key that is no hash of an address the diff has nothing. -/
lemma Emitted.nothing_of_not_address {key : B256}
    (hkey : ∀ address, hashedAddress keccak256 address ≠ key) :
    Keyed.lookup NewAccount.address key diff.newAccounts = none ∧
      Keyed.lookup AccountStorageDiff.address key diff.storageDiffs = none ∧
      key ∉ diff.deletedAccounts := by
  refine ⟨Keyed.lookup_eq_none_iff.mpr fun account haccount => ?_,
    Keyed.lookup_eq_none_iff.mpr fun row hrow => ?_, fun hdeleted => ?_⟩
  · obtain ⟨entry, -, heq⟩ := List.mem_filterMap.mp (h.newAccounts.mem_iff.mp haccount)
    rw [accountOf_eq_some heq]
    exact hkey entry.1
  · obtain ⟨entry, -, heq⟩ := List.mem_filterMap.mp (h.storageDiffs.mem_iff.mp hrow)
    rw [(storageOf_eq_some heq).2.1]
    exact hkey entry.1
  · obtain ⟨entry, -, heq⟩ := List.mem_filterMap.mp (h.deletedAccounts.mem_iff.mp hdeleted)
    exact hkey entry.1 (deletionOf_eq_some heq).symm

omit h haddress in
include hslot in
/-- The slots of an account that is there, slot by slot. -/
lemma slots_emittedSlots {account : BundleAccount} {info : AccountInfo}
    (hinfo : account.info = some info) (address : B256) (slot : U256) :
    AccountStorageDiff.slots ⟨address, emittedSlots keccak256 account⟩
        (hashedSlot keccak256 slot)
      = (account.storage.lookup slot).bind fun value =>
        if account.emitsSlot value then some value.presentValue else none := by
  have hkey : ∀ entry pair, emittedSlot keccak256 account entry = some pair →
      pair.index = hashedSlot keccak256 entry.1 := fun _ _ h => emittedSlot_eq_some h
  rw [AccountStorageDiff.slots, emittedSlots, hinfo]
  dsimp only
  rw [Keyed.lookup_perm (Keyed.nodup_filterMap hslot hkey account.storage.nodupKeys)
      (List.perm_insertionSort ..),
    Keyed.lookup_filterMap hslot hkey account.storage.nodupKeys, lookup_entries, Option.bind_map]
  cases account.storage.lookup slot with
  | none => rfl
  | some value =>
    simp only [Option.bind_some, Function.comp_apply, emittedSlot]
    split <;> rfl

omit h haddress in
lemma slots_of_not_slot (account : BundleAccount) (address : B256) {index : B256}
    (hindex : ∀ slot, hashedSlot keccak256 slot ≠ index) :
    AccountStorageDiff.slots ⟨address, emittedSlots keccak256 account⟩ index = none := by
  rw [AccountStorageDiff.slots, Option.map_eq_none_iff, Keyed.lookup_eq_none_iff]
  intro pair hpair
  rw [emittedSlots] at hpair
  split at hpair
  · cases hpair
  · rw [List.mem_insertionSort] at hpair
    obtain ⟨entry, -, heq⟩ := List.mem_filterMap.mp hpair
    rw [emittedSlot_eq_some heq]
    exact hindex entry.1

omit h haddress in
/-- Where the diff has nothing the state stays as it is. -/
lemma applyTo_of_nothing {key : B256}
    (hnothing : Keyed.lookup NewAccount.address key diff.newAccounts = none ∧
      Keyed.lookup AccountStorageDiff.address key diff.storageDiffs = none ∧
      key ∉ diff.deletedAccounts) (state : HashedState) :
    (diff.applyTo state).account key = state.account key ∧
      ∀ index, (diff.applyTo state).storage key index = state.storage key index := by
  obtain ⟨haccount, hstorage, hdeleted⟩ := hnothing
  simp [BlockStorageDiff.applyTo, BlockStorageDiff.install, BlockStorageDiff.clear, haccount,
    hstorage, hdeleted]

/-- The diff has nothing of an account that is skipped or not in the bundle. -/
lemma Emitted.nothing_of_skipped {address : Address}
    (hskip : ∀ account, bundle.state.lookup address = some account →
      account.isSkipped = true) :
    Keyed.lookup NewAccount.address (hashedAddress keccak256 address) diff.newAccounts = none ∧
      Keyed.lookup AccountStorageDiff.address (hashedAddress keccak256 address)
        diff.storageDiffs = none ∧
      hashedAddress keccak256 address ∉ diff.deletedAccounts := by
  rw [h.lookup_newAccounts haddress, h.lookup_storageDiffs haddress,
    h.mem_deletedAccounts haddress]
  cases hlookup : bundle.state.lookup address with
  | none => exact ⟨rfl, rfl, fun ⟨_, h, _⟩ => nomatch h⟩
  | some account =>
    have hskipped := hskip account hlookup
    refine ⟨?_, ?_, ?_⟩
    · rw [Option.bind_some, accountOf, if_pos hskipped]
    · rw [Option.bind_some, storageOf, if_pos hskipped]
    · rintro ⟨account', heq, hnot, -⟩
      cases heq
      exact absurd hskipped (Bool.eq_false_iff.mp hnot)

section Modified

variable {address : Address} {account : BundleAccount}
  (hlookup : bundle.state.lookup address = some account) (hskip : account.isSkipped = false)
  (state : HashedState)

include hlookup hskip

lemma Emitted.mem_deletedAccounts_of_lookup :
    hashedAddress keccak256 address ∈ diff.deletedAccounts ↔ account.wasDestroyed = true := by
  rw [h.mem_deletedAccounts haddress, hlookup]
  constructor
  · rintro ⟨account', heq, -, hdestroyed⟩
    cases heq
    exact hdestroyed
  · exact fun hdestroyed => ⟨account, rfl, hskip, hdestroyed⟩

lemma Emitted.applyTo_account :
    (diff.applyTo state).account (hashedAddress keccak256 address)
      = match emittedAccount keccak256 address account with
        | some new => some ⟨new.balance, new.nonce, new.codeHash⟩
        | none =>
          if account.wasDestroyed then none
          else state.account (hashedAddress keccak256 address) := by
  simp only [BlockStorageDiff.applyTo, BlockStorageDiff.install, BlockStorageDiff.clear,
    h.lookup_newAccounts haddress, hlookup, Option.bind_some, accountOf, hskip,
    h.mem_deletedAccounts_of_lookup haddress hlookup hskip, Bool.false_eq_true, if_false]

lemma Emitted.applyTo_storage (index : B256) :
    (diff.applyTo state).storage (hashedAddress keccak256 address) index
      = (AccountStorageDiff.slots ⟨hashedAddress keccak256 address,
          emittedSlots keccak256 account⟩ index).getD
        (if account.wasDestroyed then 0
          else state.storage (hashedAddress keccak256 address) index) := by
  have hslots : ((storageOf keccak256 ⟨address, account⟩).bind fun row => row.slots index)
      = AccountStorageDiff.slots ⟨hashedAddress keccak256 address,
          emittedSlots keccak256 account⟩ index := by
    rw [storageOf, hskip, if_neg Bool.false_ne_true, emittedStorage]
    dsimp only
    split
    · rfl
    · next hcond =>
      -- no row is left out but an empty one
      have hempty : emittedSlots keccak256 account = [] := by
        simp only [Bool.or_eq_true, Bool.not_eq_true', not_or, Bool.not_eq_false] at hcond
        exact List.isEmpty_iff.mp hcond.1
      rw [hempty]
      rfl
  simp only [BlockStorageDiff.applyTo, BlockStorageDiff.install, BlockStorageDiff.clear,
    h.lookup_storageDiffs haddress, hlookup, Option.bind_some, hslots,
    h.mem_deletedAccounts_of_lookup haddress hlookup hskip]

end Modified

end AtAddress

/-! ### The diff of a consistent bundle -/

section Consistent

variable {keccak256 : Bytes → B256} {bundle : BundleState} {parent : WorldState} {address : Address}
  {account : BundleAccount}

lemma RecordedOver.wasDestroyed (h : RecordedOver parent address account)
    (hinfo : account.info = none) : account.wasDestroyed = true := by
  rw [BundleAccount.wasDestroyed]
  rcases h.info_eq_none_iff.mp hinfo with hstatus | hstatus
  · rw [hstatus]
    rfl
  · rw [hstatus]
    rfl

/-- The account after the diff is the one of the bundle: the one that is not in the diff is
the parent's still. -/
lemma RecordedOver.account_eq (h : RecordedOver parent address account) :
    (match emittedAccount keccak256 address account with
      | some new => some (⟨new.balance, new.nonce, new.codeHash⟩ : AccountInfo)
      | none => if account.wasDestroyed then none else parent.account address)
      = account.info := by
  cases hinfo : account.info with
  | none => simp [emittedAccount, hinfo, h.wasDestroyed hinfo]
  | some info =>
    rw [emittedAccount, hinfo, Option.bind_some]
    by_cases hemit : (account.infoChanged || account.wasDestroyed
        || !(emittedSlots keccak256 account).isEmpty) = true
    · rw [if_pos hemit]
    · rw [if_neg hemit]
      simp only [Bool.or_eq_true, not_or, Bool.not_eq_true] at hemit
      obtain ⟨⟨hchanged, hdestroyed⟩, -⟩ := hemit
      rw [BundleAccount.infoChanged, decide_eq_false_iff_not, not_not, hinfo] at hchanged
      simp [hdestroyed, hchanged, h.originalInfo]

/-- And so is each slot: a slot that is not in the diff is zero after a destruction, and else
the parent's. -/
lemma RecordedOver.storage_eq (h : RecordedOver parent address account)
    (hslot : Function.Injective (hashedSlot keccak256)) (key : B256) (slot : U256) :
    (AccountStorageDiff.slots ⟨key, emittedSlots keccak256 account⟩
        (hashedSlot keccak256 slot)).getD
      (if account.wasDestroyed then 0 else parent.storage address slot)
      = account.finalSlot (parent.storage address slot) slot := by
  cases hinfo : account.info with
  | none =>
    simp [emittedSlots, hinfo, AccountStorageDiff.slots, Keyed.lookup, h.wasDestroyed hinfo,
      BundleAccount.finalSlot]
  | some info =>
    rw [slots_emittedSlots hslot hinfo, BundleAccount.finalSlot, hinfo]
    cases hvalue : account.storage.lookup slot with
    | none => simp
    | some value =>
      rw [Option.bind_some]
      cases hemits : account.emitsSlot value with
      | true => simp
      | false =>
        cases hdestroyed : account.wasDestroyed with
        | true =>
          have hzero : value.presentValue = 0 := by
            simpa [BundleAccount.emitsSlot, hdestroyed] using hemits
          simp [hzero]
        | false =>
          have hsame : value.previousOrOriginalValue = value.presentValue := by
            simpa [BundleAccount.emitsSlot, hdestroyed, StorageSlot.isChanged]
              using hemits
          simp [← h.original hdestroyed slot value hvalue, hsame]

/-- A skipped account is described as the parent has it. -/
lemma described_of_skipped (hconsistent : bundle.ConsistentWith parent)
    (hskip : ∀ account, bundle.state.lookup address = some account →
      account.isSkipped = true) :
    (bundle.described parent).account address = parent.account address ∧
      ∀ slot, (bundle.described parent).storage address slot = parent.storage address slot := by
  cases hlookup : bundle.state.lookup address with
  | none => simp [BundleState.described, hlookup]
  | some account =>
    cases hmodified : account.status.isNotModified with
    | true => simp [BundleState.described, hlookup, hmodified]
    | false =>
      -- created and destroyed: neither the parent nor the block has it
      have hrecorded := hconsistent address account hlookup hmodified
      have hskipped := hskip account hlookup
      simp only [BundleAccount.isSkipped, hmodified, Bool.false_or, Bool.and_eq_true,
        Option.isNone_iff_eq_none] at hskipped
      obtain ⟨⟨-, horiginal⟩, hinfo⟩ := hskipped
      have hparent : parent.account address = none := by
        rw [← hrecorded.originalInfo, horiginal]
      simp [BundleState.described, hlookup, hmodified, hinfo, hparent,
        BundleAccount.finalSlot, parent.empty address hparent]

lemma skipped_or_recorded (hconsistent : bundle.ConsistentWith parent) (address : Address) :
    (∀ account, bundle.state.lookup address = some account → account.isSkipped = true) ∨
      ∃ account, bundle.state.lookup address = some account ∧ account.isSkipped = false ∧
        account.status.isNotModified = false ∧ RecordedOver parent address account := by
  cases hlookup : bundle.state.lookup address with
  | none => exact .inl fun _ h => nomatch h
  | some account =>
    cases hskip : account.isSkipped with
    | true =>
      refine .inl fun account' heq => ?_
      cases heq
      exact hskip
    | false =>
      have hmodified : account.status.isNotModified = false := by
        have hor := hskip
        rw [BundleAccount.isSkipped, Bool.or_eq_false_iff] at hor
        exact hor.1
      exact .inr ⟨account, rfl, hskip, hmodified,
        hconsistent address account hlookup hmodified⟩

/-- A diff leads from the parent to the state its bundle describes. -/
lemma Emitted.applyTo_hashed {diff : BlockStorageDiff} (h : Emitted keccak256 bundle diff)
    (haddress : Function.Injective (hashedAddress keccak256))
    (hslot : Function.Injective (hashedSlot keccak256))
    (hconsistent : bundle.ConsistentWith parent) :
    diff.applyTo (parent.hashed keccak256) = (bundle.described parent).hashed keccak256 := by
  have hsplit := skipped_or_recorded hconsistent
  refine (bundle.described parent).eq_hashed haddress hslot (fun address => ?_)
    (fun address slot => ?_) (fun address index hindex => ?_) fun key hkey => ?_
  · rcases hsplit address with hskip | ⟨account, hlookup, hskip, hmodified, hrecorded⟩
    · rw [(applyTo_of_nothing (h.nothing_of_skipped haddress hskip) _).1,
        parent.hashed_account haddress, (described_of_skipped hconsistent hskip).1]
    · rw [h.applyTo_account haddress hlookup hskip, parent.hashed_account haddress,
        hrecorded.account_eq]
      simp [BundleState.described, hlookup, hmodified]
  · rcases hsplit address with hskip | ⟨account, hlookup, hskip, hmodified, hrecorded⟩
    · rw [(applyTo_of_nothing (h.nothing_of_skipped haddress hskip) _).2,
        parent.hashed_storage haddress hslot, (described_of_skipped hconsistent hskip).2]
    · rw [h.applyTo_storage haddress hlookup hskip, parent.hashed_storage haddress hslot,
        hrecorded.storage_eq hslot]
      simp [BundleState.described, hlookup, hmodified]
  · rcases hsplit address with hskip | ⟨account, hlookup, hskip, -, -⟩
    · rw [(applyTo_of_nothing (h.nothing_of_skipped haddress hskip) _).2,
        parent.hashed_storage_of_not_slot haddress address hindex]
    · rw [h.applyTo_storage haddress hlookup hskip, slots_of_not_slot account _ hindex,
        parent.hashed_storage_of_not_slot haddress address hindex, Option.getD_none, ite_self]
  · obtain ⟨haccount, hstorage⟩ := applyTo_of_nothing (h.nothing_of_not_address hkey)
      (parent.hashed keccak256)
    obtain ⟨hnone, hzero⟩ := parent.hashed_of_not_address hkey
    exact ⟨haccount.trans hnone, fun index => (hstorage index).trans (hzero index)⟩

end Consistent

/-! ### Materialized wipes -/

section Wipes

variable {keccak256 : Bytes → B256} {bundle : BundleState} {diff : BlockStorageDiff}

/-- The wipes are of the accounts asked for, if the bundle knows the address of each. -/
lemma exists_wipes {deleted : List B256}
    (hknown : ∀ hashed ∈ deleted, ∃ entry ∈ bundle.state.entries,
      hashedAddress keccak256 entry.1 = hashed)
    {wipes : AList fun _ : Address => BundleAccount}
    (hwiped : ∀ entry ∈ wipes.entries, entry.2 = .wiped keccak256) :
    ∃ wipes', deleted.foldlM (insertWipe keccak256 bundle) wipes = .ok wipes' ∧
      (∀ entry ∈ wipes'.entries, entry.2 = .wiped keccak256) ∧
      ∀ key, key ∈ wipes'.keys.map (hashedAddress keccak256) ↔
        key ∈ deleted ∨ key ∈ wipes.keys.map (hashedAddress keccak256) := by
  induction deleted generalizing wipes with
  | nil => exact ⟨wipes, rfl, hwiped, by simp⟩
  | cons hashed deleted ih =>
    obtain ⟨hhead, htail⟩ := List.forall_mem_cons.mp hknown
    obtain ⟨entry, hfind⟩ : ∃ entry, (bundle.state.entries.find? fun entry =>
        hashedAddress keccak256 entry.1 = hashed) = some entry := by
      rw [← Option.isSome_iff_exists, List.find?_isSome]
      simpa using hhead
    have hentry : hashedAddress keccak256 entry.1 = hashed := by
      simpa using List.find?_some hfind
    have hstep : insertWipe keccak256 bundle wipes hashed
        = .ok (wipes.insert entry.1 (.wiped keccak256)) := by
      rw [insertWipe, hfind]
    have hinserted : ∀ e ∈ (wipes.insert entry.1 (.wiped keccak256)).entries,
        e.2 = .wiped keccak256 := by
      rw [AList.entries_insert]
      refine List.forall_mem_cons.mpr ⟨rfl, fun e he => hwiped e ?_⟩
      exact (List.kerase_sublist ..).subset he
    obtain ⟨wipes', hfold, hall, hkeys⟩ := ih htail hinserted
    refine ⟨wipes', ?_, hall, fun key => ?_⟩
    · rw [List.foldlM_cons, hstep]
      exact hfold
    · have hmem : ∀ address, address ∈ (wipes.insert entry.1 (.wiped keccak256)).keys ↔
          address = entry.1 ∨ address ∈ wipes.keys := fun address => by
        rw [← AList.mem_keys, AList.mem_insert, AList.mem_keys]
      rw [hkeys, List.mem_cons, List.mem_map, List.mem_map]
      simp only [hmem, or_and_right, exists_or, exists_eq_left, hentry]
      rw [eq_comm, or_left_comm, or_assoc]

lemma postDeleted_eq (key : B256) :
    diff.postDeleted key = if key ∈ diff.deletedAccounts then some () else none := by
  rw [BlockStorageDiff.postDeleted]
  split
  · next hmem =>
    cases hlookup : Keyed.lookup id key diff.deletedAccounts with
    | none => exact absurd rfl (Keyed.lookup_eq_none_iff.mp hlookup key hmem)
    | some => rfl
  · next hmem =>
    have hnone : Keyed.lookup id key diff.deletedAccounts = none :=
      Keyed.lookup_eq_none_iff.mpr fun x hx heq => hmem (heq ▸ hx)
    rw [hnone]
    rfl

/-- Over zeroes for all that is deleted the changes of a diff come to what the consumer
does. -/
lemma applyTo_extend {state : HashedState} {zeroes : HashedPostState}
    (haccounts : ∀ key, zeroes.accounts key
      = if key ∈ diff.deletedAccounts then some none else none)
    (hstorages : ∀ key, zeroes.storages key = if key ∈ diff.deletedAccounts then
      some fun index => if state.storage key index = 0 then none else some 0 else none) :
    (zeroes.extend diff.postState).applyTo keccak256 state = diff.applyTo state := by
  refine HashedState.ext (funext fun key => ?_) (funext fun key => funext fun index => ?_)
  · simp only [HashedPostState.applyTo, HashedPostState.extend, BlockStorageDiff.postState,
      decodedState, BlockStorageDiff.applyTo, BlockStorageDiff.install, BlockStorageDiff.clear,
      BlockStorageDiff.postAccounts, haccounts, postDeleted_eq]
    cases Keyed.lookup NewAccount.address key diff.newAccounts with
    | none => by_cases hdeleted : key ∈ diff.deletedAccounts <;> simp [hdeleted]
    | some account => rfl
  · simp only [HashedPostState.applyTo, HashedPostState.extend, BlockStorageDiff.postState,
      decodedState, BlockStorageDiff.applyTo, BlockStorageDiff.install, BlockStorageDiff.clear,
      BlockStorageDiff.postStorages, hstorages, postDeleted_eq]
    by_cases hdeleted : key ∈ diff.deletedAccounts
    · have hzeroed : (if state.storage key index = 0 then none else some (0 : U256)).getD
          (state.storage key index) = 0 := by
        split
        · next hzero => exact hzero
        · rfl
      simp only [hdeleted, if_true]
      cases Keyed.lookup AccountStorageDiff.address key diff.storageDiffs with
      | none => exact hzeroed
      | some row =>
        cases hvalue : row.slots index with
        | none => simpa [hvalue] using hzeroed
        | some value => simp [hvalue]
    · simp only [hdeleted, if_false]
      cases Keyed.lookup AccountStorageDiff.address key diff.storageDiffs with
      | none => rfl
      | some row => rfl

lemma HashedPostState.empty_extend (changes : HashedPostState) :
    HashedPostState.empty.extend changes = changes := by
  cases changes
  simp [HashedPostState.extend, HashedPostState.empty]

/-- The changes the database writes come to what the consumer does. -/
lemma Emitted.exists_materialized (h : Emitted keccak256 bundle diff) {state : HashedState}
    {hashedPostState : BundleState → Except String HashedPostState}
    (hprovider : ZeroesDestroyed keccak256 state hashedPostState) :
    ∃ changes, materializeStorageWipes keccak256 diff.postState diff bundle hashedPostState
        = .ok changes ∧ changes.applyTo keccak256 state = diff.applyTo state := by
  by_cases hnil : diff.deletedAccounts = []
  · refine ⟨diff.postState, if_pos hnil, ?_⟩
    rw [← diff.postState.empty_extend]
    exact applyTo_extend (by simp [hnil, HashedPostState.empty])
      (by simp [hnil, HashedPostState.empty])
  · have hknown : ∀ hashed ∈ diff.deletedAccounts, ∃ entry ∈ bundle.state.entries,
        hashedAddress keccak256 entry.1 = hashed := by
      intro hashed hmem
      obtain ⟨entry, hentry, heq⟩ := List.mem_filterMap.mp (h.deletedAccounts.mem_iff.mp hmem)
      exact ⟨entry, hentry, (deletionOf_eq_some heq).symm⟩
    obtain ⟨wipes, hfold, hall, hkeys⟩ := @exists_wipes keccak256 bundle _ hknown ∅ (by simp)
    refine ⟨(destroyedState keccak256 state wipes).extend diff.postState, ?_, ?_⟩
    · rw [materializeStorageWipes, if_neg hnil, hfold]
      dsimp only [bind, Except.bind]
      rw [hprovider ⟨wipes, fun _ => none⟩ hall]
      rfl
    · have hmem : ∀ key, key ∈ wipes.keys.map (hashedAddress keccak256) ↔
          key ∈ diff.deletedAccounts := fun key => by
        rw [hkeys]
        simp
      refine applyTo_extend (fun key => ?_) fun key => ?_
      · simp only [destroyedState, hmem]
      · simp only [destroyedState, hmem]

end Wipes

/-- Assuming that keccak does not collide on addresses and slots and that the wire format
round-trips: a diff that is built leads from the parent to the state its bundle describes, by
clearing and installing, and by the changes that decoding it and materializing its wipes
give. -/
theorem storageDiff_applies (keccak256 : Bytes → B256)
    (haddress : Function.Injective (hashedAddress keccak256))
    (hslot : Function.Injective (hashedSlot keccak256)) (rlp : Rlp) (parent : WorldState)
    (bundle : BundleState) (hconsistent : bundle.ConsistentWith parent)
    (hashedPostState : BundleState → Except String HashedPostState)
    (hprovider : ZeroesDestroyed keccak256 (parent.hashed keccak256) hashedPostState)
    (hash parentHash : B256) (diff : BlockStorageDiff)
    (h : buildStorageDiff keccak256 bundle hash parentHash = .ok diff)
    (hrlp : rlp.decode (rlp.encode diff) = .ok (diff, [])) :
    diff.applyTo (parent.hashed keccak256) = (bundle.described parent).hashed keccak256 ∧
      ∃ decoded changes,
        decodeStorageDiffExact keccak256 rlp (rlp.encode diff) = .ok (diff, decoded) ∧
        materializeStorageWipes keccak256 decoded diff bundle hashedPostState = .ok changes ∧
        changes.applyTo keccak256 (parent.hashed keccak256)
          = (bundle.described parent).hashed keccak256 := by
  have hemitted := buildStorageDiff_emitted h
  have happlied := hemitted.applyTo_hashed haddress hslot hconsistent
  obtain ⟨changes, hchanges, heq⟩ := hemitted.exists_materialized hprovider
  exact ⟨happlied, diff.postState, changes, decodeStorageDiffExact_of_wellFormed hrlp
    (hemitted.wellFormed haddress hslot), hchanges, heq.trans happlied⟩

/-- The parent of the bundle above: account 5 has a slot that the block wipes. -/
def recreatedParent : WorldState where
  account address :=
    if address = 5 then some ⟨3, 7, 0⟩ else if address = 4 then some ⟨1, 1, 0⟩ else none
  storage address slot :=
    if address = 5 ∧ slot = 1 then 6 else if address = 4 ∧ slot = 3 then 8 else 0
  empty := by
    intro address h slot
    by_cases hfive : address = 5
    · simp [hfive] at h
    · by_cases hfour : address = 4
      · simp [hfour] at h
      · rw [if_neg fun h => hfive h.1, if_neg fun h => hfour h.1]

lemma recreatedBundle_consistent : recreatedBundle.ConsistentWith recreatedParent := by
  intro address account hlookup _
  have hmem : (⟨address, account⟩ : (_ : Address) × BundleAccount)
      ∈ recreatedBundle.state.entries := AList.mem_lookup_iff.mp hlookup
  rcases List.mem_cons.mp hmem with heq | hmem
  · cases heq
    exact ⟨rfl, by decide, fun hdestroyed => nomatch hdestroyed⟩
  · rcases List.mem_cons.mp hmem with heq | hmem
    · cases heq
      refine ⟨rfl, by decide, fun _ slot value hvalue => ?_⟩
      have hslot : (⟨slot, value⟩ : (_ : U256) × StorageSlot) ∈ [⟨3, ⟨8, 0⟩⟩] :=
        AList.mem_lookup_iff.mp hvalue
      cases List.mem_singleton.mp hslot
      rfl
    · cases hmem

/-- The diff of that bundle wipes the slot of the parent, also by the changes it decodes
to. -/
theorem storageDiff_applies_recreated :
    ∃ decoded changes,
      decodeStorageDiffExact numberHash storageDiffRlp (storageDiffRlp.encode recreatedDiff)
        = .ok (recreatedDiff, decoded) ∧
      materializeStorageWipes numberHash decoded recreatedDiff recreatedBundle
        (fun wipes => .ok (destroyedState numberHash (recreatedParent.hashed numberHash)
          wipes.state)) = .ok changes ∧
      (changes.applyTo numberHash (recreatedParent.hashed numberHash)).storage
        (hashedAddress numberHash 5) (hashedSlot numberHash 1) = 0 := by
  obtain ⟨-, decoded, changes, hdecoded, hchanges, happlied⟩ := storageDiff_applies numberHash
    hashedAddress_numberHash hashedSlot_numberHash storageDiffRlp recreatedParent
    recreatedBundle recreatedBundle_consistent _ (fun _ _ => rfl) 1 0 recreatedDiff
    buildStorageDiff_recreated decode_encode_recreated
  refine ⟨decoded, changes, hdecoded, hchanges, ?_⟩
  rw [happlied, WorldState.hashed_storage _ hashedAddress_numberHash hashedSlot_numberHash]
  rfl

end AlethiaReth.Debank
