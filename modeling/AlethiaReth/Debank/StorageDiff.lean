import Mathlib.Data.List.AList
import AlethiaReth.Lib.Keyed
import AlethiaReth.Lib.Outcome
import AlethiaReth.Primitives

/-!
The state diff of a block: what a replay changed, under hashed keys, as it is shipped.
-/

namespace AlethiaReth.Debank

open MachineInt Outcome ByteString

/-! ### Replay bundles -/

/-- An account as state has it; its storage apart. -/
structure AccountInfo where
  balance : U256
  nonce : U64
  codeHash : B256
  deriving DecidableEq, Repr

/-- What happened to an account of a bundle. -/
inductive AccountStatus where
  | loadedNotExisting
  | loaded
  | loadedEmptyEip161
  | inMemoryChange
  | changed
  | destroyed
  | destroyedChanged
  | destroyedAgain
  deriving DecidableEq, Repr

/-- It was read only. -/
def AccountStatus.isNotModified : AccountStatus → Bool
  | .loadedNotExisting | .loaded | .loadedEmptyEip161 => true
  | _ => false

/-- It was destroyed, and maybe created again. -/
def AccountStatus.wasDestroyed : AccountStatus → Bool
  | .destroyed | .destroyedChanged | .destroyedAgain => true
  | _ => false

/-- A slot before the block and after it. -/
structure StorageSlot where
  previousOrOriginalValue : U256
  presentValue : U256
  deriving DecidableEq, Repr

/-- The two values differ. -/
def StorageSlot.isChanged (slot : StorageSlot) : Bool :=
  slot.previousOrOriginalValue ≠ slot.presentValue

/-- An account after the block, and before it. -/
structure BundleAccount where
  info : Option AccountInfo
  originalInfo : Option AccountInfo
  storage : AList fun _ : U256 => StorageSlot
  status : AccountStatus

/-- The account was destroyed. -/
def BundleAccount.wasDestroyed (account : BundleAccount) : Bool := account.status.wasDestroyed

/-- The accounts and codes that a block touched. -/
structure BundleState where
  state : AList fun _ : Address => BundleAccount
  contracts : B256 → Option Bytes

/-! ### Diffs -/

/-- An account in the diff. -/
structure NewAccount where
  address : B256
  balance : U256
  nonce : U64
  codeHash : B256
  deriving DecidableEq, Repr

/-- A slot in the diff. -/
structure IndexValuePair where
  index : B256
  value : U256
  deriving DecidableEq, Repr

/-- The slots of one account. -/
structure AccountStorageDiff where
  address : B256
  diffs : List IndexValuePair
  deriving DecidableEq, Repr

/-- A code in the diff. -/
structure NewCode where
  codeHash : B256
  code : Bytes
  deriving DecidableEq, Repr

/-- The diff of a block. -/
structure BlockStorageDiff where
  hash : B256
  parentHash : B256
  newAccounts : List NewAccount
  deletedAccounts : List B256
  storageDiffs : List AccountStorageDiff
  newCodes : List NewCode
  deriving DecidableEq, Repr

/-- Why a diff is not built or not accepted. -/
inductive StorageDiffError where
  | missingBytecode (codeHash : B256)
  | bytecodeHash (codeHash : B256)
  | rlp (message : String)
  | trailingBytes (count : ℕ)
  | duplicateAccount (address : B256)
  | duplicateDeletedAccount (address : B256)
  | missingFinalAccount (address : B256)
  | duplicateStorageSlot (address index : B256)
  | duplicateStorageAccount (address : B256)
  | duplicateCode (codeHash : B256)
  | orphanCode (codeHash : B256)
  | differs
  | missingPreimage (hashed : B256)
  | provider (message : String)
  deriving DecidableEq, Repr

section Build

variable (keccak256 : Bytes → B256)

/-- The key of an account. -/
def hashedAddress (address : Address) : B256 := keccak256 (beBytes 20 address)

/-- The key of a slot. -/
def hashedSlot (slot : U256) : B256 := keccak256 (beBytes 32 slot)

/-- The hash of no code. -/
def keccakEmpty : B256 := keccak256 []

section Account

variable (address : Address) (account : BundleAccount)

/-- Accounts the diff has nothing of: unmodified ones, and those that neither the parent nor
the block has, created and destroyed in between. -/
def BundleAccount.isSkipped : Bool :=
  account.status.isNotModified ||
    account.wasDestroyed && account.originalInfo.isNone && account.info.isNone

/-- A slot of an account that is there at the end: all of them after a destruction, and else
those that changed. -/
def BundleAccount.emitsSlot (slot : StorageSlot) : Bool :=
  if account.wasDestroyed then slot.presentValue ≠ 0 else slot.isChanged

/-- The entry of a slot, if it has one. -/
def emittedSlot (slot : (_ : U256) × StorageSlot) : Option IndexValuePair :=
  if account.emitsSlot slot.2 then some ⟨hashedSlot keccak256 slot.1, slot.2.presentValue⟩
  else none

/-- The slots of an account that exists, sorted. -/
def emittedSlots : List IndexValuePair :=
  match account.info with
  | none => []
  | some _ =>
    (account.storage.entries.filterMap (emittedSlot keccak256 account)).insertionSort
      fun a b => a.index ≤ b.index

/-- Nonce, balance or code hash changed. -/
def BundleAccount.infoChanged : Bool := account.info ≠ account.originalInfo

/-- The entry of an account, if it has one. -/
def emittedAccount : Option NewAccount :=
  account.info.bind fun info =>
    if account.infoChanged || account.wasDestroyed
        || !(emittedSlots keccak256 account).isEmpty then
      some ⟨hashedAddress keccak256 address, info.balance, info.nonce, info.codeHash⟩
    else none

/-- The parent has the account with the code it ends with. -/
def BundleAccount.parentProvesCode (info : AccountInfo) : Bool :=
  !account.wasDestroyed && account.originalInfo.any fun parent => parent.codeHash = info.codeHash

/-- A code that the parent may not have. -/
def requiredCode : Option B256 :=
  account.info.bind fun info =>
    if info.codeHash ≠ keccakEmpty keccak256 ∧ ¬ account.parentProvesCode info then
      some info.codeHash
    else none

/-- The entry of a destroyed account. -/
def emittedDeletion : Option B256 :=
  if account.wasDestroyed then some (hashedAddress keccak256 address) else none

/-- The row of an account that was destroyed and is there again may be empty. -/
def emittedStorage : Option AccountStorageDiff :=
  let slots := emittedSlots keccak256 account
  if !slots.isEmpty || account.wasDestroyed && account.info.isSome then
    some ⟨hashedAddress keccak256 address, slots⟩
  else none

end Account

/-- The four lists the loop over the accounts fills. -/
structure DiffParts where
  accounts : List NewAccount
  deleted : List B256
  storageDiffs : List AccountStorageDiff
  requiredCodes : List B256

/-- One account of the bundle. -/
def DiffParts.push (parts : DiffParts) (entry : (_ : Address) × BundleAccount) : DiffParts :=
  if entry.2.isSkipped then parts
  else
    { accounts := parts.accounts ++ (emittedAccount keccak256 entry.1 entry.2).toList
      deleted := parts.deleted ++ (emittedDeletion keccak256 entry.1 entry.2).toList
      storageDiffs := parts.storageDiffs ++ (emittedStorage keccak256 entry.1 entry.2).toList
      requiredCodes := parts.requiredCodes ++ (requiredCode keccak256 entry.2).toList }

/-- The code of a hash, checked against it. -/
def newCode (contracts : B256 → Option Bytes) (codeHash : B256) :
    Except StorageDiffError NewCode :=
  match contracts codeHash with
  | none => .error (.missingBytecode codeHash)
  | some code =>
    if keccak256 code ≠ codeHash then .error (.bytecodeHash codeHash) else .ok ⟨codeHash, code⟩

/-- The diff of a bundle. -/
def buildStorageDiff (bundle : BundleState) (hash parentHash : B256) :
    Except StorageDiffError BlockStorageDiff := do
  let parts := bundle.state.entries.foldl (DiffParts.push keccak256) ⟨[], [], [], []⟩
  let requiredCodes := parts.requiredCodes.dedup.insertionSort fun a b => a ≤ b
  let newCodes ← requiredCodes.mapM (newCode keccak256 bundle.contracts)
  pure
    { hash
      parentHash
      newAccounts := parts.accounts.insertionSort fun a b => a.address ≤ b.address
      deletedAccounts := parts.deleted.insertionSort fun a b => a ≤ b
      storageDiffs := parts.storageDiffs.insertionSort fun a b => a.address ≤ b.address
      newCodes }

end Build

/-! ### Decoding -/

/-- An account of a hashed post state. -/
structure PostAccount where
  balance : U256
  nonce : U64
  bytecodeHash : Option B256
  deriving DecidableEq, Repr

/-- Changes of a state under hashed keys: accounts, gone or not, and slots. -/
structure HashedPostState where
  accounts : B256 → Option (Option PostAccount)
  storages : B256 → Option (B256 → Option U256)

/-- No changes. -/
def HashedPostState.empty : HashedPostState := ⟨fun _ => none, fun _ => none⟩

/-- The wire format; a decoder answers what it read and what it left. -/
structure Rlp where
  encode : BlockStorageDiff → Bytes
  decode : Bytes → Except String (BlockStorageDiff × Bytes)

/-- Adds an entry under a key the map does not have. -/
def insertNew {K V : Type} [DecidableEq K] (map : K → Option V) (key : K) (value : V)
    (refuse : StorageDiffError) : Except StorageDiffError (K → Option V) :=
  if (map key).isSome then .error refuse else .ok (Function.update map key (some value))

section Decode

variable (keccak256 : Bytes → B256) (newAccounts : List NewAccount)
  (accounts : B256 → Option PostAccount)

/-- The accounts by address, each once. -/
def collectAccounts :
    Except StorageDiffError (B256 → Option PostAccount) :=
  newAccounts.foldlM (fun accounts account =>
    insertNew accounts account.address ⟨account.balance, account.nonce, some account.codeHash⟩
      (.duplicateAccount account.address)) fun _ => none

/-- The deleted addresses, each once. -/
def collectDeleted (deletedAccounts : List B256) :
    Except StorageDiffError (B256 → Option Unit) :=
  deletedAccounts.foldlM (fun deleted address =>
    insertNew deleted address () (.duplicateDeletedAccount address)) fun _ => none

/-- The slots of an account, each once. -/
def collectSlots (storage : AccountStorageDiff) :
    Except StorageDiffError (B256 → Option U256) :=
  storage.diffs.foldlM (fun slots slot =>
    insertNew slots slot.index slot.value (.duplicateStorageSlot storage.address slot.index))
    fun _ => none

/-- The storages of accounts that remain, each once. -/
def collectStorages (storageDiffs : List AccountStorageDiff) :
    Except StorageDiffError (B256 → Option (B256 → Option U256)) :=
  storageDiffs.foldlM (fun storages storage => do
    ensure ((accounts storage.address).isSome) (.missingFinalAccount storage.address)
    let slots ← collectSlots storage
    insertNew storages storage.address slots (.duplicateStorageAccount storage.address))
    fun _ => none

/-- The codes, each with its hash and of some account of the diff. -/
def collectCodes (newCodes : List NewCode) :
    Except StorageDiffError (B256 → Option Unit) :=
  newCodes.foldlM (fun codes code => do
    ensure (keccak256 code.code = code.codeHash) (.bytecodeHash code.codeHash)
    let codes ← insertNew codes code.codeHash () (.duplicateCode code.codeHash)
    ensure (code.codeHash ∈ newAccounts.map NewAccount.codeHash) (.orphanCode code.codeHash)
    pure codes) fun _ => none

/-- The changes of a diff.  A deleted account that is not new is gone; its row of slots is
there either way. -/
def decodedState (deleted : B256 → Option Unit) (storages : B256 → Option (B256 → Option U256)) :
    HashedPostState where
  accounts address := ((accounts address).map some).or ((deleted address).map fun _ => none)
  storages address := (storages address).or ((deleted address).map fun _ _ => none)

/-- Decodes a diff that is all of the input. -/
def decodeStorageDiffExact (rlp : Rlp) (encoded : Bytes) :
    Except StorageDiffError (BlockStorageDiff × HashedPostState) :=
  match rlp.decode encoded with
  | .error message => .error (.rlp message)
  | .ok (diff, input) => do
    ensure (input = []) (.trailingBytes input.length)
    let accounts ← collectAccounts diff.newAccounts
    let deleted ← collectDeleted diff.deletedAccounts
    let storages ← collectStorages accounts diff.storageDiffs
    let _ ← collectCodes keccak256 diff.newAccounts diff.newCodes
    pure (diff, decodedState accounts deleted storages)

/-- Decodes a diff that must be the expected one. -/
def decodeAndValidateStorageDiffExact (rlp : Rlp) (encoded : Bytes)
    (expected : BlockStorageDiff) : Except StorageDiffError HashedPostState := do
  let (decoded, state) ← decodeStorageDiffExact keccak256 rlp encoded
  ensure (decoded = expected) .differs
  pure state

end Decode

/-! ### What a diff has in it -/

section Emitted

variable (keccak256 : Bytes → B256) {row : AccountStorageDiff}

/-- What the loop makes of an entry, each part of it. -/
def accountOf (entry : (_ : Address) × BundleAccount) : Option NewAccount :=
  if entry.2.isSkipped then none else emittedAccount keccak256 entry.1 entry.2

/-- The deletion of an entry of the bundle. -/
def deletionOf (entry : (_ : Address) × BundleAccount) : Option B256 :=
  if entry.2.isSkipped then none else emittedDeletion keccak256 entry.1 entry.2

/-- The storage of an entry of the bundle. -/
def storageOf (entry : (_ : Address) × BundleAccount) : Option AccountStorageDiff :=
  if entry.2.isSkipped then none else emittedStorage keccak256 entry.1 entry.2

/-- The code of an entry of the bundle. -/
def codeOf (entry : (_ : Address) × BundleAccount) : Option B256 :=
  if entry.2.isSkipped then none else requiredCode keccak256 entry.2

lemma foldl_push (entries : List ((_ : Address) × BundleAccount)) (parts : DiffParts) :
    entries.foldl (DiffParts.push keccak256) parts =
      { accounts := parts.accounts ++ entries.filterMap (accountOf keccak256)
        deleted := parts.deleted ++ entries.filterMap (deletionOf keccak256)
        storageDiffs := parts.storageDiffs ++ entries.filterMap (storageOf keccak256)
        requiredCodes := parts.requiredCodes ++ entries.filterMap (codeOf keccak256) } := by
  induction entries generalizing parts with
  | nil => simp
  | cons entry entries ih =>
    rw [List.foldl_cons, ih, DiffParts.push]
    by_cases hskip : entry.2.isSkipped
    · simp [hskip, accountOf, deletionOf, storageOf, codeOf]
    · simp only [hskip, accountOf, deletionOf, storageOf, codeOf, List.filterMap_cons,
        Bool.false_eq_true, if_false, List.append_assoc]
      congr 1
      · cases emittedAccount keccak256 entry.1 entry.2 <;> rfl
      · cases emittedDeletion keccak256 entry.1 entry.2 <;> rfl
      · cases emittedStorage keccak256 entry.1 entry.2 <;> rfl
      · cases requiredCode keccak256 entry.2 <;> rfl

/-- The lists of a diff, up to their order, and its codes. -/
structure Emitted (bundle : BundleState) (diff : BlockStorageDiff) : Prop where
  newAccounts : diff.newAccounts.Perm (bundle.state.entries.filterMap (accountOf keccak256))
  deletedAccounts :
    diff.deletedAccounts.Perm (bundle.state.entries.filterMap (deletionOf keccak256))
  storageDiffs : diff.storageDiffs.Perm (bundle.state.entries.filterMap (storageOf keccak256))
  codes_nodup : (diff.newCodes.map NewCode.codeHash).Nodup
  codes : ∀ code ∈ diff.newCodes, keccak256 code.code = code.codeHash ∧
    code.codeHash ∈ bundle.state.entries.filterMap (codeOf keccak256)

variable {keccak256} {bundle : BundleState} {diff : BlockStorageDiff} {hash parentHash : B256}

/-- The codes are those that were asked for, and each has its hash. -/
lemma mapM_newCode {contracts : B256 → Option Bytes} {codeHashes : List B256}
    {newCodes : List NewCode} (h : codeHashes.mapM (newCode keccak256 contracts) = .ok newCodes) :
    newCodes.map NewCode.codeHash = codeHashes ∧
      ∀ code ∈ newCodes, keccak256 code.code = code.codeHash := by
  induction codeHashes generalizing newCodes with
  | nil =>
    cases h
    exact ⟨rfl, by simp⟩
  | cons codeHash codeHashes ih =>
    rw [List.mapM_cons] at h
    obtain ⟨code, hcode, h⟩ := bind_eq_ok.mp h
    obtain ⟨codes, hcodes, h⟩ := bind_eq_ok.mp h
    cases h
    obtain ⟨hmap, hhash⟩ := ih hcodes
    rw [newCode] at hcode
    split at hcode
    · cases hcode
    · split at hcode
      · cases hcode
      · next bytes _ heq =>
        cases hcode
        refine ⟨by rw [List.map_cons, hmap], List.forall_mem_cons.mpr ⟨?_, hhash⟩⟩
        exact not_not.mp heq

lemma buildStorageDiff_emitted (h : buildStorageDiff keccak256 bundle hash parentHash = .ok diff) :
    Emitted keccak256 bundle diff := by
  rw [buildStorageDiff, foldl_push] at h
  obtain ⟨newCodes, hcodes, h⟩ := bind_eq_ok.mp h
  cases h
  obtain ⟨hmap, hhash⟩ := mapM_newCode hcodes
  refine ⟨List.perm_insertionSort .., List.perm_insertionSort .., List.perm_insertionSort ..,
    ?_, ?_⟩
  · rw [hmap, (List.perm_insertionSort _ _).nodup_iff]
    exact List.nodup_dedup _
  · intro code hcode
    refine ⟨hhash code hcode, ?_⟩
    have hmem : code.codeHash ∈ newCodes.map NewCode.codeHash := List.mem_map_of_mem hcode
    rw [hmap, List.mem_insertionSort, List.mem_dedup] at hmem
    exact hmem

variable {entry : (_ : Address) × BundleAccount}

lemma accountOf_eq_some {account : NewAccount} (h : accountOf keccak256 entry = some account) :
    account.address = hashedAddress keccak256 entry.1 := by
  rw [accountOf] at h
  split at h
  · cases h
  · obtain ⟨info, -, h⟩ := Option.bind_eq_some_iff.mp h
    split at h
    · cases h
      rfl
    · cases h

lemma deletionOf_eq_some {address : B256} (h : deletionOf keccak256 entry = some address) :
    address = hashedAddress keccak256 entry.1 := by
  rw [deletionOf] at h
  split at h
  · cases h
  · rw [emittedDeletion] at h
    split at h
    · cases h
      rfl
    · cases h

lemma storageOf_eq_some (h : storageOf keccak256 entry = some row) :
    entry.2.isSkipped = false ∧
      row = ⟨hashedAddress keccak256 entry.1, emittedSlots keccak256 entry.2⟩ ∧
      ((emittedSlots keccak256 entry.2).isEmpty = false ∨
        entry.2.wasDestroyed = true ∧ entry.2.info.isSome = true) := by
  rw [storageOf] at h
  split at h
  · cases h
  · next hskip =>
    rw [emittedStorage] at h
    split at h
    · next hcond =>
      cases h
      refine ⟨Bool.eq_false_iff.mpr hskip, rfl, ?_⟩
      simpa using hcond
    · cases h

/-- When the account itself is in the diff. -/
lemma accountOf_of_emits {info : AccountInfo} (hskip : entry.2.isSkipped = false)
    (hinfo : entry.2.info = some info)
    (hemit : (entry.2.infoChanged || entry.2.wasDestroyed
      || !(emittedSlots keccak256 entry.2).isEmpty) = true) :
    accountOf keccak256 entry = some
      ⟨hashedAddress keccak256 entry.1, info.balance, info.nonce, info.codeHash⟩ := by
  rw [accountOf, hskip, if_neg Bool.false_ne_true, emittedAccount, hinfo, Option.bind_some,
    if_pos hemit]

/-- A row of slots is of an account that is new. -/
lemma exists_accountOf_of_storageOf (h : storageOf keccak256 entry = some row) :
    ∃ account, accountOf keccak256 entry = some account := by
  obtain ⟨hskip, -, hcond⟩ := storageOf_eq_some h
  obtain ⟨info, hinfo⟩ : ∃ info, entry.2.info = some info := by
    rcases hcond with hslots | ⟨-, hinfo⟩
    · cases hinfo : entry.2.info with
      | none => simp [emittedSlots, hinfo] at hslots
      | some info => exact ⟨info, rfl⟩
    · exact Option.isSome_iff_exists.mp hinfo
  have hemit : (entry.2.infoChanged || entry.2.wasDestroyed
      || !(emittedSlots keccak256 entry.2).isEmpty) = true := by
    rcases hcond with hslots | ⟨hdestroyed, -⟩
    · simp [hslots]
    · simp [hdestroyed]
  exact ⟨_, accountOf_of_emits hskip hinfo hemit⟩

/-- A code that is asked for is the code of an account that is new: the parent's account, if
there is one that was not destroyed, has another. -/
lemma exists_accountOf_of_codeOf {codeHash : B256} (h : codeOf keccak256 entry = some codeHash) :
    ∃ account, accountOf keccak256 entry = some account ∧ account.codeHash = codeHash := by
  rw [codeOf] at h
  split at h
  · cases h
  · next hskip =>
    obtain ⟨info, hinfo, h⟩ := Option.bind_eq_some_iff.mp h
    split at h
    · next hcode =>
      cases h
      have hemit : (entry.2.infoChanged || entry.2.wasDestroyed
          || !(emittedSlots keccak256 entry.2).isEmpty) = true := by
        have hproves := hcode.2
        cases hdestroyed : entry.2.wasDestroyed with
        | true => simp
        | false =>
          -- an original account with the same info would prove the code
          suffices hchanged : entry.2.infoChanged = true by simp [hchanged]
          rw [BundleAccount.infoChanged, decide_eq_true_iff]
          intro hsame
          apply hproves
          rw [BundleAccount.parentProvesCode, hdestroyed, ← hsame, hinfo]
          simp
      exact ⟨_, accountOf_of_emits (Bool.eq_false_iff.mpr hskip) hinfo hemit, rfl⟩
    · cases h

lemma emittedSlot_eq_some {account : BundleAccount} {slot : (_ : U256) × StorageSlot}
    {pair : IndexValuePair} (h : emittedSlot keccak256 account slot = some pair) :
    pair.index = hashedSlot keccak256 slot.1 := by
  rw [emittedSlot] at h
  split at h
  · cases h
    rfl
  · cases h

lemma nodup_emittedSlots (hslot : Function.Injective (hashedSlot keccak256))
    (account : BundleAccount) :
    ((emittedSlots keccak256 account).map IndexValuePair.index).Nodup := by
  rw [emittedSlots]
  split
  · exact List.nodup_nil
  · rw [((List.perm_insertionSort _ _).map _).nodup_iff]
    exact Keyed.nodup_filterMap hslot (fun _ _ h => emittedSlot_eq_some h)
      account.storage.nodupKeys

namespace Emitted

variable (h : Emitted keccak256 bundle diff)
  (haddress : Function.Injective (hashedAddress keccak256))

include h haddress

lemma nodup_newAccounts : (diff.newAccounts.map NewAccount.address).Nodup :=
  (h.newAccounts.map _).nodup_iff.mpr
    (Keyed.nodup_filterMap haddress (fun _ _ h => accountOf_eq_some h) bundle.state.nodupKeys)

lemma nodup_deletedAccounts : (diff.deletedAccounts.map id).Nodup :=
  (h.deletedAccounts.map _).nodup_iff.mpr
    (Keyed.nodup_filterMap haddress (fun _ _ h => deletionOf_eq_some h) bundle.state.nodupKeys)

lemma nodup_storageDiffs : (diff.storageDiffs.map AccountStorageDiff.address).Nodup :=
  (h.storageDiffs.map _).nodup_iff.mpr
    (Keyed.nodup_filterMap haddress (fun _ _ h => by rw [(storageOf_eq_some h).2.1])
      bundle.state.nodupKeys)

end Emitted

/-! ### The changes of a diff -/

section PostState

variable (diff) (address : B256)

/-- The three maps of a diff, read off its lists. -/
def BlockStorageDiff.postAccounts : Option PostAccount :=
  (Keyed.lookup NewAccount.address address diff.newAccounts).map
    fun account => ⟨account.balance, account.nonce, some account.codeHash⟩

/-- Whether the diff deletes an address. -/
def BlockStorageDiff.postDeleted : Option Unit :=
  (Keyed.lookup id address diff.deletedAccounts).map fun _ => ()

/-- The slots by index. -/
def AccountStorageDiff.slots (storage : AccountStorageDiff) (index : B256) : Option U256 :=
  (Keyed.lookup IndexValuePair.index index storage.diffs).map IndexValuePair.value

/-- The storage of an address in the diff. -/
def BlockStorageDiff.postStorages : Option (B256 → Option U256) :=
  (Keyed.lookup AccountStorageDiff.address address diff.storageDiffs).map
    AccountStorageDiff.slots

/-- The changes of a diff. -/
def BlockStorageDiff.postState : HashedPostState :=
  decodedState diff.postAccounts diff.postDeleted diff.postStorages

end PostState

end Emitted

end AlethiaReth.Debank
