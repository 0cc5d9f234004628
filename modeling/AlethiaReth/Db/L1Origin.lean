import AlethiaReth.Lib.Outcome
import AlethiaReth.Primitives

/-!
The L1-origin tables: which L1 block a block came from, the head of what is confirmed, and
the last block of every batch.

* `run_consistent`: every row is at its own block number and comes from an origin that was handed
  in for it, after every sequence of the operations that write the tables.
* `l1Tables_faithful`: what this means for the tables.
-/

namespace AlethiaReth

open MachineInt Outcome

/-! ### Origins -/

/-- An origin as requests have it. -/
structure RpcL1Origin where
  blockId : U256
  l2BlockHash : B256
  l1BlockHeight : Option U256
  l1BlockHash : Option B256
  buildPayloadArgsId : Vector U8 8
  isForcedInclusion : Bool
  signature : Vector U8 65
  deriving DecidableEq, Repr

variable (origin : RpcL1Origin)

/-- A block no L1 block includes yet. -/
def RpcL1Origin.isPreconfBlock : Bool :=
  origin.l1BlockHeight.isNone || origin.l1BlockHeight = some 0

/-- An origin as it is stored. -/
structure StoredL1Origin where
  blockId : U256
  l2BlockHash : B256
  l1BlockHeight : U256
  l1BlockHash : B256
  buildPayloadArgsId : Vector U8 8
  isForcedInclusion : Bool
  signature : Vector U8 65
  deriving DecidableEq, Repr

/-- What is stored of an origin. -/
def StoredL1Origin.ofRpc : StoredL1Origin where
  blockId := origin.blockId
  l2BlockHash := origin.l2BlockHash
  l1BlockHeight := origin.l1BlockHeight.getD 0
  l1BlockHash := origin.l1BlockHash.getD 0
  buildPayloadArgsId := origin.buildPayloadArgsId
  isForcedInclusion := origin.isForcedInclusion
  signature := origin.signature

/-- The origin of what is stored. -/
def StoredL1Origin.intoRpc (origin : StoredL1Origin) : RpcL1Origin where
  blockId := origin.blockId
  l2BlockHash := origin.l2BlockHash
  l1BlockHeight := some origin.l1BlockHeight
  l1BlockHash := some origin.l1BlockHash
  buildPayloadArgsId := origin.buildPayloadArgsId
  isForcedInclusion := origin.isForcedInclusion
  signature := origin.signature

/-- The test of the batch lookup for a row of a preconfirmation block. -/
def StoredL1Origin.isPreconfRow (origin : StoredL1Origin) : Bool := origin.l1BlockHeight = 0

/-- The two tests agree across the conversion. -/
lemma StoredL1Origin.isPreconfRow_ofRpc :
    (ofRpc origin).isPreconfRow = origin.isPreconfBlock := by
  cases h : origin.l1BlockHeight with
  | none => simp [isPreconfRow, ofRpc, RpcL1Origin.isPreconfBlock, h]
  | some height => simp [isPreconfRow, ofRpc, RpcL1Origin.isPreconfBlock, h]

/-! ### Tables -/

/-- The one key of the table of the head. -/
def storedL1HeadOriginKey : U64 := 0

/-- The three tables. -/
structure L1Tables where
  storedL1Origin : U64 → Option StoredL1Origin
  storedL1HeadOrigin : U64 → Option U64
  batchToLastBlock : U64 → Option U64

variable (tables : L1Tables)

/-- Tables without rows. -/
def L1Tables.empty : L1Tables := ⟨fun _ => none, fun _ => none, fun _ => none⟩

/-- The tables with a row at its block.  The head and the batch move for a confirmed block
only. -/
def L1Tables.persist (row : StoredL1Origin) (isPreconfBlock : Bool) (batchId : Option U64) :
    L1Tables where
  storedL1Origin :=
    Function.update tables.storedL1Origin (row.blockId.setWidth 64) (some row)
  storedL1HeadOrigin :=
    if isPreconfBlock then tables.storedL1HeadOrigin
    else Function.update tables.storedL1HeadOrigin storedL1HeadOriginKey
      (some (row.blockId.setWidth 64))
  batchToLastBlock :=
    match isPreconfBlock, batchId with
    | false, some batch =>
      Function.update tables.batchToLastBlock batch (some (row.blockId.setWidth 64))
    | _, _ => tables.batchToLastBlock

/-- A row that is put. -/
inductive Write where
  | l1Origin (key : U64) (row : StoredL1Origin)
  | l1HeadOrigin (key block : U64)
  | batchToLastBlock (batch block : U64)

/-- The tables with the row. -/
def Write.apply : Write → L1Tables
  | .l1Origin key row =>
    { tables with storedL1Origin := Function.update tables.storedL1Origin key (some row) }
  | .l1HeadOrigin key block =>
    { tables with storedL1HeadOrigin := Function.update tables.storedL1HeadOrigin key (some block) }
  | .batchToLastBlock batch block =>
    { tables with batchToLastBlock := Function.update tables.batchToLastBlock batch (some block) }

/-- Why a request fails. -/
inductive L1Error where
  | internal
  | gethNotFound
  | invalidParams (message : String)
  deriving DecidableEq, Repr

/-- Which calls of a database transaction fail. -/
structure Faults where
  openTx : Bool
  get : Bool
  put : Write → Bool
  commit : Bool

/-- A database on which nothing fails. -/
def Faults.none : Faults := ⟨false, false, fun _ => false, false⟩

namespace Faults

variable (faults : Faults) {α : Type}

/-- Writes one after the other, on the transaction's own view of the tables. -/
def putAll : L1Tables → List Write → Except L1Error L1Tables
  | tables, [] => .ok tables
  | tables, write :: writes =>
    if faults.put write then .error .internal else putAll (write.apply tables) writes

/-- A database transaction: what it answers and writes counts once it is committed. -/
def transaction (tables : L1Tables) (body : Except Panic (Except L1Error (α × List Write))) :
    Except Panic (Except L1Error α × L1Tables) :=
  if faults.openTx then
    .ok (.error .internal, tables)
  else
    match body with
    | .error panic => .error panic
    | .ok (.error error) => .ok (.error error, tables)
    | .ok (.ok (a, writes)) =>
      match faults.putAll tables writes with
      | .error error => .ok (.error error, tables)
      | .ok written =>
        if faults.commit then .ok (.error .internal, tables) else .ok (.ok a, written)

variable {faults} {tables tables' : L1Tables}

lemma putAll_eq_ok {writes : List Write} (h : faults.putAll tables writes = .ok tables') :
    tables' = writes.foldl Write.apply tables := by
  induction writes generalizing tables with
  | nil =>
    cases h
    rfl
  | cons write writes ih =>
    rw [putAll] at h
    split at h
    · cases h
    · exact ih h

/-- A transaction makes all its writes, or it answers an error and makes none. -/
lemma transaction_of_ok (faults : Faults) (tables : L1Tables) (a : α) (writes : List Write) :
    (∃ error, faults.transaction tables (.ok (.ok (a, writes))) = .ok (.error error, tables)) ∨
      faults.transaction tables (.ok (.ok (a, writes)))
        = .ok (.ok a, writes.foldl Write.apply tables) := by
  rw [transaction.eq_def]
  split
  · exact .inl ⟨_, rfl⟩
  · dsimp only
    split
    · exact .inl ⟨_, rfl⟩
    · next written hput =>
      split
      · exact .inl ⟨_, rfl⟩
      · rw [putAll_eq_ok hput]
        exact .inr rfl

lemma transaction_of_error (faults : Faults) (tables : L1Tables) (error : L1Error) :
    ∃ error', faults.transaction tables (.ok (.error error : Except L1Error (α × List Write)))
      = .ok (.error error', tables) := by
  rw [transaction.eq_def]
  split
  · exact ⟨_, rfl⟩
  · exact ⟨_, rfl⟩

end Faults

/-! ### The writers -/

/-- A number in 64 bits; one that does not fit panics. -/
def toU64 (x : U256) : Except Panic U64 :=
  if x.toNat < 2 ^ 64 then .ok (x.setWidth 64) else .error .overflow

lemma toU64_eq_ok {x : U256} (h : x.toNat < 2 ^ 64) : toU64 x = .ok (x.setWidth 64) :=
  if_pos h

lemma setWidth_setWidth_of_fits {x : U256} (h : x.toNat < 2 ^ 64) :
    (x.setWidth 64).setWidth 256 = x := by
  apply BitVec.eq_of_toNat_eq
  rw [BitVec.toNat_setWidth, BitVec.toNat_setWidth, Nat.mod_eq_of_lt h,
    Nat.mod_eq_of_lt x.isLt]

/-- A byte array of a fixed length, where the bytes are as many. -/
def tryFromSlice (n : ℕ) (bytes : Bytes) : Option (Vector U8 n) :=
  if h : bytes.length = n then some ⟨bytes.toArray, by simpa using h⟩ else none

section Writers

variable (faults : Faults) (tables : L1Tables)

/-- Stores the origin of a built block.  One that is no preconfirmation moves the head, and
is the last block of its batch. -/
def persistL1Origin (storedL1Origin : StoredL1Origin) (isPreconfBlock : Bool)
    (batchId : Option U64) : Except Panic (Except L1Error Unit × L1Tables) :=
  faults.transaction tables do
    let blockNumber ← toU64 storedL1Origin.blockId
    let confirmed : List Write :=
      .l1HeadOrigin storedL1HeadOriginKey blockNumber ::
        (batchId.map (Write.batchToLastBlock · blockNumber)).toList
    pure (.ok ((), .l1Origin blockNumber storedL1Origin ::
      if isPreconfBlock then [] else confirmed))

/-- Stores an origin. -/
def updateL1Origin (l1Origin : RpcL1Origin) :
    Except Panic (Except L1Error (Option RpcL1Origin) × L1Tables) :=
  faults.transaction tables do
    let blockNumber ← toU64 l1Origin.blockId
    pure (.ok (some l1Origin, [.l1Origin blockNumber (.ofRpc l1Origin)]))

/-- Signs a stored origin: read at the id that was asked for, written at its own. -/
def setL1OriginSignature (id : U256) (signature : Bytes) :
    Except Panic (Except L1Error RpcL1Origin × L1Tables) :=
  faults.transaction tables do
    let key ← toU64 id
    if faults.get then pure (.error .internal) else
    match tables.storedL1Origin key with
    | none => pure (.error .gethNotFound)
    | some l1Origin =>
      match tryFromSlice 65 signature with
      | none => pure (.error (.invalidParams "Signature must be a 65-byte array"))
      | some signature => do
        let l1Origin := { l1Origin with signature := signature }
        let blockNumber ← toU64 l1Origin.blockId
        pure (.ok (l1Origin.intoRpc, [.l1Origin blockNumber l1Origin]))

/-- Stores the head. -/
def storeHeadL1Origin (id : U256) : Except Panic (Except L1Error U256 × L1Tables) :=
  faults.transaction tables do
    let block ← toU64 id
    pure (.ok (id, [.l1HeadOrigin storedL1HeadOriginKey block]))

/-- Stores the last block of a batch. -/
def storeBatchToLastBlock (batchId blockNumber : U256) :
    Except Panic (Except L1Error U256 × L1Tables) :=
  faults.transaction tables do
    let batch ← toU64 batchId
    let block ← toU64 blockNumber
    pure (.ok (batchId, [.batchToLastBlock batch block]))

end Writers

/-- Everything that writes the tables, with the arguments it is called with. -/
inductive L1Op where
  | persistL1Origin (l1Origin : RpcL1Origin) (l2BlockHash : B256) (batchId : Option U64)
  | updateL1Origin (l1Origin : RpcL1Origin)
  | setL1OriginSignature (id : U256) (signature : Bytes)
  | setHeadL1Origin (id : U256)
  | setBatchToLastBlock (batchId blockNumber : U256)

namespace L1Op

/-- Applies an operation, whose answer matters only as far as it is one. -/
def apply (faults : Faults) (tables : L1Tables) :
    L1Op → Except Panic (Except L1Error Unit × L1Tables)
  | .persistL1Origin l1Origin l2BlockHash batchId =>
    AlethiaReth.persistL1Origin faults tables
      { StoredL1Origin.ofRpc l1Origin with l2BlockHash := l2BlockHash }
      l1Origin.isPreconfBlock batchId
  | .updateL1Origin l1Origin => answered (AlethiaReth.updateL1Origin faults tables l1Origin)
  | .setL1OriginSignature id signature =>
    answered (AlethiaReth.setL1OriginSignature faults tables id signature)
  | .setHeadL1Origin id => answered (storeHeadL1Origin faults tables id)
  | .setBatchToLastBlock batchId blockNumber =>
    answered (storeBatchToLastBlock faults tables batchId blockNumber)
where
  answered {α : Type} (out : Except Panic (Except L1Error α × L1Tables)) :
      Except Panic (Except L1Error Unit × L1Tables) :=
    out.map fun (answer, tables) => (answer.map fun _ => (), tables)

/-- The ids of an operation fit in 64 bits. -/
def Fits : L1Op → Prop
  | .persistL1Origin l1Origin _ _ => l1Origin.blockId.toNat < 2 ^ 64
  | .updateL1Origin l1Origin => l1Origin.blockId.toNat < 2 ^ 64
  | .setL1OriginSignature id _ => id.toNat < 2 ^ 64
  | .setHeadL1Origin id => id.toNat < 2 ^ 64
  | .setBatchToLastBlock batchId blockNumber =>
    batchId.toNat < 2 ^ 64 ∧ blockNumber.toNat < 2 ^ 64

/-- The origin an operation hands in. -/
def l1Origin? : L1Op → Option RpcL1Origin
  | .persistL1Origin l1Origin _ _ => some l1Origin
  | .updateL1Origin l1Origin => some l1Origin
  | _ => none

end L1Op

/-- The tables, beside the origin each row was written from. -/
structure L1History where
  tables : L1Tables
  source : U64 → Option RpcL1Origin

namespace L1History

/-- Nothing was stored. -/
def start : L1History := ⟨.empty, fun _ => none⟩

/-- One operation. -/
def step (s : L1History) (op : Faults × L1Op) : Except Panic L1History := do
  let (answer, tables) ← op.2.apply op.1 s.tables
  let source := match answer, op.2.l1Origin? with
    | .ok (), some origin =>
      Function.update s.source (origin.blockId.setWidth 64) (some origin)
    | _, _ => s.source
  pure ⟨tables, source⟩

/-- A row is at its own number and comes from the origin handed in for it, but for the hash
of the block and the signature. -/
structure Sourced (key : U64) (origin : RpcL1Origin) (row : StoredL1Origin) : Prop where
  key_eq : row.blockId = key.setWidth 256
  row_eq : row = { StoredL1Origin.ofRpc origin with
    l2BlockHash := row.l2BlockHash, signature := row.signature }

/-- Every row has its source. -/
def Consistent (s : L1History) : Prop :=
  ∀ key row, s.tables.storedL1Origin key = some row →
    ∃ origin, s.source key = some origin ∧ Sourced key origin row

end L1History

/-! ### What an operation does -/

section Effects

variable (faults : Faults) (tables : L1Tables) (row : StoredL1Origin)

/-- Stores everything or nothing. -/
lemma persistL1Origin_cases (hfits : row.blockId.toNat < 2 ^ 64) (isPreconfBlock : Bool)
    (batchId : Option U64) :
    (∃ error, persistL1Origin faults tables row isPreconfBlock batchId
        = .ok (.error error, tables)) ∨
      persistL1Origin faults tables row isPreconfBlock batchId
        = .ok (.ok (), tables.persist row isPreconfBlock batchId) := by
  rw [persistL1Origin, toU64_eq_ok hfits]
  refine (faults.transaction_of_ok tables _ _).imp_right fun hok => hok.trans ?_
  cases isPreconfBlock with
  | true => rfl
  | false => cases batchId <;> rfl

/-- A number that does not fit panics, so that what was stored had one that does. -/
lemma persistL1Origin_eq_ok {faults : Faults} {tables tables' : L1Tables} {row : StoredL1Origin}
    {isPreconfBlock : Bool} {batchId : Option U64}
    (h : persistL1Origin faults tables row isPreconfBlock batchId = .ok (.ok (), tables')) :
    row.blockId.toNat < 2 ^ 64 ∧ tables' = tables.persist row isPreconfBlock batchId := by
  by_cases hfits : row.blockId.toNat < 2 ^ 64
  · rcases persistL1Origin_cases faults tables row hfits isPreconfBlock batchId with
      ⟨error, heq⟩ | heq
    · cases heq.symm.trans h
    · exact ⟨hfits, (Prod.mk.inj (Except.ok.inj (h.symm.trans heq))).2⟩
  · rw [persistL1Origin, toU64, if_neg hfits, Faults.transaction.eq_def] at h
    split at h <;> cases h

/-- Without faults a row whose number fits is stored. -/
lemma persistL1Origin_none (hfits : row.blockId.toNat < 2 ^ 64) (isPreconfBlock : Bool)
    (batchId : Option U64) :
    persistL1Origin .none tables row isPreconfBlock batchId
      = .ok (.ok (), tables.persist row isPreconfBlock batchId) := by
  rw [persistL1Origin, toU64_eq_ok hfits]
  cases isPreconfBlock with
  | true => rfl
  | false => cases batchId <;> rfl

lemma updateL1Origin_cases {origin : RpcL1Origin} (hfits : origin.blockId.toNat < 2 ^ 64) :
    (∃ error, updateL1Origin faults tables origin = .ok (.error error, tables)) ∨
      updateL1Origin faults tables origin = .ok (.ok (some origin), { tables with
        storedL1Origin := Function.update tables.storedL1Origin (origin.blockId.setWidth 64)
          (some (.ofRpc origin)) }) := by
  rw [updateL1Origin, toU64_eq_ok hfits]
  exact faults.transaction_of_ok tables _ _

/-- A signature changes the row that was asked for, and nothing else of it; without the row,
or with a signature of another length, nothing changes.  The row is at its own number. -/
lemma setL1OriginSignature_cases {id : U256} (hfits : id.toNat < 2 ^ 64) (signature : Bytes)
    (hkey : ∀ row, tables.storedL1Origin (id.setWidth 64) = some row → row.blockId = id) :
    (∃ error, setL1OriginSignature faults tables id signature = .ok (.error error, tables)) ∨
      ∃ row array, tables.storedL1Origin (id.setWidth 64) = some row ∧
        tryFromSlice 65 signature = some array ∧
        setL1OriginSignature faults tables id signature
          = .ok (.ok ({ row with signature := array } : StoredL1Origin).intoRpc, { tables with
            storedL1Origin := Function.update tables.storedL1Origin (id.setWidth 64)
              (some { row with signature := array }) }) := by
  rw [setL1OriginSignature, toU64_eq_ok hfits]
  dsimp only [bind, Except.bind]
  split
  · exact .inl (faults.transaction_of_error tables _)
  · cases hrow : tables.storedL1Origin (id.setWidth 64) with
    | none => exact .inl (faults.transaction_of_error tables _)
    | some row =>
      cases harray : tryFromSlice 65 signature with
      | none => exact .inl (faults.transaction_of_error tables _)
      | some array =>
        obtain rfl := hkey row hrow
        dsimp only
        rw [toU64_eq_ok hfits]
        exact (faults.transaction_of_ok tables _ _).imp_right
          fun hok => ⟨row, array, rfl, rfl, hok⟩

lemma storeHeadL1Origin_cases {id : U256} (hfits : id.toNat < 2 ^ 64) :
    (∃ error, storeHeadL1Origin faults tables id = .ok (.error error, tables)) ∨
      storeHeadL1Origin faults tables id = .ok (.ok id, { tables with
        storedL1HeadOrigin := Function.update tables.storedL1HeadOrigin storedL1HeadOriginKey
          (some (id.setWidth 64)) }) := by
  rw [storeHeadL1Origin, toU64_eq_ok hfits]
  exact faults.transaction_of_ok tables _ _

lemma storeBatchToLastBlock_cases {batchId blockNumber : U256} (hbatch : batchId.toNat < 2 ^ 64)
    (hblock : blockNumber.toNat < 2 ^ 64) :
    (∃ error, storeBatchToLastBlock faults tables batchId blockNumber
        = .ok (.error error, tables)) ∨
      storeBatchToLastBlock faults tables batchId blockNumber = .ok (.ok batchId, { tables with
        batchToLastBlock := Function.update tables.batchToLastBlock (batchId.setWidth 64)
          (some (blockNumber.setWidth 64)) }) := by
  rw [storeBatchToLastBlock, toU64_eq_ok hbatch, toU64_eq_ok hblock]
  exact faults.transaction_of_ok tables _ _

end Effects

/-! ### Histories -/

namespace L1History

variable {s : L1History} {origin : RpcL1Origin} {key : U64} {row : StoredL1Origin} {faults : Faults}
  {op : L1Op} {tables : L1Tables}

/-- A row written from an origin, with the hash of the block and a signature of its own. -/
lemma Sourced.of_ofRpc (hfits : origin.blockId.toNat < 2 ^ 64) (l2BlockHash : B256) :
    Sourced (origin.blockId.setWidth 64) origin
      { StoredL1Origin.ofRpc origin with l2BlockHash := l2BlockHash } :=
  ⟨(setWidth_setWidth_of_fits hfits).symm, rfl⟩

lemma Sourced.signed (h : Sourced key origin row) (signature : Vector U8 65) :
    Sourced key origin { row with signature := signature } := by
  refine ⟨h.key_eq, ?_⟩
  have hrow := h.row_eq
  dsimp only
  conv_lhs => rw [hrow]

/-- The lookup takes a row for one of a preconfirmation block exactly where its origin is. -/
lemma Sourced.isPreconfRow_eq (h : Sourced key origin row) :
    row.isPreconfRow = origin.isPreconfBlock := by
  rw [← StoredL1Origin.isPreconfRow_ofRpc, h.row_eq]
  rfl

/-- A new row beside rows that have their source. -/
lemma Consistent.update (h : Consistent s) (hrow : Sourced key origin row) {s' : L1History}
    (htables : s'.tables.storedL1Origin
      = Function.update s.tables.storedL1Origin key (some row))
    (hsource : s'.source = Function.update s.source key (some origin)) : Consistent s' := by
  intro key' row' hget
  rw [htables] at hget
  rw [hsource]
  by_cases hkey : key' = key
  · subst hkey
    rw [Function.update_self] at hget ⊢
    cases hget
    exact ⟨origin, rfl, hrow⟩
  · rw [Function.update_of_ne hkey] at hget ⊢
    exact h key' row' hget

lemma Consistent.row_blockId (h : Consistent s) {id : U256} (hfits : id.toNat < 2 ^ 64)
    (row : StoredL1Origin) (hrow : s.tables.storedL1Origin (id.setWidth 64) = some row) :
    row.blockId = id := by
  obtain ⟨origin, -, hsourced⟩ := h _ row hrow
  rw [hsourced.key_eq, setWidth_setWidth_of_fits hfits]

lemma step_of_error {error : L1Error}
    (h : op.apply faults s.tables = .ok (.error error, s.tables)) :
    s.step (faults, op) = .ok s := by
  rw [step, h]
  rfl

lemma step_of_origin (h : op.apply faults s.tables = .ok (.ok (), tables))
    (horigin : op.l1Origin? = some origin) :
    s.step (faults, op) = .ok ⟨tables,
      Function.update s.source (origin.blockId.setWidth 64) (some origin)⟩ := by
  rw [step, h]
  dsimp only [bind, Except.bind]
  rw [horigin]
  rfl

lemma step_of_no_origin (h : op.apply faults s.tables = .ok (.ok (), tables))
    (horigin : op.l1Origin? = none) :
    s.step (faults, op) = .ok ⟨tables, s.source⟩ := by
  rw [step, h]
  dsimp only [bind, Except.bind]
  rw [horigin]
  rfl

/-- An operation answers, and every row keeps its source. -/
lemma step_consistent (h : Consistent s) (faults : Faults) (hfits : op.Fits) :
    ∃ s', s.step (faults, op) = .ok s' ∧ Consistent s' := by
  cases op with
  | persistL1Origin l1Origin l2BlockHash batchId =>
    rcases persistL1Origin_cases faults s.tables
      { StoredL1Origin.ofRpc l1Origin with l2BlockHash := l2BlockHash } hfits
      l1Origin.isPreconfBlock batchId with ⟨error, heq⟩ | heq
    · exact ⟨s, step_of_error heq, h⟩
    · exact ⟨_, step_of_origin heq rfl, h.update (.of_ofRpc hfits l2BlockHash) rfl rfl⟩
  | updateL1Origin l1Origin =>
    rcases updateL1Origin_cases faults s.tables hfits with ⟨error, heq⟩ | heq
    · exact ⟨s, step_of_error (by rw [L1Op.apply, heq]; rfl), h⟩
    · refine ⟨_, step_of_origin (by rw [L1Op.apply, heq]; rfl) rfl, ?_⟩
      exact h.update (.of_ofRpc hfits l1Origin.l2BlockHash) rfl rfl
  | setL1OriginSignature id signature =>
    rcases setL1OriginSignature_cases faults s.tables hfits signature
      (h.row_blockId hfits) with ⟨error, heq⟩ | ⟨row, array, hrow, -, heq⟩
    · exact ⟨s, step_of_error (by rw [L1Op.apply, heq]; rfl), h⟩
    · refine ⟨_, step_of_no_origin (by rw [L1Op.apply, heq]; rfl) rfl, ?_⟩
      -- the source of the row is that of the row that was read
      obtain ⟨origin, hsource, hsourced⟩ := h _ row hrow
      refine h.update (hsourced.signed array) rfl ?_
      rw [← hsource, Function.update_eq_self]
  | setHeadL1Origin id =>
    rcases storeHeadL1Origin_cases faults s.tables hfits with ⟨error, heq⟩ | heq
    · exact ⟨s, step_of_error (by rw [L1Op.apply, heq]; rfl), h⟩
    · refine ⟨_, step_of_no_origin (by rw [L1Op.apply, heq]; rfl) rfl, ?_⟩
      exact fun key row hget => h key row hget
  | setBatchToLastBlock batchId blockNumber =>
    rcases storeBatchToLastBlock_cases faults s.tables hfits.1 hfits.2 with ⟨error, heq⟩ | heq
    · exact ⟨s, step_of_error (by rw [L1Op.apply, heq]; rfl), h⟩
    · refine ⟨_, step_of_no_origin (by rw [L1Op.apply, heq]; rfl) rfl, ?_⟩
      exact fun key row hget => h key row hget

/-- A sequence of operations answers, and leaves every row with its source. -/
theorem run_consistent (ops : List (Faults × L1Op)) (hfits : ∀ op ∈ ops, op.2.Fits)
    (h : Consistent s) : ∃ s', ops.foldlM step s = .ok s' ∧ Consistent s' := by
  induction ops generalizing s with
  | nil => exact ⟨s, rfl, h⟩
  | cons op ops ih =>
    obtain ⟨s₁, hstep, h₁⟩ := step_consistent h op.1 (hfits op List.mem_cons_self)
    obtain ⟨s', hrun, h'⟩ := ih (fun op' hop => hfits op' (List.mem_cons_of_mem op hop)) h₁
    refine ⟨s', ?_, h'⟩
    rw [List.foldlM_cons, hstep]
    exact hrun

lemma start_consistent : Consistent start := by
  intro key row h
  cases h

end L1History

lemma tryFromSlice_eq_some {n : ℕ} {bytes : Bytes} {array : Vector U8 n}
    (h : tryFromSlice n bytes = some array) : bytes.length = n ∧ array.toList = bytes := by
  rw [tryFromSlice] at h
  split at h
  · next hlength =>
    cases h
    exact ⟨hlength, rfl⟩
  · cases h

/-- The tables after any sequence of operations.  Every row is at its own number.  A signature
changes that of the row it is for, or nothing.  The origin of a built block is stored with
everything that goes with it, or not at all, and a preconfirmation moves neither the head nor
a batch.  And the lookup takes a row for a preconfirmation exactly where its origin is one. -/
theorem l1Tables_faithful (ops : List (Faults × L1Op)) (hfits : ∀ op ∈ ops, op.2.Fits) :
    ∃ s, ops.foldlM L1History.step .start = .ok s ∧
      (∀ key row, s.tables.storedL1Origin key = some row → row.blockId = key.setWidth 256) ∧
      (∀ (faults : Faults) (id : U256) (signature : Bytes), id.toNat < 2 ^ 64 →
        ∃ answer tables', setL1OriginSignature faults s.tables id signature
            = .ok (answer, tables') ∧
          (s.tables.storedL1Origin (id.setWidth 64) = none ∨ signature.length ≠ 65 →
            ∃ error, answer = .error error) ∧
          (∀ error, answer = .error error → tables' = s.tables) ∧
          ∀ rpc, answer = .ok rpc → ∃ row array,
            s.tables.storedL1Origin (id.setWidth 64) = some row ∧ array.toList = signature ∧
            tables' = { s.tables with
              storedL1Origin := Function.update s.tables.storedL1Origin (id.setWidth 64)
                (some { row with signature := array }) }) ∧
      (∀ (faults : Faults) (origin : RpcL1Origin) (l2BlockHash : B256) (batchId : Option U64),
        origin.blockId.toNat < 2 ^ 64 →
          let row := { StoredL1Origin.ofRpc origin with l2BlockHash := l2BlockHash }
          let blockNumber := origin.blockId.setWidth 64
          ∃ answer tables', persistL1Origin faults s.tables row origin.isPreconfBlock batchId
              = .ok (answer, tables') ∧
            ((∃ error, answer = .error error) ∧ tables' = s.tables ∨
              answer = .ok () ∧
                tables'.storedL1Origin
                  = Function.update s.tables.storedL1Origin blockNumber (some row) ∧
                (origin.isPreconfBlock = false →
                  tables'.storedL1HeadOrigin = Function.update s.tables.storedL1HeadOrigin
                    storedL1HeadOriginKey (some blockNumber) ∧
                  tables'.batchToLastBlock = batchId.elim s.tables.batchToLastBlock fun batch =>
                    Function.update s.tables.batchToLastBlock batch (some blockNumber))) ∧
            (origin.isPreconfBlock = true →
              tables'.storedL1HeadOrigin = s.tables.storedL1HeadOrigin ∧
                tables'.batchToLastBlock = s.tables.batchToLastBlock)) ∧
      ∀ key row, s.tables.storedL1Origin key = some row →
        ∃ origin, s.source key = some origin ∧ (row.isPreconfRow ↔ origin.isPreconfBlock) := by
  -- each part is one of the invariant, or of one operation on tables that satisfy it
  obtain ⟨s, hrun, hs⟩ := L1History.run_consistent ops hfits L1History.start_consistent
  refine ⟨s, hrun, ?_, ?_, ?_, ?_⟩
  · intro key row hrow
    obtain ⟨origin, -, hsourced⟩ := hs key row hrow
    exact hsourced.key_eq
  · intro faults id signature hid
    rcases setL1OriginSignature_cases faults s.tables hid signature (hs.row_blockId hid) with
      ⟨error, heq⟩ | ⟨row, array, hrow, harray, heq⟩
    · exact ⟨_, _, heq, fun _ => ⟨error, rfl⟩, fun _ _ => rfl, fun _ h => (nomatch h)⟩
    · obtain ⟨hlength, hbytes⟩ := tryFromSlice_eq_some harray
      refine ⟨_, _, heq, ?_, fun _ h => (nomatch h),
        fun _ _ => ⟨row, array, hrow, hbytes, rfl⟩⟩
      rintro (hnone | hlong)
      · rw [hrow] at hnone
        cases hnone
      · exact absurd hlength hlong
  · intro faults origin l2BlockHash batchId hid row blockNumber
    rcases persistL1Origin_cases faults s.tables row hid origin.isPreconfBlock batchId with
      ⟨error, heq⟩ | heq
    · exact ⟨_, _, heq, .inl ⟨⟨error, rfl⟩, rfl⟩, fun _ => ⟨rfl, rfl⟩⟩
    · refine ⟨_, _, heq, .inr ⟨rfl, rfl, fun hconfirmed => ?_⟩, fun hpreconf => ?_⟩
      · rw [hconfirmed]
        cases batchId <;> exact ⟨rfl, rfl⟩
      · rw [hpreconf]
        exact ⟨rfl, rfl⟩
  · intro key row hrow
    obtain ⟨origin, hsource, hsourced⟩ := hs key row hrow
    exact ⟨origin, hsource, by rw [hsourced.isPreconfRow_eq]⟩

/-- The origin of block 7, in L1 block 3. -/
def confirmedOrigin : RpcL1Origin where
  blockId := 7
  l2BlockHash := 0
  l1BlockHeight := some 3
  l1BlockHash := some 1
  buildPayloadArgsId := Vector.replicate 8 0
  isForcedInclusion := false
  signature := Vector.replicate 65 0

/-- An origin that is stored and then signed. -/
theorem l1Tables_faithful_signed :
    let ops : List (Faults × L1Op) := [(.none, .persistL1Origin confirmedOrigin 9 (some 5)),
      (.none, .setL1OriginSignature 7 (List.replicate 65 1))]
    ∃ s, ops.foldlM L1History.step .start = .ok s ∧
      s.tables.storedL1Origin 7 = some { StoredL1Origin.ofRpc confirmedOrigin with
        l2BlockHash := 9, signature := Vector.replicate 65 1 } ∧
      s.tables.batchToLastBlock 5 = some 7 ∧
      ∀ key row, s.tables.storedL1Origin key = some row → row.blockId = key.setWidth 256 := by
  intro ops
  have hfits : ∀ op ∈ ops, op.2.Fits := by
    simp [ops, L1Op.Fits, confirmedOrigin]
  obtain ⟨s, hrun, hkeys, -⟩ := l1Tables_faithful ops hfits
  have hs := Except.ok.inj (hrun.symm.trans rfl)
  refine ⟨s, hrun, ?_, ?_, hkeys⟩
  · rw [hs]
    rfl
  · rw [hs]
    rfl

end AlethiaReth
