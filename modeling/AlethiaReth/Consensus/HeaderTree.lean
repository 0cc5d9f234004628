import AlethiaReth.Consensus.Validation

/-!
Trees of headers that were validated one by one, each while the node held only some of their
blocks: an accepted header has the base fee of its parent and grandparent if the grandparent was
resolved, and any other base fee would have passed if not (`accepted_base_fee`).
-/

namespace AlethiaReth

open MachineInt Outcome

/-! ### The block reader of a node -/

/-- What a provider answers for a hash: a full block, no block, or a failure. -/
structure Provider where
  blockByHash : B256 → Except String (Option Header)

/-- The reader over a provider: a failed lookup is a missing block. -/
def providerTaikoBlockReader (provider : Provider) : TaikoBlockReader := fun hash =>
  match provider.blockByHash hash with
  | .ok (some block) => some block.timestamp
  | .ok none => none
  | .error _ => none

/-! ### Trees -/

/-- Headers by their hashes, on all branches. -/
structure HeaderTree where
  header : B256 → Option Header

namespace HeaderTree

/-- The blocks of a provider are blocks of the tree. -/
def HeldBy (tree : HeaderTree) (provider : Provider) : Prop :=
  ∀ hash block, provider.blockByHash hash = .ok (some block) → tree.header hash = some block

/-- Every Shasta header past the first was accepted against its parent; the provider of
a hash is the one at the time the header was validated. -/
def Accepted (checks : OverflowChecks) (spec : TaikoChainSpec) (tree : HeaderTree)
    (provider : B256 → Provider) : Prop :=
  ∀ hash header parent, tree.header hash = some header → spec.isShastaActive header.timestamp →
    2 ≤ header.number.toNat → tree.header header.parentHash = some parent →
    validateHeaderAgainstParent checks (providerTaikoBlockReader (provider hash)) spec header
      ⟨parent, header.parentHash⟩ = .ok (.ok ())

end HeaderTree

/-- The base fee computed for the child of a parent and a grandparent. -/
def Eip4396Value (checks : OverflowChecks) (spec : TaikoChainSpec) (parent grandparent : Header)
    (fee : U64) : Prop :=
  ∃ blockTime parentBaseFee,
    plainSub checks parent.timestamp grandparent.timestamp = .ok blockTime ∧
    parent.baseFeePerGas = some parentBaseFee ∧
    calculateNextBlockEip4396BaseFee checks parent blockTime parentBaseFee
      (minBaseFeeToClamp spec) = .ok fee

section

variable {checks : OverflowChecks} {spec : TaikoChainSpec} {reader : TaikoBlockReader}
  {header parent : Header} {hash : B256}

/-- A header that follows its parent by number and is not the first has a parent that
is not the genesis block. -/
lemma parent_number_ne_zero (h : validateAgainstParentHashNumber header ⟨parent, hash⟩ = .ok ())
    (hnumber : 2 ≤ header.number.toNat) : parent.number ≠ 0 := by
  intro hzero
  rw [validateAgainstParentHashNumber, ensure_bind_eq_ok, hzero] at h
  have hone : (1 : U64) = header.number := ensure_eq_ok.mp h.2
  rw [← hone] at hnumber
  exact absurd hnumber (by decide)

/-- What the acceptance of a Shasta header past the first amounts to. -/
lemma validateHeaderAgainstParent_shasta
    (h : validateHeaderAgainstParent checks reader spec header ⟨parent, hash⟩ = .ok (.ok ()))
    (hshasta : spec.isShastaActive header.timestamp) (hnumber : 2 ≤ header.number.toNat) :
    validateAgainstParentHashNumber header ⟨parent, hash⟩ = .ok () ∧
    parent.timestamp < header.timestamp ∧
    ∃ fee parentBaseFee, header.baseFeePerGas = some fee ∧
      parent.baseFeePerGas = some parentBaseFee ∧
      expectedBaseFee checks reader spec parent fee = .ok (.ok fee) := by
  rw [validateHeaderAgainstParent] at h
  cases hlink : validateAgainstParentHashNumber header ⟨parent, hash⟩ with
  | error error => rw [hlink] at h; cases h
  | ok u =>
    rw [hlink] at h
    cases hfee : header.baseFeePerGas with
    | none => rw [hfee] at h; cases h
    | some fee =>
      rw [hfee] at h
      dsimp only at h
      rw [if_pos hshasta] at h
      split at h
      · cases h
      · next hlater =>
        obtain ⟨answer, hexpected, h⟩ := bind_eq_ok.mp h
        cases answer with
        | error error => cases h
        | ok expected =>
          have heq : fee = expected := ensure_eq_ok.mp (Except.ok.inj h)
          subst heq
          have hgenesis := parent_number_ne_zero hlink hnumber
          cases hparent : parent.baseFeePerGas with
          | none =>
            rw [expectedBaseFee, if_neg hgenesis, hparent] at hexpected
            cases hexpected
          | some parentBaseFee =>
            exact ⟨rfl, BitVec.not_le.mp hlater, fee, parentBaseFee, rfl, rfl, hexpected⟩

/-- With the timestamp at hand, the expected base fee is the computed one. -/
lemma expectedBaseFee_of_resolved {fee expected parentBaseFee timestamp : U64}
    (hgenesis : parent.number ≠ 0) (hparent : parent.baseFeePerGas = some parentBaseFee)
    (hreader : reader parent.parentHash = some timestamp)
    (h : expectedBaseFee checks reader spec parent fee = .ok (.ok expected)) :
    ∃ blockTime, plainSub checks parent.timestamp timestamp = .ok blockTime ∧
      calculateNextBlockEip4396BaseFee checks parent blockTime parentBaseFee
        (minBaseFeeToClamp spec) = .ok expected := by
  rw [expectedBaseFee, if_neg hgenesis, hparent] at h
  obtain ⟨answer, htime, h⟩ := bind_eq_ok.mp h
  rw [parentBlockTime, hreader] at htime
  obtain ⟨blockTime, hsub, hanswer⟩ := bind_eq_ok.mp htime
  cases hanswer
  obtain ⟨computed, hcomputed, h⟩ := bind_eq_ok.mp h
  cases h
  exact ⟨blockTime, hsub, hcomputed⟩

/-- Without the timestamp, any base fee is the expected one. -/
lemma expectedBaseFee_of_unresolved {parentBaseFee : U64} (hgenesis : parent.number ≠ 0)
    (hparent : parent.baseFeePerGas = some parentBaseFee)
    (hreader : reader parent.parentHash = none) (fee : U64) :
    expectedBaseFee checks reader spec parent fee = .ok (.ok fee) := by
  rw [expectedBaseFee, if_neg hgenesis, hparent]
  dsimp only
  rw [parentBlockTime, hreader]
  rfl

/-- The header with another base fee. -/
def Header.withBaseFee (header : Header) (fee : U64) : Header :=
  { header with baseFeePerGas := some fee }

@[simp] lemma Header.withBaseFee_timestamp (header : Header) (fee : U64) :
    (header.withBaseFee fee).timestamp = header.timestamp := rfl

@[simp] lemma Header.withBaseFee_baseFeePerGas (header : Header) (fee : U64) :
    (header.withBaseFee fee).baseFeePerGas = some fee := rfl

/-- A Shasta header whose expected base fee is its own passes. -/
lemma validateHeaderAgainstParent_withBaseFee {fee : U64}
    (hlink : validateAgainstParentHashNumber header ⟨parent, hash⟩ = .ok ())
    (hshasta : spec.isShastaActive header.timestamp) (hlater : parent.timestamp < header.timestamp)
    (hexpected : expectedBaseFee checks reader spec parent fee = .ok (.ok fee)) :
    validateHeaderAgainstParent checks reader spec (header.withBaseFee fee) ⟨parent, hash⟩
      = .ok (.ok ()) := by
  have hlink' : validateAgainstParentHashNumber (header.withBaseFee fee) ⟨parent, hash⟩
      = .ok () := hlink
  rw [validateHeaderAgainstParent, hlink', Header.withBaseFee_baseFeePerGas,
    Header.withBaseFee_timestamp]
  dsimp only
  rw [if_pos hshasta, if_neg (BitVec.not_le.mpr hlater), hexpected]
  exact congrArg Except.ok (ensure_of rfl)

end

/-! ### Accepted trees -/

/-- In a tree of accepted headers: where the provider resolved the grandparent when a
header was validated, the header has the base fee computed from its actual parent and
grandparent, which is the exact one where it fits; where the provider did not resolve it,
the header would have been accepted with any base fee. -/
theorem accepted_base_fee {checks : OverflowChecks} {spec : TaikoChainSpec} {tree : HeaderTree}
    {provider : B256 → Provider} (haccepted : tree.Accepted checks spec provider)
    (hheld : ∀ hash, tree.HeldBy (provider hash)) {hash : B256}
    {header parent grandparent : Header} (hheader : tree.header hash = some header)
    (hshasta : spec.isShastaActive header.timestamp) (hnumber : 2 ≤ header.number.toNat)
    (hparent : tree.header header.parentHash = some parent)
    (hgrandparent : tree.header parent.parentHash = some grandparent) :
    (∀ block, (provider hash).blockByHash parent.parentHash = .ok (some block) →
      ∃ fee, header.baseFeePerGas = some fee ∧
        Eip4396Value checks spec parent grandparent fee ∧
        ∀ parentBaseFee, parent.baseFeePerGas = some parentBaseFee →
          parent.gasUsed.toNat ≤ parent.gasLimit.toNat →
          grandparent.timestamp.toNat ≤ parent.timestamp.toNat →
          BaseFeeFits parent (parent.timestamp.toNat - grandparent.timestamp.toNat) →
          fee.toNat = eip4396BaseFee parent
            (parent.timestamp.toNat - grandparent.timestamp.toNat) parentBaseFee.toNat
            (minBaseFeeToClamp spec).toNat) ∧
    ((∀ block, (provider hash).blockByHash parent.parentHash ≠ .ok (some block)) →
      ∀ fee, validateHeaderAgainstParent checks (providerTaikoBlockReader (provider hash)) spec
        (header.withBaseFee fee) ⟨parent, header.parentHash⟩ = .ok (.ok ())) := by
  obtain ⟨hlink, hlater, fee, parentBaseFee, hfee, hparentFee, hexpected⟩ :=
    validateHeaderAgainstParent_shasta
      (haccepted hash header parent hheader hshasta hnumber hparent) hshasta hnumber
  have hgenesis := parent_number_ne_zero hlink hnumber
  refine ⟨fun block hblock => ?_, fun hnone fee' => ?_⟩
  · -- the block under the grandparent's hash is the grandparent
    have hsame : grandparent = block := by
      have hblock' := hheld hash parent.parentHash block hblock
      rw [hgrandparent] at hblock'
      exact Option.some.inj hblock'
    subst hsame
    have hreader : providerTaikoBlockReader (provider hash) parent.parentHash
        = some grandparent.timestamp := by
      rw [providerTaikoBlockReader, hblock]
    obtain ⟨blockTime, hsub, hcomputed⟩ :=
      expectedBaseFee_of_resolved hgenesis hparentFee hreader hexpected
    refine ⟨fee, hfee, ⟨blockTime, parentBaseFee, hsub, hparentFee, hcomputed⟩, ?_⟩
    intro parentBaseFee' hparentFee' hused hle hfits
    rw [hparentFee] at hparentFee'
    cases hparentFee'
    rw [plainSub_eq_ok_of_le checks hle] at hsub
    cases hsub
    have htime : (parent.timestamp - grandparent.timestamp).toNat
        = parent.timestamp.toNat - grandparent.timestamp.toNat :=
      BitVec.toNat_sub_of_le (BitVec.le_def.mpr hle)
    rw [← htime] at hfits ⊢
    obtain ⟨exact, hexact, hexactNat⟩ :=
      calculateNextBlock_eq checks hused (minBaseFeeToClamp_le spec) parentBaseFee hfits
    rw [hcomputed] at hexact
    cases hexact
    exact hexactNat
  · have hreader : providerTaikoBlockReader (provider hash) parent.parentHash = none := by
      rw [providerTaikoBlockReader]
      split
      · next block hblock => exact absurd hblock (hnone block)
      · rfl
      · rfl
    exact validateHeaderAgainstParent_withBaseFee hlink hshasta hlater
      (expectedBaseFee_of_unresolved hgenesis hparentFee hreader fee')

/-! ### A header without its grandparent -/

/-- A header of a chain of half-full blocks, one every two seconds. -/
def chainHeader (number : U64) (baseFee : U64) : Header :=
  { plainParent 30000000 15000000 with
    parentHash := number.setWidth 256 - 1
    number := number
    timestamp := 2 * number
    baseFeePerGas := some baseFee }

/-- Headers 5, 6 and 7 of a chain, each with its number for a hash, and the last with a
base fee of its own. -/
def chainTree (lastBaseFee : U64) : HeaderTree where
  header hash :=
    if hash = 5 then some (chainHeader 5 25000000)
    else if hash = 6 then some (chainHeader 6 25000000)
    else if hash = 7 then some (chainHeader 7 lastBaseFee)
    else none

/-- A provider that has no blocks yet. -/
def emptyProvider : Provider where
  blockByHash _ := .ok none

/-- A provider that has all blocks of a tree. -/
def fullProvider (tree : HeaderTree) : Provider where
  blockByHash hash := .ok (tree.header hash)

/-- A property of the headers of the chain with their parents. -/
lemma chainTree_cases {lastBaseFee : U64} {P : B256 → Header → Header → Prop}
    (h₆ : P 6 (chainHeader 6 25000000) (chainHeader 5 25000000))
    (h₇ : P 7 (chainHeader 7 lastBaseFee) (chainHeader 6 25000000))
    {hash : B256} {header parent : Header}
    (hheader : (chainTree lastBaseFee).header hash = some header)
    (hparent : (chainTree lastBaseFee).header header.parentHash = some parent) :
    P hash header parent := by
  rw [chainTree] at hheader
  dsimp only at hheader
  split at hheader
  · cases hheader
    have hnone : (chainTree lastBaseFee).header (chainHeader 5 25000000).parentHash = none := rfl
    rw [hnone] at hparent
    cases hparent
  · split at hheader
    · next hhash =>
      cases hheader
      have hfive : (chainTree lastBaseFee).header (chainHeader 6 25000000).parentHash
          = some (chainHeader 5 25000000) := rfl
      rw [hfive] at hparent
      cases hparent
      rw [hhash]
      exact h₆
    · split at hheader
      · next hhash =>
        cases hheader
        have hsix : (chainTree lastBaseFee).header (chainHeader 7 lastBaseFee).parentHash
            = some (chainHeader 6 25000000) := rfl
        rw [hsix] at hparent
        cases hparent
        rw [hhash]
        exact h₇
      · cases hheader

/-- While the node has no blocks, a header with a base fee of 1 is accepted, where its
parent and grandparent give 25000000. -/
theorem accepted_base_fee_unresolved :
    (chainTree 1).Accepted .on shastaSpec (fun _ => emptyProvider) ∧
    (chainTree 1).HeldBy emptyProvider ∧
    (chainTree 1).header 7 = some (chainHeader 7 1) ∧
    (chainTree 1).header 6 = some (chainHeader 6 25000000) ∧
    (chainTree 1).header 5 = some (chainHeader 5 25000000) ∧
    Eip4396Value .on shastaSpec (chainHeader 6 25000000) (chainHeader 5 25000000) 25000000 ∧
    ¬ Eip4396Value .on shastaSpec (chainHeader 6 25000000) (chainHeader 5 25000000) 1 := by
  refine ⟨?_, ?_, rfl, rfl, rfl, ⟨2, 25000000, rfl, rfl, by decide⟩, ?_⟩
  · intro hash header parent hheader _ _ hparent
    refine chainTree_cases (P := fun hash header parent =>
      validateHeaderAgainstParent .on (providerTaikoBlockReader emptyProvider) shastaSpec header
        ⟨parent, header.parentHash⟩ = .ok (.ok ())) ?_ ?_ hheader hparent
    · decide
    · decide
  · rintro hash block ⟨⟩
  · rintro ⟨blockTime, parentBaseFee, hsub, hfee, hcomputed⟩
    cases hfee
    have htime : blockTime = 2 := (Except.ok.inj hsub).symm
    rw [htime] at hcomputed
    exact absurd hcomputed (by decide)

/-- With all blocks at hand, the last header of the chain has the computed base fee. -/
theorem accepted_base_fee_resolved :
    ∃ fee, (chainHeader 7 25000000).baseFeePerGas = some fee ∧
      Eip4396Value .on shastaSpec (chainHeader 6 25000000) (chainHeader 5 25000000) fee := by
  have haccepted : (chainTree 25000000).Accepted .on shastaSpec
      (fun _ => fullProvider (chainTree 25000000)) := by
    intro hash header parent hheader _ _ hparent
    refine chainTree_cases (P := fun hash header parent =>
      validateHeaderAgainstParent .on
        (providerTaikoBlockReader (fullProvider (chainTree 25000000))) shastaSpec header
        ⟨parent, header.parentHash⟩ = .ok (.ok ())) ?_ ?_ hheader hparent
    · decide
    · decide
  have hheld : (chainTree 25000000).HeldBy (fullProvider (chainTree 25000000)) := by
    intro hash block hblock
    exact Except.ok.inj hblock
  obtain ⟨hresolved, -⟩ := @accepted_base_fee .on shastaSpec (chainTree 25000000) _ haccepted
    (fun _ => hheld) 7 (chainHeader 7 25000000) (chainHeader 6 25000000) (chainHeader 5 25000000)
    rfl (by decide) (by decide) rfl rfl
  obtain ⟨fee, hfee, hvalue, -⟩ := hresolved (chainHeader 5 25000000) rfl
  exact ⟨fee, hfee, hvalue⟩

end AlethiaReth
