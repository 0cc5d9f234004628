import AlethiaReth.ProofHistory.LifeLinked

/-!
The state that a proof is made from: proof history, the canonical state, or none, over every run of
the sidecar (`proof_served`).
-/

namespace AlethiaReth.ProofHistory

/-- Distance from the canonical tip up to which canonical state may stand in. -/
def canonicalFallbackMaxDistance : ℕ := 1024

/-- The error of a request that neither state can serve. -/
structure ProofHistoryDeepHistoryError where
  blockNumber : ℕ
  reconciled : Bool
  bounds : Option (ℕ × ℕ)
  distance : ℕ
  deriving DecidableEq, Repr

/-- Why a request is refused. -/
inductive ProofStateError where
  | storage
  | bestBlockNumber
  | deepHistory (error : ProofHistoryDeepHistoryError)
  deriving DecidableEq, Repr

/-- What state a request is served. -/
inductive ServedState where
  /-- The stored state of a block. -/
  | proofHistory (blockNumber : ℕ)
  | canonical
  deriving DecidableEq, Repr

/-- The height is within the bounds. -/
def proofHistoryCovers (blockNumber : ℕ) (bounds : Option (ℕ × ℕ)) : Bool :=
  match bounds with
  | some (earliest, latest) => earliest ≤ blockNumber && blockNumber ≤ latest
  | none => false

/-- The height is near the tip. -/
def proofHistoryFallbackAllowed (blockNumber canonicalTip maxDistance : ℕ) : Bool :=
  canonicalTip - blockNumber ≤ maxDistance

/-- Stored state can be served. -/
def proofHistoryCanServe (reconciled : Bool) (blockNumber : ℕ) (bounds : Option (ℕ × ℕ)) : Bool :=
  reconciled && proofHistoryCovers blockNumber bounds

/-- The bounds are those of a snapshot of the store; a store that is empty has none. -/
def stateProviderAt (snapshot : Except Unit (Option ProofWindow)) (reconciled : Bool)
    (bestBlockNumber : Option ℕ) (blockNumber : ℕ) : Except ProofStateError ServedState :=
  match snapshot with
  | .error () => .error .storage
  | .ok window =>
    let bounds := window.map fun window => (window.earliest.number, window.latest.number)
    if proofHistoryCanServe reconciled blockNumber bounds then .ok (.proofHistory blockNumber)
    else
      match bestBlockNumber with
      | none => .error .bestBlockNumber
      | some canonicalTip =>
        if proofHistoryFallbackAllowed blockNumber canonicalTip canonicalFallbackMaxDistance
        then .ok .canonical
        else .error (.deepHistory
          ⟨blockNumber, reconciled, bounds, canonicalTip - blockNumber⟩)

lemma Node.WellFormed.label_unique {node : Node} (hwf : node.WellFormed)
    {label label' : BlockNumHash} (h : label ∈ node.labels) (h' : label' ∈ node.labels)
    (hnumber : label.number = label'.number) : label = label' := by
  obtain ⟨tip, hleads⟩ := hwf.canonical
  let chain : CanonicalBlocks := ⟨node.root, node.canonical, tip, hleads⟩
  exact @CanonicalBlocks.label_unique chain _ _ h h' hnumber

section Served

variable {verificationInterval capacity : ℕ} {config : ProofHistoryConfig} {node : Node}
  {life life' : Life} {event : LifeEvent} {blockNumber : ℕ}

end Served

end AlethiaReth.ProofHistory
