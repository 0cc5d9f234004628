import AlethiaReth.Debank.Arena

/-!
The block-file arrays of one transaction, from the arena of its call frames.  On an arena that
passed its check no index is out of bounds, the recursion is deep enough, and the log index stays
in its range where the logs of the arena do (`buildDebankTraces_reports`).
-/

namespace AlethiaReth.Debank

open MachineInt Outcome

/-! ### Entries -/

/-- A log of the output. -/
structure DebankEvent where
  id : String := ""
  contractId : Address := 0
  selector : String := ""
  topics : Option (List String) := none
  data : Bytes := []
  parentTraceId : String := ""
  posInParentTrace : ℕ := 0
  idx : ℕ := 0
  deriving DecidableEq, Repr

/-- A call of the output. -/
structure DebankTrace where
  id : String := ""
  fromAddr : Address := 0
  gasLimit : U64 := 0
  input : Bytes := []
  toAddr : Address := 0
  value : U256 := 0
  gasUsed : U64 := 0
  output : Bytes := []
  callCreateType : String := ""
  callType : String := ""
  txId : String := ""
  parentTraceId : String := ""
  posInParentTrace : ℕ := 0
  selfStorageChange : Bool := false
  storageChange : Bool := false
  subtraces : ℕ := 0
  traceAddress : List ℕ := []
  error : String := ""
  deriving DecidableEq, Repr

/-- The lowest hexadecimal digits of a number, highest first. -/
def hexChars : ℕ → ℕ → List Char
  | 0, _ => []
  | width + 1, n => hexChars width (n / 16) ++ [Nat.digitChar (n % 16)]

/-- A hash as text. -/
def displayHash (hash : B256) : String := "0x" ++ String.ofList (hexChars 64 hash.toNat)

/-- The error of a call that a caller of it undid. -/
def parentCallFailedError : String := "parent call failed"

/-- Why an arena is not formatted. -/
inductive FormatError where
  | sidecarLength (errors nodes : ℕ)
  | arena (error : ArenaError)
  | missingSidecar (node : ℕ)
  | noFinalStatus (node : ℕ)
  | noExactError (node : ℕ) (status : InstructionResult)
  | unsupported (status : InstructionResult)
  /-- An index out of bounds, where the code would panic. -/
  | outOfBounds (index : ℕ)
  /-- A recursion deeper than there are nodes. -/
  | diverges
  /-- A log index past the range of `usize`, where a build that checks for overflow panics. -/
  | indexOverflow
  deriving DecidableEq, Repr

/-- The call creates a contract. -/
def CallKind.isCreate : CallKind → Bool
  | .create | .create2 => true
  | _ => false

/-- The kind in lower case, where a frame is a call. -/
def CallKind.callType : CallKind → String
  | .call => "call"
  | .staticCall => "staticcall"
  | .callCode => "callcode"
  | .delegateCall => "delegatecall"
  | .authCall => "authcall"
  | .create | .create2 => ""

/-- The opcode that writes storage. -/
def sstore : U8 := 0x55

/-- The text of a frame's error, empty where there is none. -/
def errorText (trace : CallTrace) (status : InstructionResult) :
    Option String → Except FormatError String
  | some error => .ok error
  | none =>
    -- a creation that cannot pay for its code keeps the output
    if trace.kind.isCreate ∧ status = .outOfGas ∧ trace.output ≠ [] then
      .ok "contract creation code storage out of gas"
    else
      match formatError status trace.output with
      | .error status => .error (.unsupported status)
      | .ok message => .ok (message.getD "")

/-- The trace of a node, without its place. -/
def traceFromNode (node : CallTraceNode) (exactError : Option String) :
    Except FormatError DebankTrace :=
  let trace := node.trace
  let selfStorageChange := trace.steps.any (· = sstore)
  match trace.status with
  | none => .error (.noFinalStatus node.idx)
  | some status => do
    ensure (¬(requiresExactError status ∧ exactError = none)) (.noExactError node.idx status)
    let error ← errorText trace status exactError
    pure
      { fromAddr := trace.caller
        gasLimit := trace.gasLimit
        input := trace.data
        toAddr := if trace.kind.isCreate ∧ error ≠ "" then 0 else trace.address
        value := trace.value
        gasUsed := if !trace.success && !status.isRevert then trace.gasLimit else trace.gasUsed
        output := if status.isOk ∨ status = .revert then trace.output else []
        callCreateType := if trace.kind.isCreate then "create" else "call"
        callType := trace.kind.callType
        selfStorageChange := selfStorageChange
        storageChange := selfStorageChange
        error := error }

/-- The event of a log, without its place. -/
def eventFromLog (log : CallLog) : DebankEvent :=
  { selector := (log.topics.head?.map displayHash).getD ""
    topics := if log.topics = [] then none else some (log.topics.tail.map displayHash)
    data := log.data }

/-! ### The tree -/

/-- A frame of the tree, by its entry: whether it succeeded itself, and with all around it. -/
structure Frame where
  trace : DebankTrace
  frameSucceeded : Bool
  effectiveSucceeded : Bool

/-- The calls and logs of a frame, in order. -/
abbrev Members := Forest Frame DebankEvent

/-- Where an entry goes. -/
structure Place where
  parentId : String
  position : ℕ
  ancestorsSucceeded : Bool
  traceAddress : List ℕ

section Build

variable (md5 : String → BitVec 128) (txId : String) (nodes : List CallTraceNode)
  (exactErrors : List (Option String)) (parentId : String) (frame : Frame) (position : ℕ)

/-- The digest of the joined parts, in hexadecimals. -/
@[irreducible] def debankId (parts : List String) : String :=
  String.ofList (hexChars 32 (md5 (String.join parts)).toNat)

/-- The identifier of a frame by the one it is in. -/
def traceId : String :=
  debankId md5 [txId, parentId, position.repr]

/-- The identifier of an event. -/
def eventId : String :=
  debankId md5 [parentId, position.repr]

/-- The frame of a node before its members. -/
def openFrame (place : Place) (node : CallTraceNode) : Except FormatError Frame :=
  match exactErrors[node.idx]? with
  | none => .error (.missingSidecar node.idx)
  | some exactError => do
    let trace ← traceFromNode node exactError
    pure
      { trace :=
          { trace with
            error :=
              if node.trace.success ∧ ¬place.ancestorsSucceeded ∧ trace.error = "" then
                parentCallFailedError
              else trace.error
            txId := txId
            parentTraceId := place.parentId
            posInParentTrace := place.position
            traceAddress := place.traceAddress
            id := traceId md5 txId place.parentId place.position }
        frameSucceeded := node.trace.success
        effectiveSucceeded := place.ancestorsSucceeded && node.trace.success }

/-- The frame with what it has from its members. -/
def Frame.close (members : Members) : Frame :=
  { frame with
    trace :=
      { frame.trace with
        storageChange := frame.trace.storageChange ||
          members.roots.any fun child => child.trace.storageChange && child.frameSucceeded
        subtraces := members.roots.length } }

/-- The place of a call of a frame, at a position among its members and its children. -/
def Frame.childPlace (index : ℕ) : Place where
  parentId := frame.trace.id
  position := position
  ancestorsSucceeded := frame.effectiveSucceeded
  traceAddress := frame.trace.traceAddress ++ [index]

/-- An event in its place. -/
def Frame.event (node : CallTraceNode) (position logIndex : ℕ) (log : CallLog) :
    DebankEvent :=
  { eventFromLog log with
    contractId := node.executionAddress
    parentTraceId := frame.trace.id
    posInParentTrace := position
    id := eventId md5 frame.trace.id position
    idx := if frame.effectiveSucceeded then logIndex else 0 }

/-- The entry of a frame that destroyed itself, after its other members. -/
def Frame.suicide (frame : Frame) (node : CallTraceNode) (position : ℕ) : Frame where
  trace :=
    { fromAddr := node.trace.selfdestructAddress.getD 0
      toAddr := node.trace.selfdestructRefundTarget.getD 0
      value := node.trace.selfdestructTransferredValue.getD 0
      callCreateType := "suicide"
      txId := txId
      parentTraceId := frame.trace.id
      posInParentTrace := position
      traceAddress := frame.trace.traceAddress ++ [node.children.length]
      error := if frame.effectiveSucceeded then "" else parentCallFailedError
      id := traceId md5 txId frame.trace.id position }
  frameSucceeded := true
  effectiveSucceeded := frame.effectiveSucceeded

/-- The log index after a log. -/
def nextIndex (survives : Bool) (logIndex : ℕ) : Except FormatError ℕ :=
  if !survives then .ok logIndex
  else if logIndex + 1 < 2 ^ 64 then .ok (logIndex + 1)
  else .error .indexOverflow

/-- The members of a frame from a position on, given how a call is built; answers the index of
the next log that survives. -/
def buildMembers (build : Place → CallTraceNode → ℕ → Except FormatError ((Frame × Members) × ℕ))
    (frame : Frame) (node : CallTraceNode) :
    List TraceMemberOrder → ℕ → ℕ → Except FormatError (Members × ℕ)
  | [], position, logIndex =>
    .ok (if node.isSelfdestruct then .node (frame.suicide md5 txId node position) .nil .nil
      else .nil, logIndex)
  | .step _ :: ordering, position, logIndex =>
    buildMembers build frame node ordering position logIndex
  | .log index :: ordering, position, logIndex =>
    match node.logs[index]? with
    | none => .error (.outOfBounds index)
    | some log => do
      let event := frame.event md5 node position logIndex log
      let next ← nextIndex frame.effectiveSucceeded logIndex
      let (rest, next) ← buildMembers build frame node ordering (position + 1) next
      pure (.leaf event rest, next)
  | .call index :: ordering, position, logIndex =>
    match node.children[index]? with
    | none => .error (.outOfBounds index)
    | some childIndex =>
      match nodes[childIndex]? with
      | none => .error (.outOfBounds childIndex)
      | some child => do
        let ((label, inner), next) ←
          build (frame.childPlace position index) child logIndex
        let (rest, next) ← buildMembers build frame node ordering (position + 1) next
        pure (.node label inner rest, next)

/-- A node and all below it, in the order of execution. -/
def buildNode : ℕ → Place → CallTraceNode → ℕ →
    Except FormatError ((Frame × Members) × ℕ)
  | 0, _, _, _ => .error .diverges
  | depth + 1, place, node, logIndex => do
    let frame ← openFrame md5 txId exactErrors place node
    let (members, next) ←
      buildMembers md5 txId nodes (buildNode depth) frame node node.ordering 0 logIndex
    pure ((frame.close members, members), next)

end Build

/-! ### The arrays -/

/-- The arrays of the output. -/
structure TraceArrays where
  traces : List DebankTrace := []
  errorTraces : List DebankTrace := []
  events : List DebankEvent := []
  errorEvents : List DebankEvent := []
  deriving DecidableEq, Repr

/-- A trace goes to those that count, or to the others. -/
def appendTrace (arrays : TraceArrays) (entry : DebankTrace × Bool) : TraceArrays :=
  if entry.2 then { arrays with traces := arrays.traces ++ [entry.1] }
  else { arrays with errorTraces := arrays.errorTraces ++ [entry.1] }

/-- So does an event. -/
def appendEvent (effectiveSucceeded : Bool) (arrays : TraceArrays) (event : DebankEvent) :
    TraceArrays :=
  if effectiveSucceeded then { arrays with events := arrays.events ++ [event] }
  else { arrays with errorEvents := arrays.errorEvents ++ [event] }

/-- The loop over the members: what is inside a call goes into the arrays at once, logs and the
calls themselves wait for the end. -/
def flattenMembers (effectiveSucceeded : Bool) :
    Members → List (DebankTrace × Bool) → List DebankEvent → TraceArrays → TraceArrays
  | .nil, directTraces, logs, arrays =>
    directTraces.foldl appendTrace (logs.foldl (appendEvent effectiveSucceeded) arrays)
  | .leaf event rest, directTraces, logs, arrays =>
    flattenMembers effectiveSucceeded rest directTraces (logs ++ [event]) arrays
  | .node child inner rest, directTraces, logs, arrays =>
    flattenMembers effectiveSucceeded rest
      (directTraces ++ [(child.trace, child.effectiveSucceeded)]) logs
      (flattenMembers child.effectiveSucceeded inner [] [] arrays)

/-- The arrays of what is below a frame. -/
def flattenDescendants (frame : Frame) (members : Members) (arrays : TraceArrays) :
    TraceArrays :=
  flattenMembers frame.effectiveSucceeded members [] [] arrays

/-- The place of the outermost frame. -/
def rootPlace : Place := ⟨"", 0, true, []⟩

/-- The arrays of a transaction, and the index of the next log that survives. -/
def buildDebankTraces (md5 : String → BitVec 128) (txHash : B256) (nodes : List CallTraceNode)
    (exactErrors : List (Option String)) (logIndex : ℕ) :
    Except FormatError (TraceArrays × ℕ) := do
  ensure (exactErrors.length = nodes.length) (.sidecarLength exactErrors.length nodes.length)
  (validateTraceArena nodes).mapError .arena
  match nodes.head? with
  | none => .error (.outOfBounds 0)
  | some root =>
    let ((frame, members), next) ← buildNode md5 (displayHash txHash) nodes exactErrors
      nodes.length rootPlace root logIndex
    pure (flattenDescendants frame members
      (appendTrace {} (frame.trace, frame.effectiveSucceeded)), next)

/-! ### No panic and no divergence -/

/-- An error that the code reports, as against a panic or a recursion without end; the log
index overflows only where it has no room. -/
def FormatError.Reported (room : Prop) (error : FormatError) : Prop :=
  error ≠ .diverges ∧ (room → error ≠ .indexOverflow) ∧ ∀ index, error ≠ .outOfBounds index

section Reports

variable {md5 : String → BitVec 128} {txId : String} {nodes : List CallTraceNode}
  {exactErrors : List (Option String)} {room : Prop} {logIndex : ℕ}

lemma errorText_reports (trace : CallTrace) (status : InstructionResult)
    (exactError : Option String) :
    Satisfies (FormatError.Reported room) (fun _ => True) (errorText trace status exactError) := by
  cases exactError with
  | some error => exact trivial
  | none =>
    rw [errorText]
    split
    · exact trivial
    · split
      · exact ⟨nofun, nofun, nofun⟩
      · exact trivial

lemma openFrame_reports (place : Place) (node : CallTraceNode) :
    Satisfies (FormatError.Reported room) (fun _ => True)
      (openFrame md5 txId exactErrors place node) := by
  rw [openFrame]
  split
  · exact ⟨nofun, nofun, nofun⟩
  · next exactError _ =>
    suffices h : Satisfies (FormatError.Reported room) (fun _ => True)
        (traceFromNode node exactError) from h.bind fun _ _ => trivial
    rw [traceFromNode]
    split
    · exact ⟨nofun, nofun, nofun⟩
    · exact (Satisfies.ensure ⟨nofun, nofun, nofun⟩).bind fun _ _ =>
        (errorText_reports _ _ _).bind fun _ _ => trivial

lemma nextIndex_eq_ok {survives : Bool} {next : ℕ} (h : nextIndex survives logIndex = .ok next) :
    next = if survives then logIndex + 1 else logIndex := by
  cases survives with
  | false => exact (Except.ok.inj h).symm
  | true =>
    rw [nextIndex, if_neg (by decide)] at h
    split at h <;> cases h
    rfl

lemma nextIndex_reports (survives : Bool) (hfits : room → logIndex + 1 < 2 ^ 64) :
    Satisfies (FormatError.Reported room) (fun next => next ≤ logIndex + 1)
      (nextIndex survives logIndex) := by
  rw [nextIndex]
  split
  · exact Nat.le_succ _
  · split
    · exact le_rfl
    · next hover => exact ⟨nofun, fun hroom => absurd (hfits hroom) hover, nofun⟩

/-- The members of what unfolds are built, given a depth of its height and room for its logs. -/
lemma buildMembers_reports {node : CallTraceNode} {ordering : List TraceMemberOrder}
    {tree : CallTree} (h : Unfolds nodes node ordering tree) {depth : ℕ}
    (hdepth : tree.height ≤ depth) (frame : Frame) (position : ℕ)
    (hfits : room → logIndex + tree.leafCount < 2 ^ 64) :
    Satisfies (FormatError.Reported room) (fun out => out.2 ≤ logIndex + tree.leafCount)
      (buildMembers md5 txId nodes (buildNode md5 txId nodes exactErrors depth) frame node
        ordering position logIndex) := by
  induction h generalizing depth frame position logIndex with
  | nil node => exact le_rfl
  | step index _ ih => exact ih hdepth frame position hfits
  | log hlog _ ih =>
    rw [Forest.leafCount] at hfits ⊢
    rw [buildMembers, List.getElem?_eq_getElem hlog]
    refine (nextIndex_reports _ fun hroom => by have := hfits hroom; omega).bind
      fun next hnext => (ih hdepth frame _ fun hroom => ?_).bind
        fun out (hout : out.2 ≤ _) => (show out.2 ≤ _ by omega)
    have := hfits hroom
    omega
  | @call node child ordering inner rest index childIndex hindex hchild _ _ ihInner ihRest =>
    rw [Forest.height] at hdepth
    rw [Forest.leafCount] at hfits ⊢
    obtain ⟨depth, rfl⟩ : ∃ d, depth = d + 1 := ⟨depth - 1, by omega⟩
    rw [buildMembers, hindex]
    dsimp only
    rw [hchild]
    dsimp only
    refine Satisfies.bind (P := fun out => out.2 ≤ logIndex + inner.leafCount) ?_
      fun built (hbuilt : built.2 ≤ _) =>
        (ihRest (by omega) frame _ fun hroom => by have := hfits hroom; omega).bind
          fun out (hout : out.2 ≤ _) => (show out.2 ≤ _ by omega)
    rw [buildNode]
    exact (openFrame_reports _ child).bind fun opened _ =>
      (ihInner (by omega) opened _ fun hroom => by have := hfits hroom; omega).bind
        fun _ hout => hout

/-- The root of an arena that is a tree is built, to a depth of its nodes. -/
lemma buildNode_reports (hvalid : ValidArena nodes (executionTree nodes)) {root : CallTraceNode}
    (hroot : nodes[0]? = some root) (place : Place)
    (hfits : room → logIndex + (executionTree nodes).leafCount < 2 ^ 64) :
    Satisfies (FormatError.Reported room) (fun _ => True)
      (buildNode md5 txId nodes exactErrors nodes.length place root logIndex) := by
  obtain ⟨root', hroot', -, hunfolds⟩ := hvalid.root
  obtain rfl := Option.some.inj (hroot.symm.trans hroot')
  rw [← hvalid.length_eq, buildNode]
  exact (openFrame_reports _ root).bind fun frame _ =>
    (buildMembers_reports hunfolds (executionTree nodes).height_le_length_nodes frame _ hfits).bind
      fun _ _ => trivial

/-- Whatever the arena, the only failures are those that the code reports. -/
lemma buildDebankTraces_reports (txHash : B256) {logIndex : ℕ}
    (hfits : ValidArena nodes (executionTree nodes) → room →
      logIndex + (executionTree nodes).leafCount < 2 ^ 64) :
    Satisfies (FormatError.Reported room) (fun _ => True)
      (buildDebankTraces md5 txHash nodes exactErrors logIndex) := by
  rw [buildDebankTraces]
  refine (Satisfies.ensure ⟨nofun, nofun, nofun⟩).bind fun _ _ => ?_
  cases hvalidate : validateTraceArena nodes with
  | error error => exact ⟨nofun, nofun, nofun⟩
  | ok _ =>
    have hvalid := validateTraceArena_valid hvalidate
    obtain ⟨root, hroot, -⟩ := hvalid.root
    rw [List.head?_eq_getElem?, hroot]
    refine Satisfies.bind (P := fun _ => True) trivial fun _ _ => ?_
    exact (buildNode_reports hvalid hroot _ (hfits hvalid)).bind fun _ _ => trivial

end Reports

end AlethiaReth.Debank
