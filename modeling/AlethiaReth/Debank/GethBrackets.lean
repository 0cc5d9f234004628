import AlethiaReth.Lib.Outcome
import AlethiaReth.Debank.GethError

/-!
What the inspector beside the tracer accepts: a transaction whose texts are returned was a `Body`,
in which starts and ends of frames and steps match (`finishTransaction_sound`).
-/

namespace AlethiaReth.Debank

open MachineInt Outcome

variable (callbacks : List InspectorCallback)

/-- The source does not ask that what starts as a call ends as one. -/
def InspectorCallback.isStart : InspectorCallback → Bool
  | .call | .create => true
  | _ => false

/-- The halt of a precompile that is kept. -/
def InspectorCallback.captured : InspectorCallback → List CapturedPrecompileError
  | .precompileHalt error => capture error
  | _ => []

/-- The precompile that failed. -/
def InspectorCallback.failed : InspectorCallback → List Address
  | .callEnd bytecodeAddress .precompileError => [bytecodeAddress]
  | _ => []

/-- The halts a sequence of callbacks captures, in order. -/
def capturedHalts : List CapturedPrecompileError :=
  callbacks.flatMap InspectorCallback.captured

/-- The precompiles whose frames ended in an error, in order. -/
def failedPrecompiles : List Address :=
  callbacks.flatMap InspectorCallback.failed

/-- The text of a frame before and after one of its steps. -/
inductive StepRecords (pending : PendingStep) (result : Option InstructionResult) :
    Option String → Option String → Prop
  | quiet {own : Option String} (htext : pending.exactError result = none)
      (hresult : result.any requiresExactError = false) : StepRecords pending result own own
  | failed {text : String} (htext : pending.exactError result = some text)
      (hresult : result.any InstructionResult.isHalt = true) :
      StepRecords pending result none (some text)

/-- An ending fits the text of its frame. -/
def EndingFits (own : Option String) (result : InstructionResult) : Prop :=
  (own.isSome → result.isHalt = true) ∧ (own = none → requiresExactError result = false)

/-- The end of a frame with a text, the halts that wait before and after it, and the text
that is kept: its own, or that of the halt that waits longest. -/
inductive Ends (own : Option String) : List CapturedPrecompileError → InspectorCallback →
    List CapturedPrecompileError → Option String → Prop
  | call {queue : List CapturedPrecompileError} {bytecodeAddress : Address}
      {result : InstructionResult} (hne : result ≠ .precompileError)
      (hfits : EndingFits own result) :
      Ends own queue (.callEnd bytecodeAddress result) queue own
  | create {queue : List CapturedPrecompileError} {result : InstructionResult}
      (hfits : EndingFits own result) : Ends own queue (.createEnd result) queue own
  | precompile {queue : List CapturedPrecompileError} {captured : CapturedPrecompileError}
      {text : String} (hown : own = none) (htext : gethPrecompileError captured = .ok text) :
      Ends own (captured :: queue) (.callEnd captured.address .precompileError) queue (some text)

/-- The callbacks of a frame that is open, or of a transaction outside its frames, which has no
steps. -/
inductive Body (opcodes : U8 → Option OpCode) : Bool → List CapturedPrecompileError →
    List InspectorCallback → List CapturedPrecompileError → List (Option String) →
    Option String → Prop
  | nil {inFrame : Bool} {queue : List CapturedPrecompileError} :
      Body opcodes inFrame queue [] queue [] none
  | halt {inFrame : Bool} {queue queue' : List CapturedPrecompileError}
      {callbacks : List InspectorCallback} {errors : List (Option String)} {own : Option String}
      (hbody : Body opcodes inFrame queue callbacks queue' errors own)
      (error : CapturedPrecompileError) :
      Body opcodes inFrame queue (callbacks ++ [.precompileHalt error])
        (queue' ++ capture error) errors own
  | step {queue queue' : List CapturedPrecompileError} {callbacks : List InspectorCallback}
      {errors : List (Option String)} {own own' : Option String}
      (hbody : Body opcodes true queue callbacks queue' errors own) (interp : Interpreter)
      (context : StepContext) (halts : List CapturedPrecompileError)
      {result : Option InstructionResult}
      (hrecords : StepRecords (GethErrorInspector.pendingStepOf opcodes interp context) result
        own own') :
      Body opcodes true queue
        (callbacks ++ .step interp context :: (halts.map .precompileHalt ++ [.stepEnd result]))
        (queue' ++ halts.flatMap capture) errors own'
  | frame {inFrame : Bool} {queue before inside after : List CapturedPrecompileError}
      {callbacks inner : List InspectorCallback} {errors innerErrors : List (Option String)}
      {own innerOwn entry : Option String} {start stop : InspectorCallback}
      (hbody : Body opcodes inFrame queue callbacks before errors own)
      (hstart : start.isStart = true)
      (hinner : Body opcodes true before inner inside innerErrors innerOwn)
      (hends : Ends innerOwn inside stop after entry) :
      Body opcodes inFrame queue (callbacks ++ start :: (inner ++ [stop])) after
        (errors ++ entry :: innerErrors) own

section Bodies

variable {opcodes : U8 → Option OpCode} {inFrame : Bool}
  {queue queue' : List CapturedPrecompileError} {callbacks} {errors : List (Option String)}
  {own : Option String}

lemma InspectorCallback.captured_of_isStart {start : InspectorCallback}
    (h : start.isStart = true) : start.captured = [] ∧ start.failed = [] := by
  cases start <;> first | exact ⟨rfl, rfl⟩ | exact nomatch h

lemma InspectorCallback.failed_callEnd {bytecodeAddress : Address} {result : InstructionResult}
    (h : result ≠ .precompileError) :
    (InspectorCallback.callEnd bytecodeAddress result).failed = [] := by
  cases result <;> first | rfl | exact absurd rfl h

/-- The end of a frame takes from the queue what it names. -/
lemma Ends.consumes {stop : InspectorCallback} {entry : Option String}
    (h : Ends own queue stop queue' entry) :
    stop.isStart = false ∧ stop.captured = [] ∧
      ∃ consumed, queue = consumed ++ queue' ∧ consumed.map (·.address) = stop.failed := by
  cases h with
  | call hne hfits => exact ⟨rfl, rfl, [], rfl, (InspectorCallback.failed_callEnd hne).symm⟩
  | create hfits => exact ⟨rfl, rfl, [], rfl, rfl⟩
  | @precompile _ captured text hown htext => exact ⟨rfl, rfl, [captured], rfl, rfl⟩

/-- There is one text for each start. -/
lemma Body.countP_isStart (h : Body opcodes inFrame queue callbacks queue' errors own) :
    callbacks.countP InspectorCallback.isStart = errors.length := by
  have hhalts (halts : List CapturedPrecompileError) :
      (halts.map InspectorCallback.precompileHalt).countP InspectorCallback.isStart = 0 := by
    simp [List.countP_eq_zero, InspectorCallback.isStart]
  induction h with
  | nil => rfl
  | halt hbody error ih => simp [ih, InspectorCallback.isStart]
  | step hbody interp context halts hrecords ih =>
    simp [ih, hhalts, InspectorCallback.isStart]
  | frame hbody hstart hinner hends ih ihinner =>
    simp only [List.countP_append, List.countP_cons, List.countP_nil, ih, ihinner, hstart,
      hends.consumes.1, List.length_append, List.length_cons, if_true, Bool.false_eq_true,
      if_false]

/-- The halts leave the queue in the order they entered it, each by the end of a frame for its
precompile. -/
lemma Body.consumes (h : Body opcodes inFrame queue callbacks queue' errors own) :
    ∃ consumed, queue ++ capturedHalts callbacks = consumed ++ queue' ∧
      consumed.map (·.address) = failedPrecompiles callbacks := by
  -- what the queue gains is what callbacks capture; only ends of frames take from it
  induction h with
  | nil => exact ⟨[], List.append_nil _, rfl⟩
  | @halt _ queue before callbacks _ _ hbody error ih =>
    obtain ⟨consumed, hqueue, haddresses⟩ := ih
    refine ⟨consumed, ?_, ?_⟩
    · calc queue ++ capturedHalts (callbacks ++ [.precompileHalt error])
          = (queue ++ capturedHalts callbacks) ++ capture error := by
            simp [capturedHalts, InspectorCallback.captured]
        _ = consumed ++ (before ++ capture error) := by rw [hqueue, List.append_assoc]
    · simpa [failedPrecompiles, InspectorCallback.failed] using haddresses
  | @step queue before callbacks _ _ _ hbody interp context halts result hrecords ih =>
    obtain ⟨consumed, hqueue, haddresses⟩ := ih
    refine ⟨consumed, ?_, ?_⟩
    · calc queue ++ capturedHalts (callbacks ++
            .step interp context :: (halts.map .precompileHalt ++ [.stepEnd result]))
          = (queue ++ capturedHalts callbacks) ++ halts.flatMap capture := by
            simp [capturedHalts, InspectorCallback.captured, List.flatMap_map]
        _ = consumed ++ (before ++ halts.flatMap capture) := by
            rw [hqueue, List.append_assoc]
    · have hhalts : halts.flatMap (fun _ => ([] : List Address)) = [] := by simp
      simpa [failedPrecompiles, InspectorCallback.failed, List.flatMap_map, hhalts]
        using haddresses
  | @frame _ queue before inside after callbacks inner _ _ _ _ _ start stop hbody hstart hinner
      hends ih ihinner =>
      obtain ⟨consumed, hqueue, haddresses⟩ := ih
      obtain ⟨consumedInside, hinside, haddressesInside⟩ := ihinner
      obtain ⟨-, hstop, popped, hpopped, haddressPopped⟩ := hends.consumes
      obtain ⟨hstartHalts, hstartFailed⟩ := InspectorCallback.captured_of_isStart hstart
      refine ⟨consumed ++ (consumedInside ++ popped), ?_, ?_⟩
      · calc queue ++ capturedHalts (callbacks ++ start :: (inner ++ [stop]))
            = (queue ++ capturedHalts callbacks) ++ capturedHalts inner := by
              simp [capturedHalts, hstartHalts, hstop]
          _ = consumed ++ (before ++ capturedHalts inner) := by rw [hqueue, List.append_assoc]
          _ = consumed ++ (consumedInside ++ popped) ++ after := by
              rw [hinside, hpopped]
              simp only [List.append_assoc]
      · rw [List.map_append, List.map_append, haddresses, haddressesInside, haddressPopped]
        simp [failedPrecompiles, hstartFailed]

/-- Nothing waits before and after, so the captured halts are the consumed ones. -/
lemma Body.capturedHalts_address (h : Body opcodes inFrame [] callbacks [] errors own) :
    (capturedHalts callbacks).map (·.address) = failedPrecompiles callbacks := by
  obtain ⟨consumed, hqueue, haddresses⟩ := h.consumes
  rw [List.nil_append, List.append_nil] at hqueue
  rw [hqueue, haddresses]

end Bodies

/-! ### Open frames -/

/-- The callbacks so far, split at the starts of the frames that are open; these have no text
among the errors yet. -/
inductive Opened (opcodes : U8 → Option OpCode) : List FrameCapture → List InspectorCallback →
    List CapturedPrecompileError → List (Option String) → Prop
  | outside {callbacks : List InspectorCallback} {queue : List CapturedPrecompileError}
      {errors : List (Option String)}
      (hbody : Body opcodes false [] callbacks queue errors none) :
      Opened opcodes [] callbacks queue errors
  | inside {frames : List FrameCapture} {callbacks inner : List InspectorCallback}
      {queue queue' : List CapturedPrecompileError} {errors innerErrors : List (Option String)}
      {own : Option String} {start : InspectorCallback}
      (hopened : Opened opcodes frames callbacks queue errors) (hstart : start.isStart = true)
      (hbody : Body opcodes true queue inner queue' innerErrors own) :
      Opened opcodes (⟨errors.length, own⟩ :: frames) (callbacks ++ start :: inner) queue'
        (errors ++ none :: innerErrors)

namespace Opened

variable {opcodes : U8 → Option OpCode} {frame : FrameCapture} {frames : List FrameCapture}
  {callbacks} {queue queue' : List CapturedPrecompileError} {errors : List (Option String)}

lemma start (h : Opened opcodes frames callbacks queue errors) {start : InspectorCallback}
    (hstart : start.isStart = true) :
    Opened opcodes (⟨errors.length, none⟩ :: frames) (callbacks ++ [start]) queue
      (errors ++ [none]) :=
  h.inside hstart .nil

lemma halt (h : Opened opcodes frames callbacks queue errors) (error : CapturedPrecompileError) :
    Opened opcodes frames (callbacks ++ [.precompileHalt error]) (queue ++ capture error)
      errors := by
  cases h with
  | outside hbody => exact .outside (hbody.halt error)
  | inside hopened hstart hbody =>
    rw [List.append_assoc, List.cons_append]
    exact hopened.inside hstart (hbody.halt error)

lemma step (h : Opened opcodes (frame :: frames) callbacks queue errors) (interp : Interpreter)
    (context : StepContext) (halts : List CapturedPrecompileError)
    {result : Option InstructionResult} {own : Option String}
    (hrecords : StepRecords (GethErrorInspector.pendingStepOf opcodes interp context) result
      frame.exactError own) :
    Opened opcodes (⟨frame.nodeIndex, own⟩ :: frames)
      (callbacks ++ .step interp context :: (halts.map .precompileHalt ++ [.stepEnd result]))
      (queue ++ halts.flatMap capture) errors := by
  cases h with
  | inside hopened hstart hbody =>
    rw [List.append_assoc, List.cons_append]
    exact hopened.inside hstart (hbody.step interp context halts hrecords)

/-- The frame that ends becomes part of the body of the one around it. -/
lemma stop (h : Opened opcodes (frame :: frames) callbacks queue errors)
    {stop : InspectorCallback} {entry : Option String}
    (hends : Ends frame.exactError queue stop queue' entry) :
    Opened opcodes frames (callbacks ++ [stop]) queue' (errors.set frame.nodeIndex entry) := by
  cases h with
  | @inside _ before inner _ _ outerErrors innerErrors own start hopened hstart hbody =>
    have hset : (outerErrors ++ none :: innerErrors).set outerErrors.length entry =
        outerErrors ++ entry :: innerErrors := by
      simp
    rw [List.append_assoc, List.cons_append, hset]
    cases hopened with
    | outside houter => exact .outside (houter.frame hstart hbody hends)
    | inside hopened hstart' houter =>
      rw [List.append_assoc, List.cons_append, List.append_assoc, List.cons_append]
      exact hopened.inside hstart' (houter.frame hstart hbody hends)

end Opened

/-! ### What a callback without a fault does -/

namespace GethErrorInspector

variable {opcodes : U8 → Option OpCode} {s s' : GethErrorInspector} {interp : Interpreter}
  {context : StepContext} {result : Option InstructionResult} {bytecodeAddress : Address}

@[simp] lemma recordFault_frames (s : GethErrorInspector) (detail : GethFault) :
    (s.recordFault detail).frames = s.frames := by
  rw [recordFault]
  split <;> rfl

@[simp] lemma recordFault_errors (s : GethErrorInspector) (detail : GethFault) :
    (s.recordFault detail).errors = s.errors := by
  rw [recordFault]
  split <;> rfl

@[simp] lemma recordFault_fault (s : GethErrorInspector) (detail : GethFault) :
    (s.recordFault detail).fault = some (s.fault.getD detail) := by
  rw [recordFault]
  cases h : s.fault with
  | none => simp
  | some earlier => simp [h]

@[simp] lemma recordFaultIf_frames (s : GethErrorInspector) (condition : Bool)
    (detail : GethFault) : (s.recordFaultIf condition detail).frames = s.frames := by
  cases condition <;> simp [recordFaultIf]

@[simp] lemma recordFaultIf_errors (s : GethErrorInspector) (condition : Bool)
    (detail : GethFault) : (s.recordFaultIf condition detail).errors = s.errors := by
  cases condition <;> simp [recordFaultIf]

lemma recordFaultIf_quiet {condition : Bool} {detail : GethFault}
    (h : (s.recordFaultIf condition detail).fault = none) :
    condition = false ∧ s.recordFaultIf condition detail = s := by
  cases condition with
  | false => exact ⟨rfl, rfl⟩
  | true => simp [recordFaultIf] at h

lemma startFrame_quiet (h : s.startFrame.fault = none) :
    s.fault = none ∧ s.pendingStep = none ∧ s.startFrame =
      { s with errors := s.errors ++ [none], frames := ⟨s.errors.length, none⟩ :: s.frames } := by
  simp only [startFrame] at h ⊢
  obtain ⟨hpending, hquiet⟩ := recordFaultIf_quiet h
  rw [hquiet] at h ⊢
  exact ⟨h, by simpa using hpending, rfl⟩

lemma inspectStep_quiet (h : (s.inspectStep opcodes interp context).fault = none) :
    s.fault = none ∧ s.frames ≠ [] ∧ s.pendingStep = none ∧
      s.inspectStep opcodes interp context =
        { s with pendingStep := some (pendingStepOf opcodes interp context) } := by
  rw [inspectStep] at h ⊢
  split_ifs at h ⊢ with hframes hpending
  · simp at h
  · simp at h
  · exact ⟨h, by simpa using hframes, by simpa using hpending, rfl⟩

lemma replaceExactError_quiet {text : String} {noFrame : GethFault} {duplicate : ℕ → GethFault}
    (h : (s.replaceExactError text noFrame duplicate).fault = none) :
    ∃ frame frames, s.frames = frame :: frames ∧ frame.exactError = none ∧ s.fault = none ∧
      s.replaceExactError text noFrame duplicate =
        { s with frames := ⟨frame.nodeIndex, some text⟩ :: frames } := by
  rw [replaceExactError] at h ⊢
  cases hframes : s.frames with
  | nil => simp [hframes] at h
  | cons frame frames =>
    simp only [hframes] at h ⊢
    split_ifs at h ⊢ with hown
    · simp at h
    · exact ⟨frame, frames, rfl, by simpa using hown, h, rfl⟩

/-- The end of a step that waited in a frame records its text there. -/
lemma inspectStepEnd_quiet (h : (s.inspectStepEnd result).fault = none) :
    s.fault = none ∧ ∃ pending, s.pendingStep = some pending ∧
      ∀ frame frames, s.frames = frame :: frames →
        ∃ own, StepRecords pending result frame.exactError own ∧
          s.inspectStepEnd result =
            { s with pendingStep := none, frames := ⟨frame.nodeIndex, own⟩ :: frames } := by
  rw [inspectStepEnd] at h ⊢
  cases hpending : s.pendingStep with
  | none => simp [hpending] at h
  | some pending =>
    simp only [hpending] at h ⊢
    cases htext : pending.exactError result with
    | none =>
      simp only [htext] at h ⊢
      split_ifs at h ⊢ with hrequires
      · simp at h
      · refine ⟨h, pending, rfl, ?_⟩
        intro frame frames hframes
        refine ⟨frame.exactError, .quiet htext (by simpa using hrequires), ?_⟩
        rw [← hframes]
    | some text =>
      simp only [htext] at h ⊢
      split_ifs at h ⊢ with hhalt
      · obtain ⟨frame, frames, hframes, hown, hfault, hreplace⟩ := replaceExactError_quiet h
        refine ⟨hfault, pending, rfl, ?_⟩
        intro frame' frames' hframes'
        obtain ⟨rfl, rfl⟩ := List.cons.inj (hframes.symm.trans hframes')
        refine ⟨some text, ?_, hreplace⟩
        rw [hown]
        exact .failed htext hhalt
      · simp at h

lemma inspectPrecompileError_quiet (h : (s.inspectPrecompileError bytecodeAddress).fault = none) :
    ∃ captured queue text frame frames, s.precompileErrors = captured :: queue ∧
      captured.address = bytecodeAddress ∧ gethPrecompileError captured = .ok text ∧
      s.frames = frame :: frames ∧ frame.exactError = none ∧ s.fault = none ∧
      s.inspectPrecompileError bytecodeAddress =
        { s with
          precompileErrors := queue, frames := ⟨frame.nodeIndex, some text⟩ :: frames } := by
  rw [inspectPrecompileError] at h ⊢
  cases hqueue : s.precompileErrors with
  | nil => simp [hqueue] at h
  | cons captured queue =>
    simp only [hqueue] at h ⊢
    split_ifs at h ⊢ with haddress
    · simp at h
    · cases htext : gethPrecompileError captured with
      | error detail => simp [htext] at h
      | ok text =>
        simp only [htext] at h ⊢
        obtain ⟨frame, frames, hframes, hown, hfault, hreplace⟩ := replaceExactError_quiet h
        exact ⟨captured, queue, text, frame, frames, rfl, not_not.mp haddress, htext, hframes,
          hown, hfault, hreplace⟩

lemma endFrame_quiet {result : InstructionResult} (h : s.endFrame result = .ok s')
    (hfault : s'.fault = none) :
    s.fault = none ∧ s.pendingStep = none ∧ ∃ frame frames, s.frames = frame :: frames ∧
      EndingFits frame.exactError result ∧
      s' = { s with frames := frames
                    errors := s.errors.set frame.nodeIndex frame.exactError } := by
  simp only [endFrame, recordFaultIf_frames] at h
  cases hframes : s.frames with
  | nil =>
    simp only [hframes] at h
    obtain rfl := Except.ok.inj h
    simp at hfault
  | cons frame frames =>
    simp only [hframes] at h
    split_ifs at h with hindex
    obtain rfl := Except.ok.inj h
    -- the checks are peeled off from the last to the first
    obtain ⟨hexact, hquiet⟩ := recordFaultIf_quiet hfault
    simp only [hquiet] at hfault ⊢
    obtain ⟨hhalt, hquiet⟩ := recordFaultIf_quiet hfault
    simp only [hquiet] at hfault ⊢
    obtain ⟨hpending, hquiet⟩ := recordFaultIf_quiet hfault
    simp only [hquiet] at hfault ⊢
    have hpending : s.pendingStep = none := by simpa using hpending
    refine ⟨hfault, hpending, frame, frames, rfl, ⟨?_, ?_⟩, ?_⟩
    · intro hown
      simpa [hown] using hhalt
    · intro hown
      simpa [hown] using hexact
    · rw [hpending]

/-! ### Indices -/

/-- Every open frame has its place among the errors. -/
def InBounds (s : GethErrorInspector) : Prop :=
  ∀ frame ∈ s.frames, frame.nodeIndex < s.errors.length

lemma InBounds.recordFault (h : s.InBounds) (detail : GethFault) :
    (s.recordFault detail).InBounds := by
  simpa [InBounds] using h

lemma InBounds.startFrame (h : s.InBounds) : s.startFrame.InBounds := by
  intro frame hmem
  simp only [GethErrorInspector.startFrame, recordFaultIf_frames, recordFaultIf_errors,
    List.mem_cons, List.length_append, List.length_singleton] at hmem ⊢
  rcases hmem with rfl | hmem
  · exact Nat.lt_succ_self _
  · exact Nat.lt_succ_of_lt (h frame hmem)

lemma InBounds.inspectStep (h : s.InBounds) (interp : Interpreter) (context : StepContext) :
    (s.inspectStep opcodes interp context).InBounds := by
  rw [GethErrorInspector.inspectStep]
  split_ifs
  · exact h.recordFault _
  · exact h.recordFault _
  · exact h

lemma InBounds.replaceExactError (h : s.InBounds) (text : String) (noFrame : GethFault)
    (duplicate : ℕ → GethFault) : (s.replaceExactError text noFrame duplicate).InBounds := by
  rw [GethErrorInspector.replaceExactError]
  cases hframes : s.frames with
  | nil => exact h.recordFault _
  | cons frame frames =>
    have hreplaced : InBounds { s with
        frames := { frame with exactError := some text } :: frames } := by
      intro other hmem
      rcases List.mem_cons.mp hmem with rfl | hmem
      · exact h frame (hframes ▸ List.mem_cons_self)
      · exact h other (hframes ▸ List.mem_cons_of_mem _ hmem)
    dsimp only
    split_ifs
    · exact hreplaced.recordFault _
    · exact hreplaced

lemma InBounds.inspectStepEnd (h : s.InBounds) (result : Option InstructionResult) :
    (s.inspectStepEnd result).InBounds := by
  rw [GethErrorInspector.inspectStepEnd]
  cases s.pendingStep with
  | none => exact h.recordFault _
  | some pending =>
    have h' : InBounds { s with pendingStep := none } := h
    dsimp only
    cases pending.exactError result with
    | none =>
      dsimp only
      split_ifs
      · exact h'.recordFault _
      · exact h'
    | some text =>
      dsimp only
      split_ifs
      · exact h'.replaceExactError _ _ _
      · exact h'.recordFault _

lemma InBounds.inspectPrecompileError (h : s.InBounds) (bytecodeAddress : Address) :
    (s.inspectPrecompileError bytecodeAddress).InBounds := by
  rw [GethErrorInspector.inspectPrecompileError]
  cases s.precompileErrors with
  | nil => exact h.recordFault _
  | cons captured queue =>
    have h' : InBounds { s with precompileErrors := queue } := h
    dsimp only
    split_ifs
    · exact h'.recordFault _
    · cases gethPrecompileError captured with
      | error detail => exact h'.recordFault _
      | ok text => exact h'.replaceExactError _ _ _

/-- The only index of the inspector is in range. -/
lemma InBounds.endFrame (h : s.InBounds) (result : InstructionResult) :
    ∃ s', s.endFrame result = .ok s' ∧ s'.InBounds := by
  simp only [GethErrorInspector.endFrame, recordFaultIf_frames, recordFaultIf_errors]
  cases hframes : s.frames with
  | nil =>
    refine ⟨_, rfl, ?_⟩
    intro frame hmem
    simp at hmem
  | cons frame frames =>
    dsimp only
    rw [if_pos (h frame (hframes ▸ List.mem_cons_self))]
    refine ⟨_, rfl, ?_⟩
    intro other hmem
    simp only [List.length_set] at hmem ⊢
    exact h other (hframes ▸ List.mem_cons_of_mem _ hmem)

lemma InBounds.inspect (h : s.InBounds) (opcodes : U8 → Option OpCode)
    (callback : InspectorCallback) :
    ∃ s', s.inspect opcodes callback = .ok s' ∧ s'.InBounds := by
  cases callback with
  | call => exact ⟨_, rfl, h.startFrame⟩
  | create => exact ⟨_, rfl, h.startFrame⟩
  | step interp context => exact ⟨_, rfl, h.inspectStep interp context⟩
  | stepEnd result => exact ⟨_, rfl, h.inspectStepEnd result⟩
  | precompileHalt error => exact ⟨_, rfl, h⟩
  | createEnd result => exact h.endFrame result
  | callEnd bytecodeAddress result =>
    rw [GethErrorInspector.inspect]
    split_ifs
    · exact (h.inspectPrecompileError bytecodeAddress).endFrame result
    · exact h.endFrame result

/-! ### What an inspector has read -/

/-- What an inspector without a fault has read: whole steps and frames but for those that are
open, and perhaps a step that waits for its end. -/
inductive Reads (opcodes : U8 → Option OpCode) (s : GethErrorInspector) :
    List InspectorCallback → Prop
  | idle {callbacks : List InspectorCallback} (hpending : s.pendingStep = none)
      (hopened : Opened opcodes s.frames callbacks s.precompileErrors s.errors) :
      Reads opcodes s callbacks
  | stepping {frame : FrameCapture} {frames : List FrameCapture} {interp : Interpreter}
      {context : StepContext} {callbacks : List InspectorCallback}
      {queue halts : List CapturedPrecompileError} (hframes : s.frames = frame :: frames)
      (hpending : s.pendingStep = some (pendingStepOf opcodes interp context))
      (hqueue : s.precompileErrors = queue ++ halts.flatMap capture)
      (hopened : Opened opcodes (frame :: frames) callbacks queue s.errors) :
      Reads opcodes s (callbacks ++ .step interp context :: halts.map .precompileHalt)

/-- Without a step that waits, the callbacks split at the open frames. -/
lemma Reads.opened {callbacks : List InspectorCallback} (h : Reads opcodes s callbacks)
    (hpending : s.pendingStep = none) :
    Opened opcodes s.frames callbacks s.precompileErrors s.errors := by
  cases h with
  | idle _ hopened => exact hopened
  | stepping _ hpending' _ _ => exact nomatch hpending.symm.trans hpending'

variable {callbacks}

lemma reads_startFrame (hreads : s.fault = none → Reads opcodes s callbacks)
    {start : InspectorCallback} (hstart : start.isStart = true)
    (hfault : s.startFrame.fault = none) :
    Reads opcodes s.startFrame (callbacks ++ [start]) := by
  obtain ⟨hquiet, hpending, heq⟩ := startFrame_quiet hfault
  have hopened := (hreads hquiet).opened hpending
  rw [heq]
  exact .idle hpending (hopened.start hstart)

lemma reads_inspectStep (hreads : s.fault = none → Reads opcodes s callbacks)
    (hfault : (s.inspectStep opcodes interp context).fault = none) :
    Reads opcodes (s.inspectStep opcodes interp context)
      (callbacks ++ [.step interp context]) := by
  obtain ⟨hquiet, hframes, hpending, heq⟩ := inspectStep_quiet hfault
  have hopened := (hreads hquiet).opened hpending
  obtain ⟨frame, frames, hcons⟩ := List.exists_cons_of_ne_nil hframes
  have hqueue : s.precompileErrors =
      s.precompileErrors ++ ([] : List CapturedPrecompileError).flatMap capture := by simp
  rw [hcons] at hopened
  rw [heq]
  exact .stepping (s := { s with pendingStep := some (pendingStepOf opcodes interp context) })
    hcons rfl hqueue hopened

lemma reads_inspectStepEnd (hreads : s.fault = none → Reads opcodes s callbacks)
    (hfault : (s.inspectStepEnd result).fault = none) :
    Reads opcodes (s.inspectStepEnd result) (callbacks ++ [.stepEnd result]) := by
  obtain ⟨hquiet, pending, hpending, hrecords⟩ := inspectStepEnd_quiet hfault
  cases hreads hquiet with
  | idle hidle _ => exact nomatch hpending.symm.trans hidle
  | @stepping frame frames interp context _ queue halts hframes hstep hqueue hopened =>
    obtain ⟨own, hown, heq⟩ := hrecords frame frames hframes
    obtain rfl := Option.some.inj (hpending.symm.trans hstep)
    have hopened' := hopened.step interp context halts hown
    rw [List.append_assoc, List.cons_append, heq]
    refine .idle rfl ?_
    rw [← hqueue] at hopened'
    exact hopened'

lemma reads_precompileHalt (hreads : Reads opcodes s callbacks) (error : CapturedPrecompileError) :
    Reads opcodes { s with precompileErrors := s.precompileErrors ++ capture error }
      (callbacks ++ [.precompileHalt error]) := by
  cases hreads with
  | idle hpending hopened => exact .idle hpending (hopened.halt error)
  | @stepping _ _ interp context before queue halts hframes hpending hqueue hopened =>
    have hqueue' : s.precompileErrors ++ capture error =
        queue ++ (halts ++ [error]).flatMap capture := by
      rw [hqueue, List.append_assoc, List.flatMap_append, List.flatMap_singleton]
    have hmap : before ++ InspectorCallback.step interp context :: halts.map .precompileHalt ++
        [.precompileHalt error] =
          before ++ .step interp context :: (halts ++ [error]).map .precompileHalt := by
      simp
    rw [hmap]
    exact .stepping (s := { s with precompileErrors := _ }) hframes hpending hqueue' hopened

/-- The end of a frame, once the text of a failed precompile is in it. -/
lemma reads_endFrame (hreads : s.fault = none → Reads opcodes s callbacks)
    {result : InstructionResult} (h : s.endFrame result = .ok s') (hfault : s'.fault = none)
    {stop : InspectorCallback}
    (hstop : ∀ own queue, EndingFits own result → Ends own queue stop queue own) :
    Reads opcodes s' (callbacks ++ [stop]) := by
  obtain ⟨hquiet, hpending, frame, frames, hframes, hfits, rfl⟩ := endFrame_quiet h hfault
  have hopened := (hreads hquiet).opened hpending
  rw [hframes] at hopened
  exact .idle hpending (hopened.stop (hstop _ _ hfits))

lemma reads_callEnd (hreads : s.fault = none → Reads opcodes s callbacks)
    {result : InstructionResult} (h : s.inspect opcodes (.callEnd bytecodeAddress result) = .ok s')
    (hfault : s'.fault = none) :
    Reads opcodes s' (callbacks ++ [.callEnd bytecodeAddress result]) := by
  rw [inspect] at h
  split_ifs at h with hresult
  · subst hresult
    obtain ⟨hquiet, hpending, frame, frames, hframes, -, rfl⟩ := endFrame_quiet h hfault
    obtain ⟨captured, queue, text, frame', frames', hqueue, rfl, htext, hframes', hown, hfault',
      heq⟩ := inspectPrecompileError_quiet hquiet
    rw [heq] at hpending hframes ⊢
    obtain ⟨rfl, rfl⟩ := List.cons.inj hframes
    have hopened := (hreads hfault').opened hpending
    rw [hframes', hqueue] at hopened
    exact .idle hpending (hopened.stop (.precompile hown htext))
  · exact reads_endFrame hreads h hfault fun _ _ hfits => .call hresult hfits

/-- One callback: an inspector that is still without a fault has read one more. -/
lemma reads_inspect (hreads : s.fault = none → Reads opcodes s callbacks)
    {callback : InspectorCallback} (h : s.inspect opcodes callback = .ok s')
    (hfault : s'.fault = none) : Reads opcodes s' (callbacks ++ [callback]) := by
  cases callback with
  | call =>
    obtain rfl := Except.ok.inj h
    exact reads_startFrame hreads rfl hfault
  | create =>
    obtain rfl := Except.ok.inj h
    exact reads_startFrame hreads rfl hfault
  | step interp context =>
    obtain rfl := Except.ok.inj h
    exact reads_inspectStep hreads hfault
  | stepEnd result =>
    obtain rfl := Except.ok.inj h
    exact reads_inspectStepEnd hreads hfault
  | precompileHalt error =>
    obtain rfl := Except.ok.inj h
    exact reads_precompileHalt (hreads hfault) error
  | callEnd bytecodeAddress result => exact reads_callEnd hreads h hfault
  | createEnd result => exact reads_endFrame hreads h hfault fun _ _ hfits => .create hfits

/-- A whole run from a fresh inspector never panics, and without a fault it has read its
callbacks. -/
lemma inspectAll_reads (opcodes : U8 → Option OpCode) (callbacks : List InspectorCallback) :
    ∃ s, inspectAll opcodes {} callbacks = .ok s ∧ s.InBounds ∧
      (s.fault = none → Reads opcodes s callbacks) := by
  induction callbacks using List.reverseRecOn with
  | nil =>
    refine ⟨{}, rfl, ?_, ?_⟩
    · intro frame hmem
      exact nomatch hmem
    · exact fun _ => .idle rfl (.outside .nil)
  | append_singleton callbacks callback ih =>
    obtain ⟨s, hrun, hbounds, hreads⟩ := ih
    obtain ⟨s', hstep, hbounds'⟩ := hbounds.inspect opcodes callback
    refine ⟨s', ?_, hbounds', reads_inspect hreads hstep⟩
    rw [inspectAll, List.foldlM_append]
    exact bind_eq_ok.mpr ⟨s, hrun, bind_eq_ok.mpr ⟨s', hstep, rfl⟩⟩

/-! ### The end of a transaction -/

/-- A check of the end finds a fault unless there is one already. -/
lemma endCheck_eq_none {fault : Option GethFault} {condition : Prop} [Decidable condition]
    {detail : GethFault} :
    (if fault.isNone ∧ condition then some detail else fault) = none ↔
      fault = none ∧ ¬condition := by
  cases fault with
  | none => simp
  | some earlier => simp

/-- Texts are returned only by an inspector without a fault that waits for nothing. -/
lemma finishTransaction_eq_ok {expectedNodes : ℕ} {errors : List (Option String)}
    (h : (s.finishTransaction expectedNodes).1 = .ok errors) :
    s.fault = none ∧ s.pendingStep = none ∧ s.frames = [] ∧ s.errors.length = expectedNodes ∧
      s.precompileErrors = [] ∧ s.errors = errors := by
  simp only [finishTransaction] at h
  split at h
  · exact nomatch h
  · rename_i hfault
    simp only [endCheck_eq_none] at hfault
    obtain ⟨⟨⟨⟨hfault, hpending⟩, hframes⟩, hcount⟩, hqueue⟩ := hfault
    exact ⟨hfault, by simpa using hpending, by simpa using hframes, not_not.mp hcount,
      by simpa using hqueue, Except.ok.inj h⟩

/-- The inspector over any sequence of callbacks: it never indexes out of range, it returns
texts only for a well formed sequence with as many frames as expected, one for each frame in
the order they start, and after the end of the transaction it is a fresh one. -/
theorem finishTransaction_sound (opcodes : U8 → Option OpCode)
    (callbacks : List InspectorCallback) (expectedNodes : ℕ) :
    ∃ s, inspectAll opcodes {} callbacks = .ok s ∧
      (∀ errors, (s.finishTransaction expectedNodes).1 = .ok errors →
        Body opcodes false [] callbacks [] errors none ∧
        callbacks.countP InspectorCallback.isStart = expectedNodes ∧
        errors.length = expectedNodes ∧
        (capturedHalts callbacks).map (·.address) = failedPrecompiles callbacks) ∧
      (s.finishTransaction expectedNodes).2 = {} ∧
      ∀ further, inspectAll opcodes (s.finishTransaction expectedNodes).2 further =
        inspectAll opcodes {} further := by
  obtain ⟨s, hrun, -, hreads⟩ := inspectAll_reads opcodes callbacks
  refine ⟨s, hrun, ?_, rfl, fun _ => rfl⟩
  intro errors hfinish
  obtain ⟨hfault, hpending, hframes, hcount, hqueue, rfl⟩ := finishTransaction_eq_ok hfinish
  have hopened := (hreads hfault).opened hpending
  rw [hframes, hqueue] at hopened
  cases hopened with
  | outside hbody =>
    exact ⟨hbody, hbody.countP_isStart.trans hcount, hcount, hbody.capturedHalts_address⟩

/-- A call to a precompile that halts, inside a frame that stops. -/
def precompileRun : List InspectorCallback :=
  [.call,
    .step ⟨0x00, .shanghai, [], 100⟩ ⟨100, 2500, fun _ => false⟩, .stepEnd none,
    .call, .precompileHalt ⟨0x09, [], .blake2WrongLength⟩, .callEnd 0x09 .precompileError,
    .callEnd 0x77 .stop]

/-- A call of a precompile that halts. -/
theorem finishTransaction_sound_precompile :
    ∃ s, inspectAll (fun _ => some ⟨"STOP", 0, 0⟩) {} precompileRun = .ok s ∧
      (s.finishTransaction 2).1 = .ok [none, some "invalid input length"] ∧
      Body (fun _ => some ⟨"STOP", 0, 0⟩) false [] precompileRun []
        [none, some "invalid input length"] none := by
  obtain ⟨s, hrun, hreturned, -⟩ :=
    finishTransaction_sound (fun _ => some ⟨"STOP", 0, 0⟩) precompileRun 2
  have hs : s = { errors := [none, some "invalid input length"] } :=
    Except.ok.inj (hrun.symm.trans rfl)
  have hfinish : (s.finishTransaction 2).1 = .ok [none, some "invalid input length"] := by
    rw [hs]
    rfl
  exact ⟨s, hrun, hfinish, (hreturned _ hfinish).1⟩

end GethErrorInspector

end AlethiaReth.Debank
