import TypedQuery.Context
import TypedQuery.Error.Basic

/-!
# Runs and their traces

A run is what happens when the engine serves a request: the calls it makes to callbacks,
in order, and the outcome. Callbacks are runs themselves, so a call in a trace carries the
trace of the callback it went to. A failure ends a run; what went before stays in its
trace. The trace of a sequence is the concatenation of the traces, which makes the order of
calls a plain statement about lists.
-/

namespace TypedQuery

/-- Whether elements of an array may be null. -/
structure ArrayRule where
  nullElements : Bool
deriving DecidableEq

/-- A type as a declaration names it. -/
inductive TypeName where
  | scalar (name : String)
  | object (name : String)
  | input (name : String)
  | lookup (name : String)
deriving DecidableEq

/-- A declared slot with its type by name only. -/
structure SlotSummary where
  type : TypeName
  required : Bool
  nullable : Bool
  array : Option ArrayRule
deriving DecidableEq

/-- What the guard of a field is shown. -/
structure GuardRequest where
  context : Context
  path : FieldPath
  /-- The declared arguments of the field. -/
  slot : Option SlotSummary
  /-- What the client wrote for the field. -/
  query : Json
  operation : String

/-- What the resolver of an operation is shown. -/
structure OperationRequest where
  context : Context
  path : FieldPath
  args : Option Json
  /-- The client's selection without its arguments. -/
  selection : List (String × Json)
  operation : String

/-- What the resolver of a field is shown. -/
structure FieldRequest where
  context : Context
  path : FieldPath
  args : Option Json
  /-- The client's selection without its arguments. -/
  selection : List (String × Json)
  /-- What the parent holds under the name of the field. -/
  value : Json
  parent : List (String × Json)
  operation : String

/-- A call that the engine makes, with everything the callback is shown. -/
inductive Call where
  | guard (request : GuardRequest)
  | checkInput (type : String) (members : List (String × Json)) (path : FieldPath)
  | parse (scalar : String) (value : Json)
  | serialize (scalar : String) (value : Json)
  | resolveOperation (request : OperationRequest)
  | resolveField (request : FieldRequest)
  | deriveArgs (operation : String) (context : Context)

/-- A call with all that happened inside it, or a line that a callback noted down. -/
inductive Event where
  | call (call : Call) (inner : List Event)
  | note (text : String)

mutual

/-- The lines noted down in the course of an event, those of inner calls included. -/
def Event.notes : Event → List String
  | .call _ inner => Event.allNotes inner
  | .note text => [text]
termination_by structural event => event

/-- The lines noted down in the course of a trace. -/
def Event.allNotes : List Event → List String
  | [] => []
  | event :: rest => event.notes ++ Event.allNotes rest
termination_by structural trace => trace

end

structure Run (ε α : Type) where
  trace : List Event
  outcome : Except ε α

namespace Run

variable {ε ε' α β : Type}

def fail (error : ε) : Run ε α := ⟨[], .error error⟩

def ofExcept (outcome : Except ε α) : Run ε α := ⟨[], outcome⟩

/-- A run that notes a line down and does nothing else. -/
def note (text : String) : Run ε Unit := ⟨[.note text], .ok ()⟩

protected def bind (run : Run ε α) (next : α → Run ε β) : Run ε β :=
  match run.outcome with
  | .ok value => ⟨run.trace ++ (next value).trace, (next value).outcome⟩
  | .error error => ⟨run.trace, .error error⟩

instance : Monad (Run ε) where
  pure value := ⟨[], .ok value⟩
  bind := Run.bind

def mapError (f : ε → ε') (run : Run ε α) : Run ε' α :=
  match run.outcome with
  | .ok value => ⟨run.trace, .ok value⟩
  | .error error => ⟨run.trace, .error (f error)⟩

/-- Attributes a failure to a field unless it is attributed already. -/
def attachPath (path : FieldPath) (run : Run Error α) : Run Error α :=
  run.mapError (·.attachPath path)

/-- Makes a call: the trace shows the call, and within it the trace of the callback. -/
def invoke (call : Call) (callback : Run Fault α) : Run Fault α :=
  ⟨[.call call callback.trace], callback.outcome⟩

/-- The same run with a failure of a callback turned into an error. -/
def recover (run : Run Fault α) : Run Error α := run.mapError Error.ofFault

/-- Runs over a list in order and collects the values; the first failure ends the run. -/
def traverse (f : α → Run ε β) : List α → Run ε (List β)
  | [] => pure []
  | first :: rest => do
    let value ← f first
    let values ← traverse f rest
    return value :: values

@[simp] theorem trace_pure (value : α) : (pure value : Run ε α).trace = [] := rfl

@[simp] theorem outcome_pure (value : α) : (pure value : Run ε α).outcome = .ok value := rfl

@[simp] theorem trace_fail (error : ε) : (fail error : Run ε α).trace = [] := rfl

@[simp] theorem outcome_fail (error : ε) : (fail error : Run ε α).outcome = .error error := rfl

@[simp] theorem trace_ofExcept (outcome : Except ε α) : (ofExcept outcome).trace = [] := rfl

@[simp] theorem outcome_ofExcept (outcome : Except ε α) :
    (ofExcept outcome).outcome = outcome := rfl

@[simp] theorem trace_invoke (call : Call) (callback : Run Fault α) :
    (invoke call callback).trace = [.call call callback.trace] := rfl

@[simp] theorem outcome_invoke (call : Call) (callback : Run Fault α) :
    (invoke call callback).outcome = callback.outcome := rfl

@[simp] theorem trace_mapError (f : ε → ε') (run : Run ε α) :
    (run.mapError f).trace = run.trace := by
  unfold mapError; split <;> rfl

@[simp] theorem outcome_mapError (f : ε → ε') (run : Run ε α) :
    (run.mapError f).outcome = run.outcome.mapError f := by
  unfold mapError; split <;> rename_i h <;> rw [h] <;> rfl

@[simp] theorem trace_attachPath (path : FieldPath) (run : Run Error α) :
    (run.attachPath path).trace = run.trace := trace_mapError ..

@[simp] theorem outcome_attachPath (path : FieldPath) (run : Run Error α) :
    (run.attachPath path).outcome = run.outcome.mapError (·.attachPath path) :=
  outcome_mapError ..

/-- A run is its trace and its outcome. -/
theorem ext_iff {run other : Run ε α} :
    run = other ↔ run.trace = other.trace ∧ run.outcome = other.outcome := by
  obtain ⟨trace, outcome⟩ := run
  obtain ⟨trace', outcome'⟩ := other
  simp

theorem bind_of_ok {run : Run ε α} {value : α} (h : run.outcome = .ok value)
    (next : α → Run ε β) :
    run >>= next = ⟨run.trace ++ (next value).trace, (next value).outcome⟩ := by
  show Run.bind run next = _
  unfold Run.bind
  rw [h]

theorem bind_of_error {run : Run ε α} {error : ε} (h : run.outcome = .error error)
    (next : α → Run ε β) : run >>= next = ⟨run.trace, .error error⟩ := by
  show Run.bind run next = _
  unfold Run.bind
  rw [h]

@[simp] theorem fail_bind (error : ε) (next : α → Run ε β) :
    (fail error : Run ε α) >>= next = fail error := rfl

private theorem id_map_run (run : Run ε α) : id <$> run = run := by
  obtain ⟨trace, outcome⟩ := run
  cases outcome
  · rfl
  · show Run.mk (trace ++ []) _ = _
    rw [List.append_nil]; rfl

private theorem bind_bind_run {γ : Type} (run : Run ε α) (f : α → Run ε β) (g : β → Run ε γ) :
    run >>= f >>= g = run >>= fun value => f value >>= g := by
  obtain ⟨trace, outcome⟩ := run
  cases outcome with
  | error => rfl
  | ok value =>
    cases h : (f value).outcome with
    | error e =>
      have left : ((⟨trace, .ok value⟩ : Run ε α) >>= f).outcome = .error e := by
        rw [bind_of_ok rfl, h]
      rw [bind_of_error left, bind_of_ok rfl, bind_of_ok rfl, bind_of_error h]
    | ok next =>
      have left : ((⟨trace, .ok value⟩ : Run ε α) >>= f).outcome = .ok next := by
        rw [bind_of_ok rfl, h]
      rw [bind_of_ok left, bind_of_ok rfl, bind_of_ok rfl, bind_of_ok h]
      simp [List.append_assoc]

instance : LawfulMonad (Run ε) :=
  LawfulMonad.mk' (Run ε) id_map_run (fun _ _ => rfl) bind_bind_run

end Run

end TypedQuery
