import TypedQuery.Proofs.Protocol
import TypedQuery.Proofs.Schema.Reach

/-!
# Errors about missing types

An error may say that a type is not registered. The engine says so where a look-up leads nowhere,
and a callback may bring such an error of its own. A run that finds its types, as `Run.Finds` says,
fails in this way only if a callback of the schema brings the error. `Schema.Faults` lists these
callbacks. That a stage finds its types is a matter of a protocol, `Protocol.finding`.
-/

namespace TypedQuery

namespace Schema

variable (schema : Schema)

/-- A registered operation, or a field of a type in reach. -/
inductive Offers : Definition → Prop
  | operation {name root} : (name, root) ∈ schema.operations → Offers (.operation root)
  | field {signature type key field} : schema.Declares signature →
      schema.resolveOutput signature.type = .ok (.object type) → (key, field) ∈ type.fields →
      Offers (.field field)

/-- The event asks a callback of what the schema `Offers`, which fails. -/
inductive Faults : Event → Fault → Prop
  | guard {definition guard request fault} : schema.Offers definition →
      definition.signature.guard = some guard → (guard request).outcome = .error fault →
      Faults (.call (.guard request) (guard request).trace) fault
  | check {slot type check members path fault} : schema.Takes slot →
      schema.resolveInput slot.type = .ok (.input type) → type.check = some check →
      (check members path).outcome = .error fault →
      Faults (.call (.checkInput type.name members path) (check members path).trace) fault
  | operation {root request fault} : schema.Offers (.operation root) →
      (root.resolver request).outcome = .error fault →
      Faults (.call (.resolveOperation request) (root.resolver request).trace) fault
  | field {inner resolver request fault} : schema.Offers (.field inner) →
      inner.resolver = some resolver → (resolver request).outcome = .error fault →
      Faults (.call (.resolveField request) (resolver request).trace) fault
  | source {root binding source context fault} : schema.Offers (.operation root) →
      root.binding = some binding → binding.args = some source →
      (source context).outcome = .error fault →
      Faults (.call (.deriveArgs root.name context) (source context).trace) fault

variable {schema}

theorem Offers.declares {definition : Definition} (offered : schema.Offers definition) :
    schema.Declares definition.signature := by
  cases offered with
  | operation registered => exact .operation registered
  | field declared resolved inside => exact declared.field resolved inside

end Schema

namespace Run

variable {schema : Schema} {α β : Type}

/-- The run fails for want of a type, as `Cause.missesType` tells, only if a callback brings the
error. -/
def Finds (schema : Schema) (run : Run Error α) : Prop :=
  ∀ error, run.outcome = .error error → error.cause.missesType = true →
    ∃ event ∈ run.trace, ∃ fault, schema.Faults event fault ∧
      (Error.ofFault fault).cause = error.cause

theorem finds_pure (value : α) : (pure value : Run Error α).Finds schema := nofun

theorem finds_fail {error : Error} (h : error.cause.missesType = false) :
    (fail error : Run Error α).Finds schema := by
  rintro _ ⟨⟩ misses
  rw [h] at misses
  cases misses

theorem Finds.bind {run : Run Error α} {next : α → Run Error β} (first : run.Finds schema)
    (second : ∀ value, run.Returns value → (next value).Finds schema) :
    (run >>= next).Finds schema := by
  intro error failed misses
  cases h : run.outcome with
  | error own =>
      rw [bind_of_error h] at failed ⊢
      cases failed
      exact first error h misses
  | ok value =>
      rw [bind_of_ok h] at failed ⊢
      obtain ⟨event, shown, brought⟩ := second value h error failed misses
      exact ⟨event, List.mem_append_right _ shown, brought⟩

/-- A callback of the schema may bring any error. -/
theorem finds_ask {call : Call} {callback : Run Fault α}
    (h : ∀ fault, callback.outcome = .error fault →
      schema.Faults (.call call callback.trace) fault) :
    (invoke call callback).recover.Finds schema := by
  obtain ⟨trace, outcome⟩ := callback
  cases outcome with
  | ok value => exact nofun
  | error fault =>
      rintro _ ⟨⟩ _
      exact ⟨_, List.mem_singleton_self _, fault, h fault rfl, rfl⟩

end Run

namespace Protocol

variable {schema : Schema}

variable (schema) in
/-- Any calls, and any errors that name a path. One about a type that is not registered is brought
by a callback of the schema, one of `Schema.Faults`. -/
def finding : Protocol where
  reports event report := ∀ error, report = some error → error.path ≠ none ∧
    (error.cause.missesType = true →
      ∃ fault, schema.Faults event fault ∧ (Error.ofFault fault).cause = error.cause)
  raises error := error.path ≠ none ∧ error.cause.missesType = false

theorem finding_attributed : (finding schema).Attributed :=
  ⟨fun _ error reports => (reports error rfl).1, fun _ raises => raises.1⟩

/-- A callback of the schema may bring any error. -/
theorem finding_reports {event : Event} {fault? : Option Fault}
    (faults : ∀ fault, fault? = some fault → schema.Faults event fault) (path : FieldPath) :
    (finding schema).reports event (fault?.map (·.reported path)) := by
  intro error reported
  refine ⟨Fault.path_reported_ne_none reported, fun _ => ?_⟩
  obtain ⟨fault, failed, rfl⟩ := Option.map_eq_some_iff.mp reported
  exact ⟨fault, faults fault failed, (Error.cause_attachPath ..).symm⟩

end Protocol

/-- A run that keeps to the protocol finds its types. -/
theorem Run.Follows.finds {schema : Schema} {α : Type} {run : Run Error α}
    (h : run.Follows (Protocol.finding schema)) : run.Finds schema := by
  intro error failed misses
  obtain ⟨_, other⟩ | ⟨event, shown, reports⟩ := h.fails error failed
  · rw [other] at misses
    cases misses
  · obtain ⟨_, brought⟩ := reports error rfl
    exact ⟨event, shown, brought misses⟩

end TypedQuery
