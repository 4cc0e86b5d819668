import TypedQuery.Proofs.Engine.Lookups
import TypedQuery.Proofs.Engine.Serving
import TypedQuery.Proofs.Plan.Redaction
import TypedQuery.Proofs.Plan.Visibility
import TypedQuery.Schema.BaseScalars

/-!
# Hidden fields

What a schema declares of its hidden fields is of no consequence. A request is planned, resolved and
conformed with a schema as it is with `Schema.redact` of it, call by call, so two schemas that
differ in the definitions of hidden fields only cannot be told apart, at whatever depth these fields
stand. Whatever is called is called for a field that the client may select:
`calledFor_of_mem_trace_serve`.
-/

namespace TypedQuery

/-- The protocol of the calls for the sites of a document, `Scope.calling`, admits them. -/
theorem Scope.calling_admits {scope : Scope} {sites : List Site} {site : Site}
    (here : site ∈ sites) : scope.Admits (scope.calling sites) site where
  toGoverns := calling_governs here
  asks := calling_asksResolver here
  refuses := fun _ => nofun

namespace Engine

variable (engine : Engine)

/-- The engine over the redacted schema. -/
def redact : Engine := engine.withSchema engine.schema.redact

/-- An operation is served alike with the redacted schema. -/
theorem serve_redact (root : Operation) (name : String) (query : Json) (context : Context) :
    engine.redact.serve root.redact name query context
      = engine.serve root name query context := by
  have planned : engine.redact.planning root.redact name query context
      = Plan.redact <$> engine.planning root name query context :=
    (engine.scope root context).select_redact query (.operation root) [name]
  let resolution : Resolution := ⟨context, root.name, engine.options.processEntireTree⟩
  calc engine.redact.serve root.redact name query context
      = engine.redact.planning root.redact name query context >>= fun plan =>
          resolution.resolveRoot plan [name] >>= fun value => plan.conform value [name] := rfl
    _ = engine.planning root name query context >>= fun plan =>
          resolution.resolve plan.redact .null [] [name] >>= fun value =>
            plan.redact.conform value [name] := by
        rw [planned, bind_map_left]
        rfl
    _ = engine.serve root name query context := by
        simp only [resolution.resolve_redact, Plan.conform_redact]
        rfl

theorem run_redact (name : String) (query : Json) (context : Context) :
    engine.redact.run name query context = engine.run name query context := by
  have found : engine.redact.schema.operation? name
      = (engine.schema.operation? name).map Operation.redact :=
    engine.schema.operation?_redact name
  rw [run, run, found]
  cases engine.schema.operation? name with
  | none => rfl
  | some root => exact engine.serve_redact root name query context

theorem runDocument_redact (body : Json) (context : Context) :
    engine.redact.runDocument body context = engine.runDocument body context := by
  unfold runDocument
  simp only [run_redact]

/-- The selection that a request makes of a bound operation tells only scalars from the rest. -/
theorem boundQuery_redact (root : Operation) (context : Context) :
    engine.redact.boundQuery root.redact context = engine.boundQuery root context := by
  have type : root.redact.signature.type = root.signature.type.redact :=
    root.signature.type_redact
  have binding : root.redact.binding = root.binding := rfl
  unfold boundQuery
  rw [type, binding]
  refine bind_congr fun args => congrArg pure ?_
  cases root.signature.type with
  | scalar | lookup => rfl
  | object type =>
      cases root.binding.bind (·.template) with
      | none => cases args <;> rfl
      | some template =>
          cases args with
          | none => rfl
          | some args => cases template <;> rfl

theorem runBound_redact (root : Operation) (context : Context) :
    engine.redact.runBound root.redact context = engine.runBound root context := by
  rw [runBound, runBound, boundQuery_redact]
  exact bind_congr fun query => engine.serve_redact root root.name query context

/-- The event is a call for a site that is not hidden: to its guard, in the check of its arguments,
or to its resolver, as `Site.Answers` says. -/
def CalledFor (root : Operation) (name : String) (query : Json) (context : Context)
    (event : Event) : Prop :=
  ∃ site ∈ engine.sites root name query, site.Visible ∧
    (event ∈ (engine.scope root context).preflight site ∨ site.Answers event)

/-- In serving a document scalars are serialized, and all other calls are for visible sites. -/
theorem calledFor_of_mem_trace_serve {root : Operation} {name : String} {query : Json}
    {context : Context} {event : Event}
    (shown : event ∈ (engine.serve root name query context).trace) :
    event.Serializes ∨ engine.CalledFor root name query context event := by
  let scope : Scope := engine.scope root context
  have served : (engine.serve root name query context).Follows
      (scope.calling (engine.sites root name query)) :=
    follows_serve Scope.calling_serial fun _ here => Scope.calling_admits here
  refine (served.only event shown).imp_right ?_
  rintro ⟨site, here, calls⟩
  have visible : site.Visible := by
    refine Schema.visible_of_mem_sites ?_ here
    rintro field ⟨⟩
  exact ⟨site, here, visible, calls⟩

/-- Two schemas that differ only in the definitions of hidden fields serve every request alike:
the same calls are made in the same order, with the same outcome. Nothing is called but for fields
that are not hidden. -/
theorem hidden_fields_are_inert (engine : Engine) (other : Schema)
    (same : other.redact = engine.schema.redact) (context : Context) :
    (∀ body, (engine.withSchema other).runDocument body context
      = engine.runDocument body context) ∧
    (∀ name query, (engine.withSchema other).run name query context
      = engine.run name query context) ∧
    (∀ name root, engine.schema.operation? name = some root →
      ∃ twin, other.operation? name = some twin ∧
        (engine.withSchema other).runBound twin context = engine.runBound root context) ∧
    ∀ root name query, ∀ event ∈ (engine.serve root name query context).trace,
      event.Serializes ∨ engine.CalledFor root name query context event := by
  have engines : (engine.withSchema other).redact = engine.redact :=
    congrArg engine.withSchema same
  refine ⟨?documents, ?runs, ?bindings, fun _ _ _ _ => engine.calledFor_of_mem_trace_serve⟩
  case documents =>
    intro body
    rw [← runDocument_redact, engines, runDocument_redact]
  case runs =>
    intro name query
    rw [← run_redact, engines, run_redact]
  case bindings =>
    intro name root found
    have redacted : (other.operation? name).map Operation.redact = some root.redact := by
      rw [← other.operation?_redact, same, engine.schema.operation?_redact, found, Option.map_some]
    obtain ⟨twin, foundTwin, twins⟩ := Option.map_eq_some_iff.mp redacted
    refine ⟨twin, foundTwin, ?_⟩
    rw [← runBound_redact, twins, engines, runBound_redact]

/-- Clubs with a hidden ledger, which stands in a type that is held inline. -/
def clubEngine (ledger : Field) : Engine where
  schema :=
    { operations := [("club",
        { name := "club"
          signature :=
            { type := .object
                { name := "club"
                  fields := [
                    ("title", { signature := { type := .scalar Scalar.string } }),
                    ("ledger", { ledger with hidden := true })] } }
          resolver := fun _ => pure (.object [("title", .string "Chess"), ("ledger", .nat 7)]) })] }
  options := {}

/-- A ledger of a type that is not registered, which takes arguments, has a guard that lets nobody
pass, and would not be silent about being resolved. -/
def lockedLedger : Field where
  signature :=
    { type := .lookup "ledger"
      nullable := true
      array := some ⟨true⟩
      args := some { type := .scalar Scalar.number, required := true }
      guard := some fun _ => .fail (.foreign "locked") }
  resolver := some fun _ => do
    Run.note "opened"
    return .null

/-- A ledger that is locked is as good as one that is a plain number, whether one asks for it or
not. -/
theorem hidden_fields_are_inert_club :
    let context : Context := ⟨"POST", "/", [], [], [], []⟩
    let plain : Engine := clubEngine { signature := { type := .scalar Scalar.number } }
    let locked : Engine := clubEngine lockedLedger
    let shown : Json := .object [("title", .bool true)]
    let hidden : Json := .object [("title", .bool true), ("ledger", .bool true)]
    locked.schema.redact = plain.schema.redact ∧
      (plain.withSchema locked.schema).run "club" shown context
        = plain.run "club" shown context ∧
      (plain.withSchema locked.schema).run "club" hidden context
        = plain.run "club" hidden context ∧
      (plain.run "club" shown context).outcome = .ok (.object [("title", .string "Chess")]) ∧
      (plain.run "club" hidden context).outcome
        = .error ((Error.query .hiddenField).withPath ["club", "ledger"]) := by
  intro context plain locked shown hidden
  have same : locked.schema.redact = plain.schema.redact := rfl
  have alike := (hidden_fields_are_inert plain locked.schema same context).2.1 "club"
  exact ⟨same, alike shown, alike hidden, rfl, rfl⟩

end Engine

end TypedQuery
