import TypedQuery.Engine.Basic
import TypedQuery.Proofs.Entries
import TypedQuery.Proofs.Run

/-!
# Bound requests as documents

A request to a bound operation is answered by `Engine.runBound` as the document that is derived from
it would be by `Engine.runDocument`. Deriving the document asks the source of the arguments, if
there is one, and nobody else. From there on the two ways meet: an operation that is at hand is the
one that is found by its name, since every operation stands in its table under its own name, and no
name stands there twice.
-/

namespace TypedQuery

namespace Operation

/-- What is shown when the arguments of a bound operation are derived. -/
def derivation (root : Operation) (context : Context) : List Event :=
  match root.binding.bind (·.args) with
  | some source => [.call (.deriveArgs root.name context) (source context).trace]
  | none => []

theorem trace_boundArgs (root : Operation) (context : Context) :
    (root.boundArgs context).trace = root.derivation context := by
  unfold boundArgs derivation
  cases root.binding.bind (·.args) with
  | none => rfl
  | some source =>
      dsimp only
      rw [bind_pure_comp, Run.trace_map, Run.trace_recover, Run.trace_invoke]

end Operation

namespace Engine

variable (engine : Engine) (root : Operation) (context : Context)

/-- Deriving the selection shows what deriving the arguments shows, the `derivation`. -/
theorem trace_boundQuery :
    (engine.boundQuery root context).trace = root.derivation context := by
  rw [boundQuery, bind_pure_comp, Run.trace_map, Operation.trace_boundArgs]

variable {engine root}

/-- A document that names an operation is served by that operation. -/
theorem runDocument_of_operation? {name : String}
    (found : engine.schema.operation? name = some root) (query : Json) :
    engine.runDocument (.object [(name, query)]) context
      = engine.serve root name query context := by
  show engine.run name query context = engine.serve root name query context
  rw [run, found]

/-- A request to a bound operation has the outcome of the document that is derived from it, and
after the derivation the same calls are made, with the same inputs and in the same order. If no
document can be derived, this is what the request fails with, and there is nothing but the
derivation: no guard and no resolver is asked. -/
theorem bound_requests_are_documents (reached : engine.schema.Reached) {name : String}
    (registered : (name, root) ∈ engine.schema.operations) (context : Context) :
    (engine.boundQuery root context).trace = root.derivation context ∧
      (∀ query, (engine.boundQuery root context).Returns query →
        let document : Json := .object [(root.name, query)]
        (engine.runBound root context).outcome = (engine.runDocument document context).outcome ∧
          (engine.runBound root context).trace
            = root.derivation context ++ (engine.runDocument document context).trace) ∧
      ∀ error, (engine.boundQuery root context).outcome = .error error →
        (engine.runBound root context).outcome = .error error ∧
          (engine.runBound root context).trace = root.derivation context := by
  have shown : (engine.boundQuery root context).trace = root.derivation context :=
    trace_boundQuery engine root context
  refine ⟨shown, ?derived, ?failed⟩
  case derived =>
    intro query returned
    have found : engine.schema.operation? root.name = some root :=
      reached.sound.operations.get?_own registered
    have meets : engine.runDocument (.object [(root.name, query)]) context
        = engine.serve root root.name query context := runDocument_of_operation? context found query
    dsimp only
    rw [meets, ← shown]
    exact ⟨Run.outcome_bind returned _, Run.trace_bind returned _⟩
  case failed =>
    intro error failed
    have stops : engine.runBound root context
        = ⟨(engine.boundQuery root context).trace, .error error⟩ := Run.bind_of_error failed _
    rw [stops]
    exact ⟨rfl, shown⟩

/-- A visitor is greeted by the name that stands in the route. -/
def greeting : Operation where
  name := "greeting"
  signature :=
    { type := .scalar Scalar.string
      args := some { type := .scalar Scalar.string, required := true }
      guard := some fun _ => pure () }
  resolver := fun request => pure (request.args.getD .null)
  binding := some
    { method := .get
      route := "/greetings/:name"
      args := some fun context =>
        match Entries.get? context.params "name" with
        | some name => pure (some name)
        | none => .fail (.foreign "nobody to greet") }

def greetingEngine : Engine where
  schema := Schema.base.attemptAll [.operation greeting]
  options := {}

/-- Ann is greeted as by a document, and without a name nobody is asked but the source. -/
theorem bound_requests_are_documents_greeting :
    let named : Context := ⟨"GET", "/greetings/Ann", [], [("name", .string "Ann")], [], []⟩
    let unnamed : Context := ⟨"GET", "/greetings/", [], [], [], []⟩
    let document : Json := .object [("greeting", .object [(argsKey, .string "Ann")])]
    ((greetingEngine.runBound greeting named).outcome = .ok (.string "Ann") ∧
        (greetingEngine.runBound greeting named).outcome
          = (greetingEngine.runDocument document named).outcome ∧
        (greetingEngine.runBound greeting named).trace
          = .call (.deriveArgs "greeting" named) [] ::
            (greetingEngine.runDocument document named).trace) ∧
      ((greetingEngine.runBound greeting unnamed).outcome
          = .error (.custom .base "nobody to greet") ∧
        (greetingEngine.runBound greeting unnamed).trace
          = [.call (.deriveArgs "greeting" unnamed) []]) := by
  intro named unnamed document
  have reached : greetingEngine.schema.Reached := Schema.Reached.base.attemptAll _
  have registered : ("greeting", greeting) ∈ greetingEngine.schema.operations :=
    List.mem_singleton_self _
  obtain ⟨_, derived, _⟩ := bound_requests_are_documents reached registered named
  obtain ⟨_, _, failed⟩ := bound_requests_are_documents reached registered unnamed
  have greeted : (greetingEngine.runBound greeting named).outcome = .ok (.string "Ann") := rfl
  exact ⟨⟨greeted, derived (.object [(argsKey, .string "Ann")]) rfl⟩, failed _ rfl⟩

end Engine

end TypedQuery
