import TypedQuery.Proofs.Engine.GuardsFirst
import TypedQuery.Proofs.Plan.Lookups

/-!
# Engines and the look-ups of a schema

A request reaches the schema through three look-ups: an operation by its name, and the types that
fields and slots refer to. Over two schemas with the same look-ups engines serve all requests alike,
call by call. The engine over another schema is `Engine.withSchema`, and there is one lemma for each
of the ways in, such as `runDocument_withSchema`.
-/

namespace TypedQuery.Engine

variable (engine : Engine)

/-- The engine with the same options over another schema. -/
def withSchema (schema : Schema) : Engine := { engine with schema }

section SameLookups

variable {engine} {other : Schema}
variable (outputs : other.resolveOutput = engine.schema.resolveOutput)
variable (inputs : other.resolveInput = engine.schema.resolveInput)
include outputs inputs

theorem serve_withSchema (root : Operation) (name : String) (query : Json) (context : Context) :
    (engine.withSchema other).serve root name query context
      = engine.serve root name query context := by
  let scope : Scope := engine.scope root context
  have planned : (scope.withSchema other).select query (.operation root) [name]
      = scope.select query (.operation root) [name] :=
    Scope.select_withSchema outputs inputs query (.operation root) [name]
  exact congrArg (· >>= _) planned

theorem runBound_withSchema (root : Operation) (context : Context) :
    (engine.withSchema other).runBound root context = engine.runBound root context :=
  bind_congr fun query => serve_withSchema outputs inputs root root.name query context

variable (operations : other.operation? = engine.schema.operation?)
include operations

theorem run_withSchema (name : String) (query : Json) (context : Context) :
    (engine.withSchema other).run name query context = engine.run name query context := by
  have found : (engine.withSchema other).schema.operation? = engine.schema.operation? := operations
  rw [run, run, found]
  cases engine.schema.operation? name with
  | none => rfl
  | some root => exact serve_withSchema outputs inputs root name query context

theorem runDocument_withSchema (body : Json) (context : Context) :
    (engine.withSchema other).runDocument body context = engine.runDocument body context := by
  unfold runDocument
  simp only [run_withSchema outputs inputs operations]

end SameLookups

end TypedQuery.Engine
