import TypedQuery.Proofs.Engine.Lookups
import TypedQuery.Proofs.Schema.Dangling
import TypedQuery.Proofs.Server.Bindings
import TypedQuery.Schema.BaseScalars

/-!
# The order of registration

Definitions with names of their own may be registered in any order, those that refer to each other
in circles included. Whatever the order was, `Schema.registerAll` succeeds, requests are served
alike, the same look-ups dangle, and the same configurations are valid:
`registration_order_does_not_show`.
-/

namespace TypedQuery

namespace Engine

/-- Definitions with new names are registered in whatever order they come, and the order shows
nowhere: every request is served by the same calls and with the same outcome, the same look-ups
dangle, and the same configurations are valid. -/
theorem registration_order_does_not_show (schema : Schema)
    (registrations reordered : List Registration) (fresh : schema.Fresh registrations)
    (reordering : registrations.Perm reordered) :
    ∃ first second, schema.registerAll registrations = .ok first ∧
      schema.registerAll reordered = .ok second ∧
      (∀ options context,
        (∀ body, (Engine.mk second options).runDocument body context
          = (Engine.mk first options).runDocument body context) ∧
        (∀ name query, (Engine.mk second options).run name query context
          = (Engine.mk first options).run name query context) ∧
        (∀ name, second.operation? name = first.operation? name) ∧
        ∀ root, (Engine.mk second options).runBound root context
          = (Engine.mk first options).runBound root context) ∧
      second.dangling = first.dangling ∧
      ∀ config : Server.Config,
        config.validate second = .ok () ↔ config.validate first = .ok () := by
  have reorders : (schema.extend reordered).Reorders (schema.extend registrations) :=
    Schema.extend_reorders fresh reordering
  refine ⟨_, _, Schema.registerAll_of_fresh fresh,
    Schema.registerAll_of_fresh (fresh.perm reordering), ?requests, reorders.dangling, ?valid⟩
  case requests =>
    intro options context
    let engine : Engine := ⟨schema.extend registrations, options⟩
    let twin : Engine := engine.withSchema (schema.extend reordered)
    have outputs : twin.schema.resolveOutput = engine.schema.resolveOutput :=
      reorders.resolveOutput
    have inputs : twin.schema.resolveInput = engine.schema.resolveInput := reorders.resolveInput
    have operations : twin.schema.operation? = engine.schema.operation? := reorders.operation?
    refine ⟨?_, ?_, congrFun operations, ?_⟩
    · intro body
      exact runDocument_withSchema outputs inputs operations body context
    · intro name query
      exact run_withSchema outputs inputs operations name query context
    · intro root
      exact runBound_withSchema outputs inputs root context
  case valid =>
    intro config
    exact ⟨Server.Config.validate_eq_ok_of_perm reorders.operations.symm,
      Server.Config.validate_eq_ok_of_perm reorders.operations⟩

/-- Books have authors, authors have books, and a search may be within another search. The
operation that answers with a book comes first. -/
def libraryDefinitions : List Registration :=
  [.operation
      { name := "book"
        signature := { type := .lookup "book", args := some { type := .lookup "search" } }
        resolver := fun _ => pure (.object [("author", .object [("name", .string "Jane"),
          ("books", .array [.object [("title", .string "Persuasion")]])])])
        binding := some { method := .get, route := "/book" } },
    .object
      { name := "book"
        fields := [
          ("title", { signature := { type := .scalar Scalar.string } }),
          ("author", { signature := { type := .lookup "author" } })] } false,
    .input
      { name := "search"
        fields := [
          ("title", { type := .scalar Scalar.string }),
          ("within", { type := .lookup "search" })] } true,
    .object
      { name := "author"
        fields := [
          ("name", { signature := { type := .scalar Scalar.string } }),
          ("books", { signature := { type := .lookup "book", array := some ⟨false⟩ } })] } false]

theorem libraryDefinitions_fresh : Schema.base.Fresh libraryDefinitions where
  scalars := ⟨by decide, by decide⟩
  objects := ⟨by decide, by decide⟩
  inputs := ⟨by decide, by decide⟩
  operations := ⟨by decide, by decide⟩
  unreserved := by decide

/-- The library may as well be registered backwards, from the authors to the operation. -/
theorem registration_order_does_not_show_library :
    let context : Context := ⟨"POST", "/", [], [], [], []⟩
    let query : Json := .object [(argsKey, .object [("within", .object [])]),
      ("author", .object [("books", .object [("title", .bool true)])])]
    Schema.base.Fresh libraryDefinitions ∧
      libraryDefinitions.Perm libraryDefinitions.reverse ∧
      ∃ first second, Schema.base.registerAll libraryDefinitions = .ok first ∧
        Schema.base.registerAll libraryDefinitions.reverse = .ok second ∧
        (Engine.mk second {}).run "book" query context
          = (Engine.mk first {}).run "book" query context ∧
        ((Engine.mk first {}).run "book" query context).outcome
          = .ok (.object [("author", .object [("books",
            .array [.object [("title", .string "Persuasion")]])])]) ∧
        second.dangling = first.dangling ∧ first.dangling = [] := by
  intro context query
  have backwards : libraryDefinitions.Perm libraryDefinitions.reverse :=
    (List.reverse_perm libraryDefinitions).symm
  obtain ⟨first, second, registered, registeredBackwards, requests, dangling, _⟩ :=
    registration_order_does_not_show Schema.base libraryDefinitions libraryDefinitions.reverse
      libraryDefinitions_fresh backwards
  have extended : Schema.base.extend libraryDefinitions = first :=
    Except.ok.inj ((Schema.registerAll_of_fresh libraryDefinitions_fresh).symm.trans registered)
  refine ⟨libraryDefinitions_fresh, backwards, first, second, registered, registeredBackwards,
    (requests {} context).2.1 "book" query, ?_, dangling, ?_⟩
  · rw [← extended]
    rfl
  · rw [← extended]
    decide

end Engine

end TypedQuery
