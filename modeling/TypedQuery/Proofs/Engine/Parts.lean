import TypedQuery.Proofs.Engine.FullAnswer
import TypedQuery.Proofs.Plan.Parts
import TypedQuery.Proofs.Plan.Response

/-!
# Parts of requests

Selections are independent of each other and of their order. A request that selects a part of what
another one selects, in whatever order, which is `Json.PartOf`, succeeds where the other one does,
with the same data restricted to the part. This takes an operation that answers in full and is
`Indifferent` to what is selected, and fields that nobody guards.
-/

namespace TypedQuery.Engine

variable {engine : Engine} {root : Operation} {name : String} {part whole : Json}
  {context : Context}

/-- The resolver answers the same whatever is selected. -/
def Indifferent (root : Operation) : Prop :=
  ∀ request selection, (root.resolver { request with selection }).outcome
    = (root.resolver request).outcome

/-- An operation that answers a document in full answers in full every part of it, in the sense of
`Json.PartOf`. -/
theorem AnswersInFull.of_partOf (inFull : engine.AnswersInFull root name whole)
    (isPart : part.PartOf whole) : engine.AnswersInFull root name part := by
  intro site here below
  obtain ⟨source, there, same⟩ := Schema.exists_site_of_partOf isPart here
  rw [← same] at below ⊢
  exact inFull source there below

/-- An indifferent resolver cannot tell two plans apart that come with the same arguments. -/
theorem Indifferent.returns_answer (indifferent : Indifferent root) {plan other : Plan}
    (args : other.args = plan.args) {value : Json}
    (answered : (answer root name context plan).Returns value) :
    (answer root name context other).Returns value := by
  have requests : request root name context other
      = { request root name context plan with selection := other.selection } := by
    rw [request, request, args]
  rw [answer, Run.returns_attachPath, Run.returns_recover, Run.returns_invoke] at answered ⊢
  rw [requests]
  exact (indifferent (request root name context plan) other.selection).trans answered

/-- Where the operation answers in full, a request comes to what the answer to its plan conforms
to. -/
theorem returns_serve_of_answersInFull {query : Json} (unique : query.KeysUnique)
    (inFull : engine.AnswersInFull root name query) {data : Json} :
    (engine.serve root name query context).Returns data ↔
      ∃ plan, (engine.planning root name query context).Returns plan ∧
      ∃ value, (answer root name context plan).Returns value ∧ plan.Conforms value data := by
  rw [serve_of_passive fun plan => passive_of_answersInFull unique inFull]
  simp only [Run.returns_bind, Plan.returns_conform]

/-- Leaving out and reordering what is selected leaves the rest of the response as it is: the part
of a request that succeeds succeeds as well, and its data are those of the whole with the same
members left out and in the same new order, in every object of every array, too. -/
theorem parts_are_answered_alike (engine : Engine) (root : Operation) (name : String)
    (part whole : Json) (context : Context)
    (found : engine.schema.operation? name = some root)
    (wholeUnique : whole.KeysUnique) (partUnique : part.KeysUnique) (isPart : part.PartOf whole)
    (indifferent : Indifferent root)
    (unguarded : ∀ site ∈ engine.sites root name whole, site.definition.signature.guard = none)
    (inFull : engine.AnswersInFull root name whole) (data : Json)
    (succeeded : (engine.run name whole context).outcome = .ok data) :
    (engine.run name part context).outcome
      = .ok (engine.schema.restrict part root.signature data) := by
  have full : (engine.scope root context).options = {} := rfl
  rw [run, found] at succeeded ⊢
  obtain ⟨plan, planned, value, answered, conforms⟩ :=
    (returns_serve_of_answersInFull wholeUnique inFull).mp succeeded
  obtain ⟨partPlan, partPlanned, covers⟩ :=
    Scope.select_of_partOf full isPart wholeUnique unguarded planned
  exact (returns_serve_of_answersInFull partUnique (inFull.of_partOf isPart)).mpr
    ⟨partPlan, partPlanned, value, indifferent.returns_answer covers.args answered,
      covers.conforms value data conforms⟩

/-- The friends without their names, and then the boss; the name of the person is left out. -/
def friendsQuery : Json :=
  .object [("friends", .object []), ("boss", .object [("name", .bool true)])]

theorem friendsQuery_partOf : friendsQuery.PartOf namesQuery := by
  have friends : (Json.object []).PartOf (.object [("name", .bool true)]) := .object rfl .nil
  have boss : (Json.object [("name", .bool true)]).PartOf (.object [("name", .bool true)]) := .same
  exact .object rfl (.cons (by decide) friends (.cons (by decide) boss .nil))

theorem friendsQuery_keysUnique : friendsQuery.KeysUnique := by
  have marked : (Json.bool true).KeysUnique := .other rfl
  have named : (Json.object [("name", .bool true)]).KeysUnique :=
    .object (by decide) (by simpa using marked)
  have nothing : (Json.object []).KeysUnique := .object (by decide) (by simp)
  exact .object (by decide) (by simp [named, nothing])

/-- Of friends in whom nothing is selected any more the objects are left, and the null between
them. -/
theorem parts_are_answered_alike_person :
    let context : Context := ⟨"POST", "/", [], [], [], []⟩
    let data : Json := .object [("name", .string "Ann"), ("boss", .object [("name", .null)]),
      ("friends", .array [.object [("name", .string "Bo")], .null])]
    personEngine.schema.operation? "person" = some personOperation ∧
      namesQuery.KeysUnique ∧ friendsQuery.KeysUnique ∧ friendsQuery.PartOf namesQuery ∧
      Indifferent personOperation ∧
      (∀ site ∈ personEngine.sites personOperation "person" namesQuery,
        site.definition.signature.guard = none) ∧
      personEngine.AnswersInFull personOperation "person" namesQuery ∧
      (personEngine.run "person" namesQuery context).outcome = .ok data ∧
      (personEngine.run "person" friendsQuery context).outcome
        = .ok (personEngine.schema.restrict friendsQuery personOperation.signature data) ∧
      personEngine.schema.restrict friendsQuery personOperation.signature data
        = .object
            [("friends", .array [.object [], .null]), ("boss", .object [("name", .null)])] := by
  intro context data
  have unguarded : ∀ site ∈ personEngine.sites personOperation "person" namesQuery,
      site.definition.signature.guard = none := by
    have all : (personEngine.sites personOperation "person" namesQuery).all
        (·.definition.signature.guard.isNone) = true := rfl
    simpa using all
  have indifferent : Indifferent personOperation := fun _ _ => rfl
  exact ⟨rfl, namesQuery_keysUnique, friendsQuery_keysUnique, friendsQuery_partOf, indifferent,
    unguarded, personEngine_answersInFull, rfl,
    parts_are_answered_alike personEngine personOperation "person" friendsQuery namesQuery context
      rfl namesQuery_keysUnique friendsQuery_keysUnique friendsQuery_partOf indifferent unguarded
      personEngine_answersInFull data rfl, rfl⟩

end TypedQuery.Engine
