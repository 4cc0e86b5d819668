import TypedQuery.Proofs.Declarations.Completeness
import TypedQuery.Proofs.Engine.Serving
import TypedQuery.Proofs.Plan.Completeness

/-!
# The check at start-up

A server looks for dangling look-ups before it takes requests. `Schema.dangling` tells of the
references of registered definitions and of nothing else. Where types that are held inline are
registered, too, this is all there is to tell: if nothing dangles, no request ever fails for want of
a type, unless a callback says so, which is `Engine.FindsTypes`, and the declarations of the schema
can be written. A type that is held inline and has been replaced in its table is out of sight of the
check, but not of the requests; `startup_check_misses_inline` is such a case.
-/

namespace TypedQuery.Engine

variable {engine : Engine}

/-- No request fails for want of a type, unless a callback of the schema brings the error, as
`Run.Finds` says. -/
structure FindsTypes (engine : Engine) : Prop where
  documents : ∀ body context, (engine.runDocument body context).Finds engine.schema
  runs : ∀ name query context, (engine.run name query context).Finds engine.schema
  bindings : ∀ name root, engine.schema.operation? name = some root → ∀ context,
    (engine.runBound root context).Finds engine.schema

/-- The source of the arguments of a bound operation is a callback of the schema, one of
`Schema.Faults`. -/
theorem finds_boundArgs {schema : Schema} {root : Operation}
    (offered : schema.Offers (.operation root)) (context : Context) :
    (root.boundArgs context).Finds schema := by
  unfold Operation.boundArgs
  dsimp only
  split
  next source derived =>
    obtain ⟨binding, bound, given⟩ := Option.bind_eq_some_iff.mp derived
    refine (Run.finds_ask fun fault failed => ?_).bind fun _ _ => Run.finds_pure _
    exact .source offered bound given failed
  next => exact (Run.finds_pure _).bind fun _ _ => Run.finds_pure _

section Complete

variable (complete : engine.schema.Complete)
include complete

theorem finds_serve {root : Operation} (offered : engine.schema.Offers (.operation root))
    (name : String) (query : Json) (context : Context) :
    (engine.serve root name query context).Finds engine.schema := by
  refine Run.Follows.finds (follows_serve Protocol.finding_serial fun site here => ?_)
  have offeredSite : engine.schema.Offers site.definition :=
    Schema.offers_of_mem_sites offered here
  exact
    { toGoverns := Scope.finding_governs complete offeredSite
      asks := Protocol.finding_asksResolver offeredSite site.path
      refuses := Protocol.finding_refusesResult site.path }

/-- Over a schema that is `Schema.Complete` all requests find their types. -/
theorem findsTypes_of_complete : engine.FindsTypes := by
  have offered (name : String) (root : Operation)
      (found : engine.schema.operation? name = some root) :
      engine.schema.Offers (.operation root) := .operation (Entries.mem_of_get?_eq_some found)
  have runs (name : String) (query : Json) (context : Context) :
      (engine.run name query context).Finds engine.schema := by
    unfold run
    cases found : engine.schema.operation? name with
    | none => exact Run.finds_fail rfl
    | some root => exact finds_serve complete (offered name root found) name query context
  refine ⟨?documents, runs, ?bindings⟩
  case documents =>
    intro body context
    unfold runDocument
    split
    · exact runs _ _ context
    · exact Run.finds_fail rfl
    · exact Run.finds_fail rfl
  case bindings =>
    intro name root found context
    have derived : (engine.boundQuery root context).Finds engine.schema :=
      (finds_boundArgs (offered name root found) context).bind fun _ _ => Run.finds_pure _
    refine derived.bind fun query _ => ?_
    exact finds_serve complete (offered name root found) root.name query context

end Complete

/-- What the check at start-up lists, strictly ascending, are the references of registered
definitions to types that are not registered. If all look-ups in reach lead somewhere, no request
fails for want of a type, nor is there a declaration that cannot be written. Where the types that
are held inline are registered themselves, an empty list tells just that, since then nothing else is
in reach. -/
theorem startup_check_covers_registered (schema : Schema) :
    schema.dangling.Pairwise (· < ·) ∧
      (∀ text ∈ schema.dangling, ∃ name, text = "object:" ++ name ∨ text = "input:" ++ name) ∧
      (∀ name, "object:" ++ name ∈ schema.dangling ↔
        schema.RefersToObject name ∧ schema.object? name = none) ∧
      (∀ name, "input:" ++ name ∈ schema.dangling ↔
        schema.RefersToInput name ∧ schema.input? name = none) ∧
      (schema.Complete → (∀ options, (Engine.mk schema options).FindsTypes) ∧
        ∃ document, Declarations.ofSchema schema = .ok document) ∧
      (schema.InlineRegistered →
        (∀ name, "object:" ++ name ∈ schema.dangling ↔
          schema.ReachesObject name ∧ schema.object? name = none) ∧
        (∀ name, "input:" ++ name ∈ schema.dangling ↔
          schema.ReachesInput name ∧ schema.input? name = none) ∧
        (schema.dangling = [] → schema.Complete)) := by
  refine ⟨schema.pairwise_dangling, ?forms, fun _ => Schema.object_mem_dangling_iff,
    fun _ => Schema.input_mem_dangling_iff, ?sound, fun closed => ⟨?_, ?_, closed.complete⟩⟩
  case forms =>
    intro text listed
    rw [Schema.mem_dangling_iff, Schema.mem_danglingReferences_iff] at listed
    obtain ⟨name, _, _, rfl⟩ | ⟨name, _, _, rfl⟩ := listed
    · exact ⟨name, .inl rfl⟩
    · exact ⟨name, .inr rfl⟩
  case sound =>
    intro complete
    have findsTypes (options : EngineOptions) : (Engine.mk schema options).FindsTypes :=
      findsTypes_of_complete complete
    exact ⟨findsTypes, Declarations.ofSchema_returns complete⟩
  · intro name
    rw [← closed.refersToObject_iff, Schema.object_mem_dangling_iff]
  · intro name
    rw [← closed.refersToInput_iff, Schema.input_mem_dangling_iff]

/-- Parts have makers, and are ordered by a key and then by another. -/
def partOrder : InputType where
  name := "order"
  fields := [("by", { type := .scalar Scalar.string }), ("next", { type := .lookup "order" })]

def partType : ObjectType where
  name := "part"
  fields := [("maker", { signature := { type := .lookup "maker" } })]

/-- Both types of the operation are held inline, and both are registered. -/
def partSchema : Schema where
  scalars := Schema.base.scalars
  objects := [("part", partType), ("maker",
    { name := "maker"
      fields :=
        [("parts", { signature := { type := .object partType, array := some ⟨false⟩ } })] })]
  inputs := [("order", partOrder)]
  operations := [("parts",
    { name := "parts"
      signature := { type := .object partType, args := some { type := .input partOrder } }
      resolver := fun _ => pure .null })]

/-- The operation has a type and a slot that are held inline, and so has a field of the makers. -/
theorem partSchema_registers {signature : Signature} (registered : partSchema.Registers signature) :
    (signature.type = .object partType ∨ signature.type = .lookup "maker") ∧
      (signature.args = none ∨ signature.args = some { type := .input partOrder }) := by
  obtain ⟨operation, registered, rfl⟩ | ⟨type, registered, field, inside, rfl⟩ := registered
  · obtain rfl := List.mem_singleton.mp registered
    exact ⟨.inl rfl, .inr rfl⟩
  · obtain rfl | registered := List.mem_cons.mp registered
    · obtain rfl := List.mem_singleton.mp inside
      exact ⟨.inr rfl, .inl rfl⟩
    · obtain rfl := List.mem_singleton.mp registered
      obtain rfl := List.mem_singleton.mp inside
      exact ⟨.inl rfl, .inl rfl⟩

theorem partSchema_inlineRegistered : partSchema.InlineRegistered where
  objects := by
    intro signature type registered holds
    obtain ⟨inlined | lookedUp, _⟩ := partSchema_registers registered
    · obtain rfl : partType = type := OutputRef.object.inj (inlined.symm.trans holds)
      exact ⟨"part", List.mem_cons_self⟩
    · cases lookedUp.symm.trans holds
  inputs := by
    rintro slot type (⟨signature, registered, args⟩ | ⟨owner, registered, field, inside, rfl⟩) holds
    · obtain ⟨_, none | some⟩ := partSchema_registers registered
      · cases none.symm.trans args
      · obtain rfl := Option.some.inj (some.symm.trans args)
        obtain rfl : partOrder = type := InputRef.input.inj holds
        exact ⟨"order", List.mem_cons_self⟩
    · obtain rfl := List.mem_singleton.mp registered
      obtain rfl | inside := List.mem_cons.mp inside
      · cases holds
      · obtain rfl := List.mem_singleton.mp inside
        cases holds

/-- Types that refer to each other in a circle are all found. -/
theorem startup_check_covers_registered_parts :
    partSchema.InlineRegistered ∧ partSchema.dangling = [] ∧
      (∀ options, (Engine.mk partSchema options).FindsTypes) ∧
      ∃ document, Declarations.ofSchema partSchema = .ok document := by
  have nothing : partSchema.dangling = [] := rfl
  obtain ⟨_, _, _, _, sound, covered⟩ := startup_check_covers_registered partSchema
  obtain ⟨_, _, complete⟩ := covered partSchema_inlineRegistered
  exact ⟨partSchema_inlineRegistered, nothing, sound (complete nothing)⟩

/-- A type that an operation holds inline is replaced by one without the reference. -/
def replacedDefinitions : List Registration :=
  let draft : ObjectType :=
    { name := "draft", fields := [("author", { signature := { type := .lookup "author" } })] }
  [.object draft false,
    .operation
      { name := "draft"
        signature := { type := .object draft }
        resolver := fun _ => pure .null },
    .object
      { name := "draft", fields := [("title", { signature := { type := .scalar Scalar.string } })] }
      true]

/-- Nothing is listed, and yet a request fails for want of a type: a reference in a type that is
held inline is in reach, but it is not looked at. -/
theorem startup_check_misses_inline :
    ∃ schema, Schema.base.registerAll replacedDefinitions = .ok schema ∧
      schema.dangling = [] ∧ schema.ReachesObject "author" ∧ schema.object? "author" = none ∧
      ((Engine.mk schema {}).run "draft" (.object [("author", .object [])])
          ⟨"POST", "/", [], [], [], []⟩).outcome
        = .error ((Error.query (.unknownObject "author")).withPath ["draft", "author"]) := by
  refine ⟨_, rfl, rfl, ?_, rfl, rfl⟩
  exact ⟨_, .inline (.operation List.mem_cons_self) rfl List.mem_cons_self, rfl⟩

end TypedQuery.Engine
