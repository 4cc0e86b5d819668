import TypedQuery.Proofs.Engine.Attribution
import TypedQuery.Proofs.Engine.Lookups
import TypedQuery.Proofs.Plan.Growth

/-!
# Requests over a schema that grows

A definition that is registered under a new name leaves all requests as they are, call by call, but
for those that failed because the name was missing. There is nothing else that could absorb the
failure of a look-up: it ends the request. Scalars and refused definitions leave every request as it
is. A request is an `Inquiry`, in one of the three ways in which an engine is asked, and
`Engine.handle` serves it.
-/

namespace TypedQuery

/-- The three ways in which an engine is asked. -/
inductive Inquiry where
  | document (body : Json)
  | named (name : String) (query : Json)
  | bound (root : Operation)

namespace Engine

variable (engine : Engine) (context : Context)

def handle : Inquiry → Run Error Json
  | .document body => engine.runDocument body context
  | .named name query => engine.run name query context
  | .bound root => engine.runBound root context

/-- The event asks a callback that the inquiry may reach, one that `Engine.Consults` lists or the
source of arguments. With the event goes what the callback fails with, if it does. -/
inductive Asks : Inquiry → Event → Option Fault → Prop
  | document {name query event fault?} : Asks (.named name query) event fault? →
      Asks (.document (.object [(name, query)])) event fault?
  | named {name query root event fault? path} : engine.schema.operation? name = some root →
      engine.Consults root name query context event fault? path →
      Asks (.named name query) event fault?
  | source {root source} : root.binding.bind (·.args) = some source →
      Asks (.bound root) (.call (.deriveArgs root.name context) (source context).trace)
        (source context).failure?
  | bound {root query event fault? path} : (engine.boundQuery root context).Returns query →
      engine.Consults root root.name query context event fault? path →
      Asks (.bound root) event fault?

/-- The inquiry fails for that cause, and it is the engine that says so: all callbacks that are
asked return. -/
def Wants (inquiry : Inquiry) (cause : Cause) : Prop :=
  ∃ error, (engine.handle context inquiry).outcome = .error error ∧ error.cause = cause ∧
    ∀ event ∈ (engine.handle context inquiry).trace,
      event.CallsScalar ∨ engine.Asks context inquiry event none

variable {engine context} {grown : Schema} {missing : Option Cause} {root : Operation}

/-- Nothing is reported through a call to a function of a scalar, or to a callback that returns. -/
theorem callsScalar_or_consults {name : String} {query : Json} {event : Event}
    (h : ((engine.scope root context).protocol (engine.sites root name query)).reports event none) :
    event.CallsScalar ∨ ∃ path, engine.Consults root name query context event none path := by
  obtain ⟨callsScalar, _⟩ | ⟨fault?, path, consults, reported⟩ := h
  · exact .inl callsScalar
  · obtain rfl : fault? = none := Option.map_eq_none_iff.mp reported.symm
    exact .inr ⟨path, consults⟩

/-- An operation is served alike over both schemas, unless a type that the document reaches is
missing, which is `Run.Lacks`. -/
theorem serve_withSchema_or_lacks (grows : engine.schema.GrowsInto grown missing)
    (root : Operation) (name : String) (query : Json) (context : Context) :
    (engine.withSchema grown).serve root name query context
        = engine.serve root name query context ∨
      (engine.serve root name query context).Lacks
        ((engine.scope root context).protocol (engine.sites root name query)) missing := by
  have planning : (engine.scope root context).Outgrows (engine.sites root name query) missing
      (engine.planning root name query context)
      ((engine.withSchema grown).planning root name query context) :=
    Scope.outgrows_select grows query (.operation root) [name] fun _ inside => inside
  obtain same | lacks := planning.alike
  · exact .inl (congrArg (· >>= _) same)
  · obtain ⟨error, failed, lacks, quiet⟩ := lacks.bind _
    exact .inr ⟨error, failed, lacks, fun event shown => (quiet event shown).2⟩

theorem run_withSchema_or_wants (grows : engine.schema.GrowsInto grown missing)
    (name : String) (query : Json) (context : Context) :
    (engine.withSchema grown).run name query context = engine.run name query context ∨
      ∃ cause, missing = some cause ∧ engine.Wants context (.named name query) cause := by
  obtain same | ⟨lacks, unknown⟩ := grows.operations name
  · cases found : engine.schema.operation? name with
    | none =>
        have refused (engine : Engine) (unknown : engine.schema.operation? name = none) :
            engine.run name query context = .fail (.query (.unknownOperation name)) := by
          rw [run, unknown]
        exact .inl ((refused _ (same.trans found)).trans (refused _ found).symm)
    | some root =>
        have served (engine : Engine) (found : engine.schema.operation? name = some root) :
            engine.run name query context = engine.serve root name query context := by
          rw [run, found]
        obtain same' | ⟨error, failed, lacks, quiet⟩ :=
          serve_withSchema_or_lacks grows root name query context
        · exact .inl ((served _ (same.trans found)).trans (same'.trans (served _ found).symm))
        · rw [← served engine found] at failed quiet
          refine .inr ⟨error.cause, lacks, error, failed, rfl, fun event shown => ?_⟩
          obtain calls | ⟨_, consults⟩ := callsScalar_or_consults (quiet event shown)
          · exact .inl calls
          · exact .inr (.named found consults)
  · have refused : engine.run name query context = .fail (.query (.unknownOperation name)) := by
      rw [run, unknown]
    refine .inr ⟨_, lacks, .query (.unknownOperation name), ?_, rfl, fun event shown => ?_⟩
    · exact congrArg Run.outcome refused
    · have nothing : engine.handle context (.named name query)
          = .fail (.query (.unknownOperation name)) := refused
      rw [nothing] at shown
      cases shown

theorem runDocument_withSchema_or_wants (grows : engine.schema.GrowsInto grown missing)
    (body : Json) :
    (engine.withSchema grown).runDocument body context = engine.runDocument body context ∨
      ∃ cause, missing = some cause ∧ engine.Wants context (.document body) cause := by
  match body with
  | .object [(name, query)] =>
      obtain same | ⟨cause, lacks, error, failed, because, quiet⟩ :=
        run_withSchema_or_wants grows name query context
      · exact .inl same
      · exact .inr ⟨cause, lacks, error, failed, because,
          fun event shown => (quiet event shown).imp_right .document⟩
  | .object [] | .object (_ :: _ :: _) => exact .inl rfl
  | .null | .bool _ | .number _ | .string _ | .array _ => exact .inl rfl

/-- The arguments of a bound operation are derived by its source, and by no other callback. -/
theorem asks_of_boundQuery {query : Json} (derived : (engine.boundQuery root context).Returns query)
    {event : Event} (shown : event ∈ (engine.boundQuery root context).trace) :
    engine.Asks context (.bound root) event none := by
  obtain ⟨args, returned, _⟩ := Run.returns_bind.mp derived
  rw [boundQuery, Run.trace_bind returned, Run.trace_pure, List.append_nil] at shown
  unfold Operation.boundArgs at returned shown
  dsimp only at returned shown
  split at returned
  next source declared =>
    obtain ⟨given, answered, _⟩ := Run.returns_bind.mp returned
    rw [declared] at shown
    dsimp only at shown
    rw [Run.trace_bind answered, Run.trace_pure, List.append_nil, Run.trace_recover,
      Run.trace_invoke, List.mem_singleton] at shown
    subst shown
    have returns : (source context).Returns given :=
      Run.returns_invoke.mp (Run.returns_recover.mp answered)
    have nothing : (source context).failure? = none := by rw [Run.failure?, returns]
    exact nothing ▸ .source declared
  next undeclared =>
    rw [undeclared] at shown
    cases shown

theorem runBound_withSchema_or_wants (grows : engine.schema.GrowsInto grown missing)
    (root : Operation) :
    (engine.withSchema grown).runBound root context = engine.runBound root context ∨
      ∃ cause, missing = some cause ∧ engine.Wants context (.bound root) cause := by
  cases derived : (engine.boundQuery root context).outcome with
  | error error =>
      have stops (engine : Engine)
          (failed : (engine.boundQuery root context).outcome = .error error) :
          engine.runBound root context = ⟨(engine.boundQuery root context).trace, .error error⟩ :=
        Run.bind_of_error failed _
      exact .inl ((stops (engine.withSchema grown) derived).trans (stops engine derived).symm)
  | ok query =>
      obtain same | ⟨error, failed, lacks, quiet⟩ :=
        serve_withSchema_or_lacks grows root root.name query context
      · refine .inl (Run.bind_congr_of_returns fun other returned => ?_)
        obtain rfl : query = other := Except.ok.inj (derived.symm.trans returned)
        exact same
      · have served : engine.handle context (.bound root)
            = ⟨(engine.boundQuery root context).trace
                ++ (engine.serve root root.name query context).trace,
              (engine.serve root root.name query context).outcome⟩ :=
          Run.bind_of_ok derived _
        unfold Wants
        rw [served]
        refine .inr ⟨error.cause, lacks, error, failed, rfl, List.forall_mem_append.mpr ⟨?_, ?_⟩⟩
        · exact fun event shown => .inr (asks_of_boundQuery derived shown)
        · exact fun event shown => (callsScalar_or_consults (quiet event shown)).imp_right
            fun ⟨_, consults⟩ => .bound derived consults

/-- Over a schema that has grown, an inquiry is handled as before, unless it wanted what was
missing. -/
theorem handle_withSchema_or_wants (grows : engine.schema.GrowsInto grown missing)
    (inquiry : Inquiry) :
    (engine.withSchema grown).handle context inquiry = engine.handle context inquiry ∨
      ∃ cause, missing = some cause ∧ engine.Wants context inquiry cause := by
  cases inquiry with
  | document body => exact runDocument_withSchema_or_wants grows body
  | named name query => exact run_withSchema_or_wants grows name query context
  | bound root => exact runBound_withSchema_or_wants grows root

/-- The engine after one more registration has been tried, by `Schema.attempt`. -/
def attempting (engine : Engine) (registration : Registration) : Engine :=
  engine.withSchema (engine.schema.attempt registration)

/-- One more definition under a new name changes no request, neither the calls that are made nor the
outcome, unless the request failed because the engine found just that name missing. A scalar and a
definition that is refused change no request at all. -/
theorem growth_changes_no_request (engine : Engine) (registration : Registration)
    (inquiry : Inquiry) (context : Context) :
    (engine.schema.IsNew registration →
        (engine.attempting registration).handle context inquiry = engine.handle context inquiry ∨
          ∃ cause, registration.missing? = some cause ∧ engine.Wants context inquiry cause) ∧
      ((∃ scalar override, registration = .scalar scalar override) ∨
          (∃ error, engine.schema.register registration = .error error) →
        (engine.attempting registration).handle context inquiry
          = engine.handle context inquiry) := by
  refine ⟨fun new => handle_withSchema_or_wants (Schema.growsInto_attempt new) inquiry, ?_⟩
  have unaffected (grows : engine.schema.GrowsInto (engine.schema.attempt registration) none) :
      (engine.attempting registration).handle context inquiry = engine.handle context inquiry := by
    obtain same | ⟨_, nothing, _⟩ := handle_withSchema_or_wants grows inquiry
    · exact same
    · cases nothing
  rintro (⟨scalar, override, rfl⟩ | ⟨error, refused⟩)
  · exact unaffected (engine.schema.growsInto_attempt_scalar scalar override)
  · rw [attempting, Schema.attempt_of_refused refused]
    rfl

/-- Books refer to their authors, whose type is still to be registered. -/
def novelEngine : Engine where
  schema :=
    { objects := [("novel",
        { name := "novel"
          fields := [
            ("title", { signature := { type := .scalar Scalar.string } }),
            ("author", { signature := { type := .lookup "author" } })] })]
      operations := [("novel",
        { name := "novel"
          signature := { type := .lookup "novel" }
          resolver := fun _ => pure (.object [("title", .string "Persuasion"),
            ("author", .object [("name", .string "Jane")])]) })] }
  options := {}

def authorRegistration : Registration :=
  .object
    { name := "author", fields := [("name", { signature := { type := .scalar Scalar.string } })] }
    false

/-- The title is told before and after, and the author after the type is there. -/
theorem growth_changes_no_request_novel :
    let context : Context := ⟨"POST", "/", [], [], [], []⟩
    let title : Inquiry := .named "novel" (.object [("title", .bool true)])
    let author : Inquiry := .named "novel" (.object [("author", .object [("name", .bool true)])])
    novelEngine.schema.IsNew authorRegistration ∧
      (novelEngine.attempting authorRegistration).handle context title
        = novelEngine.handle context title ∧
      (novelEngine.handle context title).outcome
        = .ok (.object [("title", .string "Persuasion")]) ∧
      novelEngine.Wants context author (.query (.unknownObject "author")) ∧
      ((novelEngine.attempting authorRegistration).handle context author).outcome
        = .ok (.object [("author", .object [("name", .string "Jane")])]) ∧
      (novelEngine.attempting (.scalar Scalar.string true)).handle context author
        = novelEngine.handle context author := by
  intro context title author
  have new : novelEngine.schema.IsNew authorRegistration := by
    show "author" ∉ ["novel"]
    decide
  have told : (novelEngine.handle context title).outcome
      = .ok (.object [("title", .string "Persuasion")]) := rfl
  have toldAfter : ((novelEngine.attempting authorRegistration).handle context author).outcome
      = .ok (.object [("author", .object [("name", .string "Jane")])]) := rfl
  refine ⟨new, ?_, told, ?_, toldAfter, ?_⟩
  · obtain same | ⟨_, _, error, failed, _⟩ :=
      (growth_changes_no_request novelEngine authorRegistration title context).1 new
    · exact same
    · cases told.symm.trans failed
  · obtain same | ⟨cause, missing, wants⟩ :=
      (growth_changes_no_request novelEngine authorRegistration author context).1 new
    · obtain ⟨error, refused⟩ :
          ∃ error, (novelEngine.handle context author).outcome = .error error := ⟨_, rfl⟩
      rw [same] at toldAfter
      cases refused.symm.trans toldAfter
    · obtain rfl := Option.some.inj missing
      exact wants
  · exact (growth_changes_no_request novelEngine (.scalar Scalar.string true) author context).2
      (.inl ⟨Scalar.string, true, rfl⟩)

end Engine

end TypedQuery
