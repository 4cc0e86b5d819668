import TypedQuery.Proofs.Engine.Serving
import TypedQuery.Schema.BaseScalars

/-!
# Where a request fails

Every error of a request is attributed to the innermost field at which it arose, which is what
`Engine.Attribution` says of a run. The path of the error is the operation, the keys that lead to a
part of the document, and for arguments the members of input types that lead to a slot. Only a
callback may set a path of its own, and then that path stays. Where no callback fails, the kind of
the error tells whether the path goes into arguments. An error has no path at all only if there is
no operation to which it could belong. All of it is read off the protocol of the sites of the
document, `Scope.protocol`, to which serving keeps.
-/

namespace TypedQuery

/-- The protocol of a document, `Scope.protocol`, admits its sites. -/
theorem Scope.protocol_admits {scope : Scope} {sites : List Site} {site : Site}
    (here : site ∈ sites) : scope.Admits (scope.protocol sites) site where
  toGoverns := (planningProtocol_governs here).of_restrict protocol_attributed
  asks := protocol_asksResolver here
  refuses := fun _ => .result here

namespace Engine

variable (engine : Engine) (root : Operation) (name : String) (query : Json)
  (context : Context)

/-- The path leads from the operation by keys to a part of the document, and by a tail into the
arguments of the field that stands there, along a `Schema.ArgsChain`, or no further. -/
structure Locates (path : FieldPath) (keys tail : List String) : Prop where
  path : path = name :: keys ++ tail
  noArgs : argsKey ∉ keys
  part : ∃ part, query.Holds keys part
  tail : tail = [] ∨ ∃ site ∈ engine.sites root name query, site.path = name :: keys ∧
    ∃ chain, engine.schema.ArgsChain site.definition.signature.args chain ∧
      tail = argsKey :: chain

/-- The event asks a callback of the document for a path, and with that outcome, as `Scope.Consults`
says of its sites. -/
def Consults (event : Event) (fault? : Option Fault) (path : FieldPath) : Prop :=
  (engine.scope root context).Consults (engine.sites root name query) event fault? path

/-- The errors of a run that serves the document are attributed to its fields. -/
structure Attribution (run : Run Error Json) : Prop where
  /-- A callback that fails ends the run, with an error that is attributed to its field. If the
  callback has attributed the error already, nothing about it changes. -/
  calls : ∀ event ∈ run.trace, event.CallsScalar ∨
    ∃ fault? path, engine.Consults root name query context event fault? path ∧
      (∀ fault, fault? = some fault → run.outcome = .error (fault.reported path)) ∧
      ∀ error, fault? = some (.engine error) → error.path ≠ none → run.outcome = .error error
  /-- Unless a callback sets a path of its own, the path leads into the document. -/
  located : (∀ event ∈ run.trace, ∀ fault path,
      engine.Consults root name query context event (some fault) path →
        (Error.ofFault fault).path = none) →
    ∀ error, run.outcome = .error error →
      ∃ path keys tail, error.path = some path ∧ engine.Locates root name query path keys tail
  /-- Where no callback fails, the error is about arguments if the path leads into them, and
  about the selection or the result otherwise. -/
  kind : (∀ event ∈ run.trace, ∀ fault path,
      ¬ engine.Consults root name query context event (some fault) path) →
    ∀ error, run.outcome = .error error →
      ∃ path keys tail, error.path = some path ∧ engine.Locates root name query path keys tail ∧
        (error.kind = .args ∨ error.kind = .query ∨ error.kind = .result) ∧
        error.status = 400 ∧ (error.kind = .args ↔ tail ≠ [])

variable {engine root name query context}

section Site

variable {site : Site} (here : site ∈ engine.sites root name query)
include here

theorem locates_site : ∃ keys, engine.Locates root name query site.path keys [] := by
  obtain ⟨keys, path, noArgs, holds⟩ := Schema.holds_of_mem_sites here
  refine ⟨keys, ?_, noArgs, ⟨site.query, holds⟩, .inl rfl⟩
  rw [path, List.append_nil, List.singleton_append]

theorem locates_key {key : String} (selected : key ∈ Entries.keys site.selection) :
    ∃ keys, engine.Locates root name query (site.path ++ [key]) keys [] := by
  obtain ⟨keys, path, noArgs, holds⟩ := Schema.holds_of_mem_sites here
  obtain ⟨noArgsKey, part, held⟩ := Site.holds_of_mem_selection selected
  refine ⟨keys ++ [key], ?_, ?_, ⟨part, holds.trans held⟩, .inl rfl⟩
  · rw [path, List.append_nil, List.singleton_append, List.cons_append]
  · simp only [List.mem_append, List.mem_singleton, not_or]
    exact ⟨noArgs, noArgsKey.symm⟩

theorem locates_args {chain : List String}
    (leads : engine.schema.ArgsChain site.definition.signature.args chain) :
    ∃ keys, engine.Locates root name query (site.path ++ argsKey :: chain) keys
      (argsKey :: chain) := by
  obtain ⟨keys, path, noArgs, holds⟩ := Schema.holds_of_mem_sites here
  rw [List.singleton_append] at path
  refine ⟨keys, ?_, noArgs, ⟨site.query, holds⟩, .inr ⟨site, here, path, chain, leads, rfl⟩⟩
  rw [path]

end Site

/-- Every callback is asked for a path that leads into the document. -/
theorem locates_of_consults {event : Event} {fault? : Option Fault} {path : FieldPath}
    (consults : engine.Consults root name query context event fault? path) :
    ∃ keys tail, engine.Locates root name query path keys tail := by
  cases consults with
  | guard here | operation here | field here =>
      obtain ⟨keys, locates⟩ := locates_site here
      exact ⟨keys, [], locates⟩
  | @check site slot keys target _ _ _ _ here declared leads _ _ path =>
      subst path
      have chain : engine.schema.ArgsChain site.definition.signature.args keys :=
        .inr ⟨slot, target, declared, leads⟩
      obtain ⟨keys, locates⟩ := locates_args here chain
      exact ⟨keys, _, locates⟩

/-- What the engine objects to is in the document, and in arguments just if they are refused. -/
theorem locates_of_objection {error : Error}
    (objects : (engine.scope root context).Objection (engine.sites root name query) error) :
    ∃ path keys tail, error.path = some path ∧ engine.Locates root name query path keys tail ∧
      (error.kind = .args ∨ error.kind = .query ∨ error.kind = .result) ∧
      error.status = 400 ∧ (error.kind = .args ↔ tail ≠ []) := by
  cases objects with
  | args here leads =>
      obtain ⟨keys, locates⟩ := locates_args here leads
      exact ⟨_, keys, _, rfl, locates, .inl rfl, rfl, iff_of_true rfl (List.cons_ne_nil _ _)⟩
  | query here =>
      obtain ⟨keys, locates⟩ := locates_site here
      exact ⟨_, keys, [], rfl, locates, .inr (.inl rfl), rfl, iff_of_false nofun (absurd rfl)⟩
  | key here selected =>
      obtain ⟨keys, locates⟩ := locates_key here selected
      exact ⟨_, keys, [], rfl, locates, .inr (.inl rfl), rfl, iff_of_false nofun (absurd rfl)⟩
  | result here =>
      obtain ⟨keys, locates⟩ := locates_site here
      exact ⟨_, keys, [], rfl, locates, .inr (.inr rfl), rfl, iff_of_false nofun (absurd rfl)⟩

/-- Serving a document keeps to the protocol of its sites, from planning to conforming. -/
theorem follows_protocol_serve : (engine.serve root name query context).Follows
    ((engine.scope root context).protocol (engine.sites root name query)) :=
  follows_serve Scope.protocol_serial fun _ here => Scope.protocol_admits here

/-- Runs that keep to the protocol of the document have their errors attributed, since `Run.Follows`
tells where each of them comes from. -/
theorem attribution_of_follows {run : Run Error Json}
    (follows : run.Follows
      ((engine.scope root context).protocol (engine.sites root name query))) :
    engine.Attribution root name query context run where
  calls := by
    intro event shown
    obtain ⟨report, reports, ends⟩ := follows.calls event shown
    obtain ⟨callsScalar, _⟩ | ⟨fault?, path, consults, rfl⟩ := reports
    · exact .inl callsScalar
    · have reported (fault : Fault) (failed : fault? = some fault) :
          run.outcome = .error (fault.reported path) := by
        subst failed
        exact ends _ rfl
      refine .inr ⟨fault?, path, consults, reported, fun error failed own => ?_⟩
      rw [reported _ failed, Fault.reported_of_path_ne_none own path]
  located := by
    intro pathless error failed
    obtain objects | ⟨event, shown, ⟨_, nothing⟩ | ⟨fault?, path, consults, reported⟩⟩ :=
      follows.fails error failed
    · obtain ⟨path, keys, tail, located, locates, _⟩ := locates_of_objection objects
      exact ⟨path, keys, tail, located, locates⟩
    · -- A function of a scalar reports nothing.
      cases nothing
    · obtain ⟨fault, rfl, rfl⟩ := Option.map_eq_some_iff.mp reported.symm
      obtain ⟨keys, tail, locates⟩ := locates_of_consults consults
      have noPath : (Error.ofFault fault).path = none := pathless event shown fault path consults
      exact ⟨path, keys, tail, Fault.reported_of_path_eq_none noPath path, locates⟩
  kind := by
    intro succeed error failed
    obtain objects | ⟨event, shown, ⟨_, nothing⟩ | ⟨fault?, path, consults, reported⟩⟩ :=
      follows.fails error failed
    · exact locates_of_objection objects
    · cases nothing
    · obtain ⟨fault, rfl, _⟩ := Option.map_eq_some_iff.mp reported.symm
      exact absurd consults (succeed event shown fault path)

/-- A registered operation never fails without a path. -/
theorem path_ne_none_of_run (found : engine.schema.operation? name = some root) {error : Error}
    (failed : (engine.run name query context).outcome = .error error) : error.path ≠ none := by
  have served : engine.run name query context = engine.serve root name query context := by
    rw [run, found]
  rw [served] at failed
  exact follows_protocol_serve.path_ne_none Scope.protocol_attributed failed

/-- The body names no operation of the engine: it is no object, or has other than one key, or
its key is not registered. -/
def NamesNoOperation (engine : Engine) (body : Json) : Prop :=
  body.members? = none ∨ ∃ members, body = .object members ∧
    (members.length ≠ 1 ∨
      ∃ name query, members = [(name, query)] ∧ engine.schema.operation? name = none)

theorem runDocument_fails_without_path_iff (engine : Engine) (body : Json) (context : Context) :
    (∃ error, (engine.runDocument body context).outcome = .error error ∧ error.path = none) ↔
      engine.NamesNoOperation body := by
  constructor
  · rintro ⟨error, failed, noPath⟩
    cases body with
    | null | bool | number | string | array => exact .inl rfl
    | object members =>
        refine .inr ⟨members, rfl, ?_⟩
        match members with
        | [] => exact .inl nofun
        | _ :: _ :: _ => exact .inl (by simp)
        | [(name, query)] =>
            refine .inr ⟨name, query, rfl, ?_⟩
            cases found : engine.schema.operation? name with
            | none => rfl
            | some root => exact absurd noPath (path_ne_none_of_run found failed)
  · rintro (noMembers | ⟨members, rfl, several | ⟨name, query, rfl, unknown⟩⟩)
    · cases body with
      | object members => cases noMembers
      | null | bool | number | string | array => exact ⟨_, rfl, rfl⟩
    · match members with
      | [] => exact ⟨_, rfl, rfl⟩
      | _ :: _ :: _ => exact ⟨_, rfl, rfl⟩
      | [_] => exact absurd rfl several
    · refine ⟨.query (.unknownOperation name), ?_, rfl⟩
      rw [runDocument, run, unknown]
      rfl

/-- Whatever fails in serving a registered operation is attributed to where it arose, and a
document fails without a path just if it names no operation. -/
theorem errors_are_attributed (engine : Engine) (context : Context) :
    (∀ name root, engine.schema.operation? name = some root → ∀ query,
      engine.Attribution root name query context (engine.run name query context)) ∧
    ∀ body, (∃ error, (engine.runDocument body context).outcome = .error error ∧
      error.path = none) ↔ engine.NamesNoOperation body := by
  refine ⟨?_, fun body => runDocument_fails_without_path_iff engine body context⟩
  intro name root found query
  rw [run, found]
  exact attribution_of_follows follows_protocol_serve

/-- The operation that lists the books of a shelf. -/
def shelfOperation : Operation where
  name := "shelf"
  signature := { type := .lookup "shelf" }
  resolver := fun _ => pure .null

/-- Books are asked for by the years in which they were published. -/
def shelfEngine : Engine where
  schema :=
    { objects := [("shelf",
        { name := "shelf"
          fields := [("books",
            { signature :=
              { type := .scalar Scalar.string
                array := some ⟨false⟩
                args := some { type := .lookup "filter" } } })] })]
      inputs := [
        ("filter", { name := "filter", fields := [("published", { type := .lookup "years" })] }),
        ("years", { name := "years", fields := [("from", { type := .scalar Scalar.number })] })]
      operations := [("shelf", shelfOperation)] }
  options := {}

/-- The books since a year that is no number. -/
def sinceQuery : Json :=
  .object [("books", .object [(argsKey,
    .object [("published", .object [("from", .string "long ago")])])])]

/-- Arguments are refused at the innermost member, after the parser of the scalar was asked. -/
theorem errors_are_attributed_shelf :
    let context : Context := ⟨"POST", "/", [], [], [], []⟩
    let run := shelfEngine.run "shelf" sinceQuery context
    shelfEngine.schema.operation? "shelf" = some shelfOperation ∧
      shelfEngine.Attribution shelfOperation "shelf" sinceQuery context run ∧
      run.outcome = .error ((Error.args (.refusedScalar "number")).withPath
        ["shelf", "books", argsKey, "published", "from"]) ∧
      ∃ keys tail, shelfEngine.Locates shelfOperation "shelf" sinceQuery
        ["shelf", "books", argsKey, "published", "from"] keys tail ∧ tail ≠ [] := by
  intro context run
  have found : shelfEngine.schema.operation? "shelf" = some shelfOperation := rfl
  have attribution : shelfEngine.Attribution shelfOperation "shelf" sinceQuery context run :=
    (errors_are_attributed shelfEngine context).1 "shelf" shelfOperation found sinceQuery
  have failed : run.outcome = .error ((Error.args (.refusedScalar "number")).withPath
      ["shelf", "books", argsKey, "published", "from"]) := rfl
  obtain ⟨parsed, shown⟩ : ∃ parsed,
      run.trace = [.call (.parse "number" (.string "long ago")) parsed] := ⟨_, rfl⟩
  have succeed : ∀ event ∈ run.trace, ∀ fault path,
      ¬ shelfEngine.Consults shelfOperation "shelf" sinceQuery context event (some fault) path := by
    intro event inside fault path consults
    rw [shown, List.mem_singleton] at inside
    subst inside
    cases consults
  obtain ⟨path, keys, tail, located, locates, _, _, inArgs⟩ := attribution.kind succeed _ failed
  obtain rfl := Option.some.inj located
  exact ⟨found, attribution, failed, keys, tail, locates, inArgs.mp rfl⟩

end Engine

end TypedQuery
