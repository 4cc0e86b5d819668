import TypedQuery.Proofs.Plan.Placement
import TypedQuery.Proofs.Plan.Planning

/-!
# Where the fields of a document fail

Every stage of serving a document keeps to one protocol, `Scope.protocol`, which is a matter of the
sites of the document. It lets a stage ask the guard and the resolver of a site, and the checks that
its arguments lead to, each for the path where it stands; these are the calls that `Scope.Consults`
lists. And it lets a stage object to a site, as `Scope.Objection` says: to its arguments, to what
the client wrote or to a key in it, and to the value that it has. All of this is attributed to the
site and not to the fields around it. Planning keeps to the protocol without the resolvers, which
governs every site of the document, so it asks no resolver: `only_select`.
-/

namespace TypedQuery

/-- The names of members lead along the arguments of a field that declares the slot, if any, as
`Schema.SlotAt` says. -/
def Schema.ArgsChain (schema : Schema) (slot : Option Slot) (keys : List String) : Prop :=
  keys = [] ∨ ∃ declared target, slot = some declared ∧ schema.SlotAt declared keys target

/-- Whether the call asks a resolver, of an operation or of a field. -/
def Call.asksResolver : Call → Bool
  | .resolveOperation _ => true
  | .resolveField _ => true
  | _ => false

def Event.asksResolver : Event → Bool
  | .call made _ => made.asksResolver
  | .note _ => false

/-- The event calls a function of a scalar. -/
def Event.CallsScalar : Event → Prop
  | .call (.parse ..) _ => True
  | .call (.serialize ..) _ => True
  | _ => False

namespace Scope

variable (scope : Scope) (sites : List Site)

/-- The event asks a callback of one of the sites for a path. With the event goes what the
callback fails with, if it does. -/
inductive Consults : Event → Option Fault → FieldPath → Prop
  | guard {site guard} : site ∈ sites → site.definition.signature.guard = some guard →
      Consults
        (.call (.guard (scope.guardRequest site)) (guard (scope.guardRequest site)).trace)
        (guard (scope.guardRequest site)).failure? site.path
  | check {site slot keys target type check members path} : site ∈ sites →
      site.definition.signature.args = some slot → scope.schema.SlotAt slot keys target →
      scope.schema.resolveInput target.type = .ok (.input type) → type.check = some check →
      path = site.path ++ argsKey :: keys →
      Consults (.call (.checkInput type.name members path) (check members path).trace)
        (check members path).failure? path
  | operation {site root request} : site ∈ sites → site.definition = .operation root →
      request.path = site.path →
      Consults (.call (.resolveOperation request) (root.resolver request).trace)
        (root.resolver request).failure? site.path
  | field {site inner resolver request} : site ∈ sites → site.definition = .field inner →
      inner.resolver = some resolver → request.path = site.path →
      Consults (.call (.resolveField request) (resolver request).trace)
        (resolver request).failure? site.path

/-- The errors by which the engine itself objects to one of the sites. -/
inductive Objection : Error → Prop
  | args {site keys fault} : site ∈ sites →
      scope.schema.ArgsChain site.definition.signature.args keys →
      Objection ((Error.args fault).withPath (site.path ++ argsKey :: keys))
  | query {site fault} : site ∈ sites → Objection ((Error.query fault).withPath site.path)
  | key {site key fault} : site ∈ sites → key ∈ Entries.keys site.selection →
      Objection ((Error.query fault).withPath (site.path ++ [key]))
  | result {site fault} : site ∈ sites → Objection ((Error.result fault).withPath site.path)

/-- What the stages of serving a document with these sites keep to. -/
def protocol : Protocol where
  reports event report := event.CallsScalar ∧ report = none ∨
    ∃ fault? path, scope.Consults sites event fault? path ∧
      report = fault?.map (·.reported path)
  raises := scope.Objection sites

/-- What planning keeps to, before any resolver is asked: the part of `protocol` without
resolvers. -/
def planningProtocol : Protocol :=
  (scope.protocol sites).restrict (·.asksResolver = false)

variable {scope sites}

theorem protocol_reports {event : Event} {fault? : Option Fault} {path : FieldPath}
    (consults : scope.Consults sites event fault? path) :
    (scope.protocol sites).reports event (fault?.map (·.reported path)) :=
  .inr ⟨fault?, path, consults, rfl⟩

theorem protocol_attributed : (scope.protocol sites).Attributed where
  reports := by
    rintro event error (⟨_, nothing⟩ | ⟨fault?, path, _, reported⟩)
    · cases nothing
    · exact Fault.path_reported_ne_none reported.symm
  raises := by
    rintro error (_ | _ | _ | _) <;> exact nofun

theorem planningProtocol_regular : (scope.planningProtocol sites).Regular where
  toAttributed := protocol_attributed.restrict _
  parses := fun _ _ _ => ⟨rfl, .inl ⟨trivial, rfl⟩⟩

section Site

variable {site : Site} (here : site ∈ sites)
include here

theorem planningProtocol_coversArgs :
    (scope.planningProtocol sites).CoversArgs scope.schema site.definition.signature.args
      (site.path ++ [argsKey]) := by
  refine ⟨fun fault _ => .args here (.inl rfl), fun slot declared => ⟨?_, ?_, ?_⟩⟩
  · intro keys target leads fault _
    rw [List.append_assoc]
    exact .args here (.inr ⟨slot, target, declared, leads⟩)
  · intro keys target error leads unresolved
    obtain ⟨name, rfl⟩ := Schema.eq_unknownInput_of_resolveInput unresolved
    rw [List.append_assoc]
    exact .args here (.inr ⟨slot, target, declared, leads⟩)
  · intro keys target type leads resolved check checked members
    exact ⟨rfl, protocol_reports
      (.check here declared leads resolved checked (List.append_assoc ..))⟩

/-- The protocol governs every site, in the sense of `Scope.Governs`. -/
theorem planningProtocol_governs : scope.Governs (scope.planningProtocol sites) site where
  toAttributed := protocol_attributed.restrict _
  guard := fun _ declared => ⟨rfl, protocol_reports (.guard here declared)⟩
  args := Arguments.follows_check planningProtocol_regular (planningProtocol_coversArgs here) _
  required := .args here (.inl rfl)
  unresolved := by
    intro error unresolved
    obtain ⟨name, rfl⟩ := Schema.eq_unknownObject_of_resolveOutput unresolved
    exact .query here
  query := fun _ _ => .query here
  key := fun _ written _ _ => .key here written

theorem protocol_asksResolver : (scope.protocol sites).AsksResolver site.definition site.path := by
  cases answered : site.definition with
  | operation root => exact fun request path => protocol_reports (.operation here answered path)
  | field inner =>
      exact fun resolver declared request path =>
        protocol_reports (.field here answered declared path)

end Site

theorem protocol_serial : (scope.protocol sites).Serial where
  toAttributed := protocol_attributed
  serializes := fun _ _ _ => .inl ⟨trivial, rfl⟩

/-- Planning keeps to the protocol of the sites of the document, and asks no resolver. -/
theorem follows_select (query : Json) (definition : Definition) (path : FieldPath)
    (inside : ∀ site ∈ scope.schema.sites query definition path, site ∈ sites) :
    (scope.select query definition path).Follows (scope.planningProtocol sites) :=
  follows_select_of_governs fun site within => planningProtocol_governs (inside site within)

variable (scope) in
/-- Planning asks no resolver, whether it succeeds or not. -/
theorem only_select (query : Json) (definition : Definition) (path : FieldPath) :
    (scope.select query definition path).Only (·.asksResolver = false) :=
  (follows_select query definition path fun _ inside => inside).only

end Scope

end TypedQuery
