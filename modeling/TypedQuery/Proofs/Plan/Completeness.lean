import TypedQuery.Proofs.MissingTypes
import TypedQuery.Proofs.Plan.Placement
import TypedQuery.Proofs.Plan.Planning

/-!
# Documents in complete schemas

Planning a document resolves the types of the fields that it selects and of the slots that their
arguments lead to, and all of these are in reach from what is registered. Where the look-ups in
reach lead somewhere, as `Schema.Complete` says, the protocol `Protocol.finding` has all that may
come up at a site, since then no site is refused for want of a type. Resolving and conforming look
up nothing.
-/

namespace TypedQuery

namespace Schema

variable {schema : Schema}

/-- A document selects nothing but what the schema `Offers`. -/
theorem offers_of_mem_sites {query : Json} {definition : Definition} {path : FieldPath}
    (offered : schema.Offers definition) {site : Site}
    (here : site ∈ schema.sites query definition path) : schema.Offers site.definition := by
  refine of_mem_sites (fun definition type key field offered resolved selected => ?_) offered here
  obtain ⟨_, held, _⟩ := ObjectType.selectable?_eq_some_iff.mp selected
  exact .field offered.declares resolved (Entries.mem_of_get?_eq_some held)

/-- A slot in reach, in the sense of `Takes`, leads to slots in reach. -/
theorem SlotAt.takes {slot target : Slot} {keys : List String}
    (leads : schema.SlotAt slot keys target) (taken : schema.Takes slot) :
    schema.Takes target := by
  induction leads with
  | self => exact taken
  | member resolved inside _ ih => exact ih (taken.member resolved inside)

end Schema

namespace Protocol

variable {schema : Schema}

theorem finding_regular : (finding schema).Regular where
  toAttributed := finding_attributed
  parses := fun _ _ _ => nofun

theorem finding_serial : (finding schema).Serial where
  toAttributed := finding_attributed
  serializes := fun _ _ _ => nofun

/-- A value may be refused anywhere, which is not for want of a type. -/
theorem finding_refusesResult (path : FieldPath) : (finding schema).RefusesResult path :=
  fun _ => ⟨nofun, rfl⟩

/-- The resolvers of what the schema offers are callbacks of the schema. -/
theorem finding_asksResolver {definition : Definition} (offered : schema.Offers definition)
    (path : FieldPath) : (finding schema).AsksResolver definition path := by
  cases definition with
  | operation root =>
      intro request _
      refine finding_reports (fun fault failed => ?_) path
      exact .operation offered (Run.failure?_eq_some_iff.mp failed)
  | field inner =>
      intro resolver declared request _
      refine finding_reports (fun fault failed => ?_) path
      exact .field offered declared (Run.failure?_eq_some_iff.mp failed)

/-- Where the look-ups in reach lead somewhere, no arguments are refused for want of a type. -/
theorem finding_coversArgs (complete : schema.Complete) {slot : Option Slot}
    (taken : ∀ declared, slot = some declared → schema.Takes declared) (path : FieldPath) :
    (finding schema).CoversArgs schema slot path := by
  have refuses (path : FieldPath) : (finding schema).RefusesArgs path :=
    fun _ other => ⟨nofun, other⟩
  refine ⟨refuses path, fun declared same => ⟨fun _ _ _ => refuses _, ?misses, ?asks⟩⟩
  case misses =>
    intro keys target error leads unresolved
    obtain ⟨type, resolved⟩ := complete.resolveInput (leads.takes (taken declared same))
    rw [resolved] at unresolved
    cases unresolved
  case asks =>
    intro keys target type leads resolved check checked members
    refine finding_reports (fun fault failed => ?_) _
    have inReach : schema.Takes target := leads.takes (taken declared same)
    exact .check inReach resolved checked (Run.failure?_eq_some_iff.mp failed)

end Protocol

/-- Where the look-ups in reach lead somewhere, nothing that the schema offers is refused for want
of a type. -/
theorem Scope.finding_governs {scope : Scope} (complete : scope.schema.Complete) {site : Site}
    (offered : scope.schema.Offers site.definition) :
    scope.Governs (Protocol.finding scope.schema) site where
  toAttributed := Protocol.finding_attributed
  guard := by
    intro guard declared
    refine Protocol.finding_reports (fun fault failed => ?_) site.path
    exact .guard offered declared (Run.failure?_eq_some_iff.mp failed)
  args := by
    refine Arguments.follows_check Protocol.finding_regular ?_ _
    exact Protocol.finding_coversArgs complete (fun _ takes => .args offered.declares takes) _
  required := ⟨nofun, rfl⟩
  unresolved := by
    intro error unresolved
    obtain ⟨type, resolved⟩ := complete.resolveOutput offered.declares
    rw [resolved] at unresolved
    cases unresolved
  query := by
    have other : ∀ fault ∈ [QueryFault.notSelection, .fieldsOfLeaf, .markedObject],
        (Cause.query fault).missesType = false := by decide
    exact fun fault listed => ⟨nofun, other fault listed⟩
  key := by
    have other : ∀ fault ∈ [QueryFault.unknownField, .hiddenField],
        (Cause.query fault).missesType = false := by decide
    exact fun _ _ fault listed => ⟨nofun, other fault listed⟩

end TypedQuery
