import TypedQuery.Proofs.Plan.Response
import TypedQuery.Proofs.Plan.Grammar

/-!
# Parts of documents

A part of a document, `Json.PartOf`, selects some of the fields that the document selects, in any
order, with the arguments that they have there. Its plan asks nothing more of the document's
context, and whatever the document comes to, the part comes to the same data restricted to what it
selects, by `Schema.restrict`: fields are planned and conformed one by one, and none of them has a
say in another. Guards are the exception, since they see what is selected around them; so none may
stand in the way.
-/

namespace TypedQuery

namespace Json

mutual

/-- `part.PartOf whole`: leaving out and reordering members of selections leads from the whole
document to the part. Arguments stay as they are. -/
inductive PartOf : (part whole : Json) → Prop
  | same {query} : PartOf query query
  | object {members others} : Entries.get? members argsKey = Entries.get? others argsKey →
      PartsOf members others → PartOf (.object members) (.object others)

/-- Every member, the arguments apart, is a part of a member of that name. -/
inductive PartsOf : (members others : List (String × Json)) → Prop
  | nil {others} : PartsOf [] others
  | args {query members others} : PartsOf members others →
      PartsOf ((argsKey, query) :: members) others
  | cons {key query source members others} : (key, source) ∈ others → PartOf query source →
      PartsOf members others → PartsOf ((key, query) :: members) others

end

theorem PartsOf.source {members others : List (String × Json)} (h : PartsOf members others)
    {member : String × Json} (inside : member ∈ members) (noArgs : member.1 ≠ argsKey) :
    ∃ source, (member.1, source) ∈ others ∧ member.2.PartOf source := by
  induction members with
  | nil => cases inside
  | cons first members ih =>
      cases h with
      | args rest =>
          obtain rfl | inside := List.mem_cons.mp inside
          · exact absurd rfl noArgs
          · exact ih rest inside
      | cons held part rest =>
          obtain rfl | inside := List.mem_cons.mp inside
          · exact ⟨_, held, part⟩
          · exact ih rest inside

/-- What is no object has no part but itself. -/
theorem PartOf.eq_of_members?_eq_none {part whole : Json} (h : part.PartOf whole)
    (noMembers : part.members? = none) : whole = part := by
  cases h with
  | same => rfl
  | object => cases noMembers

/-- An object is a part of an object, by the members that it selects. -/
theorem PartOf.object_left {members : List (String × Json)} {whole : Json}
    (h : (Json.object members).PartOf whole) :
    ∃ others, whole = .object others ∧
      Entries.get? members argsKey = Entries.get? others argsKey ∧
      ∀ member ∈ members, member.1 ≠ argsKey →
        ∃ source, (member.1, source) ∈ others ∧ member.2.PartOf source := by
  cases h with
  | same => exact ⟨members, rfl, rfl, fun member inside _ => ⟨member.2, inside, .same⟩⟩
  | object args parts => exact ⟨_, rfl, args, fun _ inside noArgs => parts.source inside noArgs⟩

/-- Applies a function to the members of an object. -/
def mapMembers (f : List (String × Json) → List (String × Json)) : Json → Json
  | .object members => .object (f members)
  | value => value

/-- Applies a function to the members of an object, or of the objects in an array, by
`mapMembers`. -/
def mapObjects (f : List (String × Json) → List (String × Json)) : Json → Json
  | .array elements => .array (elements.map (mapMembers f))
  | value => mapMembers f value

end Json

namespace Schema

mutual

/-- The data of a field restricted to what is selected in it: of every object in an object-typed
position, in arrays as well, the selected members are kept in the order of the selection. -/
def restrict (schema : Schema) : (query : Json) → Signature → (data : Json) → Json
  | .object members, signature, data =>
    match schema.resolveOutput signature.type with
    | .ok (.object type) => data.mapObjects (restrictMembers schema members type)
    | _ => data
  | _, _, data => data
termination_by structural query => query

def restrictMembers (schema : Schema) : (selection : List (String × Json)) → ObjectType →
    (data : List (String × Json)) → List (String × Json)
  | [], _, _ => []
  | (key, query) :: rest, type, data =>
    match type.selectable? key, Entries.get? data key with
    | some field, some value =>
      (key, restrict schema query field.signature value) :: restrictMembers schema rest type data
    | _, _ => restrictMembers schema rest type data
termination_by structural selection => selection

end

variable {schema : Schema}

theorem restrict_of_members?_eq_none {query : Json} (h : query.members? = none)
    (signature : Signature) (data : Json) : schema.restrict query signature data = data := by
  cases query with
  | object => cases h
  | null | bool | number | string | array => rfl

theorem restrict_of_scalar {signature : Signature} {scalar : Scalar}
    (h : schema.resolveOutput signature.type = .ok (.scalar scalar))
    (members : List (String × Json)) (data : Json) :
    schema.restrict (.object members) signature data = data := by
  rw [restrict, h]

theorem restrict_of_object {signature : Signature} {type : ObjectType}
    (h : schema.resolveOutput signature.type = .ok (.object type))
    (members : List (String × Json)) (data : Json) :
    schema.restrict (.object members) signature data
      = data.mapObjects (schema.restrictMembers members type) := by
  rw [restrict, h]

/-- The arguments of a field are no selection in it. -/
theorem restrictMembers_filter (members : List (String × Json)) (type : ObjectType)
    (data : List (String × Json)) :
    schema.restrictMembers (members.filter (·.1 ≠ argsKey)) type data
      = schema.restrictMembers members type data := by
  induction members with
  | nil => rfl
  | cons member members ih =>
      obtain ⟨key, query⟩ := member
      by_cases h : key = argsKey
      · subst h
        rw [List.filter_cons_of_neg (by simp), ih, restrictMembers, type.selectable?_argsKey]
      · rw [List.filter_cons_of_pos (by simpa using h), restrictMembers, ih, restrictMembers]

/-- A part of a document selects no field that the document does not select. -/
theorem exists_site_of_partOf {part whole : Json} (isPart : part.PartOf whole)
    {definition : Definition} {path : FieldPath} {site : Site}
    (here : site ∈ schema.sites part definition path) :
    ∃ source ∈ schema.sites whole definition path, source.definition = site.definition := by
  induction part using Json.object_induction generalizing whole definition path with
  | other part noMembers =>
      obtain rfl := isPart.eq_of_members?_eq_none noMembers
      exact ⟨site, here, rfl⟩
  | object members ih =>
      obtain ⟨others, rfl, _, sources⟩ := isPart.object_left
      rw [sites] at here ⊢
      obtain rfl | within := List.mem_cons.mp here
      · exact ⟨_, List.mem_cons_self, rfl⟩
      · split at within
        · obtain ⟨member, inside, field, selected, below⟩ :=
            exists_member_of_mem_sitesWithin within
          have noArgs : member.1 ≠ argsKey := (ObjectType.selectable?_eq_some_iff.mp selected).1
          obtain ⟨source, held, memberPart⟩ := sources member inside noArgs
          obtain ⟨found, there, same⟩ := ih member inside memberPart below
          exact ⟨found, List.mem_cons_of_mem _ (mem_sitesWithin held selected there), same⟩
        · cases within

end Schema

namespace Plan

/-- Under each selected name stands what the plan of that name makes of the member. -/
theorem ConformsFields.get? {children : List (String × Plan)}
    {members results : List (String × Json)} (h : ConformsFields children members results)
    (unique : (Entries.keys children).Nodup) {key : String} {child : Plan}
    (inside : (key, child) ∈ children) :
    ∃ result, Entries.get? results key = some result ∧
      Conforms child ((Entries.get? members key).getD .null) result := by
  induction children generalizing results with
  | nil => cases inside
  | cons first children ih =>
      obtain ⟨name, plan⟩ := first
      obtain ⟨fresh, unique⟩ := List.nodup_cons.mp unique
      cases h with
      | cons conforms rest =>
          rw [Entries.get?_cons]
          obtain same | inside := List.mem_cons.mp inside
          · cases same
            exact ⟨_, if_pos rfl, conforms⟩
          · have named : key ∈ Entries.keys children := List.mem_map_of_mem inside
            have other : name ≠ key := fun same => fresh (same ▸ named)
            rw [if_neg other]
            exact ih rest unique inside

@[simp] theorem conformsFields_nil_iff {members results : List (String × Json)} :
    ConformsFields [] members results ↔ results = [] := by
  constructor
  · rintro ⟨⟩
    rfl
  · rintro rfl
    exact .nil

/-- The plan of a part of a document asks with the same arguments, and what a value comes to for
the whole it comes to for the part, restricted. -/
structure Covers (whole : Plan) (restrict : Json → Json) (part : Plan) : Prop where
  args : part.args = whole.args
  conforms : ∀ value data, Conforms whole value data → Conforms part value (restrict data)

section Objects

variable {wholes parts : List (String × Plan)}
variable {f : List (String × Json) → List (String × Json)}
variable (fewer : wholes = [] → parts = [])
variable (fields : ∀ members results, ConformsFields wholes members results →
  ConformsFields parts members (f results))
include fewer fields

/-- One object, restricted to fewer fields, or to none. -/
theorem conformsObject_of_part {value result : Json} (h : ConformsObject wholes value result) :
    ConformsObject parts value (result.mapMembers f) := by
  cases h with
  | empty =>
      obtain rfl := fewer rfl
      have nothing : f [] = [] := conformsFields_nil_iff.mp (fields [] [] .nil)
      rw [Json.mapMembers, nothing]
      exact .empty
  | collapsed noMembers =>
      obtain rfl := fewer rfl
      exact .collapsed noMembers
  | @fields _ members results _ conforms =>
      have restricted : ConformsFields parts members (f results) := fields members results conforms
      cases parts with
      | nil =>
          rw [Json.mapMembers, conformsFields_nil_iff.mp restricted]
          exact .empty
      | cons part parts => exact .fields (List.cons_ne_nil _ _) restricted

theorem conformsElements_of_part {rule : ArrayRule} {elements results : List Json}
    (h : ConformsElements wholes rule elements results) :
    ConformsElements parts rule elements (results.map (Json.mapMembers f)) := by
  induction elements generalizing results with
  | nil =>
      cases h
      exact .nil
  | cons element elements ih =>
      cases h with
      | null allowed rest => exact .null allowed (ih rest)
      | object null conforms rest =>
          exact .object null (conformsObject_of_part fewer fields conforms) (ih rest)

end Objects

/-- No object conforms to an array. -/
theorem ConformsObject.mapObjects {children : List (String × Plan)} {value result : Json}
    (h : ConformsObject children value result)
    (f : List (String × Json) → List (String × Json)) :
    result.mapObjects f = result.mapMembers f := by
  cases h <;> rfl

end Plan

namespace Scope

variable {scope : Scope}

/-- A member of a part is planned to cover what the member of the whole is planned for. -/
def CoveredBy (schema : Schema) (type : ObjectType) (wholes : List (String × Plan))
    (member : String × Json) (child : String × Plan) : Prop :=
  ∃ field whole, type.selectable? member.1 = some field ∧ child.1 = member.1 ∧
    (member.1, whole) ∈ wholes ∧
    whole.Covers (schema.restrict member.2 field.signature) child.2

theorem conformsFields_of_part {schema : Schema} {type : ObjectType}
    {wholes parts : List (String × Plan)} (unique : (Entries.keys wholes).Nodup)
    {selection : List (String × Json)}
    (covered : List.Forall₂ (CoveredBy schema type wholes) selection parts)
    {members results : List (String × Json)}
    (h : Plan.ConformsFields wholes members results) :
    Plan.ConformsFields parts members (schema.restrictMembers selection type results) := by
  induction covered with
  | nil => exact .nil
  | @cons member part selection parts first _ ih =>
      obtain ⟨field, whole, selected, named, inside, covers⟩ := first
      obtain ⟨name, part⟩ := part
      obtain ⟨key, query⟩ := member
      obtain rfl : name = key := named
      obtain ⟨result, held, conforms⟩ := h.get? unique inside
      rw [Schema.restrictMembers, selected, held]
      exact .cons (covers.conforms _ result conforms) ih

/-- A branch covers the branch of the part if the fields do, each `CoveredBy` the field of its
name. -/
theorem covers_branch {schema : Schema} {definition : Definition} {type : ObjectType}
    (resolved : schema.resolveOutput definition.signature.type = .ok (.object type))
    {members : List (String × Json)} {wholes parts : List (String × Plan)}
    (unique : (Entries.keys wholes).Nodup)
    (covered : List.Forall₂ (CoveredBy schema type wholes) (members.filter (·.1 ≠ argsKey)) parts)
    {selection selected : List (String × Json)} {args : Option Json} :
    (Plan.branch definition type selection args wholes).Covers
      (schema.restrict (.object members) definition.signature)
      (.branch definition type selected args parts) := by
  have fewer (nothing : wholes = []) : parts = [] := by
    subst nothing
    refine List.eq_nil_iff_forall_not_mem.mpr fun child inside => ?_
    obtain ⟨_, _, _, _, _, _, among, _⟩ := exists_of_mem_right covered inside
    exact List.not_mem_nil among
  have fields (held results : List (String × Json))
      (conforms : Plan.ConformsFields wholes held results) :
      Plan.ConformsFields parts held (schema.restrictMembers members type results) := by
    rw [← Schema.restrictMembers_filter]
    exact conformsFields_of_part unique covered conforms
  refine ⟨rfl, fun value data conforms => ?_⟩
  rw [Schema.restrict_of_object resolved]
  cases conforms with
  | null nullable => exact .null nullable
  | object single null conforms =>
      rw [conforms.mapObjects]
      exact .object single null (Plan.conformsObject_of_part fewer fields conforms)
  | array array conforms =>
      exact .array array (Plan.conformsElements_of_part fewer fields conforms)

/-- The `argsCheck` is the same if the arguments are the same. -/
theorem argsCheck_congr {definition : Definition} {path : FieldPath}
    {members others : List (String × Json)}
    (same : Entries.get? members argsKey = Entries.get? others argsKey) :
    scope.argsCheck ⟨definition, .object members, path⟩
      = scope.argsCheck ⟨definition, .object others, path⟩ := by
  have args : (⟨definition, .object members, path⟩ : Site).args?
      = (⟨definition, .object others, path⟩ : Site).args? := same
  rw [argsCheck, args]
  rfl

section Members

variable {members others : List (String × Json)}
variable (sources : ∀ member ∈ members, member.1 ≠ argsKey →
  ∃ source, (member.1, source) ∈ others ∧ member.2.PartOf source)
include sources

/-- A part of nothing but arguments selects nothing, either. -/
theorem onlyArgs_of_sources (onlyArgs : ∀ key ∈ Entries.keys others, key = argsKey) :
    ∀ key ∈ Entries.keys members, key = argsKey := by
  intro key named
  obtain ⟨member, inside, rfl⟩ := List.mem_map.mp named
  by_contra noArgs
  obtain ⟨source, held, _⟩ := sources member inside noArgs
  exact noArgs (onlyArgs _ (List.mem_map.mpr ⟨_, held, rfl⟩))

/-- If the parts of planned fields are planned and covered, then so are the members of the part of
a selection, one for one. -/
theorem exists_covered {type : ObjectType} {path : FieldPath} {wholes : List (String × Plan)}
    (within : List.Forall₂ (scope.Selected type path) (others.filter (·.1 ≠ argsKey)) wholes)
    (planned : ∀ member ∈ members, ∀ source, (member.1, source) ∈ others →
      member.2.PartOf source → ∀ field, type.selectable? member.1 = some field →
      ∀ plan, (scope.select source (.field field) (path ++ [member.1])).Returns plan →
      ∃ child, (scope.select member.2 (.field field) (path ++ [member.1])).Returns child ∧
        plan.Covers (scope.schema.restrict member.2 field.signature) child) :
    ∃ parts, List.Forall₂ (scope.Selected type path) (members.filter (·.1 ≠ argsKey)) parts ∧
      List.Forall₂ (CoveredBy scope.schema type wholes) (members.filter (·.1 ≠ argsKey)) parts := by
  have covered (member : String × Json) (inside : member ∈ members.filter (·.1 ≠ argsKey)) :
      ∃ child, scope.Selected type path member child ∧
        CoveredBy scope.schema type wholes member child := by
    obtain ⟨held, noArgs⟩ := List.mem_filter.mp inside
    have noArgs : member.1 ≠ argsKey := by simpa using noArgs
    obtain ⟨source, heldSource, memberPart⟩ := sources member held noArgs
    have insideWhole : (member.1, source) ∈ others.filter (·.1 ≠ argsKey) :=
      List.mem_filter.mpr ⟨heldSource, by simpa using noArgs⟩
    obtain ⟨⟨key, whole⟩, among, field, selected, named, returned⟩ :=
      exists_of_mem_left within insideWhole
    obtain rfl : key = member.1 := named
    obtain ⟨child, partReturned, covers⟩ :=
      planned member held source heldSource memberPart field selected whole returned
    exact ⟨(member.1, child), ⟨field, selected, rfl, partReturned⟩,
      field, whole, selected, rfl, among, covers⟩
  obtain ⟨parts, related⟩ := exists_forall₂ covered
  exact ⟨parts, related.imp fun _ _ both => both.1, related.imp fun _ _ both => both.2⟩

end Members

section Full

variable (full : scope.options = {})
include full

/-- A part of a document that has a plan has a plan, too, which covers the part. -/
theorem select_of_partOf {part whole : Json} (isPart : part.PartOf whole)
    (unique : whole.KeysUnique) {definition : Definition} {path : FieldPath}
    (unguarded : ∀ site ∈ scope.schema.sites whole definition path,
      site.definition.signature.guard = none)
    {plan : Plan} (planned : (scope.select whole definition path).Returns plan) :
    ∃ partPlan, (scope.select part definition path).Returns partPlan ∧
      plan.Covers (scope.schema.restrict part definition.signature) partPlan := by
  induction part using Json.object_induction generalizing whole definition path plan with
  | other part noMembers =>
      obtain rfl := isPart.eq_of_members?_eq_none noMembers
      refine ⟨plan, planned, rfl, fun value data conforms => ?_⟩
      rwa [Schema.restrict_of_members?_eq_none noMembers]
  | object members ih =>
      obtain ⟨others, rfl, sameArgs, sources⟩ := isPart.object_left
      let site : Site := ⟨definition, .object members, path⟩
      let wholeSite : Site := ⟨definition, .object others, path⟩
      have accepted : scope.GuardAccepts site := by
        have none : definition.signature.guard = none :=
          unguarded wholeSite (scope.schema.self_mem_sites ..)
        intro guard declared
        cases none.symm.trans declared
      have sameCheck : scope.argsCheck site = scope.argsCheck wholeSite := argsCheck_congr sameArgs
      cases resolved : scope.schema.resolveOutput definition.signature.type with
      | error error => exact absurd planned (not_returns_select_of_unresolved resolved)
      | ok type =>
          cases type with
          | scalar scalar =>
              obtain ⟨_, onlyArgs, args, checked, rfl⟩ :=
                (returns_select_leaf full wholeSite rfl resolved).mp planned
              refine ⟨_, (returns_select_leaf full site rfl resolved).mpr
                ⟨accepted, onlyArgs_of_sources sources onlyArgs, args, sameCheck ▸ checked, rfl⟩,
                rfl, fun value data conforms => ?_⟩
              rwa [Schema.restrict_of_scalar resolved]
          | object type =>
              obtain ⟨_, args, checked, wholes, within, rfl⟩ :=
                (returns_select_branch full wholeSite rfl resolved).mp planned
              obtain _ | ⟨uniqueKeys, uniqueWithin⟩ := unique
              · contradiction
              rw [Schema.sites_of_object resolved] at unguarded
              obtain ⟨parts, partWithin, covered⟩ := exists_covered sources within
                fun member held source heldSource memberPart field selected plan returned =>
                  -- The sites of the source are sites of the whole, too.
                  ih member held memberPart (uniqueWithin _ heldSource)
                    (fun site below => unguarded site
                      (List.mem_cons_of_mem _ (Schema.mem_sitesWithin heldSource selected below)))
                    returned
              have keys : (Entries.keys wholes).Nodup := by
                rw [keys_of_selected within]
                exact (List.filter_sublist.map Prod.fst).nodup uniqueKeys
              exact ⟨_, (returns_select_branch full site rfl resolved).mpr
                ⟨accepted, args, sameCheck ▸ checked, parts, partWithin, rfl⟩,
                covers_branch resolved keys covered⟩

end Full

end Scope

end TypedQuery
