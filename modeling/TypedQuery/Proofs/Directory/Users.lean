import TypedQuery.Directory
import TypedQuery.Proofs.Plan.Bare
import TypedQuery.Proofs.Plan.Repetition
import TypedQuery.Proofs.Schema.Scalars

/-!
# What is told of a user

Whatever is selected of a user, the data are what the record holds under the names selected, except
that the number of its tags is counted: that is `userData`. For a tag, they are what the record of
the tag holds. This is so whoever has put the number into the record, as long as everything else has
been left alone, as `Holds` says.
-/

namespace TypedQuery.Directory

/-- What is told of a tag. -/
def tagData (query tag : Json) : Json :=
  match query.selected with
  | [] => Plan.collapse tag
  | selection => .object (selection.map fun field => (field.1, part tag field.1))

/-- What a user holds under a name, the number of tags being counted. -/
def userPart (record : Json) (key : String) : Json :=
  if key = "tagCount" then countTags record else part record key

/-- What is told of a user under a name. -/
def fieldData (record : Json) (field : String × Json) : Json :=
  if field.1 = "tags" then .array ((tagsOf record).map (tagData field.2))
  else userPart record field.1

/-- What is told of a user, for a selection: `fieldData` under each name. -/
def userData (selection : List (String × Json)) (record : Json) : Json :=
  .object (selection.map fun field => (field.1, fieldData record field))

/-- A number or a text that no resolver answers. -/
structure PlainField (field : Field) : Prop where
  bare : (Definition.field field).Bare
  single : field.signature.array = none
  kept : field.resolver = none
  type : ∃ scalar ∈ [Scalar.number, Scalar.string], field.signature.type = .scalar scalar

def tagsField : Field where
  signature := { type := .lookup "tag", array := some ⟨false⟩ }

def countField : Field where
  signature := { type := .scalar .number, description := some "Number of tags on the user" }
  resolver := some tagCount

theorem plainField_of_tag {key : String} {field : Field}
    (selectable : tagType.selectable? key = some field) : PlainField field := by
  obtain ⟨_, held, _⟩ := ObjectType.selectable?_eq_some_iff.mp selectable
  have inside := Entries.mem_of_get?_eq_some held
  simp only [tagType, List.mem_cons, Prod.mk.injEq, List.not_mem_nil, or_false] at inside
  obtain ⟨_, rfl⟩ | ⟨_, rfl⟩ := inside
  · exact ⟨⟨rfl, rfl⟩, rfl, rfl, .number, by simp, rfl⟩
  · exact ⟨⟨rfl, rfl⟩, rfl, rfl, .string, by simp, rfl⟩

/-- The fields of a user are plain, but for the tags and their number. -/
theorem field_of_user {key : String} {field : Field}
    (selectable : userType.selectable? key = some field) :
    (key ≠ "tags" ∧ key ≠ "tagCount" ∧ PlainField field) ∨
      (key = "tags" ∧ field = tagsField) ∨ (key = "tagCount" ∧ field = countField) := by
  obtain ⟨_, held, _⟩ := ObjectType.selectable?_eq_some_iff.mp selectable
  have inside := Entries.mem_of_get?_eq_some held
  simp only [userType, List.mem_cons, Prod.mk.injEq, List.not_mem_nil, or_false] at inside
  obtain ⟨rfl, rfl⟩ | ⟨rfl, rfl⟩ | ⟨rfl, rfl⟩ | tags | count := inside
  · exact .inl ⟨by decide, by decide, ⟨rfl, rfl⟩, rfl, rfl, .number, by simp, rfl⟩
  · exact .inl ⟨by decide, by decide, ⟨rfl, rfl⟩, rfl, rfl, .string, by simp, rfl⟩
  · exact .inl ⟨by decide, by decide, ⟨rfl, rfl⟩, rfl, rfl, .string, by simp, rfl⟩
  · exact .inr (.inl tags)
  · exact .inr (.inr count)

/-- Neither a user nor a tag has fields with guards or arguments, and below them there are only
users and tags, so their fields are bare as `BareWithin` asks. -/
theorem bareWithin (records : List Json) :
    Scope.BareWithin (schema records) (· ∈ [userType, tagType]) where
  bare type key field inside selectable := by
    simp only [List.mem_cons, List.not_mem_nil, or_false] at inside
    obtain rfl | rfl := inside
    · obtain ⟨_, _, plain⟩ | ⟨_, rfl⟩ | ⟨_, rfl⟩ := field_of_user selectable
      · exact plain.bare
      · exact ⟨rfl, rfl⟩
      · exact ⟨rfl, rfl⟩
    · exact (plainField_of_tag selectable).bare
  closed type key field inner inside selectable resolved := by
    have leaf (plain : PlainField field) : inner ∈ [userType, tagType] := by
      obtain ⟨scalar, _, type⟩ := plain.type
      rw [Schema.resolveOutput_eq_scalar_iff.mpr type] at resolved
      cases resolved
    simp only [List.mem_cons, List.not_mem_nil, or_false] at inside
    obtain rfl | rfl := inside
    · obtain ⟨_, _, plain⟩ | ⟨_, rfl⟩ | ⟨_, rfl⟩ := field_of_user selectable
      · exact leaf plain
      · cases resolved
        exact List.mem_cons_of_mem _ List.mem_cons_self
      · cases resolved
    · exact leaf (plainField_of_tag selectable)

/-- A number or a text, planned. -/
inductive Plain : Plan → Prop
  | leaf {field scalar} : PlainField field → scalar ∈ [Scalar.number, Scalar.string] →
      Plain (.leaf (.field field) scalar none)

/-- How a selected field of a tag is planned. -/
def TagField (member : String × Json) (child : String × Plan) : Prop :=
  child.1 = member.1 ∧ Plain child.2

/-- How a selected field of a user is planned: by itself, or as tags, or as their number. -/
inductive UserField : String × Json → String × Plan → Prop
  | plain {key query plan} : key ≠ "tags" → key ≠ "tagCount" → Plain plan →
      UserField (key, query) (key, plan)
  | tags {query children} : List.Forall₂ TagField query.selected children →
      UserField ("tags", query)
        ("tags", .branch (.field tagsField) tagType query.selected none children)
  | count {query} : UserField ("tagCount", query)
      ("tagCount", .leaf (.field countField) .number none)

section Planned

variable {records : List Json} {scope : Scope} (full : scope.options = {}) {path : FieldPath}
include full

theorem plain_of_returns {field : Field} (plain : PlainField field) {query : Json} {plan : Plan}
    (planned : (scope.select query (.field field) path).Returns plan) : Plain plan := by
  obtain ⟨scalar, base, type⟩ := plain.type
  have resolved : scope.schema.resolveOutput (Definition.field field).signature.type
      = .ok (.scalar scalar) := Schema.resolveOutput_eq_scalar_iff.mpr type
  obtain ⟨_, rfl⟩ := (Scope.returns_select_bare_leaf full plain.bare resolved).mp planned
  exact .leaf plain base

variable {member : String × Json} {child : String × Plan}

theorem tagField_of_selected (selected : scope.Selected tagType path member child) :
    TagField member child := by
  obtain ⟨field, selectable, named, planned⟩ := selected
  exact ⟨named, plain_of_returns full (plainField_of_tag selectable) planned⟩

theorem userField_of_selected (serves : scope.schema = schema records)
    (selected : scope.Selected userType path member child) : UserField member child := by
  obtain ⟨field, selectable, named, planned⟩ := selected
  obtain ⟨key, query⟩ := member
  obtain ⟨name, plan⟩ := child
  obtain rfl : name = key := named
  obtain ⟨notTags, notCount, plain⟩ | ⟨rfl, rfl⟩ | ⟨rfl, rfl⟩ := field_of_user selectable
  · exact .plain notTags notCount (plain_of_returns full plain planned)
  · have bare : (Definition.field tagsField).Bare := ⟨rfl, rfl⟩
    have resolved : scope.schema.resolveOutput (Definition.field tagsField).signature.type
        = .ok (.object tagType) := by
      rw [serves]
      rfl
    obtain ⟨_, _, children, within, rfl⟩ :=
      (Scope.returns_select_bare_branch full bare resolved).mp planned
    exact .tags (within.imp fun _ _ => tagField_of_selected full)
  · have bare : (Definition.field countField).Bare := ⟨rfl, rfl⟩
    obtain ⟨_, rfl⟩ := (Scope.returns_select_bare_leaf full bare rfl).mp planned
    exact .count

end Planned

theorem serializes_eq {scalar : Scalar} (base : scalar ∈ [Scalar.number, Scalar.string])
    {value data : Json} (h : Plan.Serializes scalar value data) : data = value := by
  simp only [List.mem_cons, List.not_mem_nil, or_false] at base
  obtain rfl | rfl := base
  · exact (Scalar.returns_expecting.mp h).2.symm
  · exact (Scalar.returns_expecting.mp h).2.symm

/-- Numbers and texts are told as they are. -/
theorem data_eq_of_leaf {field : Field} (single : field.signature.array = none) {scalar : Scalar}
    (base : scalar ∈ [Scalar.number, Scalar.string]) {args : Option Json} {value data : Json}
    (h : (Plan.leaf (.field field) scalar args).Conforms value data) : data = value := by
  obtain ⟨conforms⟩ := h
  cases conforms with
  | null => rfl
  | value _ _ serialized => exact serializes_eq base serialized
  | array array => exact absurd (single.symm.trans array) nofun

theorem Plain.data_eq {plan : Plan} (plain : Plain plan) {value data : Json}
    (h : plan.Conforms value data) : data = value := by
  obtain ⟨field, base⟩ := plain
  exact data_eq_of_leaf field.single base h

theorem tagData_of_conformsObject {query : Json} {children : List (String × Plan)}
    (planned : List.Forall₂ TagField query.selected children) {tag data : Json}
    (conforms : Plan.ConformsObject children tag data) : data = tagData query tag := by
  unfold tagData
  cases selected : query.selected with
  | nil =>
      rw [selected, List.forall₂_nil_left_iff] at planned
      subst planned
      cases conforms with
      | empty => rfl
      | collapsed noMembers => cases tag <;> first | rfl | cases noMembers
      | fields selected => exact absurd rfl selected
  | cons field selection =>
      rw [selected] at planned
      cases conforms with
      | empty | collapsed => cases planned
      | @fields _ members _ _ conforms =>
          refine congrArg Json.object (conforms.results_eq ?_ planned)
          exact fun _ _ planned => ⟨planned.1, fun _ conforms => planned.2.data_eq conforms⟩

/-- The object holds what the record holds, and the number of its tags if it has been counted. -/
structure Holds (record : Json) (counted : Prop) (members : List (String × Json)) : Prop where
  others : ∀ key, key ≠ "tagCount" → part (.object members) key = part record key
  count : counted → part (.object members) "tagCount" = countTags record

theorem Holds.part_eq {record : Json} {counted : Prop} {members : List (String × Json)}
    (h : Holds record counted members) {key : String} (selected : key = "tagCount" → counted) :
    part (.object members) key = userPart record key := by
  by_cases count : key = "tagCount"
  · rw [userPart, if_pos count, count, h.count (selected count)]
  · rw [userPart, if_neg count, h.others key count]

theorem UserField.data_eq {record : Json} {member : String × Json} {child : String × Plan}
    (planned : UserField member child) {data : Json}
    (conforms : child.2.Conforms (userPart record member.1) data) :
    data = fieldData record member := by
  cases planned with
  | plain notTags _ plain => rw [plain.data_eq conforms, fieldData, if_neg notTags]
  | tags within =>
      have held : userPart record "tags" = part record "tags" := if_neg (by decide)
      obtain ⟨elements, results, listed, rfl, each⟩ := conforms.arrays rfl rfl
      have tags := each.objects.imp fun _ _ conforms =>
        tagData_of_conformsObject within conforms
      rw [eq_map_of_forall₂ tags, fieldData, if_pos rfl, tagsOf, ← held, listed]
  | count => exact data_eq_of_leaf rfl (by simp) conforms

theorem UserField.named {member : String × Json} {child : String × Plan}
    (planned : UserField member child) : child.1 = member.1 := by
  cases planned <;> rfl

section Selected

variable {selection : List (String × Json)} {children : List (String × Plan)}
  (planned : List.Forall₂ UserField selection children) {record : Json}
  {members : List (String × Json)}
variable (holds : Holds record ("tagCount" ∈ Entries.keys selection) members)
include holds

theorem Holds.part_of_selected {member : String × Json} (inside : member ∈ selection) :
    part (.object members) member.1 = userPart record member.1 :=
  holds.part_eq fun count => count ▸ List.mem_map_of_mem inside

include planned

theorem userData_of_conformsObject {data : Json}
    (conforms : Plan.ConformsObject children (.object members) data) :
    data = userData selection record := by
  cases conforms with
  | empty =>
      rw [List.forall₂_nil_right_iff.mp planned]
      rfl
  | collapsed noMembers => cases noMembers
  | fields _ conforms =>
      have both := (List.forall₂_and_left _ _).mpr ⟨fun _ => holds.part_of_selected, planned⟩
      refine congrArg Json.object (conforms.results_eq ?_ both)
      rintro member child ⟨held, planned⟩
      exact ⟨planned.named, fun _ conforms => planned.data_eq (held ▸ conforms)⟩

end Selected

end TypedQuery.Directory
