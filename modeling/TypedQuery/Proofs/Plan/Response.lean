import TypedQuery.Plan.Conform
import TypedQuery.Proofs.Elements
import TypedQuery.Proofs.Plan.Site

/-!
# Which values conform to a plan

The values that answer a plan, and the response data they come to, as rules that follow the plan,
those of `Plan.Conforms`. Nothing survives in a response that is not selected, and a null stands
only where the definition of its field allows one. Conforming returns exactly what the rules derive,
and fails on every other value: `conform_returns_iff_conforms`.
-/

namespace TypedQuery.Plan

/-- What a scalar makes of a value that is not null. -/
def Serializes (scalar : Scalar) (value result : Json) : Prop :=
  match scalar.serialize with
  | none => result = value
  | some serialize => (serialize value).Returns result

/-- The response to a scalar field. -/
inductive ConformsLeaf (signature : Signature) (scalar : Scalar) : Json → Json → Prop
  | null : signature.nullable = true → ConformsLeaf signature scalar .null .null
  | value {value result} : signature.array = none → value ≠ .null →
      Serializes scalar value result → ConformsLeaf signature scalar value result
  | array {rule elements results} : signature.array = some rule →
      rule.Allows elements →
      List.Forall₂ (Json.NullOr (Serializes scalar)) elements results →
      ConformsLeaf signature scalar (.array elements) (.array results)

mutual

/-- `Conforms plan value result`: the value answers the plan, and `result` is the response. -/
inductive Conforms : Plan → Json → Json → Prop
  | leaf {definition scalar args value result} :
      ConformsLeaf definition.signature scalar value result →
      Conforms (.leaf definition scalar args) value result
  | null {definition type selection args children} : definition.signature.nullable = true →
      Conforms (.branch definition type selection args children) .null .null
  | object {definition type selection args children value result} :
      definition.signature.array = none → value ≠ .null →
      ConformsObject children value result →
      Conforms (.branch definition type selection args children) value result
  | array {definition type selection args children rule elements results} :
      definition.signature.array = some rule →
      ConformsElements children rule elements results →
      Conforms (.branch definition type selection args children) (.array elements)
        (.array results)

/-- One object, reduced to the fields selected in it. Where none is selected, an object is
empty in the response, and any other value is null. -/
inductive ConformsObject : List (String × Plan) → Json → Json → Prop
  | empty {members} : ConformsObject [] (.object members) (.object [])
  | collapsed {value} : value.members? = none → ConformsObject [] value .null
  | fields {children members results} : children ≠ [] →
      ConformsFields children members results →
      ConformsObject children (.object members) (.object results)

/-- An array of objects, each as in `ConformsObject`, element by element. -/
inductive ConformsElements :
    List (String × Plan) → ArrayRule → List Json → List Json → Prop
  | nil {children rule} : ConformsElements children rule [] []
  | null {children rule elements results} : rule.nullElements = true →
      ConformsElements children rule elements results →
      ConformsElements children rule (.null :: elements) (.null :: results)
  | object {children rule element result elements results} : element ≠ .null →
      ConformsObject children element result →
      ConformsElements children rule elements results →
      ConformsElements children rule (element :: elements) (result :: results)

/-- The selected fields in the order of the selection. A member that is missing is null. -/
inductive ConformsFields :
    List (String × Plan) → List (String × Json) → List (String × Json) → Prop
  | nil {members} : ConformsFields [] members []
  | cons {key child children members result results} :
      Conforms child ((Entries.get? members key).getD .null) result →
      ConformsFields children members results →
      ConformsFields ((key, child) :: children) members ((key, result) :: results)

end

/-- A required array of objects is an array. -/
theorem Conforms.arrays {definition : Definition} {type : ObjectType}
    {selection : List (String × Json)} {args : Option Json} {children : List (String × Plan)}
    {value data : Json}
    (conforms : (Plan.branch definition type selection args children).Conforms value data)
    {rule : ArrayRule} (array : definition.signature.array = some rule)
    (required : definition.signature.nullable = false) :
    ∃ elements results, value = .array elements ∧ data = .array results ∧
      ConformsElements children rule elements results := by
  cases conforms with
  | null nullable => exact absurd (required.symm.trans nullable) nofun
  | object single => exact absurd (array.symm.trans single) nofun
  | array declared conforms =>
      obtain rfl := Option.some.inj (array.symm.trans declared)
      exact ⟨_, _, rfl, rfl, conforms⟩

/-- Elements of an array that has no nulls are objects, each by itself. -/
theorem ConformsElements.objects {children : List (String × Plan)}
    {elements results : List Json}
    (conforms : ConformsElements children ⟨false⟩ elements results) :
    List.Forall₂ (ConformsObject children) elements results := by
  induction elements generalizing results with
  | nil =>
      cases conforms
      exact .nil
  | cons element elements ih =>
      cases conforms with
      | null allowed => cases allowed
      | object _ conforms rest => exact .cons conforms (ih rest)

/-- If it is known what comes of each selected field, it is known what comes of the object. -/
theorem ConformsFields.results_eq {children : List (String × Plan)}
    {members results : List (String × Json)} (conforms : ConformsFields children members results)
    {planned : String × Json → String × Plan → Prop} {data : String × Json → Json}
    (told : ∀ field child, planned field child → child.1 = field.1 ∧
      ∀ value, child.2.Conforms ((Entries.get? members field.1).getD .null) value →
        value = data field)
    {selection : List (String × Json)} (selected : List.Forall₂ planned selection children) :
    results = selection.map fun field => (field.1, data field) := by
  induction selected generalizing results with
  | nil =>
      cases conforms
      rfl
  | @cons field child selection children first _ ih =>
      obtain ⟨key, plan⟩ := child
      obtain ⟨named, known⟩ := told field _ first
      obtain rfl : key = field.1 := named
      cases conforms with
      | cons conforms rest => rw [List.map_cons, ← known _ conforms, ih rest]

theorem returns_serialize {scalar : Scalar} {value result : Json} :
    (serialize scalar value).Returns result ↔ Serializes scalar value result := by
  unfold serialize Serializes
  cases scalar.serialize with
  | none => simp [eq_comm]
  | some serialize => simp

theorem returns_serializeNullable {scalar : Scalar} {value result : Json} :
    (serializeNullable scalar value).Returns result ↔
      Json.NullOr (Serializes scalar) value result :=
  Run.returns_nullOr returns_serialize

theorem returns_conformLeaf_null {signature : Signature} {scalar : Scalar} {result : Json} :
    (conformLeaf signature scalar .null).Returns result ↔
      signature.nullable = true ∧ result = .null := by
  cases array : signature.array <;> cases nullable : signature.nullable <;>
    simp [conformLeaf, array, nullable, serializeNullable, Json.isNull, eq_comm]

theorem returns_conformLeaf_value {signature : Signature} {scalar : Scalar}
    (single : signature.array = none) {value : Json} (null : value ≠ .null) {result : Json} :
    (conformLeaf signature scalar value).Returns result ↔ Serializes scalar value result := by
  have notNull : value.isNull = false := Json.isNull_eq_false_iff.mpr null
  simp [conformLeaf, single, serializeNullable, notNull, returns_serialize]

theorem returns_conformLeaf_array {signature : Signature} {scalar : Scalar} {rule : ArrayRule}
    (array : signature.array = some rule) {elements : List Json} {result : Json} :
    (conformLeaf signature scalar (.array elements)).Returns result ↔
      ∃ results, result = .array results ∧ rule.Allows elements ∧
        List.Forall₂ (Json.NullOr (Serializes scalar)) elements results := by
  have serialized (results : List Json) :
      (Run.traverse (serializeNullable scalar) elements).Returns results ↔
        List.Forall₂ (Json.NullOr (Serializes scalar)) elements results :=
    Run.returns_traverse fun _ _ _ => returns_serializeNullable
  rw [ArrayRule.allows_iff]
  simp only [conformLeaf, array]
  cases !rule.nullElements && elements.any Json.isNull <;> simp [serialized, eq_comm, and_comm]

theorem not_returns_conformLeaf {signature : Signature} {scalar : Scalar} {rule : ArrayRule}
    (array : signature.array = some rule) {value : Json} (null : value ≠ .null)
    (single : ∀ elements, value ≠ .array elements) {result : Json} :
    ¬ (conformLeaf signature scalar value).Returns result := by
  cases value with
  | null => exact absurd rfl null
  | array elements => exact absurd rfl (single elements)
  | bool | number | string | object =>
      cases nullable : signature.nullable <;> simp [conformLeaf, array, nullable, Json.isNull]

theorem returns_conformLeaf {signature : Signature} {scalar : Scalar} {value result : Json} :
    (conformLeaf signature scalar value).Returns result ↔
      ConformsLeaf signature scalar value result := by
  constructor
  · intro returned
    by_cases null : value = .null
    · subst null
      obtain ⟨nullable, rfl⟩ := returns_conformLeaf_null.mp returned
      exact .null nullable
    · cases array : signature.array with
      | none => exact .value array null ((returns_conformLeaf_value array null).mp returned)
      | some rule =>
          by_cases elements : ∃ elements, value = .array elements
          · obtain ⟨elements, rfl⟩ := elements
            obtain ⟨results, rfl, allowed, serialized⟩ :=
              (returns_conformLeaf_array array).mp returned
            exact .array array allowed serialized
          · exact absurd returned (not_returns_conformLeaf array null (not_exists.mp elements))
  · intro conforms
    cases conforms with
    | null nullable => exact returns_conformLeaf_null.mpr ⟨nullable, rfl⟩
    | value single null serialized =>
        exact (returns_conformLeaf_value single null).mpr serialized
    | array rule allowed serialized =>
        exact (returns_conformLeaf_array rule).mpr ⟨_, rfl, allowed, serialized⟩

/-- The members of an object are reduced to the selected fields by the rules. -/
def FieldsByRule (children : List (String × Plan)) : Prop :=
  ∀ members path results, (conformFields children members path).Returns results ↔
    ConformsFields children members results

section Branch

variable {children : List (String × Plan)} (fields : FieldsByRule children)
variable {rule : ArrayRule} {path : FieldPath} {value result : Json}
include fields

theorem returns_conformObject :
    (conformObject (conformFields children) children.isEmpty value path).Returns result ↔
      ConformsObject children value result := by
  cases children with
  | nil =>
      cases value with
      | object members =>
          rw [show conformObject _ _ (.object members) path = pure (.object []) from rfl,
            Run.returns_pure]
          constructor
          · rintro rfl
            exact .empty
          · intro conforms
            cases conforms with
            | empty => rfl
            | collapsed noMembers => cases noMembers
            | fields selected => exact absurd rfl selected
      | null | bool | number | string | array =>
          rw [show conformObject _ _ _ path = pure .null from rfl, Run.returns_pure]
          constructor
          · rintro rfl
            exact .collapsed rfl
          · rintro ⟨⟩
            rfl
  | cons child children =>
      cases value with
      | object members =>
          simp only [conformObject, List.isEmpty_cons, Bool.false_eq_true, if_false,
            Run.returns_bind, Run.returns_pure, fields members path]
          constructor
          · rintro ⟨results, conforms, rfl⟩
            exact .fields (List.cons_ne_nil _ _) conforms
          · intro conforms
            cases conforms with
            | fields _ conforms => exact ⟨_, conforms, rfl⟩
      | null | bool | number | string | array =>
          rw [show conformObject _ _ _ path = .fail (.result .notObject) from rfl]
          constructor
          · intro returned
            exact absurd returned Run.not_returns_fail
          · intro conforms
            cases conforms

theorem returns_conformElement_value (null : value ≠ .null) :
    (conformElement (conformFields children) children.isEmpty rule path value).Returns result ↔
      ConformsObject children value result := by
  rw [conformElement, if_neg (by simpa using null)]
  exact returns_conformObject fields

omit fields in
theorem returns_conformElement_null :
    (conformElement (conformFields children) children.isEmpty rule path .null).Returns result ↔
      rule.nullElements = true ∧ result = .null := by
  cases allowed : rule.nullElements <;> simp [conformElement, allowed, Json.isNull, eq_comm]

theorem returns_conformElements {elements results : List Json} :
    (Run.traverse (conformElement (conformFields children) children.isEmpty rule path)
      elements).Returns results ↔ ConformsElements children rule elements results := by
  induction elements generalizing results with
  | nil =>
      rw [Run.traverse_nil, Run.returns_pure]
      constructor
      · rintro rfl
        exact .nil
      · rintro ⟨⟩
        rfl
  | cons element elements ih =>
      simp only [Run.traverse_cons, Run.returns_bind, Run.returns_pure, ih]
      constructor
      · rintro ⟨result, conforms, results, rest, rfl⟩
        by_cases null : element = .null
        · subst null
          obtain ⟨allowed, rfl⟩ := returns_conformElement_null.mp conforms
          exact .null allowed rest
        · exact .object null ((returns_conformElement_value fields null).mp conforms) rest
      · intro conforms
        cases conforms with
        | null allowed rest =>
            exact ⟨_, returns_conformElement_null.mpr ⟨allowed, rfl⟩, _, rest, rfl⟩
        | object null conforms rest =>
            exact ⟨_, (returns_conformElement_value fields null).mpr conforms, _, rest, rfl⟩

/-- The response of a branch follows the rules if its members do. -/
theorem returns_conformBranch {definition : Definition} {type : ObjectType}
    {selection : List (String × Json)} {args : Option Json} :
    (conformBranch definition.signature (conformFields children) children.isEmpty value
      path).Returns result ↔
      Conforms (.branch definition type selection args children) value result := by
  unfold conformBranch
  by_cases null : value = .null
  · subst null
    rw [if_pos (by simp)]
    constructor
    · intro returned
      split at returned
      · rename_i nullable
        obtain rfl := Run.returns_pure.mp returned
        exact .null nullable
      · exact absurd returned Run.not_returns_fail
    · intro conforms
      cases conforms with
      | null nullable => simp [nullable]
      | object _ null => exact absurd rfl null
  · rw [if_neg (by simpa using null)]
    constructor
    · intro returned
      split at returned
      · rename_i single
        exact .object single null ((returns_conformObject fields).mp returned)
      · rename_i rule array
        split at returned
        · obtain ⟨results, conforms, returned⟩ := Run.returns_bind.mp returned
          obtain rfl := Run.returns_pure.mp returned
          exact .array array ((returns_conformElements fields).mp conforms)
        · exact absurd returned Run.not_returns_fail
    · intro conforms
      cases conforms with
      | null => exact absurd rfl null
      | object single _ conforms =>
          rw [single]
          exact (returns_conformObject fields).mpr conforms
      | array array conforms =>
          rw [array]
          exact Run.returns_bind.mpr
            ⟨_, (returns_conformElements fields).mpr conforms, Run.returns_pure.mpr rfl⟩

end Branch

theorem fieldsByRule {children : List (String × Plan)}
    (conforms : ∀ child ∈ children, ∀ value path result,
      (child.2.conform value path).Returns result ↔ Conforms child.2 value result) :
    FieldsByRule children := by
  intro members path results
  induction children generalizing results with
  | nil =>
      simp only [conformFields, Run.returns_pure]
      constructor
      · rintro rfl
        exact .nil
      · rintro ⟨⟩
        rfl
  | cons child children ih =>
      obtain ⟨key, child⟩ := child
      obtain ⟨first, rest⟩ := List.forall_mem_cons.1 conforms
      simp only [conformFields, Run.returns_bind, Run.returns_pure, first, ih rest]
      constructor
      · rintro ⟨result, conforms, others, rest, rfl⟩
        exact .cons conforms rest
      · intro conforms
        cases conforms with
        | cons conforms rest => exact ⟨_, conforms, _, rest, rfl⟩

/-- What `Plan.conform` returns is what the rules of `Conforms` derive. -/
theorem returns_conform {plan : Plan} {value : Json} {path : FieldPath} {result : Json} :
    (plan.conform value path).Returns result ↔ Conforms plan value result := by
  induction plan generalizing value path result with
  | leaf definition scalar args =>
      rw [conform, Run.returns_attachPath, returns_conformLeaf]
      constructor
      · exact .leaf
      · rintro ⟨conforms⟩
        exact conforms
  | branch definition type selection args children ih =>
      rw [conform, Run.returns_attachPath]
      exact returns_conformBranch
        (fieldsByRule fun child inside _ _ _ => ih child inside)

/-- `Plan.conform` returns exactly the response that the rules of `Plan.Conforms` derive, and fails
on every value that does not answer the plan. -/
theorem conform_returns_iff_conforms (plan : Plan) (value : Json) (path : FieldPath) :
    (∀ result, (plan.conform value path).outcome = .ok result ↔ Conforms plan value result) ∧
    ((∃ error, (plan.conform value path).outcome = .error error) ↔
      ¬ ∃ result, Conforms plan value result) := by
  have returns (result : Json) : (plan.conform value path).Returns result ↔
      Conforms plan value result := returns_conform
  refine ⟨returns, ?_⟩
  rw [Run.fails_iff]
  exact not_congr (exists_congr returns)

end TypedQuery.Plan
