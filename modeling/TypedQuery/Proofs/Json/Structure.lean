import TypedQuery.Json.Basic

/-!
# The structure of JSON values

Induction over a value gives the induction hypothesis for every element of an array and every member
of an object. Functions that follow the selections of a document tell only objects from everything
else, and have an induction principle with those two cases, `Json.object_induction`. A part of a
document is where a list of keys leads, and the document `Holds` it there.
-/

namespace TypedQuery.Json

@[elab_as_elim, induction_eliminator]
theorem induction {motive : Json → Prop} (null : motive .null)
    (bool : ∀ value, motive (.bool value)) (number : ∀ value, motive (.number value))
    (string : ∀ value, motive (.string value))
    (array : ∀ elements, (∀ element ∈ elements, motive element) → motive (.array elements))
    (object : ∀ members, (∀ member ∈ members, motive member.2) → motive (.object members))
    (value : Json) : motive value :=
  @Json.rec motive (fun elements => ∀ element ∈ elements, motive element)
    (fun members => ∀ member ∈ members, motive member.2) (fun member => motive member.2)
    null bool number string array object
    (List.forall_mem_nil _) (fun _ _ first rest => List.forall_mem_cons.2 ⟨first, rest⟩)
    (List.forall_mem_nil _) (fun _ _ first rest => List.forall_mem_cons.2 ⟨first, rest⟩)
    (fun _ _ hvalue => hvalue) value

/-- The members of an object; nothing else has any. -/
def members? : Json → Option (List (String × Json))
  | .object members => some members
  | _ => none

theorem members?_eq_some_iff {value : Json} {members : List (String × Json)} :
    value.members? = some members ↔ value = .object members := by
  cases value <;> simp [members?]

theorem eq_object_of_members? {value : Json} (object : value.members?.isSome) :
    ∃ members, value = .object members := by
  obtain ⟨members, held⟩ := Option.isSome_iff_exists.mp object
  exact ⟨members, members?_eq_some_iff.mp held⟩

@[elab_as_elim]
theorem object_induction {motive : Json → Prop}
    (other : ∀ value : Json, value.members? = none → motive value)
    (object : ∀ members, (∀ member ∈ members, motive member.2) → motive (.object members))
    (value : Json) : motive value := by
  induction value with
  | object members ih => exact object members ih
  | null | bool | number | string | array => exact other _ rfl

/-- No object that selections lead to names a key twice. Nothing is selected in an array. -/
inductive KeysUnique : Json → Prop
  | other {value : Json} : value.members? = none → KeysUnique value
  | object {members} : (Entries.keys members).Nodup → (∀ member ∈ members, KeysUnique member.2) →
      KeysUnique (.object members)

/-- The keys lead from a value to a part of it, through the members of objects. -/
inductive Holds : Json → (keys : List String) → (part : Json) → Prop
  | self {value} : Holds value [] value
  | member {members key value keys part} : (key, value) ∈ members → Holds value keys part →
      Holds (.object members) (key :: keys) part

theorem Holds.trans {value middle part : Json} {keys further : List String}
    (first : value.Holds keys middle) (second : middle.Holds further part) :
    value.Holds (keys ++ further) part := by
  induction first with
  | self => exact second
  | member inside _ ih => exact .member inside (ih second)

@[simp] theorem isNull_eq_true_iff {value : Json} : value.isNull = true ↔ value = .null := by
  cases value <;> simp [isNull]

@[simp] theorem isNull_eq_false_iff {value : Json} : value.isNull = false ↔ value ≠ .null := by
  cases value <;> simp [isNull]

theorem any_isNull_eq_true_iff {elements : List Json} :
    elements.any isNull = true ↔ .null ∈ elements := by
  simp [List.any_eq_true]

end TypedQuery.Json
