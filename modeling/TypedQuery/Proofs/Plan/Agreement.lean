import TypedQuery.Proofs.Plan.Response

/-!
# Values that agree on a plan

A plan looks at an object under the names that are selected in it, and at nothing else. Two values
agree on a plan if it sees no difference between them, at any depth and in the elements of arrays
too: that is `Plan.Agrees`. Conforming then gives the same run for both, which is the same data or
the same error, after the same calls, by `conform_eq_of_agrees`.
-/

namespace TypedQuery.Plan

/-- The two values differ at most in what the plan does not select. -/
inductive Agrees : Plan → Json → Json → Prop
  | same {plan value} : Agrees plan value value
  /-- A member that is missing counts as null. -/
  | object {definition type selection args children members others} :
      (∀ child ∈ children,
        Agrees child.2 ((Entries.get? members child.1).getD .null)
          ((Entries.get? others child.1).getD .null)) →
      Agrees (.branch definition type selection args children) (.object members)
        (.object others)
  /-- Elements agree one for one on the plan of the array. -/
  | array {definition type selection args children elements others} :
      elements.length = others.length →
      (∀ pair ∈ elements.zip others,
        Agrees (.branch definition type selection args children) pair.1 pair.2) →
      Agrees (.branch definition type selection args children) (.array elements)
        (.array others)

/-- The plan treats the two values alike, as a whole and as elements of an array. -/
structure Alike (plan : Plan) (value other : Json) : Prop where
  whole : ∀ path, plan.conform value path = plan.conform other path
  null : value.isNull = other.isNull
  inside : ∀ path,
    conformObject (conformFields plan.children) plan.children.isEmpty value path
      = conformObject (conformFields plan.children) plan.children.isEmpty other path

theorem Alike.refl (plan : Plan) (value : Json) : plan.Alike value value :=
  ⟨fun _ => rfl, rfl, fun _ => rfl⟩

theorem Alike.conformElement {plan : Plan} {value other : Json} (h : plan.Alike value other)
    (rule : ArrayRule) (path : FieldPath) :
    Plan.conformElement (conformFields plan.children) plan.children.isEmpty rule path value
      = Plan.conformElement (conformFields plan.children) plan.children.isEmpty rule path
          other := by
  unfold Plan.conformElement
  rw [h.null, h.inside path]

/-- Two objects whose members fare alike under every selected name fare alike. -/
theorem conformFields_congr {children : List (String × Plan)}
    {members others : List (String × Json)}
    (h : ∀ child ∈ children, ∀ path,
      child.2.conform ((Entries.get? members child.1).getD .null) path
        = child.2.conform ((Entries.get? others child.1).getD .null) path) (path : FieldPath) :
    conformFields children members path = conformFields children others path := by
  induction children with
  | nil => rfl
  | cons child children ih =>
      obtain ⟨key, child⟩ := child
      obtain ⟨first, rest⟩ := List.forall_mem_cons.1 h
      rw [conformFields, conformFields, first (path ++ [key]), ih rest]

theorem conformObject_congr {children : List (String × Plan)}
    {members others : List (String × Json)}
    (h : ∀ path, conformFields children members path = conformFields children others path)
    (path : FieldPath) :
    conformObject (conformFields children) children.isEmpty (.object members) path
      = conformObject (conformFields children) children.isEmpty (.object others) path := by
  unfold conformObject
  split
  · rfl
  · dsimp only
    rw [h path]

/-- A branch that reduces two objects alike treats them alike. -/
theorem alike_of_objects {definition : Definition} {type : ObjectType}
    {selection : List (String × Json)} {args : Option Json} {children : List (String × Plan)}
    {members others : List (String × Json)}
    (inside : ∀ path,
      conformObject (conformFields children) children.isEmpty (.object members) path
        = conformObject (conformFields children) children.isEmpty (.object others) path) :
    (Plan.branch definition type selection args children).Alike (.object members)
      (.object others) := by
  refine ⟨?_, rfl, inside⟩
  intro path
  rw [conform, conform, conformBranch, conformBranch]
  cases definition.signature.array with
  | none => exact congrArg (Run.attachPath path) (inside path)
  | some rule => rfl

theorem alike_of_arrays {definition : Definition} {type : ObjectType}
    {selection : List (String × Json)} {args : Option Json} {children : List (String × Plan)}
    {elements others : List Json}
    (h : List.Forall₂ (Plan.branch definition type selection args children).Alike elements others) :
    (Plan.branch definition type selection args children).Alike (.array elements)
      (.array others) := by
  have inside (path : FieldPath) :
      conformObject (conformFields children) children.isEmpty (.array elements) path
        = conformObject (conformFields children) children.isEmpty (.array others) path := by
    unfold conformObject
    split <;> rfl
  refine ⟨?_, rfl, inside⟩
  intro path
  rw [conform, conform, conformBranch, conformBranch]
  cases definition.signature.array with
  | none => exact congrArg (Run.attachPath path) (inside path)
  | some rule =>
      have traversed := Run.traverse_congr (h.imp fun _ _ alike => alike.conformElement rule path)
      exact congrArg (fun run => Run.attachPath path (Json.array <$> run)) traversed

/-- A plan treats values alike that agree on it, by induction on `Agrees`. -/
theorem alike_of_agrees {plan : Plan} {value other : Json} (h : plan.Agrees value other) :
    plan.Alike value other := by
  induction h with
  | same => exact .refl _ _
  | object _ ih =>
      refine alike_of_objects (conformObject_congr (conformFields_congr ?_))
      intro child inside path
      exact (ih child inside).whole path
  | array length _ ih =>
      refine alike_of_arrays (List.forall₂_iff_zip.mpr ⟨length, ?_⟩)
      intro element other paired
      exact ih (element, other) paired

theorem conform_eq_of_agrees {plan : Plan} {value other : Json} (h : plan.Agrees value other)
    (path : FieldPath) : plan.conform value path = plan.conform other path :=
  (alike_of_agrees h).whole path

/-- Values that differ in nothing that is selected come to the same data. -/
theorem Agrees.conforms {plan : Plan} {value other data : Json} (h : plan.Agrees value other)
    (conforms : plan.Conforms value data) : plan.Conforms other data := by
  have answered : (plan.conform value []).Returns data := returns_conform.mpr conforms
  exact returns_conform.mp (conform_eq_of_agrees h [] ▸ answered)

end TypedQuery.Plan
