import TypedQuery.Proofs.Arguments.Attribution
import TypedQuery.Proofs.Arguments.NormalForm

/-!
# Positions in arguments

Which positions there are in what a client offers can be told ahead. `positions` lists a value
before anything within it, the elements of an array in their order, and the members of an object in
the order in which its type declares them, present or not; the undeclared members and the check of
the whole object come last. What is to be seen at each of them is told by `Inspects`, one rule for
each way in which it can turn out: from what the slot declares, what the parser of the scalar makes
of the value, and what the check of the input type says of the normal form.
-/

namespace TypedQuery

/-- The slot of the elements of an array. -/
def Slot.element (slot : Slot) (rule : ArrayRule) : Slot :=
  { slot with required := false, nullable := rule.nullElements, array := none }

@[simp] theorem Slot.type_element (slot : Slot) (rule : ArrayRule) :
    (slot.element rule).type = slot.type := rfl

@[simp] theorem Slot.nullable_element (slot : Slot) (rule : ArrayRule) :
    (slot.element rule).nullable = rule.nullElements := rfl

@[simp] theorem Slot.array_element (slot : Slot) (rule : ArrayRule) :
    (slot.element rule).array = none := rfl

/-- The names among the members that the type does not declare, in the order of the members. -/
def InputType.undeclared (type : InputType) (members : List (String × Json)) : List String :=
  (Entries.keys members).filter fun key => !Entries.has type.fields key

namespace Arguments

/-- What is looked at in one step. -/
inductive Inspection where
  /-- Where there is no slot, there should be no arguments. -/
  | unexpected (args : Option Json)
  /-- A slot may be left empty, or null, or it may want an array; and its type should be known. -/
  | slot (slot : Slot) (args : Option Json)
  /-- No element of an array should be null, unless the rule allows it. -/
  | nulls (rule : ArrayRule) (elements : List Json)
  | parse (scalar : Scalar) (value : Json)
  /-- What stands for an input type should be an object. -/
  | object (nullable : Bool) (value : Json)
  /-- All members should be declared. -/
  | undeclared (type : InputType) (members : List (String × Json))
  /-- The type may check the object as a whole. -/
  | whole (type : InputType) (members : List (String × Json))

/-- An inspection, and the path to which its errors are attributed. -/
structure Position where
  path : FieldPath
  inspection : Inspection

section Positions

variable (schema : Schema)

/-- Whether the slot takes what it is given: nothing, null, an array or something else. -/
def accept (slot : Slot) : Option Json → Except Error Unit
  | none => if slot.required then .error (.args .required) else .ok ()
  | some .null => if slot.nullable then .ok () else .error (.args .nullValue)
  | some (.array _) => (schema.resolveInput slot.type).map fun _ => ()
  | some _ =>
    if slot.array.isSome then .error (.args (.notArray slot.nullable))
    else (schema.resolveInput slot.type).map fun _ => ()

/-- `Inspects schema position trace wrong`: what is called to look at the position shows that trace,
and `wrong` is the error that is found there, if there is one. The check of an input type is asked
about the members in normal form, as `NormalizesFields` tells it. -/
inductive Inspects : Position → (trace : List Event) → (wrong : Option Error) → Prop
  | nothing {path args} : args = none ∨ args = some .null →
      Inspects ⟨path, .unexpected args⟩ [] none
  | unexpected {path value} : value ≠ .null →
      Inspects ⟨path, .unexpected (some value)⟩ []
        (some ((Error.args .unexpected).withPath path))
  | accepted {path slot args} : accept schema slot args = .ok () →
      Inspects ⟨path, .slot slot args⟩ [] none
  | refused {path slot args error} : accept schema slot args = .error error →
      Inspects ⟨path, .slot slot args⟩ [] (some (error.withPath path))
  | nullsAllowed {path rule elements} : rule.Allows elements →
      Inspects ⟨path, .nulls rule elements⟩ [] none
  | nullElement {path rule elements} : rule.nullElements = false → .null ∈ elements →
      Inspects ⟨path, .nulls rule elements⟩ [] (some ((Error.args .nullElement).withPath path))
  | verbatim {path scalar value} : scalar.parse = none →
      Inspects ⟨path, .parse scalar value⟩ [] none
  | parse {path scalar value parse} : scalar.parse = some parse →
      Inspects ⟨path, .parse scalar value⟩ [.call (.parse scalar.name value) (parse value).trace]
        ((parse value).failure?.map fun _ =>
          (Error.args (.refusedScalar scalar.name)).withPath path)
  | object {path nullable members} : Inspects ⟨path, .object nullable (.object members)⟩ [] none
  | notObject {path nullable value} : value.members? = none →
      Inspects ⟨path, .object nullable value⟩ []
        (some ((Error.args (.notObject nullable)).withPath path))
  | declared {path type members} : type.undeclared members = [] →
      Inspects ⟨path, .undeclared type members⟩ [] none
  | undeclared {path type members} : type.undeclared members ≠ [] →
      Inspects ⟨path, .undeclared type members⟩ []
        (some ((Error.args (.unknownKeys (type.undeclared members))).withPath path))
  | unchecked {path type members} : type.check = none →
      Inspects ⟨path, .whole type members⟩ [] none
  | whole {path type members check read} : type.check = some check →
      NormalizesFields schema path members type.fields read →
      Inspects ⟨path, .whole type members⟩
        [.call (.checkInput type.name read path) (check read path).trace]
        ((check read path).failure?.map (·.reported path))

/-- A value other than null that is no array of elements. -/
def single (value : Json) (slot : Slot) (path : FieldPath) : List Position :=
  ⟨path, .slot slot (some value)⟩ ::
    match slot.array, schema.resolveInput slot.type with
    | none, .ok (.scalar scalar) => [⟨path, .parse scalar value⟩]
    | none, .ok (.input _) => [⟨path, .object slot.nullable value⟩]
    | _, _ => []

mutual

/-- The positions at which a value is looked at in a slot, in order. -/
def positions : Json → Slot → FieldPath → List Position
  | .null, slot, path => [⟨path, .slot slot (some .null)⟩]
  | .array elements, slot, path =>
    match slot.array with
    | some rule =>
      ⟨path, .slot slot (some (.array elements))⟩ :: ⟨path, .nulls rule elements⟩ ::
        elementPositions elements (slot.element rule) path
    | none => single schema (.array elements) slot path
  | .object members, slot, path =>
    single schema (.object members) slot path ++
      match slot.array, schema.resolveInput slot.type with
      | none, .ok (.input type) =>
        (type.fields.flatMap fun field =>
          memberPositions members field.1 field.2 (path ++ [field.1])) ++
          [⟨path, .undeclared type members⟩, ⟨path, .whole type members⟩]
      | _, _ => []
  | value, slot, path => single schema value slot path
termination_by structural value => value

def elementPositions : List Json → Slot → FieldPath → List Position
  | [], _, _ => []
  | element :: rest, slot, path =>
    positions element slot path ++ elementPositions rest slot path
termination_by structural elements => elements

/-- The `positions` of the member of that name, which may be absent. -/
def memberPositions : List (String × Json) → String → Slot → FieldPath → List Position
  | [], _, slot, path => [⟨path, .slot slot none⟩]
  | (name, value) :: rest, key, slot, path =>
    if name = key then positions value slot path else memberPositions rest key slot path
termination_by structural members => members

end

/-- The positions at which the arguments of a field are looked at. -/
def argsPositions : Option Json → Option Slot → FieldPath → List Position
  | args, none, path => [⟨path, .unexpected args⟩]
  | none, some slot, path => [⟨path, .slot slot none⟩]
  | some value, some slot, path => positions schema value slot path

/-- `InspectsInTurn schema positions trace wrong`: the positions are looked at one after the other,
up to the first at which anything is wrong. -/
inductive InspectsInTurn : List Position → (trace : List Event) → (wrong : Option Error) → Prop
  | nil : InspectsInTurn [] [] none
  | wrong {position positions trace error} : Inspects schema position trace (some error) →
      InspectsInTurn (position :: positions) trace (some error)
  | right {position positions trace trace' wrong} : Inspects schema position trace none →
      InspectsInTurn positions trace' wrong →
      InspectsInTurn (position :: positions) (trace ++ trace') wrong

end Positions

variable {schema : Schema} {slot : Slot} {path : FieldPath}

theorem elementPositions_eq_flatMap (elements : List Json) :
    elementPositions schema elements slot path
      = elements.flatMap fun element => positions schema element slot path := by
  induction elements with
  | nil => rfl
  | cons element elements ih => rw [elementPositions, ih, List.flatMap_cons]

/-- A member is looked at as the arguments that the object holds for it. -/
theorem memberPositions_eq (members : List (String × Json)) (key : String) :
    memberPositions schema members key slot path
      = argsPositions schema (Entries.get? members key) (some slot) path := by
  induction members with
  | nil => rfl
  | cons member members ih =>
      obtain ⟨name, value⟩ := member
      rw [memberPositions, Entries.get?_cons, ih]
      split <;> rfl

theorem positions_array {rule : ArrayRule} (array : slot.array = some rule)
    (elements : List Json) :
    positions schema (.array elements) slot path
      = ⟨path, .slot slot (some (.array elements))⟩ :: ⟨path, .nulls rule elements⟩ ::
          elements.flatMap fun element => positions schema element (slot.element rule) path := by
  rw [positions, array]
  dsimp only
  rw [elementPositions_eq_flatMap]

theorem positions_object {type : InputType} (array : slot.array = none)
    (resolved : schema.resolveInput slot.type = .ok (.input type))
    (members : List (String × Json)) :
    positions schema (.object members) slot path
      = ⟨path, .slot slot (some (.object members))⟩ ::
          ⟨path, .object slot.nullable (.object members)⟩ ::
          (type.fields.flatMap fun field => argsPositions schema
            (Entries.get? members field.1) (some field.2) (path ++ [field.1])) ++
          [⟨path, .undeclared type members⟩, ⟨path, .whole type members⟩] := by
  rw [positions, single, array, resolved]
  simp only [memberPositions_eq, List.cons_append, List.nil_append]

/-- Members have one normal form at most, which is what `checkFields` makes of them. -/
theorem NormalizesFields.unique {members read other : List (String × Json)}
    {fields : List (String × Slot)} (h : NormalizesFields schema path members fields read)
    (h' : NormalizesFields schema path members fields other) : read = other := by
  have checks (member : String × Json) (_ : member ∈ members) : ChecksByRule schema member.2 :=
    (byRule schema member.2).2
  have returns := (returns_checkFields checks).mpr h
  exact Except.ok.inj (returns.symm.trans ((returns_checkFields checks).mpr h'))

/-- What is seen at a position is settled by what the client has written and what is declared. -/
theorem Inspects.unique {position : Position} {trace trace' : List Event}
    {wrong wrong' : Option Error} (h : Inspects schema position trace wrong)
    (h' : Inspects schema position trace' wrong') : trace = trace' ∧ wrong = wrong' := by
  obtain ⟨path, inspection⟩ := position
  cases inspection with
  | unexpected args => cases h <;> cases h' <;> simp_all
  | slot slot args => cases h <;> cases h' <;> simp_all
  | nulls rule elements => cases h <;> cases h' <;> simp_all [ArrayRule.Allows]
  | parse scalar value => cases h <;> cases h' <;> simp_all
  | object nullable value => cases h <;> cases h' <;> simp_all [Json.members?]
  | undeclared type members => cases h <;> cases h' <;> simp_all
  | whole type members =>
      cases h with
      | unchecked unchecked =>
          cases h' with
          | unchecked => exact ⟨rfl, rfl⟩
          | whole checked => cases unchecked.symm.trans checked
      | whole checked normal =>
          cases h' with
          | unchecked unchecked => cases unchecked.symm.trans checked
          | whole checked' normal' =>
              obtain rfl := Option.some.inj (checked.symm.trans checked')
              obtain rfl := normal.unique normal'
              exact ⟨rfl, rfl⟩

/-- Whatever is wrong at a position is attributed. -/
theorem Inspects.path_ne_none {position : Position} {trace : List Event} {error : Error}
    (h : Inspects schema position trace (some error)) : error.path ≠ none := by
  generalize found : some error = wrong at h
  cases h with
  | nothing | accepted | nullsAllowed | verbatim | object | declared | unchecked => cases found
  | unexpected | refused | nullElement | notObject | undeclared =>
      cases found
      exact nofun
  | parse =>
      obtain ⟨fault, _, rfl⟩ := Option.map_eq_some_iff.mp found.symm
      exact nofun
  | whole => exact Fault.path_reported_ne_none found.symm

namespace InspectsInTurn

variable {positions others : List Position} {trace trace' : List Event} {wrong : Option Error}

theorem path_ne_none {error : Error} (h : InspectsInTurn schema positions trace (some error)) :
    error.path ≠ none := by
  generalize found : some error = wrong at h
  induction h with
  | nil => cases found
  | wrong inspects =>
      cases found
      exact inspects.path_ne_none
  | right _ _ ih => exact ih found

theorem unique {wrong' : Option Error} (h : InspectsInTurn schema positions trace wrong)
    (h' : InspectsInTurn schema positions trace' wrong') : trace = trace' ∧ wrong = wrong' := by
  induction h generalizing trace' with
  | nil =>
      cases h'
      exact ⟨rfl, rfl⟩
  | wrong inspects =>
      cases h' with
      | wrong inspects' => exact inspects.unique inspects'
      | right inspects' => cases (inspects.unique inspects').2
  | right inspects _ ih =>
      cases h' with
      | wrong inspects' => cases (inspects.unique inspects').2
      | right inspects' rest' =>
          obtain ⟨rfl, _⟩ := inspects.unique inspects'
          obtain ⟨rfl, rfl⟩ := ih rest'
          exact ⟨rfl, rfl⟩

theorem singleton {position : Position} (h : Inspects schema position trace wrong) :
    InspectsInTurn schema [position] trace wrong := by
  cases wrong with
  | some error => exact .wrong h
  | none =>
      rw [← List.append_nil trace]
      exact .right h .nil

/-- Further positions are looked at if nothing is wrong at those before them. -/
theorem append (h : InspectsInTurn schema positions trace none)
    (h' : InspectsInTurn schema others trace' wrong) :
    InspectsInTurn schema (positions ++ others) (trace ++ trace') wrong := by
  generalize nothing : none = found at h
  induction h with
  | nil => exact h'
  | wrong => cases nothing
  | right inspects _ ih =>
      rw [List.append_assoc]
      exact .right inspects (ih nothing)

/-- Nothing is looked at behind what is wrong. -/
theorem append_of_wrong {error : Error} (h : InspectsInTurn schema positions trace (some error))
    (others : List Position) : InspectsInTurn schema (positions ++ others) trace (some error) := by
  generalize found : some error = wrong at h ⊢
  induction h with
  | nil => cases found
  | wrong inspects => exact .wrong inspects
  | right inspects _ ih => exact .right inspects (ih found)

/-- Where nothing is wrong at any position, all of them are looked at. -/
theorem of_forall₂ {traces : List (List Event)}
    (h : List.Forall₂ (fun position trace => Inspects schema position trace none) positions
      traces) :
    InspectsInTurn schema positions traces.flatten none := by
  induction h with
  | nil => exact .nil
  | cons inspects _ ih => exact .right inspects ih

/-- Nothing is wrong anywhere if nothing is found to be wrong. -/
theorem forall₂ (h : InspectsInTurn schema positions trace none) :
    ∃ traces, List.Forall₂ (fun position trace => Inspects schema position trace none) positions
      traces := by
  generalize nothing : none = wrong at h
  induction h with
  | nil => exact ⟨[], .nil⟩
  | wrong => cases nothing
  | right inspects _ ih =>
      subst nothing
      obtain ⟨traces, rest⟩ := ih rfl
      exact ⟨_, .cons inspects rest⟩

/-- What is found to be wrong is wrong at some position, and nothing is before that. -/
theorem exists_first {error : Error} (h : InspectsInTurn schema positions trace (some error)) :
    ∃ before position after traces shown, positions = before ++ position :: after ∧
      List.Forall₂ (fun position trace => Inspects schema position trace none) before traces ∧
      Inspects schema position shown (some error) := by
  generalize found : some error = wrong at h
  induction h with
  | nil => cases found
  | wrong inspects =>
      cases found
      exact ⟨[], _, _, [], _, rfl, .nil, inspects⟩
  | right inspects _ ih =>
      obtain ⟨before, position, after, traces, shown, rfl, pass, fails⟩ := ih found
      exact ⟨_ :: before, position, after, _, shown, rfl, .cons inspects pass, fails⟩

end InspectsInTurn

end Arguments

end TypedQuery
