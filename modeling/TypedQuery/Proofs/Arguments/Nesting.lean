import TypedQuery.Proofs.Arguments.NormalForm
import TypedQuery.Proofs.Json.Nesting

/-!
# How deep arguments are checked

A check goes from an object to the fields that its input type declares, and so from type to type.
Input types may be circular, but what is checked for a field is what the object holds for it. An
absent value is settled before the type of its slot is looked up. So the checks within a check are
nested no deeper than the offered value, whatever the schema declares. The check told level by level
is `checkLevel`, and `boundedBy_check` is the bound.
-/

namespace TypedQuery

def Json.isArray : Json → Bool
  | .array _ => true
  | _ => false

namespace Arguments

variable {schema : Schema}

/-- What is checked for a field of an object, or not there to be checked. -/
abbrev Check := Option Json → Option Slot → FieldPath → Run Error (Option Json)

/-- How deep offered arguments are nested, by `Json.depth`; absent ones are not. -/
def nesting (args : Option Json) : Nat := args.elim 0 Json.depth

/-- The declared fields of an object, each checked as the arguments that the object holds for it. -/
def fieldsLevel (self : Check) (members : List (String × Json)) (path : FieldPath) :
    List (String × Slot) → Run Error (List (String × Json))
  | [] => pure []
  | (key, slot) :: rest => do
    let value ← self (Entries.get? members key) (some slot) (path ++ [key])
    let others ← fieldsLevel self members path rest
    return consPresent key value others

/-- A candidate for an object of an input type. -/
def candidateLevel (self : Check) (type : InputType) (nullable : Bool) (path : FieldPath) :
    Json → Run Error Json
  | .object members => do
    let read ← fieldsLevel self members path type.fields
    let unknown := (Entries.keys members).filter fun key => !Entries.has type.fields key
    if unknown ≠ [] then .fail (.args (.unknownKeys unknown))
    checkWhole type read path
    return .object read
  | .null => pure .null
  | _ => .fail (.args (.notObject nullable))

/-- A value in a slot of an input type: the candidates of an array, or one candidate. -/
def inputLevel (self : Check) (type : InputType) (slot : Slot) (path : FieldPath) (value : Json) :
    Run Error Json :=
  match value, slot.array with
  | .array elements, some rule => do
    checkNulls rule elements
    return .array (← Run.traverse (candidateLevel self type rule.nullElements path) elements)
  | value, _ => candidateLevel self type slot.nullable path value

/-- A value in a slot. -/
def valueLevel (schema : Schema) (self : Check) (slot : Slot) (path : FieldPath) :
    Json → Run Error Json
  | .null => if slot.nullable then pure .null else .fail (.args .nullValue)
  | value =>
    if slot.array.isSome && !value.isArray then .fail (.args (.notArray slot.nullable))
    else do
      match ← Run.ofExcept (schema.resolveInput slot.type) with
      | .scalar scalar => readScalar scalar slot.array value
      | .input type => inputLevel self type slot path value

/-- One level of `Arguments.check`, with the checks of the fields of objects left open. -/
def checkLevel (schema : Schema) (self : Check) : Check := fun args slot path =>
  Run.attachPath path <|
    match slot, args with
    | none, none | none, some .null => pure none
    | none, some _ => .fail (.args .unexpected)
    | some slot, none => if slot.required then .fail (.args .required) else pure none
    | some slot, some value => some <$> valueLevel schema self slot path value

theorem fieldsLevel_check (members : List (String × Json)) (path : FieldPath)
    (fields : List (String × Slot)) :
    fieldsLevel (check schema) members path fields
      = checkFields schema (offerMembers schema members) path fields := by
  induction fields with
  | nil => rfl
  | cons field fields ih =>
      obtain ⟨key, slot⟩ := field
      rw [fieldsLevel, checkFields_cons, ih]

/-- The reading of a value as an object of an input type, `Offer.asInput`, is that of a
candidate. -/
theorem candidateLevel_check (type : InputType) (nullable : Bool) (path : FieldPath)
    (value : Json) :
    candidateLevel (check schema) type nullable path value
      = (offer schema value).asInput type nullable path := by
  cases value with
  | object members =>
      rw [candidateLevel, fieldsLevel_check, ← keys_offerMembers schema members]
      rfl
  | null | bool | number | string | array => rfl

theorem inputLevel_of_array {self : Check} {slot : Slot} {rule : ArrayRule}
    (array : slot.array = some rule) (type : InputType) (path : FieldPath)
    (elements : List Json) :
    inputLevel self type slot path (.array elements) = do
      checkNulls rule elements
      let read ← Run.traverse (candidateLevel self type rule.nullElements path) elements
      return .array read := by
  unfold inputLevel
  rw [array]

theorem inputLevel_of_single {self : Check} {slot : Slot} {value : Json}
    (single : slot.array = none) (type : InputType) (path : FieldPath) :
    inputLevel self type slot path value
      = candidateLevel self type slot.nullable path value := by
  unfold inputLevel
  rw [single]
  cases value <;> rfl

theorem traverse_candidateLevel_check (type : InputType) (nullable : Bool) (path : FieldPath)
    (elements : List Json) :
    Run.traverse (candidateLevel (check schema) type nullable path) elements
      = Run.traverse (fun asInput => asInput type nullable path)
          (offerElements schema elements) := by
  have alike : candidateLevel (check schema) type nullable path
      = fun element => (offer schema element).asInput type nullable path :=
    funext (candidateLevel_check type nullable path)
  rw [alike, offerElements_eq_map, Run.traverse_map]

theorem valueLevel_check (slot : Slot) (path : FieldPath) (value : Json) :
    Run.attachPath path (valueLevel schema (check schema) slot path value)
      = checkValue schema value slot path := by
  refine congrArg (Run.attachPath path) ?_
  cases value with
  | null => rfl
  | array elements =>
      simp only [valueLevel, offer, Json.isArray, Bool.not_true, Bool.and_false,
        Bool.false_eq_true, if_false]
      cases schema.resolveInput slot.type with
      | error error => rfl
      | ok type =>
          rw [Run.ofExcept_ok, pure_bind]
          cases type with
          | scalar scalar => rfl
          | input type =>
              dsimp only
              cases array : slot.array with
              | none => rw [inputLevel_of_single array, candidateLevel_check, offer]
              | some rule => rw [inputLevel_of_array array, traverse_candidateLevel_check]
  | bool | number | string | object =>
      cases array : slot.array with
      | some rule => simp [valueLevel, offer, Json.isArray, array]
      | none =>
          simp only [valueLevel, offer, Json.isArray, array, Option.isSome_none, Bool.false_and,
            Bool.false_eq_true, if_false]
          cases schema.resolveInput slot.type with
          | error error => rfl
          | ok type =>
              rw [Run.ofExcept_ok, pure_bind]
              cases type with
              | scalar scalar => rfl
              | input type =>
                  dsimp only
                  rw [inputLevel_of_single array, candidateLevel_check, offer]

/-- The check does at every level what one level says. -/
theorem checkLevel_check : checkLevel schema (check schema) = check schema := by
  funext args slot path
  cases slot with
  | none =>
      cases args with
      | none => rfl
      | some value => cases value <;> rfl
  | some slot =>
      cases args with
      | none =>
          unfold checkLevel check checkAbsent
          dsimp only
          split <;> rfl
      | some value => rw [checkLevel, check, ← valueLevel_check, Run.attachPath_map]

section Smaller

variable {self other : Check}

/-- What an object holds for a field, or does not hold, is nested less deep than the object. -/
theorem nesting_get?_lt (members : List (String × Json)) (key : String) :
    nesting (Entries.get? members key) < (Json.object members).depth := by
  cases held : Entries.get? members key with
  | none => exact Nat.succ_pos _
  | some value => exact Json.depth_lt_of_member (Entries.mem_of_get?_eq_some held)

theorem fieldsLevel_congr {members : List (String × Json)}
    (alike : ∀ inner, nesting inner < (Json.object members).depth → self inner = other inner)
    (path : FieldPath) (fields : List (String × Slot)) :
    fieldsLevel self members path fields = fieldsLevel other members path fields := by
  induction fields with
  | nil => rfl
  | cons field fields ih =>
      obtain ⟨key, slot⟩ := field
      rw [fieldsLevel, fieldsLevel, alike _ (nesting_get?_lt members key), ih]

theorem candidateLevel_congr {value : Json}
    (alike : ∀ inner, nesting inner < value.depth → self inner = other inner)
    (type : InputType) (nullable : Bool) (path : FieldPath) :
    candidateLevel self type nullable path value
      = candidateLevel other type nullable path value := by
  cases value with
  | object members => rw [candidateLevel, candidateLevel, fieldsLevel_congr alike]
  | null | bool | number | string | array => rfl

theorem inputLevel_congr {value : Json}
    (alike : ∀ inner, nesting inner < value.depth → self inner = other inner)
    (type : InputType) (slot : Slot) (path : FieldPath) :
    inputLevel self type slot path value = inputLevel other type slot path value := by
  cases array : slot.array with
  | none => rw [inputLevel_of_single array, inputLevel_of_single array, candidateLevel_congr alike]
  | some rule =>
      cases value with
      | array elements =>
          rw [inputLevel_of_array array, inputLevel_of_array array]
          have candidates : Run.traverse (candidateLevel self type rule.nullElements path) elements
              = Run.traverse (candidateLevel other type rule.nullElements path) elements := by
            refine Run.traverse_congr (List.forall₂_same.mpr fun element inside => ?_)
            refine candidateLevel_congr (fun inner within => alike inner ?_) ..
            exact Nat.lt_trans within (Json.depth_lt_of_element inside)
          rw [candidates]
      | null | bool | number | string | object =>
          exact candidateLevel_congr alike type slot.nullable path

theorem valueLevel_congr {value : Json}
    (alike : ∀ inner, nesting inner < value.depth → self inner = other inner)
    (slot : Slot) (path : FieldPath) :
    valueLevel schema self slot path value = valueLevel schema other slot path value := by
  have inputs (type : InputType) :
      inputLevel self type slot path value = inputLevel other type slot path value :=
    inputLevel_congr alike type slot path
  cases value with
  | null => rfl
  | bool | number | string | array | object => simp only [valueLevel, inputs]

/-- One level checks arguments that are nested less deep than the ones it is given, and none if it
is given none. -/
theorem callsSmaller_checkLevel : CallsSmaller nesting (checkLevel schema) := by
  intro self other args alike
  funext slot path
  cases args with
  | none => cases slot <;> rfl
  | some value =>
      cases slot with
      | none => cases value <;> rfl
      | some slot =>
          unfold checkLevel
          dsimp only
          rw [valueLevel_congr alike]

end Smaller

theorem boundedBy_check : BoundedBy nesting (checkLevel schema) (check schema) :=
  callsSmaller_checkLevel.boundedBy checkLevel_check

end Arguments

end TypedQuery
