import TypedQuery.Schema.Basic

/-!
# Arguments

Checks the arguments that a client offers against a slot and brings them into normal form:
scalars parsed, the members of input objects in the order of their declaration, absent
members left out. Absent and null are different: a slot may require a value and allow null.

The recursion follows the offered value, not the types, which may be circular: an absent
member ends the descent whatever its declared type. What each member of an object would be
in any slot is laid out first as an `Offer`, and the declared fields then pick their
members from it. An error is attributed to the innermost path at which it arose.
-/

namespace TypedQuery.Arguments

/-- Parses one value that is not null or stands outside an array. -/
def parse (scalar : Scalar) (value : Json) : Run Error Json :=
  match scalar.parse with
  | none => pure value
  | some parse =>
    (Run.invoke (.parse scalar.name value) (parse value)).mapError fun _ =>
      .args (.refusedScalar scalar.name)

/-- Parses an element of an array; null elements stay. -/
def parseElement (scalar : Scalar) (element : Json) : Run Error Json :=
  if element.isNull then pure .null else parse scalar element

/-- Refuses null elements where the rule does, before any element is looked at. -/
def checkNulls (rule : ArrayRule) (elements : List Json) : Run Error Unit :=
  if !rule.nullElements && elements.any Json.isNull then .fail (.args .nullElement) else pure ()

/-- Reads a value in a scalar slot. -/
def readScalar (scalar : Scalar) (array : Option ArrayRule) (value : Json) : Run Error Json :=
  match value, array with
  | .array elements, some rule => do
    checkNulls rule elements
    return .array (← Run.traverse (parseElement scalar) elements)
  | value, _ => parse scalar value

/-- Reads a value as an object of an input type; the flag allows null in its place. -/
abbrev InputReader := InputType → (nullable : Bool) → FieldPath → Run Error Json

/-- A value with the readings of its parts laid out, whatever slot it is offered to. -/
structure Offer where
  value : Json
  asInput : InputReader
  /-- The readings of the elements, for an array. -/
  elements : List InputReader

/-- Checks an offered value against a slot. -/
def Offer.check (schema : Schema) (offer : Offer) (slot : Slot) (path : FieldPath) :
    Run Error Json :=
  Run.attachPath path <|
    match offer.value with
    | .null => if slot.nullable then pure .null else .fail (.args .nullValue)
    | .array elements =>
      match schema.resolveInput slot.type with
      | .error e => .fail e
      | .ok (.scalar scalar) => readScalar scalar slot.array (.array elements)
      | .ok (.input type) =>
        match slot.array with
        | some rule => do
          checkNulls rule elements
          let read ← Run.traverse (fun asInput => asInput type rule.nullElements path)
            offer.elements
          return .array read
        | none => offer.asInput type slot.nullable path
    | value =>
      if slot.array.isSome then .fail (.args (.notArray slot.nullable))
      else
        match schema.resolveInput slot.type with
        | .error e => .fail e
        | .ok (.scalar scalar) => parse scalar value
        | .ok (.input type) => offer.asInput type slot.nullable path

/-- What an absent value comes to in a slot. -/
def checkAbsent (slot : Slot) (path : FieldPath) : Run Error (Option Json) :=
  if slot.required then .fail ((Error.args .required).attachPath path) else pure none

/-- Checks the declared members in the order of declaration and leaves out absent ones. -/
def checkFields (schema : Schema) (members : List (String × Offer)) (path : FieldPath) :
    List (String × Slot) → Run Error (List (String × Json))
  | [] => pure []
  | (key, slot) :: rest => do
    let value ← match Entries.get? members key with
      | some offer => some <$> offer.check schema slot (path ++ [key])
      | none => checkAbsent slot (path ++ [key])
    let others ← checkFields schema members path rest
    return match value with
      | some value => (key, value) :: others
      | none => others

/-- The check that an input type makes of the whole object. -/
def checkWhole (type : InputType) (members : List (String × Json)) (path : FieldPath) :
    Run Error Unit :=
  match type.check with
  | none => pure ()
  | some check => (Run.invoke (.checkInput type.name members path) (check members path)).recover

/-- Reads an object: its declared members, then its undeclared ones, then the whole. -/
def readObject (schema : Schema) (members : List (String × Offer)) : InputReader :=
  fun type _ path => do
    let read ← checkFields schema members path type.fields
    let unknown := (Entries.keys members).filter fun key => !Entries.has type.fields key
    if unknown ≠ [] then .fail (.args (.unknownKeys unknown))
    checkWhole type read path
    return .object read

/-- Refuses a value that is no object. -/
def notObject : InputReader := fun _ nullable _ => .fail (.args (.notObject nullable))

mutual

/-- Lays out a value. -/
def offer (schema : Schema) : Json → Offer
  | .null => ⟨.null, fun _ _ _ => pure .null, []⟩
  | .array elements => ⟨.array elements, notObject, offerElements schema elements⟩
  | .object members =>
    ⟨.object members, readObject schema (offerMembers schema members), []⟩
  | .bool value => ⟨.bool value, notObject, []⟩
  | .number value => ⟨.number value, notObject, []⟩
  | .string value => ⟨.string value, notObject, []⟩
termination_by structural value => value

def offerElements (schema : Schema) : List Json → List InputReader
  | [] => []
  | element :: rest => (offer schema element).asInput :: offerElements schema rest
termination_by structural elements => elements

def offerMembers (schema : Schema) : List (String × Json) → List (String × Offer)
  | [] => []
  | (key, value) :: rest => (key, offer schema value) :: offerMembers schema rest
termination_by structural members => members

end

/-- Checks a value against a slot. -/
def checkValue (schema : Schema) (value : Json) (slot : Slot) (path : FieldPath) :
    Run Error Json :=
  (offer schema value).check schema slot path

/-- Checks the arguments of a field that may declare a slot, and may be given none. -/
def check (schema : Schema) (args : Option Json) (slot : Option Slot) (path : FieldPath) :
    Run Error (Option Json) :=
  match slot, args with
  | none, none => pure none
  | none, some value =>
    if value.isNull then pure none else .fail ((Error.args .unexpected).attachPath path)
  | some slot, none => checkAbsent slot path
  | some slot, some value => some <$> checkValue schema value slot path

@[simp] theorem offer_value (schema : Schema) (value : Json) :
    (offer schema value).value = value := by
  cases value <;> rfl

theorem offerElements_eq_map (schema : Schema) (elements : List Json) :
    offerElements schema elements = elements.map fun element => (offer schema element).asInput := by
  induction elements with
  | nil => rfl
  | cons element rest ih => simp [offerElements, ih]

theorem offerMembers_eq_map (schema : Schema) (members : List (String × Json)) :
    offerMembers schema members = members.map fun member => (member.1, offer schema member.2) := by
  induction members with
  | nil => rfl
  | cons member rest ih => simp [offerMembers, ih]

@[simp] theorem keys_offerMembers (schema : Schema) (members : List (String × Json)) :
    Entries.keys (offerMembers schema members) = Entries.keys members := by
  simp [offerMembers_eq_map, Entries.keys]

/-- Laying out the members and picking one is picking the member and laying it out. -/
theorem get?_offerMembers (schema : Schema) (members : List (String × Json)) (key : String) :
    Entries.get? (offerMembers schema members) key
      = (Entries.get? members key).map (offer schema) := by
  induction members with
  | nil => rfl
  | cons member rest ih =>
    obtain ⟨name, value⟩ := member
    by_cases h : name = key <;> simp [offerMembers, Entries.get?_cons, h, ih]

end TypedQuery.Arguments
