import TypedQuery.Arguments
import TypedQuery.Proofs.Elements

/-!
# The normal form of arguments

Which arguments a slot accepts, and what it makes of them, as rules: one for each way in which
absence, null, arrays, scalars and input types can come together. The rules of `Normalizes` follow
the offered value, so a derivation is finite whatever circles the types run in. The check returns
exactly what the rules derive, and fails on everything else: `check_returns_iff_normalizes`.
-/

namespace TypedQuery.Arguments

/-- What a scalar makes of a value. -/
def Parses (scalar : Scalar) (value result : Json) : Prop :=
  match scalar.parse with
  | none => result = value
  | some parse => (parse value).Returns result

/-- The check of the input type, if it has one, accepts the object in normal form. -/
def Approves (type : InputType) (path : FieldPath) (members : List (String × Json)) : Prop :=
  ∀ check, type.check = some check → (check members path).Returns ()

mutual

/-- `Normalizes schema slot path args result`: the slot accepts the arguments at that path, and
`result` is their normal form. Either may be absent, which is not the same as null. -/
inductive Normalizes (schema : Schema) :
    Option Slot → FieldPath → Option Json → Option Json → Prop
  | noSlot {path args} : args = none ∨ args = some .null →
      Normalizes schema none path args none
  | absent {slot path} : slot.required = false →
      Normalizes schema (some slot) path none none
  | null {slot path} : slot.nullable = true →
      Normalizes schema (some slot) path (some .null) (some .null)
  | scalar {slot path scalar value result} : value ≠ .null → slot.array = none →
      schema.resolveInput slot.type = .ok (.scalar scalar) → Parses scalar value result →
      Normalizes schema (some slot) path (some value) (some result)
  | scalars {slot path scalar rule elements results} : slot.array = some rule →
      schema.resolveInput slot.type = .ok (.scalar scalar) → rule.Allows elements →
      List.Forall₂ (Json.NullOr (Parses scalar)) elements results →
      Normalizes schema (some slot) path (some (.array elements)) (some (.array results))
  | object {slot path type value result} : slot.array = none →
      schema.resolveInput slot.type = .ok (.input type) →
      NormalizesObject schema type path value result →
      Normalizes schema (some slot) path (some value) (some result)
  | objects {slot path type rule elements results} : slot.array = some rule →
      schema.resolveInput slot.type = .ok (.input type) → rule.Allows elements →
      NormalizesElements schema type path elements results →
      Normalizes schema (some slot) path (some (.array elements)) (some (.array results))

/-- An object of an input type: its declared members in normal form, none undeclared, and the
whole approved. -/
inductive NormalizesObject (schema : Schema) : InputType → FieldPath → Json → Json → Prop
  | intro {type path members results} :
      NormalizesFields schema path members type.fields results →
      (∀ key ∈ Entries.keys members, key ∈ Entries.keys type.fields) →
      Approves type path results →
      NormalizesObject schema type path (.object members) (.object results)

/-- An array of such objects, each as in `NormalizesObject`, element by element; null elements
stay. -/
inductive NormalizesElements (schema : Schema) :
    InputType → FieldPath → List Json → List Json → Prop
  | nil {type path} : NormalizesElements schema type path [] []
  | null {type path elements results} : NormalizesElements schema type path elements results →
      NormalizesElements schema type path (.null :: elements) (.null :: results)
  | object {type path element result elements results} : element ≠ .null →
      NormalizesObject schema type path element result →
      NormalizesElements schema type path elements results →
      NormalizesElements schema type path (element :: elements) (result :: results)

/-- The declared members in the order of declaration, absent ones left out. -/
inductive NormalizesFields (schema : Schema) : FieldPath → List (String × Json) →
    List (String × Slot) → List (String × Json) → Prop
  | nil {path members} : NormalizesFields schema path members [] []
  | absent {path members key slot fields results} :
      Normalizes schema (some slot) (path ++ [key]) (Entries.get? members key) none →
      NormalizesFields schema path members fields results →
      NormalizesFields schema path members ((key, slot) :: fields) results
  | present {path members key slot fields result results} :
      Normalizes schema (some slot) (path ++ [key]) (Entries.get? members key) (some result) →
      NormalizesFields schema path members fields results →
      NormalizesFields schema path members ((key, slot) :: fields) ((key, result) :: results)

end

theorem normalizesElements_iff {schema : Schema} {type : InputType} {path : FieldPath}
    {elements results : List Json} :
    NormalizesElements schema type path elements results ↔
      List.Forall₂ (Json.NullOr (NormalizesObject schema type path)) elements results := by
  induction elements generalizing results with
  | nil =>
      rw [List.forall₂_nil_left_iff]
      constructor
      · rintro ⟨⟩
        rfl
      · rintro rfl
        exact .nil
  | cons element elements ih =>
      rw [List.forall₂_cons_left_iff]
      constructor
      · intro h
        cases h with
        | null rest => exact ⟨_, _, .null, ih.mp rest, rfl⟩
        | object null first rest => exact ⟨_, _, .value null first, ih.mp rest, rfl⟩
      · rintro ⟨result, results', first, rest, rfl⟩
        cases first with
        | null => exact .null (ih.mpr rest)
        | value null first => exact .object null first (ih.mpr rest)

theorem returns_parse {scalar : Scalar} {value result : Json} :
    (parse scalar value).Returns result ↔ Parses scalar value result := by
  unfold parse Parses
  cases scalar.parse with
  | none => simp [eq_comm]
  | some parse => simp

theorem returns_parseElement {scalar : Scalar} {element result : Json} :
    (parseElement scalar element).Returns result ↔
      Json.NullOr (Parses scalar) element result :=
  Run.returns_nullOr returns_parse

theorem returns_checkNulls {rule : ArrayRule} {elements : List Json} {done : Unit} :
    (checkNulls rule elements).Returns done ↔ rule.Allows elements := by
  unfold checkNulls
  rw [ArrayRule.allows_iff]
  cases !rule.nullElements && elements.any Json.isNull <;> simp

/-- An array is read as an array, null elements permitting, by reading its elements. -/
theorem returns_array {rule : ArrayRule} {elements : List Json} {read : Run Error (List Json)}
    {relation : List Json → Prop} (h : ∀ results, read.Returns results ↔ relation results)
    {result : Json} :
    (do checkNulls rule elements; return Json.array (← read) : Run Error Json).Returns result ↔
      ∃ results, result = .array results ∧ rule.Allows elements ∧ relation results := by
  simp only [Run.returns_bind, Run.returns_pure, returns_checkNulls, h]
  constructor
  · rintro ⟨_, allowed, results, read, rfl⟩
    exact ⟨results, rfl, allowed, read⟩
  · rintro ⟨results, rfl, allowed, read⟩
    exact ⟨(), allowed, results, read, rfl⟩

/-- What a value other than null comes to once the type of its slot is known. -/
def NormalizesAs (schema : Schema) (path : FieldPath) (value result : Json) :
    ResolvedInput → Option ArrayRule → Prop
  | .scalar scalar, none => Parses scalar value result
  | .scalar scalar, some rule => ∃ elements results, value = .array elements ∧
      result = .array results ∧ rule.Allows elements ∧
      List.Forall₂ (Json.NullOr (Parses scalar)) elements results
  | .input type, none => NormalizesObject schema type path value result
  | .input type, some rule => ∃ elements results, value = .array elements ∧
      result = .array results ∧ rule.Allows elements ∧
      List.Forall₂ (Json.NullOr (NormalizesObject schema type path)) elements results

/-- The rules for a value other than null, by the type of its slot. -/
theorem normalizes_value_iff {schema : Schema} {slot : Slot} {path : FieldPath}
    {value result : Json} (h : value ≠ .null) :
    Normalizes schema (some slot) path (some value) (some result) ↔
      ∃ type, schema.resolveInput slot.type = .ok type ∧
        NormalizesAs schema path value result type slot.array := by
  constructor
  · intro normal
    cases normal with
    | null => exact absurd rfl h
    | scalar _ single type parsed => exact ⟨_, type, by rwa [single]⟩
    | scalars rule type allowed parsed =>
        exact ⟨_, type, by rw [rule]; exact ⟨_, _, rfl, rfl, allowed, parsed⟩⟩
    | object single type normal => exact ⟨_, type, by rwa [single]⟩
    | objects rule type allowed normal =>
        refine ⟨_, type, ?_⟩
        rw [rule]
        exact ⟨_, _, rfl, rfl, allowed, normalizesElements_iff.mp normal⟩
  · rintro ⟨scalar | type, resolved, normal⟩
    · cases array : slot.array with
      | none =>
          rw [array] at normal
          exact .scalar h array resolved normal
      | some rule =>
          rw [array] at normal
          obtain ⟨elements, results, rfl, rfl, allowed, parsed⟩ := normal
          exact .scalars array resolved allowed parsed
    · cases array : slot.array with
      | none =>
          rw [array] at normal
          exact .object array resolved normal
      | some rule =>
          rw [array] at normal
          obtain ⟨elements, results, rfl, rfl, allowed, normal⟩ := normal
          exact .objects array resolved allowed (normalizesElements_iff.mpr normal)

theorem normalizes_null_iff {schema : Schema} {slot : Slot} {path : FieldPath} {result : Json} :
    Normalizes schema (some slot) path (some .null) (some result) ↔
      slot.nullable = true ∧ result = .null := by
  constructor
  · intro normal
    cases normal with
    | null nullable => exact ⟨nullable, rfl⟩
    | scalar h => exact absurd rfl h
    | object _ _ normal => cases normal
  · rintro ⟨nullable, rfl⟩
    exact .null nullable

/-- Where an object of an input type is expected, the value reads by the rules. -/
def ReadsByRule (schema : Schema) (value : Json) : Prop :=
  ∀ type nullable path result,
    ((offer schema value).asInput type nullable path).Returns result ↔
      Json.NullOr (NormalizesObject schema type path) value result

/-- In any slot, the value is checked by the rules. -/
def ChecksByRule (schema : Schema) (value : Json) : Prop :=
  ∀ slot path result, (checkValue schema value slot path).Returns result ↔
    Normalizes schema (some slot) path (some value) (some result)

theorem checksByRule_null (schema : Schema) : ChecksByRule schema .null := by
  intro slot path result
  rw [normalizes_null_iff]
  simp only [checkValue, Offer.check, offer, Run.returns_attachPath]
  cases slot.nullable <;> simp [eq_comm]

/-- A value that is no array is parsed or read as it is, in a slot that expects no array. -/
theorem checksByRule_of_not_array {schema : Schema} {value : Json} (null : value ≠ .null)
    (single : ∀ elements, value ≠ .array elements) (reads : ReadsByRule schema value) :
    ChecksByRule schema value := by
  intro slot path result
  rw [normalizes_value_iff null]
  unfold checkValue Offer.check
  rw [Run.returns_attachPath, offer_value]
  split
  · exact absurd rfl null
  · exact absurd rfl (single _)
  · cases resolved : schema.resolveInput slot.type with
    | error error => cases slot.array <;> simp
    | ok type =>
        cases array : slot.array with
        | some rule => cases type <;> simp [NormalizesAs, single]
        | none =>
            cases type with
            | scalar scalar => simp [NormalizesAs, returns_parse]
            | input type => simp [NormalizesAs, reads type, Json.nullOr_iff_of_ne_null null]

/-- An array is checked element by element where the slot expects an array. -/
theorem checksByRule_array {schema : Schema} {elements : List Json}
    (reads : ∀ element ∈ elements, ReadsByRule schema element) :
    ChecksByRule schema (.array elements) := by
  intro slot path result
  rw [normalizes_value_iff (by simp)]
  unfold checkValue Offer.check
  rw [Run.returns_attachPath, offer_value]
  cases resolved : schema.resolveInput slot.type with
  | error error => simp
  | ok type =>
      cases type with
      | scalar scalar =>
          cases array : slot.array with
          | none => simp [NormalizesAs, readScalar, returns_parse]
          | some rule =>
              have parsed (results : List Json) :
                  (Run.traverse (parseElement scalar) elements).Returns results ↔
                    List.Forall₂ (Json.NullOr (Parses scalar)) elements results :=
                Run.returns_traverse fun _ _ _ => returns_parseElement
              simpa [NormalizesAs, readScalar] using returns_array parsed
      | input type =>
          cases array : slot.array with
          | none =>
              have refused : ¬ NormalizesObject schema type path (.array elements) result := nofun
              simpa [NormalizesAs, offer, notObject] using refused
          | some rule =>
              have normal (results : List Json) :
                  (Run.traverse (fun asInput => asInput type rule.nullElements path)
                    (offerElements schema elements)).Returns results ↔
                  List.Forall₂ (Json.NullOr (NormalizesObject schema type path)) elements
                    results := by
                rw [offerElements_eq_map, Run.traverse_map]
                exact Run.returns_traverse fun element member result =>
                  reads element member type rule.nullElements path result
              simpa [NormalizesAs, offer] using returns_array normal

theorem returns_checkAbsent {slot : Slot} {path : FieldPath} {result : Option Json} :
    (checkAbsent slot path).Returns result ↔ slot.required = false ∧ result = none := by
  unfold checkAbsent
  cases slot.required <;> simp [eq_comm]

/-- Arguments offered to a slot are checked by the rules if the value among them is, in the sense of
`ChecksByRule`. -/
theorem returns_check_slot {schema : Schema} {args : Option Json}
    (checks : ∀ value, args = some value → ChecksByRule schema value) {slot : Slot}
    {path : FieldPath} {result : Option Json} :
    (check schema args (some slot) path).Returns result ↔
      Normalizes schema (some slot) path args result := by
  cases args with
  | none =>
      simp only [check, returns_checkAbsent]
      constructor
      · rintro ⟨notRequired, rfl⟩
        exact .absent notRequired
      · intro normal
        cases normal with
        | absent notRequired => exact ⟨notRequired, rfl⟩
  | some value =>
      simp only [check, Run.returns_map]
      constructor
      · rintro ⟨result, checked, rfl⟩
        exact (checks value rfl slot path result).mp checked
      · intro normal
        cases result with
        | none => cases normal
        | some result => exact ⟨result, (checks value rfl slot path result).mpr normal, rfl⟩

/-- A member in front of others, unless it is absent. -/
def consPresent (key : String) (value : Option Json) (others : List (String × Json)) :
    List (String × Json) :=
  match value with
  | some value => (key, value) :: others
  | none => others

/-- A declared member is checked as the arguments that the object holds for it. -/
theorem checkFields_cons (schema : Schema) (members : List (String × Json)) (path : FieldPath)
    (key : String) (slot : Slot) (fields : List (String × Slot)) :
    checkFields schema (offerMembers schema members) path ((key, slot) :: fields) = do
      let value ← check schema (Entries.get? members key) (some slot) (path ++ [key])
      let others ← checkFields schema (offerMembers schema members) path fields
      return consPresent key value others := by
  rw [checkFields, get?_offerMembers]
  cases Entries.get? members key <;> rfl

theorem returns_checkFields {schema : Schema} {members : List (String × Json)}
    (checks : ∀ member ∈ members, ChecksByRule schema member.2) {path : FieldPath}
    {fields : List (String × Slot)} {results : List (String × Json)} :
    (checkFields schema (offerMembers schema members) path fields).Returns results ↔
      NormalizesFields schema path members fields results := by
  induction fields generalizing results with
  | nil =>
      simp only [checkFields, Run.returns_pure]
      constructor
      · rintro rfl
        exact .nil
      · rintro ⟨⟩
        rfl
  | cons field fields ih =>
      obtain ⟨key, slot⟩ := field
      have held (value : Json) (h : Entries.get? members key = some value) :
          ChecksByRule schema value := checks _ (Entries.mem_of_get?_eq_some h)
      simp only [checkFields_cons, Run.returns_bind, Run.returns_pure, returns_check_slot held, ih]
      constructor
      · rintro ⟨first, normal, others, rest, rfl⟩
        cases first with
        | none => exact .absent normal rest
        | some first => exact .present normal rest
      · intro normal
        cases normal with
        | absent normal rest => exact ⟨none, normal, _, rest, rfl⟩
        | present normal rest => exact ⟨some _, normal, _, rest, rfl⟩

theorem returns_checkWhole {type : InputType} {members : List (String × Json)}
    {path : FieldPath} {done : Unit} :
    (checkWhole type members path).Returns done ↔ Approves type path members := by
  unfold checkWhole Approves
  cases type.check <;> simp

/-- Undeclared members are looked at after the declared ones and before the whole. -/
theorem returns_readObject {schema : Schema} {members : List (String × Json)}
    (checks : ∀ member ∈ members, ChecksByRule schema member.2) {type : InputType}
    {nullable : Bool} {path : FieldPath} {result : Json} :
    (readObject schema (offerMembers schema members) type nullable path).Returns result ↔
      NormalizesObject schema type path (.object members) result := by
  have declared : (Entries.keys members).filter (fun key => !Entries.has type.fields key) = [] ↔
      ∀ key ∈ Entries.keys members, key ∈ Entries.keys type.fields := by
    simp [List.filter_eq_nil_iff, Entries.has_eq_true_iff]
  simp only [readObject, keys_offerMembers, Run.returns_bind, returns_checkFields checks]
  constructor
  · rintro ⟨results, normal, rest⟩
    split at rest
    · simp at rest
    · rename_i known
      simp only [Run.returns_bind, returns_checkWhole, Run.returns_pure] at rest
      obtain ⟨_, approved, rfl⟩ := rest
      exact .intro normal (declared.mp (not_not.mp known)) approved
  · intro normal
    cases normal with
    | @intro _ _ _ results normal known approved =>
        refine ⟨results, normal, ?_⟩
        rw [if_neg (not_not.mpr (declared.mpr known))]
        simpa [returns_checkWhole] using approved

theorem readsByRule_of_notObject {schema : Schema} {value : Json} (null : value ≠ .null)
    (single : ∀ members, value ≠ .object members)
    (reads : (offer schema value).asInput = notObject) : ReadsByRule schema value := by
  intro type nullable path result
  have refused : ¬ NormalizesObject schema type path value result := by
    rintro ⟨⟩
    exact single _ rfl
  simp [reads, notObject, Json.nullOr_iff_of_ne_null null, refused]

/-- Every value is read and checked by the rules. Checking an array takes the readings of its
elements, and reading an object the checks of its members, so the two go together. -/
theorem byRule (schema : Schema) (value : Json) :
    ReadsByRule schema value ∧ ChecksByRule schema value := by
  induction value with
  | null =>
      refine ⟨?_, checksByRule_null schema⟩
      intro type nullable path result
      simp [offer, eq_comm]
  | array elements ih =>
      refine ⟨readsByRule_of_notObject (by simp) (by simp) rfl, ?_⟩
      exact checksByRule_array fun element member => (ih element member).1
  | object members ih =>
      have reads : ReadsByRule schema (.object members) := by
        intro type nullable path result
        simpa [offer, Json.nullOr_iff_of_ne_null] using
          returns_readObject fun member inside => (ih member inside).2
      exact ⟨reads, checksByRule_of_not_array (by simp) (by simp) reads⟩
  | bool | number | string =>
      refine ⟨readsByRule_of_notObject (by simp) (by simp) rfl, ?_⟩
      refine checksByRule_of_not_array (by simp) (by simp) ?_
      exact readsByRule_of_notObject (by simp) (by simp) rfl

theorem returns_check_noSlot {schema : Schema} {args : Option Json} {path : FieldPath}
    {result : Option Json} :
    (check schema args none path).Returns result ↔ Normalizes schema none path args result := by
  cases args with
  | none =>
      simp only [check, Run.returns_pure]
      constructor
      · rintro rfl
        exact .noSlot (.inl rfl)
      · rintro ⟨_⟩
        rfl
  | some value =>
      by_cases null : value = .null
      · subst null
        simp only [check, Json.isNull, if_true, Run.returns_pure]
        constructor
        · rintro rfl
          exact .noSlot (.inr rfl)
        · rintro ⟨_⟩
          rfl
      · have refused : ¬ Normalizes schema none path (some value) result := by
          rintro ⟨given | given⟩
          · cases given
          · exact null (Option.some.inj given)
        simp [check, null, refused]

/-- `Arguments.check` returns exactly the normal forms that the rules of `Normalizes` derive, and
fails on arguments for which they derive none. -/
theorem check_returns_iff_normalizes (schema : Schema) (args : Option Json) (slot : Option Slot)
    (path : FieldPath) :
    (∀ result, (check schema args slot path).outcome = .ok result ↔
      Normalizes schema slot path args result) ∧
    ((∃ error, (check schema args slot path).outcome = .error error) ↔
      ¬ ∃ result, Normalizes schema slot path args result) := by
  have returns (result : Option Json) : (check schema args slot path).Returns result ↔
      Normalizes schema slot path args result := by
    cases slot with
    | none => exact returns_check_noSlot
    | some slot => exact returns_check_slot fun value _ => (byRule schema value).2
  refine ⟨returns, ?_⟩
  rw [Run.fails_iff]
  exact not_congr (exists_congr returns)

end TypedQuery.Arguments
