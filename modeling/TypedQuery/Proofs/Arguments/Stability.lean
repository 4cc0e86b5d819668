import TypedQuery.Proofs.Arguments.Attribution
import TypedQuery.Proofs.Arguments.NormalForm
import TypedQuery.Proofs.Schema.Scalars

/-!
# Arguments that stay as they are

Arguments that have been checked may be checked once more. Where the parsers of scalars leave alone
what they have parsed, which is `Scalar.ParsesStably`, the normal form of arguments is its own
normal form: the members of an object stand in the order of declaration already, an absent member
stays absent, and a null stands where a null may stand. The base scalars parse in this way.
-/

namespace TypedQuery

/-- The parser of the scalar, if it has one, leaves alone what it has parsed, which is never
null. -/
def Scalar.ParsesStably (scalar : Scalar) : Prop :=
  ∀ parse, scalar.parse = some parse → ScalarFunction.Settles parse

theorem Scalar.parsesStably_of_base {scalar : Scalar} (base : scalar ∈ Scalar.base) :
    scalar.ParsesStably := by
  simp only [Scalar.base, List.mem_cons, List.not_mem_nil, or_false] at base
  rintro parse declared
  obtain rfl | rfl | rfl := base <;> cases declared <;> exact settles_expecting rfl

namespace Schema

/-- All scalars to which the slot leads parse stably, as `Scalar.ParsesStably` says. Input types
keep their members by name, so none to which it leads has two of one name. -/
structure SlotStable (schema : Schema) (slot : Slot) : Prop where
  scalars : ∀ keys target scalar, schema.SlotAt slot keys target →
    schema.resolveInput target.type = .ok (.scalar scalar) → scalar.ParsesStably
  members : ∀ keys target type, schema.SlotAt slot keys target →
    schema.resolveInput target.type = .ok (.input type) → (Entries.keys type.fields).Nodup

/-- What `SlotStable` says of a slot, of an input type. -/
structure TypeStable (schema : Schema) (type : InputType) : Prop where
  unique : (Entries.keys type.fields).Nodup
  members : ∀ field ∈ type.fields, schema.SlotStable field.2

theorem SlotStable.declared {schema : Schema} {slot : Slot} (stable : schema.SlotStable slot) :
    ∀ declared, some slot = some declared → schema.SlotStable declared := by
  rintro _ ⟨⟩
  exact stable

theorem SlotStable.type {schema : Schema} {slot : Slot} (stable : schema.SlotStable slot)
    {type : InputType} (resolved : schema.resolveInput slot.type = .ok (.input type)) :
    schema.TypeStable type where
  unique := stable.members [] slot type .self resolved
  members _ inside :=
    { scalars := fun _ target scalar leads =>
        stable.scalars _ target scalar (.member resolved inside leads)
      members := fun _ target held leads =>
        stable.members _ target held (.member resolved inside leads) }

/-- What holds of the slots of all members, once it holds of a slot, holds wherever it leads. -/
theorem SlotAt.kept {schema : Schema} {kept : Slot → Prop}
    (members : ∀ slot type, kept slot → schema.resolveInput slot.type = .ok (.input type) →
      ∀ field ∈ type.fields, kept field.2)
    {slot target : Slot} {keys : List String} (leads : schema.SlotAt slot keys target)
    (h : kept slot) : kept target := by
  induction leads with
  | self => exact h
  | member resolved inside _ ih => exact ih (members _ _ h resolved _ inside)

end Schema

namespace Arguments

variable {schema : Schema}

theorem parses_self {scalar : Scalar} (stable : scalar.ParsesStably) {value result : Json}
    (null : value ≠ .null) (h : Parses scalar value result) :
    result ≠ .null ∧ Parses scalar result result := by
  unfold Parses at h ⊢
  cases declared : scalar.parse with
  | none =>
      rw [declared] at h
      obtain rfl : result = value := h
      exact ⟨null, rfl⟩
  | some parse =>
      rw [declared] at h
      exact stable parse declared value result h

theorem NormalizesObject.ne_null {type : InputType} {path : FieldPath} {value result : Json}
    (h : NormalizesObject schema type path value result) : result ≠ .null := by
  cases h
  simp

/-- Among the members in normal form there are declared ones only, in the order of declaration. -/
theorem NormalizesFields.keys_sublist {path : FieldPath} {members results : List (String × Json)}
    {fields : List (String × Slot)} (h : NormalizesFields schema path members fields results) :
    (Entries.keys results).Sublist (Entries.keys fields) := by
  induction fields generalizing results with
  | nil =>
      cases h
      exact List.Sublist.slnil
  | cons field fields ih =>
      cases h with
      | absent _ rest => exact (ih rest).cons _
      | present _ rest => exact (ih rest).cons_cons _

mutual

/-- What is in normal form is its own normal form, by the same rule. -/
theorem Normalizes.self {slot : Option Slot} {path : FieldPath} {args result : Option Json}
    (stable : ∀ declared, slot = some declared → schema.SlotStable declared) :
    Normalizes schema slot path args result → Normalizes schema slot path result result
  | .noSlot _ => .noSlot (.inl rfl)
  | .absent notRequired => .absent notRequired
  | .null nullable => .null nullable
  | .scalar null single resolved parsed => by
      have leaf := (stable _ rfl).scalars [] _ _ .self resolved
      obtain ⟨notNull, same⟩ := parses_self leaf null parsed
      exact .scalar notNull single resolved same
  | .scalars array resolved allowed parsed => by
      have leaf := (stable _ rfl).scalars [] _ _ .self resolved
      have settles (value result : Json) (null : value ≠ .null) (h : Parses _ value result) :=
        parses_self leaf null h
      have allowedSame := Json.NullOr.allows parsed
        (fun value result null h => (settles value result null h).1) allowed
      exact .scalars array resolved allowedSame (Json.NullOr.elements_self parsed settles)
  | .object single resolved normal =>
      .object single resolved (normal.self ((stable _ rfl).type resolved))
  | .objects array resolved allowed normal => by
      have allowedSame := Json.NullOr.allows (normalizesElements_iff.mp normal)
        (fun _ _ _ object => object.ne_null) allowed
      exact .objects array resolved allowedSame (normal.self ((stable _ rfl).type resolved))

theorem NormalizesObject.self {type : InputType} {path : FieldPath} {value result : Json}
    (stable : schema.TypeStable type) :
    NormalizesObject schema type path value result →
      NormalizesObject schema type path result result
  | .intro normal _ approved =>
      .intro (normal.self stable.unique stable.members fun _ _ => rfl)
        (fun _ inside => normal.keys_sublist.subset inside) approved

theorem NormalizesElements.self {type : InputType} {path : FieldPath}
    {elements results : List Json}
    (stable : schema.TypeStable type) :
    NormalizesElements schema type path elements results →
      NormalizesElements schema type path results results
  | .nil => .nil
  | .null rest => .null (rest.self stable)
  | .object _ first rest => .object first.ne_null (first.self stable) (rest.self stable)

/-- The members may stand among others, as long as they are found under their names. -/
theorem NormalizesFields.self {path : FieldPath} {members results whole : List (String × Json)}
    {fields : List (String × Slot)} (unique : (Entries.keys fields).Nodup)
    (stable : ∀ field ∈ fields, schema.SlotStable field.2)
    (found : ∀ key ∈ Entries.keys fields, Entries.get? whole key = Entries.get? results key) :
    NormalizesFields schema path members fields results →
      NormalizesFields schema path whole fields results
  | .nil => .nil
  | .absent first rest => by
      obtain ⟨fresh, unique⟩ := List.nodup_cons.mp unique
      obtain ⟨stableFirst, stableRest⟩ := List.forall_mem_cons.1 stable
      obtain ⟨foundFirst, foundRest⟩ := List.forall_mem_cons.1 found
      have missing := Entries.get?_eq_none_iff.mpr fun inside =>
        fresh (rest.keys_sublist.subset inside)
      refine .absent ?_ (rest.self unique stableRest foundRest)
      rw [foundFirst, missing]
      exact first.self stableFirst.declared
  | .present first rest => by
      obtain ⟨fresh, unique⟩ := List.nodup_cons.mp unique
      obtain ⟨stableFirst, stableRest⟩ := List.forall_mem_cons.1 stable
      obtain ⟨foundFirst, foundRest⟩ := List.forall_mem_cons.1 found
      refine .present ?_ (rest.self unique stableRest fun key inside => ?_)
      · rw [foundFirst, Entries.get?_cons, if_pos rfl]
        exact first.self stableFirst.declared
      · rw [foundRest key inside, Entries.get?_cons, if_neg]
        rintro rfl
        exact fresh inside

end

/-- `Arguments.check` returns exactly what the rules of `Normalizes` derive. -/
theorem returns_check_iff {slot : Option Slot} {path : FieldPath} {args result : Option Json} :
    (check schema args slot path).Returns result ↔ Normalizes schema slot path args result := by
  cases slot with
  | none => exact returns_check_noSlot
  | some slot => exact returns_check_slot fun value _ => (byRule schema value).2

/-- Arguments that have been checked pass a second check as they are, the order of their keys
included, wherever scalars parse stably. Base scalars do. -/
theorem normal_form_is_kept (schema : Schema) (args : Option Json) (slot : Option Slot)
    (path : FieldPath) (out : Option Json) :
    (∀ scalar ∈ Scalar.base, scalar.ParsesStably) ∧
      ((∀ declared, slot = some declared → schema.SlotStable declared) →
        (check schema args slot path).outcome = .ok out →
          (check schema out slot path).outcome = .ok out) := by
  refine ⟨fun scalar => Scalar.parsesStably_of_base, fun stable accepted => ?_⟩
  have normal : Normalizes schema slot path args out := returns_check_iff.mp accepted
  exact returns_check_iff.mpr (normal.self stable)

/-- A search, which may be narrowed by further searches. -/
def searchInput : InputType where
  name := "search"
  fields := [
    ("text", { type := .scalar Scalar.string, required := true }),
    ("tags", { type := .scalar Scalar.string, array := some ⟨true⟩ }),
    ("within", { type := .lookup "search", nullable := true, array := some ⟨true⟩ })]

def searchSchema : Schema where
  inputs := [("search", searchInput)]

def searchSlot : Slot where
  type := .lookup "search"

theorem searchSlot_stable : searchSchema.SlotStable searchSlot := by
  let kept (slot : Slot) : Prop := slot.type = .scalar Scalar.string ∨ slot.type = .lookup "search"
  have search (slot : Slot) (type : InputType) (h : kept slot)
      (resolved : searchSchema.resolveInput slot.type = .ok (.input type)) :
      type = searchInput := by
    obtain named | named := h <;> rw [named] at resolved <;> cases resolved
    rfl
  have within (keys : List String) (target : Slot)
      (leads : searchSchema.SlotAt searchSlot keys target) : kept target := by
    refine leads.kept (fun slot type h resolved => ?_) (.inr rfl)
    obtain rfl := search slot type h resolved
    simp [searchInput, kept]
  constructor
  · intro keys target scalar leads resolved
    obtain named | named := within keys target leads <;> rw [named] at resolved <;> cases resolved
    exact Scalar.parsesStably_of_base (by simp [Scalar.base])
  · intro keys target type leads resolved
    obtain rfl := search target type (within keys target leads) resolved
    decide

/-- The members of a search are put in order once, and stay there. -/
theorem normal_form_is_kept_search :
    let narrower : Json := .object [("text", .string "novel")]
    let args : Json := .object [
      ("within", .array [.null, narrower]), ("text", .string "ship"), ("tags", .array [.null])]
    let out : Json := .object [
      ("text", .string "ship"), ("tags", .array [.null]), ("within", .array [.null, narrower])]
    (∀ declared, some searchSlot = some declared → searchSchema.SlotStable declared) ∧
      (check searchSchema (some args) (some searchSlot) []).outcome = .ok (some out) ∧
      (check searchSchema (some out) (some searchSlot) []).outcome = .ok (some out) := by
  intro narrower args out
  have accepted : (check searchSchema (some args) (some searchSlot) []).outcome = .ok (some out) :=
    rfl
  have kept := normal_form_is_kept searchSchema (some args) (some searchSlot) [] (some out)
  exact ⟨searchSlot_stable.declared, accepted, kept.2 searchSlot_stable.declared accepted⟩

end Arguments

end TypedQuery
