import TypedQuery.Proofs.Arguments.Order
import TypedQuery.Schema.BaseScalars

/-!
# The order of keys does not matter

A client may write the members of an object in any order; values that are the same up to that are
`Reordered`. The check takes the members by their names, in the order in which the type declares
them, so it parses and checks the same values one after the other and comes to the same normal form.
The order shows in one place: the names that are listed as unknown stand as the client has written
them, which is what `ListsUnknown` allows for.
-/

namespace TypedQuery

namespace Run

variable {ε α β : Type}

/-- Two runs that show the same calls and return the same value. If they fail with different
errors, these are related. -/
structure Alike (related : ε → ε → Prop) (run other : Run ε α) : Prop where
  trace : run.trace = other.trace
  returns : ∀ value, run.Returns value ↔ other.Returns value
  fails : ∀ error error', run.outcome = .error error → other.outcome = .error error' →
    error = error' ∨ related error error'

section Alike

variable {related : ε → ε → Prop}

theorem alike_self (run : Run ε α) : run.Alike related run where
  trace := rfl
  returns _ := Iff.rfl
  fails _ _ failed failed' := .inl (Except.error.inj (failed.symm.trans failed'))

theorem alike_error {error error' : ε} (h : error = error' ∨ related error error')
    (trace : List Event) :
    (⟨trace, .error error⟩ : Run ε α).Alike related ⟨trace, .error error'⟩ where
  trace := rfl
  returns _ := by simp [Returns]
  fails := by
    rintro _ _ ⟨⟩ ⟨⟩
    exact h

theorem Alike.mono {weaker : ε → ε → Prop} {run other : Run ε α} (h : run.Alike related other)
    (weakens : ∀ error error', related error error' → weaker error error') :
    run.Alike weaker other :=
  ⟨h.trace, h.returns, fun error error' failed failed' =>
    (h.fails error error' failed failed').imp_right (weakens error error')⟩

/-- What comes next is alike whatever is returned. -/
theorem Alike.bind {run other : Run ε α} {next next' : α → Run ε β}
    (first : run.Alike related other) (second : ∀ value, (next value).Alike related (next' value)) :
    (run >>= next).Alike related (other >>= next') := by
  cases ended : run.outcome with
  | ok value =>
      have endedOther : other.outcome = .ok value := (first.returns value).mp ended
      obtain ⟨trace, returns, fails⟩ := second value
      rw [bind_of_ok ended, bind_of_ok endedOther, first.trace, trace]
      exact ⟨rfl, returns, fails⟩
  | error error =>
      cases endedOther : other.outcome with
      | ok value => cases ended.symm.trans ((first.returns value).mpr endedOther)
      | error error' =>
          rw [bind_of_error ended, bind_of_error endedOther, first.trace]
          exact alike_error (first.fails error error' ended endedOther) other.trace

/-- What is made of the value that is returned makes no difference, if it shows the value. -/
theorem alike_map_iff {f : α → β} (injective : Function.Injective f) {run other : Run ε α} :
    (f <$> run).Alike related (f <$> other) ↔ run.Alike related other := by
  have returns (run : Run ε α) (value : α) : (f <$> run).Returns (f value) ↔ run.Returns value := by
    simp [injective.eq_iff]
  constructor
  · rintro ⟨trace, same, fails⟩
    rw [trace_map, trace_map] at trace
    simp only [outcome_map_eq_error_iff] at fails
    exact ⟨trace, fun value => by rw [← returns, same, returns], fails⟩
  · intro h
    rw [← bind_pure_comp, ← bind_pure_comp]
    exact h.bind fun value => alike_self (pure (f value))

theorem alike_traverse {γ : Type} {f : α → Run ε β} {g : γ → Run ε β} {values : List α}
    {others : List γ}
    (step : List.Forall₂ (fun value other => (f value).Alike related (g other)) values others) :
    (traverse f values).Alike related (traverse g others) := by
  induction step with
  | nil => exact alike_self (pure [])
  | cons first _ ih =>
      rw [traverse_cons, traverse_cons]
      exact first.bind fun _ => ih.bind fun _ => alike_self _

/-- Errors that are related name their paths, so `Run.attachPath` changes nothing about them. -/
theorem Alike.attachPath {related : Error → Error → Prop} {run other : Run Error α}
    (h : run.Alike related other) {path : FieldPath}
    (named : ∀ error error', related error error' →
      error.attachPath path = error ∧ error'.attachPath path = error') :
    (run.attachPath path).Alike related (other.attachPath path) where
  trace := by rw [trace_attachPath, trace_attachPath, h.trace]
  returns value := by rw [returns_attachPath, returns_attachPath, h.returns]
  fails := by
    intro _ _ failed failed'
    obtain ⟨error, raised, rfl⟩ := outcome_mapError_eq_error_iff.mp failed
    obtain ⟨error', raised', rfl⟩ := outcome_mapError_eq_error_iff.mp failed'
    obtain rfl | related := h.fails error error' raised raised'
    · exact .inl rfl
    · obtain ⟨same, same'⟩ := named error error' related
      rw [same, same']
      exact .inr related

end Alike

end Run

namespace Arguments

/-- `Reordered schema slot args others`: the arguments differ at most in the order in which the
members of objects are written, where the slot leads to an input type. What is not declared may hold
anything. -/
inductive Reordered (schema : Schema) : Option Slot → Option Json → Option Json → Prop
  | same {slot args} : Reordered schema slot args args
  | elements {slot rule elements others} : slot.array = some rule →
      elements.length = others.length →
      (∀ pair ∈ elements.zip others,
        Reordered schema (some (slot.element rule)) (some pair.1) (some pair.2)) →
      Reordered schema (some slot) (some (.array elements)) (some (.array others))
  | object {slot type members others} :
      schema.resolveInput slot.type = .ok (.input type) →
      (Entries.keys members).Perm (Entries.keys others) →
      (∀ field ∈ type.fields, Reordered schema (some field.2) (Entries.get? members field.1)
        (Entries.get? others field.1)) →
      Reordered schema (some slot) (some (.object members)) (some (.object others))

/-- The members of an object may stand in any order: a `List.Perm` of them is enough. -/
theorem Reordered.of_perm {schema : Schema} {slot : Slot} {type : InputType}
    (resolved : schema.resolveInput slot.type = .ok (.input type))
    {members others : List (String × Json)} (unique : (Entries.keys members).Nodup)
    (reordering : members.Perm others) :
    Reordered schema (some slot) (some (.object members)) (some (.object others)) := by
  refine .object resolved (reordering.map Prod.fst) fun field _ => ?_
  rw [Entries.get?_perm unique reordering]
  exact .same

/-- Both errors list the names that objects bear and their common type does not declare, each in
the order of its own object. -/
def ListsUnknown (positions others : List Position) (error error' : Error) : Prop :=
  ∃ path type members members',
    ⟨path, .undeclared type members⟩ ∈ positions ∧ ⟨path, .undeclared type members'⟩ ∈ others ∧
    (Entries.keys members).Perm (Entries.keys members') ∧
    error = (Error.args (.unknownKeys (type.undeclared members))).withPath path ∧
    error' = (Error.args (.unknownKeys (type.undeclared members'))).withPath path

theorem ListsUnknown.mono {positions others more more' : List Position} {error error' : Error}
    (h : ListsUnknown positions others error error')
    (inside : ∀ position ∈ positions, position ∈ more)
    (inside' : ∀ position ∈ others, position ∈ more') : ListsUnknown more more' error error' := by
  obtain ⟨path, type, members, members', here, here', written, unknown, unknown'⟩ := h
  exact ⟨path, type, members, members', inside _ here, inside' _ here', written, unknown, unknown'⟩

theorem ListsUnknown.attachPath {positions others : List Position} {error error' : Error}
    (h : ListsUnknown positions others error error') (path : FieldPath) :
    error.attachPath path = error ∧ error'.attachPath path = error' := by
  obtain ⟨_, _, _, _, _, _, _, rfl, rfl⟩ := h
  exact ⟨rfl, rfl⟩

/-- The check is the same for both arguments, but for the names that it lists as unknown, as
`ListsUnknown` allows. -/
def AlikeFor (schema : Schema) (slot : Option Slot) (args others : Option Json) : Prop :=
  ∀ path, (check schema args slot path).Alike
    (ListsUnknown (argsPositions schema args slot path) (argsPositions schema others slot path))
    (check schema others slot path)

variable {schema : Schema} {slot : Slot} {path : FieldPath}

theorem Reordered.isNull {slot : Option Slot} {value other : Json}
    (h : Reordered schema slot (some value) (some other)) : value.isNull = other.isNull := by
  cases h <;> rfl

theorem mem_positions_of_element {rule : ArrayRule} (array : slot.array = some rule)
    {elements : List Json} {element : Json} (held : element ∈ elements) {position : Position}
    (inside : position ∈ positions schema element (slot.element rule) path) :
    position ∈ positions schema (.array elements) slot path := by
  rw [positions_array array]
  exact List.mem_cons_of_mem _ (List.mem_cons_of_mem _ (List.mem_flatMap.mpr ⟨_, held, inside⟩))

section Object

variable {type : InputType} (array : slot.array = none)
  (resolved : schema.resolveInput slot.type = .ok (.input type)) {members : List (String × Json)}
include array resolved

theorem mem_positions_of_field {field : String × Slot} (declared : field ∈ type.fields)
    {position : Position} (inside : position ∈ argsPositions schema
      (Entries.get? members field.1) (some field.2) (path ++ [field.1])) :
    position ∈ positions schema (.object members) slot path := by
  rw [positions_object array resolved]
  refine List.mem_append_left _ (List.mem_cons_of_mem _ (List.mem_cons_of_mem _ ?_))
  exact List.mem_flatMap.mpr ⟨field, declared, inside⟩

theorem undeclared_mem_positions :
    ⟨path, .undeclared type members⟩ ∈ positions schema (.object members) slot path := by
  rw [positions_object array resolved]
  exact List.mem_append_right _ List.mem_cons_self

end Object

theorem alike_check_iff {related : Error → Error → Prop} {value other : Json} :
    (check schema (some value) (some slot) path).Alike related
        (check schema (some other) (some slot) path) ↔
      (checkValue schema value slot path).Alike related (checkValue schema other slot path) :=
  Run.alike_map_iff fun _ _ => Option.some.inj

theorem checkNulls_congr {rule : ArrayRule} {elements others : List Json}
    (same : elements.map Json.isNull = others.map Json.isNull) :
    checkNulls rule elements = checkNulls rule others := by
  have any (elements : List Json) :
      elements.any Json.isNull = (elements.map Json.isNull).any id := by simp
  rw [checkNulls, checkNulls, any elements, any others, same]

theorem alikeFor_elements {rule : ArrayRule} (array : slot.array = some rule)
    {elements others : List Json} (length : elements.length = others.length)
    (alike : ∀ pair ∈ elements.zip others, pair.1.isNull = pair.2.isNull ∧
      AlikeFor schema (some (slot.element rule)) (some pair.1) (some pair.2)) :
    AlikeFor schema (some slot) (some (.array elements)) (some (.array others)) := by
  intro path
  have nulls : elements.map Json.isNull = others.map Json.isNull := by
    rw [← List.forall₂_eq_eq_eq, List.forall₂_map_left_iff, List.forall₂_map_right_iff]
    exact List.forall₂_iff_zip.mpr ⟨length, fun inside => (alike _ inside).1⟩
  rw [alike_check_iff, checkValue_array array, checkValue_array array, checkNulls_congr nulls]
  refine Run.Alike.attachPath ?_ fun _ _ lists => lists.attachPath path
  refine (Run.alike_self _).bind fun _ => (Run.alike_self _).bind fun _ => ?_
  refine (Run.alike_traverse ?_).bind fun _ => Run.alike_self _
  refine List.forall₂_iff_zip.mpr ⟨length, fun {element other} inside => ?_⟩
  obtain ⟨held, held'⟩ := List.of_mem_zip inside
  have within := alike_check_iff.mp ((alike _ inside).2 path)
  exact within.mono fun _ _ lists => lists.mono
    (fun _ => mem_positions_of_element array held) fun _ => mem_positions_of_element array held'

theorem alike_checkFields {related : Error → Error → Prop} {members others : List (String × Json)}
    {fields : List (String × Slot)}
    (alike : ∀ field ∈ fields,
      (check schema (Entries.get? members field.1) (some field.2) (path ++ [field.1])).Alike related
        (check schema (Entries.get? others field.1) (some field.2) (path ++ [field.1]))) :
    (checkFields schema (offerMembers schema members) path fields).Alike related
      (checkFields schema (offerMembers schema others) path fields) := by
  induction fields with
  | nil => exact Run.alike_self (pure [])
  | cons field fields ih =>
      obtain ⟨first, rest⟩ := List.forall_mem_cons.1 alike
      rw [checkFields_cons, checkFields_cons]
      exact first.bind fun _ => (ih rest).bind fun _ => Run.alike_self _

section Object

variable {type : InputType} (resolved : schema.resolveInput slot.type = .ok (.input type))
  {members others : List (String × Json)}
  (written : (Entries.keys members).Perm (Entries.keys others))
include resolved written

/-- Behind the declared members the two runs part only where names are unknown. -/
theorem alike_undeclared (array : slot.array = none) (next : Run Error Json) :
    (Run.attachPath path do
        if type.undeclared members ≠ [] then .fail (.args (.unknownKeys (type.undeclared members)))
        next).Alike
      (ListsUnknown (positions schema (.object members) slot path)
        (positions schema (.object others) slot path))
      (Run.attachPath path do
        if type.undeclared others ≠ [] then .fail (.args (.unknownKeys (type.undeclared others)))
        next) := by
  have same : (type.undeclared members).Perm (type.undeclared others) := written.filter _
  by_cases known : type.undeclared members = []
  · have known' : type.undeclared others = [] := (known ▸ same).nil_eq.symm
    rw [if_neg (not_not.mpr known), if_neg (not_not.mpr known')]
    exact Run.alike_self _
  · have unknown' : type.undeclared others ≠ [] := fun known' => known (known' ▸ same).eq_nil
    rw [if_pos known, if_pos unknown']
    refine Run.alike_error (.inr ?_) []
    exact ⟨path, type, members, others, undeclared_mem_positions array resolved,
      undeclared_mem_positions array resolved, written, rfl, rfl⟩

theorem alikeFor_object (alike : ∀ field ∈ type.fields, AlikeFor schema (some field.2)
      (Entries.get? members field.1) (Entries.get? others field.1)) :
    AlikeFor schema (some slot) (some (.object members)) (some (.object others)) := by
  intro path
  rw [alike_check_iff]
  cases array : slot.array with
  | some rule =>
      have refused (members : List (String × Json)) :
          checkValue schema (.object members) slot path
            = Run.attachPath path (.fail (.args (.notArray slot.nullable))) :=
        checkValue_of_array (by simp) array (by simp)
      rw [refused, refused]
      exact Run.alike_self _
  | none =>
      rw [checkValue_of_no_array (by simp) array, checkValue_of_no_array (by simp) array, resolved]
      dsimp only [offer]
      rw [readObject_eq, readObject_eq, Run.attachPath_bind, Run.attachPath_bind]
      refine Run.Alike.bind ?_ fun read => alike_undeclared resolved written array _
      refine Run.Alike.attachPath ?_ fun _ _ lists => lists.attachPath path
      refine alike_checkFields fun field inside => ?_
      exact (alike field inside (path ++ [field.1])).mono fun _ _ lists => lists.mono
        (fun _ => mem_positions_of_field array resolved inside)
        fun _ => mem_positions_of_field array resolved inside

end Object

/-- Arguments that differ in the order of keys alone are checked alike. -/
theorem Reordered.alikeFor {slot : Option Slot} {args others : Option Json}
    (h : Reordered schema slot args others) : AlikeFor schema slot args others := by
  induction h with
  | same => exact fun _ => Run.alike_self _
  | elements array length related ih =>
      exact alikeFor_elements array length fun pair inside =>
        ⟨(related pair inside).isNull, ih pair inside⟩
  | object resolved written related ih => exact alikeFor_object resolved written ih

/-- Arguments that differ in the order of keys alone are parsed and checked by the same calls, and
either both come to the same normal form or both are refused: at the same place and for the same
reason, where unknown names are listed in the order in which each client has written them. -/
theorem key_order_does_not_show (schema : Schema) {slot : Option Slot} {args others : Option Json}
    (reordered : Reordered schema slot args others) (path : FieldPath) :
    let run := check schema args slot path
    let other := check schema others slot path
    run.trace = other.trace ∧ (∀ out, run.outcome = .ok out ↔ other.outcome = .ok out) ∧
      ∀ error, run.outcome = .error error → ∃ error', other.outcome = .error error' ∧
        error'.kind = error.kind ∧ error'.path = error.path ∧ error'.status = error.status ∧
        (error' = error ∨ ListsUnknown (argsPositions schema args slot path)
          (argsPositions schema others slot path) error error') := by
  intro run other
  obtain ⟨trace, returns, fails⟩ := reordered.alikeFor path
  refine ⟨trace, returns, fun error failed => ?_⟩
  obtain ⟨error', failed'⟩ : ∃ error', other.outcome = .error error' := by
    rw [Run.fails_iff]
    rintro ⟨out, returned⟩
    cases failed.symm.trans ((returns out).mpr returned)
  refine ⟨error', failed', ?_⟩
  obtain rfl | lists := fails error error' failed failed'
  · exact ⟨rfl, rfl, rfl, .inl rfl⟩
  · obtain ⟨_, _, _, _, _, _, _, rfl, rfl⟩ := id lists
    exact ⟨rfl, rfl, rfl, .inr lists⟩

def partsSlot : Slot where
  type := .lookup "place"
  array := some ⟨false⟩

/-- A place, with the places in it. -/
def placeInput : InputType where
  name := "place"
  fields := [
    ("name", { type := .scalar Scalar.string, required := true }),
    ("parts", partsSlot)]

def placeSchema : Schema where
  inputs := [("place", placeInput)]

def placeSlot : Slot where
  type := .lookup "place"

/-- Two clients write the same place. Both are refused for what is unknown in its part, and each is
told the names in its own order. -/
theorem key_order_does_not_show_place :
    let cellar : Json := .object [("size", .null), ("damp", .null), ("name", .string "cellar")]
    let basement : Json := .object [("name", .string "cellar"), ("damp", .null), ("size", .null)]
    let house : Json := .object [("parts", .array [cellar]), ("name", .string "house")]
    let other : Json := .object [("name", .string "house"), ("parts", .array [basement])]
    let run := check placeSchema (some house) (some placeSlot) ["place"]
    let run' := check placeSchema (some other) (some placeSlot) ["place"]
    Reordered placeSchema (some placeSlot) (some house) (some other) ∧ run.trace = run'.trace ∧
      run.outcome
        = .error ((Error.args (.unknownKeys ["size", "damp"])).withPath ["place", "parts"]) ∧
      run'.outcome
        = .error ((Error.args (.unknownKeys ["damp", "size"])).withPath ["place", "parts"]) := by
  intro cellar basement house other run run'
  have part : Reordered placeSchema (some (partsSlot.element ⟨false⟩)) (some cellar)
      (some basement) := .of_perm rfl (by decide) (List.reverse_perm _).symm
  have parts : Reordered placeSchema (some partsSlot) (some (.array [cellar]))
      (some (.array [basement])) := by
    refine .elements rfl rfl fun pair inside => ?_
    obtain rfl := List.mem_singleton.mp inside
    exact part
  have reordered : Reordered placeSchema (some placeSlot) (some house) (some other) :=
    .object rfl (List.Perm.swap ..)
      (List.forall_mem_cons.2 ⟨.same, List.forall_mem_cons.2 ⟨parts, List.forall_mem_nil _⟩⟩)
  exact ⟨reordered, (key_order_does_not_show placeSchema reordered ["place"]).1, rfl, rfl⟩

end Arguments

end TypedQuery
