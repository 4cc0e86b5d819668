import TypedQuery.Proofs.Arguments.Positions

/-!
# Checking arguments position by position

A check of arguments walks through what the client has written, one position after the other. It
looks at a value in its slot before anything within it, at the elements of an array in their order,
and at the members of an object in the order in which its type declares them, present or not. Only
then does it look for undeclared members, and after that it asks the check of the whole object. So
every stage of `Arguments.check` is the inspection of its own positions in turn, as `Run.Inspecting`
says, and `arguments_are_refused_at_first_fault` tells where arguments are refused, and why.
-/

namespace TypedQuery

namespace Run

variable {α β : Type} {schema : Schema} {positions others : List Arguments.Position}

/-- What the run does is to look at the positions in turn, as `InspectsInTurn` says. -/
def Inspecting (schema : Schema) (positions : List Arguments.Position) (run : Run Error α) : Prop :=
  Arguments.InspectsInTurn schema positions run.trace run.failure?

theorem inspecting_pure (value : α) : (pure value : Run Error α).Inspecting schema [] := .nil

theorem Inspecting.bind {run : Run Error α} {next : α → Run Error β}
    (first : run.Inspecting schema positions)
    (second : ∀ value, run.Returns value → (next value).Inspecting schema others) :
    (run >>= next).Inspecting schema (positions ++ others) := by
  obtain ⟨trace, outcome⟩ := run
  cases outcome with
  | error error => exact first.append_of_wrong others
  | ok value =>
      rw [bind_of_ok rfl]
      exact first.append (second value rfl)

theorem Inspecting.map {run : Run Error α} (h : run.Inspecting schema positions) (f : α → β) :
    (f <$> run).Inspecting schema positions := by
  rw [← bind_pure_comp, ← List.append_nil positions]
  exact h.bind fun value _ => inspecting_pure (f value)

theorem inspecting_traverse {f : α → Run Error β} {listed : α → List Arguments.Position}
    {values : List α} (step : ∀ value ∈ values, (f value).Inspecting schema (listed value)) :
    (traverse f values).Inspecting schema (values.flatMap listed) := by
  induction values with
  | nil => exact inspecting_pure []
  | cons first rest ih =>
      obtain ⟨stepFirst, stepRest⟩ := List.forall_mem_cons.1 step
      rw [traverse_cons, List.flatMap_cons]
      refine stepFirst.bind fun _ _ => ?_
      exact (ih stepRest).map _

/-- What is wrong at a position is attributed already. -/
theorem Inspecting.attachPath {run : Run Error α} (h : run.Inspecting schema positions)
    (path : FieldPath) : (run.attachPath path).Inspecting schema positions := by
  obtain ⟨trace, outcome⟩ := run
  cases outcome with
  | ok value => exact h
  | error error =>
      have named : error.path ≠ none := h.path_ne_none
      rw [Inspecting, failure?_attachPath, trace_attachPath]
      show Arguments.InspectsInTurn schema positions trace (some (error.attachPath path))
      rw [Error.attachPath_of_path_ne_none named]
      exact h

end Run

namespace Arguments

variable {schema : Schema} {slot : Slot} {path : FieldPath}

/-- In a slot that expects no array, a value is parsed or read as it is. -/
theorem checkValue_of_no_array {value : Json} (null : value ≠ .null) (array : slot.array = none) :
    checkValue schema value slot path = Run.attachPath path
      (match schema.resolveInput slot.type with
        | .error error => .fail error
        | .ok (.scalar scalar) => parse scalar value
        | .ok (.input type) => (offer schema value).asInput type slot.nullable path) := by
  unfold checkValue Offer.check
  rw [offer_value, array]
  split
  · exact absurd rfl null
  · cases schema.resolveInput slot.type with
    | error error => rfl
    | ok type => cases type <;> rfl
  · rfl

theorem accept_of_no_array {value : Json} (null : value ≠ .null) (array : slot.array = none) :
    accept schema slot (some value) = (schema.resolveInput slot.type).map fun _ => () := by
  cases value with
  | null => exact absurd rfl null
  | array => rfl
  | bool | number | string | object => simp [accept, array]

/-- In a slot that expects an array, nothing else is accepted. -/
theorem checkValue_of_array {value : Json} {rule : ArrayRule} (null : value ≠ .null)
    (array : slot.array = some rule) (other : ∀ elements, value ≠ .array elements) :
    checkValue schema value slot path
      = Run.attachPath path (.fail (.args (.notArray slot.nullable))) := by
  unfold checkValue Offer.check
  rw [offer_value]
  cases value with
  | null => exact absurd rfl null
  | array elements => exact absurd rfl (other elements)
  | bool | number | string | object => simp [array]

theorem accept_of_array {value : Json} {rule : ArrayRule} (null : value ≠ .null)
    (array : slot.array = some rule) (other : ∀ elements, value ≠ .array elements) :
    accept schema slot (some value) = .error (.args (.notArray slot.nullable)) := by
  cases value with
  | null => exact absurd rfl null
  | array elements => exact absurd rfl (other elements)
  | bool | number | string | object => simp [accept, array]

/-- An element is checked as it is read, since nulls have been dealt with by then. -/
theorem checkValue_element {rule : ArrayRule} {element : Json}
    (allowed : element = .null → rule.nullElements = true) :
    checkValue schema element (slot.element rule) path = Run.attachPath path
      (match schema.resolveInput slot.type with
        | .error error => if element.isNull then pure .null else .fail error
        | .ok (.scalar scalar) => parseElement scalar element
        | .ok (.input type) => (offer schema element).asInput type rule.nullElements path) := by
  by_cases null : element = .null
  · subst null
    have nullable := allowed rfl
    unfold checkValue Offer.check
    simp only [offer_value, Slot.nullable_element, nullable, if_true]
    split <;> rfl
  · rw [checkValue_of_no_array null (slot.array_element rule), Slot.type_element]
    have value : element.isNull = false := by simpa using null
    split <;> simp [parseElement, value]

/-- Ways to read the elements that differ on nulls alone make no difference. -/
theorem attachPath_array {rule : ArrayRule} {elements : List Json}
    {read other : Json → Run Error Json}
    (alike : ∀ element ∈ elements, (element = .null → rule.nullElements = true) →
      (read element).attachPath path = (other element).attachPath path) :
    Run.attachPath path (do
        checkNulls rule elements
        return Json.array (← Run.traverse read elements))
      = Run.attachPath path (do
        checkNulls rule elements
        return Json.array (← Run.traverse other elements)) := by
  simp only [Run.attachPath_bind, Run.attachPath_traverse]
  refine Run.bind_congr_of_returns fun _ passed => ?_
  have allowed : rule.Allows elements := returns_checkNulls.mp (Run.returns_attachPath.mp passed)
  have same (element : Json) (inside : element ∈ elements) :
      (read element).attachPath path = (other element).attachPath path := by
    refine alike element inside ?_
    rintro rfl
    exact allowed.resolve_right fun absent => absent inside
  rw [Run.traverse_congr (List.forall₂_same.mpr same)]

/-- In a slot that expects an array, an array is checked element by element. -/
theorem checkValue_array {rule : ArrayRule} (array : slot.array = some rule)
    (elements : List Json) :
    checkValue schema (.array elements) slot path
      = Run.attachPath path (do
          let _ ← Run.ofExcept (schema.resolveInput slot.type)
          checkNulls rule elements
          return .array (← Run.traverse
            (fun element => checkValue schema element (slot.element rule) path) elements)) := by
  rw [checkValue, Offer.check, offer_value]
  dsimp only
  cases resolved : schema.resolveInput slot.type with
  | error error => rfl
  | ok type =>
      rw [Run.ofExcept_ok, pure_bind]
      cases type with
      | scalar scalar =>
          dsimp only
          rw [array]
          refine attachPath_array fun element _ allowed => ?_
          rw [checkValue_element allowed, resolved, Run.attachPath_attachPath]
      | input type =>
          dsimp only
          rw [array, offer, offerElements_eq_map]
          dsimp only
          rw [Run.traverse_map]
          refine attachPath_array fun element _ allowed => ?_
          rw [checkValue_element allowed, resolved, Run.attachPath_attachPath]

/-- What a slot refuses, it refuses in words of its own. -/
theorem exists_fault_of_accept {args : Option Json} {error : Error}
    (refused : accept schema slot args = .error error) :
    ∃ fault, error = .args fault ∧ ∀ keys, fault ≠ .unknownKeys keys := by
  have unresolved (refused : (schema.resolveInput slot.type).map (fun _ => ()) = .error error) :
      ∃ fault, error = .args fault ∧ ∀ keys, fault ≠ .unknownKeys keys := by
    cases resolved : schema.resolveInput slot.type with
    | ok type =>
        rw [resolved] at refused
        cases refused
    | error missing =>
        rw [resolved] at refused
        cases refused
        obtain ⟨name, rfl⟩ := Schema.eq_unknownInput_of_resolveInput resolved
        exact ⟨_, rfl, by simp⟩
  unfold accept at refused
  split at refused
  · split at refused <;> cases refused
    exact ⟨_, rfl, by simp⟩
  · split at refused <;> cases refused
    exact ⟨_, rfl, by simp⟩
  · exact unresolved refused
  · split at refused
    · cases refused
      exact ⟨_, rfl, by simp⟩
    · exact unresolved refused

theorem inspecting_refused {α : Type} {args : Option Json} {error : Error}
    (refused : accept schema slot args = .error error) :
    ((Run.fail error : Run Error α).attachPath path).Inspecting schema
      [⟨path, .slot slot args⟩] := by
  obtain ⟨fault, rfl, _⟩ := exists_fault_of_accept refused
  exact .singleton (.refused refused)

theorem inspecting_checkNulls (rule : ArrayRule) (elements : List Json) :
    ((checkNulls rule elements).attachPath path).Inspecting schema
      [⟨path, .nulls rule elements⟩] := by
  unfold checkNulls
  split
  next refused =>
    obtain ⟨strict, held⟩ := Bool.and_eq_true_iff.mp refused
    exact .singleton (.nullElement (by simpa using strict) (Json.any_isNull_eq_true_iff.mp held))
  next allowed =>
    exact .singleton (.nullsAllowed (ArrayRule.allows_iff.mpr (Bool.not_eq_true _ ▸ allowed)))

theorem inspecting_parse (scalar : Scalar) (value : Json) :
    ((parse scalar value).attachPath path).Inspecting schema [⟨path, .parse scalar value⟩] := by
  unfold parse
  cases declared : scalar.parse with
  | none => exact .singleton (.verbatim declared)
  | some parse =>
      apply InspectsInTurn.singleton
      dsimp only
      rw [Run.trace_attachPath, Run.trace_mapError, Run.failure?_attachPath,
        Run.failure?_mapError, Option.map_map]
      exact .parse declared

/-- The check of the whole object is asked about the normal form of its members. -/
theorem inspecting_checkWhole {type : InputType} {members read : List (String × Json)}
    (normal : NormalizesFields schema path members type.fields read) :
    ((checkWhole type read path).attachPath path).Inspecting schema
      [⟨path, .whole type members⟩] := by
  unfold checkWhole
  cases declared : type.check with
  | none => exact .singleton (.unchecked declared)
  | some check =>
      apply InspectsInTurn.singleton
      dsimp only
      rw [Run.trace_attachPath, Run.trace_recover, Run.failure?_attachPath,
        Run.failure?_recover, Option.map_map]
      exact .whole declared normal

/-- To check the value is to look at its `positions` in turn. -/
def ChecksInTurn (schema : Schema) (value : Json) : Prop :=
  ∀ slot path, (checkValue schema value slot path).Inspecting schema
    (positions schema value slot path)

theorem checksInTurn_null : ChecksInTurn schema .null := by
  intro slot path
  rw [positions, checkValue, Offer.check, offer_value]
  dsimp only
  split
  next nullable => exact .singleton (.accepted (if_pos nullable))
  next strict => exact inspecting_refused (if_neg strict)

/-- A value is parsed, or found to be no object, behind its slot. -/
theorem inspecting_single {value : Json} (null : value ≠ .null)
    (other : slot.array = none ∨ ∀ elements, value ≠ .array elements)
    (reads : ∀ type, slot.array = none → schema.resolveInput slot.type = .ok (.input type) →
      value.members? = none ∧ (offer schema value).asInput = notObject) :
    (checkValue schema value slot path).Inspecting schema (single schema value slot path) := by
  unfold single
  cases array : slot.array with
  | some rule =>
      have noArray := other.resolve_left (by simp [array])
      rw [checkValue_of_array null array noArray]
      exact inspecting_refused (accept_of_array null array noArray)
  | none =>
      have accepts : accept schema slot (some value)
          = (schema.resolveInput slot.type).map fun _ => () := accept_of_no_array null array
      rw [checkValue_of_no_array null array]
      cases resolved : schema.resolveInput slot.type with
      | error error =>
          rw [resolved] at accepts
          exact inspecting_refused accepts
      | ok type =>
          rw [resolved] at accepts
          cases type with
          | scalar scalar => exact .right (.accepted accepts) (inspecting_parse scalar value)
          | input type =>
              obtain ⟨noObject, reads⟩ := reads type array resolved
              dsimp only
              rw [reads]
              exact .right (.accepted accepts) (.singleton (.notObject noObject))

theorem checksInTurn_of_no_object {value : Json} (null : value ≠ .null)
    (noArray : ∀ elements, value ≠ .array elements) (noObject : value.members? = none)
    (reads : (offer schema value).asInput = notObject)
    (alone : ∀ slot path, positions schema value slot path = single schema value slot path) :
    ChecksInTurn schema value := by
  intro slot path
  rw [alone]
  exact inspecting_single null (.inr noArray) fun _ _ _ => ⟨noObject, reads⟩

theorem inspecting_slot_array (elements : List Json) :
    ((Run.ofExcept (schema.resolveInput slot.type)).attachPath path).Inspecting schema
      [⟨path, .slot slot (some (.array elements))⟩] := by
  have accepts : accept schema slot (some (.array elements))
      = (schema.resolveInput slot.type).map fun _ => () := rfl
  cases resolved : schema.resolveInput slot.type with
  | error error =>
      rw [resolved] at accepts
      exact inspecting_refused accepts
  | ok type =>
      rw [resolved] at accepts
      exact .singleton (.accepted accepts)

theorem checksInTurn_array {elements : List Json}
    (ih : ∀ element ∈ elements, ChecksInTurn schema element) :
    ChecksInTurn schema (.array elements) := by
  intro slot path
  cases array : slot.array with
  | none =>
      rw [positions, array]
      exact inspecting_single (by simp) (.inl array) fun _ _ _ => ⟨rfl, rfl⟩
  | some rule =>
      rw [checkValue_array array, positions_array array, Run.attachPath_bind]
      refine (inspecting_slot_array elements).bind fun _ _ => ?_
      rw [Run.attachPath_bind]
      refine (inspecting_checkNulls rule elements).bind fun _ _ => ?_
      refine Run.Inspecting.attachPath ?_ path
      refine (Run.inspecting_traverse fun element inside => ?_).map _
      exact ih element inside (slot.element rule) path

theorem inspecting_check_slot {args : Option Json}
    (checks : ∀ value, args = some value → ChecksInTurn schema value) :
    (check schema args (some slot) path).Inspecting schema
      (argsPositions schema args (some slot) path) := by
  cases args with
  | none =>
      rw [argsPositions, check, checkAbsent]
      split
      next required => exact .singleton (.refused (if_pos required))
      next optional => exact .singleton (.accepted (if_neg optional))
  | some value =>
      rw [argsPositions, check]
      exact (checks value rfl slot path).map some

/-- The declared members are checked in the order of declaration, present or not. -/
theorem inspecting_checkFields {members : List (String × Json)}
    (ih : ∀ member ∈ members, ChecksInTurn schema member.2) (fields : List (String × Slot)) :
    (checkFields schema (offerMembers schema members) path fields).Inspecting schema
      (fields.flatMap fun field => argsPositions schema
        (Entries.get? members field.1) (some field.2) (path ++ [field.1])) := by
  induction fields with
  | nil => exact Run.inspecting_pure []
  | cons field fields ihFields =>
      obtain ⟨key, slot⟩ := field
      have held (value : Json) (found : Entries.get? members key = some value) :
          ChecksInTurn schema value := ih _ (Entries.mem_of_get?_eq_some found)
      rw [checkFields_cons, List.flatMap_cons]
      exact (inspecting_check_slot held).bind fun _ _ => ihFields.map _

theorem readObject_eq (members : List (String × Json)) (type : InputType) (nullable : Bool)
    (path : FieldPath) :
    readObject schema (offerMembers schema members) type nullable path = do
      let read ← checkFields schema (offerMembers schema members) path type.fields
      if type.undeclared members ≠ [] then .fail (.args (.unknownKeys (type.undeclared members)))
      checkWhole type read path
      return .object read := by
  rw [readObject, keys_offerMembers]
  rfl

/-- An object is read at its members, and then at the two positions of the object as a whole. -/
theorem inspecting_readObject {members : List (String × Json)}
    (ih : ∀ member ∈ members, ChecksInTurn schema member.2) (type : InputType)
    (nullable : Bool) (path : FieldPath) :
    ((readObject schema (offerMembers schema members) type nullable path).attachPath
      path).Inspecting schema
        ((type.fields.flatMap fun field => argsPositions schema
          (Entries.get? members field.1) (some field.2) (path ++ [field.1])) ++
          [⟨path, .undeclared type members⟩, ⟨path, .whole type members⟩]) := by
  have checks (member : String × Json) (_ : member ∈ members) : ChecksByRule schema member.2 :=
    (byRule schema member.2).2
  rw [readObject_eq, Run.attachPath_bind]
  refine ((inspecting_checkFields ih type.fields).attachPath path).bind fun read returned => ?_
  have normal : NormalizesFields schema path members type.fields read :=
    (returns_checkFields checks).mp (Run.returns_attachPath.mp returned)
  split
  next unknown => exact .wrong (.undeclared unknown)
  next known =>
    rw [Run.attachPath_bind]
    refine .right (.declared (not_not.mp known)) ?_
    exact (inspecting_checkWhole normal).bind fun _ _ => Run.inspecting_pure (Json.object read)

theorem checksInTurn_object {members : List (String × Json)}
    (ih : ∀ member ∈ members, ChecksInTurn schema member.2) :
    ChecksInTurn schema (.object members) := by
  intro slot path
  have null : Json.object members ≠ .null := by simp
  by_cases read : ∃ type, slot.array = none ∧ schema.resolveInput slot.type = .ok (.input type)
  · obtain ⟨type, array, resolved⟩ := read
    have accepts : accept schema slot (some (.object members)) = .ok () := by
      rw [accept_of_no_array null array, resolved]
      rfl
    rw [checkValue_of_no_array null array, positions_object array resolved, resolved]
    refine .right (.accepted accepts) (.right .object ?_)
    exact inspecting_readObject ih type slot.nullable path
  · have alone : positions schema (.object members) slot path
        = single schema (.object members) slot path := by
      rw [positions]
      split
      next type array resolved => exact absurd ⟨type, array, resolved⟩ read
      next => exact List.append_nil _
    rw [alone]
    exact inspecting_single null (.inr (by simp)) fun type array resolved =>
      absurd ⟨type, array, resolved⟩ read

/-- Every value is checked in turn. -/
theorem checksInTurn (schema : Schema) (value : Json) : ChecksInTurn schema value := by
  induction value with
  | null => exact checksInTurn_null
  | bool | number | string =>
      exact checksInTurn_of_no_object (by simp) (by simp) rfl rfl fun _ _ => rfl
  | array elements ih => exact checksInTurn_array ih
  | object members ih => exact checksInTurn_object ih

/-- `Arguments.check` is the inspection of the positions of the arguments, one after the other. -/
theorem inspecting_check (schema : Schema) (args : Option Json) (slot : Option Slot)
    (path : FieldPath) :
    (check schema args slot path).Inspecting schema (argsPositions schema args slot path) := by
  cases slot with
  | some slot => exact inspecting_check_slot fun value _ => checksInTurn schema value
  | none =>
      rw [argsPositions]
      cases args with
      | none => exact .singleton (.nothing (.inl rfl))
      | some value =>
          rw [check]
          split
          next null => exact .singleton (.nothing (.inr (by simpa using null)))
          next other => exact .singleton (.unexpected (by simpa using other))

/-- How names come to be listed as unknown at a position: the object there bears them, in that
order, and its type does not declare them; or the check of its type, which may raise whatever it
likes, has raised the error. -/
inductive RaisesUnknown (schema : Schema) : Position → (keys : List String) → Error → Prop
  | undeclared {path type members} :
      RaisesUnknown schema ⟨path, .undeclared type members⟩ (type.undeclared members)
        ((Error.args (.unknownKeys (type.undeclared members))).withPath path)
  | whole {path type members keys check read fault} : type.check = some check →
      NormalizesFields schema path members type.fields read →
      (check read path).outcome = .error fault →
      RaisesUnknown schema ⟨path, .whole type members⟩ keys (fault.reported path)

theorem raisesUnknown_of_inspects {position : Position} {shown : List Event} {error : Error}
    {keys : List String} (h : Inspects schema position shown (some error))
    (unknown : error.cause = .args (.unknownKeys keys)) :
    RaisesUnknown schema position keys error := by
  generalize found : some error = wrong at h
  cases h with
  | nothing | accepted | nullsAllowed | verbatim | object | declared | unchecked => cases found
  | unexpected | nullElement | notObject =>
      cases found
      cases unknown
  | refused refused =>
      cases found
      obtain ⟨fault, rfl, other⟩ := exists_fault_of_accept refused
      exact absurd (Cause.args.inj unknown) (other keys)
  | parse =>
      obtain ⟨fault, _, rfl⟩ := Option.map_eq_some_iff.mp found.symm
      cases unknown
  | undeclared =>
      cases found
      cases unknown
      exact .undeclared
  | whole declared normal =>
      obtain ⟨fault, failed, rfl⟩ := Option.map_eq_some_iff.mp found.symm
      exact .whole declared normal (Run.failure?_eq_some_iff.mp failed)

/-- Nothing is wrong at the position. -/
def Passes (schema : Schema) (position : Position) : Prop :=
  ∃ shown, Inspects schema position shown none

/-- A check that goes through the positions comes to this one, behind those before it, at which
nothing is wrong. -/
def Visits (schema : Schema) (positions before : List Position) (position : Position) : Prop :=
  (∃ after, positions = before ++ position :: after) ∧ ∀ earlier ∈ before, Passes schema earlier

/-- A check of arguments goes through `argsPositions` and stops at the first at which anything is
wrong, as `Inspects` tells. -/
structure StopsAtFirst (schema : Schema) (args : Option Json) (slot : Option Slot)
    (path : FieldPath) : Prop where
  /-- Arguments pass if nothing is wrong at any position. -/
  passes : (∃ out, (check schema args slot path).outcome = .ok out) ↔
    ∀ position ∈ argsPositions schema args slot path, Passes schema position
  /-- They are refused for what is wrong at the first position where anything is wrong. -/
  refuses : ∀ error, (check schema args slot path).outcome = .error error ↔
    ∃ before position, Visits schema (argsPositions schema args slot path) before position ∧
      ∃ shown, Inspects schema position shown (some error)
  /-- The callbacks are called up to there, and none after that. -/
  stops : ∀ before position after traces shown error,
    argsPositions schema args slot path = before ++ position :: after →
    List.Forall₂ (fun earlier trace => Inspects schema earlier trace none) before traces →
    Inspects schema position shown (some error) →
      (check schema args slot path).trace = traces.flatten ++ shown
  /-- An object with undeclared members is never let pass. -/
  undeclared : ∀ position ∈ argsPositions schema args slot path, ∀ type members,
    position.inspection = .undeclared type members → type.undeclared members ≠ [] →
      ∃ error, (check schema args slot path).outcome = .error error
  /-- Unknown names are listed for the members of one object, at the path of that object. -/
  unknown : ∀ error keys, (check schema args slot path).outcome = .error error →
    error.cause = .args (.unknownKeys keys) →
      ∃ before position, Visits schema (argsPositions schema args slot path) before position ∧
        RaisesUnknown schema position keys error

/-- Arguments are refused at the first position, in the order of declaration, at which they are
wrong, and undeclared members are always wrong. -/
theorem arguments_are_refused_at_first_fault (schema : Schema) (args : Option Json)
    (slot : Option Slot) (path : FieldPath) : StopsAtFirst schema args slot path := by
  have walk := inspecting_check schema args slot path
  have passes : (∃ out, (check schema args slot path).outcome = .ok out) ↔
      ∀ position ∈ argsPositions schema args slot path, Passes schema position := by
    rw [← Run.failure?_eq_none_iff]
    constructor
    · intro passed position inside
      rw [Run.Inspecting, passed] at walk
      obtain ⟨traces, each⟩ := walk.forall₂
      obtain ⟨shown, _, inspects⟩ := exists_of_mem_left each inside
      exact ⟨shown, inspects⟩
    · intro pass
      obtain ⟨traces, each⟩ := exists_forall₂ pass
      exact (walk.unique (.of_forall₂ each)).2
  -- The positions up to the first at which anything is wrong settle the run.
  have reaches {before after : List Position} {position : Position} {traces : List (List Event)}
      {shown : List Event} {error : Error}
      (split : argsPositions schema args slot path = before ++ position :: after)
      (pass : List.Forall₂ (fun earlier trace => Inspects schema earlier trace none) before traces)
      (wrong : Inspects schema position shown (some error)) :
      (check schema args slot path).trace = traces.flatten ++ shown ∧
        (check schema args slot path).failure? = some error :=
    (split ▸ walk).unique ((InspectsInTurn.of_forall₂ pass).append (.wrong wrong))
  have refuses (error : Error) : (check schema args slot path).outcome = .error error ↔
      ∃ before position, Visits schema (argsPositions schema args slot path) before position ∧
        ∃ shown, Inspects schema position shown (some error) := by
    rw [← Run.failure?_eq_some_iff]
    constructor
    · intro failed
      rw [Run.Inspecting, failed] at walk
      obtain ⟨before, position, after, traces, shown, split, pass, wrong⟩ := walk.exists_first
      refine ⟨before, position, ⟨⟨after, split⟩, fun earlier inside => ?_⟩, shown, wrong⟩
      obtain ⟨shown, _, inspects⟩ := exists_of_mem_left pass inside
      exact ⟨shown, inspects⟩
    · rintro ⟨before, position, ⟨⟨after, split⟩, pass⟩, shown, wrong⟩
      obtain ⟨traces, each⟩ := exists_forall₂ pass
      exact (reaches split each wrong).2
  refine ⟨passes, refuses, ?stops, ?undeclared, ?unknown⟩
  case stops =>
    intro before position after traces shown error split pass wrong
    exact (reaches split pass wrong).1
  case undeclared =>
    intro position inside type members looks unknown
    rw [Run.fails_iff]
    intro passed
    obtain ⟨path, inspection⟩ := position
    obtain rfl : inspection = .undeclared type members := looks
    obtain ⟨shown, inspects⟩ := passes.mp passed _ inside
    cases (inspects.unique (.undeclared unknown)).2
  case unknown =>
    intro error keys failed unknown
    obtain ⟨before, position, visits, shown, wrong⟩ := (refuses error).mp failed
    exact ⟨before, position, visits, raisesUnknown_of_inspects wrong unknown⟩

/-- Of several faults the one in the member that is declared first counts, though that member is
absent and the others are written. -/
example :
    let day : InputRef := .scalar { name := "day" }
    let span : InputType :=
      { name := "span"
        fields := [("from", { type := day, required := true }), ("to", { type := day })] }
    let args : Json := .object [("until", .null), ("to", .null)]
    (check {} (some args) (some { type := .input span }) ["span"]).outcome
      = .error ((Error.args .required).withPath ["span", "from"]) := rfl

end Arguments

end TypedQuery
