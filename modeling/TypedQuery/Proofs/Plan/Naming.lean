import TypedQuery.Proofs.Plan.Attribution

/-!
# Objections to names

A name that is selected in an object is unknown, or hidden, or it selects a field. Planning objects
to it in the first two cases, as `ObjectType.objection?` says, before anything else is done for the
name. In the third it goes on to the field, and nothing within the field leads to an objection to
its own name: planning the field keeps to the protocol `Scope.below`. Only a guard or a check of
arguments may word such an objection itself, and then it has been called. So what becomes of a name
is a matter of the fields of the object type alone.
-/

namespace TypedQuery

/-- The error objects to a name for what an object type says of it. -/
def Cause.OnName (cause : Cause) : Prop :=
  cause = .query .unknownField ∨ cause = .query .hiddenField

theorem Cause.not_onName_args (fault : ArgsFault) : ¬ (Cause.args fault).OnName := by
  rintro (⟨⟨⟩⟩ | ⟨⟨⟩⟩)

namespace Run

variable {ε α β : Type}

/-- A run that `Follows` a protocol keeps to any protocol that allows more. -/
theorem Follows.mono {protocol wider : Protocol} {run : Run Error α}
    (h : run.Follows protocol)
    (reports : ∀ event report, protocol.reports event report → wider.reports event report)
    (raises : ∀ error, protocol.raises error → wider.raises error) : run.Follows wider := by
  constructor
  · intro event shown
    obtain ⟨report, reported, ends⟩ := h.calls event shown
    exact ⟨report, reports event report reported, ends⟩
  · intro error failed
    obtain raised | ⟨event, shown, reported⟩ := h.fails error failed
    · exact .inl (raises error raised)
    · exact .inr ⟨event, shown, reports event (some error) reported⟩

theorem map_eq_fail_iff {f : α → β} {run : Run ε α} {error : ε} :
    f <$> run = .fail error ↔ run = .fail error := by
  obtain ⟨trace, outcome⟩ := run
  cases outcome with
  | error other => simp [← bind_pure_comp, bind_of_error, fail]
  | ok value => simp [← bind_pure_comp, bind_of_ok, fail]

/-- After a run that returns, a failure without any further call is a failure at once. -/
theorem bind_eq_error_iff {run : Run ε α} {value : α} (h : run.Returns value)
    {next : α → Run ε β} {error : ε} :
    run >>= next = ⟨run.trace, .error error⟩ ↔ next value = .fail error := by
  rw [bind_of_ok h, ext_iff, ext_iff]
  simp [fail]

/-- Objections at one path differ in what is wrong. -/
theorem fail_query_inj {fault other : QueryFault} {path : FieldPath} :
    (fail ((Error.query fault).withPath path) : Run Error α)
        = fail ((Error.query other).withPath path) ↔ fault = other := by
  constructor
  · rintro ⟨⟩
    rfl
  · rintro rfl
    rfl

end Run

namespace Scope

/-- Any calls are made, and all errors name the path or one further down. An objection to a name is
always further down. -/
def below (path : FieldPath) : Protocol where
  reports _ report := ∀ error, report = some error → error.path ≠ none
  raises error := ∃ tail, error.path = some (path ++ tail) ∧ (error.cause.OnName → tail ≠ [])

variable {scope : Scope} {path : FieldPath}

theorem below_regular : (below path).Regular where
  reports _ error reports := reports error rfl
  raises := by
    rintro error ⟨tail, named, _⟩
    rw [named]
    exact nofun
  parses _ _ _ := nofun

/-- Errors below a name are errors below the object in which the name is selected. -/
theorem follows_below_of_within {α : Type} {key : String} {run : Run Error α}
    (h : run.Follows (below (path ++ [key]))) : run.Follows (below path) := by
  refine h.mono (fun _ _ reports => reports) ?_
  rintro error ⟨tail, named, _⟩
  exact ⟨key :: tail, by rw [named, ← List.append_cons], fun _ => List.cons_ne_nil key tail⟩

theorem below_coversArgs (schema : Schema) (slot : Option Slot) :
    (below path).CoversArgs schema slot (path ++ [argsKey]) := by
  have refuses (keys : FieldPath) (fault : ArgsFault) :
      (below path).raises ((Error.args fault).withPath (path ++ keys)) :=
    ⟨keys, rfl, fun onName => absurd onName (Cause.not_onName_args fault)⟩
  refine ⟨fun fault _ => refuses [argsKey] fault, fun slot _ => ⟨?_, ?_, ?_⟩⟩
  · intro keys target _ fault _
    rw [List.append_assoc]
    exact refuses _ fault
  · intro keys target error _ unresolved
    obtain ⟨name, rfl⟩ := Schema.eq_unknownInput_of_resolveInput unresolved
    rw [List.append_assoc]
    exact refuses _ _
  · intro keys target type _ _ check _ members error reported
    exact Fault.path_reported_ne_none reported

/-- The protocol of a path, which is `below`, governs the site that stands there. -/
theorem below_governs (scope : Scope) (site : Site) : scope.Governs (below site.path) site where
  toAttributed := below_regular.toAttributed
  guard _ _ _ reported := Fault.path_reported_ne_none reported
  args := Arguments.follows_check below_regular (below_coversArgs _ _) _
  required := ⟨[argsKey], rfl, fun _ => List.cons_ne_nil argsKey []⟩
  unresolved := by
    intro error unresolved
    obtain ⟨name, rfl⟩ := Schema.eq_unknownObject_of_resolveOutput unresolved
    refine ⟨[], by rw [List.append_nil]; rfl, ?_⟩
    rintro (⟨⟨⟩⟩ | ⟨⟨⟩⟩)
  query := by
    intro fault own
    refine ⟨[], by rw [List.append_nil]; rfl, ?_⟩
    rintro (⟨⟨⟩⟩ | ⟨⟨⟩⟩) <;> simp at own
  key := fun key _ fault _ => ⟨[key], rfl, fun _ => List.cons_ne_nil key []⟩

/-- Whatever is planned for a field, the planner objects to no name but those selected in it. -/
theorem follows_below_select (query : Json) (definition : Definition) (path : FieldPath) :
    (scope.select query definition path).Follows (below path) :=
  follows_select_of_family below (fun _ _ _ => follows_below_of_within) query definition path
    fun site _ => below_governs scope site

theorem follows_below_selectFields (definition : Definition) (members : List (String × Json))
    (type : ObjectType) (plan : Bool) (path : FieldPath) :
    (scope.selectFields members type plan path).Follows (below path) := by
  have here : scope.Governs (below path) ⟨definition, .object members, path⟩ :=
    below_governs scope ⟨definition, .object members, path⟩
  refine here.follows_selectFields mem_keys_selection (fun member _ field _ => ?_) plan
  exact follows_below_of_within (follows_below_select member.2 (.field field) _)

/-- Before anything has been called, no field leads to an objection to its own name. -/
theorem select_ne_onName {query : Json} {definition : Definition} {fault : QueryFault}
    (onName : (Cause.query fault).OnName) :
    scope.select query definition path ≠ .fail ((Error.query fault).withPath path) := by
  intro failed
  have follows : (scope.select query definition path).Follows (below path) :=
    follows_below_select ..
  rw [failed] at follows
  obtain ⟨tail, named, further⟩ | ⟨event, shown, _⟩ := follows.fails _ rfl
  · have same : path = path ++ tail := Option.some.inj named
    exact further onName (List.self_eq_append_right.mp same)
  · cases shown

/-- The arguments of an object are passed over. -/
theorem selectFields_filter (members : List (String × Json)) (type : ObjectType) (plan : Bool)
    (path : FieldPath) :
    scope.selectFields (members.filter (·.1 ≠ argsKey)) type plan path
      = scope.selectFields members type plan path := by
  induction members with
  | nil => rfl
  | cons member members ih =>
      obtain ⟨key, query⟩ := member
      by_cases args : key = argsKey
      · rw [List.filter_cons_of_neg (by simpa using args), ih, selectFields, if_pos args]
      · rw [List.filter_cons_of_pos (by simpa using args), selectFields, selectFields, ih]

end Scope

/-- What is wrong with a name that is selected in an object of the type, if anything is. -/
def ObjectType.objection? (type : ObjectType) (key : String) : Option QueryFault :=
  match Entries.get? type.fields key with
  | none => some .unknownField
  | some field => if field.hidden then some .hiddenField else none

/-- There is nothing wrong with a name but that it is unknown or hidden, which is an objection that
is `OnName`. -/
theorem ObjectType.onName_of_objection? {type : ObjectType} {key : String} {fault : QueryFault}
    (objects : type.objection? key = some fault) : (Cause.query fault).OnName := by
  unfold objection? at objects
  split at objects
  · obtain rfl := Option.some.inj objects
    exact .inl rfl
  · split at objects
    · obtain rfl := Option.some.inj objects
      exact .inr rfl
    · cases objects

theorem ObjectType.objection?_eq_none_iff {type : ObjectType} {key : String} :
    type.objection? key = none ↔
      type.objection? key ≠ some .unknownField ∧ type.objection? key ≠ some .hiddenField := by
  unfold objection?
  split
  · simp
  · split <;> simp

namespace Scope

variable (scope : Scope)

/-- What goes before the fields that are selected in a field: its guard, and its arguments. -/
def enter (definition : Definition) (members : List (String × Json)) (path : FieldPath) :
    Run Error (Option Json) := Run.attachPath path do
  scope.askGuard definition.signature (.object members) path
  scope.takeArgs definition.signature (Entries.get? members argsKey) path

/-- Planning ends with the objection to a name that is selected in the field, and nothing is called
once the field has been entered. -/
def ObjectsTo (definition : Definition) (members : List (String × Json)) (path : FieldPath)
    (key : String) (fault : QueryFault) : Prop :=
  scope.select (.object members) definition path
    = ⟨(scope.enter definition members path).trace,
        .error ((Error.query fault).withPath (path ++ [key]))⟩

variable {scope} {definition : Definition} {members : List (String × Json)} {path : FieldPath}
  {type : ObjectType} {key : String} {query : Json}

theorem select_eq_enter_bind
    (resolved : scope.schema.resolveOutput definition.signature.type = .ok (.object type)) :
    scope.select (.object members) definition path
      = scope.enter definition members path >>= fun args => Run.attachPath path do
          let children ← scope.selectFields members type (scope.plansChildren definition) path
          return .branch definition type (members.filter (·.1 ≠ argsKey)) args children := by
  rw [select_of_object resolved, enter]
  simp only [Run.attachPath_bind, bind_assoc]

/-- The planner fails at a name that is selected alone in an object just if the type of the object
has that objection to it. -/
theorem selectFields_eq_fail_iff (name : key ≠ argsKey) {fault : QueryFault}
    (onName : (Cause.query fault).OnName) (plan : Bool) :
    scope.selectFields [(key, query)] type plan path
        = .fail ((Error.query fault).withPath (path ++ [key])) ↔
      type.objection? key = some fault := by
  have selects (field : Field) :
      (if plan then do
          let child ← scope.select query (.field field) (path ++ [key])
          let others ← scope.selectFields [] type plan path
          return (key, child) :: others
        else scope.selectFields [] type plan path)
        ≠ .fail ((Error.query fault).withPath (path ++ [key])) := by
    split
    · intro failed
      exact select_ne_onName onName (Run.map_eq_fail_iff.mp failed)
    · intro failed
      cases failed
  rw [selectFields, if_neg name, ObjectType.objection?]
  cases Entries.get? type.fields key with
  | none => exact Run.fail_query_inj.trans (Option.some.injEq ..).to_iff.symm
  | some field =>
      cases hidden : field.hidden with
      | true =>
          simp only [hidden, if_true]
          exact Run.fail_query_inj.trans (Option.some.injEq ..).to_iff.symm
      | false =>
          simp only [hidden, Bool.false_eq_true, if_false]
          refine iff_of_false (selects field) fun objects => ?_
          cases objects

/-- A field of object type that is entered leads to an objection to the one name that is selected in
it, just if its type has that objection to the name. -/
theorem objectsTo_iff
    (resolved : scope.schema.resolveOutput definition.signature.type = .ok (.object type))
    (only : members.filter (·.1 ≠ argsKey) = [(key, query)]) {args : Option Json}
    (entered : (scope.enter definition members path).Returns args) {fault : QueryFault}
    (onName : (Cause.query fault).OnName) :
    scope.ObjectsTo definition members path key fault ↔ type.objection? key = some fault := by
  have name : key ≠ argsKey := by
    have inside : (key, query) ∈ members.filter (·.1 ≠ argsKey) := only ▸ List.mem_singleton_self _
    simpa using (List.mem_filter.mp inside).2
  have fields : (scope.selectFields members type (scope.plansChildren definition) path).Follows
      (below path) := follows_below_selectFields definition members type _ path
  have alone : scope.selectFields members type (scope.plansChildren definition) path
      = scope.selectFields [(key, query)] type (scope.plansChildren definition) path := by
    rw [← selectFields_filter, only]
  have decided : scope.selectFields members type (scope.plansChildren definition) path
        = .fail ((Error.query fault).withPath (path ++ [key])) ↔
      type.objection? key = some fault :=
    alone ▸ selectFields_eq_fail_iff name onName (scope.plansChildren definition)
  rw [← decided, ObjectsTo, select_eq_enter_bind resolved, Run.bind_eq_error_iff entered,
    Run.attachPath_bind, fields.attachPath_eq below_regular.toAttributed]
  exact Run.map_eq_fail_iff

end Scope

end TypedQuery
