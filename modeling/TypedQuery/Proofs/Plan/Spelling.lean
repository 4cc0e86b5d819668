import TypedQuery.Proofs.Json.Sameness
import TypedQuery.Proofs.Plan.Grammar
import TypedQuery.Schema.BaseScalars

/-!
# Two spellings of a leaf

A leaf without arguments is selected by the marker or by an empty object. The marker is held against
the slot of the field before any argument is looked at, while an empty object is found to hold no
argument and goes through the check of the arguments. Both come to the same: required arguments are
missed at the path of the arguments, and nothing else is amiss. So a document may be `Respelled`
either way at each of its leaves. Its plan, or the first objection to it, is the same, as far as the
plan does not quote what the client wrote, which `Plan.unquoted` leaves out.
-/

namespace TypedQuery

/-- The value selects a leaf and gives it no arguments. -/
def Json.SpellsLeaf (query marker : Json) : Prop :=
  query.same marker = true ∨ query = .object []

/-- The field that is declared under a name, be it hidden. The name of the arguments is not that of
a field. -/
def ObjectType.declared? (type : ObjectType) (key : String) : Option Field :=
  if key = argsKey then none else Entries.get? type.fields key

/-- What is selected, by `ObjectType.selectable?`, is declared. -/
theorem ObjectType.declared?_of_selectable? {type : ObjectType} {key : String} {field : Field}
    (h : type.selectable? key = some field) : type.declared? key = some field := by
  obtain ⟨noArgs, held, _⟩ := selectable?_eq_some_iff.mp h
  rw [declared?, if_neg noArgs, held]

/-- The two documents differ at most in how they spell scalar fields, at any depth. -/
inductive Schema.Respelled (schema : Schema) (marker : Json) : Definition → Json → Json → Prop
  | same {definition query} : Respelled schema marker definition query query
  | leaf {definition scalar query other} :
      schema.resolveOutput definition.signature.type = .ok (.scalar scalar) →
      query.SpellsLeaf marker → other.SpellsLeaf marker →
      Respelled schema marker definition query other
  /-- Members have the same names in the same order. What stands for no field is the same. -/
  | object {definition type members others} :
      schema.resolveOutput definition.signature.type = .ok (.object type) →
      members.length = others.length →
      (∀ pair ∈ members.zip others, pair.1.1 = pair.2.1) →
      (∀ pair ∈ members.zip others, type.declared? pair.1.1 = none → pair.1.2 = pair.2.2) →
      (∀ pair ∈ members.zip others, ∀ field, type.declared? pair.1.1 = some field →
        Respelled schema marker (.field field) pair.1.2 pair.2.2) →
      Respelled schema marker definition (.object members) (.object others)

/-- Objects are spelled in two ways if their members are, under names that are all declared. -/
theorem Schema.Respelled.of_declared {schema : Schema} {marker : Json} {definition : Definition}
    {type : ObjectType} {members others : List (String × Json)}
    (resolved : schema.resolveOutput definition.signature.type = .ok (.object type))
    (h : List.Forall₂ (fun member other => member.1 = other.1 ∧ ∃ field,
      type.declared? member.1 = some field ∧
        schema.Respelled marker (.field field) member.2 other.2) members others) :
    schema.Respelled marker definition (.object members) (.object others) := by
  obtain ⟨length, paired⟩ := List.forall₂_iff_zip.mp h
  refine .object resolved length (fun pair inside => (paired inside).1) ?_ ?_
  · intro pair inside undeclared
    obtain ⟨_, field, declared, _⟩ := paired inside
    cases undeclared.symm.trans declared
  · intro pair inside field declared
    obtain ⟨_, field', declared', respelled⟩ := paired inside
    obtain rfl := Option.some.inj (declared'.symm.trans declared)
    exact respelled

namespace Plan

mutual

/-- The plan with nothing left of the values that the client wrote for its fields. The arguments
are not among them, and the names stay. -/
def unquoted : Plan → Plan
  | .leaf definition scalar args => .leaf definition scalar args
  | .branch definition type selection args children =>
    .branch definition type (selection.map fun member => (member.1, .null)) args
      (unquotedChildren children)
termination_by structural plan => plan

def unquotedChildren : (children : List (String × Plan)) → List (String × Plan)
  | [] => []
  | (key, child) :: rest => (key, child.unquoted) :: unquotedChildren rest
termination_by structural children => children

end

end Plan

namespace Scope

variable {scope : Scope}

/-- No field that the document selects has a guard that is asked. -/
def Unguarded (scope : Scope) (query : Json) (definition : Definition) (path : FieldPath) : Prop :=
  ∀ site ∈ scope.schema.sites query definition path,
    scope.options.runGuards = true → site.definition.signature.guard = none

theorem askGuard_of_unguarded {query : Json} {definition : Definition} {path : FieldPath}
    (unguarded : scope.Unguarded query definition path) (shown : Json) :
    scope.askGuard definition.signature shown path = pure () := by
  have free : scope.options.runGuards = true → definition.signature.guard = none :=
    unguarded _ (scope.schema.self_mem_sites ..)
  rw [askGuard]
  cases declared : definition.signature.guard with
  | none => rfl
  | some guard =>
      refine if_neg fun asked => ?_
      cases (free asked).symm.trans declared

theorem selectLeaf_nil (definition : Definition) (scalar : Scalar) (path : FieldPath) :
    scope.selectLeaf definition scalar [] path = (do
      return .leaf definition scalar (← scope.takeArgs definition.signature none path)) := rfl

section Leaf

variable (checks : scope.options.checkArgs = true)
include checks

/-- Required arguments are missed at the path of the arguments. -/
theorem takeArgs_none_of_required {signature : Signature}
    (required : signature.args.any (·.required) = true) (path : FieldPath) :
    scope.takeArgs signature none path
      = .fail ((Error.args .required).withPath (path ++ [argsKey])) := by
  rw [takeArgs_eq checks]
  cases declared : signature.args with
  | none =>
      rw [declared] at required
      cases required
  | some slot =>
      rw [declared] at required
      exact if_pos required

/-- The marker misses required arguments just as an object without arguments does. -/
theorem selectMarked_eq_selectLeaf (definition : Definition) (scalar : Scalar) (path : FieldPath) :
    scope.selectMarked definition (.scalar scalar) path
      = scope.selectLeaf definition scalar [] path := by
  rw [selectLeaf_nil]
  cases required : definition.signature.args.any (·.required) with
  | true =>
      rw [takeArgs_none_of_required checks required, Run.fail_bind]
      exact if_pos required
  | false => exact if_neg (Bool.eq_false_iff.mp required)

variable (noObject : scope.marker.members? = none)
include noObject

/-- Either spelling of a leaf is planned as an object without arguments, by `selectLeaf`. -/
theorem select_of_spellsLeaf {query : Json} (spells : query.SpellsLeaf scope.marker)
    {definition : Definition} {scalar : Scalar}
    (resolved : scope.schema.resolveOutput definition.signature.type = .ok (.scalar scalar))
    {path : FieldPath}
    (unasked : ∀ shown, scope.askGuard definition.signature shown path = pure ()) :
    scope.select query definition path
      = (scope.selectLeaf definition scalar [] path).attachPath path := by
  obtain marked | rfl := spells
  · rw [select_of_members?_eq_none (Json.members?_eq_none_of_same noObject marked), unasked,
      resolved, Run.ofExcept_ok, pure_bind, pure_bind, if_pos marked,
      selectMarked_eq_selectLeaf checks]
  · rw [select_of_scalar resolved, unasked, pure_bind]

end Leaf

/-- A member of a selection and another one of its name come to the same plan, or to the same
objection, up to what is quoted. -/
structure PlannedAlike (scope : Scope) (type : ObjectType) (path : FieldPath)
    (member other : String × Json) : Prop where
  key : member.1 = other.1
  args : member.1 = argsKey → member.2 = other.2
  field : ∀ field, type.selectable? member.1 = some field →
    Plan.unquoted <$> scope.select member.2 (.field field) (path ++ [member.1])
      = Plan.unquoted <$> scope.select other.2 (.field field) (path ++ [member.1])

theorem unquoted_selectFields_cons {type : ObjectType} {key : String} {field : Field}
    (h : type.selectable? key = some field) (query : Json) (rest : List (String × Json))
    (path : FieldPath) :
    Plan.unquotedChildren <$> scope.selectFields ((key, query) :: rest) type true path = (do
      let child ← Plan.unquoted <$> scope.select query (.field field) (path ++ [key])
      let others ← Plan.unquotedChildren <$> scope.selectFields rest type true path
      return (key, child) :: others) := by
  rw [selectFields_cons_selectable h, map_bind, bind_map_left]
  refine bind_congr fun child => ?_
  rw [map_bind, bind_map_left]
  rfl

section Members

variable {type : ObjectType} {path : FieldPath} {members others : List (String × Json)}
variable (alike : List.Forall₂ (scope.PlannedAlike type path) members others)
include alike

theorem get?_argsKey_of_plannedAlike :
    Entries.get? members argsKey = Entries.get? others argsKey := by
  induction alike with
  | nil => rfl
  | @cons member other _ _ first _ ih =>
      obtain ⟨key, query⟩ := member
      obtain ⟨key', query'⟩ := other
      obtain rfl : key = key' := first.key
      rw [Entries.get?_cons, Entries.get?_cons]
      split
      next args => exact congrArg some (first.args args)
      next => exact ih

/-- What is left of the quoted selection is the names. -/
theorem unquoted_selection_of_plannedAlike :
    ((members.filter (·.1 ≠ argsKey)).map fun member => (member.1, Json.null))
      = (others.filter (·.1 ≠ argsKey)).map fun member => (member.1, Json.null) := by
  induction alike with
  | nil => rfl
  | @cons member other _ _ first _ ih =>
      rw [List.filter_cons, List.filter_cons, first.key]
      split
      · rw [List.map_cons, List.map_cons, ih, first.key]
      · exact ih

theorem unquoted_selectFields_of_plannedAlike (plan : Bool) :
    Plan.unquotedChildren <$> scope.selectFields members type plan path
      = Plan.unquotedChildren <$> scope.selectFields others type plan path := by
  induction alike with
  | nil => rfl
  | @cons member other members others first _ ih =>
      obtain ⟨key, query⟩ := member
      obtain ⟨key', query'⟩ := other
      obtain rfl : key = key' := first.key
      by_cases args : key = argsKey
      · subst args
        rw [selectFields_cons_argsKey, selectFields_cons_argsKey, ih]
      · cases selected : type.selectable? key with
        | none =>
            obtain ⟨error, refused⟩ := scope.exists_refusal args selected plan path
            rw [refused, refused]
        | some field =>
            cases plan with
            | false =>
                rw [selectFields_cons_unplanned selected, selectFields_cons_unplanned selected, ih]
            | true =>
                rw [unquoted_selectFields_cons selected, unquoted_selectFields_cons selected, ih,
                  first.field field selected]

end Members

/-- An object field is planned with what `Plan.unquoted` leaves of its selection. -/
theorem unquoted_select_of_object {definition : Definition} {type : ObjectType}
    (resolved : scope.schema.resolveOutput definition.signature.type = .ok (.object type))
    (members : List (String × Json)) (path : FieldPath) :
    Plan.unquoted <$> scope.select (.object members) definition path = Run.attachPath path (do
      scope.askGuard definition.signature (.object members) path
      let args ← scope.takeArgs definition.signature (Entries.get? members argsKey) path
      let children ← Plan.unquotedChildren <$>
        scope.selectFields members type (scope.plansChildren definition) path
      return .branch definition type
        ((members.filter (·.1 ≠ argsKey)).map fun member => (member.1, .null)) args children) := by
  rw [select_of_object resolved, ← Run.attachPath_map]
  refine congrArg (Run.attachPath path) ?_
  rw [map_bind]
  refine bind_congr fun _ => ?_
  rw [map_bind]
  refine bind_congr fun args => ?_
  rw [map_bind, bind_map_left]
  rfl

/-- Two spellings of a document come to plans that are told apart by what they quote alone, or to
the same error after the same calls. -/
theorem unquoted_select_of_respelled (checks : scope.options.checkArgs = true)
    (noObject : scope.marker.members? = none) {query other : Json} {definition : Definition}
    (respelled : scope.schema.Respelled scope.marker definition query other) {path : FieldPath}
    (unguarded : scope.Unguarded query definition path) :
    Plan.unquoted <$> scope.select query definition path
      = Plan.unquoted <$> scope.select other definition path := by
  induction respelled generalizing path with
  | same => rfl
  | leaf resolved spells spells' =>
      have unasked := askGuard_of_unguarded unguarded
      rw [select_of_spellsLeaf checks noObject spells resolved unasked,
        select_of_spellsLeaf checks noObject spells' resolved unasked]
  | @object definition type members others resolved length keys kept _ ih =>
      have alike : List.Forall₂ (scope.PlannedAlike type path) members others := by
        refine List.forall₂_iff_zip.mpr ⟨length, fun {member other} paired => ?_⟩
        refine ⟨keys _ paired, fun args => kept _ paired (if_pos args), fun field selected => ?_⟩
        have inside : member ∈ members := (List.of_mem_zip paired).1
        have declared := ObjectType.declared?_of_selectable? selected
        refine ih _ paired field declared fun site within => unguarded site ?_
        rw [Schema.sites_of_object resolved]
        exact List.mem_cons_of_mem _ (Schema.mem_sitesWithin inside selected within)
      rw [unquoted_select_of_object resolved, unquoted_select_of_object resolved,
        askGuard_of_unguarded unguarded, askGuard_of_unguarded unguarded,
        get?_argsKey_of_plannedAlike alike, unquoted_selection_of_plannedAlike alike,
        unquoted_selectFields_of_plannedAlike alike]

/-- An empty object selects a leaf exactly as the marker does, wherever in a document. If the marker
is no object, arguments are checked and no guards are asked, then documents that are told apart by
the spelling of leaves alone fail with the same error or have plans that are told apart by what they
quote alone; and the same calls are made for both. Under either spelling, required arguments are
missed at the path of the arguments. -/
theorem empty_object_selects_as_marker (scope : Scope) (definition : Definition)
    (path : FieldPath) (query other : Json)
    (noObject : scope.marker.members? = none) (checks : scope.options.checkArgs = true)
    (unguarded : scope.Unguarded query definition path)
    (respelled : scope.schema.Respelled scope.marker definition query other) :
    ((∃ error, (scope.select query definition path).outcome = .error error ∧
          (scope.select other definition path).outcome = .error error) ∨
        ∃ plan plan', (scope.select query definition path).outcome = .ok plan ∧
          (scope.select other definition path).outcome = .ok plan' ∧
          plan.unquoted = plan'.unquoted) ∧
      (scope.select query definition path).trace = (scope.select other definition path).trace ∧
      ∀ scalar slot, scope.schema.resolveOutput definition.signature.type = .ok (.scalar scalar) →
        definition.signature.args = some slot → slot.required = true →
        ∀ spelled : Json, spelled.SpellsLeaf scope.marker →
          (scope.select spelled definition path).outcome
            = .error ((Error.args .required).withPath (path ++ [argsKey])) := by
  have alike := unquoted_select_of_respelled checks noObject respelled unguarded
  refine ⟨?_, ?_, ?_⟩
  · cases ended : (scope.select query definition path).outcome with
    | error error =>
        have failed : (Plan.unquoted <$> scope.select other definition path).outcome
            = .error error := alike ▸ Run.outcome_map_eq_error_iff.mpr ended
        exact .inl ⟨error, rfl, Run.outcome_map_eq_error_iff.mp failed⟩
    | ok plan =>
        have returned : (Plan.unquoted <$> scope.select other definition path).Returns
            plan.unquoted := alike ▸ Run.returns_map.mpr ⟨plan, ended, rfl⟩
        obtain ⟨plan', ended', same⟩ := Run.returns_map.mp returned
        exact .inr ⟨plan, plan', rfl, ended', same.symm⟩
  · rw [← Run.trace_map Plan.unquoted, alike, Run.trace_map]
  · intro scalar slot resolved declared required spelled spells
    have missed : scope.takeArgs definition.signature none path
        = .fail ((Error.args .required).withPath (path ++ [argsKey])) :=
      takeArgs_none_of_required checks (by rw [declared]; exact required) path
    rw [select_of_spellsLeaf checks noObject spells resolved (askGuard_of_unguarded unguarded),
      selectLeaf_nil, missed, Run.fail_bind]
    rfl

/-- Users have friends, and an avatar of a size that has to be said. -/
def userType : ObjectType where
  name := "user"
  fields := [
    ("id", { signature := { type := .scalar Scalar.number } }),
    ("avatar",
      { signature :=
          { type := .scalar Scalar.string,
            args := some { type := .scalar Scalar.number, required := true } } }),
    ("friend", { signature := { type := .lookup "user", nullable := true } })]

def userScope : Scope where
  schema := { objects := [("user", userType)] }
  marker := .bool true
  context := ⟨"POST", "/", [], [], [], []⟩
  operation := "user"
  options := { runGuards := false }

/-- The marker and an empty object change places in a friend and in the user itself. -/
theorem empty_object_selects_as_marker_user :
    let user : Definition := .field (.bare (.lookup "user"))
    let query : Json :=
      .object [("friend", .object [("id", .bool true)]), ("id", .object [])]
    let other : Json :=
      .object [("friend", .object [("id", .object [])]), ("id", .bool true)]
    userScope.marker.members? = none ∧ userScope.options.checkArgs = true ∧
      userScope.Unguarded query user ["user"] ∧
      userScope.schema.Respelled userScope.marker user query other ∧
      ∃ plan plan', (userScope.select query user ["user"]).outcome = .ok plan ∧
        (userScope.select other user ["user"]).outcome = .ok plan' ∧
        plan.selection ≠ plan'.selection ∧ plan.unquoted = plan'.unquoted := by
  intro user query other
  have unguarded : userScope.Unguarded query user ["user"] := fun _ _ asked => nomatch asked
  have resolved : userScope.schema.resolveOutput (.lookup "user") = .ok (.object userType) := rfl
  have respelled : userScope.schema.Respelled userScope.marker user query other := by
    refine .of_declared resolved (.cons ⟨rfl, _, rfl, ?friend⟩ (.cons ⟨rfl, _, rfl, ?id⟩ .nil))
    case friend =>
      refine .of_declared resolved (.cons ⟨rfl, _, rfl, ?_⟩ .nil)
      exact .leaf rfl (.inl rfl) (.inr rfl)
    case id => exact .leaf rfl (.inr rfl) (.inl rfl)
  obtain ⟨⟨error, failed, _⟩ | ⟨plan, plan', planned, planned', same⟩, _⟩ :=
    empty_object_selects_as_marker userScope user ["user"] query other rfl rfl unguarded respelled
  · cases failed
  · refine ⟨rfl, rfl, unguarded, respelled, plan, plan', planned, planned', ?_, same⟩
    obtain rfl := Except.ok.inj planned
    obtain rfl := Except.ok.inj planned'
    decide

/-- The size of an avatar is missed under either spelling, in a friend, too. -/
example (avatar : Json) (spelled : avatar = .bool true ∨ avatar = .object []) :
    (userScope.select (.object [("friend", .object [("avatar", avatar)])])
        (.field (.bare (.lookup "user"))) ["user"]).outcome
      = .error ((Error.args .required).withPath ["user", "friend", "avatar", "__args"]) := by
  obtain rfl | rfl := spelled <;> rfl

end Scope

end TypedQuery
