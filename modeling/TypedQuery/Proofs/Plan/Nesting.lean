import TypedQuery.Proofs.Arguments.Nesting
import TypedQuery.Proofs.Plan.Grammar
import TypedQuery.Schema.BaseScalars

/-!
# How deep documents are planned

Planning goes from a field to the fields selected in it, and so from type to type. Object types may
be circular, but nothing is planned that is not selected. So planning, told level by level by
`selectLevel`, is nested as deep as the selections of a document, and a plan has no greater
`Plan.height`, whatever the schema declares.
-/

namespace TypedQuery

namespace Plan

mutual

/-- How many fields a plan goes down from its root to its deepest leaf. -/
def height : Plan → Nat
  | .leaf .. => 0
  | .branch _ _ _ _ children => heightWithin children
termination_by structural plan => plan

def heightWithin : List (String × Plan) → Nat
  | [] => 0
  | (_, child) :: rest => max (child.height + 1) (heightWithin rest)
termination_by structural children => children

end

theorem heightWithin_le {children : List (String × Plan)} {bound : Nat}
    (h : ∀ child ∈ children, child.2.height < bound) : heightWithin children ≤ bound := by
  induction children with
  | nil => exact Nat.zero_le bound
  | cons child children ih =>
      obtain ⟨first, rest⟩ := List.forall_mem_cons.1 h
      exact Nat.max_le.mpr ⟨first, ih rest⟩

end Plan

namespace Scope

variable {scope : Scope}

/-- The plan of a field, or why there is none. -/
abbrev Planning := Json → Definition → FieldPath → Run Error Plan

/-- The fields selected in an object, each planned as the object has it. -/
def fieldsLevel (self : Planning) (type : ObjectType) (plan : Bool) (path : FieldPath) :
    (members : List (String × Json)) → Run Error (List (String × Plan))
  | [] => pure []
  | (key, query) :: rest => do
    if key = argsKey then fieldsLevel self type plan path rest
    else
      match Entries.get? type.fields key with
      | none => .fail ((Error.query .unknownField).withPath (path ++ [key]))
      | some field =>
        if field.hidden then .fail ((Error.query .hiddenField).withPath (path ++ [key]))
        else if plan then
          let child ← self query (.field field) (path ++ [key])
          let others ← fieldsLevel self type plan path rest
          return (key, child) :: others
        else fieldsLevel self type plan path rest

/-- One level of planning, with the plans of the fields selected in the field left open. -/
def selectLevel (scope : Scope) (self : Planning) : Planning := fun query definition path =>
  Run.attachPath path do
    scope.askGuard definition.signature query path
    let type ← Run.ofExcept (scope.schema.resolveOutput definition.signature.type)
    match query, type with
    | .object members, .scalar scalar => scope.selectLeaf definition scalar members path
    | .object members, .object type =>
      let args ← scope.takeArgs definition.signature (Entries.get? members argsKey) path
      let children ← fieldsLevel self type (scope.plansChildren definition) path members
      return .branch definition type (members.filter (·.1 ≠ argsKey)) args children
    | query, type =>
      if query.same scope.marker then scope.selectMarked definition type path
      else .fail (.query .notSelection)

theorem fieldsLevel_select (type : ObjectType) (plan : Bool) (path : FieldPath)
    (members : List (String × Json)) :
    fieldsLevel scope.select type plan path members
      = scope.selectFields members type plan path := by
  induction members with
  | nil => rfl
  | cons member members ih =>
      obtain ⟨key, query⟩ := member
      rw [fieldsLevel, ih]
      rfl

/-- `Scope.select` does at every level what one level says. -/
theorem selectLevel_select : scope.selectLevel scope.select = scope.select := by
  funext query definition path
  cases query with
  | object members =>
      refine congrArg (Run.attachPath path) (bind_congr fun _ => bind_congr fun type => ?_)
      cases type with
      | scalar scalar => rfl
      | object type => simp only [fieldsLevel_select]
  | null | bool | number | string | array => rfl

theorem fieldsLevel_congr {self other : Planning} {members : List (String × Json)}
    (alike : ∀ member ∈ members.filter (·.1 ≠ argsKey), self member.2 = other member.2)
    (type : ObjectType) (plan : Bool) (path : FieldPath) :
    fieldsLevel self type plan path members = fieldsLevel other type plan path members := by
  induction members with
  | nil => rfl
  | cons member members ih =>
      obtain ⟨key, query⟩ := member
      by_cases named : key = argsKey
      · rw [List.filter_cons_of_neg (by simpa using named)] at alike
        rw [fieldsLevel, fieldsLevel, if_pos named, if_pos named, ih alike]
      · rw [List.filter_cons_of_pos (by simpa using named)] at alike
        obtain ⟨first, rest⟩ := List.forall_mem_cons.1 alike
        have first : self query = other query := first
        rw [fieldsLevel, fieldsLevel, if_neg named, if_neg named, first, ih rest]

/-- One level plans what is selected in the object that it is given. -/
theorem callsSmaller_selectLevel : CallsSmaller Json.selectionDepth scope.selectLevel := by
  intro self other query alike
  funext definition path
  cases query with
  | object members =>
      have within (type : ObjectType) (plan : Bool) :
          fieldsLevel self type plan path members = fieldsLevel other type plan path members :=
        fieldsLevel_congr
          (fun member inside => alike _ (Json.selectionDepth_lt_of_selected inside)) type plan path
      refine congrArg (Run.attachPath path) (bind_congr fun _ => bind_congr fun type => ?_)
      cases type with
      | scalar scalar => rfl
      | object type => simp only [within]
  | null | bool | number | string | array => rfl

/-- A plan goes down along the selections of its document, so its `height` is at most their
depth. -/
theorem height_le_selectionDepth {query : Json} {definition : Definition} {path : FieldPath}
    {plan : Plan} (planned : (scope.select query definition path).Returns plan) :
    plan.height ≤ query.selectionDepth := by
  refine induction_of_returns (motive := fun query _ _ plan => plan.height ≤ query.selectionDepth)
    (fun _ _ _ _ _ => Nat.zero_le _) ?_ planned
  intro members definition path type args children _ _ _ within
  refine Plan.heightWithin_le fun child inside => ?_
  obtain ⟨member, held, _, _, _, lower⟩ := within child inside
  exact Nat.lt_of_le_of_lt lower (Json.selectionDepth_lt_of_selected held)

/-- Circles in the schema are gone through no further than a document goes: the check of arguments
is nested as deep as the arrays and objects of the arguments, and one deeper for fields that are
left out; planning is nested as deep as the objects of a selection, and one deeper for its leaves;
and a plan goes down through at most as many fields as objects are nested in its document. -/
theorem recursion_is_bounded_by_the_document (scope : Scope) :
    BoundedBy Arguments.nesting (Arguments.checkLevel scope.schema)
      (Arguments.check scope.schema) ∧
    BoundedBy Json.selectionDepth scope.selectLevel scope.select ∧
    ∀ query definition path plan, (scope.select query definition path).Returns plan →
      plan.height ≤ query.selectionDepth :=
  ⟨Arguments.boundedBy_check, callsSmaller_selectLevel.boundedBy selectLevel_select,
    fun _ _ _ _ planned => height_le_selectionDepth planned⟩

/-- A wish may be the opposite of another wish. -/
def wishType : InputType where
  name := "wish"
  fields := [("text", { type := .scalar Scalar.string }), ("not", { type := .lookup "wish" })]

/-- People have friends, who are chosen by a wish. -/
def personType : ObjectType where
  name := "person"
  fields :=
    [("name", .bare (.scalar Scalar.string)),
      ("friend",
        { signature := { type := .lookup "person", args := some { type := .lookup "wish" } } })]

def personScope : Scope where
  schema := { objects := [("person", personType)], inputs := [("wish", wishType)] }
  marker := .bool true
  context := ⟨"POST", "/", [], [], [], []⟩
  operation := "person"

/-- The name of a friend of a friend. The arguments are nested deeper than the selection. -/
def personQuery : Json :=
  let opposite (wish : Json) : Json := .object [("not", wish)]
  .object [("friend", .object
    [(argsKey, opposite (opposite (opposite (opposite (.object []))))),
      ("friend", .object [("name", .bool true)])])]

theorem recursion_is_bounded_by_the_document_friend :
    ∃ plan, (personScope.select personQuery (.field (.bare (.lookup "person")))
        ["person"]).Returns plan ∧
      plan.height = 3 ∧ plan.height ≤ personQuery.selectionDepth ∧
      personQuery.selectionDepth = 3 ∧ personQuery.depth = 7 := by
  have planned : (personScope.select personQuery (.field (.bare (.lookup "person")))
      ["person"]).Returns _ := rfl
  obtain ⟨_, _, bounded⟩ := recursion_is_bounded_by_the_document personScope
  exact ⟨_, planned, rfl, bounded _ _ _ _ planned, rfl, rfl⟩

end Scope

end TypedQuery
