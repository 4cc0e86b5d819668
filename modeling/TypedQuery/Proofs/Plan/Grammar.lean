import TypedQuery.Proofs.Plan.Site

/-!
# Which documents have a plan

A document has a plan exactly when the scope `Accepts` each of its sites on its own: what a site
must satisfy does not depend on the sites around it. The nodes of the plan are then the sites of the
document, one for one and in the same order, and each node `Mirrors` its site.
`select_returns_iff_sites_accepted` puts the two together.
-/

namespace TypedQuery

/-- Whether what the client wrote has the shape that the type of the field asks for. -/
def ResolvedOutput.Fits : ResolvedOutput → Json → Prop
  | .scalar _, query =>
    ∀ members, query = .object members → ∀ key ∈ Entries.keys members, key = argsKey
  | .object type, query =>
    ∃ members, query = .object members ∧ ∀ key ∈ Entries.keys members, key ≠ argsKey →
      ∃ field, Entries.get? type.fields key = some field ∧ field.hidden = false

theorem ResolvedOutput.fits_scalar_iff {scalar : Scalar} {members : List (String × Json)} :
    (ResolvedOutput.scalar scalar).Fits (.object members) ↔
      members.filter (·.1 ≠ argsKey) = [] := by
  simp [Fits, Entries.keys, List.filter_eq_nil_iff]

theorem ResolvedOutput.fits_object_iff {type : ObjectType} {members : List (String × Json)} :
    (ResolvedOutput.object type).Fits (.object members) ↔
      ∀ member ∈ members.filter (·.1 ≠ argsKey),
        ∃ field, type.selectable? member.1 = some field := by
  simp +contextual [Fits, Entries.keys, ObjectType.selectable?_eq_some_iff]

namespace Scope

variable (scope : Scope)

/-- What the guard of a site is shown. -/
def guardRequest (site : Site) : GuardRequest :=
  ⟨scope.context, site.path, site.definition.signature.args.map Slot.summary, site.query,
    scope.operation⟩

/-- The guard of the site, if it has one, lets it pass when it is shown the `guardRequest`. -/
def GuardAccepts (site : Site) : Prop :=
  ∀ guard, site.definition.signature.guard = some guard →
    (guard (scope.guardRequest site)).Returns ()

/-- The check of the arguments at the site. -/
def argsCheck (site : Site) : Run Error (Option Json) :=
  Arguments.check scope.schema site.args? site.definition.signature.args
    (site.path ++ [argsKey])

/-- A site that stands in the way of no plan. -/
structure Accepts (site : Site) : Prop where
  guard : scope.GuardAccepts site
  /-- What is no object is the marker. -/
  marker : site.query.members? = none → site.query.same scope.marker = true
  shape : ∃ type, scope.schema.resolveOutput site.definition.signature.type = .ok type ∧
    type.Fits site.query
  /-- The marker cannot give the arguments that a field requires. -/
  notRequired : site.query.members? = none →
    ∀ slot, site.definition.signature.args = some slot → slot.required = false
  args : ∃ args, (scope.argsCheck site).Returns args

/-- A node of a plan, with its path, is what the site says. -/
structure Mirrors (site : Site) (node : FieldPath × Plan) : Prop where
  path : node.1 = site.path
  definition : node.2.definition = site.definition
  type : scope.schema.resolveOutput site.definition.signature.type = .ok node.2.type
  args : (scope.argsCheck site).Returns node.2.args
  selection : node.2.selection = site.selection
  leaf : node.2.nested? = none ↔
    ∃ scalar, scope.schema.resolveOutput site.definition.signature.type = .ok (.scalar scalar)
  branch : ∀ children, node.2.nested? = some children →
    Entries.keys children = Entries.keys site.selection

variable {scope}

theorem returns_askGuard (guards : scope.options.runGuards = true) {site : Site} {done : Unit} :
    (scope.askGuard site.definition.signature site.query site.path).Returns done ↔
      scope.GuardAccepts site := by
  unfold askGuard GuardAccepts guardRequest
  cases site.definition.signature.guard <;> simp [guards]

theorem takeArgs_eq (checks : scope.options.checkArgs = true) (signature : Signature)
    (args : Option Json) (path : FieldPath) :
    scope.takeArgs signature args path
      = Arguments.check scope.schema args signature.args (path ++ [argsKey]) :=
  if_pos checks

theorem args?_of_object {site : Site} {members : List (String × Json)}
    (h : site.query = .object members) : site.args? = Entries.get? members argsKey := by
  rw [Site.args?, h, Json.get?]

theorem takeArgs_of_object (checks : scope.options.checkArgs = true) {site : Site}
    {members : List (String × Json)} (h : site.query = .object members) :
    scope.takeArgs site.definition.signature (Entries.get? members argsKey) site.path
      = scope.argsCheck site := by
  rw [takeArgs_eq checks, argsCheck, args?_of_object h]

theorem args?_of_members?_eq_none {site : Site} (h : site.query.members? = none) :
    site.args? = none := by
  unfold Site.args?
  cases query : site.query with
  | object members => rw [query] at h; cases h
  | null | bool | number | string | array => rfl

theorem takeArgs_of_members?_eq_none (checks : scope.options.checkArgs = true) {site : Site}
    (h : site.query.members? = none) :
    scope.takeArgs site.definition.signature none site.path = scope.argsCheck site := by
  rw [takeArgs_eq checks, argsCheck, args?_of_members?_eq_none h]

/-- A field that is not selected by an object is selected by the marker, or not at all. -/
theorem select_of_members?_eq_none {query : Json} (h : query.members? = none)
    (definition : Definition) (path : FieldPath) :
    scope.select query definition path = Run.attachPath path (do
      scope.askGuard definition.signature query path
      let type ← Run.ofExcept (scope.schema.resolveOutput definition.signature.type)
      if query.same scope.marker then scope.selectMarked definition type path
      else .fail (.query .notSelection)) := by
  cases query with
  | object members => cases h
  | null | bool | number | string | array => rfl

theorem select_of_scalar {definition : Definition} {scalar : Scalar}
    (resolved : scope.schema.resolveOutput definition.signature.type = .ok (.scalar scalar))
    (members : List (String × Json)) (path : FieldPath) :
    scope.select (.object members) definition path = Run.attachPath path (do
      scope.askGuard definition.signature (.object members) path
      scope.selectLeaf definition scalar members path) := by
  rw [select]
  beta_reduce
  rw [resolved]
  rfl

theorem select_of_object {definition : Definition} {type : ObjectType}
    (resolved : scope.schema.resolveOutput definition.signature.type = .ok (.object type))
    (members : List (String × Json)) (path : FieldPath) :
    scope.select (.object members) definition path = Run.attachPath path (do
      scope.askGuard definition.signature (.object members) path
      let args ← scope.takeArgs definition.signature (Entries.get? members argsKey) path
      let children ← scope.selectFields members type (scope.plansChildren definition) path
      return .branch definition type (members.filter (·.1 ≠ argsKey)) args children) := by
  rw [select]
  beta_reduce
  rw [resolved]
  rfl

/-- Whether the marker may stand for a field of that signature. -/
theorem any_required_eq_false_iff {args : Option Slot} :
    args.any (·.required) = false ↔ ∀ slot, args = some slot → slot.required = false := by
  cases args <;> simp

theorem returns_selectMarked (checks : scope.options.checkArgs = true) {site : Site}
    (h : site.query.members? = none) {type : ResolvedOutput} {plan : Plan} :
    (scope.selectMarked site.definition type site.path).Returns plan ↔
      ∃ scalar args, type = .scalar scalar ∧
        (∀ slot, site.definition.signature.args = some slot → slot.required = false) ∧
        (scope.argsCheck site).Returns args ∧ plan = .leaf site.definition scalar args := by
  rw [← any_required_eq_false_iff]
  cases type with
  | object type => simp [selectMarked]
  | scalar scalar =>
      simp only [selectMarked, takeArgs_of_members?_eq_none checks h]
      cases site.definition.signature.args.any (·.required) <;> simp [eq_comm]

theorem returns_selectLeaf (checks : scope.options.checkArgs = true) {site : Site}
    {members : List (String × Json)} (h : site.query = .object members) {scalar : Scalar}
    {plan : Plan} :
    (scope.selectLeaf site.definition scalar members site.path).Returns plan ↔
      (∀ key ∈ Entries.keys members, key = argsKey) ∧
      ∃ args, (scope.argsCheck site).Returns args ∧ plan = .leaf site.definition scalar args := by
  have onlyArgs : (Entries.keys members).any (fun key => decide (key ≠ argsKey)) = false ↔
      ∀ key ∈ Entries.keys members, key = argsKey := by
    simp [List.any_eq_false]
  rw [← onlyArgs]
  simp only [selectLeaf, takeArgs_of_object checks h]
  cases (Entries.keys members).any (fun key => decide (key ≠ argsKey)) <;> simp [eq_comm]

theorem selectFields_cons_argsKey (query : Json) (rest : List (String × Json))
    (type : ObjectType) (plan : Bool) (path : FieldPath) :
    scope.selectFields ((argsKey, query) :: rest) type plan path
      = scope.selectFields rest type plan path := by
  rw [selectFields, if_pos rfl]

theorem selectFields_cons_selectable {type : ObjectType} {key : String} {field : Field}
    (h : type.selectable? key = some field) (query : Json) (rest : List (String × Json))
    (path : FieldPath) :
    scope.selectFields ((key, query) :: rest) type true path = do
      let child ← scope.select query (.field field) (path ++ [key])
      let others ← scope.selectFields rest type true path
      return (key, child) :: others := by
  obtain ⟨hkey, held, visible⟩ := ObjectType.selectable?_eq_some_iff.mp h
  simp [selectFields, hkey, held, visible]

/-- Where the fields within are not planned, a field is passed over. -/
theorem selectFields_cons_unplanned {type : ObjectType} {key : String} {field : Field}
    (h : type.selectable? key = some field) (query : Json) (rest : List (String × Json))
    (path : FieldPath) :
    scope.selectFields ((key, query) :: rest) type false path
      = scope.selectFields rest type false path := by
  obtain ⟨hkey, held, visible⟩ := ObjectType.selectable?_eq_some_iff.mp h
  simp [selectFields, hkey, held, visible]

/-- An undeclared or hidden name is refused, whatever the client wrote for it. -/
theorem exists_refusal (scope : Scope) {type : ObjectType} {key : String} (hkey : key ≠ argsKey)
    (h : type.selectable? key = none) (plan : Bool) (path : FieldPath) :
    ∃ error, ∀ query rest,
      scope.selectFields ((key, query) :: rest) type plan path = .fail error := by
  rw [ObjectType.selectable?, if_neg hkey] at h
  cases held : Entries.get? type.fields key with
  | none =>
      refine ⟨(Error.query .unknownField).withPath (path ++ [key]), fun query rest => ?_⟩
      rw [selectFields, if_neg hkey, held]
  | some field =>
      have hidden : field.hidden = true := by simpa [held] using h
      refine ⟨(Error.query .hiddenField).withPath (path ++ [key]), fun query rest => ?_⟩
      rw [selectFields, if_neg hkey, held]
      exact if_pos hidden

/-- An undeclared or hidden name ends the planning. -/
theorem selectFields_cons_refused (scope : Scope) {type : ObjectType} {key : String}
    (hkey : key ≠ argsKey) (h : type.selectable? key = none) (query : Json)
    (rest : List (String × Json)) (plan : Bool) (path : FieldPath) :
    ∃ error, scope.selectFields ((key, query) :: rest) type plan path = .fail error := by
  obtain ⟨error, refused⟩ := scope.exists_refusal hkey h plan path
  exact ⟨error, refused query rest⟩

/-- The plan of one member of a selection. -/
def Selected (scope : Scope) (type : ObjectType) (path : FieldPath) (member : String × Json)
    (child : String × Plan) : Prop :=
  ∃ field, type.selectable? member.1 = some field ∧ child.1 = member.1 ∧
    (scope.select member.2 (.field field) (path ++ [member.1])).Returns child.2

/-- Every member but the arguments has a plan of its own. -/
theorem returns_selectFields {members : List (String × Json)} {type : ObjectType}
    {path : FieldPath} {children : List (String × Plan)} :
    (scope.selectFields members type true path).Returns children ↔
      List.Forall₂ (scope.Selected type path) (members.filter (·.1 ≠ argsKey)) children := by
  induction members generalizing children with
  | nil => simp [selectFields, eq_comm]
  | cons member rest ih =>
      obtain ⟨key, query⟩ := member
      by_cases hkey : key = argsKey
      · subst hkey
        rw [selectFields_cons_argsKey, ih, List.filter_cons_of_neg (by simp)]
      · rw [List.filter_cons_of_pos (by simpa using hkey), List.forall₂_cons_left_iff]
        cases selected : type.selectable? key with
        | none =>
            obtain ⟨error, refused⟩ := scope.selectFields_cons_refused hkey selected query rest
              true path
            simp [refused, Selected, selected]
        | some field =>
            simp only [selectFields_cons_selectable selected, Run.returns_bind,
              Run.returns_pure, ih]
            constructor
            · rintro ⟨child, planned, others, rest, rfl⟩
              exact ⟨_, others, ⟨field, selected, rfl, planned⟩, rest, rfl⟩
            · rintro ⟨⟨_, child⟩, others, ⟨field', selected', rfl, planned⟩, rest, rfl⟩
              obtain rfl := Option.some.inj (selected.symm.trans selected')
              exact ⟨child, planned, others, rest, rfl⟩

/-- Where the fields within are not planned, their names must select fields all the same. -/
theorem returns_selectFields_unplanned {members : List (String × Json)} {type : ObjectType}
    {path : FieldPath} {children : List (String × Plan)} :
    (scope.selectFields members type false path).Returns children ↔
      children = [] ∧ ∀ member ∈ members.filter (·.1 ≠ argsKey),
        ∃ field, type.selectable? member.1 = some field := by
  induction members with
  | nil => simp [selectFields, eq_comm]
  | cons member rest ih =>
      obtain ⟨key, query⟩ := member
      by_cases hkey : key = argsKey
      · subst hkey
        rw [selectFields_cons_argsKey, ih, List.filter_cons_of_neg (by simp)]
      · rw [List.filter_cons_of_pos (by simpa using hkey), List.forall_mem_cons]
        cases selected : type.selectable? key with
        | none =>
            obtain ⟨error, refused⟩ := scope.selectFields_cons_refused hkey selected query rest
              false path
            simp [refused]
        | some field =>
            simp [selectFields_cons_unplanned selected, ih]

theorem not_returns_select_of_unresolved {members : List (String × Json)}
    {definition : Definition} {path : FieldPath} {error : Error}
    (unresolved : scope.schema.resolveOutput definition.signature.type = .error error)
    {plan : Plan} : ¬ (scope.select (.object members) definition path).Returns plan := by
  rw [select, Run.returns_attachPath, unresolved]
  simp

theorem leaf_of_selectMarked {definition : Definition} {type : ResolvedOutput} {path : FieldPath}
    {plan : Plan} (h : (scope.selectMarked definition type path).Returns plan) :
    ∃ scalar args, plan = .leaf definition scalar args ∧
      (scope.takeArgs definition.signature none path).Returns args := by
  cases type with
  | object type => exact absurd h Run.not_returns_fail
  | scalar scalar =>
      rw [selectMarked] at h
      dsimp only at h
      split at h
      · exact absurd h Run.not_returns_fail
      · obtain ⟨args, taken, h⟩ := Run.returns_bind.mp h
        exact ⟨scalar, args, (Run.returns_pure.mp h).symm, taken⟩

theorem leaf_of_selectLeaf {definition : Definition} {scalar : Scalar}
    {members : List (String × Json)} {path : FieldPath} {plan : Plan}
    (h : (scope.selectLeaf definition scalar members path).Returns plan) :
    ∃ args, plan = .leaf definition scalar args ∧ members.filter (·.1 ≠ argsKey) = [] ∧
      (scope.takeArgs definition.signature (Entries.get? members argsKey) path).Returns args := by
  rw [selectLeaf] at h
  dsimp only at h
  split at h
  · exact absurd h Run.not_returns_fail
  · next onlyArgs =>
      obtain ⟨args, taken, h⟩ := Run.returns_bind.mp h
      refine ⟨args, (Run.returns_pure.mp h).symm, ?_, taken⟩
      simpa [Entries.keys, List.filter_eq_nil_iff] using onlyArgs

/-- The plans of the members of a selection, each of them `Selected`, bear the names of the
members. -/
theorem keys_of_selected {type : ObjectType} {path : FieldPath}
    {members : List (String × Json)} {children : List (String × Plan)}
    (h : List.Forall₂ (scope.Selected type path) members children) :
    Entries.keys children = Entries.keys members := by
  induction h with
  | nil => rfl
  | cons first _ ih =>
      obtain ⟨_, _, key, _⟩ := first
      rw [Entries.keys_cons, Entries.keys_cons, key, ih]

/-- What is planned within a field is planned for members of its object other than the arguments,
each at most once. -/
theorem selected_of_returns {members : List (String × Json)} {type : ObjectType} {plan : Bool}
    {path : FieldPath} {children : List (String × Plan)}
    (h : (scope.selectFields members type plan path).Returns children) :
    (Entries.keys children).Sublist (Entries.keys members) ∧
      ∀ child ∈ children, ∃ member ∈ members.filter (·.1 ≠ argsKey),
        scope.Selected type path member child := by
  cases plan with
  | false =>
      obtain ⟨rfl, _⟩ := returns_selectFields_unplanned.mp h
      exact ⟨List.nil_sublist _, nofun⟩
  | true =>
      have selected := returns_selectFields.mp h
      refine ⟨keys_of_selected selected ▸ List.filter_sublist.map Prod.fst, ?_⟩
      exact fun child inside => exists_of_mem_right selected inside

/-- Induction over a document that has a plan, whatever the options leave out. -/
theorem induction_of_returns {motive : Json → Definition → FieldPath → Plan → Prop}
    (leaf : ∀ (site : Site) scalar args, site.selection = [] →
      (scope.takeArgs site.definition.signature site.args? site.path).Returns args →
      motive site.query site.definition site.path (.leaf site.definition scalar args))
    (branch : ∀ members definition path type args children,
      scope.schema.resolveOutput definition.signature.type = .ok (.object type) →
      (scope.takeArgs definition.signature (Entries.get? members argsKey) path).Returns args →
      (Entries.keys children).Sublist (Entries.keys members) →
      (∀ child ∈ children, ∃ member ∈ members.filter (·.1 ≠ argsKey), ∃ field,
        type.selectable? member.1 = some field ∧ child.1 = member.1 ∧
          motive member.2 (.field field) (path ++ [member.1]) child.2) →
      motive (.object members) definition path
        (.branch definition type (members.filter (·.1 ≠ argsKey)) args children))
    {query : Json} {definition : Definition} {path : FieldPath} {plan : Plan}
    (h : (scope.select query definition path).Returns plan) :
    motive query definition path plan := by
  induction query using Json.object_induction generalizing definition path plan with
  | other query noMembers =>
      let site : Site := ⟨definition, query, path⟩
      have noArgs : site.args? = none := args?_of_members?_eq_none noMembers
      have nothing : site.selection = [] := by
        rw [Site.selection, noMembers]
        rfl
      rw [select_of_members?_eq_none noMembers, Run.returns_attachPath] at h
      obtain ⟨_, _, h⟩ := Run.returns_bind.mp h
      obtain ⟨type, _, h⟩ := Run.returns_bind.mp h
      split at h
      · obtain ⟨scalar, args, rfl, taken⟩ := leaf_of_selectMarked h
        exact leaf site scalar args nothing (noArgs ▸ taken)
      · exact absurd h Run.not_returns_fail
  | object members ih =>
      cases resolved : scope.schema.resolveOutput definition.signature.type with
      | error error => exact absurd h (not_returns_select_of_unresolved resolved)
      | ok type =>
          cases type with
          | scalar scalar =>
              rw [select_of_scalar resolved, Run.returns_attachPath] at h
              obtain ⟨_, _, h⟩ := Run.returns_bind.mp h
              obtain ⟨args, rfl, nothing, taken⟩ := leaf_of_selectLeaf h
              exact leaf ⟨definition, .object members, path⟩ scalar args nothing taken
          | object type =>
              rw [select_of_object resolved, Run.returns_attachPath] at h
              obtain ⟨_, _, h⟩ := Run.returns_bind.mp h
              obtain ⟨args, taken, h⟩ := Run.returns_bind.mp h
              obtain ⟨children, within, h⟩ := Run.returns_bind.mp h
              obtain rfl := Run.returns_pure.mp h
              obtain ⟨names, planned⟩ := selected_of_returns within
              refine branch members definition path type args children resolved taken names ?_
              intro child inside
              obtain ⟨member, held, field, selected, named, returned⟩ := planned child inside
              exact ⟨member, held, field, selected, named,
                ih member (List.mem_of_mem_filter held) returned⟩

theorem mirrors_leaf {site : Site} {scalar : Scalar} {args : Option Json}
    (resolved : scope.schema.resolveOutput site.definition.signature.type = .ok (.scalar scalar))
    (checked : (scope.argsCheck site).Returns args) (nothing : site.selection = []) :
    scope.Mirrors site (site.path, .leaf site.definition scalar args) where
  path := rfl
  definition := rfl
  type := resolved
  args := checked
  selection := nothing.symm
  leaf := iff_of_true rfl ⟨scalar, resolved⟩
  branch := nofun

theorem mirrors_branch {site : Site} {type : ObjectType} {args : Option Json}
    {children : List (String × Plan)}
    (resolved : scope.schema.resolveOutput site.definition.signature.type = .ok (.object type))
    (checked : (scope.argsCheck site).Returns args)
    (keys : Entries.keys children = Entries.keys site.selection) :
    scope.Mirrors site
      (site.path, .branch site.definition type site.selection args children) where
  path := rfl
  definition := rfl
  type := resolved
  args := checked
  selection := rfl
  leaf := iff_of_false nofun (by simp [resolved])
  branch := fun _ h => Option.some.inj h ▸ keys

theorem selectable_of_selected {type : ObjectType} {path : FieldPath}
    {members : List (String × Json)} {children : List (String × Plan)}
    (h : List.Forall₂ (scope.Selected type path) members children) :
    ∀ member ∈ members, ∃ field, type.selectable? member.1 = some field := by
  induction h with
  | nil => exact nofun
  | cons first _ ih =>
      obtain ⟨field, selected, _⟩ := first
      exact List.forall_mem_cons.2 ⟨⟨field, selected⟩, ih⟩

/-- The sites of a document that has a plan, and the nodes of that plan. -/
def Planned (scope : Scope) (query : Json) (definition : Definition) (path : FieldPath)
    (plan : Plan) : Prop :=
  (∀ site ∈ scope.schema.sites query definition path, scope.Accepts site) ∧
    List.Forall₂ scope.Mirrors (scope.schema.sites query definition path) (plan.nodes path)

theorem planned_within {type : ObjectType} {path : FieldPath} {members : List (String × Json)}
    {children : List (String × Plan)}
    (h : List.Forall₂ (scope.Selected type path) members children)
    (ih : ∀ member ∈ members, ∀ definition path plan,
      (scope.select member.2 definition path).Returns plan →
        scope.Planned member.2 definition path plan) :
    (∀ site ∈ scope.schema.sitesWithin members type path, scope.Accepts site) ∧
      List.Forall₂ scope.Mirrors (scope.schema.sitesWithin members type path)
        (Plan.nodesWithin children path) := by
  induction h with
  | nil => exact ⟨nofun, .nil⟩
  | @cons member child members children first rest ihRest =>
      obtain ⟨ihFirst, ihMembers⟩ := List.forall_mem_cons.1 ih
      obtain ⟨field, selected, key, returned⟩ := first
      obtain ⟨accepted, mirrored⟩ := ihFirst _ _ _ returned
      obtain ⟨acceptedRest, mirroredRest⟩ := ihRest ihMembers
      obtain ⟨_, child⟩ := child
      cases key
      rw [Schema.sitesWithin_cons_selectable selected, Plan.nodesWithin]
      refine ⟨?_, List.rel_append mirrored mirroredRest⟩
      intro site inside
      exact (List.mem_append.1 inside).elim (accepted site) (acceptedRest site)

theorem selected_within {type : ObjectType} {path : FieldPath} {members : List (String × Json)}
    (selectable : ∀ member ∈ members, ∃ field, type.selectable? member.1 = some field)
    (accepted : ∀ site ∈ scope.schema.sitesWithin members type path, scope.Accepts site)
    (ih : ∀ member ∈ members, ∀ definition path,
      (∀ site ∈ scope.schema.sites member.2 definition path, scope.Accepts site) →
        ∃ plan, (scope.select member.2 definition path).Returns plan) :
    ∃ children, List.Forall₂ (scope.Selected type path) members children := by
  induction members with
  | nil => exact ⟨[], .nil⟩
  | cons member members ihMembers =>
      obtain ⟨⟨field, selected⟩, selectableRest⟩ := List.forall_mem_cons.1 selectable
      obtain ⟨ihFirst, ihRest⟩ := List.forall_mem_cons.1 ih
      rw [Schema.sitesWithin_cons_selectable selected] at accepted
      obtain ⟨acceptedFirst, acceptedRest⟩ := List.forall_mem_append.1 accepted
      obtain ⟨child, returned⟩ := ihFirst _ _ acceptedFirst
      obtain ⟨children, within⟩ := ihMembers selectableRest acceptedRest ihRest
      exact ⟨(member.1, child) :: children, .cons ⟨field, selected, rfl, returned⟩ within⟩

section Full

variable (full : scope.options = {})
include full

theorem runs_everything :
    scope.options.runGuards = true ∧ scope.options.checkArgs = true := by
  rw [full]
  exact ⟨rfl, rfl⟩

theorem returns_select_marked (site : Site) (h : site.query.members? = none) {plan : Plan} :
    (scope.select site.query site.definition site.path).Returns plan ↔
      scope.GuardAccepts site ∧ site.query.same scope.marker = true ∧ ∃ scalar args,
        scope.schema.resolveOutput site.definition.signature.type = .ok (.scalar scalar) ∧
        (∀ slot, site.definition.signature.args = some slot → slot.required = false) ∧
        (scope.argsCheck site).Returns args ∧ plan = .leaf site.definition scalar args := by
  obtain ⟨guards, checks⟩ := runs_everything full
  rw [select_of_members?_eq_none h, Run.returns_attachPath]
  simp only [Run.returns_bind, Run.returns_ofExcept, returns_askGuard guards]
  constructor
  · rintro ⟨_, accepted, type, resolved, planned⟩
    split at planned
    · rename_i marker
      obtain ⟨scalar, args, rfl, rest⟩ := (returns_selectMarked checks h).mp planned
      exact ⟨accepted, marker, scalar, args, resolved, rest⟩
    · simp at planned
  · rintro ⟨accepted, marker, scalar, args, resolved, rest⟩
    refine ⟨(), accepted, .scalar scalar, resolved, ?_⟩
    rw [if_pos marker]
    exact (returns_selectMarked checks h).mpr ⟨scalar, args, rfl, rest⟩

theorem returns_select_leaf (site : Site) {members : List (String × Json)}
    (h : site.query = .object members) {scalar : Scalar}
    (resolved : scope.schema.resolveOutput site.definition.signature.type = .ok (.scalar scalar))
    {plan : Plan} :
    (scope.select site.query site.definition site.path).Returns plan ↔
      scope.GuardAccepts site ∧ (∀ key ∈ Entries.keys members, key = argsKey) ∧
      ∃ args, (scope.argsCheck site).Returns args ∧ plan = .leaf site.definition scalar args := by
  obtain ⟨guards, checks⟩ := runs_everything full
  have ask : (scope.askGuard _ site.query site.path).Returns () ↔ _ := returns_askGuard guards
  have leaf : (scope.selectLeaf _ scalar members _).Returns plan ↔ _ := returns_selectLeaf checks h
  rw [h] at ask ⊢
  rw [select_of_scalar resolved, Run.returns_attachPath]
  simp [ask, leaf]

theorem returns_select_branch (site : Site) {members : List (String × Json)}
    (h : site.query = .object members) {type : ObjectType}
    (resolved : scope.schema.resolveOutput site.definition.signature.type = .ok (.object type))
    {plan : Plan} :
    (scope.select site.query site.definition site.path).Returns plan ↔
      scope.GuardAccepts site ∧ ∃ args, (scope.argsCheck site).Returns args ∧
      ∃ children, List.Forall₂ (scope.Selected type site.path) site.selection children ∧
        plan = .branch site.definition type site.selection args children := by
  obtain ⟨guards, checks⟩ := runs_everything full
  have ask : (scope.askGuard _ site.query site.path).Returns () ↔ _ := returns_askGuard guards
  have selection : site.selection = members.filter (·.1 ≠ argsKey) := by
    simp [Site.selection, h, Json.members?]
  have planned : scope.plansChildren site.definition = true := by
    simp [plansChildren, full]
  have taken : scope.takeArgs _ (Entries.get? members argsKey) _ = scope.argsCheck site :=
    takeArgs_of_object checks h
  rw [h] at ask ⊢
  rw [select_of_object resolved, Run.returns_attachPath, selection, taken, planned]
  simp only [Run.returns_bind, Run.returns_pure, returns_selectFields, ask]
  constructor
  · rintro ⟨_, accepted, args, checked, children, within, rfl⟩
    exact ⟨accepted, args, checked, children, within, rfl⟩
  · rintro ⟨accepted, args, checked, children, within, rfl⟩
    exact ⟨(), accepted, args, checked, children, within, rfl⟩

/-- Every site of a document that has a plan is acceptable, and has its node in the plan: the two
are `Planned`. -/
theorem planned_of_returns (query : Json) (definition : Definition) (path : FieldPath)
    (plan : Plan) (h : (scope.select query definition path).Returns plan) :
    scope.Planned query definition path plan := by
  induction query using Json.object_induction generalizing definition path plan with
  | other query noMembers =>
      let site : Site := ⟨definition, query, path⟩
      obtain ⟨guard, marker, scalar, args, resolved, notRequired, checked, rfl⟩ :=
        (returns_select_marked full site noMembers).mp h
      have nothing : site.selection = [] := by simp [Site.selection, site, noMembers]
      have shape : (ResolvedOutput.scalar scalar).Fits query := by
        rintro members rfl
        cases noMembers
      have accepted : scope.Accepts site :=
        ⟨guard, fun _ => marker, ⟨_, resolved, shape⟩, fun _ => notRequired, ⟨args, checked⟩⟩
      rw [Planned, Schema.sites_of_members?_eq_none noMembers, Plan.nodes]
      exact ⟨by simpa using accepted, .cons (mirrors_leaf resolved checked nothing) .nil⟩
  | object members ih =>
      let site : Site := ⟨definition, .object members, path⟩
      cases resolved : scope.schema.resolveOutput definition.signature.type with
      | error error => exact absurd h (not_returns_select_of_unresolved resolved)
      | ok type =>
          cases type with
          | scalar scalar =>
              obtain ⟨guard, onlyArgs, args, checked, rfl⟩ :=
                (returns_select_leaf full site rfl resolved).mp h
              have shape : (ResolvedOutput.scalar scalar).Fits (.object members) := by
                rintro _ ⟨⟩
                exact onlyArgs
              have nothing : site.selection = [] := ResolvedOutput.fits_scalar_iff.mp shape
              have accepted : scope.Accepts site :=
                ⟨guard, nofun, ⟨_, resolved, shape⟩, nofun, ⟨args, checked⟩⟩
              rw [Planned, Schema.sites_of_scalar resolved, Plan.nodes]
              exact ⟨by simpa using accepted, .cons (mirrors_leaf resolved checked nothing) .nil⟩
          | object type =>
              obtain ⟨guard, args, checked, children, within, rfl⟩ :=
                (returns_select_branch full site rfl resolved).mp h
              have shape : (ResolvedOutput.object type).Fits (.object members) :=
                ResolvedOutput.fits_object_iff.mpr (selectable_of_selected within)
              have accepted : scope.Accepts site :=
                ⟨guard, nofun, ⟨_, resolved, shape⟩, nofun, ⟨args, checked⟩⟩
              obtain ⟨acceptedWithin, mirroredWithin⟩ := planned_within within fun member inside =>
                ih member (List.mem_of_mem_filter inside)
              rw [Planned, Schema.sites_of_object resolved, Plan.nodes]
              rw [show site.selection = members.filter (·.1 ≠ argsKey) from rfl,
                Schema.sitesWithin_filter] at acceptedWithin mirroredWithin
              exact ⟨List.forall_mem_cons.2 ⟨accepted, acceptedWithin⟩,
                .cons (mirrors_branch resolved checked (keys_of_selected within)) mirroredWithin⟩

/-- A plan answers the field for which it was made. -/
theorem definition_of_returns {query : Json} {definition : Definition} {path : FieldPath}
    {plan : Plan} (h : (scope.select query definition path).Returns plan) :
    plan.definition = definition := by
  obtain ⟨sites, first⟩ : ∃ sites,
      scope.schema.sites query definition path = ⟨definition, query, path⟩ :: sites := by
    cases query <;> exact ⟨_, rfl⟩
  obtain ⟨nodes, self⟩ : ∃ nodes, plan.nodes path = (path, plan) :: nodes := by
    cases plan <;> exact ⟨_, rfl⟩
  have mirrored := (planned_of_returns full query definition path plan h).2
  rw [first, self, List.forall₂_cons] at mirrored
  exact mirrored.1.definition

/-- A document has a plan if every one of its sites is acceptable. -/
theorem returns_of_accepts (query : Json) (definition : Definition) (path : FieldPath)
    (accepted : ∀ site ∈ scope.schema.sites query definition path, scope.Accepts site) :
    ∃ plan, (scope.select query definition path).Returns plan := by
  induction query using Json.object_induction generalizing definition path with
  | other query noMembers =>
      let site : Site := ⟨definition, query, path⟩
      have own : scope.Accepts site := accepted site (scope.schema.self_mem_sites ..)
      obtain ⟨type, resolved, shape⟩ := own.shape
      obtain ⟨args, checked⟩ := own.args
      cases type with
      | object type =>
          obtain ⟨members, rfl, _⟩ := shape
          cases noMembers
      | scalar scalar =>
          exact ⟨_, (returns_select_marked full site noMembers).mpr
            ⟨own.guard, own.marker noMembers, scalar, args, resolved, own.notRequired noMembers,
              checked, rfl⟩⟩
  | object members ih =>
      let site : Site := ⟨definition, .object members, path⟩
      have own : scope.Accepts site := accepted site (scope.schema.self_mem_sites ..)
      obtain ⟨type, resolved, shape⟩ := own.shape
      obtain ⟨args, checked⟩ := own.args
      cases type with
      | scalar scalar =>
          exact ⟨_, (returns_select_leaf full site rfl resolved).mpr
            ⟨own.guard, shape members rfl, args, checked, rfl⟩⟩
      | object type =>
          rw [Schema.sites_of_object resolved, ← Schema.sitesWithin_filter] at accepted
          obtain ⟨children, within⟩ := selected_within
            (ResolvedOutput.fits_object_iff.mp shape) (List.forall_mem_cons.1 accepted).2
            fun member inside => ih member (List.mem_of_mem_filter inside)
          exact ⟨_, (returns_select_branch full site rfl resolved).mpr
            ⟨own.guard, args, checked, children, within, rfl⟩⟩

end Full

/-- A document has a plan exactly when all its sites are acceptable, and the nodes of the plan
are the sites of the document, one for one. -/
theorem select_returns_iff_sites_accepted (schema : Schema) (marker : Json) (context : Context)
    (operation : String) (query : Json) (definition : Definition) (path : FieldPath) :
    let scope : Scope := { schema, marker, context, operation }
    ((∃ plan, (scope.select query definition path).outcome = .ok plan) ↔
      ∀ site ∈ schema.sites query definition path, scope.Accepts site) ∧
    ∀ plan, (scope.select query definition path).outcome = .ok plan →
      List.Forall₂ scope.Mirrors (schema.sites query definition path) (plan.nodes path) := by
  intro scope
  have full : scope.options = {} := rfl
  refine ⟨⟨?_, returns_of_accepts full query definition path⟩, ?_⟩
  · rintro ⟨plan, returned⟩
    exact (planned_of_returns full query definition path plan returned).1
  · intro plan returned
    exact (planned_of_returns full query definition path plan returned).2

end Scope

end TypedQuery
