import TypedQuery.Plan.Resolve
import TypedQuery.Proofs.Plan.Agreement
import TypedQuery.Proofs.Plan.Grammar

/-!
# Filling in a value

Below a field all of whose inner fields take what their parent holds, which makes a plan `Passive`,
resolving calls nothing and cannot fail: it is `Plan.fill`, a function of the value, which writes
null for every selected member that is missing and leaves the rest as it is. The value that is
filled in agrees on the plan with the value as it was, since a missing member counts as null anyway.
So nothing that is conformed later can tell the two apart.
-/

namespace TypedQuery.Plan

/-- No field within the plan has a resolver, and none is selected twice by one object. -/
inductive Passive : Plan → Prop
  | leaf {definition scalar args} : Passive (.leaf definition scalar args)
  | branch {definition type selection args children} :
      (Entries.keys children).Nodup →
      (∀ child ∈ children, child.2.definition.hasResolver = false) →
      (∀ child ∈ children, Passive child.2) →
      Passive (.branch definition type selection args children)

mutual

/-- The value with null under every selected name that an object lacks. -/
def fill : Plan → Json → Json
  | .leaf .., value => value
  | .branch _ _ _ _ children, value =>
    match value with
    | .object members => .object (fillFields children members)
    | value => value
termination_by structural plan => plan

/-- The members of an object, with those that are selected filled in one after the other. -/
def fillFields : (children : List (String × Plan)) → (members : List (String × Json)) →
    List (String × Json)
  | [], members => members
  | (key, child) :: rest, members =>
    fillFields rest
      (Entries.put members key (fill child ((Entries.get? members key).getD .null)))
termination_by structural children => children

end

/-- What is not selected is not touched. -/
theorem get?_fillFields_of_not_mem {children : List (String × Plan)} {key : String}
    (h : key ∉ Entries.keys children) (members : List (String × Json)) :
    Entries.get? (fillFields children members) key = Entries.get? members key := by
  induction children generalizing members with
  | nil => rfl
  | cons entry children ih =>
      obtain ⟨name, child⟩ := entry
      rw [Entries.keys_cons, List.mem_cons, not_or] at h
      obtain ⟨other, rest⟩ := h
      rw [fillFields, ih rest, Entries.get?_put_of_ne other]

/-- Under a selected name stands what the parent held there, filled in. -/
theorem get?_fillFields {children : List (String × Plan)} (unique : (Entries.keys children).Nodup)
    {key : String} {child : Plan} (inside : (key, child) ∈ children)
    (members : List (String × Json)) :
    Entries.get? (fillFields children members) key
      = some (fill child ((Entries.get? members key).getD .null)) := by
  induction children generalizing members with
  | nil => cases inside
  | cons entry children ih =>
      obtain ⟨name, first⟩ := entry
      rw [Entries.keys_cons, List.nodup_cons] at unique
      obtain ⟨fresh, unique⟩ := unique
      rw [fillFields]
      obtain same | inside := List.mem_cons.mp inside
      · cases same
        rw [get?_fillFields_of_not_mem fresh, Entries.get?_put_self]
      · have named : key ∈ Entries.keys children := List.mem_map_of_mem inside
        have other : key ≠ name := fun same => fresh (same ▸ named)
        rw [ih unique inside, Entries.get?_put_of_ne other]

/-- Filling in a value does not change what the plan sees of it: `Plan.Agrees` relates the two. -/
theorem agrees_fill {plan : Plan} (passive : plan.Passive) (value : Json) :
    plan.Agrees value (plan.fill value) := by
  induction plan generalizing value with
  | leaf => exact .same
  | branch definition type selection args children ih =>
      obtain _ | ⟨unique, _, within⟩ := passive
      cases value with
      | null | bool | number | string | array => exact .same
      | object members =>
          refine .object fun child inside => ?_
          rw [get?_fillFields unique inside, Option.getD_some]
          exact ih child inside (within child inside) _

end TypedQuery.Plan

namespace TypedQuery.Resolution

variable {resolution : Resolution}

/-- A field without a resolver keeps what its parent holds under its name. -/
theorem ask_of_no_resolver {definition : Definition} (h : definition.hasResolver = false)
    (args : Option Json) (selection : List (String × Json)) (value : Json)
    (parent : List (String × Json)) (path : FieldPath) :
    resolution.ask definition args selection value parent path = pure (.open value) := by
  cases definition with
  | operation root => cases h
  | field inner =>
      have noResolver : inner.resolver = none := by simpa [Definition.hasResolver] using h
      rw [ask, noResolver]

theorem resolveFields_eq_fillFields {children : List (String × Plan)}
    (h : ∀ child ∈ children, ∀ value parent path,
      resolution.resolve child.2 value parent path = pure (child.2.fill value))
    (members : List (String × Json)) (path : FieldPath) :
    resolution.resolveFields children members path = pure (Plan.fillFields children members) := by
  induction children generalizing members with
  | nil => rfl
  | cons entry children ih =>
      obtain ⟨key, child⟩ := entry
      obtain ⟨first, rest⟩ := List.forall_mem_cons.1 h
      rw [resolveFields, first, pure_bind, ih rest, Plan.fillFields]

/-- Where no field has a resolver, resolving a field is filling in what its parent holds, by
`Plan.fill`. -/
theorem resolve_eq_fill {plan : Plan} (answered : plan.definition.hasResolver = false)
    (passive : plan.Passive) (value : Json) (parent : List (String × Json)) (path : FieldPath) :
    resolution.resolve plan value parent path = pure (plan.fill value) := by
  induction plan generalizing value parent path with
  | leaf definition scalar args =>
      have kept : definition.hasResolver = false := answered
      rw [resolve, ask_of_no_resolver kept]
      rfl
  | branch definition type selection args children ih =>
      obtain _ | ⟨_, plain, within⟩ := passive
      have kept : definition.hasResolver = false := answered
      rw [resolve, ask_of_no_resolver kept, pure_bind]
      cases value with
      | null | bool | number | string | array => rfl
      | object members =>
          have filled : resolution.resolveFields children members path
              = pure (Plan.fillFields children members) :=
            resolveFields_eq_fillFields (fun child inside value parent path =>
              ih child inside (plain child inside) (within child inside) value parent path)
              members path
          dsimp only
          rw [filled, pure_bind, Run.attachPath_pure]
          rfl

/-- The fields within a passive branch are filled in, whatever answers the branch itself. -/
theorem resolveFields_of_passive {definition : Definition} {type : ObjectType}
    {selection : List (String × Json)} {args : Option Json} {children : List (String × Plan)}
    (passive : (Plan.branch definition type selection args children).Passive)
    (members : List (String × Json)) (path : FieldPath) :
    resolution.resolveFields children members path = pure (Plan.fillFields children members) := by
  obtain _ | ⟨_, plain, within⟩ := passive
  refine resolveFields_eq_fillFields (fun child inside value parent path => ?_) members path
  exact resolve_eq_fill (plain child inside) (within child inside) value parent path

end TypedQuery.Resolution

namespace TypedQuery.Scope

variable {scope : Scope}

/-- Where no selected field has a resolver, the plan of a document is passive. -/
theorem passive_of_returns (full : scope.options = {}) {query : Json} (unique : query.KeysUnique)
    {definition : Definition} {path : FieldPath}
    (plain : ∀ site ∈ scope.schema.sites query definition path,
      site.definition.isOperation = false → site.definition.hasResolver = false)
    {plan : Plan} (h : (scope.select query definition path).Returns plan) : plan.Passive := by
  induction query using Json.object_induction generalizing definition path plan with
  | other query noMembers =>
      let site : Site := ⟨definition, query, path⟩
      obtain ⟨_, _, scalar, args, _, _, _, rfl⟩ := (returns_select_marked full site noMembers).mp h
      exact .leaf
  | object members ih =>
      let site : Site := ⟨definition, .object members, path⟩
      cases resolved : scope.schema.resolveOutput definition.signature.type with
      | error error => exact absurd h (not_returns_select_of_unresolved resolved)
      | ok type =>
          cases type with
          | scalar scalar =>
              obtain ⟨_, _, args, _, rfl⟩ := (returns_select_leaf full site rfl resolved).mp h
              exact .leaf
          | object type =>
              obtain ⟨_, args, _, children, within, rfl⟩ :=
                (returns_select_branch full site rfl resolved).mp h
              obtain _ | ⟨unique, uniqueWithin⟩ := unique
              · contradiction
              rw [Schema.sites_of_object resolved] at plain
              -- What is known of a child comes from the member for which it was planned.
              have planned (child : String × Plan) (inside : child ∈ children) :
                  child.2.definition.hasResolver = false ∧ child.2.Passive := by
                obtain ⟨⟨key, query⟩, selected, field, visible, _, returned⟩ :=
                  exists_of_mem_right within inside
                have held : (key, query) ∈ members := List.mem_of_mem_filter selected
                have plainWithin : ∀ site ∈ scope.schema.sites query (.field field) (path ++ [key]),
                    site.definition.isOperation = false → site.definition.hasResolver = false :=
                  fun site below => plain site
                    (List.mem_cons_of_mem _ (Schema.mem_sitesWithin held visible below))
                refine ⟨?_, ih _ held (uniqueWithin _ held) plainWithin returned⟩
                rw [definition_of_returns full returned]
                exact plainWithin _ (scope.schema.self_mem_sites ..) rfl
              have keys : (Entries.keys children).Nodup := by
                rw [keys_of_selected within]
                exact (List.filter_sublist.map Prod.fst).nodup unique
              exact .branch keys (fun child inside => (planned child inside).1)
                fun child inside => (planned child inside).2

end TypedQuery.Scope
