import TypedQuery.Proofs.Plan.Attribution

/-!
# What planning calls

Planning never asks a resolver. A site shows its guard, if it has one, and then the check of its
arguments, which together are its `preflight`, and the sites within it come after that. So a
document that has a plan shows its sites one after the other, each of them once, and nothing else:
`trace_select`.
-/

namespace TypedQuery

/-- What a guard is shown, if the event asks a guard. -/
def Event.guardRequest? : Event → Option GuardRequest
  | .call (.guard request) _ => some request
  | _ => none

theorem Event.ChecksArgs.guardRequest?_eq_none {event : Event} (h : event.ChecksArgs) :
    event.guardRequest? = none := by
  cases event with
  | note => rfl
  | call call inner =>
      cases call with
      | guard => cases h
      | resolveOperation | resolveField | checkInput | parse | serialize | deriveArgs => rfl

namespace Scope

variable (scope : Scope)

/-- What asking the guard of the site shows. -/
def guardTrace (site : Site) : List Event :=
  match site.definition.signature.guard with
  | some guard =>
    [.call (.guard (scope.guardRequest site)) (guard (scope.guardRequest site)).trace]
  | none => []

/-- What a site shows before the sites within it: its `guardTrace`, and then the check of its
arguments. -/
def preflight (site : Site) : List Event := scope.guardTrace site ++ (scope.argsCheck site).trace

/-- What the guard of the site is shown, if the site has one. -/
def guardRequest? (site : Site) : Option GuardRequest :=
  site.definition.signature.guard.map fun _ => scope.guardRequest site

theorem filterMap_guardTrace (site : Site) :
    (scope.guardTrace site).filterMap Event.guardRequest? = (scope.guardRequest? site).toList := by
  rw [guardTrace, guardRequest?]
  cases site.definition.signature.guard <;> rfl

theorem filterMap_preflight (site : Site) :
    (scope.preflight site).filterMap Event.guardRequest? = (scope.guardRequest? site).toList := by
  have checked : (scope.argsCheck site).trace.filterMap Event.guardRequest? = [] := by
    rw [List.filterMap_eq_nil_iff]
    exact fun event shown => (Arguments.only_check _ _ _ _ event shown).guardRequest?_eq_none
  rw [preflight, List.filterMap_append, checked, List.append_nil, filterMap_guardTrace]

/-- The sites show their guards once each and in order. -/
theorem filterMap_flatMap_preflight (sites : List Site) :
    (sites.flatMap scope.preflight).filterMap Event.guardRequest?
      = sites.filterMap scope.guardRequest? := by
  induction sites with
  | nil => rfl
  | cons site sites ih =>
      rw [List.flatMap_cons, List.filterMap_append, filterMap_preflight, ih,
        List.filterMap_cons]
      cases scope.guardRequest? site <;> rfl

/-- The guards of sites are shown the paths of the sites. -/
theorem paths_guardRequest?_sublist (sites : List Site) :
    ((sites.filterMap scope.guardRequest?).map (·.path)).Sublist (sites.map (·.path)) := by
  induction sites with
  | nil => exact List.nil_sublist _
  | cons site sites ih =>
      rw [List.filterMap_cons, guardRequest?, List.map_cons]
      cases site.definition.signature.guard with
      | none => exact ih.cons _
      | some guard => exact ih.cons_cons _

variable {scope}

theorem trace_askGuard (guards : scope.options.runGuards = true) (site : Site) :
    (scope.askGuard site.definition.signature site.query site.path).trace
      = scope.guardTrace site := by
  unfold askGuard guardTrace guardRequest
  cases site.definition.signature.guard <;> simp [guards]

theorem trace_askGuard_bind {α : Type} (guards : scope.options.runGuards = true) (site : Site)
    (guard : scope.GuardAccepts site) (next : Unit → Run Error α) :
    (scope.askGuard site.definition.signature site.query site.path >>= next).trace
      = scope.guardTrace site ++ (next ()).trace := by
  rw [Run.trace_bind ((returns_askGuard guards).mpr guard), trace_askGuard guards]

theorem trace_selectMarked (checks : scope.options.checkArgs = true) {site : Site}
    (h : site.query.members? = none)
    (notRequired : ∀ slot, site.definition.signature.args = some slot → slot.required = false)
    (scalar : Scalar) :
    (scope.selectMarked site.definition (.scalar scalar) site.path).trace
      = (scope.argsCheck site).trace := by
  have passes : ¬ site.definition.signature.args.any (·.required) = true :=
    Bool.not_eq_true _ ▸ any_required_eq_false_iff.mpr notRequired
  rw [selectMarked]
  dsimp only
  rw [if_neg passes, takeArgs_of_members?_eq_none checks h, bind_pure_comp, Run.trace_map]

theorem trace_selectLeaf (checks : scope.options.checkArgs = true) {site : Site}
    {members : List (String × Json)} (h : site.query = .object members)
    (onlyArgs : ∀ key ∈ Entries.keys members, key = argsKey) (scalar : Scalar) :
    (scope.selectLeaf site.definition scalar members site.path).trace
      = (scope.argsCheck site).trace := by
  have passes : ¬ (Entries.keys members).any (· ≠ argsKey) = true := by
    simpa [List.any_eq_true] using onlyArgs
  rw [selectLeaf]
  dsimp only
  rw [if_neg passes, takeArgs_of_object checks h, bind_pure_comp, Run.trace_map]

theorem trace_selectFields {members : List (String × Json)} {type : ObjectType}
    {path : FieldPath} {children : List (String × Plan)}
    (h : (scope.selectFields members type true path).Returns children)
    (ih : ∀ member ∈ members, ∀ definition path plan,
      (scope.select member.2 definition path).Returns plan →
        (scope.select member.2 definition path).trace
          = (scope.schema.sites member.2 definition path).flatMap scope.preflight) :
    (scope.selectFields members type true path).trace
      = (scope.schema.sitesWithin members type path).flatMap scope.preflight := by
  induction members generalizing children with
  | nil => rfl
  | cons member members ihMembers =>
      obtain ⟨key, query⟩ := member
      obtain ⟨first, rest⟩ := List.forall_mem_cons.1 ih
      by_cases hkey : key = argsKey
      · subst hkey
        rw [selectFields_cons_argsKey] at h ⊢
        rw [Schema.sitesWithin_cons_of_eq_none type.selectable?_argsKey, ihMembers h rest]
      · cases selected : type.selectable? key with
        | none =>
            obtain ⟨error, refused⟩ := scope.selectFields_cons_refused hkey selected query members
              true path
            rw [refused] at h
            exact absurd h Run.not_returns_fail
        | some field =>
            rw [selectFields_cons_selectable selected] at h ⊢
            obtain ⟨child, planned, h⟩ := Run.returns_bind.mp h
            obtain ⟨others, plannedRest, _⟩ := Run.returns_bind.mp h
            rw [Run.trace_bind planned, Run.trace_bind plannedRest, Run.trace_pure,
              List.append_nil, Schema.sitesWithin_cons_selectable selected, List.flatMap_append,
              first _ _ _ planned, ihMembers plannedRest rest]

section Full

variable (full : scope.options = {})
include full

/-- A document that has a plan shows its sites one after the other, and nothing else. -/
theorem trace_select (query : Json) (definition : Definition) (path : FieldPath) (plan : Plan)
    (h : (scope.select query definition path).Returns plan) :
    (scope.select query definition path).trace
      = (scope.schema.sites query definition path).flatMap scope.preflight := by
  obtain ⟨guards, checks⟩ := runs_everything full
  induction query using Json.object_induction generalizing definition path plan with
  | other query noMembers =>
      let site : Site := ⟨definition, query, path⟩
      obtain ⟨guard, marker, scalar, args, resolved, notRequired, _⟩ :=
        (returns_select_marked full site noMembers).mp h
      rw [select_of_members?_eq_none noMembers, Run.trace_attachPath,
        trace_askGuard_bind guards site guard, resolved, Run.ofExcept_ok, pure_bind,
        if_pos marker, trace_selectMarked checks noMembers notRequired,
        Schema.sites_of_members?_eq_none noMembers, List.flatMap_singleton, preflight]
  | object members ih =>
      let site : Site := ⟨definition, .object members, path⟩
      cases resolved : scope.schema.resolveOutput definition.signature.type with
      | error error => exact absurd h (not_returns_select_of_unresolved resolved)
      | ok type =>
          cases type with
          | scalar scalar =>
              obtain ⟨guard, onlyArgs, _⟩ := (returns_select_leaf full site rfl resolved).mp h
              have leaf : (scope.selectLeaf definition scalar members path).trace
                  = (scope.argsCheck site).trace :=
                trace_selectLeaf checks (rfl : site.query = .object members) onlyArgs scalar
              rw [select_of_scalar resolved, Run.trace_attachPath,
                trace_askGuard_bind guards site guard, leaf, Schema.sites_of_scalar resolved,
                List.flatMap_singleton, preflight]
          | object type =>
              obtain ⟨guard, args, checked, children, within, _⟩ :=
                (returns_select_branch full site rfl resolved).mp h
              have taken : scope.takeArgs definition.signature (Entries.get? members argsKey) path
                  = scope.argsCheck site :=
                takeArgs_of_object checks (rfl : site.query = .object members)
              have planned : scope.plansChildren definition = true := by
                simp [plansChildren, full]
              have returned : (scope.selectFields members type true path).Returns children :=
                returns_selectFields.mpr within
              rw [select_of_object resolved, Run.trace_attachPath,
                trace_askGuard_bind guards site guard, taken, Run.trace_bind checked, planned,
                Run.trace_bind returned, Run.trace_pure, List.append_nil,
                trace_selectFields returned ih, Schema.sites_of_object resolved,
                List.flatMap_cons, preflight, List.append_assoc]

end Full

end Scope

end TypedQuery
