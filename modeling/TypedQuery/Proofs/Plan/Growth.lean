import TypedQuery.Proofs.Arguments.Growth
import TypedQuery.Proofs.Plan.Attribution
import TypedQuery.Proofs.Plan.Lookups

/-!
# Planning over a schema that grows

Planning looks up the type of every field that a document selects, at any depth, and the types of
the slots that its arguments reach. The guards that come before a look-up are asked alike over both
schemas, and a look-up that fails ends the plan. So a plan `Outgrows` the one over the smaller
schema, step by step: `outgrows_select`.
-/

namespace TypedQuery.Scope

variable {scope : Scope} {sites : List Site} {grown : Schema} {missing : Option Cause}

/-- Planning is alike over both schemas, in the sense of `Run.Outgrows`. -/
abbrev Outgrows (scope : Scope) (sites : List Site) (missing : Option Cause) {α : Type}
    (run other : Run Error α) : Prop :=
  run.Outgrows (scope.planningProtocol sites) missing other

section Site

variable {site : Site} (here : site ∈ sites)
include here

theorem quiet_askGuard :
    (scope.askGuard site.definition.signature site.query site.path).Quiet
      (scope.planningProtocol sites) :=
  Run.quiet_attachPath_iff.mp (planningProtocol_governs here).follows_askGuard.quiet

variable (grows : scope.schema.GrowsInto grown missing)
include grows

theorem outgrows_takeArgs (args : Option Json) :
    scope.Outgrows sites missing (scope.takeArgs site.definition.signature args site.path)
      ((scope.withSchema grown).takeArgs site.definition.signature args site.path) := by
  have regular : (scope.planningProtocol sites).Regular := planningProtocol_regular
  unfold takeArgs withSchema
  dsimp only
  split
  · exact Arguments.outgrows_check regular grows (planningProtocol_coversArgs here) args
  · exact Run.outgrows_pure args

theorem outgrows_selectMarked (type : ResolvedOutput) :
    scope.Outgrows sites missing (scope.selectMarked site.definition type site.path)
      ((scope.withSchema grown).selectMarked site.definition type site.path) := by
  cases type with
  | object type => exact Run.outgrows_fail _
  | scalar scalar =>
      rw [selectMarked, selectMarked]
      dsimp only
      split
      · exact Run.outgrows_fail _
      · exact (outgrows_takeArgs here grows none).bind fun _ _ => Run.outgrows_pure _

theorem outgrows_selectLeaf (scalar : Scalar) (members : List (String × Json)) :
    scope.Outgrows sites missing (scope.selectLeaf site.definition scalar members site.path)
      ((scope.withSchema grown).selectLeaf site.definition scalar members site.path) := by
  unfold selectLeaf
  dsimp only
  split
  · exact Run.outgrows_fail _
  · exact (outgrows_takeArgs here grows _).bind fun _ _ => Run.outgrows_pure _

end Site

theorem outgrows_selectFields {type : ObjectType} {members : List (String × Json)}
    {path : FieldPath}
    (h : ∀ member ∈ members, ∀ field, type.selectable? member.1 = some field →
      scope.Outgrows sites missing
        (scope.select member.2 (.field field) (path ++ [member.1]))
        ((scope.withSchema grown).select member.2 (.field field) (path ++ [member.1])))
    (plan : Bool) :
    scope.Outgrows sites missing (scope.selectFields members type plan path)
      ((scope.withSchema grown).selectFields members type plan path) := by
  induction members with
  | nil => exact Run.outgrows_pure []
  | cons member members ih =>
      obtain ⟨key, query⟩ := member
      obtain ⟨first, rest⟩ := List.forall_mem_cons.1 h
      have others : scope.Outgrows sites missing (scope.selectFields members type plan path)
          ((scope.withSchema grown).selectFields members type plan path) := ih rest
      rw [selectFields, selectFields]
      split
      · exact others
      next noArgs =>
        split
        · exact Run.outgrows_fail _
        next field held =>
          split
          · exact Run.outgrows_fail _
          next visible =>
            split
            · have selectable : type.selectable? key = some field :=
                ObjectType.selectable?_eq_some_iff.mpr
                  ⟨noArgs, held, Bool.not_eq_true _ ▸ visible⟩
              refine (first field selectable).bind fun _ _ => others.bind fun _ _ => ?_
              exact Run.outgrows_pure _
            · exact others

/-- A document is planned alike over both schemas, unless a type that it reaches is missing. -/
theorem outgrows_select (grows : scope.schema.GrowsInto grown missing) (query : Json)
    (definition : Definition) (path : FieldPath)
    (inside : ∀ site ∈ scope.schema.sites query definition path, site ∈ sites) :
    scope.Outgrows sites missing (scope.select query definition path)
      ((scope.withSchema grown).select query definition path) := by
  induction query using Json.object_induction generalizing definition path with
  | other query noMembers =>
      let site : Site := ⟨definition, query, path⟩
      have here : site ∈ sites := inside site (scope.schema.self_mem_sites ..)
      rw [select_of_members?_eq_none noMembers, select_of_members?_eq_none noMembers]
      refine Run.Outgrows.attachPath ?_ path
      refine (quiet_askGuard here).outgrows.bind fun _ _ => ?_
      refine (Run.outgrows_lookup (grows.outputs _)).bind fun type _ => ?_
      have marker : (scope.withSchema grown).marker = scope.marker := rfl
      rw [marker]
      split
      · exact outgrows_selectMarked here grows type
      · exact Run.outgrows_fail _
  | object members ih =>
      let site : Site := ⟨definition, .object members, path⟩
      have here : site ∈ sites := inside site (scope.schema.self_mem_sites ..)
      rw [select, select]
      beta_reduce
      refine Run.Outgrows.attachPath ?_ path
      refine (quiet_askGuard here).outgrows.bind fun _ _ => ?_
      refine (Run.outgrows_lookup (grows.outputs _)).bind fun type resolved => ?_
      cases type with
      | scalar scalar => exact outgrows_selectLeaf here grows scalar members
      | object type =>
          have children (member : String × Json) (held : member ∈ members) (field : Field)
              (selectable : type.selectable? member.1 = some field) :
              scope.Outgrows sites missing
                (scope.select member.2 (.field field) (path ++ [member.1]))
                ((scope.withSchema grown).select member.2 (.field field)
                  (path ++ [member.1])) := by
            refine ih member held (.field field) _ fun within among => inside within ?_
            rw [Schema.sites_of_object resolved]
            exact List.mem_cons_of_mem _ (Schema.mem_sitesWithin held selectable among)
          refine (outgrows_takeArgs here grows _).bind fun _ _ => ?_
          refine (outgrows_selectFields children _).bind fun _ _ => ?_
          exact Run.outgrows_pure _

end TypedQuery.Scope
