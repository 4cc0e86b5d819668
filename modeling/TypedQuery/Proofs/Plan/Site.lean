import Mathlib.Data.List.Nodup
import TypedQuery.Plan.Select
import TypedQuery.Proofs.Elements

/-!
# Sites and nodes

A document selects fields, and a field with what the client wrote for it is a `Site`. The sites of a
document, `Schema.sites`, and the nodes of a plan, `Plan.nodes`, are listed in one order: each comes
before those within it, and those within it in the order in which they are written. What is said of
a document or of a plan as a whole is then said of every site or node on its own.
-/

namespace TypedQuery

/-- Paths that go on from one path by different names are different. -/
theorem ne_of_prefix_of_ne {path first second : FieldPath} {key other : String}
    (here : path ++ [key] <+: first) (there : path ++ [other] <+: second)
    (different : key ≠ other) : first ≠ second := by
  rintro rfl
  have equal : path ++ [key] = path ++ [other] :=
    (List.prefix_of_prefix_length_le here there (by simp)).eq_of_length (by simp)
  exact different (by simpa using equal)

theorem ne_of_prefix_concat {path further : FieldPath} {key : String}
    (beyond : path ++ [key] <+: further) : further ≠ path := by
  rintro rfl
  exact absurd beyond.length_le (by simp)

/-- A field that a document selects. -/
structure Site where
  definition : Definition
  /-- What the client wrote for it. -/
  query : Json
  path : FieldPath

namespace Site

/-- The arguments that the client gives, if any. -/
def args? (site : Site) : Option Json := site.query.get? argsKey

/-- What the client selects in the field, which is everything but the arguments. -/
def selection (site : Site) : List (String × Json) :=
  (site.query.members?.getD []).filter (·.1 ≠ argsKey)

end Site

/-- What is selected in a site is a part of what the client wrote for it, which `Holds` it. -/
theorem Site.holds_of_mem_selection {site : Site} {key : String}
    (h : key ∈ Entries.keys site.selection) :
    key ≠ argsKey ∧ ∃ part, site.query.Holds [key] part := by
  obtain ⟨⟨key, part⟩, selected, rfl⟩ := List.mem_map.mp h
  obtain ⟨inside, noArgs⟩ := List.mem_filter.mp selected
  refine ⟨by simpa using noArgs, part, ?_⟩
  cases query : site.query with
  | object members =>
      rw [query] at inside
      exact .member inside .self
  | null | bool | number | string | array =>
      rw [query] at inside
      cases inside

/-- The field that a name selects. Hidden fields are not selected by their names, and nothing
is selected by the name of the arguments. -/
def ObjectType.selectable? (type : ObjectType) (key : String) : Option Field :=
  if key = argsKey then none else (Entries.get? type.fields key).filter (!·.hidden)

theorem ObjectType.selectable?_eq_some_iff {type : ObjectType} {key : String} {field : Field} :
    type.selectable? key = some field ↔
      key ≠ argsKey ∧ Entries.get? type.fields key = some field ∧ field.hidden = false := by
  unfold selectable?
  split <;> simp [Option.filter_eq_some_iff, *]

@[simp] theorem ObjectType.selectable?_argsKey (type : ObjectType) :
    type.selectable? argsKey = none := if_pos rfl

namespace Schema

mutual

/-- The sites of a document that is written for a field at a path, that field first. -/
def sites (schema : Schema) : (query : Json) → Definition → FieldPath → List Site
  | .object members, definition, path =>
    ⟨definition, .object members, path⟩ ::
      match schema.resolveOutput definition.signature.type with
      | .ok (.object type) => sitesWithin schema members type path
      | _ => []
  | query, definition, path => [⟨definition, query, path⟩]
termination_by structural query => query

/-- The sites of what is selected in an object of that type. -/
def sitesWithin (schema : Schema) :
    (members : List (String × Json)) → ObjectType → FieldPath → List Site
  | [], _, _ => []
  | (key, query) :: rest, type, path =>
    (match type.selectable? key with
      | some field => sites schema query (.field field) (path ++ [key])
      | none => []) ++ sitesWithin schema rest type path
termination_by structural members => members

end

variable {schema : Schema}

theorem sites_of_members?_eq_none {query : Json} (h : query.members? = none)
    (definition : Definition) (path : FieldPath) :
    schema.sites query definition path = [⟨definition, query, path⟩] := by
  cases query with
  | object members => cases h
  | null | bool | number | string | array => rfl

theorem sites_of_scalar {definition : Definition} {scalar : Scalar}
    (h : schema.resolveOutput definition.signature.type = .ok (.scalar scalar))
    (members : List (String × Json)) (path : FieldPath) :
    schema.sites (.object members) definition path
      = [⟨definition, .object members, path⟩] := by
  rw [sites, h]

theorem sites_of_object {definition : Definition} {type : ObjectType}
    (h : schema.resolveOutput definition.signature.type = .ok (.object type))
    (members : List (String × Json)) (path : FieldPath) :
    schema.sites (.object members) definition path
      = ⟨definition, .object members, path⟩ :: schema.sitesWithin members type path := by
  rw [sites, h]

/-- The field itself is the first of the `sites`. -/
theorem self_mem_sites (schema : Schema) (query : Json) (definition : Definition)
    (path : FieldPath) : ⟨definition, query, path⟩ ∈ schema.sites query definition path := by
  cases query <;> exact List.mem_cons_self

theorem sitesWithin_cons_selectable {type : ObjectType} {key : String} {field : Field}
    (h : type.selectable? key = some field) (query : Json) (rest : List (String × Json))
    (path : FieldPath) :
    schema.sitesWithin ((key, query) :: rest) type path
      = schema.sites query (.field field) (path ++ [key])
        ++ schema.sitesWithin rest type path := by
  rw [sitesWithin, h]

theorem sitesWithin_cons_of_eq_none {type : ObjectType} {key : String}
    (h : type.selectable? key = none) (query : Json) (rest : List (String × Json))
    (path : FieldPath) :
    schema.sitesWithin ((key, query) :: rest) type path = schema.sitesWithin rest type path := by
  rw [sitesWithin, h, List.nil_append]

/-- The sites of a selected member are among the sites of the selection. -/
theorem mem_sitesWithin {members : List (String × Json)} {key : String} {query : Json}
    (inside : (key, query) ∈ members) {type : ObjectType} {field : Field}
    (selected : type.selectable? key = some field) {path : FieldPath} {site : Site}
    (h : site ∈ schema.sites query (.field field) (path ++ [key])) :
    site ∈ schema.sitesWithin members type path := by
  induction members with
  | nil => cases inside
  | cons member members ih =>
      obtain ⟨name, first⟩ := member
      rw [sitesWithin, List.mem_append]
      obtain same | inside := List.mem_cons.mp inside
      · cases same
        rw [selected]
        exact .inl h
      · exact .inr (ih inside)

/-- Every site of a selection is among the sites of a selected member. -/
theorem exists_member_of_mem_sitesWithin {members : List (String × Json)} {type : ObjectType}
    {path : FieldPath} {site : Site} (h : site ∈ schema.sitesWithin members type path) :
    ∃ member ∈ members, ∃ field, type.selectable? member.1 = some field ∧
      site ∈ schema.sites member.2 (.field field) (path ++ [member.1]) := by
  induction members with
  | nil => cases h
  | cons member members ih =>
      obtain ⟨key, query⟩ := member
      rw [sitesWithin, List.mem_append] at h
      obtain inside | inside := h
      · cases selected : type.selectable? key with
        | none =>
            rw [selected] at inside
            cases inside
        | some field =>
            rw [selected] at inside
            exact ⟨_, List.mem_cons_self, field, selected, inside⟩
      · obtain ⟨member, held, found⟩ := ih inside
        exact ⟨member, List.mem_cons_of_mem _ held, found⟩

/-- What holds of the field for which a document is written, and goes over from a field to the
fields that can be selected in it, holds of all that the document selects. -/
theorem of_mem_sites {motive : Definition → Prop}
    (step : ∀ definition type key field, motive definition →
      schema.resolveOutput definition.signature.type = .ok (.object type) →
      type.selectable? key = some field → motive (.field field))
    {query : Json} {definition : Definition} {path : FieldPath} (first : motive definition)
    {site : Site} (here : site ∈ schema.sites query definition path) : motive site.definition := by
  induction query using Json.object_induction generalizing definition path with
  | other query noMembers =>
      rw [sites_of_members?_eq_none noMembers, List.mem_singleton] at here
      subst here
      exact first
  | object members ih =>
      rw [sites, List.mem_cons] at here
      obtain rfl | within := here
      · exact first
      · split at within
        next type resolved =>
          obtain ⟨member, held, field, selected, below⟩ := exists_member_of_mem_sitesWithin within
          exact ih member held (step definition type member.1 field first resolved selected) below
        next => cases within

/-- The arguments of a field are no selection in it. -/
theorem sitesWithin_filter (members : List (String × Json)) (type : ObjectType)
    (path : FieldPath) :
    schema.sitesWithin (members.filter (·.1 ≠ argsKey)) type path
      = schema.sitesWithin members type path := by
  induction members with
  | nil => rfl
  | cons member rest ih =>
      obtain ⟨key, query⟩ := member
      by_cases h : key = argsKey
      · subst h
        rw [List.filter_cons_of_neg (by simp), ih,
          sitesWithin_cons_of_eq_none type.selectable?_argsKey]
      · rw [List.filter_cons_of_pos (by simpa using h), sitesWithin, ih, sitesWithin]

/-- The path of a site goes on by keys that lead to what the client wrote for it, none of which
is the one for arguments. -/
theorem holds_of_mem_sites {query : Json} {definition : Definition} {path : FieldPath}
    {site : Site} (h : site ∈ schema.sites query definition path) :
    ∃ keys, site.path = path ++ keys ∧ argsKey ∉ keys ∧ query.Holds keys site.query := by
  induction query using Json.object_induction generalizing definition path with
  | other query noMembers =>
      rw [sites_of_members?_eq_none noMembers, List.mem_singleton] at h
      subst h
      exact ⟨[], (List.append_nil path).symm, List.not_mem_nil, .self⟩
  | object members ih =>
      rw [sites, List.mem_cons] at h
      obtain rfl | inside := h
      · exact ⟨[], (List.append_nil path).symm, List.not_mem_nil, .self⟩
      · split at inside
        · obtain ⟨⟨key, query⟩, held, field, selected, within⟩ :=
            exists_member_of_mem_sitesWithin inside
          obtain ⟨keys, goesOn, noArgs, holds⟩ := ih _ held within
          have noArgsKey : key ≠ argsKey := (ObjectType.selectable?_eq_some_iff.mp selected).1
          refine ⟨key :: keys, ?_, ?_, .member held holds⟩
          · rw [goesOn, List.append_assoc, List.singleton_append]
          · exact List.not_mem_cons_of_ne_of_not_mem noArgsKey.symm noArgs
        · cases inside

/-- The path of a site within a field goes on from the path of the field. -/
theorem prefix_of_mem_sites {query : Json} {definition : Definition} {path : FieldPath}
    {site : Site} (h : site ∈ schema.sites query definition path) : path <+: site.path := by
  obtain ⟨keys, goesOn, _⟩ := holds_of_mem_sites h
  exact ⟨keys, goesOn.symm⟩

theorem exists_key_of_mem_sitesWithin {members : List (String × Json)} {type : ObjectType}
    {path : FieldPath} {site : Site} (h : site ∈ schema.sitesWithin members type path) :
    ∃ key ∈ Entries.keys members, path ++ [key] <+: site.path := by
  obtain ⟨member, held, field, _, within⟩ := exists_member_of_mem_sitesWithin h
  exact ⟨member.1, List.mem_map_of_mem held, prefix_of_mem_sites within⟩

theorem nodup_paths_sitesWithin {members : List (String × Json)} {type : ObjectType}
    {path : FieldPath} (unique : (Entries.keys members).Nodup)
    (ih : ∀ member ∈ members, ∀ definition path,
      ((schema.sites member.2 definition path).map (·.path)).Nodup) :
    ((schema.sitesWithin members type path).map (·.path)).Nodup := by
  induction members with
  | nil => exact List.nodup_nil
  | cons member members ihMembers =>
      obtain ⟨key, query⟩ := member
      obtain ⟨first, rest⟩ := List.forall_mem_cons.1 ih
      obtain ⟨fresh, unique⟩ := List.nodup_cons.1 unique
      cases selected : type.selectable? key with
      | none =>
          rw [sitesWithin_cons_of_eq_none selected]
          exact ihMembers unique rest
      | some field =>
          rw [sitesWithin_cons_selectable selected, List.map_append, List.nodup_append]
          refine ⟨first _ _, ihMembers unique rest, ?_⟩
          intro _ ofFirst _ ofRest
          obtain ⟨site, inside, rfl⟩ := List.mem_map.1 ofFirst
          obtain ⟨other, insideRest, rfl⟩ := List.mem_map.1 ofRest
          obtain ⟨key', held, beyond⟩ := exists_key_of_mem_sitesWithin insideRest
          have different : key ≠ key' := fun same => fresh (same ▸ held)
          exact ne_of_prefix_of_ne (prefix_of_mem_sites inside) beyond different

/-- Where no key is named twice, no two sites have the same path. -/
theorem nodup_paths_sites {query : Json} (unique : query.KeysUnique) (definition : Definition)
    (path : FieldPath) : ((schema.sites query definition path).map (·.path)).Nodup := by
  induction unique generalizing definition path with
  | other noMembers =>
      rw [sites_of_members?_eq_none noMembers]
      exact List.nodup_singleton _
  | @object members unique _ ih =>
      rw [sites, List.map_cons, List.nodup_cons]
      split
      · refine ⟨?_, nodup_paths_sitesWithin unique ih⟩
        intro ofSelf
        obtain ⟨site, inside, same⟩ := List.mem_map.1 ofSelf
        obtain ⟨key, _, beyond⟩ := exists_key_of_mem_sitesWithin inside
        exact ne_of_prefix_concat beyond same
      · exact ⟨List.not_mem_nil, List.nodup_nil⟩

end Schema

namespace Plan

@[elab_as_elim, induction_eliminator]
theorem induction {motive : Plan → Prop}
    (leaf : ∀ definition scalar args, motive (.leaf definition scalar args))
    (branch : ∀ definition type selection args children,
      (∀ child ∈ children, motive child.2) →
        motive (.branch definition type selection args children))
    (plan : Plan) : motive plan :=
  @Plan.rec motive (fun children => ∀ child ∈ children, motive child.2)
    (fun child => motive child.2) leaf branch
    (List.forall_mem_nil _) (fun _ _ first rest => List.forall_mem_cons.2 ⟨first, rest⟩)
    (fun _ _ hplan => hplan) plan

/-- Leaves and branches alike are told from the fields within. -/
@[elab_as_elim]
theorem children_induction {motive : Plan → Prop}
    (step : ∀ plan : Plan, (∀ child ∈ plan.children, motive child.2) → motive plan)
    (plan : Plan) : motive plan := by
  induction plan with
  | leaf definition scalar args => exact step _ nofun
  | branch definition type selection args children ih => exact step _ ih

/-- The plans of the fields selected within, which a leaf does not have. -/
def nested? : Plan → Option (List (String × Plan))
  | .leaf .. => none
  | .branch _ _ _ _ children => some children

mutual

/-- The nodes of a plan with their paths, that of the plan first. -/
def nodes : (plan : Plan) → FieldPath → List (FieldPath × Plan)
  | .leaf definition scalar args, path => [(path, .leaf definition scalar args)]
  | .branch definition type selection args children, path =>
    (path, .branch definition type selection args children) :: nodesWithin children path
termination_by structural plan => plan

def nodesWithin : (children : List (String × Plan)) → FieldPath → List (FieldPath × Plan)
  | [], _ => []
  | (key, child) :: rest, path => nodes child (path ++ [key]) ++ nodesWithin rest path
termination_by structural children => children

end

theorem nodes_eq (plan : Plan) (path : FieldPath) :
    plan.nodes path = (path, plan) :: nodesWithin plan.children path := by
  cases plan <;> rfl

end Plan

end TypedQuery
