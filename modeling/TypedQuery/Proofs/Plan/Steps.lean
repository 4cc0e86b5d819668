import TypedQuery.Proofs.Plan.Calls
import TypedQuery.Proofs.Plan.Naming

/-!
# Planning step by step

Planning takes one `Step` after the other. It inspects a field, then the fields selected in it in
the order in which they are written, and where a name selects nothing the step is to refuse it. The
`Scope.steps` can be told from the document and the schema ahead of the run, and by `select_eq_forM`
the run is the steps in turn, up to the first one that fails. So the guards that are asked are those
of the fields at the front of this list, each once, and all of them if there is a plan.

Where fields within fields that have a resolver are left out of a plan, they are no steps of it.
-/

namespace TypedQuery

/-- Calls that ask no guard, and any errors that name a path. -/
def Protocol.guardless : Protocol := Protocol.attributed.restrict (·.guardRequest? = none)

/-- What planning comes to: a field that is selected, or a name that selects none. -/
inductive Step where
  | field (site : Site)
  | refused (path : FieldPath) (fault : QueryFault)

def Step.site? : Step → Option Site
  | .field site => some site
  | .refused .. => none

/-- The step that a name leads to which selects nothing. The arguments are no step. -/
def ObjectType.refusals (type : ObjectType) (key : String) (path : FieldPath) : List Step :=
  if key = argsKey then []
  else ((type.objection? key).map (Step.refused (path ++ [key]))).toList

namespace Scope

variable (scope : Scope)

/-- What is done at a field once its type is known, ahead of the fields selected in it. -/
def inspect (site : Site) (type : ResolvedOutput) : Run Error Unit :=
  match site.query.members?, type with
  | none, type =>
    if site.query.same scope.marker then
      (scope.selectMarked site.definition type site.path).discard
    else .fail (.query .notSelection)
  | some members, .scalar scalar =>
    (scope.selectLeaf site.definition scalar members site.path).discard
  | some members, .object _ =>
    (scope.takeArgs site.definition.signature (Entries.get? members argsKey) site.path).discard

/-- What is done in one step. -/
def take : Step → Run Error Unit
  | .field site => Run.attachPath site.path do
    scope.askGuard site.definition.signature site.query site.path
    scope.inspect site (← Run.ofExcept (scope.schema.resolveOutput site.definition.signature.type))
  | .refused path fault => .fail ((Error.query fault).withPath path)

mutual

/-- The steps in which a field is planned, itself first. -/
def steps : (query : Json) → Definition → FieldPath → List Step
  | .object members, definition, path =>
    .field ⟨definition, .object members, path⟩ ::
      match scope.schema.resolveOutput definition.signature.type with
      | .ok (.object type) => stepsWithin members type (scope.plansChildren definition) path
      | _ => []
  | query, definition, path => [.field ⟨definition, query, path⟩]
termination_by structural query => query

/-- The steps in which the fields are planned that are selected in an object. -/
def stepsWithin : (members : List (String × Json)) → ObjectType → (plan : Bool) → FieldPath →
    List Step
  | [], _, _, _ => []
  | (key, query) :: rest, type, plan, path =>
    (match type.selectable? key with
      | some field => if plan then steps query (.field field) (path ++ [key]) else []
      | none => type.refusals key path) ++ stepsWithin rest type plan path
termination_by structural members => members

end

variable {scope}

theorem steps_of_members?_eq_none {query : Json} (h : query.members? = none)
    (definition : Definition) (path : FieldPath) :
    scope.steps query definition path = [.field ⟨definition, query, path⟩] := by
  cases query with
  | object members => cases h
  | null | bool | number | string | array => rfl

theorem steps_of_unresolved {definition : Definition} {error : Error}
    (h : scope.schema.resolveOutput definition.signature.type = .error error)
    (members : List (String × Json)) (path : FieldPath) :
    scope.steps (.object members) definition path
      = [.field ⟨definition, .object members, path⟩] := by
  rw [steps, h]

theorem steps_of_scalar {definition : Definition} {scalar : Scalar}
    (h : scope.schema.resolveOutput definition.signature.type = .ok (.scalar scalar))
    (members : List (String × Json)) (path : FieldPath) :
    scope.steps (.object members) definition path
      = [.field ⟨definition, .object members, path⟩] := by
  rw [steps, h]

theorem steps_of_object {definition : Definition} {type : ObjectType}
    (h : scope.schema.resolveOutput definition.signature.type = .ok (.object type))
    (members : List (String × Json)) (path : FieldPath) :
    scope.steps (.object members) definition path
      = .field ⟨definition, .object members, path⟩
        :: scope.stepsWithin members type (scope.plansChildren definition) path := by
  rw [steps, h]

theorem take_of_ok {site : Site} {type : ResolvedOutput}
    (h : scope.schema.resolveOutput site.definition.signature.type = .ok type) :
    scope.take (.field site) = Run.attachPath site.path
      (scope.askGuard site.definition.signature site.query site.path >>= fun _ =>
        scope.inspect site type) := by
  rw [take, h]
  rfl

/-- A name that selects nothing is refused before anything else is done for it. -/
theorem selectFields_cons_of_none {type : ObjectType} {key : String}
    (h : type.selectable? key = none) (query : Json) (rest : List (String × Json)) (plan : Bool)
    (path : FieldPath) :
    (scope.selectFields ((key, query) :: rest) type plan path).discard
      = forM (type.refusals key path) scope.take >>= fun _ =>
          (scope.selectFields rest type plan path).discard := by
  rw [ObjectType.selectable?] at h
  by_cases args : key = argsKey
  · subst args
    rw [selectFields_cons_argsKey, ObjectType.refusals, if_pos rfl]
    rfl
  · rw [if_neg args] at h
    rw [selectFields, if_neg args, ObjectType.refusals, if_neg args, ObjectType.objection?]
    cases held : Entries.get? type.fields key with
    | none => rfl
    | some field =>
        have hidden : field.hidden = true := by simpa [held] using h
        simp only [hidden, if_true]
        rfl

theorem selectFields_cons_of_some {type : ObjectType} {key : String} {field : Field}
    (h : type.selectable? key = some field) (query : Json) (rest : List (String × Json))
    (plan : Bool) (path : FieldPath) :
    (scope.selectFields ((key, query) :: rest) type plan path).discard
      = (if plan then (scope.select query (.field field) (path ++ [key])).discard else pure ())
        >>= fun _ => (scope.selectFields rest type plan path).discard := by
  cases plan with
  | true =>
      rw [selectFields_cons_selectable h, Run.discard_bind, if_pos rfl, Run.discard_then]
      exact bind_congr fun child => Run.discard_bind ..
  | false =>
      rw [selectFields_cons_unplanned h]
      rfl

theorem selectFields_eq_forM {members : List (String × Json)} {type : ObjectType} {plan : Bool}
    {path : FieldPath}
    (ih : ∀ member ∈ members, ∀ definition path,
      (scope.select member.2 definition path).discard
        = forM (scope.steps member.2 definition path) scope.take) :
    (scope.selectFields members type plan path).discard
      = forM (scope.stepsWithin members type plan path) scope.take := by
  induction members with
  | nil => rfl
  | cons member members ihMembers =>
      obtain ⟨key, query⟩ := member
      obtain ⟨first, rest⟩ := List.forall_mem_cons.1 ih
      rw [stepsWithin, List.forM_append, ← ihMembers rest]
      cases selected : type.selectable? key with
      | none => exact selectFields_cons_of_none selected query members plan path
      | some field =>
          rw [selectFields_cons_of_some selected, first]
          cases plan <;> rfl

/-- An object field is inspected, and then the fields are planned that are selected in it. -/
theorem select_eq_take_bind {definition : Definition} {type : ObjectType}
    (resolved : scope.schema.resolveOutput definition.signature.type = .ok (.object type))
    (members : List (String × Json)) (path : FieldPath) :
    (scope.select (.object members) definition path).discard
      = scope.take (.field ⟨definition, .object members, path⟩) >>= fun _ =>
          (scope.selectFields members type (scope.plansChildren definition) path).discard := by
  have entered : scope.take (.field ⟨definition, .object members, path⟩)
      = (scope.enter definition members path).discard := by
    have taken : scope.take (.field ⟨definition, .object members, path⟩) = _ :=
      take_of_ok resolved
    rw [taken, enter, Run.discard_attachPath, Run.discard_bind]
    rfl
  rw [select_eq_enter_bind resolved, Run.discard_bind, entered, Run.discard_then]
  refine bind_congr fun args => ?_
  -- Whatever goes wrong within the field is attributed already.
  rw [Run.attachPath_bind, (follows_below_selectFields definition members type _
    path).attachPath_eq below_regular.toAttributed, Run.discard_bind]
  exact bind_pure_comp ..

variable (scope) in
/-- To plan a field is to `take` its steps, one after the other. -/
theorem select_eq_forM (query : Json) (definition : Definition) (path : FieldPath) :
    (scope.select query definition path).discard
      = forM (scope.steps query definition path) scope.take := by
  induction query using Json.object_induction generalizing definition path with
  | other query noMembers =>
      rw [select_of_members?_eq_none noMembers, steps_of_members?_eq_none noMembers,
        Run.forM_singleton, Run.discard_attachPath, Run.discard_bind]
      refine congrArg (Run.attachPath path) (bind_congr fun _ => ?_)
      rw [Run.discard_bind]
      refine bind_congr fun type => ?_
      unfold inspect
      rw [noMembers]
      split <;> rfl
  | object members ih =>
      let site : Site := ⟨definition, .object members, path⟩
      cases resolved : scope.schema.resolveOutput definition.signature.type with
      | error error =>
          rw [steps_of_unresolved resolved, Run.forM_singleton, take, select]
          beta_reduce
          rw [resolved, Run.discard_attachPath, Run.discard_bind]
          rfl
      | ok type =>
          cases type with
          | scalar scalar =>
              have taken : scope.take (.field site) = _ := take_of_ok resolved
              rw [select_of_scalar resolved, steps_of_scalar resolved, Run.forM_singleton, taken,
                Run.discard_attachPath, Run.discard_bind]
              rfl
          | object type =>
              rw [steps_of_object resolved, List.forM_cons, ← selectFields_eq_forM ih]
              exact select_eq_take_bind resolved members path

section Guards

/-- Behind its guard, a field asks no guard: what it calls is `guardless`. -/
theorem follows_inspect (site : Site) (type : ResolvedOutput) :
    ((scope.inspect site type).attachPath site.path).Follows Protocol.guardless := by
  have permits : scope.Permits Protocol.guardless site := restrict_permits fun event shown =>
    (Arguments.only_check _ _ _ _ event shown).guardRequest?_eq_none
  unfold inspect
  split
  next noMembers =>
    split
    · rw [← Run.discard_attachPath]
      exact (permits.follows_selectMarked noMembers _).map _
    · exact Run.follows_fail (permits.query _ (by simp))
  next members scalar given =>
    rw [← Run.discard_attachPath]
    exact (permits.follows_selectLeaf (Json.members?_eq_some_iff.mp given) scalar).map _
  next members _ given =>
    rw [← Run.discard_attachPath, ← args?_of_object (Json.members?_eq_some_iff.mp given)]
    exact permits.follows_takeArgs.map _

variable (guards : scope.options.runGuards = true)
include guards

/-- A step shows the guard of its own field, and no other one. -/
theorem filterMap_take (step : Step) :
    (scope.take step).trace.filterMap Event.guardRequest?
      = (step.site?.bind scope.guardRequest?).toList := by
  cases step with
  | refused => rfl
  | field site =>
      rw [take, Run.trace_attachPath]
      cases ended : (scope.askGuard site.definition.signature site.query site.path).outcome with
      | error error =>
          rw [Run.bind_of_error ended, trace_askGuard guards site, filterMap_guardTrace]
          rfl
      | ok done =>
          have inspected (type : ResolvedOutput) :
              (scope.inspect site type).Only (·.guardRequest? = none) := by
            rw [Run.Only, ← Run.trace_attachPath site.path]
            exact (follows_inspect site type).only
          have behind : ((Run.ofExcept (scope.schema.resolveOutput site.definition.signature.type)
              >>= scope.inspect site).trace).filterMap Event.guardRequest? = [] :=
            List.filterMap_eq_nil_iff.mpr
              ((Run.only_ofExcept _).bind fun type _ => inspected type)
          rw [Run.trace_bind ended, List.filterMap_append, behind, List.append_nil,
            trace_askGuard guards site, filterMap_guardTrace]
          rfl

theorem filterMap_flatMap_take (steps : List Step) :
    (steps.flatMap fun step => (scope.take step).trace).filterMap Event.guardRequest?
      = (steps.filterMap Step.site?).filterMap scope.guardRequest? := by
  induction steps with
  | nil => rfl
  | cons step steps ih =>
      rw [List.flatMap_cons, List.filterMap_append, filterMap_take guards, ih]
      cases step with
      | refused => rfl
      | field site =>
          simp only [Step.site?, List.filterMap_cons, Option.bind_some]
          cases scope.guardRequest? site <;> rfl

end Guards

/-- The fields that planning comes to, one after the other, as its `steps` tell. -/
def visited (scope : Scope) (query : Json) (definition : Definition) (path : FieldPath) :
    List Site := (scope.steps query definition path).filterMap Step.site?

theorem filterMap_refusals (type : ObjectType) (key : String) (path : FieldPath) :
    (type.refusals key path).filterMap Step.site? = [] := by
  unfold ObjectType.refusals
  split
  · rfl
  · cases type.objection? key <;> rfl

theorem visited_of_object {definition : Definition} {type : ObjectType}
    (h : scope.schema.resolveOutput definition.signature.type = .ok (.object type))
    (members : List (String × Json)) (path : FieldPath) :
    scope.visited (.object members) definition path
      = ⟨definition, .object members, path⟩ ::
        (scope.stepsWithin members type (scope.plansChildren definition) path).filterMap
          Step.site? := by
  rw [visited, steps_of_object h]
  rfl

/-- Of the sites some are visited, in their order. All of them are if all fields are planned. -/
structure Covers (scope : Scope) (visited sites : List Site) : Prop where
  sublist : visited.Sublist sites
  whole : scope.options.fullTree = true → visited = sites

namespace Covers

variable {visited sites more others : List Site}

theorem refl (sites : List Site) : scope.Covers sites sites := ⟨List.Sublist.refl _, fun _ => rfl⟩

theorem cons (h : scope.Covers visited sites) (site : Site) :
    scope.Covers (site :: visited) (site :: sites) where
  sublist := h.sublist.cons_cons site
  whole full := congrArg (site :: ·) (h.whole full)

theorem append (first : scope.Covers visited sites) (second : scope.Covers more others) :
    scope.Covers (visited ++ more) (sites ++ others) where
  sublist := first.sublist.append second.sublist
  whole full := congrArg₂ (· ++ ·) (first.whole full) (second.whole full)

end Covers

theorem covers_stepsWithin {members : List (String × Json)}
    (ih : ∀ member ∈ members, ∀ definition path,
      scope.Covers (scope.visited member.2 definition path)
        (scope.schema.sites member.2 definition path))
    (type : ObjectType) {plan : Bool} (plans : scope.options.fullTree = true → plan = true)
    (path : FieldPath) :
    scope.Covers ((scope.stepsWithin members type plan path).filterMap Step.site?)
      (scope.schema.sitesWithin members type path) := by
  induction members with
  | nil => exact .refl []
  | cons member members ihMembers =>
      obtain ⟨first, rest⟩ := List.forall_mem_cons.1 ih
      rw [stepsWithin, Schema.sitesWithin, List.filterMap_append]
      refine Covers.append ?_ (ihMembers rest)
      cases type.selectable? member.1 with
      | none =>
          show scope.Covers ((type.refusals member.1 path).filterMap Step.site?) []
          rw [filterMap_refusals]
          exact .refl []
      | some field =>
          cases planned : plan with
          | true => exact first ..
          | false =>
              refine ⟨List.nil_sublist _, fun full => ?_⟩
              exact absurd (plans full) (Bool.eq_false_iff.mp planned)

variable (scope) in
/-- Nothing but sites of the document is `visited`. -/
theorem covers_visited (query : Json) (definition : Definition) (path : FieldPath) :
    scope.Covers (scope.visited query definition path)
      (scope.schema.sites query definition path) := by
  induction query using Json.object_induction generalizing definition path with
  | other query noMembers =>
      rw [visited, steps_of_members?_eq_none noMembers,
        Schema.sites_of_members?_eq_none noMembers]
      exact .refl _
  | object members ih =>
      cases resolved : scope.schema.resolveOutput definition.signature.type with
      | error error =>
          rw [visited, steps_of_unresolved resolved, Schema.sites, resolved]
          exact .refl _
      | ok type =>
          cases type with
          | scalar scalar =>
              rw [visited, steps_of_scalar resolved, Schema.sites_of_scalar resolved]
              exact .refl _
          | object type =>
              rw [visited_of_object resolved, Schema.sites_of_object resolved]
              refine (covers_stepsWithin ih type (fun full => ?_) path).cons _
              rw [plansChildren, full, Bool.true_or]

theorem mem_stepsWithin_iff {members : List (String × Json)} {type : ObjectType} {plan : Bool}
    {path : FieldPath} {site : Site} :
    site ∈ (scope.stepsWithin members type plan path).filterMap Step.site? ↔
      plan = true ∧ ∃ member ∈ members, ∃ field, type.selectable? member.1 = some field ∧
        site ∈ scope.visited member.2 (.field field) (path ++ [member.1]) := by
  induction members with
  | nil => simp [stepsWithin]
  | cons member members ih =>
      rw [stepsWithin, List.filterMap_append, List.mem_append, ih]
      cases selected : type.selectable? member.1 with
      | none => simp [filterMap_refusals, selected]
      | some field =>
          cases plan with
          | true => simp [visited, selected]
          | false => simp

/-- No field above the site has its fields left out. -/
def ReachedAmong (scope : Scope) (sites : List Site) (site : Site) : Prop :=
  ∀ above ∈ sites, ∀ key, above.path ++ [key] <+: site.path →
    scope.plansChildren above.definition = true

theorem reachedAmong_self (query : Json) (definition : Definition) (path : FieldPath) :
    scope.ReachedAmong (scope.schema.sites query definition path) ⟨definition, query, path⟩ := by
  intro above inside key below
  have first := (Schema.prefix_of_mem_sites inside).length_le
  have longer := below.length_le
  rw [List.length_append, List.length_singleton] at longer
  dsimp only at longer
  omega

/-- The field itself is visited first. -/
theorem self_mem_visited (scope : Scope) (query : Json) (definition : Definition)
    (path : FieldPath) : ⟨definition, query, path⟩ ∈ scope.visited query definition path := by
  cases query <;> exact List.mem_cons_self

section Member

variable {members : List (String × Json)} (unique : (Entries.keys members).Nodup)
  {definition : Definition} {type : ObjectType}
  (resolved : scope.schema.resolveOutput definition.signature.type = .ok (.object type))
  {path : FieldPath} {key : String} {query : Json} (held : (key, query) ∈ members)
  {field : Field} (selected : type.selectable? key = some field) {site : Site}
  (below : path ++ [key] <+: site.path)
include unique held below

/-- A site below a member of an object is below no other member. -/
theorem eq_of_prefix_of_mem {member : String × Json} (inside : member ∈ members)
    (alike : path ++ [member.1] <+: site.path) : member = (key, query) := by
  obtain ⟨other, part⟩ := member
  obtain rfl : other = key := by_contra fun different =>
    ne_of_prefix_of_ne alike below different rfl
  have found := (Entries.get?_eq_some_iff unique).mpr inside
  rw [(Entries.get?_eq_some_iff unique).mpr held] at found
  rw [Option.some.inj found]

include resolved selected

theorem mem_visited_member_iff :
    site ∈ scope.visited (.object members) definition path ↔
      scope.plansChildren definition = true ∧
        site ∈ scope.visited query (.field field) (path ++ [key]) := by
  rw [visited_of_object resolved, List.mem_cons, mem_stepsWithin_iff]
  constructor
  · rintro (rfl | ⟨plans, member, inside, other, selects, visits⟩)
    · exact absurd rfl (ne_of_prefix_concat below)
    · have alike := Schema.prefix_of_mem_sites ((covers_visited ..).sublist.subset visits)
      obtain rfl := eq_of_prefix_of_mem unique held below inside alike
      obtain rfl := Option.some.inj (selected.symm.trans selects)
      exact ⟨plans, visits⟩
  · rintro ⟨plans, visits⟩
    exact .inr ⟨plans, (key, query), held, field, selected, visits⟩

theorem reachedAmong_member_iff :
    scope.ReachedAmong (scope.schema.sites (.object members) definition path) site ↔
      scope.plansChildren definition = true ∧
        scope.ReachedAmong (scope.schema.sites query (.field field) (path ++ [key])) site := by
  rw [Schema.sites_of_object resolved]
  constructor
  · intro reached
    refine ⟨reached _ List.mem_cons_self key below, fun above inside => ?_⟩
    exact reached above (List.mem_cons_of_mem _ (Schema.mem_sitesWithin held selected inside))
  · rintro ⟨plans, reached⟩ above inside name further
    obtain rfl | within := List.mem_cons.mp inside
    · exact plans
    · obtain ⟨member, among, other, selects, deeper⟩ :=
        Schema.exists_member_of_mem_sitesWithin within
      have alike : path ++ [member.1] <+: site.path :=
        (Schema.prefix_of_mem_sites deeper).trans ((List.prefix_append _ [name]).trans further)
      obtain rfl := eq_of_prefix_of_mem unique held below among alike
      obtain rfl := Option.some.inj (selected.symm.trans selects)
      exact reached above deeper name further

end Member

/-- A site is left out just if a field above it has its fields left out. -/
theorem mem_visited_iff {query : Json} (unique : query.KeysUnique) {definition : Definition}
    {path : FieldPath} {site : Site} (here : site ∈ scope.schema.sites query definition path) :
    site ∈ scope.visited query definition path ↔
      scope.ReachedAmong (scope.schema.sites query definition path) site := by
  induction unique generalizing definition path with
  | @other query noMembers =>
      rw [Schema.sites_of_members?_eq_none noMembers, List.mem_singleton] at here
      subst here
      exact iff_of_true (self_mem_visited ..) (reachedAmong_self _ _ _)
  | @object members unique _ ih =>
      have inside := here
      rw [Schema.sites, List.mem_cons] at inside
      obtain rfl | within := inside
      · exact iff_of_true (self_mem_visited ..) (reachedAmong_self _ _ _)
      · split at within
        next type resolved =>
          obtain ⟨⟨key, part⟩, held, field, selected, deeper⟩ :=
            Schema.exists_member_of_mem_sitesWithin within
          have below : path ++ [key] <+: site.path := Schema.prefix_of_mem_sites deeper
          rw [mem_visited_member_iff unique resolved held selected below,
            reachedAmong_member_iff unique resolved held selected below, ih _ held deeper]
        next => cases within

/-- What the guards are shown that planning asks, one after the other. -/
def askedGuards (scope : Scope) (query : Json) (definition : Definition) (path : FieldPath) :
    List GuardRequest :=
  (scope.select query definition path).trace.filterMap Event.guardRequest?

/-- Planning asks the guards of a document in the order of the document. -/
structure AsksInOrder (scope : Scope) (query : Json) (definition : Definition)
    (path : FieldPath) : Prop where
  /-- They are those of the fields that are visited first. -/
  initial : scope.askedGuards query definition path <+:
    (scope.visited query definition path).filterMap scope.guardRequest?
  /-- None is asked after what fails. -/
  stopped : ∀ before step after, scope.steps query definition path = before ++ step :: after →
    ¬ (scope.take step).Returns () → scope.askedGuards query definition path <+:
      ((before ++ [step]).filterMap Step.site?).filterMap scope.guardRequest?
  whole : ∀ plan, (scope.select query definition path).Returns plan →
    scope.askedGuards query definition path
      = (scope.visited query definition path).filterMap scope.guardRequest?
  once : query.KeysUnique → ((scope.askedGuards query definition path).map (·.path)).Nodup
  /-- Every field that is visited is selected by a name that its object type shows. -/
  covers : scope.Covers (scope.visited query definition path)
    (scope.schema.sites query definition path)
  /-- The fields that are passed over are those below a field whose fields are left out. -/
  reached : query.KeysUnique → ∀ site ∈ scope.schema.sites query definition path,
    site ∈ scope.visited query definition path ↔
      scope.ReachedAmong (scope.schema.sites query definition path) site
  written : ∀ site ∈ scope.visited query definition path,
    ∃ keys, site.path = path ++ keys ∧ argsKey ∉ keys ∧ query.Holds keys site.query

/-- However planning ends, the guards that it has asked are those of the fields at the front of the
document, as far as these are planned at all. If there is a plan, all of them have been asked. -/
theorem guards_are_asked_in_order (scope : Scope) (guards : scope.options.runGuards = true)
    (query : Json) (definition : Definition) (path : FieldPath) :
    scope.AsksInOrder query definition path := by
  have planning := select_eq_forM scope query definition path
  have asked : scope.askedGuards query definition path
      = (forM (scope.steps query definition path) scope.take).trace.filterMap
          Event.guardRequest? := by
    rw [askedGuards, ← planning, Run.trace_discard]
  have front (steps : List Step) :
      (forM steps scope.take).trace.filterMap Event.guardRequest? <+:
        (steps.filterMap Step.site?).filterMap scope.guardRequest? :=
    filterMap_flatMap_take guards steps ▸ (Run.trace_forM_prefix scope.take steps).filterMap _
  have covers := covers_visited scope query definition path
  have initial : scope.askedGuards query definition path <+:
      (scope.visited query definition path).filterMap scope.guardRequest? := asked ▸ front _
  refine ⟨initial, ?_, ?_, ?_, covers, fun unique _ => mem_visited_iff unique, ?_⟩
  · intro before step after split fails
    rw [asked, split, Run.forM_of_not_returns fails]
    exact front _
  · intro plan planned
    have returned : (forM (scope.steps query definition path) scope.take).Returns () :=
      planning ▸ Run.returns_map.mpr ⟨plan, planned, rfl⟩
    rw [asked, Run.trace_forM_of_returns returned, filterMap_flatMap_take guards]
    rfl
  · intro unique
    have places := scope.paths_guardRequest?_sublist (scope.visited query definition path)
    exact ((initial.sublist.map _).trans (places.trans (covers.sublist.map _))).nodup
      (Schema.nodup_paths_sites unique definition path)
  · intro site visits
    exact Schema.holds_of_mem_sites (covers.sublist.subset visits)

end Scope

/-- A box that is sealed. -/
def boxType : ObjectType where
  name := "box"
  fields := [
    ("seal", { signature := { type := .scalar { name := "string" }
                              guard := some fun _ => pure () } })]

/-- A shelf with a box that has to be fetched, and with a label. -/
def shelfType : ObjectType where
  name := "shelf"
  fields := [
    ("box", { signature := { type := .object boxType }
              resolver := some fun _ => pure (.object []) }),
    ("label", { signature := { type := .scalar { name := "string" }
                               guard := some fun _ => pure () } })]

def shelfScope (fullTree : Bool) : Scope where
  schema := {}
  marker := .bool true
  context := ⟨"POST", "/", [], [], [], []⟩
  operation := "shelf"
  options := { fullTree }

def shelfQuery : Json :=
  .object [("box", .object [("seal", .bool true)]), ("label", .bool true)]

/-- All the guards are asked of a plan that has everything in it. -/
theorem Scope.guards_are_asked_in_order_shelf :
    let shelf : Definition := .field (.bare (.object shelfType))
    (shelfScope true).options.runGuards = true ∧
      (shelfScope true).AsksInOrder shelfQuery shelf ["shelf"] ∧
      ((shelfScope true).askedGuards shelfQuery shelf ["shelf"]).map (·.path)
        = [["shelf", "box", "seal"], ["shelf", "label"]] := by
  intro shelf
  exact ⟨rfl, guards_are_asked_in_order (shelfScope true) rfl shelfQuery shelf ["shelf"], rfl⟩

/-- If the fields of the box are not planned, the guard of the seal is passed over, and that of the
label is asked all the same. -/
theorem Scope.guards_below_resolvers_are_passed_over :
    let shelf : Definition := .field (.bare (.object shelfType))
    let asked := (shelfScope false).askedGuards shelfQuery shelf ["shelf"]
    let guarded := ((shelfScope false).schema.sites shelfQuery shelf ["shelf"]).filterMap
      (shelfScope false).guardRequest?
    (shelfScope false).options.runGuards = true ∧ shelfQuery.KeysUnique ∧
      asked.map (·.path) = [["shelf", "label"]] ∧
      guarded.map (·.path) = [["shelf", "box", "seal"], ["shelf", "label"]] ∧
      ¬ asked <+: guarded := by
  intro shelf asked guarded
  have askedPaths : asked.map (·.path) = [["shelf", "label"]] := rfl
  have guardedPaths : guarded.map (·.path) = [["shelf", "box", "seal"], ["shelf", "label"]] := rfl
  have marked : (Json.bool true).KeysUnique := .other rfl
  have sealed : (Json.object [("seal", .bool true)]).KeysUnique :=
    .object (by decide) (by simpa using marked)
  have unique : shelfQuery.KeysUnique := .object (by decide) (by simp [marked, sealed])
  refine ⟨rfl, unique, askedPaths, guardedPaths, fun initial => ?_⟩
  have paths := initial.map (·.path)
  rw [askedPaths, guardedPaths] at paths
  exact absurd paths (by decide)

end TypedQuery
