import TypedQuery.Proofs.Plan.Frame

/-!
# The walk through a plan

Resolving a plan goes from node to node. A node is reached from the one above it if fields are
filled in there, and if what they are filled into is an object, as `Reaches` says. The nodes that
are reached come one after the other in the order of the plan, and those that have a resolver to ask
have it asked, until one of them refuses. What a node is given depends on nothing but the value in
which it is selected and the fields that are selected in front of it, so the walk can be told ahead
of the run: it is `Resolution.reach`.
-/

namespace TypedQuery

namespace Plan

theorem exists_child_of_mem_nodesWithin {children : List (String × Plan)} {path : FieldPath}
    {node : FieldPath × Plan} (h : node ∈ nodesWithin children path) :
    ∃ child ∈ children, node ∈ child.2.nodes (path ++ [child.1]) := by
  induction children with
  | nil => cases h
  | cons child children ih =>
      rw [nodesWithin, List.mem_append] at h
      obtain inside | within := h
      · exact ⟨child, List.mem_cons_self, inside⟩
      · obtain ⟨other, held, inside⟩ := ih within
        exact ⟨other, List.mem_cons_of_mem _ held, inside⟩

/-- The path of a node goes on from the path of the plan. -/
theorem prefix_of_mem_nodes {plan : Plan} {path : FieldPath} {node : FieldPath × Plan}
    (h : node ∈ plan.nodes path) : path <+: node.1 := by
  induction plan using children_induction generalizing path with
  | step plan ih =>
      rw [nodes_eq, List.mem_cons] at h
      obtain rfl | within := h
      · exact List.prefix_rfl
      · obtain ⟨child, inside, below⟩ := exists_child_of_mem_nodesWithin within
        exact (List.prefix_append path [child.1]).trans (ih child inside below)

theorem exists_key_of_mem_nodesWithin {children : List (String × Plan)} {path : FieldPath}
    {node : FieldPath × Plan} (h : node ∈ nodesWithin children path) :
    ∃ key ∈ Entries.keys children, path ++ [key] <+: node.1 := by
  obtain ⟨child, inside, below⟩ := exists_child_of_mem_nodesWithin h
  exact ⟨child.1, List.mem_map_of_mem inside, prefix_of_mem_nodes below⟩

theorem nodup_paths_nodesWithin {children : List (String × Plan)} {path : FieldPath}
    (unique : (Entries.keys children).Nodup)
    (ih : ∀ child ∈ children, ∀ path, ((child.2.nodes path).map Prod.fst).Nodup) :
    ((nodesWithin children path).map Prod.fst).Nodup := by
  induction children with
  | nil => exact List.nodup_nil
  | cons child children ihChildren =>
      obtain ⟨key, plan⟩ := child
      obtain ⟨first, rest⟩ := List.forall_mem_cons.1 ih
      obtain ⟨fresh, unique⟩ := List.nodup_cons.1 unique
      rw [nodesWithin, List.map_append, List.nodup_append]
      refine ⟨first _, ihChildren unique rest, ?_⟩
      intro _ ofFirst _ ofRest
      obtain ⟨node, inside, rfl⟩ := List.mem_map.1 ofFirst
      obtain ⟨other, insideRest, rfl⟩ := List.mem_map.1 ofRest
      obtain ⟨key', held, beyond⟩ := exists_key_of_mem_nodesWithin insideRest
      have different : key ≠ key' := fun same => fresh (same ▸ held)
      exact ne_of_prefix_of_ne (prefix_of_mem_nodes inside) beyond different

/-- Where no name is planned twice, no two nodes have the same path. -/
theorem nodup_paths_nodes {plan : Plan} (unique : plan.KeysUnique) (path : FieldPath) :
    ((plan.nodes path).map Prod.fst).Nodup := by
  induction plan using children_induction generalizing path with
  | step plan ih =>
      obtain ⟨unique, uniqueWithin⟩ := unique.children
      rw [nodes_eq, List.map_cons, List.nodup_cons]
      refine ⟨?_, nodup_paths_nodesWithin unique fun child inside path =>
        ih child inside (uniqueWithin child inside) path⟩
      intro ofSelf
      obtain ⟨node, inside, same⟩ := List.mem_map.1 ofSelf
      obtain ⟨key, _, beyond⟩ := exists_key_of_mem_nodesWithin inside
      exact ne_of_prefix_concat beyond same

end Plan

/-- A node of a plan that the walk of `Resolution.resolve` comes to, with what there is for it. -/
structure Stop where
  plan : Plan
  path : FieldPath
  /-- What the parent holds under the name of the node. -/
  value : Json
  /-- The parent as it was before any of its fields has been filled in. -/
  members : List (String × Json)
  /-- The fields of the parent that are selected in front of the node. -/
  earlier : List (String × Plan)

/-- The stop at a field that is selected in an object at a path, behind other fields. -/
def Stop.ofField (members : List (String × Json)) (path : FieldPath)
    (earlier : List (String × Plan)) (key : String) (child : Plan) : Stop :=
  ⟨child, path ++ [key], (Entries.get? members key).getD .null, members, earlier⟩

namespace Resolution

section Walking

variable (resolution : Resolution)

/-- A stop is reached from another one by going down through objects that are filled in. -/
inductive Reaches : Stop → Stop → Prop
  | self {stop} : Reaches stop stop
  | within {stop members before key child after other} :
      resolution.opens? stop.plan stop.value stop.path = some (.object members) →
      stop.plan.children = before ++ (key, child) :: after →
      Reaches (.ofField members stop.path before key child) other →
      Reaches stop other

/-- The stops within a node: those of its fields, if they are filled into an object, as `opens?`
tells. -/
def stopsBelow (fields : (members : List (String × Json)) → List Stop) :
    (opened : Option Json) → List Stop
  | some (.object members) => fields members
  | _ => []

mutual

/-- The stops of a walk through a plan, each in front of those within it, and those in the order in
which their fields are selected. -/
def reach : (plan : Plan) → FieldPath → (value : Json) → (members : List (String × Json)) →
    (earlier : List (String × Plan)) → List Stop
  | .leaf definition scalar args, path, value, members, earlier =>
    [⟨.leaf definition scalar args, path, value, members, earlier⟩]
  | .branch definition type selection args children, path, value, members, earlier =>
    let plan : Plan := .branch definition type selection args children
    ⟨plan, path, value, members, earlier⟩ ::
      stopsBelow (fun inner => reachWithin children path inner [])
        (resolution.opens? plan value path)
termination_by structural plan => plan

/-- The stops of a walk through the fields that are selected in an object. -/
def reachWithin : (children : List (String × Plan)) → FieldPath →
    (members : List (String × Json)) → (earlier : List (String × Plan)) → List Stop
  | [], _, _, _ => []
  | (key, child) :: rest, path, members, earlier =>
    reach child (path ++ [key]) ((Entries.get? members key).getD .null) members earlier
      ++ reachWithin rest path members (earlier ++ [(key, child)])
termination_by structural children => children

end

/-- The stops of a walk that starts somewhere. -/
def reachFrom (start : Stop) : List Stop :=
  resolution.reach start.plan start.path start.value start.members start.earlier

theorem reachFrom_eq (start : Stop) :
    resolution.reachFrom start = start :: stopsBelow
      (fun inner => resolution.reachWithin start.plan.children start.path inner [])
      (resolution.opens? start.plan start.value start.path) := by
  obtain ⟨plan, path, value, members, earlier⟩ := start
  cases plan with
  | branch => rfl
  | leaf definition scalar args =>
      refine congrArg (_ :: ·) ?_
      unfold stopsBelow
      split <;> rfl

theorem reachWithin_cons (key : String) (child : Plan) (rest : List (String × Plan))
    (path : FieldPath) (members : List (String × Json)) (earlier : List (String × Plan)) :
    resolution.reachWithin ((key, child) :: rest) path members earlier
      = resolution.reachFrom (.ofField members path earlier key child)
        ++ resolution.reachWithin rest path members (earlier ++ [(key, child)]) := rfl

end Walking

variable {resolution : Resolution}

theorem mem_stopsBelow_iff {fields : (members : List (String × Json)) → List Stop}
    {opened : Option Json} {stop : Stop} :
    stop ∈ stopsBelow fields opened ↔
      ∃ members, opened = some (.object members) ∧ stop ∈ fields members := by
  unfold stopsBelow
  split
  next members => simp
  next noObject =>
    refine iff_of_false List.not_mem_nil ?_
    rintro ⟨members, opens, _⟩
    exact noObject members opens

theorem mem_reachWithin_iff {children : List (String × Plan)} {path : FieldPath}
    {members : List (String × Json)} {earlier : List (String × Plan)} {stop : Stop} :
    stop ∈ resolution.reachWithin children path members earlier ↔
      ∃ before key child after, children = before ++ (key, child) :: after ∧
        stop ∈ resolution.reachFrom (.ofField members path (earlier ++ before) key child) := by
  induction children generalizing earlier with
  | nil => exact iff_of_false List.not_mem_nil (by simp)
  | cons entry rest ih =>
      obtain ⟨name, plan⟩ := entry
      rw [reachWithin_cons, List.mem_append, ih]
      constructor
      · rintro (first | ⟨before, key, child, after, rfl, later⟩)
        · exact ⟨[], name, plan, rest, rfl, (List.append_nil earlier).symm ▸ first⟩
        · refine ⟨(name, plan) :: before, key, child, after, rfl, ?_⟩
          rwa [List.append_cons]
      · rintro ⟨before, key, child, after, split, here⟩
        obtain _ | ⟨first, before⟩ := before
        · cases split
          exact .inl (List.append_nil earlier ▸ here)
        · cases split
          rw [List.append_cons] at here
          exact .inr ⟨before, key, child, after, rfl, here⟩

theorem reaches_of_mem {plan : Plan} {path : FieldPath} {value : Json}
    {members : List (String × Json)} {earlier : List (String × Plan)} {stop : Stop}
    (h : stop ∈ resolution.reachFrom ⟨plan, path, value, members, earlier⟩) :
    resolution.Reaches ⟨plan, path, value, members, earlier⟩ stop := by
  induction plan using Plan.children_induction generalizing path value members earlier with
  | step plan ih =>
      rw [reachFrom_eq, List.mem_cons, mem_stopsBelow_iff] at h
      obtain rfl | ⟨inner, opens, within⟩ := h
      · exact .self
      · obtain ⟨before, key, child, after, split, below⟩ := mem_reachWithin_iff.mp within
        have inside : (key, child) ∈ plan.children := by
          rw [show plan.children = before ++ (key, child) :: after from split]
          exact List.mem_append_right before List.mem_cons_self
        exact .within opens split (ih (key, child) inside below)

/-- The walk comes to the stops that are reached, in the sense of `Reaches`, and to no other
ones. -/
theorem mem_reachFrom_iff {start stop : Stop} :
    stop ∈ resolution.reachFrom start ↔ resolution.Reaches start stop := by
  refine ⟨reaches_of_mem, fun reached => ?_⟩
  induction reached with
  | self => exact reachFrom_eq resolution _ ▸ List.mem_cons_self
  | within opens split _ ih =>
      rw [reachFrom_eq, List.mem_cons, mem_stopsBelow_iff]
      exact .inr ⟨_, opens, mem_reachWithin_iff.mpr ⟨_, _, _, _, split, ih⟩⟩

theorem reachWithin_sublist {children : List (String × Plan)} {path : FieldPath}
    {members : List (String × Json)} {earlier : List (String × Plan)}
    (ih : ∀ child ∈ children, ∀ path value members earlier,
      ((resolution.reachFrom ⟨child.2, path, value, members, earlier⟩).map
        fun stop => (stop.path, stop.plan)).Sublist (child.2.nodes path)) :
    ((resolution.reachWithin children path members earlier).map
      fun stop => (stop.path, stop.plan)).Sublist (Plan.nodesWithin children path) := by
  induction children generalizing earlier with
  | nil => exact List.Sublist.slnil
  | cons child children ihChildren =>
      obtain ⟨first, rest⟩ := List.forall_mem_cons.1 ih
      rw [reachWithin_cons, List.map_append, Plan.nodesWithin]
      exact (first ..).append (ihChildren rest)

variable (resolution) in
/-- The stops are nodes of the plan, in the order of the plan. -/
theorem reachFrom_sublist (start : Stop) :
    ((resolution.reachFrom start).map fun stop => (stop.path, stop.plan)).Sublist
      (start.plan.nodes start.path) := by
  obtain ⟨plan, path, value, members, earlier⟩ := start
  induction plan using Plan.children_induction generalizing path value members earlier with
  | step plan ih =>
      rw [reachFrom_eq, List.map_cons, Plan.nodes_eq]
      refine List.Sublist.cons_cons _ ?_
      unfold stopsBelow
      split
      · exact reachWithin_sublist fun child inside path value members earlier =>
          ih child inside path value members earlier
      · exact List.nil_sublist _

/-- No two stops have the same path. -/
theorem nodup_paths_reachFrom {start : Stop} (unique : start.plan.KeysUnique) :
    ((resolution.reachFrom start).map (·.path)).Nodup := by
  have inOrder := (reachFrom_sublist resolution start).map Prod.fst
  rw [List.map_map] at inOrder
  exact inOrder.nodup (Plan.nodup_paths_nodes unique start.path)

/-- The call to the resolver that is to be asked at a stop, if there is one, and what comes of it.
The parent is as it is when the stop is come to. -/
def callAt (resolution : Resolution) (stop : Stop) (parent : List (String × Json)) :
    Option (Call × Run Fault Json) :=
  match stop.plan.definition with
  | .operation root =>
    let request := resolution.operationRequest stop.plan stop.path
    some (.resolveOperation request, root.resolver request)
  | .field inner =>
    match inner.resolver with
    | none => none
    | some resolver =>
      if inner.deferred then none
      else
        let request : FieldRequest := ⟨resolution.context, stop.path, stop.plan.args,
          stop.plan.selection, stop.value, parent, resolution.operation⟩
        some (.resolveField request, resolver request)

/-- The calls that are made at stops, one after the other. The parent that a resolver is shown is
the object in which it is selected with the fields in front of it filled in. The first fault is
reported, and ends the walk. -/
inductive Calls (resolution : Resolution) :
    (stops : List Stop) → (trace : List Event) → (failure : Option Error) → Prop
  | done : Calls resolution [] [] none
  | passed {stop stops trace failure} : (∀ parent, resolution.callAt stop parent = none) →
      Calls resolution stops trace failure → Calls resolution (stop :: stops) trace failure
  | answered {stop parent call callback answer stops trace failure} :
      resolution.FillsIn stop.members stop.path.dropLast stop.earlier parent →
      resolution.callAt stop parent = some (call, callback) → callback.Returns answer →
      Calls resolution stops trace failure →
      Calls resolution (stop :: stops) (.call call callback.trace :: trace) failure
  | refused {stop parent call callback fault stops} :
      resolution.FillsIn stop.members stop.path.dropLast stop.earlier parent →
      resolution.callAt stop parent = some (call, callback) → callback.outcome = .error fault →
      Calls resolution (stop :: stops) [.call call callback.trace]
        (some (fault.reported stop.path))

namespace Calls

variable {front back : List Stop} {trace more : List Event}

theorem append {failure : Option Error} (first : resolution.Calls front trace none)
    (second : resolution.Calls back more failure) :
    resolution.Calls (front ++ back) (trace ++ more) failure := by
  generalize ended : none = fault? at first
  induction first with
  | done => exact second
  | passed nothing _ ih => exact .passed nothing (ih ended)
  | answered filled asks answers _ ih => exact .answered filled asks answers (ih ended)
  | refused => cases ended

/-- Nothing is called after a fault. -/
theorem append_of_refused {error : Error} (h : resolution.Calls front trace (some error))
    (back : List Stop) : resolution.Calls (front ++ back) trace (some error) := by
  generalize failed : some error = failure at h ⊢
  induction h with
  | done => cases failed
  | passed nothing _ ih => exact .passed nothing (ih failed)
  | answered filled asks answers _ ih => exact .answered filled asks answers (ih failed)
  | refused filled asks refuses => exact .refused filled asks refuses

theorem path_ne_none {error : Error} (h : resolution.Calls front trace (some error)) :
    error.path ≠ none := by
  generalize failed : some error = failure at h
  induction h with
  | done => cases failed
  | passed _ _ ih => exact ih failed
  | answered _ _ _ _ ih => exact ih failed
  | @refused stop _ _ _ fault =>
      cases failed
      exact Error.path_attachPath_ne_none _ stop.path

end Calls

/-- What a node is asked is the call that is to be made there, if there is one. -/
theorem ask_eq_of_callAt (stop : Stop) (parent : List (String × Json)) :
    (∃ stage, (∀ parent, resolution.callAt stop parent = none) ∧
      resolution.ask stop.plan.definition stop.plan.args stop.plan.selection stop.value parent
        stop.path = pure stage) ∨
    ∃ call callback finish, resolution.callAt stop parent = some (call, callback) ∧
      resolution.ask stop.plan.definition stop.plan.args stop.plan.selection stop.value parent
        stop.path = finish <$> (Run.invoke call callback).recover := by
  simp only [callAt, ask]
  cases stop.plan.definition with
  | operation root =>
      refine .inr ⟨_, _, fun answer => if resolution.fullTree then .open answer else .final answer,
        rfl, ?_⟩
      exact bind_pure_comp ..
  | field inner =>
      dsimp only
      cases inner.resolver with
      | none => exact .inl ⟨_, fun _ => rfl, rfl⟩
      | some resolver =>
          cases inner.deferred with
          | true => exact .inl ⟨_, fun _ => rfl, rfl⟩
          | false => exact .inr ⟨_, _, .final, rfl, bind_pure_comp ..⟩

end Resolution

namespace Run

variable {α β : Type} {resolution : Resolution} {stops front back : List Stop}

/-- The run makes the calls that are to be made at the stops, as `Calls` lists them. -/
def Tours (resolution : Resolution) (stops : List Stop) (run : Run Error α) : Prop :=
  resolution.Calls stops run.trace run.failure?

theorem tours_pure (value : α) : (pure value : Run Error α).Tours resolution [] := .done

theorem Tours.bind {run : Run Error α} {next : α → Run Error β}
    (first : run.Tours resolution front)
    (second : ∀ value, run.Returns value → (next value).Tours resolution back) :
    (run >>= next).Tours resolution (front ++ back) := by
  obtain ⟨trace, outcome⟩ := run
  cases outcome with
  | error error => exact first.append_of_refused back
  | ok value => exact first.append (second value rfl)

theorem Tours.map {run : Run Error α} (h : run.Tours resolution stops) (f : α → β) :
    (f <$> run).Tours resolution stops := by
  rw [← bind_pure_comp, ← List.append_nil stops]
  exact h.bind fun value _ => tours_pure (f value)

/-- What a resolver fails with is attributed to its own field. -/
theorem Tours.attachPath {run : Run Error α} (h : run.Tours resolution stops)
    (path : FieldPath) : (run.attachPath path).Tours resolution stops := by
  obtain ⟨trace, outcome⟩ := run
  cases outcome with
  | ok value => exact h
  | error error =>
      have named : error.attachPath path = error :=
        Error.attachPath_of_path_ne_none h.path_ne_none path
      have same : (⟨trace, .error error⟩ : Run Error α).attachPath path = ⟨trace, .error error⟩ :=
        congrArg (fun error => (⟨trace, .error error⟩ : Run Error α)) named
      exact same.symm ▸ h

theorem tours_invoke {stop : Stop} {parent : List (String × Json)} {call : Call}
    {callback : Run Fault Json}
    (filled : resolution.FillsIn stop.members stop.path.dropLast stop.earlier parent)
    (asks : resolution.callAt stop parent = some (call, callback)) :
    ((invoke call callback).recover.attachPath stop.path).Tours resolution [stop] := by
  obtain ⟨trace, outcome⟩ := callback
  cases outcome with
  | ok answer => exact .answered filled asks rfl .done
  | error fault => exact .refused filled asks rfl

end Run

namespace Resolution

variable {resolution : Resolution}

theorem tours_ask {stop : Stop} {parent : List (String × Json)}
    (filled : resolution.FillsIn stop.members stop.path.dropLast stop.earlier parent) :
    ((resolution.ask stop.plan.definition stop.plan.args stop.plan.selection stop.value parent
      stop.path).attachPath stop.path).Tours resolution [stop] := by
  obtain ⟨stage, nothing, pass⟩ | ⟨call, callback, finish, asks, answers⟩ :=
    ask_eq_of_callAt stop parent
  · rw [pass]
    exact .passed nothing .done
  · rw [answers, Run.attachPath_map]
    exact (Run.tours_invoke filled asks).map finish

theorem tours_resolveFields {children : List (String × Plan)} {path : FieldPath}
    (ih : ∀ child ∈ children, ∀ (stop : Stop) (parent : List (String × Json)),
      stop.plan = child.2 →
      resolution.FillsIn stop.members stop.path.dropLast stop.earlier parent →
      (resolution.resolve child.2 stop.value parent stop.path).Tours resolution
        (resolution.reachFrom stop))
    {members now : List (String × Json)} {earlier : List (String × Plan)}
    (unique : (Entries.keys (earlier ++ children)).Nodup)
    (filled : resolution.FillsIn members path earlier now) :
    (resolution.resolveFields children now path).Tours resolution
      (resolution.reachWithin children path members earlier) := by
  induction children generalizing earlier now with
  | nil => exact Run.tours_pure now
  | cons entry rest ihRest =>
      obtain ⟨key, child⟩ := entry
      obtain ⟨first, others⟩ := List.forall_mem_cons.1 ih
      have fresh : key ∉ Entries.keys earlier := Entries.not_mem_keys_of_nodup unique
      let stop : Stop := .ofField members path earlier key child
      have filledHere : resolution.FillsIn stop.members stop.path.dropLast stop.earlier now := by
        rw [show stop.path.dropLast = path from List.dropLast_concat]
        exact filled
      have toured : (resolution.resolve child stop.value now (path ++ [key])).Tours resolution
          (resolution.reachFrom stop) := first stop now rfl filledHere
      rw [resolveFields, filled.get?_of_not_mem fresh, reachWithin_cons]
      refine toured.bind fun value resolved => ?_
      rw [List.append_cons] at unique
      exact ihRest others unique (filled.next resolved)

/-- Resolving a node asks the resolvers of the stops that are reached from there, those of
`reachFrom`. -/
theorem tours_resolve {stop : Stop} (unique : stop.plan.KeysUnique)
    {parent : List (String × Json)}
    (filled : resolution.FillsIn stop.members stop.path.dropLast stop.earlier parent) :
    (resolution.resolve stop.plan stop.value parent stop.path).Tours resolution
      (resolution.reachFrom stop) := by
  generalize planned : stop.plan = plan at unique
  induction plan using Plan.children_induction generalizing stop parent with
  | step plan ih =>
      subst planned
      obtain ⟨unique, uniqueWithin⟩ := unique.children
      rw [resolve_eq, Run.attachPath_bind, reachFrom_eq, ← List.singleton_append]
      refine (tours_ask filled).bind fun stage asked => ?_
      rw [opens?_of_returns_ask (Run.returns_attachPath.mp asked)]
      cases stage with
      | final value => exact Run.tours_pure value
      | «open» value =>
          cases value with
          | null | bool | number | string | array => exact Run.tours_pure _
          | object members =>
              have within : (resolution.resolveFields stop.plan.children members stop.path).Tours
                  resolution (resolution.reachWithin stop.plan.children stop.path members []) :=
                tours_resolveFields (fun child inside other parent planned filled =>
                  ih child inside filled planned (uniqueWithin child inside)) unique .start
              exact (within.map Json.object).attachPath stop.path

end Resolution

/-- What a node of a plan has of the site for which it is planned. -/
structure Scope.PlannedFor (scope : Scope) (site : Site) (plan : Plan) : Prop where
  definition : plan.definition = site.definition
  selection : plan.selection = site.selection
  args : (scope.takeArgs site.definition.signature site.args? site.path).Returns plan.args

/-- Every node of a plan is planned for a site of the document. It stands where the site stands,
below the path at which the plan is resolved. -/
theorem Scope.exists_site_of_mem_nodes {scope : Scope} {query : Json} {definition : Definition}
    {place : FieldPath} {plan : Plan} (planned : (scope.select query definition place).Returns plan)
    {path : FieldPath} {node : FieldPath × Plan} (here : node ∈ plan.nodes path) :
    ∃ site ∈ scope.schema.sites query definition place, ∃ keys, site.path = place ++ keys ∧
      node.1 = path ++ keys ∧ scope.PlannedFor site node.2 := by
  refine induction_of_returns (motive := fun query definition place plan =>
    ∀ path, ∀ node ∈ plan.nodes path, ∃ site ∈ scope.schema.sites query definition place,
      ∃ keys, site.path = place ++ keys ∧ node.1 = path ++ keys ∧ scope.PlannedFor site node.2)
    ?_ ?_ planned path node here
  · intro site scalar args nothing taken path node here
    obtain rfl := List.mem_singleton.mp here
    exact ⟨site, scope.schema.self_mem_sites .., [], (List.append_nil _).symm,
      (List.append_nil _).symm, rfl, nothing.symm, taken⟩
  · intro members definition place type args children resolved taken _ within path node here
    rw [Schema.sites_of_object resolved]
    rw [Plan.nodes, List.mem_cons] at here
    obtain rfl | below := here
    · exact ⟨_, List.mem_cons_self, [], (List.append_nil _).symm, (List.append_nil _).symm,
        rfl, rfl, taken⟩
    · obtain ⟨child, inside, here⟩ := Plan.exists_child_of_mem_nodesWithin below
      obtain ⟨member, held, field, selected, named, ih⟩ := within child inside
      have held : member ∈ members := List.mem_of_mem_filter held
      obtain ⟨site, found, keys, sitePath, nodePath, plannedFor⟩ := ih _ node here
      refine ⟨site, List.mem_cons_of_mem _ (Schema.mem_sitesWithin held selected found),
        member.1 :: keys, ?_, ?_, plannedFor⟩
      · rw [sitePath, ← List.append_cons]
      · rw [nodePath, named, ← List.append_cons]

namespace Resolution

/-- How a plan is resolved: the stops of the walk, and what is called at them. -/
structure Tour (resolution : Resolution) (start : Stop) (run : Run Error Json) : Prop where
  /-- The calls are made at the stops in turn, up to the first one that fails. -/
  calls : resolution.Calls (resolution.reachFrom start) run.trace run.failure?
  reached : ∀ stop, stop ∈ resolution.reachFrom start ↔ resolution.Reaches start stop
  /-- Parents come before their fields, and fields come in the order in which they are selected. -/
  inOrder : ((resolution.reachFrom start).map fun stop => (stop.path, stop.plan)).Sublist
    (start.plan.nodes start.path)
  once : ((resolution.reachFrom start).map (·.path)).Nodup

/-- Resolving a plan asks the resolvers that are reached, in the order of the document and each of
them once, until the first one fails. Whatever the resolvers do, each is shown what the document
says of its own field. -/
theorem resolvers_are_asked_along_the_walk {scope : Scope} {query : Json}
    (unique : query.KeysUnique) {definition : Definition} {place : FieldPath} {plan : Plan}
    (planned : (scope.select query definition place).Returns plan) (resolution : Resolution)
    (value : Json) (parent : List (String × Json)) (path : FieldPath) :
    resolution.Tour ⟨plan, path, value, parent, []⟩
      (resolution.resolve plan value parent path) ∧
    ∀ stop ∈ resolution.reachFrom ⟨plan, path, value, parent, []⟩,
      ∃ site ∈ scope.schema.sites query definition place, ∃ keys, site.path = place ++ keys ∧
        stop.path = path ++ keys ∧ scope.PlannedFor site stop.plan := by
  have uniquePlan : plan.KeysUnique := Scope.keysUnique_of_returns unique planned
  let start : Stop := ⟨plan, path, value, parent, []⟩
  have toured : (resolution.resolve start.plan start.value parent start.path).Tours resolution
      (resolution.reachFrom start) := tours_resolve uniquePlan .start
  have inOrder := reachFrom_sublist resolution start
  refine ⟨⟨toured, fun _ => mem_reachFrom_iff, inOrder, nodup_paths_reachFrom uniquePlan⟩, ?_⟩
  intro stop reached
  have node : (stop.path, stop.plan) ∈ plan.nodes path :=
    inOrder.subset (List.mem_map.mpr ⟨stop, reached, rfl⟩)
  exact Scope.exists_site_of_mem_nodes planned node

/-- The copy of a letter is made when the letter knows whom it is from, and does not yet say that it
has been read. -/
theorem resolvers_are_asked_along_the_walk_letter :
    let resolution : Resolution := ⟨letterScope.context, "letter", true⟩
    let letter : List (String × Json) := [("text", .string "Hi"), ("from", .object [])]
    letterQuery.KeysUnique ∧
      ∃ plan, (letterScope.select letterQuery (.field (.bare (.object letterType)))
          ["letter"]).Returns plan ∧
        (resolution.reachFrom ⟨plan, ["letter"], .object letter, [], []⟩).map (·.path)
          = [["letter"], ["letter", "from"], ["letter", "from", "name"], ["letter", "copy"],
            ["letter", "read"]] ∧
        (resolution.resolve plan (.object letter) [] ["letter"]).trace
          = [.call (.resolveField ⟨letterScope.context, ["letter", "copy"], none, [], .null,
            [("text", .string "Hi"), ("from", .object [("name", .null)])], "letter"⟩) []] ∧
        resolution.Tour ⟨plan, ["letter"], .object letter, [], []⟩
          (resolution.resolve plan (.object letter) [] ["letter"]) := by
  intro resolution letter
  have planned : (letterScope.select letterQuery (.field (.bare (.object letterType)))
      ["letter"]).Returns _ := rfl
  exact ⟨letterQuery_keysUnique, _, planned, rfl, rfl,
    (resolvers_are_asked_along_the_walk letterQuery_keysUnique planned resolution
      (.object letter) [] ["letter"]).1⟩

end Resolution

end TypedQuery
