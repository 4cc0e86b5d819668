import Mathlib.Data.List.Induction
import TypedQuery.Proofs.Schema.History
import TypedQuery.Proofs.Server.Bindings
import TypedQuery.Schema.BaseScalars

/-!
# Operations side by side

The operations of a schema can be mounted beside the document path, which is `Config.Mountable`, if
the route of every bound operation is one of its own and no two of them would serve one request.
That is what a configuration is checked for, and where it fails, the fault is that of the first
operation which does not fit beside those before it. A shared route is reported with the earliest
operation that has it, although operations that share a route with a third one need not share it
with each other.
-/

namespace TypedQuery

/-- What a list of options holds beside one of its values stands beside that value. -/
theorem filterMap_eq_append_cons_iff {α β : Type} {f : α → Option β} {list : List α}
    {before after : List β} {value : β} :
    list.filterMap f = before ++ value :: after ↔
      ∃ front entry rest, list = front ++ entry :: rest ∧ f entry = some value ∧
        front.filterMap f = before ∧ rest.filterMap f = after := by
  constructor
  · intro split
    obtain ⟨front, tail, rfl, rfl, tails⟩ := List.filterMap_eq_append_iff.mp split
    obtain ⟨skipped, entry, rest, rfl, nothing, found, rfl⟩ := List.filterMap_eq_cons_iff.mp tails
    refine ⟨front ++ skipped, entry, rest, (List.append_assoc ..).symm, found, ?_, rfl⟩
    rw [List.filterMap_append, List.filterMap_eq_nil_iff.mpr nothing, List.append_nil]
  · rintro ⟨front, entry, rest, rfl, found, rfl, rfl⟩
    rw [List.filterMap_append, List.filterMap_cons_some found]

namespace Operation

/-- Some request would be served by both operations, as `Binding.Clashes` says of their bindings. -/
def Clashes (operation other : Operation) : Prop :=
  ∃ binding, operation.binding = some binding ∧
    ∃ beside, other.binding = some beside ∧ binding.Clashes beside

/-- The operation, if it is bound, has a route of its own, as `Config.Routable` says of its
binding. -/
def Routable (path : String) (operation : Operation) : Prop :=
  ∀ binding, operation.binding = some binding → Server.Config.Routable path binding

/-- The operation is bound to the route and to the method, or else to all methods. -/
def boundTo (operation : Operation) (route : String) (method : Method) : Bool :=
  operation.binding.any fun binding =>
    binding.route == route && (binding.method == method || binding.method == .all)

theorem boundTo_iff {operation : Operation} {route : String} {method : Method} :
    operation.boundTo route method = true ↔ ∃ binding, operation.binding = some binding ∧
      binding.route = route ∧ (binding.method = method ∨ binding.method = .all) := by
  simp [boundTo, Option.any_eq_true]

/-- Operations that are bound to one route and one method clash. -/
theorem clashes_of_boundTo {operation other : Operation} {route : String} {method : Method}
    (here : operation.boundTo route method = true) (there : other.boundTo route method = true) :
    operation.Clashes other := by
  obtain ⟨binding, bound, rfl, served⟩ := boundTo_iff.mp here
  obtain ⟨beside, besideBound, route, besideServed⟩ := boundTo_iff.mp there
  refine ⟨binding, bound, beside, besideBound, route, ?_⟩
  obtain rfl | all := served
  · obtain same | all := besideServed <;> simp [Method.overlaps, *]
  · simp [Method.overlaps, all]

end Operation

namespace Server.Config

/-- The binding of an operation, with the name of the operation. -/
def bound? (entry : String × Operation) : Option (String × Binding) :=
  entry.2.binding.map fun binding => (entry.2.name, binding)

theorem bound?_eq_some_iff {entry : String × Operation} {name : String} {binding : Binding} :
    bound? entry = some (name, binding) ↔
      entry.2.binding = some binding ∧ entry.2.name = name := by
  rw [bound?, Option.map_eq_some_iff]
  constructor
  · rintro ⟨_, bound, rfl, rfl⟩
    exact ⟨bound, rfl⟩
  · rintro ⟨bound, rfl⟩
    exact ⟨binding, bound, rfl⟩

theorem bindings_eq (schema : Schema) :
    schema.bindings = schema.operations.filterMap bound? := rfl

/-- All operations can be mounted beside the document path. -/
structure Mountable (path : String) (operations : List (String × Operation)) : Prop where
  routable : ∀ entry ∈ operations, entry.2.Routable path
  apart : operations.Pairwise fun first second => ¬ second.2.Clashes first.2

/-- Why an operation cannot be mounted beside the document path and the operations before it. The
route is looked at first; of the operations that clash with it, the earliest has the say. -/
inductive Faults (path : String) (earlier : List (String × Operation)) (operation : Operation) :
    SetupFault → Prop
  | route {binding} : operation.binding = some binding → isRooted binding.route = false →
      Faults path earlier operation (.route binding.route operation.name)
  | endpointRoute {binding} : operation.binding = some binding → isRooted binding.route = true →
      binding.route = path → Faults path earlier operation (.endpointRoute path)
  | sharedRoute {binding front name other rest} : operation.binding = some binding →
      Routable path binding → earlier = front ++ (name, other) :: rest →
      (∀ entry ∈ front, ¬ operation.Clashes entry.2) → operation.Clashes other →
      Faults path earlier operation (.sharedRoute binding.route other.name operation.name)

/-- An operation with one of the `Faults` is bound. -/
theorem Faults.bound {path : String} {earlier : List (String × Operation)} {operation : Operation}
    {fault : SetupFault} (h : Faults path earlier operation fault) :
    ∃ binding, operation.binding = some binding := by
  cases h with
  | route bound | endpointRoute bound | sharedRoute bound => exact ⟨_, bound⟩

variable {path : String}

/-- What holds of the bindings holds of each operation that is bound, and the other way round. -/
theorem forall_mem_bound?_iff {operations : List (String × Operation)}
    {holds : String × Binding → Prop} :
    (∀ entry ∈ operations.filterMap bound?, holds entry) ↔
      ∀ entry ∈ operations, ∀ binding, entry.2.binding = some binding →
        holds (entry.2.name, binding) := by
  constructor
  · intro each entry inside binding bound
    exact each _ (List.mem_filterMap.mpr ⟨entry, inside, bound?_eq_some_iff.mpr ⟨bound, rfl⟩⟩)
  · rintro each ⟨name, binding⟩ held
    obtain ⟨entry, inside, found⟩ := List.mem_filterMap.mp held
    obtain ⟨bound, rfl⟩ := bound?_eq_some_iff.mp found
    exact each entry inside binding bound

/-- Two bound operations clash exactly if their bindings do. -/
theorem pairwise_bound?_iff {operations : List (String × Operation)} :
    (operations.filterMap bound?).Pairwise (fun first second => ¬ second.2.Clashes first.2) ↔
      operations.Pairwise fun first second => ¬ second.2.Clashes first.2 := by
  rw [List.pairwise_filterMap]
  refine List.Pairwise.iff fun {first second} => ?_
  constructor
  · rintro apart ⟨binding, bound, beside, besideBound, clash⟩
    exact apart _ (bound?_eq_some_iff.mpr ⟨besideBound, rfl⟩) _
      (bound?_eq_some_iff.mpr ⟨bound, rfl⟩) clash
  · rintro apart ⟨name, beside⟩ besideBound ⟨other, binding⟩ bound clash
    exact apart ⟨binding, (bound?_eq_some_iff.mp bound).1, beside,
      (bound?_eq_some_iff.mp besideBound).1, clash⟩

theorem checkBindings_eq_ok_iff_mountable {operations : List (String × Operation)} :
    checkBindings path [] (operations.filterMap bound?) = .ok () ↔ Mountable path operations := by
  rw [checkBindings_eq_ok_iff, pairwise_bound?_iff, forall_mem_bound?_iff]
  constructor
  · rintro ⟨each, apart⟩
    exact ⟨fun entry inside binding bound => (each entry inside binding bound).1, apart⟩
  · rintro ⟨routable, apart⟩
    exact ⟨fun entry inside binding bound => ⟨routable entry inside binding bound, nofun⟩, apart⟩

/-- `checkBindings` goes on from where it stands. -/
theorem checkBindings_append (earlier before after : List (String × Binding)) :
    checkBindings path earlier (before ++ after)
      = (checkBindings path earlier before).bind fun _ =>
        checkBindings path (earlier ++ before) after := by
  induction before generalizing earlier with
  | nil =>
      rw [List.append_nil]
      rfl
  | cons entry before ih =>
      rw [List.cons_append, checkBindings, checkBindings]
      split
      next => rfl
      next => rw [ih, List.append_assoc, List.singleton_append]

/-- The check stops at the first binding that does not fit beside those before it. -/
theorem checkBindings_eq_error_iff {bindings : List (String × Binding)} {error : Error} :
    checkBindings path [] bindings = .error error ↔
      ∃ before name binding after fault, bindings = before ++ (name, binding) :: after ∧
        checkBindings path [] before = .ok () ∧
        bindingFault? path before name binding = some fault ∧ error = .setup fault := by
  constructor
  · intro stopped
    induction bindings using List.reverseRecOn with
    | nil => cases stopped
    | append_singleton before entry ih =>
        obtain ⟨name, binding⟩ := entry
        rw [checkBindings_append] at stopped
        cases passed : checkBindings path [] before with
        | error early =>
            rw [passed] at stopped
            obtain rfl : early = error := Except.error.inj stopped
            obtain ⟨front, other, last, after, fault, rfl, found⟩ := ih passed
            exact ⟨front, other, last, after ++ [(name, binding)], fault,
              List.append_assoc .., found⟩
        | ok =>
            rw [passed] at stopped
            change checkBindings path before [(name, binding)] = _ at stopped
            rw [checkBindings] at stopped
            split at stopped
            next fault found =>
              exact ⟨before, name, binding, [], fault, rfl, passed, found,
                (Except.error.inj stopped).symm⟩
            next => cases stopped
  · rintro ⟨before, name, binding, after, fault, rfl, passed, found, rfl⟩
    rw [checkBindings_append, passed]
    show checkBindings path before _ = _
    rw [checkBindings, found]

/-- The binding that is reported is the earliest one that clashes. -/
theorem clash?_eq_some_iff {earlier : List (String × Binding)} {binding : Binding}
    {found : String × Binding} :
    clash? earlier binding = some found ↔
      ∃ front rest, earlier = front ++ found :: rest ∧
        (∀ entry ∈ front, ¬ binding.Clashes entry.2) ∧ binding.Clashes found.2 := by
  have test (other : String × Binding) :
      (other.2.route == binding.route && other.2.method.overlaps binding.method) = true ↔
        binding.Clashes other.2 := by
    simp [Binding.Clashes]
  rw [clash?, List.find?_eq_some_iff_append]
  simp only [Bool.not_eq_true', ← Bool.not_eq_true, test]
  constructor
  · rintro ⟨clash, front, rest, split, apart⟩
    exact ⟨front, rest, split, apart, clash⟩
  · rintro ⟨front, rest, split, apart, clash⟩
    exact ⟨clash, front, rest, split, apart⟩

section Faults

variable {operations : List (String × Operation)} {operation : Operation} {binding : Binding}
  (bound : operation.binding = some binding)
include bound

theorem clashes_iff {other : Operation} :
    operation.Clashes other ↔ ∃ beside, other.binding = some beside ∧ binding.Clashes beside := by
  simp [Operation.Clashes, bound]

/-- The operation that is reported is the earliest one that clashes. -/
theorem clash?_bound?_eq_some_iff {name : String} :
    (∃ beside, clash? (operations.filterMap bound?) binding = some (name, beside)) ↔
      ∃ front key other rest, operations = front ++ (key, other) :: rest ∧ other.name = name ∧
        (∀ entry ∈ front, ¬ operation.Clashes entry.2) ∧ operation.Clashes other := by
  constructor
  · rintro ⟨beside, found⟩
    obtain ⟨_, _, split, apart, clash⟩ := clash?_eq_some_iff.mp found
    obtain ⟨front, ⟨key, other⟩, rest, rfl, found, rfl, _⟩ := filterMap_eq_append_cons_iff.mp split
    obtain ⟨besideBound, rfl⟩ := bound?_eq_some_iff.mp found
    refine ⟨front, key, other, rest, rfl, rfl, ?_, (clashes_iff bound).mpr ⟨_, besideBound, clash⟩⟩
    intro entry inside shared
    obtain ⟨beside, besideBound, clash⟩ := (clashes_iff bound).mp shared
    exact forall_mem_bound?_iff.mp apart entry inside beside besideBound clash
  · rintro ⟨front, key, other, rest, split, rfl, apart, shared⟩
    obtain ⟨beside, besideBound, clash⟩ := (clashes_iff bound).mp shared
    have found : bound? (key, other) = some (other.name, beside) :=
      bound?_eq_some_iff.mpr ⟨besideBound, rfl⟩
    have bindings := filterMap_eq_append_cons_iff.mpr ⟨front, _, rest, split, found, rfl, rfl⟩
    refine ⟨beside, clash?_eq_some_iff.mpr ⟨_, _, bindings, ?_, clash⟩⟩
    refine forall_mem_bound?_iff.mpr fun entry inside beside besideBound clash => ?_
    exact apart entry inside ((clashes_iff bound).mpr ⟨beside, besideBound, clash⟩)

/-- What is found at fault with an operation is why it cannot be mounted. -/
theorem bindingFault?_eq_some_iff {fault : SetupFault} :
    bindingFault? path (operations.filterMap bound?) operation.name binding = some fault ↔
      Faults path operations operation fault := by
  constructor
  · intro found
    unfold bindingFault? at found
    split at found
    next unrooted =>
      obtain rfl := Option.some.inj found
      exact .route bound (by simpa using unrooted)
    next rooted =>
      replace rooted : isRooted binding.route = true := by simpa using rooted
      split at found
      next same =>
        obtain rfl := Option.some.inj found
        exact .endpointRoute bound rooted same
      next own =>
        obtain ⟨⟨name, beside⟩, clash, rfl⟩ := Option.map_eq_some_iff.mp found
        obtain ⟨front, key, other, rest, split, rfl, apart, shared⟩ :=
          (clash?_bound?_eq_some_iff bound).mp ⟨beside, clash⟩
        exact .sharedRoute bound ⟨rooted, own⟩ split apart shared
  · intro faults
    unfold bindingFault?
    cases faults with
    | route other unrooted =>
        obtain rfl := Option.some.inj (bound.symm.trans other)
        simp [unrooted]
    | endpointRoute other rooted same =>
        obtain rfl := Option.some.inj (bound.symm.trans other)
        simp [rooted, ← same]
    | sharedRoute other routable split apart shared =>
        obtain rfl := Option.some.inj (bound.symm.trans other)
        obtain ⟨rooted, own⟩ := routable
        obtain ⟨beside, clash⟩ := (clash?_bound?_eq_some_iff bound).mpr
          ⟨_, _, _, _, split, rfl, apart, shared⟩
        simp [rooted, own, clash]

end Faults

/-- The check stops at the first operation that cannot be mounted beside those before it. -/
theorem checkBindings_bound?_eq_error_iff {operations : List (String × Operation)}
    {error : Error} :
    checkBindings path [] (operations.filterMap bound?) = .error error ↔
      ∃ before name operation after fault, operations = before ++ (name, operation) :: after ∧
        Mountable path before ∧ Faults path before operation fault ∧ error = .setup fault := by
  rw [checkBindings_eq_error_iff]
  constructor
  · rintro ⟨_, _, binding, _, fault, split, passed, found, rfl⟩
    obtain ⟨before, ⟨name, operation⟩, after, rfl, own, rfl, rfl⟩ :=
      filterMap_eq_append_cons_iff.mp split
    obtain ⟨bound, rfl⟩ := bound?_eq_some_iff.mp own
    exact ⟨before, name, operation, after, fault, rfl,
      checkBindings_eq_ok_iff_mountable.mp passed, (bindingFault?_eq_some_iff bound).mp found, rfl⟩
  · rintro ⟨before, name, operation, after, fault, rfl, mountable, faults, rfl⟩
    obtain ⟨binding, bound⟩ := faults.bound
    have own : bound? (name, operation) = some (operation.name, binding) :=
      bound?_eq_some_iff.mpr ⟨bound, rfl⟩
    exact ⟨_, _, binding, _, fault,
      filterMap_eq_append_cons_iff.mpr ⟨before, _, after, rfl, own, rfl, rfl⟩,
      checkBindings_eq_ok_iff_mountable.mpr mountable,
      (bindingFault?_eq_some_iff bound).mpr faults, rfl⟩

/-- No two mounted operations are bound to one route and one method. -/
theorem Mountable.single {operations : List (String × Operation)}
    (mountable : Mountable path operations) (route : String) (method : Method) :
    (operations.filter fun entry => entry.2.boundTo route method).length ≤ 1 := by
  have apart := mountable.apart.filter fun entry => entry.2.boundTo route method
  have serves (entry : String × Operation)
      (inside : entry ∈ operations.filter fun entry => entry.2.boundTo route method) :
      entry.2.boundTo route method = true := (List.mem_filter.mp inside).2
  generalize operations.filter (fun entry => entry.2.boundTo route method) = served at *
  match served with
  | [] | [_] => simp
  | first :: second :: rest =>
      have beside := (List.pairwise_cons.mp apart).1 second List.mem_cons_self
      have clash := Operation.clashes_of_boundTo
        (serves second (List.mem_cons_of_mem _ List.mem_cons_self))
        (serves first List.mem_cons_self)
      exact absurd clash beside

/-- A configuration is accepted exactly if its path is rooted and all operations can be mounted
beside it. Then no two operations are bound to one route and one method. Otherwise the error is that
of the path, or that of the first operation which cannot be mounted beside those before it. -/
theorem validate_accepts_mountable (config : Config) (schema : Schema) :
    (config.validate schema = .ok () ↔
        isRooted config.path = true ∧ Mountable config.path schema.operations) ∧
      (config.validate schema = .ok () → ∀ route method,
        (schema.operations.filter fun entry => entry.2.boundTo route method).length ≤ 1) ∧
      ∀ error, config.validate schema = .error error ↔
        isRooted config.path = false ∧ error = .setup .endpointPath ∨
          isRooted config.path = true ∧ ∃ before name operation after fault,
            schema.operations = before ++ (name, operation) :: after ∧
              Mountable config.path before ∧ Faults config.path before operation fault ∧
              error = .setup fault := by
  have accepts : config.validate schema = .ok () ↔
      isRooted config.path = true ∧ Mountable config.path schema.operations := by
    rw [← checkBindings_eq_ok_iff_mountable, ← bindings_eq]
    unfold validate
    cases isRooted config.path <;> simp
  refine ⟨accepts, fun accepted route method => ?single, fun error => ?fails⟩
  case single => exact (accepts.mp accepted).2.single route method
  case fails =>
    rw [← checkBindings_bound?_eq_error_iff, ← bindings_eq]
    unfold validate
    cases isRooted config.path <;> simp [eq_comm]

/-- An operation on the things. -/
def thingsOperation (name : String) (method : Method) : Operation where
  name := name
  signature := { type := .scalar Scalar.number }
  resolver := fun _ => pure (.nat 3)
  binding := some { method, route := "/things" }

def thingsSchema (operations : List Operation) : Schema :=
  Schema.base.attemptAll (operations.map Registration.operation)

/-- Things can be counted and added under one route, but then nothing else takes all methods; it is
counting, which has been there first, that is in the way. -/
theorem validate_accepts_mountable_things :
    let count := thingsOperation "count" .get
    let add := thingsOperation "add" .post
    let browse := thingsOperation "browse" .all
    let accepted := thingsSchema [count, add]
    let refused := thingsSchema [count, add, browse]
    Config.default.validate accepted = .ok () ∧
      (accepted.operations.filter fun entry => entry.2.boundTo "/things" .get).length ≤ 1 ∧
      ∃ error, Config.default.validate refused = .error error ∧
        error.message = "Duplicate REST route '/things' for 'count' and 'browse'" := by
  intro count add browse accepted refused
  have fits : Config.default.validate accepted = .ok () := rfl
  obtain ⟨_, single, _⟩ := validate_accepts_mountable Config.default accepted
  obtain ⟨_, _, fails⟩ := validate_accepts_mountable Config.default refused
  have mountable : Mountable Config.default.path [("count", count), ("add", add)] :=
    ((validate_accepts_mountable Config.default accepted).1.mp fits).2
  have routable : Routable Config.default.path { method := .all, route := "/things" } :=
    ⟨by decide, by decide⟩
  have clash : browse.Clashes count := ⟨_, rfl, _, rfl, rfl, rfl⟩
  have faults : Faults Config.default.path [("count", count), ("add", add)] browse
      (.sharedRoute "/things" "count" "browse") :=
    .sharedRoute rfl routable (List.nil_append _).symm nofun clash
  have split : refused.operations
      = [("count", count), ("add", add)] ++ ("browse", browse) :: [] := rfl
  have stops : Config.default.validate refused
      = .error (.setup (.sharedRoute "/things" "count" "browse")) :=
    (fails _).mpr (.inr ⟨by decide, _, _, _, _, _, split, mountable, faults, rfl⟩)
  exact ⟨fits, single fits _ _, _, stops, by decide⟩

end Server.Config

end TypedQuery
