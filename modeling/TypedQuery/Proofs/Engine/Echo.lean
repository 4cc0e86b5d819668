import TypedQuery.Proofs.Arguments.Stability
import TypedQuery.Proofs.Engine.FullAnswer
import TypedQuery.Proofs.Plan.Response

/-!
# Scalars in and out

A scalar value comes in as an argument and goes out as the value of a field. Both ways have rules
for nulls, for arrays and for their elements, and where a slot and a field are declared alike and
the scalar parses as it serializes, which is `Scalar.Symmetric`, they are the same rules. So an
operation that answers with its arguments, as `Operation.Echoes` says, brings a value through them
twice.
-/

namespace TypedQuery

/-- The scalar parses as it serializes, if it does either. -/
def Scalar.Symmetric (scalar : Scalar) : Prop := scalar.parse = scalar.serialize

theorem Scalar.number_symmetric : Scalar.number.Symmetric := rfl

theorem Scalar.string_symmetric : Scalar.string.Symmetric := rfl

/-- The slot and the field with that signature have the scalar for their type, and agree on where
there may be nulls and on whether there is an array. -/
structure Slot.DeclaredLike (slot : Slot) (signature : Signature) (scalar : Scalar) : Prop where
  taken : slot.type = .scalar scalar
  given : signature.type = .scalar scalar
  nullable : slot.nullable = signature.nullable
  array : slot.array = signature.array

section Agreement

variable {scalar : Scalar} (symmetric : scalar.Symmetric) {slot : Slot} {signature : Signature}
  (alike : slot.DeclaredLike signature scalar) {schema : Schema} {path : FieldPath}

include symmetric in
theorem Scalar.Symmetric.parses_eq_serializes :
    Arguments.Parses scalar = Plan.Serializes scalar := by
  funext value result
  cases parses : scalar.parse with
  | none =>
      have serializes : scalar.serialize = none := symmetric ▸ parses
      simp only [Arguments.Parses, Plan.Serializes, parses, serializes]
  | some function =>
      have serializes : scalar.serialize = some function := symmetric ▸ parses
      simp only [Arguments.Parses, Plan.Serializes, parses, serializes]

include alike in
theorem Slot.DeclaredLike.resolved :
    schema.resolveInput slot.type = .ok (.scalar scalar) := by
  rw [alike.taken, Schema.resolveInput]

include alike symmetric in
/-- The rules for a value that comes in, `Normalizes`, are those for a value that goes out,
`ConformsLeaf`. -/
theorem Arguments.normalizes_iff_conformsLeaf {value : Json} {result : Option Json} :
    Arguments.Normalizes schema (some slot) path (some value) result ↔
      ∃ data, result = some data ∧ Plan.ConformsLeaf signature scalar value data := by
  have resolved : schema.resolveInput slot.type = .ok (.scalar scalar) := alike.resolved
  have parses : Arguments.Parses scalar = Plan.Serializes scalar := symmetric.parses_eq_serializes
  constructor
  · intro normal
    cases normal with
    | null nullable => exact ⟨_, rfl, .null (alike.nullable ▸ nullable)⟩
    | scalar null single type parsed =>
        cases resolved.symm.trans type
        exact ⟨_, rfl, .value (alike.array ▸ single) null (parses ▸ parsed)⟩
    | scalars array type allowed parsed =>
        cases resolved.symm.trans type
        exact ⟨_, rfl, .array (alike.array ▸ array) allowed (parses ▸ parsed)⟩
    | object _ type => cases resolved.symm.trans type
    | objects _ type => cases resolved.symm.trans type
  · rintro ⟨data, rfl, conforms⟩
    cases conforms with
    | null nullable => exact .null (alike.nullable ▸ nullable)
    | value single null serialized =>
        exact .scalar null (alike.array ▸ single) resolved (parses ▸ serialized)
    | array array allowed serialized =>
        exact .scalars (alike.array ▸ array) resolved allowed (parses ▸ serialized)

end Agreement

theorem Plan.returns_conform_leaf {definition : Definition} {scalar : Scalar} {args : Option Json}
    {value data : Json} {path : FieldPath} :
    ((Plan.leaf definition scalar args).conform value path).Returns data ↔
      Plan.ConformsLeaf definition.signature scalar value data := by
  rw [Plan.conform, Run.returns_attachPath, Plan.returns_conformLeaf]

/-- The operation answers with its arguments, whatever else it does. -/
def Operation.Echoes (root : Operation) : Prop :=
  ∀ request args, request.args = some args → (root.resolver request).Returns args

namespace Engine

variable {engine : Engine} {root : Operation} {scalar : Scalar} {slot : Slot} {name : String}
  {context : Context}

/-- An operation of scalar type to which nothing is given but arguments is planned as a leaf with
the arguments in normal form. -/
theorem returns_planning_args (type : root.signature.type = .scalar scalar) {value : Json}
    {plan : Plan} :
    (engine.planning root name (.object [(argsKey, value)]) context).Returns plan ↔
      (engine.scope root context).GuardAccepts
          ⟨.operation root, .object [(argsKey, value)], [name]⟩ ∧
        ∃ args, (Arguments.check engine.schema (some value) root.signature.args
            ([name] ++ [argsKey])).Returns args ∧
          plan = .leaf (.operation root) scalar args := by
  have full : (engine.scope root context).options = {} := rfl
  have resolved : (engine.scope root context).schema.resolveOutput root.signature.type
      = .ok (.scalar scalar) := Schema.resolveOutput_eq_scalar_iff.mpr type
  let site : Site := ⟨.operation root, .object [(argsKey, value)], [name]⟩
  have leaf : (engine.planning root name site.query context).Returns plan ↔ _ :=
    Scope.returns_select_leaf full site rfl resolved
  refine leaf.trans (and_congr_right fun _ => ?_)
  simp only [Entries.keys_cons, Entries.keys_nil, List.mem_singleton, forall_eq, true_and]
  rfl

theorem returns_answer_of_echoes (echoes : root.Echoes) {args answered : Json} :
    (answer root name context (.leaf (.operation root) scalar (some args))).Returns answered ↔
      answered = args := by
  have echo := echoes (request root name context (.leaf (.operation root) scalar (some args)))
    args rfl
  rw [answer, Run.returns_attachPath, Run.returns_recover, Run.returns_invoke]
  constructor
  · intro returned
    exact Except.ok.inj (returned.symm.trans echo)
  · rintro rfl
    exact echo

/-- An operation that echoes its arguments has them checked on the way in and conformed on the way
out, each time by the rules of `ConformsLeaf`. -/
theorem returns_serve_of_echoes (symmetric : scalar.Symmetric)
    (alike : slot.DeclaredLike root.signature scalar) (takes : root.signature.args = some slot)
    (echoes : root.Echoes) {value data : Json} :
    (engine.serve root name (.object [(argsKey, value)]) context).Returns data ↔
      (engine.scope root context).GuardAccepts
          ⟨.operation root, .object [(argsKey, value)], [name]⟩ ∧
        ∃ once, Plan.ConformsLeaf root.signature scalar value once ∧
          Plan.ConformsLeaf root.signature scalar once data := by
  have passive (plan : Plan)
      (planned : (engine.planning root name (.object [(argsKey, value)]) context).Returns plan) :
      plan.Passive := by
    obtain ⟨_, args, _, rfl⟩ := (returns_planning_args alike.given).mp planned
    exact .leaf
  rw [serve_of_passive passive]
  simp only [Run.returns_bind, returns_planning_args alike.given, takes,
    Arguments.returns_check_iff, Arguments.normalizes_iff_conformsLeaf symmetric alike]
  constructor
  · rintro ⟨_, ⟨accepted, _, ⟨once, rfl, checked⟩, rfl⟩, answered, echoed, conformed⟩
    obtain rfl := (returns_answer_of_echoes echoes).mp echoed
    exact ⟨accepted, answered, checked, Plan.returns_conform_leaf.mp conformed⟩
  · rintro ⟨accepted, once, checked, conforms⟩
    exact ⟨_, ⟨accepted, _, ⟨once, rfl, checked⟩, rfl⟩, once,
      (returns_answer_of_echoes echoes).mpr rfl, Plan.returns_conform_leaf.mpr conforms⟩

/-- A scalar that parses as it serializes, if it does either, takes the same values in a slot and
in a field that are declared alike, and makes the same of them: a value is accepted as an argument
just if it is accepted as a result, and what it comes to is told by the rules for nulls, arrays and
elements, with every value in its place passed through the function. So an operation that is asked
for nothing but its arguments, and echoes them, responds just if its guard lets the request pass and
the function accepts the value twice, and responds with what the value comes to in two passes. -/
theorem arguments_and_results_agree (scalar : Scalar) (symmetric : scalar.Symmetric) (slot : Slot)
    (value : Json) :
    (Scalar.number.Symmetric ∧ Scalar.string.Symmetric) ∧
      (∀ definition : Definition, slot.DeclaredLike definition.signature scalar →
        ∀ schema path args place,
          (∀ result, (Arguments.check schema (some value) (some slot) path).outcome = .ok result ↔
            ∃ data, result = some data ∧
              ((Plan.leaf definition scalar args).conform value place).outcome = .ok data) ∧
          ∀ data, ((Plan.leaf definition scalar args).conform value place).outcome = .ok data ↔
            Plan.ConformsLeaf definition.signature scalar value data) ∧
      ∀ (engine : Engine) (root : Operation) (name : String) (context : Context),
        engine.schema.operation? name = some root → root.signature.args = some slot →
        slot.DeclaredLike root.signature scalar → root.Echoes →
        let query : Json := .object [(argsKey, value)]
        ∀ data, (engine.run name query context).outcome = .ok data ↔
          (engine.scope root context).GuardAccepts ⟨.operation root, query, [name]⟩ ∧
            ∃ once, Plan.ConformsLeaf root.signature scalar value once ∧
              Plan.ConformsLeaf root.signature scalar once data := by
  refine ⟨⟨Scalar.number_symmetric, Scalar.string_symmetric⟩, ?agree, ?echo⟩
  case agree =>
    intro definition alike schema path args place
    have conforms (data : Json) :
        ((Plan.leaf definition scalar args).conform value place).outcome = .ok data ↔
          Plan.ConformsLeaf definition.signature scalar value data := Plan.returns_conform_leaf
    refine ⟨fun result => ?_, conforms⟩
    calc (Arguments.check schema (some value) (some slot) path).outcome = .ok result
        ↔ Arguments.Normalizes schema (some slot) path (some value) result :=
          Arguments.returns_check_iff
      _ ↔ ∃ data, result = some data ∧
            Plan.ConformsLeaf definition.signature scalar value data :=
          Arguments.normalizes_iff_conformsLeaf symmetric alike
      _ ↔ _ := by simp only [conforms]
  case echo =>
    intro engine root name context found takes alike echoes query data
    rw [run, found]
    exact returns_serve_of_echoes symmetric alike takes echoes

/-- Takes a number to the next one, on the way in and on the way out. -/
def tally : Scalar where
  name := "tally"
  parse := some next
  serialize := some next
where
  next : ScalarFunction
    | .number (.int value) => pure (.int (value + 1))
    | _ => .fail (.foreign "no whole number")

def tallySlot : Slot where
  type := .scalar tally
  nullable := true
  array := some ⟨true⟩

def tallyOperation : Operation where
  name := "tally"
  signature :=
    { type := .scalar tally
      nullable := true
      array := some ⟨true⟩
      args := some tallySlot }
  resolver := fun request => pure (request.args.getD .null)

def tallyEngine : Engine where
  schema := { operations := [("tally", tallyOperation)] }
  options := {}

/-- A number is counted up on either way, and so twice by an echo; a null stays. -/
theorem arguments_and_results_agree_tally :
    let context : Context := ⟨"POST", "/", [], [], [], []⟩
    let signature : Signature := tallyOperation.signature
    let plan : Plan := .leaf (.operation tallyOperation) tally none
    let value : Json := .array [.nat 1, .null]
    let once : Json := .array [.nat 2, .null]
    let data : Json := .array [.nat 3, .null]
    (tally.Symmetric ∧ tallySlot.DeclaredLike signature tally ∧ tallyOperation.Echoes ∧
        tallyEngine.schema.operation? "tally" = some tallyOperation ∧
        signature.args = some tallySlot) ∧
      (Arguments.check {} (some value) (some tallySlot) []).outcome = .ok (some once) ∧
      (plan.conform value []).outcome = .ok once ∧
      (tallyEngine.run "tally" (.object [(argsKey, value)]) context).outcome = .ok data ∧
      ∃ once, Plan.ConformsLeaf signature tally value once ∧
        Plan.ConformsLeaf signature tally once data := by
  intro context signature plan value once data
  have alike : tallySlot.DeclaredLike signature tally := ⟨rfl, rfl, rfl, rfl⟩
  have echoes : tallyOperation.Echoes := by
    intro request args given
    exact congrArg (fun args => Except.ok (args.getD .null)) given
  obtain ⟨_, agree, echo⟩ := arguments_and_results_agree tally rfl tallySlot value
  have checked : (Arguments.check {} (some value) (some tallySlot) []).outcome
      = .ok (some once) := rfl
  have conformed : (plan.conform value []).outcome = .ok once := by
    obtain ⟨_, ⟨⟩, conformed⟩ :=
      ((agree (.operation tallyOperation) alike {} [] none []).1 (some once)).mp checked
    exact conformed
  have ran : (tallyEngine.run "tally" (.object [(argsKey, value)]) context).outcome = .ok data :=
    rfl
  exact ⟨⟨rfl, alike, echoes, rfl, rfl⟩, checked, conformed, ran,
    ((echo tallyEngine tallyOperation "tally" context rfl rfl alike echoes data).mp ran).2⟩

end Engine

end TypedQuery
