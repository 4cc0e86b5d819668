import TypedQuery.Proofs.Plan.Frame
import TypedQuery.Proofs.Plan.Stability

/-!
# Conforming twice

Data that have been conformed to a plan may be conformed to it once more, as those of a sub-tree
are. Nothing happens to them if something is selected in every object of the plan and the scalars of
the plan leave alone what they have serialized, as the base scalars do. Both can be read off the
nodes of the plan, and make it `Plan.Stable`. An object in which nothing is selected is different:
what comes to null there may be refused the second time.
-/

namespace TypedQuery

theorem Scalar.settled_of_base {scalar : Scalar} (base : scalar ∈ Scalar.base) :
    scalar.Settled := by
  simp only [Scalar.base, List.mem_cons, List.not_mem_nil, or_false] at base
  obtain rfl | rfl | rfl := base
  · exact boolean_settled
  · exact number_settled
  · exact string_settled

namespace Plan

/-- Whether a plan is `Stable` shows in its nodes. -/
theorem stable_of_nodes {plan : Plan} (unique : plan.KeysUnique) {path : FieldPath}
    (selects : ∀ node ∈ plan.nodes path, node.2.nested? ≠ some [])
    (settled : ∀ node ∈ plan.nodes path, ∀ scalar, node.2.type = .scalar scalar →
      scalar.Settled) : plan.Stable := by
  induction plan generalizing path with
  | leaf definition scalar args => exact .leaf (settled _ List.mem_cons_self scalar rfl)
  | branch definition type selection args children ih =>
      obtain _ | ⟨unique, uniqueWithin⟩ := unique
      have below {child : String × Plan} (inside : child ∈ children) {node : FieldPath × Plan}
          (here : node ∈ child.2.nodes (path ++ [child.1])) :
          node ∈ (branch definition type selection args children).nodes path :=
        List.mem_cons_of_mem _ (mem_nodesWithin inside here)
      have selected : children ≠ [] := fun nothing =>
        selects _ List.mem_cons_self (congrArg some nothing)
      refine .branch selected unique fun child inside => ?_
      exact ih child inside (uniqueWithin child inside)
        (fun node here => selects node (below inside here))
        (fun node here => settled node (below inside here))

/-- Data that have been conformed to the plan of a document are conformed again as they are, the
order of their keys included, whatever value they come from and whatever options the plan was made
with: wherever the plan selects something in every object, and its scalars leave alone what they
have serialized. Base scalars do. -/
theorem response_data_are_kept (scope : Scope) (query : Json) (unique : query.KeysUnique)
    (definition : Definition) (start : FieldPath) (plan : Plan)
    (planned : (scope.select query definition start).outcome = .ok plan)
    (value data : Json) (path : FieldPath) :
    (∀ scalar ∈ Scalar.base, scalar.Settled) ∧
      ((∀ node ∈ plan.nodes start, node.2.nested? ≠ some []) →
        (∀ node ∈ plan.nodes start, ∀ scalar, node.2.type = .scalar scalar → scalar.Settled) →
        (plan.conform value path).outcome = .ok data →
          (plan.conform data path).outcome = .ok data) := by
  refine ⟨fun scalar => Scalar.settled_of_base, fun selects settled conformed => ?_⟩
  have uniquePlan : plan.KeysUnique := Scope.keysUnique_of_returns unique planned
  have stable : plan.Stable := stable_of_nodes uniquePlan selects settled
  have conforms : Conforms plan value data := returns_conform.mp conformed
  exact returns_conform.mpr (conforms_self stable conforms)

/-- Players are active or not, and have scores and friends. -/
def playerType : ObjectType where
  name := "player"
  fields := [
    ("active", { signature := { type := .scalar Scalar.boolean } }),
    ("scores",
      { signature := { type := .scalar Scalar.number, nullable := true, array := some ⟨true⟩ } }),
    ("friends", { signature := { type := .lookup "player", array := some ⟨true⟩ } })]

def playerScope : Scope where
  schema := { objects := [("player", playerType)] }
  marker := .bool true
  context := ⟨"POST", "/", [], [], [], []⟩
  operation := "player"

def playerQuery : Json :=
  .object [("friends", .object [("scores", .bool true), ("active", .bool true)]),
    ("active", .bool true)]

theorem playerQuery_keysUnique : playerQuery.KeysUnique := by
  have marked : (Json.bool true).KeysUnique := .other rfl
  have friends : (Json.object [("scores", .bool true), ("active", .bool true)]).KeysUnique :=
    .object (by decide) (by simpa using marked)
  exact .object (by decide) (by simp [marked, friends])

/-- Numbers and texts that count as truth values are truth values from then on. -/
theorem response_data_are_kept_player :
    let value : Json := .object [("active", .nat 1), ("friends", .array [.null,
      .object [("active", .string ""), ("name", .string "Bo")],
      .object [("scores", .array [.nat 3, .null]), ("active", .array [])]])]
    let data : Json := .object [("friends", .array [.null,
      .object [("scores", .null), ("active", .bool false)],
      .object [("scores", .array [.nat 3, .null]), ("active", .bool true)]]),
      ("active", .bool true)]
    playerQuery.KeysUnique ∧ ∃ plan,
      (playerScope.select playerQuery (.field (.bare (.lookup "player"))) ["player"]).outcome
          = .ok plan ∧
        (∀ node ∈ plan.nodes ["player"], node.2.nested? ≠ some []) ∧
        (∀ node ∈ plan.nodes ["player"], ∀ scalar, node.2.type = .scalar scalar →
          scalar.Settled) ∧
        (plan.conform value ["player"]).outcome = .ok data ∧
        (plan.conform data ["player"]).outcome = .ok data := by
  intro value data
  have kept := response_data_are_kept playerScope playerQuery playerQuery_keysUnique
    (.field (.bare (.lookup "player"))) ["player"] _ rfl value data ["player"]
  refine ⟨playerQuery_keysUnique, _, rfl, ?selects, ?settled, rfl, kept.2 ?selects ?settled rfl⟩
  case selects => simp [nodes, nodesWithin, nested?]
  case settled => simp [nodes, nodesWithin, type, Scalar.boolean_settled, Scalar.number_settled]

end Plan

end TypedQuery
