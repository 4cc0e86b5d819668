import TypedQuery.Proofs.Entries
import TypedQuery.Proofs.Plan.Walk

/-!
# What resolving leaves alone

The fields that are selected in an object are resolved one after the other. None of them is selected
twice, so each is given what the object holds under its name from the start, and sees the fields
before it with what they have come to. Writing the results back changes nothing else: the members
stay where they are, selected names that are missing go to the end, and members that are not
selected keep their values, at every depth that is filled in. For one object that is
`Resolution.Frames`, and `Resolution.Extends` follows it down the plan.
-/

namespace TypedQuery

/-- No object of the plan selects a name twice. -/
inductive Plan.KeysUnique : Plan → Prop
  | leaf {definition scalar args} : KeysUnique (.leaf definition scalar args)
  | branch {definition type selection args children} : (Entries.keys children).Nodup →
      (∀ child ∈ children, KeysUnique child.2) →
      KeysUnique (.branch definition type selection args children)

theorem Plan.KeysUnique.children {plan : Plan} (h : plan.KeysUnique) :
    (Entries.keys plan.children).Nodup ∧ ∀ child ∈ plan.children, child.2.KeysUnique := by
  cases h with
  | leaf => exact ⟨List.nodup_nil, nofun⟩
  | branch unique within => exact ⟨unique, within⟩

/-- Where no key of the document is written twice, none is planned twice. -/
theorem Scope.keysUnique_of_returns {scope : Scope} {query : Json} (unique : query.KeysUnique)
    {definition : Definition} {path : FieldPath} {plan : Plan}
    (h : (scope.select query definition path).Returns plan) : plan.KeysUnique := by
  refine induction_of_returns (motive := fun query _ _ plan => query.KeysUnique → plan.KeysUnique)
    (fun _ _ _ _ _ _ => .leaf) ?_ h unique
  intro members definition path type args children _ _ names planned unique
  obtain _ | ⟨unique, uniqueWithin⟩ := unique
  · contradiction
  refine .branch (names.nodup unique) fun child inside => ?_
  obtain ⟨member, held, _, _, _, keysUnique⟩ := planned child inside
  exact keysUnique (uniqueWithin member (List.mem_of_mem_filter held))

namespace Resolution

section Walking

variable (resolution : Resolution)

theorem walk_nil (value : Json) (path : FieldPath) :
    resolution.walk [] value path = pure value := by
  cases value <;> rfl

/-- A node is asked, and what is selected in it is filled in unless a resolver has the last word.
Nothing is selected in a leaf. -/
theorem resolve_eq (plan : Plan) (value : Json) (parent : List (String × Json))
    (path : FieldPath) :
    resolution.resolve plan value parent path = Run.attachPath path (do
      match ← resolution.ask plan.definition plan.args plan.selection value parent path with
      | .final value => return value
      | .open value => resolution.walk plan.children value path) := by
  cases plan with
  | leaf definition scalar args =>
      rw [resolve]
      refine congrArg (Run.attachPath path) (bind_congr fun stage => ?_)
      cases stage with
      | final => rfl
      | «open» value => exact (resolution.walk_nil value path).symm
  | branch => exact resolution.resolve_branch ..

/-- What the resolver of an operation is shown at the node that answers it. -/
def operationRequest (plan : Plan) (path : FieldPath) : OperationRequest :=
  ⟨resolution.context, path, plan.args, plan.selection, resolution.operation⟩

/-- The value in which the fields selected in a node are filled in, if they are: the answer of an
operation, or what the parent of a field without a resolver holds. -/
def opens? (plan : Plan) (value : Json) (path : FieldPath) : Option Json :=
  match plan.definition with
  | .operation root =>
    if resolution.fullTree then
      (root.resolver (resolution.operationRequest plan path)).outcome.toOption
    else none
  | .field inner => if inner.resolver.isNone then some value else none

theorem opens?_of_no_resolver {plan : Plan} (h : plan.definition.hasResolver = false)
    (value : Json) (path : FieldPath) : resolution.opens? plan value path = some value := by
  rw [opens?]
  cases answers : plan.definition with
  | operation root =>
      rw [answers] at h
      cases h
  | field inner =>
      have noResolver : inner.resolver.isNone = true := by
        simpa [answers, Definition.hasResolver] using h
      exact if_pos noResolver

end Walking

/-- The value in which fields remain to be filled in, if any do, that is of a `Stage.open`. -/
def Stage.opened? : Stage → Option Json
  | .final _ => none
  | .open value => some value

variable {resolution : Resolution}

/-- Where a node stands once it has been asked tells whether it is filled in, and in what value. -/
theorem opens?_of_returns_ask {plan : Plan} {value : Json} {parent : List (String × Json)}
    {path : FieldPath} {stage : Stage}
    (h : (resolution.ask plan.definition plan.args plan.selection value parent path).Returns
      stage) :
    resolution.opens? plan value path = stage.opened? := by
  rw [opens?]
  cases answers : plan.definition with
  | operation root =>
      rw [answers, ask] at h
      dsimp only at h ⊢
      obtain ⟨answer, answered, h⟩ := Run.returns_bind.mp h
      have outcome : (root.resolver (resolution.operationRequest plan path)).outcome = .ok answer :=
        Run.returns_invoke.mp (Run.returns_recover.mp answered)
      cases full : resolution.fullTree with
      | true =>
          rw [full] at h
          obtain rfl := Run.returns_pure.mp h
          rw [outcome]
          rfl
      | false =>
          rw [full] at h
          obtain rfl := Run.returns_pure.mp h
          rfl
  | field inner =>
      rw [answers, ask] at h
      dsimp only at h ⊢
      cases declared : inner.resolver with
      | none =>
          rw [declared] at h
          obtain rfl := Run.returns_pure.mp h
          rfl
      | some resolver =>
          rw [declared] at h
          dsimp only at h
          split at h
          · obtain rfl := Run.returns_pure.mp h
            rfl
          · obtain ⟨answer, _, h⟩ := Run.returns_bind.mp h
            obtain rfl := Run.returns_pure.mp h
            rfl

/-- Fields are resolved one after the other. Each is given what the members, as they were, hold
under its name, and has for its parent the object in which the fields before it are filled in. -/
inductive FillsIn (resolution : Resolution) (members : List (String × Json)) (path : FieldPath) :
    (children : List (String × Plan)) → (filled : List (String × Json)) → Prop
  | start : FillsIn resolution members path [] members
  | next {earlier parent key child value} :
      FillsIn resolution members path earlier parent →
      (resolution.resolve child ((Entries.get? members key).getD .null) parent
        (path ++ [key])).Returns value →
      FillsIn resolution members path (earlier ++ [(key, child)])
        (Entries.put parent key value)

/-- The object that is filled in is the one there was, with what the selected fields came to, each
after those in front of it as `FillsIn` says. -/
structure Frames (resolution : Resolution) (children : List (String × Plan))
    (members : List (String × Json)) (path : FieldPath) (filled : List (String × Json)) :
    Prop where
  /-- The members keep their places, and selected names that are missing follow in order. -/
  keys : Entries.keys filled = Entries.keys members
    ++ (Entries.keys children).filter fun key => key ∉ Entries.keys members
  others : ∀ key ∉ Entries.keys children, Entries.get? filled key = Entries.get? members key
  selected : ∀ before key child after, children = before ++ (key, child) :: after →
    ∃ parent value, resolution.FillsIn members path before parent ∧
      (resolution.resolve child ((Entries.get? members key).getD .null) parent
        (path ++ [key])).Returns value ∧
      Entries.get? filled key = some value

namespace FillsIn

variable {members filled : List (String × Json)} {children : List (String × Plan)}
  {path : FieldPath}

theorem get?_of_not_mem (h : resolution.FillsIn members path children filled) {key : String}
    (fresh : key ∉ Entries.keys children) :
    Entries.get? filled key = Entries.get? members key := by
  induction h with
  | start => rfl
  | @next earlier parent name child value _ _ ih =>
      rw [Entries.keys_concat, List.mem_append, not_or, List.mem_singleton] at fresh
      rw [Entries.get?_put_of_ne fresh.2, ih fresh.1]

theorem keys (h : resolution.FillsIn members path children filled)
    (unique : (Entries.keys children).Nodup) :
    Entries.keys filled = Entries.keys members
      ++ (Entries.keys children).filter fun key => key ∉ Entries.keys members := by
  induction h with
  | start => exact (List.append_nil _).symm
  | @next earlier parent name child value _ _ ih =>
      obtain ⟨fresh, before⟩ := Entries.nodup_keys_concat_iff.mp unique
      rw [Entries.keys_concat, Entries.keys_put, ih before, List.filter_append]
      by_cases held : name ∈ Entries.keys members
      · simp [held]
      · simp [held, fresh]

/-- Every selected name holds what its field came to. -/
theorem get?_of_split (h : resolution.FillsIn members path children filled)
    (unique : (Entries.keys children).Nodup) {before after : List (String × Plan)} {key : String}
    {child : Plan} (split : children = before ++ (key, child) :: after) :
    ∃ parent value, resolution.FillsIn members path before parent ∧
      (resolution.resolve child ((Entries.get? members key).getD .null) parent
        (path ++ [key])).Returns value ∧
      Entries.get? filled key = some value := by
  induction h generalizing after with
  | start => simp at split
  | @next earlier parent name plan value sofar resolved ih =>
      obtain ⟨fresh, uniqueBefore⟩ := Entries.nodup_keys_concat_iff.mp unique
      obtain rfl | ⟨after, last, rfl⟩ := List.eq_nil_or_concat' after
      · obtain ⟨rfl, same⟩ := List.append_inj' split rfl
        cases same
        exact ⟨parent, value, sofar, resolved, Entries.get?_put_self ..⟩
      · rw [← List.cons_append, ← List.append_assoc] at split
        obtain ⟨rfl, same⟩ := List.append_inj' split rfl
        obtain ⟨parent, value, front, resolvedFront, held⟩ := ih uniqueBefore rfl
        have named : key ∈ Entries.keys (before ++ (key, child) :: after) := by
          simp [Entries.keys]
        have other : key ≠ name := fun same => fresh (same ▸ named)
        exact ⟨parent, value, front, resolvedFront, by rw [Entries.get?_put_of_ne other, held]⟩

theorem frames (h : resolution.FillsIn members path children filled)
    (unique : (Entries.keys children).Nodup) :
    resolution.Frames children members path filled where
  keys := h.keys unique
  others _ fresh := h.get?_of_not_mem fresh
  selected _ _ _ _ split := h.get?_of_split unique split

end FillsIn

/-- Filling in more fields goes on from where the earlier ones have led, so `FillsIn` follows the
list of fields. -/
theorem fillsIn_of_returns {members now filled : List (String × Json)} {path : FieldPath}
    {earlier children : List (String × Plan)}
    (sofar : resolution.FillsIn members path earlier now)
    (unique : (Entries.keys (earlier ++ children)).Nodup)
    (h : (resolution.resolveFields children now path).Returns filled) :
    resolution.FillsIn members path (earlier ++ children) filled := by
  induction children generalizing earlier now with
  | nil =>
      obtain rfl := Run.returns_pure.mp h
      rwa [List.append_nil]
  | cons entry children ih =>
      obtain ⟨key, child⟩ := entry
      obtain ⟨value, resolved, rest⟩ := Run.returns_bind.mp h
      have fresh : key ∉ Entries.keys earlier := Entries.not_mem_keys_of_nodup unique
      rw [sofar.get?_of_not_mem fresh] at resolved
      rw [List.append_cons] at unique ⊢
      exact ih (sofar.next resolved) unique rest

/-- What is selected in a value is filled in, and in the objects within it as far as no resolver has
the last word. A value that is no object is left as it is. -/
inductive Extends (resolution : Resolution) : Plan → FieldPath → (value result : Json) → Prop
  | kept {plan path value} : plan.nested? = none ∨ value.members? = none →
      Extends resolution plan path value value
  | object {definition type selection args children path members filled} :
      resolution.Frames children members path filled →
      (∀ child ∈ children, child.2.definition.hasResolver = false →
        Extends resolution child.2 (path ++ [child.1])
          ((Entries.get? members child.1).getD .null)
          ((Entries.get? filled child.1).getD .null)) →
      Extends resolution (.branch definition type selection args children) path (.object members)
        (.object filled)

/-- A node that is filled in returns what its fields have been filled into. -/
theorem returns_walk_of_opens {plan : Plan} {value : Json} {parent : List (String × Json)}
    {path : FieldPath} {result : Json}
    (resolved : (resolution.resolve plan value parent path).Returns result) {opened : Json}
    (opens : resolution.opens? plan value path = some opened) :
    (resolution.walk plan.children opened path).Returns result := by
  rw [resolve_eq, Run.returns_attachPath] at resolved
  obtain ⟨stage, asked, rest⟩ := Run.returns_bind.mp resolved
  rw [opens?_of_returns_ask asked] at opens
  cases stage with
  | final => cases opens
  | «open» => cases opens; exact rest

theorem extends_of_returns {plan : Plan} (unique : plan.KeysUnique) {value : Json}
    {parent : List (String × Json)} {path : FieldPath} {result : Json}
    (resolved : (resolution.resolve plan value parent path).Returns result) {opened : Json}
    (opens : resolution.opens? plan value path = some opened) :
    resolution.Extends plan path opened result := by
  have walked := returns_walk_of_opens resolved opens
  clear resolved opens
  induction plan generalizing path result opened with
  | leaf definition scalar args =>
      obtain rfl := Run.returns_pure.mp (resolution.walk_nil opened path ▸ walked)
      exact .kept (.inl rfl)
  | branch definition type selection args children ih =>
      obtain _ | ⟨unique, uniqueWithin⟩ := unique
      cases opened with
      | null | bool | number | string | array =>
          obtain rfl := Run.returns_pure.mp walked
          exact .kept (.inr rfl)
      | object members =>
          obtain ⟨filled, within, rfl⟩ := Run.returns_map.mp walked
          have frames : resolution.Frames children members path filled :=
            (fillsIn_of_returns .start unique within).frames unique
          refine .object frames fun child inside kept => ?_
          obtain ⟨key, plan⟩ := child
          obtain ⟨before, after, split⟩ := List.append_of_mem inside
          obtain ⟨parent, value, _, resolved, held⟩ := frames.selected before key plan after split
          rw [held]
          exact ih (key, plan) inside (uniqueWithin _ inside)
            (returns_walk_of_opens resolved (resolution.opens?_of_no_resolver kept _ _))

end Resolution

/-- Resolving a plan changes nothing in a value but what the plan selects in it. The value is what
the parent of a field holds, or the answer of an operation whose fields are filled in; the answer of
any other operation is returned as it is. -/
theorem Resolution.resolving_changes_only_what_is_selected {scope : Scope} {query : Json}
    (unique : query.KeysUnique) {definition : Definition} {place : FieldPath} {plan : Plan}
    (planned : (scope.select query definition place).Returns plan) (resolution : Resolution)
    (value : Json) (parent : List (String × Json)) (path : FieldPath) {result : Json}
    (resolved : (resolution.resolve plan value parent path).Returns result) :
    (∀ opened, resolution.opens? plan value path = some opened →
      resolution.Extends plan path opened result) ∧
    ∀ root, plan.definition = .operation root → resolution.fullTree = false →
      (root.resolver (resolution.operationRequest plan path)).Returns result := by
  have uniquePlan : plan.KeysUnique := Scope.keysUnique_of_returns unique planned
  refine ⟨fun opened opens => extends_of_returns uniquePlan resolved opens, ?_⟩
  intro root answers asIs
  rw [resolve_eq, Run.returns_attachPath, answers, ask, asIs] at resolved
  obtain ⟨stage, asked, rest⟩ := Run.returns_bind.mp resolved
  obtain ⟨answer, answered, final⟩ := Run.returns_bind.mp asked
  obtain rfl := Run.returns_pure.mp final
  obtain rfl := Run.returns_pure.mp rest
  exact Run.returns_invoke.mp (Run.returns_recover.mp answered)

/-- Whom a letter is from. -/
def senderType : ObjectType where
  name := "person"
  fields := [("name", { signature := { type := .scalar { name := "string" } } })]

/-- A letter with its sender, and with a copy of what it is when the copy is asked for. -/
def letterType : ObjectType where
  name := "letter"
  fields := [
    ("from", { signature := { type := .object senderType } }),
    ("copy", { signature := { type := .scalar { name := "letter" } }
               resolver := some fun request => pure (.object request.parent) }),
    ("read", { signature := { type := .scalar { name := "boolean" } } })]

def letterScope : Scope where
  schema := {}
  marker := .bool true
  context := ⟨"POST", "/", [], [], [], []⟩
  operation := "letter"

def letterQuery : Json :=
  .object [("from", .object [("name", .bool true)]), ("copy", .bool true), ("read", .bool true)]

theorem letterQuery_keysUnique : letterQuery.KeysUnique := by
  have marked : (Json.bool true).KeysUnique := .other rfl
  have named : (Json.object [("name", .bool true)]).KeysUnique :=
    .object (by decide) (by simpa using marked)
  exact .object (by decide) (by simp [marked, named])

/-- The text of the letter stays in front and the age of the person is kept, though nobody has asked
for them. Of the names that are missing, each goes to the end of its object. -/
theorem Resolution.resolving_changes_only_what_is_selected_letter :
    let resolution : Resolution := ⟨letterScope.context, "letter", true⟩
    let letter : Json := .object [("text", .string "Hi"), ("from", .object [("age", .string "3")])]
    let sender : Json := .object [("age", .string "3"), ("name", .null)]
    let filled : Json := .object [("text", .string "Hi"), ("from", sender),
      ("copy", .object [("text", .string "Hi"), ("from", sender)]), ("read", .null)]
    letterQuery.KeysUnique ∧
      ∃ plan, (letterScope.select letterQuery (.field (.bare (.object letterType)))
          ["letter"]).Returns plan ∧
        (resolution.resolve plan letter [] ["letter"]).Returns filled ∧
        resolution.Extends plan ["letter"] letter filled := by
  intro resolution letter sender filled
  have planned : (letterScope.select letterQuery (.field (.bare (.object letterType)))
      ["letter"]).Returns _ := rfl
  exact ⟨letterQuery_keysUnique, _, planned, rfl,
    (resolving_changes_only_what_is_selected letterQuery_keysUnique planned resolution letter []
      ["letter"] rfl).1 letter rfl⟩

end TypedQuery
