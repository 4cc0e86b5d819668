import TypedQuery.Proofs.Plan.Filling
import TypedQuery.Proofs.Plan.Stability
import TypedQuery.Proofs.Plan.Walk

/-!
# Walking a plan again

The data of a plan are themselves a value that a plan may be resolved over. Every field without a
resolver then comes to its data again. A resolver is asked again, with the data of its field as the
value and with a parent that has been reduced to what is selected, so it may well answer otherwise.
If each resolver answers with something that comes to the same data, so does the whole: the plan
`Repeats`, and `walk_again_of_repeats` says what comes of it.
-/

namespace TypedQuery

namespace Plan

/-- A leaf that takes what its parent holds. -/
structure Plain (plan : Plan) : Prop where
  leaf : plan.nested? = none
  kept : plan.definition.hasResolver = false

/-- The two values come to the same data, as `Conforms` tells. -/
def SameData (plan : Plan) (value other : Json) : Prop :=
  ∃ data, Conforms plan value data ∧ Conforms plan other data

/-- Two parents of a field come to the same data under the names that are selected before the field,
and under the names of plain leaves that are selected after it. -/
structure Recalls (before after : List (String × Plan)) (members others : List (String × Json)) :
    Prop where
  before : ∀ sibling ∈ before, sibling.2.SameData ((Entries.get? members sibling.1).getD .null)
    ((Entries.get? others sibling.1).getD .null)
  after : ∀ sibling ∈ after, sibling.2.Plain →
    sibling.2.SameData ((Entries.get? members sibling.1).getD .null)
      ((Entries.get? others sibling.1).getD .null)

/-- The resolver of the field, if it is asked at all, may be asked again. With the data of its
answer for a value, and a parent that recalls the one of before, it answers with something that
comes to the same data. -/
def AnswersAgain (before after : List (String × Plan)) (plan : Plan) : Prop :=
  ∀ inner resolver, plan.definition = .field inner → inner.resolver = some resolver →
    inner.deferred = false → ∀ request answer data parent, (resolver request).Returns answer →
      Conforms plan answer data → Recalls before after request.parent parent →
      ∃ other, (resolver { request with value := data, parent }).Returns other ∧
        Conforms plan other data

theorem answersAgain_of_no_resolver {before after : List (String × Plan)} {plan : Plan}
    (kept : plan.definition.hasResolver = false) : plan.AnswersAgain before after := by
  intro inner resolver answers declared
  rw [answers, Definition.hasResolver, declared] at kept
  cases kept

/-- A resolver that shows what its parent holds under a name selected before, where the field of
that name has the same data. -/
theorem answersAgain_of_shows {before after : List (String × Plan)} {plan sibling : Plan}
    {key : String} (inside : (key, sibling) ∈ before)
    (alike : ∀ value path, sibling.conform value path = plan.conform value path)
    (shows : ∀ inner resolver, plan.definition = .field inner → inner.resolver = some resolver →
      ∀ request, resolver request = pure ((Entries.get? request.parent key).getD .null)) :
    plan.AnswersAgain before after := by
  intro inner resolver field declared _ request answer data parent answered conforms recalls
  have reads := shows inner resolver field declared
  have same (value data : Json) : Conforms sibling value data ↔ Conforms plan value data := by
    have known : (sibling.conform value []).Returns data ↔
        (plan.conform value []).Returns data := by
      rw [alike]
    exact returns_conform.symm.trans (known.trans returns_conform)
  rw [reads, Run.returns_pure] at answered
  obtain ⟨recalled, first, again⟩ := recalls.before _ inside
  have known : (plan.conform answer []).Returns data := returns_conform.mpr conforms
  have held : (plan.conform answer []).Returns recalled :=
    returns_conform.mpr ((same ..).mp (answered ▸ first))
  obtain rfl : data = recalled := Except.ok.inj (known.symm.trans held)
  refine ⟨(Entries.get? parent key).getD .null, ?_, (same ..).mp again⟩
  rw [reads]
  rfl

/-- All resolvers that are asked within the plan answer again. What is selected in a field with a
resolver of its own is not asked. -/
inductive Repeats : Plan → Prop
  | leaf {definition scalar args} : Repeats (.leaf definition scalar args)
  | branch {definition type selection args children} :
      (∀ before key child after, children = before ++ (key, child) :: after →
        AnswersAgain before after child) →
      (∀ child ∈ children, child.2.definition.hasResolver = false → Repeats child.2) →
      Repeats (.branch definition type selection args children)

/-- Each of the fields has data of its own among the results, which the member of its name comes
to. -/
def ComesTo (children : List (String × Plan)) (members results : List (String × Json)) : Prop :=
  ∀ child ∈ children, ∃ data, Entries.get? results child.1 = some data ∧
    Conforms child.2 ((Entries.get? members child.1).getD .null) data

end Plan

namespace Resolution

open Plan

variable {resolution : Resolution}

/-- What is not selected is not touched. -/
theorem get?_of_returns_of_not_mem {children : List (String × Plan)} {key : String}
    (fresh : key ∉ Entries.keys children) {members walked : List (String × Json)}
    {path : FieldPath} (h : (resolution.resolveFields children members path).Returns walked) :
    Entries.get? walked key = Entries.get? members key := by
  induction children generalizing members with
  | nil => rw [Run.returns_pure.mp h]
  | cons child children ih =>
      obtain ⟨name, plan⟩ := child
      obtain ⟨raw, _, rest⟩ := Run.returns_bind.mp h
      have other : key ≠ name := fun same => fresh (same ▸ List.mem_cons_self)
      have freshRest : key ∉ Entries.keys children :=
        fun named => fresh (List.mem_cons_of_mem _ named)
      rw [ih freshRest rest, Entries.get?_put_of_ne other]

/-- Under a selected name stands what resolving the field has made of what was held there. -/
theorem get?_of_returns {children : List (String × Plan)} (unique : (Entries.keys children).Nodup)
    {key : String} {child : Plan} (inside : (key, child) ∈ children)
    {members walked : List (String × Json)} {path : FieldPath}
    (h : (resolution.resolveFields children members path).Returns walked) :
    ∃ parent raw, (resolution.resolve child ((Entries.get? members key).getD .null) parent
      (path ++ [key])).Returns raw ∧ Entries.get? walked key = some raw := by
  induction children generalizing members with
  | nil => cases inside
  | cons entry children ih =>
      obtain ⟨name, plan⟩ := entry
      obtain ⟨fresh, unique⟩ := List.nodup_cons.mp unique
      obtain ⟨raw, first, rest⟩ := Run.returns_bind.mp h
      obtain same | inside := List.mem_cons.mp inside
      · cases same
        refine ⟨members, raw, first, ?_⟩
        rw [get?_of_returns_of_not_mem fresh rest, Entries.get?_put_self]
      · have named : key ∈ Entries.keys children := List.mem_map_of_mem inside
        have other : key ≠ name := fun same => fresh (same ▸ named)
        obtain ⟨parent, raw, resolved, held⟩ := ih unique inside rest
        rw [Entries.get?_put_of_ne other] at resolved
        exact ⟨parent, raw, resolved, held⟩

/-- A leaf that is `Plain` keeps what was held under its name. -/
theorem getD_get?_of_plain {children : List (String × Plan)}
    (unique : (Entries.keys children).Nodup) {child : String × Plan} (inside : child ∈ children)
    (plain : child.2.Plain) {members walked : List (String × Json)} {path : FieldPath}
    (h : (resolution.resolveFields children members path).Returns walked) :
    (Entries.get? walked child.1).getD .null = (Entries.get? members child.1).getD .null := by
  obtain ⟨key, plan⟩ := child
  obtain ⟨leaf, kept⟩ := plain
  obtain ⟨parent, raw, resolved, held⟩ := get?_of_returns unique inside h
  cases plan with
  | branch => cases leaf
  | leaf definition scalar args =>
      rw [resolve_eq_fill kept .leaf, Run.returns_pure] at resolved
      rw [held, ← resolved]
      rfl

variable (resolution) in
/-- The field may be resolved again: over its data, and with a parent that recalls the one of
before, it comes to the same data. -/
def ResolvesAgain (before after : List (String × Plan)) (plan : Plan) : Prop :=
  ∀ value parent others raw data path, (resolution.resolve plan value parent path).Returns raw →
    Conforms plan raw data → Recalls before after parent others →
    ∃ again, (resolution.resolve plan data others path).Returns again ∧ Conforms plan again data

section Fields

variable {before rest : List (String × Plan)} {path : FieldPath}
  {members others walked results : List (String × Json)}
  (comesTo : ComesTo (before ++ rest) walked results) (done : ComesTo before others results)
  (untouched : ∀ child ∈ rest, Entries.get? others child.1 = Entries.get? results child.1)
  (stable : ∀ child ∈ rest, child.2.Stable)
include comesTo done untouched stable

/-- Once those before the rest have been filled in, both walks have come to the same data, apart
from what is still to be resolved. -/
theorem recalls_of_comesTo (unique : (Entries.keys (before ++ rest)).Nodup)
    (walking : (resolution.resolveFields rest members path).Returns walked) :
    Recalls before rest members others := by
  rw [Entries.keys, List.map_append] at unique
  obtain ⟨_, uniqueRest, apart⟩ := List.nodup_append.mp unique
  constructor
  · intro sibling inside
    obtain ⟨data, found, conforms⟩ := comesTo sibling (List.mem_append_left _ inside)
    obtain ⟨data', found', conforms'⟩ := done sibling inside
    obtain rfl := Option.some.inj (found.symm.trans found')
    have fresh : sibling.1 ∉ Entries.keys rest := fun named =>
      apart sibling.1 (List.mem_map_of_mem inside) sibling.1 named rfl
    rw [get?_of_returns_of_not_mem fresh walking] at conforms
    exact ⟨data, conforms, conforms'⟩
  · intro sibling inside plain
    obtain ⟨data, found, conforms⟩ := comesTo sibling (List.mem_append_right _ inside)
    rw [getD_get?_of_plain uniqueRest inside plain walking] at conforms
    have kept : (Entries.get? others sibling.1).getD .null = data := by
      rw [untouched sibling inside, found]
      rfl
    refine ⟨data, conforms, ?_⟩
    rw [kept]
    exact conforms_self (stable sibling inside) conforms

end Fields

/-- The fields of an object are filled in one after the other, in the first walk and in the second.
Those before the rest have been filled in already, in both of them. -/
theorem resolveFields_again (before rest : List (String × Plan)) {path : FieldPath}
    (unique : (Entries.keys (before ++ rest)).Nodup)
    (stable : ∀ child ∈ rest, child.2.Stable)
    (resolves : ∀ front key child after, before ++ rest = front ++ (key, child) :: after →
      resolution.ResolvesAgain front after child)
    {members others walked results : List (String × Json)}
    (walking : (resolution.resolveFields rest members path).Returns walked)
    (comesTo : ComesTo (before ++ rest) walked results)
    (done : ComesTo before others results)
    (untouched : ∀ child ∈ rest, Entries.get? others child.1 = Entries.get? results child.1) :
    ∃ again, (resolution.resolveFields rest others path).Returns again ∧
      ComesTo (before ++ rest) again results := by
  induction rest generalizing before members others with
  | nil => exact ⟨others, rfl, (List.append_nil before).symm ▸ done⟩
  | cons entry rest ih =>
      obtain ⟨key, child⟩ := entry
      have recalls : Recalls before ((key, child) :: rest) members others :=
        recalls_of_comesTo comesTo done untouched stable unique walking
      have recallsRest : Recalls before rest members others :=
        ⟨recalls.before,
          fun sibling inside => recalls.after sibling (List.mem_cons_of_mem _ inside)⟩
      have names : (Entries.keys before ++ key :: Entries.keys rest).Nodup := by
        rwa [Entries.keys, List.map_append] at unique
      obtain ⟨_, uniqueRest, apart⟩ := List.nodup_append.mp names
      have fresh : key ∉ Entries.keys rest := (List.nodup_cons.mp uniqueRest).1
      have otherBefore (sibling : String × Plan) (inside : sibling ∈ before) : sibling.1 ≠ key :=
        apart sibling.1 (List.mem_map_of_mem inside) key List.mem_cons_self
      have otherRest (sibling : String × Plan) (inside : sibling ∈ rest) : sibling.1 ≠ key :=
        fun same => fresh (same ▸ List.mem_map_of_mem inside)
      obtain ⟨raw, first, walkingRest⟩ := Run.returns_bind.mp walking
      -- The first walk leaves under the name what the field was resolved to, and the second walk
      -- finds its data there.
      obtain ⟨data, found, conforms⟩ :=
        comesTo (key, child) (List.mem_append_right _ List.mem_cons_self)
      rw [get?_of_returns_of_not_mem fresh walkingRest, Entries.get?_put_self] at conforms
      have held : (Entries.get? others key).getD .null = data := by
        rw [untouched (key, child) List.mem_cons_self, found]
        rfl
      obtain ⟨again, firstAgain, conformsAgain⟩ :=
        resolves before key child rest rfl _ members others raw data _ first conforms recallsRest
      have shifted : before ++ (key, child) :: rest = (before ++ [(key, child)]) ++ rest :=
        List.append_cons ..
      have doneMore :
          ComesTo (before ++ [(key, child)]) (Entries.put others key again) results := by
        refine List.forall_mem_append.mpr ⟨fun sibling inside => ?_, ?_⟩
        · rw [Entries.get?_put_of_ne (otherBefore sibling inside)]
          exact done sibling inside
        · refine List.forall_mem_singleton.mpr ⟨data, found, ?_⟩
          rw [Entries.get?_put_self]
          exact conformsAgain
      rw [shifted] at unique resolves comesTo ⊢
      obtain ⟨walkedAgain, restAgain, comesToAgain⟩ := ih _ unique
        (fun sibling inside => stable sibling (List.mem_cons_of_mem _ inside)) resolves walkingRest
        comesTo doneMore fun sibling inside => by
          rw [Entries.get?_put_of_ne (otherRest sibling inside)]
          exact untouched sibling (List.mem_cons_of_mem _ inside)
      refine ⟨walkedAgain, Run.returns_bind.mpr ⟨again, ?_, restAgain⟩, comesToAgain⟩
      rw [held]
      exact firstAgain

/-- The data of an object are filled in again. Data of any other shape stay as they are. -/
theorem walk_again {definition : Definition} {type : ObjectType}
    {selection : List (String × Json)} {args : Option Json} {children : List (String × Plan)}
    (stable : (Plan.branch definition type selection args children).Stable)
    (resolves : ∀ front key child after, children = front ++ (key, child) :: after →
      resolution.ResolvesAgain front after child) {value raw data : Json} {path : FieldPath}
    (walking : (resolution.walk children value path).Returns raw)
    (conforms : Conforms (.branch definition type selection args children) raw data) :
    ∃ again, (resolution.walk children data path).Returns again ∧
      Conforms (.branch definition type selection args children) again data := by
  have itself : Conforms (.branch definition type selection args children) data data :=
    conforms_self stable conforms
  cases data with
  | null | bool | number | string | array => exact ⟨_, rfl, itself⟩
  | object results =>
      obtain _ | ⟨selected, unique, within⟩ := stable
      cases conforms with
      | object single _ conforms =>
          cases conforms with
          | empty => exact absurd rfl selected
          | fields _ conforms =>
              cases value with
              | null | bool | number | string | array => cases Run.returns_pure.mp walking
              | object members =>
                  obtain ⟨walked, walkingFields, same⟩ := Run.returns_map.mp walking
                  obtain rfl := Json.object.inj same
                  have nothingDone : ComesTo [] results results := nofun
                  obtain ⟨again, walkedAgain, comesTo⟩ :=
                    resolveFields_again [] children unique within resolves walkingFields
                      (fun child inside => conforms.get? unique inside) nothingDone fun _ _ => rfl
                  have conformsAgain : ConformsFields children again results :=
                    conformsFields_of_get? unique conforms.keys comesTo
                  exact ⟨.object again, Run.returns_map.mpr ⟨again, walkedAgain, rfl⟩,
                    .object single (by simp) (.fields selected conformsAgain)⟩

/-- A field with a resolver is what the resolver answers. -/
theorem returns_resolve_of_resolver {plan : Plan} {inner : Field} {resolver : FieldResolver}
    (answers : plan.definition = .field inner) (declared : inner.resolver = some resolver)
    (asked : inner.deferred = false) (value : Json) (parent : List (String × Json))
    (path : FieldPath) (raw : Json) :
    (resolution.resolve plan value parent path).Returns raw ↔
      (resolver ⟨resolution.context, path, plan.args, plan.selection, value, parent,
        resolution.operation⟩).Returns raw := by
  cases plan with
  | leaf | branch =>
      cases answers
      simp [resolve, ask, declared, asked, Plan.args, Plan.selection]

/-- A deferred field is null. -/
theorem resolve_of_deferred {plan : Plan} {inner : Field} {resolver : FieldResolver}
    (answers : plan.definition = .field inner) (declared : inner.resolver = some resolver)
    (deferred : inner.deferred = true) (value : Json) (parent : List (String × Json))
    (path : FieldPath) : resolution.resolve plan value parent path = pure .null := by
  cases plan with
  | leaf | branch =>
      cases answers
      simp [resolve, ask, declared, deferred]

/-- What answers an operation is not shown any parent. -/
theorem resolve_of_operation {plan : Plan} {root : Operation}
    (answers : plan.definition = .operation root) (value other : Json)
    (parent others : List (String × Json)) (path : FieldPath) :
    resolution.resolve plan other others path = resolution.resolve plan value parent path := by
  cases plan with
  | leaf | branch =>
      cases answers
      rfl

theorem resolvesAgain_of_answersAgain {before after : List (String × Plan)} {plan : Plan}
    (answered : plan.definition.hasResolver = true) (answers : plan.AnswersAgain before after) :
    resolution.ResolvesAgain before after plan := by
  intro value parent others raw data path resolved conforms recalls
  cases definition : plan.definition with
  | operation root =>
      refine ⟨raw, ?_, conforms⟩
      rwa [resolve_of_operation definition value data parent others path]
  | field inner =>
      have given : inner.resolver.isSome = true := by rwa [definition] at answered
      obtain ⟨resolver, declared⟩ := Option.isSome_iff_exists.mp given
      cases deferred : inner.deferred with
      | true =>
          rw [resolve_of_deferred definition declared deferred] at resolved ⊢
          obtain rfl := Run.returns_pure.mp resolved
          exact ⟨.null, rfl, conforms⟩
      | false =>
          rw [returns_resolve_of_resolver definition declared deferred] at resolved
          obtain ⟨other, again, conformsAgain⟩ :=
            answers inner resolver definition declared deferred _ raw data others resolved conforms
              recalls
          exact ⟨other,
            (returns_resolve_of_resolver definition declared deferred ..).mpr again, conformsAgain⟩

section Branch

variable {definition : Definition} {type : ObjectType} {selection : List (String × Json)}
  {args : Option Json} {children : List (String × Plan)}
  (stable : (Plan.branch definition type selection args children).Stable)
  (repeats : (Plan.branch definition type selection args children).Repeats)
include stable repeats

theorem resolvesAgain_within
    (h : ∀ child ∈ children, ∀ {before after}, child.2.Stable →
      child.2.AnswersAgain before after →
      (child.2.definition.hasResolver = false → child.2.Repeats) →
      resolution.ResolvesAgain before after child.2)
    (before : List (String × Plan)) (key : String) (child : Plan) (after : List (String × Plan))
    (split : children = before ++ (key, child) :: after) :
    resolution.ResolvesAgain before after child := by
  obtain _ | ⟨answers, repeats⟩ := repeats
  obtain _ | ⟨_, _, stable⟩ := stable
  have inside : (key, child) ∈ children := split ▸ List.mem_append_right _ List.mem_cons_self
  exact h _ inside (stable _ inside) (answers _ _ _ _ split) (repeats _ inside)

end Branch

/-- A field comes to its data again, if all resolvers that are asked for it answer again, in the
sense of `AnswersAgain`. -/
theorem resolvesAgain_of_repeats {plan : Plan} {before after : List (String × Plan)}
    (stable : plan.Stable) (answers : plan.AnswersAgain before after)
    (repeats : plan.definition.hasResolver = false → plan.Repeats) :
    resolution.ResolvesAgain before after plan := by
  induction plan generalizing before after with
  | leaf definition scalar args =>
      cases kept : definition.hasResolver with
      | true => exact resolvesAgain_of_answersAgain kept answers
      | false =>
          intro value parent others raw data path resolved conforms recalls
          have keeps :
              resolution.resolve (.leaf definition scalar args) data others path = pure data := by
            rw [resolve, ask_of_no_resolver kept]
            rfl
          exact ⟨data, by rw [keeps]; rfl, conforms_self stable conforms⟩
  | branch definition type selection args children ih =>
      cases kept : definition.hasResolver with
      | true => exact resolvesAgain_of_answersAgain kept answers
      | false =>
          intro value parent others raw data path resolved conforms recalls
          have walks (value : Json) (parent : List (String × Json)) (raw : Json) :
              (resolution.resolve (.branch definition type selection args children) value parent
                path).Returns raw ↔ (resolution.walk children value path).Returns raw := by
            rw [resolve_branch, Run.returns_attachPath, ask_of_no_resolver kept, pure_bind]
          obtain ⟨again, walked, conformsAgain⟩ :=
            walk_again stable (resolvesAgain_within stable (repeats kept) ih)
              ((walks ..).mp resolved) conforms
          exact ⟨again, (walks ..).mpr walked, conformsAgain⟩

/-- The data of a branch come to themselves when they are filled in again, if all resolvers that are
asked within the branch answer again. -/
theorem walk_again_of_repeats {definition : Definition} {type : ObjectType}
    {selection : List (String × Json)} {args : Option Json} {children : List (String × Plan)}
    (stable : (Plan.branch definition type selection args children).Stable)
    (repeats : (Plan.branch definition type selection args children).Repeats)
    {value raw data : Json} {path : FieldPath}
    (walking : (resolution.walk children value path).Returns raw)
    (conforms : Conforms (.branch definition type selection args children) raw data) :
    ∃ again, (resolution.walk children data path).Returns again ∧
      Conforms (.branch definition type selection args children) again data :=
  walk_again stable
    (resolvesAgain_within stable repeats fun _ _ _ _ => resolvesAgain_of_repeats) walking conforms

end Resolution

end TypedQuery
