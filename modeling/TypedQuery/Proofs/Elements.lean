import TypedQuery.Proofs.Json.Structure
import TypedQuery.Proofs.Run

/-!
# Elements that are related one for one

What is read, planned or conformed is often a list that belongs to another, element by element, as
`List.Forall₂` says. Arrays of scalars and arrays of objects treat null elements alike: whether
there may be any is up to the rule of the array, as `ArrayRule.Allows` says, and those that there
are stay as they are. So a relation is only ever given for values that are not null, and extends to
elements from there by `Json.NullOr`. If it leaves alone what it has come to, the elements stay as
they are, too.
-/

namespace TypedQuery

/-- Of two lists that are related one for one, what is in the second belongs to something in the
first. -/
theorem exists_of_mem_right {α β : Type} {relation : α → β → Prop} {lefts : List α}
    {rights : List β} (h : List.Forall₂ relation lefts rights) {right : β}
    (inside : right ∈ rights) : ∃ left ∈ lefts, relation left right := by
  induction h with
  | nil => cases inside
  | cons first _ ih =>
      obtain rfl | inside := List.mem_cons.mp inside
      · exact ⟨_, List.mem_cons_self, first⟩
      · obtain ⟨left, held, related⟩ := ih inside
        exact ⟨left, List.mem_cons_of_mem _ held, related⟩

/-- If all elements of a list are related to something, they are one for one. -/
theorem exists_forall₂ {α β : Type} {relation : α → β → Prop} {values : List α}
    (h : ∀ value ∈ values, ∃ other, relation value other) :
    ∃ others, List.Forall₂ relation values others := by
  induction values with
  | nil => exact ⟨[], .nil⟩
  | cons value values ih =>
      obtain ⟨⟨other, first⟩, rest⟩ := List.forall_mem_cons.1 h
      obtain ⟨others, related⟩ := ih rest
      exact ⟨other :: others, .cons first related⟩

/-- Of two lists that are related one for one, what is in the first belongs to something in the
second. -/
theorem exists_of_mem_left {α β : Type} {relation : α → β → Prop} {lefts : List α}
    {rights : List β} (h : List.Forall₂ relation lefts rights) {left : α}
    (inside : left ∈ lefts) : ∃ right ∈ rights, relation left right :=
  exists_of_mem_right h.flip inside

theorem eq_map_of_forall₂ {α β : Type} {f : α → β} {values : List α} {others : List β}
    (h : List.Forall₂ (fun value other => other = f value) values others) :
    others = values.map f := by
  rw [← List.forall₂_eq_eq_eq, List.forall₂_map_right_iff]
  exact h.flip

/-- The array may have these elements, among which null stands only if the rule allows it. -/
def ArrayRule.Allows (rule : ArrayRule) (elements : List Json) : Prop :=
  rule.nullElements = true ∨ .null ∉ elements

theorem ArrayRule.allows_iff {rule : ArrayRule} {elements : List Json} :
    rule.Allows elements ↔ (!rule.nullElements && elements.any Json.isNull) = false := by
  unfold Allows
  rw [← Json.any_isNull_eq_true_iff]
  cases rule.nullElements <;> cases elements.any Json.isNull <;> simp

/-- Null is related to null, and any other value as the relation says. -/
inductive Json.NullOr (relation : Json → Json → Prop) : Json → Json → Prop
  | null : NullOr relation .null .null
  | value {value result} : value ≠ .null → relation value result → NullOr relation value result

@[simp] theorem Json.nullOr_null_iff {relation : Json → Json → Prop} {result : Json} :
    NullOr relation .null result ↔ result = .null := by
  constructor
  · rintro (_ | ⟨h, _⟩)
    · rfl
    · exact absurd rfl h
  · rintro rfl
    exact .null

theorem Json.nullOr_iff_of_ne_null {relation : Json → Json → Prop} {value result : Json}
    (h : value ≠ .null) : NullOr relation value result ↔ relation value result := by
  constructor
  · rintro (_ | ⟨_, related⟩)
    · exact absurd rfl h
    · exact related
  · exact .value h

section Elements

variable {relation : Json → Json → Prop} {rule : ArrayRule} {elements results : List Json}
  (related : List.Forall₂ (Json.NullOr relation) elements results)
include related

section Null

variable (notNull : ∀ value result, value ≠ .null → relation value result → result ≠ .null)
include notNull

/-- A null in the results of `Json.NullOr` was there before, if the relation makes none. -/
theorem Json.NullOr.null_mem (inside : .null ∈ results) : .null ∈ elements := by
  induction related with
  | nil => exact inside
  | cons first _ ih =>
      cases first with
      | null => exact List.mem_cons_self
      | value null first =>
          obtain same | inside := List.mem_cons.mp inside
          · exact absurd same.symm (notNull _ _ null first)
          · exact List.mem_cons_of_mem _ (ih inside)

theorem Json.NullOr.allows (allowed : rule.Allows elements) : rule.Allows results :=
  allowed.imp_right fun absent inside => absent (null_mem related notNull inside)

end Null

/-- Elements that the relation leaves alone once they are related stay as they are. -/
theorem Json.NullOr.elements_self (settles : ∀ value result, value ≠ .null →
    relation value result → result ≠ .null ∧ relation result result) :
    List.Forall₂ (Json.NullOr relation) results results := by
  induction related with
  | nil => exact .nil
  | cons first _ ih =>
      refine .cons ?_ ih
      cases first with
      | null => exact .null
      | value null first =>
          obtain ⟨null, same⟩ := settles _ _ null first
          exact .value null same

end Elements

theorem Run.returns_nullOr {ε : Type} {run : Run ε Json} {relation : Json → Json → Prop}
    {value result : Json} (h : run.Returns result ↔ relation value result) :
    (if value.isNull then pure .null else run).Returns result ↔
      Json.NullOr relation value result := by
  by_cases null : value = .null
  · subst null
    simp [Json.isNull, eq_comm]
  · rw [if_neg (by simpa using null), h, Json.nullOr_iff_of_ne_null null]

end TypedQuery
