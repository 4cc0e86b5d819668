import TypedQuery.Proofs.Json.Structure

/-!
# Values that count as the same

The equality by which a marker is recognised, `Json.same`, looks members up by their names, so a
value counts as the same as itself if none of its objects names a key twice, as `NamesOnce` says. It
never takes an object for anything else.
-/

namespace TypedQuery.Json

/-- No object in the value names a key twice, be it in an array. -/
inductive NamesOnce : Json → Prop
  | null : NamesOnce .null
  | bool {value} : NamesOnce (.bool value)
  | number {value} : NamesOnce (.number value)
  | string {value} : NamesOnce (.string value)
  | array {elements} : (∀ element ∈ elements, NamesOnce element) → NamesOnce (.array elements)
  | object {members} : (Entries.keys members).Nodup →
      (∀ member ∈ members, NamesOnce member.2) → NamesOnce (.object members)

theorem sameElements_self {elements : List Json}
    (h : ∀ element ∈ elements, element.same element = true) :
    sameElements elements elements = true := by
  induction elements with
  | nil => rfl
  | cons element elements ih =>
      obtain ⟨first, rest⟩ := List.forall_mem_cons.1 h
      rw [sameElements, first, ih rest, Bool.and_self]

/-- Members that an object holds under their names have their partners in it. -/
theorem sameMembers_of_held {members others : List (String × Json)}
    (held : ∀ member ∈ members, Entries.get? others member.1 = some member.2)
    (h : ∀ member ∈ members, member.2.same member.2 = true) :
    sameMembers members others = true := by
  induction members with
  | nil => rfl
  | cons member members ih =>
      obtain ⟨key, value⟩ := member
      obtain ⟨heldFirst, heldRest⟩ := List.forall_mem_cons.1 held
      obtain ⟨first, rest⟩ := List.forall_mem_cons.1 h
      rw [sameMembers, heldFirst, ih heldRest rest, Bool.and_true]
      exact first

theorem same_self {value : Json} (once : value.NamesOnce) : value.same value = true := by
  induction once with
  | null => rfl
  | bool | string => exact beq_self_eq_true _
  | @number value =>
      cases value with
      | int value => exact beq_self_eq_true value
      | float value => exact Bool.or_eq_true_iff.mpr (.inl (beq_self_eq_true value))
  | array _ ih => exact sameElements_self ih
  | @object members unique _ ih =>
      have held (member) (inside : member ∈ members) :
          Entries.get? members member.1 = some member.2 :=
        (Entries.get?_eq_some_iff unique).mpr inside
      rw [same, sameMembers_of_held held ih, beq_self_eq_true, Bool.and_self]

/-- What counts as a value that is no object, by `Json.same`, is no object. -/
theorem members?_eq_none_of_same {value other : Json} (noObject : other.members? = none)
    (h : value.same other = true) : value.members? = none := by
  cases value with
  | object members =>
      cases other with
      | object others => cases noObject
      | null | bool | number | string | array => cases h
  | null | bool | number | string | array => rfl

end TypedQuery.Json
