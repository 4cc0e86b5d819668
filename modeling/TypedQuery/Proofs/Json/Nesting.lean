import Mathlib.Logic.Function.Iterate
import TypedQuery.Error.Basic
import TypedQuery.Proofs.Json.Structure

/-!
# How deep a value is nested

Arguments are nested by their arrays and objects, to their `Json.depth`. The selections of a
document are nested by their objects, the arguments aside, to its `Json.selectionDepth`. A recursion
over values is told level by level: one level with the function that it calls in the place of itself
left open. If a level calls it at smaller values only, which is `CallsSmaller`, then it does not
matter what is called beyond as many levels as the value is deep.
-/

namespace TypedQuery

section Levels

variable {α β : Type} {size : α → Nat} {level : (α → β) → α → β}

/-- What one level of a recursion does to a value depends only on what the function that it calls in
the place of itself does to smaller values. -/
def CallsSmaller (size : α → Nat) (level : (α → β) → α → β) : Prop :=
  ∀ self other value, (∀ inner, size inner < size value → self inner = other inner) →
    level self value = level other value

/-- As many levels as the value is deep, and one for the value, do what the recursion does, whatever
is called beyond them. -/
theorem CallsSmaller.iterate (calls : CallsSmaller size level) {solution : α → β}
    (fixed : level solution = solution) (beyond : α → β) {levels : Nat} {value : α}
    (enough : size value < levels) : level^[levels] beyond value = solution value := by
  induction levels generalizing value with
  | zero => omega
  | succ levels ih =>
      have within : ∀ inner, size inner < size value →
          level^[levels] beyond inner = solution inner := by
        intro inner smaller
        exact ih (by omega)
      rw [Function.iterate_succ_apply', calls _ solution value within, fixed]

/-- A recursion of this kind, that is one of which each level `CallsSmaller`, has one solution. -/
theorem CallsSmaller.unique (calls : CallsSmaller size level) {solution other : α → β}
    (fixed : level solution = solution) (otherFixed : level other = other) : other = solution := by
  funext value
  have levels : level^[size value + 1] other = other := Function.iterate_fixed otherFixed _
  rw [← calls.iterate fixed other (Nat.lt_succ_self (size value)), levels]

/-- The recursion does at every level what one level says, and is nested no deeper than the values
that it is given. -/
structure BoundedBy (size : α → Nat) (level : (α → β) → α → β) (recursion : α → β) : Prop where
  fixed : level recursion = recursion
  unique : ∀ other, level other = other → other = recursion
  calls : CallsSmaller size level
  /-- What would be called beyond as many levels is never called. -/
  levels : ∀ beyond value, level^[size value + 1] beyond value = recursion value

theorem CallsSmaller.boundedBy (calls : CallsSmaller size level) {recursion : α → β}
    (fixed : level recursion = recursion) : BoundedBy size level recursion where
  fixed := fixed
  unique := fun _ otherFixed => calls.unique fixed otherFixed
  calls := calls
  levels := fun beyond value => calls.iterate fixed beyond (Nat.lt_succ_self (size value))

end Levels

namespace Json

mutual

/-- How many arrays and objects are nested in a value, itself included. -/
def depth : Json → Nat
  | .array elements => elementsDepth elements + 1
  | .object members => membersDepth members + 1
  | .null | .bool _ | .number _ | .string _ => 0
termination_by structural value => value

def elementsDepth : List Json → Nat
  | [] => 0
  | element :: rest => max element.depth (elementsDepth rest)
termination_by structural elements => elements

def membersDepth : List (String × Json) → Nat
  | [] => 0
  | (_, value) :: rest => max value.depth (membersDepth rest)
termination_by structural members => members

end

theorem depth_lt_of_element {elements : List Json} {element : Json} (inside : element ∈ elements) :
    element.depth < (array elements).depth := by
  rw [depth, Nat.lt_succ_iff]
  induction elements with
  | nil => cases inside
  | cons first rest ih =>
      rw [elementsDepth]
      obtain rfl | inside := List.mem_cons.mp inside
      · exact Nat.le_max_left ..
      · exact Nat.le_trans (ih inside) (Nat.le_max_right ..)

theorem depth_lt_of_member {members : List (String × Json)} {member : String × Json}
    (inside : member ∈ members) : member.2.depth < (object members).depth := by
  rw [depth, Nat.lt_succ_iff]
  induction members with
  | nil => cases inside
  | cons first rest ih =>
      rw [membersDepth]
      obtain rfl | inside := List.mem_cons.mp inside
      · exact Nat.le_max_left ..
      · exact Nat.le_trans (ih inside) (Nat.le_max_right ..)

mutual

/-- How many objects are nested in a selection, itself included. Nothing is selected in arguments,
nor in an array. -/
def selectionDepth : Json → Nat
  | .object members => fieldsDepth members + 1
  | .null | .bool _ | .number _ | .string _ | .array _ => 0
termination_by structural query => query

def fieldsDepth : List (String × Json) → Nat
  | [] => 0
  | (key, query) :: rest =>
    max (if key = argsKey then 0 else query.selectionDepth) (fieldsDepth rest)
termination_by structural members => members

end

theorem selectionDepth_lt_of_selected {members : List (String × Json)} {member : String × Json}
    (inside : member ∈ members.filter (·.1 ≠ argsKey)) :
    member.2.selectionDepth < (object members).selectionDepth := by
  rw [selectionDepth, Nat.lt_succ_iff]
  induction members with
  | nil => cases inside
  | cons first rest ih =>
      obtain ⟨key, query⟩ := first
      rw [fieldsDepth]
      by_cases named : key = argsKey
      · rw [List.filter_cons_of_neg (by simpa using named)] at inside
        exact Nat.le_trans (ih inside) (Nat.le_max_right ..)
      · rw [List.filter_cons_of_pos (by simpa using named)] at inside
        rw [if_neg named]
        obtain rfl | inside := List.mem_cons.mp inside
        · exact Nat.le_max_left ..
        · exact Nat.le_trans (ih inside) (Nat.le_max_right ..)

end Json

end TypedQuery
