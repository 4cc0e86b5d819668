import TypedQuery.Proofs.Run
import TypedQuery.Schema.BaseScalars

/-!
# Scalar functions

The base scalars pass values of one kind and refuse all others, so they leave alone what they have
passed once, as `ScalarFunction.Settles` says.
-/

namespace TypedQuery

/-- The scalars that every schema starts from. -/
def Scalar.base : List Scalar := [Scalar.boolean, Scalar.number, Scalar.string]

/-- The function leaves alone what it has returned, which is never null. -/
def ScalarFunction.Settles (function : ScalarFunction) : Prop :=
  ∀ value result, (function value).Returns result →
    result ≠ .null ∧ (function result).Returns result

namespace Scalar

variable {kind : String} {ofKind : Json → Bool}

/-- `Scalar.expecting` returns the value, if it is of that kind. -/
theorem returns_expecting {value result : Json} :
    (expecting kind ofKind value).Returns result ↔ ofKind value = true ∧ value = result := by
  unfold expecting
  cases ofKind value <;> simp

theorem settles_expecting (notNull : ofKind .null = false) :
    ScalarFunction.Settles (expecting kind ofKind) := by
  intro value result passed
  obtain ⟨right, rfl⟩ := returns_expecting.mp passed
  refine ⟨?_, passed⟩
  rintro rfl
  rw [notNull] at right
  cases right

end Scalar

end TypedQuery
