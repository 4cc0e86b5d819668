import TypedQuery.Schema.Basic
import TypedQuery.Json.Printer

/-!
# Base scalars

Booleans, numbers and strings. Arguments must be of the right kind already. On the way out
numbers and strings must be, too, while any value counts as a boolean by its truth, since
stores commonly keep booleans as zero and one.
-/

namespace TypedQuery

namespace Scalar

/-- Passes a value of the right kind and refuses all others. -/
def expecting (kind : String) (ofKind : Json → Bool) : ScalarFunction := fun value =>
  if ofKind value then pure value
  else .fail (.foreign ("expected " ++ kind ++ ", got " ++ value.render))

def parseBoolean : ScalarFunction :=
  expecting "boolean" fun
    | .bool _ => true
    | _ => false

def serializeBoolean : ScalarFunction := fun value => pure (.bool value.truthy)

/-- Passes numbers, in both directions. -/
def passNumber : ScalarFunction :=
  expecting "number" fun
    | .number _ => true
    | _ => false

/-- Passes strings, in both directions. -/
def passString : ScalarFunction :=
  expecting "string" fun
    | .string _ => true
    | _ => false

def boolean : Scalar where
  name := "boolean"
  description := some "True or False"
  kinds := [.boolean]
  serialize := some serializeBoolean
  parse := some parseBoolean

def number : Scalar where
  name := "number"
  description := some "Numerical value"
  kinds := [.number]
  serialize := some passNumber
  parse := some passNumber

def string : Scalar where
  name := "string"
  description := some "String value"
  kinds := [.string]
  serialize := some passString
  parse := some passString

end Scalar

/-- The schema that holds the base scalars and nothing else. -/
def Schema.base : Schema where
  scalars := [Scalar.boolean, Scalar.number, Scalar.string].map fun scalar =>
    (scalar.name, scalar)

end TypedQuery
