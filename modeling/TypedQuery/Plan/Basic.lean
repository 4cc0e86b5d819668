import TypedQuery.Schema.Basic

/-!
# Plans

A plan is a selection that has been checked: a tree of the fields to answer, each with its
definition, its type after look-up and its checked arguments. Leaves are scalar fields,
branches are object fields with the plans of the fields selected in them, in the order of
the selection. Neither resolving nor conforming a plan goes back to the schema.
-/

namespace TypedQuery

/-- What a plan answers: an operation at the root, fields everywhere else. -/
inductive Definition where
  | operation (root : Operation)
  | field (inner : Field)

namespace Definition

def signature : Definition → Signature
  | .operation root => root.signature
  | .field inner => inner.signature

/-- Whether a resolver answers it; an operation always has one. -/
def hasResolver : Definition → Bool
  | .operation _ => true
  | .field inner => inner.resolver.isSome

def isOperation : Definition → Bool
  | .operation _ => true
  | .field _ => false

end Definition

inductive Plan where
  | leaf (definition : Definition) (scalar : Scalar) (args : Option Json)
  /-- `selection` is what the client wrote, without the arguments. -/
  | branch (definition : Definition) (type : ObjectType) (selection : List (String × Json))
    (args : Option Json) (children : List (String × Plan))

namespace Plan

def definition : Plan → Definition
  | .leaf definition .. => definition
  | .branch definition .. => definition

def type : Plan → ResolvedOutput
  | .leaf _ scalar _ => .scalar scalar
  | .branch _ type .. => .object type

def args : Plan → Option Json
  | .leaf _ _ args => args
  | .branch _ _ _ args _ => args

def selection : Plan → List (String × Json)
  | .leaf .. => []
  | .branch _ _ selection .. => selection

/-- The plans of the selected fields, none for a leaf. -/
def children : Plan → List (String × Plan)
  | .leaf .. => []
  | .branch _ _ _ _ children => children

end Plan

end TypedQuery
