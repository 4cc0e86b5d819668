import TypedQuery.Yaml.Token

/-!
# YAML nodes

A node is a scalar, a sequence or a mapping, or an alias that stands for a node with the
anchor of that number.
-/

namespace TypedQuery

namespace Yaml

/-- What may stand before a node. -/
structure Properties where
  tag : Option String := none
  anchor : Option Nat := none

end Yaml

inductive Yaml where
  | scalar (properties : Yaml.Properties) (text : String) (style : Yaml.Style)
  | sequence (properties : Yaml.Properties) (elements : List Yaml)
  /-- The entries as they are written, repeated keys included. -/
  | mapping (properties : Yaml.Properties) (entries : List (Yaml × Yaml))
  | alias (number : Nat)

namespace Yaml

/-- A node that is not written out. -/
def blank : Yaml := .scalar {} "" .plain

def properties : Yaml → Properties
  | .scalar properties _ _ | .sequence properties _ | .mapping properties _ => properties
  | .alias _ => {}

mutual

/-- A node and all nodes within it, in the order in which they begin. -/
def nodes : Yaml → List Yaml
  | .scalar properties text style => [.scalar properties text style]
  | .alias number => [.alias number]
  | .sequence properties elements => .sequence properties elements :: elementNodes elements
  | .mapping properties entries => .mapping properties entries :: entryNodes entries
termination_by structural node => node

def elementNodes : List Yaml → List Yaml
  | [] => []
  | element :: rest => nodes element ++ elementNodes rest
termination_by structural elements => elements

def entryNodes : List (Yaml × Yaml) → List Yaml
  | [] => []
  | (key, value) :: rest => nodes key ++ (nodes value ++ entryNodes rest)
termination_by structural entries => entries

end

/-- The nodes that aliases may stand for, by number. A number that comes again names the
last node under it. -/
def anchored (root : Yaml) : List (Nat × Yaml) :=
  root.nodes.reverse.filterMap fun node => node.properties.anchor.map fun number => (number, node)

/-- Where nodes begin and collections end. -/
def events (root : Yaml) : Nat :=
  root.nodes.foldl
    (fun count node => match node with
      | .sequence _ _ | .mapping _ _ => count + 2
      | _ => count + 1)
    0

end Yaml

end TypedQuery
