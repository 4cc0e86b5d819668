import TypedQuery.Yaml.Basic
import TypedQuery.Yaml.Meaning

/-!
# The values of nodes

An alias has the value of the node that it stands for. Aliases make it possible that a small
text has a huge value, or an endless one, so both how often they are followed and how deep
collections lie within each other is bounded. Tags that begin with an exclamation mark have
no value.
-/

namespace TypedQuery.Yaml

/-- The nodes that aliases stand for. -/
abbrev Anchors := List (Nat × Yaml)

/-- A reading of nodes that follows aliases a bounded number of times. -/
abbrev Reading := StateT Nat Option

/-- How deep collections may lie within each other. -/
def depthLimit : Nat := 128

/-- A node, or what it stands for if it is an alias. -/
def follow (anchors : Anchors) : Yaml → Reading Yaml
  | .alias number => do
    let left ← get
    guard (left ≠ 0)
    set (left - 1)
    match anchors.lookup number with
    | some node => return node
    | none => failure
  | node => return node

/-- Reads nodes of a document, following each alias at most a hundred times on average. -/
def Reading.ofRoot? {α : Type} (root : Yaml) (reading : Anchors → Reading α) : Option α :=
  ((reading root.anchored).run (100 * root.events)).map (·.1)

/-- The text of a scalar, whatever it means. -/
def textOf (anchors : Anchors) (node : Yaml) : Reading String := do
  match ← follow anchors node with
  | .scalar _ text _ => return text
  | _ => failure

/-- Whether a tag is one of the text's own. -/
def Properties.isLocal (properties : Properties) : Bool :=
  properties.tag.any fun tag => tag.toList.head? == some '!'

/-- The value of a scalar that stands for itself. -/
def scalarValue? (properties : Properties) (text : String) (style : Style) : Option Json :=
  if properties.isLocal then none
  else
    match properties.tag with
    | some tag => taggedValue? tag text
    | none => if style = .plain then plainValue? text else some (.string text)

/-- The value of a node, at most so deep. A key that comes again keeps its first place and
takes the last value. -/
def valueOf (anchors : Anchors) : (depth : Nat) → Yaml → Reading Json
  | 0, node => do
    match ← follow anchors node with
    | .scalar properties text style => (scalarValue? properties text style : Option Json)
    | _ => failure
  | depth + 1, node => do
    match ← follow anchors node with
    | .scalar properties text style => (scalarValue? properties text style : Option Json)
    | .sequence properties elements =>
      guard (!properties.isLocal)
      return .array (← elements.mapM (valueOf anchors depth))
    | .mapping properties entries =>
      guard (!properties.isLocal)
      let members ← entries.mapM fun (key, value) =>
        return (← textOf anchors key, ← valueOf anchors depth value)
      return .object (Entries.ofList members)
    | .alias _ => failure

end TypedQuery.Yaml
