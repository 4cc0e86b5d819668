import TypedQuery.Declarations.Document
import TypedQuery.Declarations.Scaffold
import TypedQuery.Json.Printer

/-!
# Writing declaration documents

Array types stand in parentheses before their brackets, with null inside where elements may
be null; null after the brackets means that the whole may be null. Descriptions become block
comments before what they describe. Names and descriptions are written as they are.
-/

namespace TypedQuery.Declarations

/-- A description as a block comment. -/
def comment : Option String → String
  | none => ""
  | some text => "/**" ++ text ++ "*/"

/-- A type with its wrapping; a type without a name is undefined. -/
def Leaf.render (leaf : Leaf) : String :=
  "(" ++ (if leaf.value = "" then "undefined" else leaf.value)
    ++ (if leaf.array.any (·.nullElements) then "|null" else "") ++ ")"
    ++ (if leaf.array.isSome then "[]" else "")
    ++ (if leaf.nullable then "|null" else "")

/-- A key with its type. -/
def renderLeaf (entry : String × Leaf) : String :=
  comment entry.2.description ++ "\"" ++ entry.1 ++ "\"" ++ (if entry.2.optional then "?" else "")
    ++ ":" ++ entry.2.render ++ ";"

def renderEntry (entry : String × Entry) : String :=
  match entry.2 with
  | .leaf leaf => renderLeaf (entry.1, leaf)
  | .record description leaves =>
    comment description ++ "\"" ++ entry.1 ++ "\":\x7b" ++ String.join (leaves.map renderLeaf)
      ++ "\x7d;"

/-- An exported type on a line of its own. -/
def renderExport (declared : String × Export) : String :=
  comment declared.2.description ++ "export type " ++ declared.1 ++ "=\x7b"
    ++ String.join (declared.2.entries.map renderEntry) ++ "\x7d\n"

/-- What a document shows besides the schema. -/
structure Options where
  /-- The value that selects a leaf. -/
  marker : Json := .bool true
  /-- Begin with the stub of a query function. -/
  queryBuilder : Bool := true

def Options.ofJson? (json : Json) : Option Options := do
  let members ← json.record? [] ["lookup_value", "add_query_builder"]
  let marker := (Entries.get? members "lookup_value").getD (.bool true)
  let queryBuilder ← Json.boolMember? members "add_query_builder" true
  return { marker, queryBuilder }

/-- The text of a document. -/
def Document.render (document : Document) (options : Options) : String :=
  (if options.queryBuilder then queryBuilder else "") ++ scaffold
    ++ "type LookupValue = " ++ options.marker.render ++ "\n\n"
    ++ String.join (document.exports.map renderExport)

end TypedQuery.Declarations
