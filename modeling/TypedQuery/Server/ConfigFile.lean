import TypedQuery.Server.Config
import TypedQuery.Yaml.Parser
import TypedQuery.Yaml.Value

/-!
# Configuration files

A configuration file is a YAML mapping under the keys of the configuration. Every key may be
missing and then has its default, and so may the whole text. A known key may not come twice.
Ports and truth values are plain texts, or literal ones with the tag of their kind; the path
is a text of any kind, as it is written; the marker may be any value.
-/

namespace TypedQuery.Server.Config

open Yaml (Anchors Reading)

/-- The node under a key, absent if the key is missing; none if it comes twice. -/
def uniqueEntry? (entries : List (String × Yaml)) (key : String) : Option (Option Yaml) :=
  match entries.filter (·.1 == key) with
  | [] => some none
  | [(_, node)] => some (some node)
  | _ => none

/-- The text of a scalar that may have a meaning of the given kind. -/
def meaningfulText (anchors : Anchors) (kind : String) (node : Yaml) : Reading String := do
  match ← Yaml.follow anchors node with
  | .scalar _ text .plain => return text
  | .scalar properties text .literal =>
    guard (properties.tag = some (Yaml.coreHandle ++ kind))
    return text
  | _ => failure

def portOfYaml (anchors : Anchors) : Option Yaml → Reading Port
  | none => return Config.default.port
  | some node => do
    let some port := Yaml.natOfText? (← meaningfulText anchors "int" node) | failure
    if h : port < 65536 then return ⟨port, h⟩ else failure

def pathOfYaml (anchors : Anchors) : Option Yaml → Reading String
  | none => return Config.default.path
  | some node => Yaml.textOf anchors node

def flagOfYaml (anchors : Anchors) (default : Bool) : Option Yaml → Reading Bool
  | none => return default
  | some node => do
    let some flag := Yaml.boolOfText? (← meaningfulText anchors "bool" node) | failure
    return flag

/-- The marker lies within two mappings. -/
def markerOfYaml (anchors : Anchors) : Option Yaml → Reading Json
  | none => return Config.default.engine.marker
  | some node => Yaml.valueOf anchors (Yaml.depthLimit - 2) node

/-- The entries of a node that is a mapping, or is left blank or out. -/
def entriesOf (anchors : Anchors) : Option Yaml → Reading (List (String × Yaml))
  | none => return []
  | some node => do
    match ← Yaml.follow anchors node with
    | .mapping _ entries =>
      entries.mapM fun (key, value) => return (← Yaml.textOf anchors key, value)
    | .scalar _ "" .plain => return []
    | _ => failure

def engineOfYaml (anchors : Anchors) (node : Option Yaml) : Reading EngineOptions := do
  let entries ← entriesOf anchors node
  let marker ← markerOfYaml anchors (← uniqueEntry? entries "lookup_value")
  let processEntireTree ← flagOfYaml anchors true (← uniqueEntry? entries "process_entire_tree")
  let debug ← flagOfYaml anchors false (← uniqueEntry? entries "debug")
  return { marker, processEntireTree, debug }

def ofYaml (anchors : Anchors) (node : Yaml) : Reading Config := do
  let entries ← entriesOf anchors (some node)
  let port ← portOfYaml anchors (← uniqueEntry? entries "port")
  let path ← pathOfYaml anchors (← uniqueEntry? entries "path")
  let engine ← engineOfYaml anchors (← uniqueEntry? entries "engine")
  return { port, path, engine }

/-- The configuration that the text of a file holds. -/
def ofFile? (text : String) : Option Config := do
  match ← Yaml.parse? text with
  | none => return Config.default
  | some root => Reading.ofRoot? root fun anchors => ofYaml anchors root

end TypedQuery.Server.Config
