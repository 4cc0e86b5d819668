import TypedQuery.Json.Basic

/-!
# Engine options

Settings that hold for every request. In their JSON form every key may be missing, and then
has its default; keys that are not known are passed over; a known key with a value of the
wrong kind spoils the whole. An array holds the values in the order of the keys.
-/

namespace TypedQuery

structure EngineOptions where
  /-- The value that selects a leaf. -/
  marker : Json := .bool true
  /-- Fill in the fields below the operation. -/
  processEntireTree : Bool := true
  /-- Put a report of the error into responses. -/
  debug : Bool := false

namespace EngineOptions

def toJson (options : EngineOptions) : Json :=
  .object [("lookup_value", options.marker),
    ("process_entire_tree", .bool options.processEntireTree), ("debug", .bool options.debug)]

def ofJson? (json : Json) : Option EngineOptions := do
  let members ← json.record? [] ["lookup_value", "process_entire_tree", "debug"]
  let marker := (Entries.get? members "lookup_value").getD (.bool true)
  let processEntireTree ← Json.boolMember? members "process_entire_tree" true
  let debug ← Json.boolMember? members "debug" false
  return { marker, processEntireTree, debug }

end EngineOptions

end TypedQuery
