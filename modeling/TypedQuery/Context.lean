import TypedQuery.Json.Basic

/-!
# Request context

What callbacks may know of the request being served. The transport fills it once, and the
engine hands it on unchanged.
-/

namespace TypedQuery

structure Context where
  method : String
  path : String
  /-- Header values under lower-case names. -/
  headers : List (String × String) := []
  /-- Values captured from the route. -/
  params : List (String × Json) := []
  query : List (String × Json) := []
  /-- Values that the transport adds of its own accord. -/
  extensions : List (String × Json) := []

/-- The header of that name; ASCII letters of either case name the same header. -/
def Context.header? (context : Context) (name : String) : Option String :=
  Entries.get? context.headers (String.ofList (name.toList.map Char.toLower))

end TypedQuery
