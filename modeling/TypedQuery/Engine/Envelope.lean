import TypedQuery.Error.Report
import TypedQuery.Json.Basic

/-!
# Response envelopes

Every response has the same form: the data, and on failure an error with its wording, its
type, the path of its field, and in debug mode a report. Four absences are kept apart: no
error, a path that is null, an empty path, and no report. Reading takes a missing path or
report for an absent one, and passes over unknown keys. Both records may come as arrays of
their values; then only the error or the report may be missing.
-/

namespace TypedQuery

structure ErrorBody where
  message : String
  type : String
  fieldPath : Option FieldPath
  stack : Option String
deriving DecidableEq

structure Envelope where
  data : Json
  error : Option ErrorBody
deriving DecidableEq

namespace ErrorBody

def toJson (body : ErrorBody) : Json :=
  let path := match body.fieldPath with
    | none => .null
    | some path => Json.strings path
  let stack := match body.stack with
    | none => []
    | some stack => [("stack", Json.string stack)]
  .object ([("message", .string body.message), ("type", .string body.type),
    ("fieldPath", path)] ++ stack)

/-- A list of texts, none if an element is no text. -/
def texts? : List Json → Option (List String)
  | [] => some []
  | .string text :: rest => (texts? rest).map (text :: ·)
  | _ => none

/-- A path, absent where the key is missing or null. -/
def path? : Option Json → Option (Option FieldPath)
  | none | some .null => some none
  | some (.array elements) => (texts? elements).map some
  | some _ => none

/-- A text, absent where the key is missing or null. -/
def stack? : Option Json → Option (Option String)
  | none | some .null => some none
  | some (.string text) => some (some text)
  | some _ => none

def ofJson? (json : Json) : Option ErrorBody := do
  let members ← json.record? ["message", "type", "fieldPath"] ["stack"]
  let message ← (Entries.get? members "message") >>= Json.asString?
  let type ← (Entries.get? members "type") >>= Json.asString?
  let fieldPath ← path? (Entries.get? members "fieldPath")
  let stack ← stack? (Entries.get? members "stack")
  return { message, type, fieldPath, stack }

end ErrorBody

namespace Envelope

def success (data : Json) : Envelope := ⟨data, none⟩

/-- The response to an error; `debug` adds the report. -/
def failure (error : Error) (debug : Bool) : Envelope where
  data := .null
  error := some
    { message := error.text
      type := error.kind.typeName
      fieldPath := error.path
      stack := if debug then some error.report else none }

def toJson (envelope : Envelope) : Json :=
  let error := match envelope.error with
    | none => []
    | some body => [("error", body.toJson)]
  .object (("data", envelope.data) :: error)

def ofJson? (json : Json) : Option Envelope := do
  let members ← json.record? ["data"] ["error"]
  let data ← Entries.get? members "data"
  let error ← match Entries.get? members "error" with
    | none | some .null => some none
    | some value => (ErrorBody.ofJson? value).map some
  return { data, error }

end Envelope

end TypedQuery
