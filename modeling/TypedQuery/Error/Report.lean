import TypedQuery.Error.Basic
import TypedQuery.Text.Quoted

/-!
# Error reports

In debug mode a response carries a report of the error: its four parts, one to a line,
indented by four blanks for each level, the path spread over lines of its own.
-/

namespace TypedQuery

/-- The lines of a path, in brackets. -/
def reportPath : FieldPath → List String
  | [] => ["        [],"]
  | segments =>
    "        [" :: segments.map (fun segment => "            " ++ Text.quoted segment ++ ",")
      ++ ["        ],"]

/-- The report of an error. -/
def Error.report (e : Error) : String :=
  let path := match e.path with
    | none => ["    field_path: None,"]
    | some segments => "    field_path: Some(" :: reportPath segments ++ ["    ),"]
  "\n".intercalate <|
    ["GiraffeError \x7b", "    kind: " ++ e.kind.name ++ ",",
      "    message: " ++ Text.quoted e.message ++ ","]
    ++ path ++ ["    status_code: " ++ toString e.status ++ ",", "\x7d"]

end TypedQuery
