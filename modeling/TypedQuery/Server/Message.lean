import TypedQuery.Context
import TypedQuery.Text.Percent

/-!
# Requests and responses

A request as it arrives, and what the engine is told of it: the path as it was written, the
query string as pairs in the order of their names, and the headers under lower-case names.
A header whose value is not plain ASCII text is passed over, and of several values the last
one counts.
-/

namespace TypedQuery.Server

structure Request where
  method : String
  /-- What is asked for: a path with a query string, with or without a host before it. -/
  target : String
  headers : List (String × String) := []
  body : String := ""

structure Response where
  status : Nat
  body : String
deriving DecidableEq

/-- A header in its JSON form, a pair of texts. -/
def headerOf? : Json → Option (String × String)
  | .array [.string name, .string value] => some (name, value)
  | _ => none

/-- A text under a key, or the default if the key is missing. -/
def textMember? (members : List (String × Json)) (key default : String) : Option String :=
  match Entries.get? members key with
  | none => some default
  | some value => value.asString?

/-- The headers under a key, a list of pairs that may be missing. -/
def headersMember? (members : List (String × Json)) (key : String) :
    Option (List (String × String)) :=
  match Entries.get? members key with
  | none => some []
  | some (.array headers) => headers.mapM headerOf?
  | some _ => none

/-- A request from its JSON form. Without a method it is one for reading. -/
def Request.ofJson? : Json → Option Request
  | .object members => do
    let method ← textMember? members "method" "GET"
    let target ← (Entries.get? members "uri") >>= Json.asString?
    let headers ← headersMember? members "headers"
    let body ← textMember? members "body" ""
    return { method, target, headers, body }
  | _ => none

def Response.toJson (response : Response) : Json :=
  .object [("status", .nat response.status), ("body", .string response.body)]

/-- The characters of a scheme. -/
def isSchemeChar (c : Char) : Bool := c.isAlphanum || c == '+' || c == '-' || c == '.'

/-- What comes after the scheme of a target, if it has one. -/
def afterScheme? (target : List Char) : Option (List Char) :=
  match Text.cutAt ':' target with
  | (scheme, some ('/' :: '/' :: rest)) => if scheme.all isSchemeChar then some rest else none
  | _ => none

/-- The path of a target and the query string after its question mark; a fragment is left
out. A target with a scheme names a host before the path, which is the root if it is left
out. A target that names nothing but a host has no path. -/
def targetParts (target : List Char) : List Char × Option (List Char) :=
  let parts := fun text => Text.cutAt '?' (Text.cutAt '#' text).1
  if target.head? = some '/' || target = ['*'] then parts target
  else
    match afterScheme? target with
    | none => ([], none)
    | some rest =>
      let (path, query) := parts (rest.dropWhile fun c => c ≠ '/' ∧ c ≠ '?' ∧ c ≠ '#')
      (if path = [] then ['/'] else path, query)

def Request.path (request : Request) : String :=
  String.ofList (targetParts request.target.toList).1

/-- The pairs of the query string. -/
def Request.form (request : Request) : List (String × String) :=
  match (targetParts request.target.toList).2 with
  | none => []
  | some query => Text.decodeForm (String.ofList query)

example : targetParts "http://h?x".toList = (['/'], some ['x'])
    ∧ targetParts "h:80".toList = ([], none) := by decide +kernel

/-- Whether a character may stand in the value of a header. -/
def isHeaderChar (c : Char) : Bool := c == '\t' || (0x20 ≤ c.toNat && c.toNat < 0x7F)

def plainHeaders (headers : List (String × String)) : List (String × String) :=
  Entries.ofList <| (headers.filter fun (_, value) => value.toList.all isHeaderChar).map
    fun (name, value) => (String.ofList (name.toList.map Char.toLower), value)

/-- Pairs as JSON members in the order of their names. -/
def sortedMembers (pairs : List (String × String)) : List (String × Json) :=
  (pairs.mergeSort fun a b => decide (a.1 ≤ b.1)).map fun (name, value) => (name, .string value)

/-- What the engine is told of a request whose route captured the given parameters. -/
def Request.context (request : Request) (params : List (String × String)) : Context where
  method := request.method
  path := request.path
  headers := plainHeaders request.headers
  params := sortedMembers params
  query := sortedMembers request.form

end TypedQuery.Server
