import TypedQuery.Schema.BaseScalars

/-!
# A directory of users

A sample schema over a list of user records: one user by its id, all users or those with a
tag, and their number. A user has tags, and a field that counts them by a resolver. The
list operation answers many users at once, and no resolver is asked for the fields of an
element; so it puts the counts into the records itself where they are selected.
-/

namespace TypedQuery.Directory

/-- The users that a directory starts with. -/
def sampleUsers : List Json :=
  let tag (id : Nat) (name : String) : Json := .object [("id", .nat id), ("name", .string name)]
  let user (id : Nat) (name : String) (email : Json) (tags : List Json) : Json :=
    .object [("id", .nat id), ("name", .string name), ("email", email), ("tags", .array tags)]
  [user 1 "Ann" (.string "ann@example.com") [tag 1 "admin", tag 2 "staff"],
    user 2 "Bo" .null [tag 2 "staff"],
    user 3 "Cy" (.string "cy@example.com") []]

/-- What a record holds under a key, null if it holds nothing there. -/
def part (record : Json) (key : String) : Json := (record.get? key).getD .null

def tagsOf (record : Json) : List Json :=
  match part record "tags" with
  | .array tags => tags
  | _ => []

def countTags (record : Json) : Json := .nat (tagsOf record).length

def hasTag (name : String) (record : Json) : Bool :=
  (tagsOf record).any fun tag => (part tag "name").same (.string name)

/-- The record with the number of its tags. -/
def withTagCount (record : Json) : Json :=
  match record with
  | .object members => .object (Entries.put members "tagCount" (countTags record))
  | .null => .object [("tagCount", countTags record)]
  | other => other

/-- The argument of that name, if arguments with it are given. -/
def argument (request : OperationRequest) (name : String) : Option Json :=
  request.args.bind (·.get? name)

/-- The first user of the id asked for. -/
def getUser (records : List Json) : OperationResolver := fun request =>
  let found? := (argument request "id").bind fun id =>
    records.find? fun record => (part record "id").same id
  match found? with
  | some record => pure record
  | none => .fail (.engine ((Error.custom .query "User not found").withStatus 404))

/-- All users, or those with the tag asked for. -/
def getUsers (records : List Json) : OperationResolver := fun request =>
  let matching := match (argument request "tag").bind Json.asString? with
    | some name => records.filter (hasTag name)
    | none => records
  let counted := if Entries.has request.selection "tagCount" then matching.map withTagCount
    else matching
  pure (.array counted)

def getUserCount (records : List Json) : OperationResolver := fun _ =>
  pure (.nat records.length)

def tagCount : FieldResolver := fun request => pure (countTags (.object request.parent))

/-- Refuses the empty tag. -/
def checkTag : InputCheck := fun members _ =>
  match Entries.get? members "tag" with
  | some (.string "") => .fail (.engine (.custom .args "tag must not be empty"))
  | _ => pure ()

/-- The integer that a text writes in decimal with an optional sign, if it fits 64 bits. -/
def readId? (text : String) : Option Int :=
  let (negative, digits) := match text.toList with
    | '-' :: rest => (true, rest)
    | '+' :: rest => (false, rest)
    | rest => (false, rest)
  let size : Nat := digits.foldl (fun n c => n * 10 + (c.toNat - 48)) 0
  if digits = [] || !digits.all Char.isDigit then none
  else if negative then if size ≤ Power.two 63 then some (-(size : Int)) else none
  else if size < Power.two 63 then some size else none

/-- The id that a route carries as text. -/
def idOfPath : ArgsSource := fun context =>
  let raw := ((Entries.get? context.params "id").bind Json.asString?).getD ""
  match readId? raw with
  | some id => pure (some (.object [("id", .int id)]))
  | none => .fail (.engine (.custom .args ("Invalid user id '" ++ raw ++ "'")))

def tagType : ObjectType where
  name := "tag"
  description := some "Label attached to users"
  fields :=
    [("id", { signature := { type := .scalar .number } }),
      ("name", { signature := { type := .scalar .string } })]

def userType : ObjectType where
  name := "user"
  description := some "Directory entry"
  fields :=
    [("id", { signature := { type := .scalar .number } }),
      ("name", { signature := { type := .scalar .string } }),
      ("email", { signature := { type := .scalar .string, nullable := true } }),
      ("tags", { signature := { type := .lookup "tag", array := some ⟨false⟩ } }),
      ("tagCount",
        { signature :=
            { type := .scalar .number, description := some "Number of tags on the user" }
          resolver := some tagCount })]

def getUserArgs : InputType where
  name := "getUserArgs"
  fields := [("id", { type := .scalar .number, required := true })]

def getUsersArgs : InputType where
  name := "getUsersArgs"
  fields := [("tag", { type := .scalar .string })]
  check := some checkTag

/-- The selection of a user called up by its route. -/
def userTemplate : Json :=
  .object [("id", .bool true), ("name", .bool true), ("email", .bool true),
    ("tags", .object [("name", .bool true)]), ("tagCount", .bool true)]

def getUserOperation (records : List Json) : Operation where
  name := "getUser"
  signature :=
    { type := .lookup "user"
      description := some "Fetch one user by id"
      args := some { type := .lookup "getUserArgs", required := true } }
  resolver := getUser records
  binding := some
    { method := .get, route := "/users/:id", template := some userTemplate
      args := some idOfPath }

def getUsersOperation (records : List Json) : Operation where
  name := "getUsers"
  signature :=
    { type := .lookup "user"
      description := some "List users, optionally filtered by tag"
      array := some ⟨false⟩
      args := some { type := .lookup "getUsersArgs" } }
  resolver := getUsers records
  binding := some
    { method := .get, route := "/users"
      template := some (.object [("id", .bool true), ("name", .bool true)]) }

def getUserCountOperation (records : List Json) : Operation where
  name := "getUserCount"
  signature :=
    { type := .scalar .number
      description := some "Number of users in the directory" }
  resolver := getUserCount records
  binding := some { method := .get, route := "/stats/users" }

/-- The schema of a directory with the given records. -/
def schema (records : List Json) : Schema where
  scalars := Schema.base.scalars
  objects := [tagType, userType].map fun type => (type.name, type)
  inputs := [getUserArgs, getUsersArgs].map fun type => (type.name, type)
  operations :=
    [getUserOperation records, getUsersOperation records, getUserCountOperation records].map
      fun operation => (operation.name, operation)

end TypedQuery.Directory
