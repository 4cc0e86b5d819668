import TypedQuery.Proofs.Directory.Filling
import TypedQuery.Proofs.Engine.Serving

/-!
# One user and all users

The list of users and the operation for one user tell the same of a user. One counts the tags in the
records before it answers, since no resolver is asked for the elements of an array; for the other, a
resolver counts them while the fields are filled in. Yet whatever the records hold, and whatever is
selected, what `getUser` tells of the first user with an id is the element that stands for it in the
data of `getUsers`. The list has one element for every user that `Carries` the tag asked for, in the
order of the records.
-/

namespace TypedQuery

namespace Directory

/-- The record has a tag of that name. -/
def Carries (tag : String) (record : Json) : Prop :=
  ∃ held ∈ tagsOf record, part held "name" = .string tag

theorem same_string_iff {value : Json} {text : String} :
    value.same (.string text) = true ↔ value = .string text := by
  cases value <;> simp [Json.same]

theorem hasTag_eq_true_iff {tag : String} {record : Json} :
    hasTag tag record = true ↔ Carries tag record := by
  simp [hasTag, Carries, same_string_iff]

instance (tag : String) (record : Json) : Decidable (Carries tag record) :=
  decidable_of_iff _ hasTag_eq_true_iff

/-- The tag that is asked for, if there is any. -/
def tagAsked (query : Json) : Option String :=
  ((query.get? argsKey).bind (·.get? "tag")).bind Json.asString?

/-- The users that carry the tag asked for, in the sense of `Carries`, or all of them. -/
def matching (asked : Option String) (records : List Json) : List Json :=
  records.filter fun record => ∀ tag ∈ asked, Carries tag record

/-- The engine that serves a directory. -/
abbrev engine (records : List Json) (options : EngineOptions) : Engine := ⟨schema records, options⟩

/-- The number is the id of the record. -/
def hasId (id : Number) (record : Json) : Bool := (part record "id").same (.number id)

/-- The record as an element of the list, the number of its tags counted where it is selected. -/
def listedRecord (selection : List (String × Json)) (record : Json) : Json :=
  if Entries.has selection "tagCount" then withTagCount record else record

section Arguments

open Arguments

variable {records : List Json} {path : FieldPath} {args result : Option Json}

/-- A text is taken as it is. -/
theorem eq_of_normalizes_string {given result : Option Json}
    (normal : Normalizes (schema records) (some { type := .scalar .string }) path given result) :
    result = given := by
  cases normal with
  | absent => rfl
  | null nullable => cases nullable
  | scalar _ _ resolved parsed =>
      cases resolved
      exact congrArg some (Scalar.returns_expecting.mp parsed).2.symm
  | scalars array | objects array => cases array
  | object _ resolved => cases resolved

/-- The tag that the resolver finds in the arguments is the one that the client asks for. -/
theorem tag_of_normalizes
    (normal : Normalizes (schema records) (some { type := .lookup "getUsersArgs" }) path args
      result) : result.bind (·.get? "tag") = args.bind (·.get? "tag") := by
  cases normal with
  | absent => rfl
  | null nullable => cases nullable
  | scalar _ _ resolved => cases resolved
  | scalars array | objects array => cases array
  | object _ resolved normal =>
      cases resolved
      obtain ⟨fields⟩ := normal
      cases fields with
      | absent none rest =>
          cases rest
          exact eq_of_normalizes_string none
      | present some rest =>
          cases rest
          exact eq_of_normalizes_string some

/-- An id is accepted and taken as it is. -/
theorem normalizes_id (id : Number) :
    let args : Json := .object [("id", .number id)]
    Normalizes (schema records) (some { type := .lookup "getUserArgs", required := true }) path
      (some args) (some args) := by
  have parsed : Parses .number (.number id) (.number id) :=
    Scalar.returns_expecting.mpr ⟨rfl, rfl⟩
  have notNull : Json.number id ≠ .null := by simp
  have approved : Approves getUserArgs path [("id", .number id)] := by
    intro check declared
    cases declared
  refine .object rfl rfl (.intro (.present (.scalar notNull rfl rfl parsed) .nil) ?_ approved)
  exact fun key among => among

end Arguments

theorem holds_listedRecord (selection members : List (String × Json)) :
    ∃ others, listedRecord selection (.object members) = .object others ∧
      Holds (.object members) ("tagCount" ∈ Entries.keys selection) others := by
  rw [listedRecord]
  split
  · obtain ⟨others, counted, holds⟩ := withTagCount_object members
    exact ⟨others, counted, holds.mono fun _ => trivial⟩
  · next unselected =>
      refine ⟨members, rfl, (holds_self members).mono fun selected => ?_⟩
      exact unselected (Entries.has_eq_true_iff.mpr selected)

@[simp] theorem matching_none (records : List Json) : matching none records = records := by
  simp [matching]

theorem matching_some (tag : String) (records : List Json) :
    matching (some tag) records = records.filter (hasTag tag) := by
  simp [matching, ← hasTag_eq_true_iff]

theorem getUsers_eq (records : List Json) {request : OperationRequest} {asked : Option String}
    (tag : (argument request "tag").bind Json.asString? = asked) :
    getUsers records request
      = pure (.array ((matching asked records).map (listedRecord request.selection))) := by
  have counted (users : List Json) : (if Entries.has request.selection "tagCount" then
      users.map withTagCount else users) = users.map (listedRecord request.selection) := by
    unfold listedRecord
    split
    · rfl
    · exact (List.map_id users).symm
  rw [getUsers, tag, ← counted]
  cases asked with
  | none => rw [matching_none]
  | some tag => rw [matching_some]

theorem getUser_eq {records : List Json} {request : OperationRequest} {id : Number} {record : Json}
    (args : request.args = some (.object [("id", .number id)]))
    (found : records.find? (hasId id) = some record) : getUser records request = pure record := by
  have asked : argument request "id" = some (.number id) := by
    rw [argument, args]
    rfl
  unfold hasId at found
  rw [getUser, asked, Option.bind_some, found]

section Operations

variable {records : List Json} {options : EngineOptions} {query : Json} {context : Context}
  (whole : options.processEntireTree = true)

/-- The request for which the fields of all users are planned. -/
abbrev usersScope (records : List Json) (options : EngineOptions) (context : Context) : Scope :=
  (engine records options).scope (getUsersOperation records) context

/-- The request for which the fields of one user are planned. -/
abbrev userScope (records : List Json) (options : EngineOptions) (context : Context) : Scope :=
  (engine records options).scope (getUserOperation records) context

include whole

/-- The elements of the list come of the records of the users that carry the tag asked for, those of
`matching`. -/
theorem elements_of_getUsers {data : Json}
    (answered : ((engine records options).run "getUsers" query context).Returns data) :
    ∃ children elements,
      List.Forall₂ ((usersScope records options context).Selected userType ["getUsers"])
        query.selected children ∧
      data = .array elements ∧
      List.Forall₂ (fun record => Plan.ConformsObject children (listedRecord query.selected record))
        (matching (tagAsked query) records) elements := by
  obtain ⟨_, args, taken, children, selected, answer, answers, value, walked, conforms⟩ :=
    (Engine.returns_serve_branch (getUsersOperation records) whole rfl rfl).mp answered
  have normal := (Arguments.check_returns_iff_normalizes ..).1 _ |>.mp taken
  let request : OperationRequest := ⟨context, ["getUsers"], args, query.selected, "getUsers"⟩
  have asked : (argument request "tag").bind Json.asString? = tagAsked query := by
    change (args.bind (·.get? "tag")).bind Json.asString? = tagAsked query
    rw [tag_of_normalizes normal]
    rfl
  change (getUsers records request).Returns answer at answers
  rw [getUsers_eq records asked] at answers
  obtain rfl := Run.returns_pure.mp answers
  obtain rfl := Run.returns_pure.mp walked
  obtain ⟨_, elements, listed, rfl, each⟩ := conforms.arrays rfl rfl
  cases listed
  have objects := each.objects
  exact ⟨children, elements, selected, rfl, List.forall₂_map_left_iff.mp objects⟩

/-- What comes of a record in the list, the operation for one user returns as well, if the record is
the one that it finds. -/
theorem returns_getUser {id : Number} {members : List (String × Json)}
    (found : records.find? (hasId id) = some (.object members)) {children : List (String × Plan)}
    {other : Context}
    (selected : List.Forall₂ ((usersScope records options other).Selected userType ["getUsers"])
      query.selected children)
    {element : Json}
    (conforms : Plan.ConformsObject children (listedRecord query.selected (.object members))
      element)
    (args : query.get? argsKey = some (.object [("id", .number id)])) :
    ((engine records options).run "getUser" query context).Returns element := by
  have alike : (usersScope records options other).Alike (userScope records options context) :=
    ⟨rfl, rfl, rfl, rfl⟩
  have selectedHere := alike.selected (bareWithin records) (by simp) selected ["getUser"]
  have planned := selected.imp fun _ _ => userField_of_selected rfl rfl
  obtain ⟨counted, listed, holdsListed⟩ := holds_listedRecord query.selected members
  rw [listed] at conforms
  -- The list has conformed, so the record has tags if they are selected.
  have tags (among : "tags" ∈ Entries.keys query.selected) :
      ∃ elements, part (.object members) "tags" = .array elements := by
    rw [← holdsListed.others "tags" (by decide)]
    exact tags_of_conformsObject planned conforms among
  obtain ⟨filled, resolved, holdsFilled⟩ :=
    exists_filling planned ⟨context, "getUser", true⟩ tags (holds_self members) ["getUser"]
  -- Counted by hand or by the resolver, both objects hold what the record holds.
  have agrees := agrees_of_holds planned holdsListed (holdsFilled.mono .inl)
    (.operation (getUserOperation records)) userType (some (.object [("id", .number id)]))
  have taken : ((userScope records options context).argsCheck
      ⟨.operation (getUserOperation records), query, ["getUser"]⟩).Returns
        (some (.object [("id", .number id)])) := by
    rw [Scope.argsCheck, Site.args?, args]
    exact ((Arguments.check_returns_iff_normalizes ..).1 _).mpr (normalizes_id id)
  have object : query.members?.isSome := by
    cases query <;> first | rfl | cases args
  refine (Engine.returns_serve_branch (getUserOperation records) whole rfl rfl).mpr
    ⟨object, _, taken, children, selectedHere, .object members, ?_, .object filled, ?_, ?_⟩
  · change (getUser records _).Returns _
    rw [getUser_eq rfl found]
    exact Run.returns_pure.mpr rfl
  · exact Run.returns_map.mpr ⟨filled, resolved, rfl⟩
  · have notNull : Json.object counted ≠ .null := by simp
    exact agrees.conforms (.object rfl notNull conforms)

end Operations

/-- What comes of a record in the list is told of the user, as `userData`. -/
theorem userData_of_listed {selection : List (String × Json)} {children : List (String × Plan)}
    (planned : List.Forall₂ UserField selection children) {record data : Json}
    (object : record.members?.isSome)
    (conforms : Plan.ConformsObject children (listedRecord selection record) data) :
    data = userData selection record := by
  obtain ⟨members, rfl⟩ := Json.eq_object_of_members? object
  obtain ⟨counted, listed, holds⟩ := holds_listedRecord selection members
  rw [listed] at conforms
  exact userData_of_conformsObject planned holds conforms

/-- Users are listed in the order of their records, one element for every user that carries the tag
asked for. Where no tag is asked for, the operation for one user answers every id with the element
of the first user that has it, whatever else is in the request. -/
theorem list_and_single_users_agree (records : List Json)
    (objects : ∀ record ∈ records, record.members?.isSome) (options : EngineOptions)
    (whole : options.processEntireTree = true) (listed : Json) (context : Context) (data : Json)
    (answered : ((engine records options).run "getUsers" listed context).outcome
      = .ok data) :
    ∃ elements, data = .array elements ∧
      elements = (matching (tagAsked listed) records).map (userData listed.selected) ∧
      (tagAsked listed = none → ∀ id, (∃ record ∈ records, hasId id record) →
        ∃ position element, records.findIdx? (hasId id) = some position ∧
          elements[position]? = some element ∧
          ∀ single other, single.selected = listed.selected →
            single.get? argsKey = some (.object [("id", .number id)]) →
            ((engine records options).run "getUser" single other).outcome
              = .ok element) := by
  obtain ⟨children, elements, selected, rfl, each⟩ := elements_of_getUsers whole answered
  have planned := selected.imp fun _ _ => userField_of_selected rfl rfl
  have told : elements
      = (matching (tagAsked listed) records).map (userData listed.selected) := by
    have among (record : Json) (inside : record ∈ matching (tagAsked listed) records) :=
      objects record (List.mem_of_mem_filter inside)
    refine eq_map_of_forall₂ (((List.forall₂_and_left _ _).mpr ⟨among, each⟩).imp ?_)
    exact fun _ _ ⟨object, conforms⟩ => userData_of_listed planned object conforms
  refine ⟨elements, rfl, told, fun noTag id someone => ?_⟩
  rw [noTag, matching_none] at told each
  obtain ⟨record, found⟩ := Option.isSome_iff_exists.mp (List.find?_isSome.mpr someone)
  obtain ⟨position, first, there⟩ : ∃ position, records.findIdx? (hasId id) = some position ∧
      records[position]? = some record := by
    rwa [List.find?_eq_bind_findIdx?_getElem?, Option.bind_eq_some_iff] at found
  have inside : record ∈ records := List.mem_of_find?_eq_some found
  obtain ⟨members, rfl⟩ := Json.eq_object_of_members? (objects record inside)
  obtain ⟨element, _, conforms⟩ := exists_of_mem_left each inside
  obtain rfl := userData_of_listed planned rfl conforms
  refine ⟨position, userData listed.selected (.object members), first, ?_,
    fun single other same args => ?_⟩
  · rw [told, List.getElem?_map, there, Option.map_some]
  · rw [← same] at selected conforms ⊢
    exact returns_getUser whole found selected conforms args

/-- Selects the name of a user and the number and the names of its tags. -/
def tagsQuery (args : Json) : Json :=
  .object [(argsKey, args), ("tagCount", .bool true), ("name", .bool true),
    ("tags", .object [("name", .bool true)])]

/-- The sample user with the id 2 is the second one of the list. -/
theorem list_and_single_users_agree_sample :
    let context : Context := { method := "POST", path := "/" }
    let single : Json := tagsQuery (.object [("id", .nat 2)])
    ∃ elements element,
      ((engine sampleUsers {}).run "getUsers" (tagsQuery (.object [])) context).outcome
        = .ok (.array elements) ∧
      elements[1]? = some element ∧
      ((engine sampleUsers {}).run "getUser" single context).outcome = .ok element := by
  intro context single
  have objects : ∀ record ∈ sampleUsers, record.members?.isSome := by decide
  have someone : ∃ record ∈ sampleUsers, hasId (.int 2) record := by decide
  obtain ⟨data, answered⟩ : ∃ data,
      ((engine sampleUsers {}).run "getUsers" (tagsQuery (.object [])) context).outcome
        = .ok data := ⟨_, rfl⟩
  obtain ⟨elements, rfl, _, agree⟩ :=
    list_and_single_users_agree sampleUsers objects {} rfl _ context data answered
  obtain ⟨position, element, found, held, answers⟩ := agree rfl (.int 2) someone
  obtain rfl : position = 1 := Option.some.inj (found.symm.trans (by decide))
  exact ⟨elements, element, answered, held, answers single context rfl rfl⟩

end Directory

end TypedQuery
