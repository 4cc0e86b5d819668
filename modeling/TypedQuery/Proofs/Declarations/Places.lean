import TypedQuery.Proofs.Declarations.Quoting

/-!
# Names and descriptions in their places

Where names and descriptions leave nothing open, which is `Schema.Quotable`, they keep to their
places in a declaration document: each key is read as its name, and descriptions are seen nowhere
but in comments. Since nothing is escaped, a name with a quote ends its key, and a description with
the end of a comment goes on in code; `names_and_descriptions_break_out` shows both.
-/

namespace TypedQuery.Declarations

/-- If names and descriptions leave nothing open where they stand, every literal of a document is
read as the name that is written there: behind the fixed part come the names of the scalars, of the
input types with their members, of the object types, of their fields, and of the operations. Schemas
that differ in nothing but descriptions then have documents that are the same without their
comments. -/
theorem names_and_descriptions_keep_their_places {schema : Schema} (quotable : schema.Quotable)
    {written : Document} (declared : ofSchema schema = .ok written) (options : Options) :
    (∃ inputs, reachableInputs schema = .ok inputs ∧
      doubleQuoted (written.render options)
        = doubleQuoted (headText options) ++ (literalNames schema inputs).map some) ∧
    ∀ other : Schema, other.Quotable → other.undescribed = schema.undescribed →
      ∃ beside, ofSchema other = .ok beside ∧
        uncommented (beside.render options) = uncommented (written.render options) := by
  obtain ⟨inputs, returned, rfl⟩ := ofSchema_eq_ok_iff.mp declared
  obtain ⟨tidy, quotes⟩ := document_reads quotable returned
  refine ⟨⟨inputs, returned, ?_⟩, fun other alike same => ?_⟩
  · rw [Document.doubleQuoted_render tidy, quotes]
  · have bare := ofSchema_of_undescribed_eq same
    rw [declared] at bare
    obtain ⟨beside, built, undescribed⟩ : ∃ beside, ofSchema other = .ok beside ∧
        beside.undescribed = (document schema inputs).undescribed := by
      cases built : ofSchema other with
      | error error =>
          rw [built] at bare
          cases bare
      | ok beside =>
          rw [built] at bare
          exact ⟨beside, rfl, Except.ok.inj bare⟩
    obtain ⟨besideInputs, besideReturned, rfl⟩ := ofSchema_eq_ok_iff.mp built
    have besideTidy := (document_reads alike besideReturned).1
    refine ⟨_, built, ?_⟩
    rw [uncommented, Document.tokens_render besideTidy, ← Document.tokens_undescribed, undescribed,
      Document.tokens_undescribed, ← Document.tokens_render tidy]
    rfl

def nameFilter : InputType where
  name := "filter"
  fields := [("name", { type := .scalar Scalar.string })]

def getNotedUser : Operation where
  name := "getUser"
  signature := { type := .lookup "user", args := some { type := .lookup "filter" } }
  resolver := fun _ => pure .null

/-- Users have a name, under some key, and there is a note on what users are. -/
def notedType (key note : String) : ObjectType where
  name := "user"
  description := some note
  fields := [(key, .bare (.scalar Scalar.string))]

def notedSchema (note : String) : Schema :=
  Schema.base.attemptAll
    [.input nameFilter false, .object (notedType "name" note) false, .operation getNotedUser]

section Noted

variable {note : String}

theorem leads_notedSchema {slot : Slot} (leads : (notedSchema note).Leads slot) :
    slot = { type := .lookup "filter" } ∨ slot = { type := .scalar Scalar.string } := by
  induction leads with
  | operation registered args =>
      cases List.mem_singleton.mp registered
      cases args
      exact .inl rfl
  | field registered inside _ args =>
      cases List.mem_singleton.mp registered
      cases List.mem_singleton.mp inside
      cases args
  | member _ resolved inside ih =>
      obtain rfl | rfl := ih <;> cases resolved
      cases List.mem_singleton.mp inside
      exact .inr rfl

theorem leadsToInput_notedSchema {type : InputType}
    (leads : (notedSchema note).LeadsToInput type) : type = nameFilter := by
  obtain ⟨slot, leads, resolved⟩ := leads
  obtain rfl | rfl := leads_notedSchema leads <;> cases resolved
  rfl

theorem reachableInputs_notedSchema (note : String) :
    reachableInputs (notedSchema note) = .ok [("filter", nameFilter)] := by
  have filter : (notedSchema note).resolveInput (.lookup "filter") = .ok (.input nameFilter) := rfl
  have walked : enterInputs (notedSchema note) [{ type := .lookup "filter" }] []
      = .ok [("filter", nameFilter)] := by
    rw [enterInputs_of_new filter _ List.not_mem_nil, slots, nameFilter]
    simp only [List.map_cons, List.map_nil, List.nil_append, List.append_nil]
    rw [enterInputs_of_scalar rfl, enterInputs]
  show enterInputs (notedSchema note) [{ type := .lookup "filter" }] [] >>= pure = _
  rw [walked]
  rfl

theorem type_of_mem_declaredSignatures {signature : Signature}
    (declared : signature ∈ declaredSignatures (notedSchema note)) :
    signature.type = .scalar Scalar.string ∨ signature.type = .lookup "user" := by
  have listed : signature ∈
      [(Field.bare (.scalar Scalar.string)).signature, getNotedUser.signature] := declared
  obtain rfl | inside := List.mem_cons.mp listed
  · exact .inl rfl
  · rw [List.mem_singleton.mp inside]
    exact .inr rfl

theorem scalars_notedSchema {name : String} {scalar : Scalar}
    (registered : (name, scalar) ∈ (notedSchema note).scalars) :
    scalar ∈ [Scalar.boolean, Scalar.number, Scalar.string] :=
  List.mem_map_of_mem (f := Prod.snd) registered

theorem writesKey_notedSchema {name : String} (writes : (notedSchema note).WritesKey name) :
    name ∈ ["boolean", "number", "string", "filter", "name", "user", "getUser"] := by
  cases writes with
  | scalar registered =>
      have names := List.mem_map_of_mem (f := Scalar.name) (scalars_notedSchema registered)
      exact List.mem_append_left ["filter", "name", "user", "getUser"] names
  | object registered | operation registered =>
      cases List.mem_singleton.mp registered
      simp [notedType, getNotedUser]
  | field registered inside =>
      cases List.mem_singleton.mp registered
      cases List.mem_singleton.mp inside
      simp
  | input leads =>
      rw [leadsToInput_notedSchema leads]
      simp [nameFilter]
  | member leads inside =>
      rw [leadsToInput_notedSchema leads] at inside
      cases List.mem_singleton.mp inside
      simp

theorem quotable_notedSchema (harmless : Harmless note) : (notedSchema note).Quotable where
  keys name writes := by
    have each : ∀ name ∈ ["boolean", "number", "string", "filter", "name", "user", "getUser"],
        Verbatim '"' name := by decide
    exact each name (writesKey_notedSchema writes)
  mentions name mentions := by
    have each : Verbatim '\'' Scalar.string.name ∧ Verbatim '\'' nameFilter.name := by decide
    cases mentions with
    | output declared ref =>
        obtain scalar | lookup := type_of_mem_declaredSignatures declared
        · cases scalar.symm.trans ref
          exact each.1
        · cases lookup.symm.trans ref
    | slot leads ref =>
        obtain rfl | rfl := leads_notedSchema leads <;> cases ref
        exact each.1
    | input leads =>
        rw [leadsToInput_notedSchema leads]
        exact each.2
  objects name names := by
    have user : Plain (Text.capitalize "user") := by decide
    cases names with
    | registered registered =>
        cases List.mem_singleton.mp registered
        exact user.bare
    | inline declared ref =>
        obtain scalar | lookup := type_of_mem_declaredSignatures declared
        · cases scalar.symm.trans ref
        · cases lookup.symm.trans ref
  descriptions text describes := by
    have base : ∀ text ∈ ["True or False", "Numerical value", "String value"], Plain text := by
      decide
    cases describes with
    | scalar registered held =>
        have listed := List.mem_filterMap.mpr ⟨_, scalars_notedSchema registered, held⟩
        exact .plain (base text listed)
    | object registered held =>
        cases List.mem_singleton.mp registered
        cases held
        exact harmless
    | field registered inside held =>
        cases List.mem_singleton.mp registered
        cases List.mem_singleton.mp inside
        cases held
    | operation registered held =>
        cases List.mem_singleton.mp registered
        cases held
    | input leads held =>
        rw [leadsToInput_notedSchema leads] at held
        cases held

end Noted

theorem names_and_descriptions_keep_their_places_noted :
    let schema := notedSchema "A person who has signed up"
    let other := notedSchema "The \"user\" // of an account"
    schema.Quotable ∧ other.Quotable ∧ other.undescribed = schema.undescribed ∧
      ∃ written beside, ofSchema schema = .ok written ∧ ofSchema other = .ok beside ∧
        uncommented (beside.render {}) = uncommented (written.render {}) ∧
        doubleQuoted (written.render {}) = doubleQuoted (headText {})
          ++ ["boolean", "number", "string", "filter", "name", "user", "Typename", "user", "Type",
            "name", "Type", "Args", "getUser", "Type", "Args"].map some := by
  intro schema other
  have quotable : schema.Quotable := quotable_notedSchema (.plain (by decide))
  have alike : other.Quotable :=
    quotable_notedSchema (by simp [Harmless, List.infix_cons_iff])
  have same : other.undescribed = schema.undescribed := rfl
  have returned : reachableInputs schema = .ok [("filter", nameFilter)] :=
    reachableInputs_notedSchema _
  have declared : ofSchema schema = .ok (document schema [("filter", nameFilter)]) :=
    ofSchema_eq_ok_iff.mpr ⟨_, returned, rfl⟩
  obtain ⟨⟨inputs, walked, quotes⟩, without⟩ :=
    names_and_descriptions_keep_their_places quotable declared {}
  obtain rfl := Except.ok.inj (returned.symm.trans walked)
  obtain ⟨beside, built, equal⟩ := without other alike same
  exact ⟨quotable, alike, same, _, beside, declared, built, equal, quotes⟩

/-- The document of the example, given its note. -/
def notedDocument (note : String) : Document :=
  document (notedSchema note) [("filter", nameFilter)]

/-- The note stands at the exported type of the users, and nowhere else. -/
theorem exports_notedDocument (note : String) :
    (notedDocument note).exports
      = [("Scalars", (notedDocument "").scalars), ("InputTypes", (notedDocument "").inputs),
          ("MainTypes", (notedDocument "").mains)]
        ++ ("User", ⟨some note, [("name", fieldEntry {} (.bare (.scalar Scalar.string)))]⟩) ::
          [("Root", (notedDocument "").root)] := by
  have scalars : (notedDocument note).scalars = (notedDocument "").scalars := rfl
  have inputs : (notedDocument note).inputs = (notedDocument "").inputs := rfl
  have mains : (notedDocument note).mains = (notedDocument "").mains := rfl
  have root : (notedDocument note).root = (notedDocument "").root := rfl
  have objects : (notedDocument note).objects
      = [("User", ⟨some note, [("name", fieldEntry {} (.bare (.scalar Scalar.string)))]⟩)] := by
    have capital : Text.capitalize "user" = "User" := by decide
    have types : (notedSchema note).objects = [("user", notedType "name" note)] := rfl
    have exported : exportedTypes (notedSchema note) = [("User", notedType "name" note)] := by
      simp [exportedTypes, types, Entries.ofList, Entries.putAll, Entries.put, notedType, capital]
    rw [notedDocument, objects_document, exported]
    rfl
  rw [Document.exports, scalars, inputs, mains, root, objects]
  rfl

/-- A description may end its comment, and declare what it likes. A name may end its key. -/
theorem names_and_descriptions_break_out :
    let schema := notedSchema "A person who has signed up"
    let other := notedSchema "*/export type Root=any;/*"
    let quoted := Schema.base.attemptAll [.object (notedType "na\"me" "") false]
    other.undescribed = schema.undescribed ∧
      (∃ written beside, ofSchema schema = .ok written ∧ ofSchema other = .ok beside ∧
        uncommented (beside.render {}) ≠ uncommented (written.render {})) ∧
      quoted.WritesKey "na\"me" ∧
      ∃ written, ofSchema quoted = .ok written ∧
        some "na\"me" ∉ doubleQuoted (written.render {}) := by
  intro schema other quoted
  have declared (note : String) : ofSchema (notedSchema note) = .ok (notedDocument note) :=
    ofSchema_eq_ok_iff.mpr ⟨_, reachableInputs_notedSchema note, rfl⟩
  refine ⟨rfl, ⟨_, _, declared _, declared _, fun same => ?description⟩, ?key, _, rfl, ?name⟩
  case description =>
    have harmless : Harmless "" := .plain (by decide)
    have tidy : ∀ declared ∈ (notedDocument "").exports, TidyExport declared :=
      (document_reads (quotable_notedSchema harmless) (reachableInputs_notedSchema "")).1
    rw [exports_notedDocument] at tidy
    have front := (List.forall_mem_append.mp tidy).1
    have ends : Closed (comment (some "*/export type Root=any;/*")) :=
      closed_of_scan (by decide +kernel)
    have stays : Closed (comment (some "A person who has signed up")) :=
      closed_of_scan (by decide +kernel)
    rw [uncommented_of_exports (exports_notedDocument _) front ends,
      uncommented_of_exports (exports_notedDocument _) front stays, String.append_right_inj,
      String.append_left_inj] at same
    exact absurd same (by decide +kernel)
  case key =>
    exact .field (List.mem_singleton_self _) (List.mem_singleton_self _)
  case name =>
    intro read
    exact absurd (verbatim_of_mem_doubleQuoted read) (by decide)

end TypedQuery.Declarations
