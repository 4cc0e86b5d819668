import Mathlib.Data.List.Basic
import TypedQuery.Engine.Envelope

/-!
# Envelopes that are read back

What `Envelope.toJson` writes for an envelope is read by `Envelope.ofJson?` as that envelope, with
the four absences kept apart: no error, a null path, an empty path, and no report. Reading fills in
what a text leaves out, so a second reading finds what the first one found. A failure names the kind
of its error twice, as the type and in front of the wording. Kinds differ in their names and the
label of a kind is fixed, so the wording behind it is known, whatever it says.
-/

namespace TypedQuery

theorem Json.sameElements_map_string {texts others : List String} :
    sameElements (texts.map .string) (others.map .string) = true ↔ texts = others := by
  induction texts generalizing others with
  | nil => cases others <;> simp [sameElements]
  | cons text texts ih => cases others <;> simp [sameElements, same, ih]

namespace ErrorKind

def all : List ErrorKind := [.base, .args, .query, .result, .initialization]

/-- The kind that goes by this name in a response. -/
def ofTypeName? (type : String) : Option ErrorKind := all.find? (·.typeName == type)

theorem ofTypeName?_typeName (kind : ErrorKind) : ofTypeName? kind.typeName = some kind := by
  cases kind <;> decide

/-- What stands in front of the wording of an error. -/
def label (kind : ErrorKind) : String := kind.typeName ++ ": "

end ErrorKind

/-- What a response tells of the error, besides the report. It is that of `Error.origin`. -/
structure Origin where
  kind : ErrorKind
  message : String
  path : Option FieldPath
deriving DecidableEq

def Error.origin (error : Error) : Origin := ⟨error.kind, error.message, error.path⟩

namespace ErrorBody

/-- A wording without its label. -/
def unlabelled? (label text : String) : Option String :=
  (text.toList.dropPrefix? label.toList).map String.ofList

theorem unlabelled?_append (label message : String) :
    unlabelled? label (label ++ message) = some message := by
  rw [unlabelled?, String.toList_append, List.dropPrefix?_append_of_beq _ (beq_self_eq_true _),
    Option.map_some, String.ofList_toList]

/-- The origin of an error, read from what a response says of it. -/
def origin? (body : ErrorBody) : Option Origin := do
  let kind ← ErrorKind.ofTypeName? body.type
  let message ← unlabelled? kind.label body.message
  return { kind, message, path := body.fieldPath }

theorem texts?_map_string (texts : List String) :
    texts? (texts.map Json.string) = some texts := by
  induction texts with
  | nil => rfl
  | cons text texts ih => rw [List.map_cons, texts?, ih, Option.map_some]

theorem path?_strings (segments : FieldPath) :
    path? (some (Json.strings segments)) = some (some segments) := by
  rw [Json.strings, path?, texts?_map_string, Option.map_some]

theorem ofJson?_toJson (body : ErrorBody) : ofJson? body.toJson = some body := by
  obtain ⟨message, type, fieldPath, stack⟩ := body
  cases fieldPath with
  | none => cases stack <;> rfl
  | some segments =>
      cases stack <;>
        simp [ofJson?, toJson, Json.record?, Entries.get?, Json.asString?, path?_strings, stack?]

/-- Bodies that are written the same, in the sense of `Json.same`, are equal. -/
theorem eq_of_same {body other : ErrorBody} (h : body.toJson.same other.toJson = true) :
    body = other := by
  obtain ⟨message, type, fieldPath, stack⟩ := body
  obtain ⟨otherMessage, otherType, otherPath, otherStack⟩ := other
  cases fieldPath <;> cases otherPath <;> cases stack <;> cases otherStack <;>
    simp [toJson, Json.strings, Json.same, Json.sameMembers, Json.sameElements_map_string,
      Entries.get?] at h ⊢ <;> exact h

end ErrorBody

namespace Envelope

/-- The origin of the error that an envelope reports, by `ErrorBody.origin?`. -/
def origin? (envelope : Envelope) : Option Origin := envelope.error.bind ErrorBody.origin?

theorem ofJson?_toJson (envelope : Envelope) : ofJson? envelope.toJson = some envelope := by
  obtain ⟨data, error⟩ := envelope
  cases error with
  | none => rfl
  | some body =>
      -- The body is written as an object, so it is not taken for an absent error.
      have read : ofJson? (toJson ⟨data, some body⟩)
          = ((ErrorBody.ofJson? body.toJson).map some).bind fun error => some ⟨data, error⟩ := rfl
      rw [read, ErrorBody.ofJson?_toJson, Option.map_some, Option.bind_some]

theorem origin?_failure (error : Error) (debug : Bool) :
    (failure error debug).origin? = some error.origin := by
  have labelled : error.text = error.kind.label ++ error.message := rfl
  simp [origin?, failure, ErrorBody.origin?, ErrorKind.ofTypeName?_typeName, labelled,
    ErrorBody.unlabelled?_append, Error.origin]

theorem failure_eq_of_same {error other : Error} {debug also : Bool}
    (h : (failure error debug).toJson.same (failure other also).toJson = true) :
    failure error debug = failure other also := by
  have bodies : ∀ body body' : ErrorBody,
      (toJson ⟨.null, some body⟩).same (toJson ⟨.null, some body'⟩) = true →
        body.toJson.same body'.toJson = true := by
    intro body body' h
    simpa [toJson, Json.same, Json.sameMembers, Entries.get?] using h
  exact congrArg (Envelope.mk .null ∘ some) (ErrorBody.eq_of_same (bodies _ _ h))

/-- An envelope that is written is read as itself, and one that is read is, written again, read as
the same. From what is written for a failure the kind, the wording and the path of its error are
recovered, in debug mode or not; so errors whose failures count as the same agree in them. -/
theorem written_and_read :
    (∀ envelope : Envelope, ofJson? envelope.toJson = some envelope) ∧
    (∀ json : Json, (ofJson? json).bind (fun read => ofJson? read.toJson) = ofJson? json) ∧
    (∀ (error : Error) (debug : Bool),
      (ofJson? (failure error debug).toJson).bind origin? = some error.origin) ∧
    ∀ (error other : Error) (debug also : Bool),
      (failure error debug).toJson.same (failure other also).toJson = true →
        error.kind = other.kind ∧ error.message = other.message ∧ error.path = other.path := by
  refine ⟨ofJson?_toJson, ?_, ?_, ?_⟩
  · intro json
    cases ofJson? json with
    | none => rfl
    | some envelope => exact ofJson?_toJson envelope
  · intro error debug
    rw [ofJson?_toJson, Option.bind_some, origin?_failure]
  · intro error other debug also h
    have origins : some error.origin = some other.origin := by
      rw [← origin?_failure error debug, failure_eq_of_same h, origin?_failure]
    obtain ⟨kinds, messages, paths⟩ := Origin.mk.inj (Option.some.inj origins)
    exact ⟨kinds, messages, paths⟩

/-- The status is not told: errors that differ in nothing else have the same failure. -/
theorem written_and_read_statuses :
    let error := (Error.args .required).withPath []
    let other := error.withStatus 404
    error ≠ other ∧ error.kind = other.kind ∧ error.message = other.message ∧
      error.path = other.path :=
  ⟨by decide, written_and_read.2.2.2 _ _ false false (by decide)⟩

end Envelope

end TypedQuery
