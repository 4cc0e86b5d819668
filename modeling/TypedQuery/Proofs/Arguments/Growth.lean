import TypedQuery.Proofs.Arguments.Attribution
import TypedQuery.Proofs.Growth
import TypedQuery.Proofs.Schema.Growth

/-!
# Arguments over a schema that grows

A check of arguments looks up the type of a slot for a value that is neither absent nor null. The
same value is laid out over both schemas, and each reading of its `Offer` is alike over both: the
first look-up that fails refuses the arguments, and no later step takes the refusal back.
`outgrows_check` says so of the check as a whole.
-/

namespace TypedQuery.Arguments

variable {protocol : Protocol} {missing : Option Cause} {schema grown : Schema}

variable (protocol missing schema) in
/-- The readings are alike wherever the protocol covers the type. -/
def InputReader.Outgrows (read other : InputReader) : Prop :=
  ∀ type nullable path, protocol.CoversType schema type path →
    (read type nullable path).Outgrows protocol missing (other type nullable path)

variable (protocol missing schema) in
/-- The value is the same, and all readings of it and its elements are alike, as
`InputReader.Outgrows` says. -/
structure Offer.Outgrows (offer other : Offer) : Prop where
  value : other.value = offer.value
  whole : InputReader.Outgrows protocol missing schema offer.asInput other.asInput
  elements : List.Forall₂ (InputReader.Outgrows protocol missing schema)
    offer.elements other.elements

theorem notObject_outgrows :
    InputReader.Outgrows protocol missing schema notObject notObject :=
  fun _ _ _ _ => Run.outgrows_fail _

theorem quiet_checkNulls (rule : ArrayRule) (elements : List Json) :
    (checkNulls rule elements).Quiet protocol := by
  unfold checkNulls
  split
  · exact Run.quiet_fail _
  · exact Run.quiet_pure ()

section Regular

variable (regular : protocol.Regular)
include regular

theorem quiet_parse {path : FieldPath} (refuses : protocol.RefusesArgs path) (scalar : Scalar)
    (value : Json) : (parse scalar value).Quiet protocol :=
  Run.quiet_attachPath_iff.mp (follows_parse regular refuses scalar value).quiet

theorem quiet_readScalar {path : FieldPath} (refuses : protocol.RefusesArgs path) (scalar : Scalar)
    (array : Option ArrayRule) (value : Json) :
    (readScalar scalar array value).Quiet protocol :=
  Run.quiet_attachPath_iff.mp (follows_readScalar regular refuses scalar array value).quiet

variable (grows : schema.GrowsInto grown missing)
include grows

theorem Offer.Outgrows.check {offer other : Offer}
    (h : offer.Outgrows protocol missing schema other) {slot : Slot} {path : FieldPath}
    (covers : protocol.CoversSlot schema slot path) :
    (offer.check schema slot path).Outgrows protocol missing (other.check grown slot path) := by
  have refuses : protocol.RefusesArgs path := covers.refusesArgs
  unfold Offer.check
  rw [h.value]
  refine Run.Outgrows.attachPath ?_ path
  obtain same | ⟨error, lacks, failed⟩ := grows.inputs slot.type
  · rw [same]
    split
    · split
      · exact Run.outgrows_pure Json.null
      · exact Run.outgrows_fail _
    · split
      next => exact Run.outgrows_fail _
      next => exact (quiet_readScalar regular refuses _ _ _).outgrows
      next type resolved =>
        have typed : protocol.CoversType schema type path := covers.type resolved
        split
        · refine (quiet_checkNulls _ _).outgrows.bind fun _ _ => ?_
          refine (Run.outgrows_traverse ?_).bind fun _ _ => Run.outgrows_pure _
          exact h.elements.imp fun read other alike => alike type _ path typed
        · exact h.whole type _ path typed
    · split
      · exact Run.outgrows_fail _
      · split
        next => exact Run.outgrows_fail _
        next => exact (quiet_parse regular refuses _ _).outgrows
        next type resolved => exact h.whole type _ path (covers.type resolved)
  · rw [failed]
    split
    · split
      · exact Run.outgrows_pure Json.null
      · exact Run.outgrows_fail _
    · exact Run.outgrows_of_missing lacks _
    · split
      · exact Run.outgrows_fail _
      · exact Run.outgrows_of_missing lacks _

theorem outgrows_checkFields {members : List (String × Json)}
    (h : ∀ member ∈ members,
      (offer schema member.2).Outgrows protocol missing schema (offer grown member.2))
    {path : FieldPath} {fields : List (String × Slot)}
    (covers : ∀ field ∈ fields, protocol.CoversSlot schema field.2 (path ++ [field.1])) :
    (checkFields schema (offerMembers schema members) path fields).Outgrows protocol missing
      (checkFields grown (offerMembers grown members) path fields) := by
  induction fields with
  | nil => exact Run.outgrows_pure []
  | cons field fields ih =>
      obtain ⟨key, slot⟩ := field
      obtain ⟨coversFirst, coversRest⟩ := List.forall_mem_cons.1 covers
      rw [checkFields, checkFields, get?_offerMembers, get?_offerMembers]
      cases held : Entries.get? members key with
      | none =>
          have absent : (checkAbsent slot (path ++ [key])).Quiet protocol :=
            (follows_checkAbsent coversFirst.refusesArgs slot).quiet
          refine absent.outgrows.bind fun _ _ => ?_
          exact (ih coversRest).bind fun _ _ => Run.outgrows_pure _
      | some value =>
          have alike : (offer schema value).Outgrows protocol missing schema (offer grown value) :=
            h _ (Entries.mem_of_get?_eq_some held)
          refine ((alike.check regular grows coversFirst).map some).bind fun _ _ => ?_
          exact (ih coversRest).bind fun _ _ => Run.outgrows_pure _

theorem outgrows_readObject {members : List (String × Json)}
    (h : ∀ member ∈ members,
      (offer schema member.2).Outgrows protocol missing schema (offer grown member.2)) :
    InputReader.Outgrows protocol missing schema
      (readObject schema (offerMembers schema members))
      (readObject grown (offerMembers grown members)) := by
  intro type nullable path covers
  unfold readObject
  rw [keys_offerMembers, keys_offerMembers]
  refine (outgrows_checkFields regular grows h covers.members).bind fun read _ => ?_
  dsimp only
  split
  · exact Run.outgrows_fail _
  · have whole : (checkWhole type read path).Quiet protocol :=
      Run.quiet_attachPath_iff.mp (follows_checkWhole covers.asks read).quiet
    exact whole.outgrows.bind fun _ _ => Run.outgrows_pure _

/-- A value is laid out alike over both schemas. -/
theorem offer_outgrows (value : Json) :
    (offer schema value).Outgrows protocol missing schema (offer grown value) := by
  induction value with
  | null =>
      rw [offer, offer]
      exact ⟨rfl, fun _ _ _ _ => Run.outgrows_pure Json.null, .nil⟩
  | bool | number | string =>
      rw [offer, offer]
      exact ⟨rfl, notObject_outgrows, .nil⟩
  | array elements ih =>
      rw [offer, offer, offerElements_eq_map, offerElements_eq_map]
      refine ⟨rfl, notObject_outgrows, ?_⟩
      rw [List.forall₂_map_left_iff, List.forall₂_map_right_iff, List.forall₂_same]
      exact fun element inside => (ih element inside).whole
  | object members ih =>
      rw [offer, offer]
      exact ⟨rfl, outgrows_readObject regular grows ih, .nil⟩

/-- A check of arguments is alike over both schemas. -/
theorem outgrows_check {slot : Option Slot} {path : FieldPath}
    (covers : protocol.CoversArgs schema slot path) (args : Option Json) :
    (check schema args slot path).Outgrows protocol missing (check grown args slot path) := by
  have quiet : (check schema args slot path).Quiet protocol :=
    (follows_check regular covers args).quiet
  cases slot with
  | none => cases args <;> exact quiet.outgrows
  | some slot =>
      cases args with
      | none => exact quiet.outgrows
      | some value =>
          have alike : (offer schema value).Outgrows protocol missing schema (offer grown value) :=
            offer_outgrows regular grows value
          exact (alike.check regular grows (covers.slot slot rfl)).map some

end Regular

end TypedQuery.Arguments
