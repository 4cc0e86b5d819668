import TypedQuery.Arguments
import TypedQuery.Proofs.Json.Structure
import TypedQuery.Proofs.Protocol

/-!
# Where the arguments of a field are refused

The members of input types lead from the slot of a field to further slots, and a chain of their
names leads to each of them, as `Schema.SlotAt` says. A check of arguments refuses them at the end
of such a chain, and at the end of such a chain it asks the checks of input types; that is where
their faults are reported. The chain is a matter of the declarations alone, whatever the client has
written. Apart from these checks it calls the parsers of scalars, and nothing else. So
`Arguments.check` keeps to every protocol that allows this along the chains of the slot, which is
`Protocol.CoversArgs`: `follows_check`.
-/

namespace TypedQuery

/-- The names of members lead from one slot to another. -/
inductive Schema.SlotAt (schema : Schema) : Slot → (keys : List String) → Slot → Prop
  | self {slot} : SlotAt schema slot [] slot
  | member {slot type key inner keys target} :
      schema.resolveInput slot.type = .ok (.input type) → (key, inner) ∈ type.fields →
      SlotAt schema inner keys target → SlotAt schema slot (key :: keys) target

theorem Schema.eq_unknownInput_of_resolveInput {schema : Schema} {ref : InputRef} {error : Error}
    (h : schema.resolveInput ref = .error error) :
    ∃ name, error = .args (.unknownInput name) := by
  cases ref with
  | scalar | input => cases h
  | lookup name =>
      rw [resolveInput] at h
      cases found : schema.input? name with
      | none =>
          rw [found] at h
          cases h
          exact ⟨name, rfl⟩
      | some type =>
          rw [found] at h
          cases h

/-- The event is a call that a check of arguments makes. -/
def Event.ChecksArgs : Event → Prop
  | .call (.parse ..) _ => True
  | .call (.checkInput ..) _ => True
  | _ => False

namespace Protocol

variable (protocol : Protocol) (schema : Schema)

/-- All errors name a path, and the parsers of scalars may be called, which report nothing. -/
structure Regular : Prop extends protocol.Attributed where
  parses : ∀ scalar value inner, protocol.reports (.call (.parse scalar value) inner) none

/-- Arguments may be refused at the path, whatever is wrong with them. That their type is not
registered, as `Cause.missesType` tells, is a matter of the declarations. -/
def RefusesArgs (path : FieldPath) : Prop :=
  ∀ fault, (Cause.args fault).missesType = false →
    protocol.raises ((Error.args fault).withPath path)

/-- The check of the input type may be asked at the path. -/
def AsksCheck (type : InputType) (path : FieldPath) : Prop :=
  ∀ check, type.check = some check → ∀ members,
    protocol.reports (.call (.checkInput type.name members path) (check members path).trace)
      ((check members path).failure?.map (·.reported path))

/-- Every slot to which a slot at that path leads may be refused, and may be checked if it holds
objects. -/
structure CoversSlot (slot : Slot) (path : FieldPath) : Prop where
  refuses : ∀ keys target, schema.SlotAt slot keys target → protocol.RefusesArgs (path ++ keys)
  misses : ∀ keys target error, schema.SlotAt slot keys target →
    schema.resolveInput target.type = .error error → protocol.raises (error.withPath (path ++ keys))
  asks : ∀ keys target type, schema.SlotAt slot keys target →
    schema.resolveInput target.type = .ok (.input type) → protocol.AsksCheck type (path ++ keys)

/-- What `CoversSlot` says of a slot, of an input type at that path. -/
structure CoversType (type : InputType) (path : FieldPath) : Prop where
  refuses : protocol.RefusesArgs path
  asks : protocol.AsksCheck type path
  members : ∀ member ∈ type.fields, protocol.CoversSlot schema member.2 (path ++ [member.1])

/-- The arguments of a field may be refused as a whole, and all along its slot if it has one. -/
structure CoversArgs (slot : Option Slot) (path : FieldPath) : Prop where
  refuses : protocol.RefusesArgs path
  slot : ∀ declared, slot = some declared → protocol.CoversSlot schema declared path

variable {protocol schema} {slot : Slot} {path : FieldPath}

theorem CoversSlot.refusesArgs (h : protocol.CoversSlot schema slot path) :
    protocol.RefusesArgs path := by
  have here : protocol.RefusesArgs (path ++ []) := h.refuses [] slot .self
  rwa [List.append_nil] at here

theorem CoversSlot.raises (h : protocol.CoversSlot schema slot path) {error : Error}
    (unresolved : schema.resolveInput slot.type = .error error) :
    protocol.raises (error.withPath path) := by
  have here : protocol.raises (error.withPath (path ++ [])) :=
    h.misses [] slot error .self unresolved
  rwa [List.append_nil] at here

theorem CoversSlot.type (h : protocol.CoversSlot schema slot path) {type : InputType}
    (resolved : schema.resolveInput slot.type = .ok (.input type)) :
    protocol.CoversType schema type path := by
  have here : protocol.AsksCheck type (path ++ []) := h.asks [] slot type .self resolved
  rw [List.append_nil] at here
  refine ⟨h.refusesArgs, here, ?_⟩
  rintro ⟨key, inner⟩ inside
  constructor
  · intro keys target leads
    have further : protocol.RefusesArgs (path ++ key :: keys) :=
      h.refuses _ target (.member resolved inside leads)
    rwa [List.append_cons] at further
  · intro keys target error leads unresolved
    have further : protocol.raises (error.withPath (path ++ key :: keys)) :=
      h.misses _ target error (.member resolved inside leads) unresolved
    rwa [List.append_cons] at further
  · intro keys target held leads resolvedTarget
    have further : protocol.AsksCheck held (path ++ key :: keys) :=
      h.asks _ target held (.member resolved inside leads) resolvedTarget
    rwa [List.append_cons] at further

end Protocol

namespace Arguments

variable {protocol : Protocol} {schema : Schema} {path : FieldPath}

/-- An array is checked for nulls and then read. -/
theorem follows_array (refuses : protocol.RefusesArgs path) (rule : ArrayRule)
    (elements : List Json) {read : Run Error (List Json)}
    (h : (read.attachPath path).Follows protocol) :
    (Run.attachPath path (do checkNulls rule elements; return Json.array (← read))).Follows
      protocol := by
  have nulls : ((checkNulls rule elements).attachPath path).Follows protocol := by
    unfold checkNulls
    split
    · exact Run.follows_fail (refuses _ rfl)
    · exact Run.follows_pure ()
  simp only [Run.attachPath_bind, Run.attachPath_pure]
  exact nulls.bind fun _ _ => h.bind fun _ _ => Run.follows_pure _

theorem follows_unresolved {slot : Slot} (covers : protocol.CoversSlot schema slot path)
    {error : Error} (unresolved : schema.resolveInput slot.type = .error error) :
    ((Run.fail error : Run Error Json).attachPath path).Follows protocol := by
  have raises : protocol.raises (error.withPath path) := covers.raises unresolved
  obtain ⟨name, rfl⟩ := Schema.eq_unknownInput_of_resolveInput unresolved
  exact Run.follows_fail raises

theorem follows_checkAbsent (refuses : protocol.RefusesArgs path) (slot : Slot) :
    (checkAbsent slot path).Follows protocol := by
  unfold checkAbsent
  split
  · exact Run.follows_fail (refuses _ rfl)
  · exact Run.follows_pure none

theorem follows_checkWhole {type : InputType} (asks : protocol.AsksCheck type path)
    (members : List (String × Json)) :
    ((checkWhole type members path).attachPath path).Follows protocol := by
  unfold checkWhole
  cases declared : type.check with
  | none => exact Run.follows_pure ()
  | some check => exact Run.follows_ask (asks check declared members)

/-- The reading keeps to the protocol wherever the protocol covers the type. -/
def InputReader.Follows (protocol : Protocol) (schema : Schema) (read : InputReader) : Prop :=
  ∀ type nullable path, protocol.CoversType schema type path →
    ((read type nullable path).attachPath path).Follows protocol

/-- All readings of the value and its elements keep to the protocol, as `InputReader.Follows`
says. -/
structure Offer.Follows (protocol : Protocol) (schema : Schema) (offer : Offer) : Prop where
  whole : InputReader.Follows protocol schema offer.asInput
  elements : ∀ read ∈ offer.elements, InputReader.Follows protocol schema read

theorem notObject_follows : InputReader.Follows protocol schema notObject :=
  fun _ _ _ covers => Run.follows_fail (covers.refuses _ rfl)

section Regular

variable (regular : protocol.Regular)
include regular

theorem follows_parse (refuses : protocol.RefusesArgs path) (scalar : Scalar) (value : Json) :
    ((parse scalar value).attachPath path).Follows protocol := by
  unfold parse
  cases scalar.parse with
  | none => exact Run.follows_pure value
  | some parse =>
      rw [Run.attachPath_mapError]
      exact Run.follows_refuse (regular.parses _ _ _) (refuses _ rfl)

theorem follows_parseElement (refuses : protocol.RefusesArgs path) (scalar : Scalar)
    (element : Json) : ((parseElement scalar element).attachPath path).Follows protocol := by
  unfold parseElement
  split
  · exact Run.follows_pure Json.null
  · exact follows_parse regular refuses scalar element

theorem follows_readScalar (refuses : protocol.RefusesArgs path) (scalar : Scalar)
    (array : Option ArrayRule) (value : Json) :
    ((readScalar scalar array value).attachPath path).Follows protocol := by
  unfold readScalar
  split
  · refine follows_array refuses _ _ ?_
    rw [Run.attachPath_traverse]
    exact Run.follows_traverse fun element _ => follows_parseElement regular refuses scalar element
  · exact follows_parse regular refuses scalar value

theorem Offer.Follows.check {offer : Offer} (h : offer.Follows protocol schema) {slot : Slot}
    (covers : protocol.CoversSlot schema slot path) :
    (offer.check schema slot path).Follows protocol := by
  have refuses : protocol.RefusesArgs path := covers.refusesArgs
  unfold Offer.check
  split
  · split
    · exact Run.follows_pure Json.null
    · exact Run.follows_fail (refuses _ rfl)
  · split
    next unresolved => exact follows_unresolved covers unresolved
    next => exact follows_readScalar regular refuses _ _ _
    next type resolved =>
      split
      · refine follows_array refuses _ _ ?_
        rw [Run.attachPath_traverse]
        exact Run.follows_traverse fun read inside =>
          h.elements read inside type _ path (covers.type resolved)
      · exact h.whole type _ path (covers.type resolved)
  · split
    · exact Run.follows_fail (refuses _ rfl)
    · split
      next unresolved => exact follows_unresolved covers unresolved
      next => exact follows_parse regular refuses _ _
      next type resolved => exact h.whole type _ path (covers.type resolved)

theorem follows_checkFields {members : List (String × Offer)}
    (h : ∀ member ∈ members, member.2.Follows protocol schema) {fields : List (String × Slot)}
    (covers : ∀ field ∈ fields, protocol.CoversSlot schema field.2 (path ++ [field.1])) :
    (checkFields schema members path fields).Follows protocol := by
  induction fields with
  | nil => exact Run.follows_pure []
  | cons field fields ih =>
      obtain ⟨key, slot⟩ := field
      obtain ⟨coversFirst, coversRest⟩ := List.forall_mem_cons.1 covers
      rw [checkFields]
      cases held : Entries.get? members key with
      | none =>
          refine (follows_checkAbsent coversFirst.refusesArgs slot).bind fun _ _ => ?_
          exact (ih coversRest).bind fun _ _ => Run.follows_pure _
      | some offer =>
          have follows : offer.Follows protocol schema := h _ (Entries.mem_of_get?_eq_some held)
          refine ((follows.check regular coversFirst).map some).bind fun _ _ => ?_
          exact (ih coversRest).bind fun _ _ => Run.follows_pure _

theorem follows_readObject {members : List (String × Offer)}
    (h : ∀ member ∈ members, member.2.Follows protocol schema) :
    InputReader.Follows protocol schema (readObject schema members) := by
  intro type nullable path covers
  have fields : (checkFields schema members path type.fields).Follows protocol :=
    follows_checkFields regular h covers.members
  rw [readObject, Run.attachPath_bind]
  refine (fields.attachPath regular.toAttributed path).bind fun read _ => ?_
  dsimp only
  split
  · exact Run.follows_fail (covers.refuses _ rfl)
  · rw [Run.attachPath_bind]
    refine (follows_checkWhole covers.asks read).bind fun _ _ => ?_
    exact Run.follows_pure _

theorem offer_follows (value : Json) : (offer schema value).Follows protocol schema := by
  induction value with
  | null => exact ⟨fun _ _ _ _ => Run.follows_pure Json.null, nofun⟩
  | bool | number | string => exact ⟨notObject_follows, nofun⟩
  | array elements ih =>
      refine ⟨notObject_follows, ?_⟩
      intro read inside
      rw [offer, offerElements_eq_map] at inside
      obtain ⟨element, member, rfl⟩ := List.mem_map.1 inside
      exact (ih element member).whole
  | object members ih =>
      refine ⟨follows_readObject regular ?_, nofun⟩
      intro member inside
      rw [offerMembers_eq_map] at inside
      obtain ⟨_, held, rfl⟩ := List.mem_map.1 inside
      exact ih _ held

/-- `Arguments.check` keeps to every protocol that covers the slot of the field. -/
theorem follows_check {slot : Option Slot} (covers : protocol.CoversArgs schema slot path)
    (args : Option Json) : (check schema args slot path).Follows protocol := by
  unfold check
  split
  · exact Run.follows_pure none
  · split
    · exact Run.follows_pure none
    · exact Run.follows_fail (covers.refuses _ rfl)
  · exact follows_checkAbsent covers.refuses _
  next slot value =>
    have follows : (offer schema value).Follows protocol schema := offer_follows regular value
    exact (follows.check regular (covers.slot slot rfl)).map some

end Regular

/-- The calls of a check of arguments, with any errors that name a path. -/
def checking : Protocol := Protocol.attributed.restrict Event.ChecksArgs

theorem checking_regular : checking.Regular where
  toAttributed := Protocol.attributed_attributed.restrict Event.ChecksArgs
  parses := fun _ _ _ => ⟨trivial, nofun⟩

theorem checking_coversArgs (slot : Option Slot) (path : FieldPath) :
    checking.CoversArgs schema slot path := by
  have refuses (path : FieldPath) : checking.RefusesArgs path := fun _ _ => nofun
  have asks (type : InputType) (path : FieldPath) : checking.AsksCheck type path := by
    intro check _ members
    refine ⟨trivial, fun error reported => ?_⟩
    exact Fault.path_reported_ne_none reported
  have misses (error : Error) (path : FieldPath) : checking.raises (error.withPath path) := nofun
  exact ⟨refuses path, fun _ _ => ⟨fun _ _ _ => refuses _, fun _ _ error _ _ => misses error _,
    fun _ _ type _ _ => asks type _⟩⟩

/-- A check of arguments calls parsers of scalars and checks of input types only, whatever is
offered and however it ends. -/
theorem only_check (schema : Schema) (args : Option Json) (slot : Option Slot)
    (path : FieldPath) : (check schema args slot path).Only Event.ChecksArgs :=
  (follows_check checking_regular (checking_coversArgs slot path) args).only

end Arguments

end TypedQuery
