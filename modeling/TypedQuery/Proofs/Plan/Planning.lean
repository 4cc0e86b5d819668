import TypedQuery.Proofs.Arguments.Attribution
import TypedQuery.Proofs.Plan.Grammar

/-!
# Planning by a protocol

Planning a field keeps to a protocol that governs its site, as `Scope.Governs` says: one that lets
the guard of the field be asked and its arguments be checked, and that has the objections to what
the client wrote for the field and to the names in it. Behind the guard `Scope.Permits` is enough. A
field within another may keep to a narrower protocol, so a document is planned by a protocol for
each path, as long as what is allowed within a field is allowed in the field:
`follows_select_of_family`.
-/

namespace TypedQuery

theorem Schema.eq_unknownObject_of_resolveOutput {schema : Schema} {ref : OutputRef}
    {error : Error} (h : schema.resolveOutput ref = .error error) :
    ∃ name, error = .query (.unknownObject name) := by
  cases ref with
  | scalar | object => cases h
  | lookup name =>
      rw [resolveOutput] at h
      cases found : schema.object? name with
      | none =>
          rw [found] at h
          cases h
          exact ⟨name, rfl⟩
      | some type =>
          rw [found] at h
          cases h

namespace Scope

/-- The protocol has all that planning may call for a site behind its guard, and all that it may
object to there. -/
structure Permits (scope : Scope) (protocol : Protocol) (site : Site) : Prop
    extends protocol.Attributed where
  args : (scope.argsCheck site).Follows protocol
  required : protocol.raises ((Error.args .required).withPath (site.path ++ [argsKey]))
  unresolved : ∀ error, scope.schema.resolveOutput site.definition.signature.type = .error error →
    protocol.raises (error.withPath site.path)
  query : ∀ fault ∈ [QueryFault.notSelection, .fieldsOfLeaf, .markedObject],
    protocol.raises ((Error.query fault).withPath site.path)
  key : ∀ key ∈ Entries.keys site.selection, ∀ fault ∈ [QueryFault.unknownField, .hiddenField],
    protocol.raises ((Error.query fault).withPath (site.path ++ [key]))

/-- The protocol has all that planning a site may call and object to, its guard besides what
`Permits` says. -/
structure Governs (scope : Scope) (protocol : Protocol) (site : Site) : Prop
    extends scope.Permits protocol site where
  guard : ∀ guard, site.definition.signature.guard = some guard →
    protocol.reports
      (.call (.guard (scope.guardRequest site)) (guard (scope.guardRequest site)).trace)
      ((guard (scope.guardRequest site)).failure?.map (·.reported site.path))

namespace Permits

variable {scope : Scope} {protocol : Protocol} {site : Site} (permits : scope.Permits protocol site)
include permits

/-- The arguments that are taken are those of the site, so `argsCheck` is all that is called. -/
theorem follows_takeArgs :
    ((scope.takeArgs site.definition.signature site.args? site.path).attachPath site.path).Follows
      protocol := by
  refine Run.Follows.attachPath ?_ permits.toAttributed site.path
  unfold takeArgs
  split
  · exact permits.args
  · exact Run.follows_pure site.args?

theorem follows_resolveOutput :
    (Run.attachPath site.path
      (Run.ofExcept (scope.schema.resolveOutput site.definition.signature.type))).Follows
        protocol := by
  cases resolved : scope.schema.resolveOutput site.definition.signature.type with
  | ok type => exact Run.follows_pure type
  | error error =>
      have raises : protocol.raises (error.withPath site.path) := permits.unresolved error resolved
      obtain ⟨name, rfl⟩ := Schema.eq_unknownObject_of_resolveOutput resolved
      exact Run.follows_fail raises

theorem follows_selectMarked (noMembers : site.query.members? = none) (type : ResolvedOutput) :
    ((scope.selectMarked site.definition type site.path).attachPath site.path).Follows
      protocol := by
  cases type with
  | object type => exact Run.follows_fail (permits.query _ (by simp))
  | scalar scalar =>
      have noArgs : site.args? = none := args?_of_members?_eq_none noMembers
      rw [selectMarked, ← noArgs]
      dsimp only
      split
      · exact Run.follows_fail permits.required
      · rw [Run.attachPath_bind]
        exact permits.follows_takeArgs.bind fun _ _ => Run.follows_pure _

theorem follows_selectLeaf {members : List (String × Json)} (object : site.query = .object members)
    (scalar : Scalar) :
    ((scope.selectLeaf site.definition scalar members site.path).attachPath site.path).Follows
      protocol := by
  unfold selectLeaf
  rw [← args?_of_object object]
  dsimp only
  split
  · exact Run.follows_fail (permits.query _ (by simp))
  · rw [Run.attachPath_bind]
    exact permits.follows_takeArgs.bind fun _ _ => Run.follows_pure _

theorem follows_selectFields {type : ObjectType} {members : List (String × Json)}
    (selected : ∀ member ∈ members, member.1 ≠ argsKey → member.1 ∈ Entries.keys site.selection)
    (h : ∀ member ∈ members, ∀ field, type.selectable? member.1 = some field →
      (scope.select member.2 (.field field) (site.path ++ [member.1])).Follows protocol)
    (plan : Bool) : (scope.selectFields members type plan site.path).Follows protocol := by
  induction members with
  | nil => exact Run.follows_pure []
  | cons member members ih =>
      obtain ⟨key, query⟩ := member
      obtain ⟨first, rest⟩ := List.forall_mem_cons.1 h
      obtain ⟨selectedFirst, selectedRest⟩ := List.forall_mem_cons.1 selected
      have others : (scope.selectFields members type plan site.path).Follows protocol :=
        ih selectedRest rest
      rw [selectFields]
      split
      · exact others
      next noArgs =>
        have written : key ∈ Entries.keys site.selection := selectedFirst noArgs
        split
        · exact Run.follows_fail (permits.key key written _ (by simp))
        next field held =>
          split
          · exact Run.follows_fail (permits.key key written _ (by simp))
          next visible =>
            split
            · have selectable : type.selectable? key = some field :=
                ObjectType.selectable?_eq_some_iff.mpr
                  ⟨noArgs, held, Bool.not_eq_true _ ▸ visible⟩
              refine (first field selectable).bind fun _ _ => others.bind fun _ _ => ?_
              exact Run.follows_pure _
            · exact others

end Permits

/-- Calls of some kind, and any errors that name a path, are enough for a site whose arguments are
checked by such calls. -/
theorem restrict_permits {scope : Scope} {site : Site} {kind : Event → Prop}
    (checks : (scope.argsCheck site).Only kind) :
    scope.Permits (Protocol.attributed.restrict kind) site where
  toAttributed := Protocol.attributed_attributed.restrict kind
  args := by
    have checked : (scope.argsCheck site).Follows Arguments.checking :=
      Arguments.follows_check Arguments.checking_regular (Arguments.checking_coversArgs ..) _
    have named : (scope.argsCheck site).Follows Protocol.attributed := checked.of_restrict
    exact named.restrict checks
  required := nofun
  unresolved := fun _ _ => nofun
  query := fun _ _ => nofun
  key := fun _ _ _ _ => nofun

namespace Governs

variable {scope : Scope} {protocol : Protocol} {site : Site} (governs : scope.Governs protocol site)

include governs in
theorem follows_askGuard :
    ((scope.askGuard site.definition.signature site.query site.path).attachPath site.path).Follows
      protocol := by
  unfold askGuard
  cases declared : site.definition.signature.guard with
  | none => exact Run.follows_pure ()
  | some guard =>
      dsimp only
      split
      · exact Run.follows_ask (governs.guard guard declared)
      · exact Run.follows_pure ()

/-- A protocol that has calls of other kinds, too, governs the sites that it governs without. -/
theorem of_restrict {kind : Event → Prop}
    (h : scope.Governs (protocol.restrict kind) site) (attributed : protocol.Attributed) :
    scope.Governs protocol site where
  toAttributed := attributed
  guard := fun guard declared => (h.guard guard declared).2
  args := h.args.of_restrict
  required := h.required
  unresolved := h.unresolved
  query := h.query
  key := h.key

end Governs

variable {scope : Scope}

/-- What is written in an object, apart from the arguments, is selected in its site. -/
theorem mem_keys_selection {definition : Definition} {members : List (String × Json)}
    {path : FieldPath} (member : String × Json) (held : member ∈ members)
    (noArgs : member.1 ≠ argsKey) :
    member.1 ∈ Entries.keys (⟨definition, .object members, path⟩ : Site).selection :=
  List.mem_map.mpr ⟨member, List.mem_filter.mpr ⟨held, by simpa using noArgs⟩, rfl⟩

/-- A document is planned by the protocol of its path if each of its sites is governed by the
protocol of its own path, and a protocol allows what is allowed further down. -/
theorem follows_select_of_family (family : FieldPath → Protocol)
    (widens : ∀ path key (run : Run Error Plan),
      run.Follows (family (path ++ [key])) → run.Follows (family path))
    (query : Json) (definition : Definition) (path : FieldPath)
    (governs : ∀ site ∈ scope.schema.sites query definition path,
      scope.Governs (family site.path) site) :
    (scope.select query definition path).Follows (family path) := by
  induction query using Json.object_induction generalizing definition path with
  | other query noMembers =>
      have here : scope.Governs (family path) ⟨definition, query, path⟩ :=
        governs _ (scope.schema.self_mem_sites ..)
      rw [select_of_members?_eq_none noMembers, Run.attachPath_bind, Run.attachPath_bind]
      refine here.follows_askGuard.bind fun _ _ => ?_
      refine here.follows_resolveOutput.bind fun type _ => ?_
      split
      · exact here.follows_selectMarked noMembers type
      · exact Run.follows_fail (here.query _ (by simp))
  | object members ih =>
      have here : scope.Governs (family path) ⟨definition, .object members, path⟩ :=
        governs _ (scope.schema.self_mem_sites ..)
      rw [select]
      beta_reduce
      rw [Run.attachPath_bind, Run.attachPath_bind]
      refine here.follows_askGuard.bind fun _ _ => ?_
      refine here.follows_resolveOutput.bind fun type resolved => ?_
      cases type with
      | scalar scalar => exact here.follows_selectLeaf rfl scalar
      | object type =>
          have typed : scope.schema.resolveOutput definition.signature.type = .ok (.object type) :=
            Run.returns_attachPath.mp resolved
          have children (member : String × Json) (held : member ∈ members) (field : Field)
              (selectable : type.selectable? member.1 = some field) :
              (scope.select member.2 (.field field) (path ++ [member.1])).Follows
                (family path) := by
            -- The sites of a member are sites of the document, too.
            refine widens _ _ _ (ih member held (.field field) _ fun within among => ?_)
            refine governs within ?_
            rw [Schema.sites_of_object typed]
            exact List.mem_cons_of_mem _ (Schema.mem_sitesWithin held selectable among)
          have fields : (scope.selectFields members type (scope.plansChildren definition)
              path).Follows (family path) :=
            here.follows_selectFields mem_keys_selection children _
          rw [Run.attachPath_bind]
          refine here.follows_takeArgs.bind fun _ _ => ?_
          rw [Run.attachPath_bind]
          refine (fields.attachPath here.toAttributed path).bind fun _ _ => ?_
          exact Run.follows_pure _

/-- A document is planned by a protocol that governs all of its sites. -/
theorem follows_select_of_governs {protocol : Protocol} {query : Json} {definition : Definition}
    {path : FieldPath} (governs : ∀ site ∈ scope.schema.sites query definition path,
      scope.Governs protocol site) : (scope.select query definition path).Follows protocol :=
  follows_select_of_family (fun _ => protocol) (fun _ _ _ follows => follows) query definition path
    governs

end Scope

end TypedQuery
