import TypedQuery.Proofs.Plan.Calls

/-!
# What is called for a document

Every call that is made in serving a document is made for one of its sites: to its guard, in the
check of its arguments, or to the resolver that answers it. The exception is the serializing of
scalars, which has to do with values only. A site is an operation or a field that may be selected,
so nothing is ever called for a field that is hidden, whether the request succeeds or fails. All of
this is a matter of the protocol `Scope.calling`, which has these calls only, and any errors.
-/

namespace TypedQuery

/-- The event serializes a scalar. -/
def Event.Serializes : Event → Prop
  | .call (.serialize ..) _ => True
  | _ => False

namespace Site

/-- The site is no hidden field. -/
def Visible (site : Site) : Prop := ∀ field, site.definition = .field field → field.hidden = false

/-- The event asks the resolver of the site. -/
inductive Answers (site : Site) : Event → Prop
  | operation {root request} : site.definition = .operation root → request.path = site.path →
      Answers site (.call (.resolveOperation request) (root.resolver request).trace)
  | field {field resolver request} : site.definition = .field field →
      field.resolver = some resolver → request.path = site.path →
      Answers site (.call (.resolveField request) (resolver request).trace)

end Site

/-- No site below the first one is a hidden field, nor is the first one unless it was hidden. -/
theorem Schema.visible_of_mem_sites {schema : Schema} {query : Json} {definition : Definition}
    {path : FieldPath} (visible : (⟨definition, query, path⟩ : Site).Visible) {site : Site}
    (h : site ∈ schema.sites query definition path) : site.Visible := by
  refine of_mem_sites (motive := fun definition => ∀ field, definition = .field field →
    field.hidden = false) (fun _ _ _ _ _ _ selected => ?_) visible h
  rintro _ ⟨⟩
  exact (ObjectType.selectable?_eq_some_iff.mp selected).2.2

namespace Scope

variable (scope : Scope) (sites : List Site)

/-- The event serializes a scalar, or it is in the `preflight` of one of the sites, or it asks the
resolver of one of them. -/
def CallsFor (event : Event) : Prop :=
  event.Serializes ∨ ∃ site ∈ sites, event ∈ scope.preflight site ∨ site.Answers event

/-- Calls that `CallsFor` allows, and any errors that name a path. -/
def calling : Protocol := Protocol.attributed.restrict (scope.CallsFor sites)

variable {scope sites}

theorem calling_serial : (scope.calling sites).Serial where
  toAttributed := Protocol.attributed_attributed.restrict _
  serializes := fun _ _ _ => ⟨.inl trivial, nofun⟩

section Site

variable {site : Site} (here : site ∈ sites)
include here

/-- Whatever is called in planning a site is what the site shows. -/
theorem calling_governs : scope.Governs (scope.calling sites) site where
  toPermits := restrict_permits fun event shown =>
    .inr ⟨site, here, .inl (List.mem_append_right _ shown)⟩
  guard := by
    intro guard declared
    have shown : .call (.guard (scope.guardRequest site)) (guard (scope.guardRequest site)).trace
        ∈ scope.preflight site := by
      rw [preflight, guardTrace, declared]
      exact List.mem_append_left _ List.mem_cons_self
    exact ⟨.inr ⟨site, here, .inl shown⟩, fun error => Fault.path_reported_ne_none⟩

theorem calling_asksResolver : (scope.calling sites).AsksResolver site.definition site.path := by
  cases answered : site.definition with
  | operation root =>
      intro request path
      exact ⟨.inr ⟨site, here, .inr (.operation answered path)⟩, fun _ =>
        Fault.path_reported_ne_none⟩
  | field inner =>
      intro resolver declared request path
      exact ⟨.inr ⟨site, here, .inr (.field answered declared path)⟩, fun _ =>
        Fault.path_reported_ne_none⟩

end Site

end Scope

/-- Serializing scalars, and any errors that name a path. -/
def Protocol.serializing : Protocol := Protocol.attributed.restrict Event.Serializes

theorem Protocol.serializing_serial : serializing.Serial where
  toAttributed := attributed_attributed.restrict _
  serializes := fun _ _ _ => ⟨trivial, nofun⟩

/-- Conforming a value serializes scalars and calls nothing else. -/
theorem Plan.only_conform (plan : Plan) (value : Json) (path : FieldPath) :
    (plan.conform value path).Only Event.Serializes :=
  (follows_conform Protocol.serializing_serial (fun _ _ _ => nofun) value).only

end TypedQuery
