import TypedQuery.Server.Config

/-!
# Bindings side by side

A configuration fits a schema if its document path and the routes of the bound operations begin with
a slash, no route is the document path, and no two bindings would serve one request, that is none of
them `Clashes` with another. The check goes through the bindings in order, but whether it succeeds
does not depend on the order: `validate_eq_ok_of_perm`.
-/

namespace TypedQuery

/-- Some request would be served by both bindings. -/
def Binding.Clashes (binding other : Binding) : Prop :=
  other.route = binding.route ∧ other.method.overlaps binding.method = true

theorem Method.overlaps_comm (a b : Method) : a.overlaps b = b.overlaps a := by
  cases a <;> cases b <;> rfl

theorem Binding.Clashes.symm {binding other : Binding} (h : binding.Clashes other) :
    other.Clashes binding := by
  obtain ⟨route, method⟩ := h
  exact ⟨route.symm, by rwa [Method.overlaps_comm]⟩

namespace Server.Config

/-- The route of the binding is one of its own. -/
def Routable (path : String) (binding : Binding) : Prop :=
  isRooted binding.route = true ∧ binding.route ≠ path

theorem bindingFault?_eq_none_iff {path : String} {earlier : List (String × Binding)}
    {name : String} {binding : Binding} :
    bindingFault? path earlier name binding = none ↔
      Routable path binding ∧ ∀ other ∈ earlier, ¬ binding.Clashes other.2 := by
  unfold bindingFault? Routable
  cases rooted : isRooted binding.route with
  | false => simp
  | true =>
      by_cases same : binding.route = path
      · simp [same]
      · simp [same, clash?, Binding.Clashes]

/-- The bindings are accepted one by one exactly if each is routable and no two of them clash,
nor one of them with an earlier one. -/
theorem checkBindings_eq_ok_iff {path : String} {earlier bindings : List (String × Binding)} :
    checkBindings path earlier bindings = .ok () ↔
      (∀ entry ∈ bindings, Routable path entry.2 ∧
        ∀ other ∈ earlier, ¬ entry.2.Clashes other.2) ∧
      bindings.Pairwise fun first second => ¬ second.2.Clashes first.2 := by
  induction bindings generalizing earlier with
  | nil => simp [checkBindings]
  | cons entry bindings ih =>
      obtain ⟨name, binding⟩ := entry
      have first : bindingFault? path earlier name binding = none ↔ _ := bindingFault?_eq_none_iff
      rw [checkBindings, List.forall_mem_cons, List.pairwise_cons, ← first]
      split
      · rename_i fault found
        simp [found]
      · rename_i found
        rw [ih]
        constructor
        · rintro ⟨each, apart⟩
          refine ⟨⟨found, ?_⟩, ?_, apart⟩
          · intro entry inside
            exact ⟨(each entry inside).1, (List.forall_mem_append.mp (each entry inside).2).1⟩
          · intro entry inside
            exact (each entry inside).2 _ (List.mem_append_right _ List.mem_cons_self)
        · rintro ⟨⟨_, each⟩, beside, apart⟩
          refine ⟨?_, apart⟩
          intro entry inside
          obtain ⟨routable, before⟩ := each entry inside
          refine ⟨routable, List.forall_mem_append.mpr ⟨before, ?_⟩⟩
          exact List.forall_mem_singleton.mpr (beside entry inside)

/-- A configuration is valid exactly if its path is rooted, every binding is routable, and no two
bindings clash. -/
theorem validate_eq_ok_iff {config : Config} {schema : Schema} :
    config.validate schema = .ok () ↔
      isRooted config.path = true ∧ (∀ entry ∈ schema.bindings, Routable config.path entry.2) ∧
      schema.bindings.Pairwise fun first second => ¬ second.2.Clashes first.2 := by
  unfold validate
  cases rooted : isRooted config.path with
  | false => simp
  | true => simp [checkBindings_eq_ok_iff]

/-- Whether `Config.validate` accepts a configuration does not depend on the order of the
operations. -/
theorem validate_eq_ok_of_perm {config : Config} {schema other : Schema}
    (reordering : other.operations.Perm schema.operations)
    (valid : config.validate schema = .ok ()) : config.validate other = .ok () := by
  have bindings : other.bindings.Perm schema.bindings := reordering.filterMap _
  obtain ⟨rooted, routable, apart⟩ := validate_eq_ok_iff.mp valid
  refine validate_eq_ok_iff.mpr ⟨rooted, ?_, ?_⟩
  · intro entry inside
    exact routable entry (bindings.mem_iff.mp inside)
  · exact bindings.symm.pairwise apart fun apart clash => apart clash.symm

end Server.Config

end TypedQuery
