import TypedQuery.Proofs.Directory.Users
import TypedQuery.Proofs.Plan.Agreement
import TypedQuery.Proofs.Plan.Walk

/-!
# Filling in one user

The operation for one user answers with the record, and the fields selected are filled into it one
by one. Most of them stay what they are. The number of tags is put in by its resolver, which is
shown the record as it stands by then; but nothing that has been filled in before touches the tags.
So in the end the object `Holds` what a record holds whose number of tags has been counted by hand,
with `withTagCount`.
-/

namespace TypedQuery

namespace Directory

@[simp] theorem part_put_self (members : List (String × Json)) (key : String) (value : Json) :
    part (.object (Entries.put members key value)) key = value := by
  rw [part, Json.get?, Entries.get?_put_self, Option.getD_some]

theorem part_put_of_ne {key other : String} (h : other ≠ key) (members : List (String × Json))
    (value : Json) :
    part (.object (Entries.put members key value)) other = part (.object members) other := by
  rw [part, Json.get?, Entries.get?_put_of_ne h, part, Json.get?]

variable {record : Json} {counted : Prop} {members : List (String × Json)}

theorem holds_self (members : List (String × Json)) : Holds (.object members) False members :=
  ⟨fun _ _ => rfl, nofun⟩

namespace Holds

theorem mono {fewer : Prop} (h : Holds record counted members) (counts : fewer → counted) :
    Holds record fewer members := ⟨h.others, fun selected => h.count (counts selected)⟩

variable (h : Holds record counted members)
include h

theorem countTags_eq : countTags (.object members) = countTags record := by
  rw [countTags, tagsOf, h.others "tags" (by decide), countTags, tagsOf]

/-- To put back what stands there changes nothing, except that nothing becomes null. -/
theorem put_part {key : String} (other : key ≠ "tagCount") :
    Holds record counted (Entries.put members key (part (.object members) key)) where
  others name notCount := by
    by_cases same : name = key
    · rw [same, part_put_self, h.others key other]
    · rw [part_put_of_ne same, h.others name notCount]
  count selected := by rw [part_put_of_ne other.symm, h.count selected]

theorem put_count : Holds record True (Entries.put members "tagCount" (countTags record)) where
  others name notCount := by rw [part_put_of_ne notCount, h.others name notCount]
  count _ := part_put_self ..

end Holds

theorem withTagCount_object (members : List (String × Json)) :
    ∃ others, withTagCount (.object members) = .object others ∧
      Holds (.object members) True others :=
  ⟨_, rfl, (holds_self members).put_count⟩

namespace UserField

variable {member : String × Json} {child : String × Plan}

/-- A selected field is filled in, if tags stand where tags are selected. -/
theorem exists_filled (planned : UserField member child) (resolution : Resolution)
    (tags : member.1 = "tags" → ∃ elements, part record "tags" = .array elements)
    (h : Holds record counted members) (path : FieldPath) :
    ∃ value, (resolution.resolve child.2 (part (.object members) child.1) members path).Returns
        value ∧
      Holds record (member.1 = "tagCount" ∨ counted) (Entries.put members child.1 value) := by
  cases planned with
  | @plain key query plan _ notCount plain =>
      obtain ⟨field, _⟩ := plain
      refine ⟨part (.object members) key, ?_, ?_⟩
      · rw [Resolution.resolve,
          Resolution.ask_of_no_resolver (by simp [Definition.hasResolver, field.kept])]
        exact Run.returns_attachPath.mpr (Run.returns_pure.mpr rfl)
      · exact (h.put_part notCount).mono (Or.resolve_left · notCount)
  | tags =>
      obtain ⟨elements, listed⟩ := tags rfl
      refine ⟨part (.object members) "tags", ?_, ?_⟩
      · rw [Resolution.resolve_branch, Resolution.ask_of_no_resolver rfl,
          h.others "tags" (by decide), listed]
        exact Run.returns_attachPath.mpr (Run.returns_pure.mpr rfl)
      · have other : "tags" ≠ "tagCount" := by decide
        exact (h.put_part other).mono (Or.resolve_left · other)
  | count =>
      -- The resolver is shown what has been filled in so far, which has the tags of the record.
      refine ⟨countTags record, ?_, h.put_count.mono fun _ => trivial⟩
      refine (Resolution.returns_resolve_of_resolver rfl rfl rfl _ _ _ _).mpr ?_
      exact Run.returns_pure.mpr h.countTags_eq

end UserField

section Selected

variable {selection : List (String × Json)} {children : List (String × Plan)}
  (planned : List.Forall₂ UserField selection children)
include planned

/-- All selected fields are filled in, one after the other. -/
theorem exists_filling (resolution : Resolution)
    (tags : "tags" ∈ Entries.keys selection → ∃ elements, part record "tags" = .array elements)
    (h : Holds record counted members) (path : FieldPath) :
    ∃ filled, (resolution.resolveFields children members path).Returns filled ∧
      Holds record ("tagCount" ∈ Entries.keys selection ∨ counted) filled := by
  -- Whether the number has been counted yet goes along; once it has been, it stays.
  induction planned generalizing members counted with
  | nil => exact ⟨members, Run.returns_pure.mpr rfl, h.mono (Or.resolve_left · List.not_mem_nil)⟩
  | @cons member child selection children first _ ih =>
      have tagsHere (named : member.1 = "tags") := tags (named ▸ List.mem_cons_self)
      have tagsThere (among : "tags" ∈ Entries.keys selection) :=
        tags (List.mem_cons_of_mem _ among)
      obtain ⟨value, resolved, held⟩ :=
        first.exists_filled resolution tagsHere h (path ++ [child.1])
      obtain ⟨filled, rest, heldAll⟩ := ih tagsThere held
      refine ⟨filled, ?_, heldAll.mono ?_⟩
      · rw [Resolution.resolveFields, Run.returns_bind]
        exact ⟨value, resolved, rest⟩
      · rintro (count | counted)
        · obtain same | among := List.mem_cons.mp count
          · exact .inr (.inl same.symm)
          · exact .inl among
        · exact .inr (.inr counted)

/-- Where tags are selected, there are tags in every object that conforms. -/
theorem tags_of_conformsFields {results : List (String × Json)}
    (conforms : Plan.ConformsFields children members results)
    (among : "tags" ∈ Entries.keys selection) :
    ∃ elements, part (.object members) "tags" = .array elements := by
  induction planned generalizing results with
  | nil => cases among
  | cons first _ ih =>
      cases conforms with
      | cons conforms rest =>
          obtain same | among := List.mem_cons.mp among
          · cases first with
            | plain notTags => exact absurd same.symm notTags
            | count => exact absurd (show "tags" = "tagCount" from same) (by decide)
            | tags =>
                obtain ⟨elements, _, listed, _⟩ := conforms.arrays rfl rfl
                exact ⟨elements, listed⟩
          · exact ih rest among

theorem tags_of_conformsObject {data : Json}
    (conforms : Plan.ConformsObject children (.object members) data)
    (among : "tags" ∈ Entries.keys selection) :
    ∃ elements, part (.object members) "tags" = .array elements := by
  cases conforms with
  | empty =>
      rw [List.forall₂_nil_right_iff] at planned
      subst planned
      cases among
  | collapsed noMembers => cases noMembers
  | fields _ conforms => exact tags_of_conformsFields planned conforms among

/-- Objects that hold what the same record holds, in the sense of `Holds`, differ in nothing that is
selected. -/
theorem agrees_of_holds {others : List (String × Json)}
    (h : Holds record ("tagCount" ∈ Entries.keys selection) members)
    (h' : Holds record ("tagCount" ∈ Entries.keys selection) others) (definition : Definition)
    (type : ObjectType) (args : Option Json) :
    (Plan.branch definition type selection args children).Agrees (.object members)
      (.object others) := by
  refine .object fun child inside => ?_
  obtain ⟨member, among, field⟩ := exists_of_mem_right planned inside
  change child.2.Agrees (part (.object members) child.1) (part (.object others) child.1)
  rw [field.named, h.part_of_selected among, h'.part_of_selected among]
  exact .same

end Selected

end Directory

end TypedQuery
