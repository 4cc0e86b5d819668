import TypedQuery.Declarations.Document
import TypedQuery.Proofs.Entries

/-!
# Exported types

A declaration document exports one type for each of its sections, and one for each capitalized name
of an object type. Object types are registered under their own names, so two of them may come to one
capitalized name: the type that is registered last is then declared in the place of the first. And
an object type may come to the name of a section, one of `sectionNames`, which is then exported
twice. Where object types are told apart by their capitalized names, and from the sections, the
schema is `Apart`, and every one of them is declared, with its own fields.
-/

namespace TypedQuery

namespace Declarations

/-- The types that every document exports. -/
def sectionNames : List String := ["Scalars", "InputTypes", "MainTypes", "Root"]

/-- The names of the object types, each through `capitalize`, in order of registration. -/
def capitals (schema : Schema) : List String :=
  schema.objects.map fun (_, type) => Text.capitalize type.name

/-- Object types are told apart by their capitalized names, and from the sections. -/
structure Apart (schema : Schema) : Prop where
  types : (capitals schema).Nodup
  sections : ∀ name ∈ capitals schema, name ∉ sectionNames

/-- What a document is made of is the schema and its `reachableInputs`. -/
theorem ofSchema_eq_ok_iff {schema : Schema} {written : Document} :
    ofSchema schema = .ok written ↔
      ∃ inputs, reachableInputs schema = .ok inputs ∧ written = document schema inputs := by
  rw [ofSchema]
  cases reachableInputs schema with
  | error error => simp [bind, Except.bind]
  | ok inputs => simp [bind, Except.bind, pure, Except.pure, eq_comm]

variable {schema : Schema} {inputs : List (String × InputType)}

/-- The exported type of an object type, its `objectExport`, lists its fields. -/
theorem keys_objectExport (schema : Schema) (type : ObjectType) :
    Entries.keys (objectExport schema type).entries = Entries.keys type.fields := by
  simp [objectExport, Entries.keys]

theorem keys_exported (schema : Schema) :
    (Entries.keys <| schema.objects.map fun (_, type) =>
      (Text.capitalize type.name, objectExport schema type)) = capitals schema := by
  simp [capitals, Entries.keys]

/-- The object types are exported under their capitalized names, each name once. -/
theorem keys_objects (schema : Schema) (inputs : List (String × InputType)) :
    Entries.keys (document schema inputs).objects = (capitals schema).eraseDups := by
  rw [document, Entries.keys_ofList, keys_exported]

theorem keys_exports (written : Document) :
    Entries.keys written.exports
      = ["Scalars", "InputTypes", "MainTypes"] ++ Entries.keys written.objects ++ ["Root"] := by
  simp [Document.exports, Entries.keys]

/-- Each export has a name of its own just if no object type takes the name of a section. -/
theorem nodup_keys_exports_iff (schema : Schema) (inputs : List (String × InputType)) :
    (Entries.keys (document schema inputs).exports).Nodup ↔
      ∀ name ∈ capitals schema, name ∉ sectionNames := by
  have unique : (capitals schema).eraseDups.Nodup := nodup_eraseDups _
  rw [keys_exports, keys_objects]
  simp only [List.nodup_append, unique, sectionNames, List.mem_append, List.mem_eraseDups,
    List.mem_cons, List.not_mem_nil]
  constructor
  · rintro ⟨⟨_, _, front⟩, _, back⟩ name inside
    have root : name ≠ "Root" := back name (.inr inside) "Root" (.inl rfl)
    have scalars : "Scalars" ≠ name := front "Scalars" (.inl rfl) name inside
    have inputTypes : "InputTypes" ≠ name := front "InputTypes" (.inr (.inl rfl)) name inside
    have mainTypes : "MainTypes" ≠ name := front "MainTypes" (.inr (.inr (.inl rfl))) name inside
    simp [root, scalars.symm, inputTypes.symm, mainTypes.symm]
  · intro others
    refine ⟨⟨by decide, trivial, ?_⟩, by decide, ?_⟩
    · rintro front (rfl | rfl | rfl | ⟨⟨⟩⟩) name inside rfl <;> simpa using others _ inside
    · rintro name ((rfl | rfl | rfl | ⟨⟨⟩⟩) | inside) back (rfl | ⟨⟨⟩⟩)
      · decide
      · decide
      · decide
      · rintro rfl
        simpa using others _ inside

/-- As many types are exported as there are object types and sections, just if the object types have
different capitalized names. -/
theorem length_exports_iff (schema : Schema) (inputs : List (String × InputType)) :
    (document schema inputs).exports.length = schema.objects.length + 4 ↔
      (capitals schema).Nodup := by
  have exported : (document schema inputs).exports.length
      = (capitals schema).eraseDups.length + 4 := by
    rw [← keys_objects schema inputs]
    simp only [Document.exports, Entries.keys, List.length_append, List.length_map,
      List.length_cons, List.length_nil]
    omega
  have registered : schema.objects.length = (capitals schema).length := by
    rw [capitals, List.length_map]
  rw [exported, registered, Nat.add_right_cancel_iff, length_eraseDups_eq_iff]

theorem exports_apart_iff (schema : Schema) (inputs : List (String × InputType)) :
    (Entries.keys (document schema inputs).exports).Nodup ∧
        (document schema inputs).exports.length = schema.objects.length + 4 ↔ Apart schema := by
  rw [nodup_keys_exports_iff, length_exports_iff]
  exact ⟨fun ⟨sections, types⟩ => ⟨types, sections⟩, fun apart => ⟨apart.sections, apart.types⟩⟩

/-- An object type that is told apart is exported under its capitalized name. -/
theorem Apart.get?_exports (apart : Apart schema) {name : String} {type : ObjectType}
    (registered : (name, type) ∈ schema.objects) :
    Entries.get? (document schema inputs).exports (Text.capitalize type.name)
      = some (objectExport schema type) := by
  have inside : Text.capitalize type.name ∈ capitals schema :=
    List.mem_map.mpr ⟨(name, type), registered, rfl⟩
  have unique : (Entries.keys <| schema.objects.map fun (_, type) =>
      (Text.capitalize type.name, objectExport schema type)).Nodup :=
    keys_exported schema ▸ apart.types
  have exported : Entries.get? (document schema inputs).objects (Text.capitalize type.name)
      = some (objectExport schema type) := by
    show Entries.get? (Entries.ofList _) _ = _
    rw [Entries.ofList_of_nodup unique, Entries.get?_eq_some_iff unique]
    exact List.mem_map.mpr ⟨(name, type), registered, rfl⟩
  have others : Text.capitalize type.name ∉ sectionNames := apart.sections _ inside
  simp only [sectionNames, List.mem_cons, List.not_mem_nil, or_false, not_or] at others
  obtain ⟨scalars, inputTypes, mainTypes, _⟩ := others
  simp [Document.exports, Entries.get?_append, Entries.get?_cons, exported, Ne.symm scalars,
    Ne.symm inputTypes, Ne.symm mainTypes]

/-- Besides the sections a document exports one type for each capitalized name of an object type. It
has the fields, in order, of the object type of that name that stands last in its table. So each
export has a name of its own, and there is one for each object type, just if object types are told
apart by their capitalized names, and from the sections; and then the type of each has its own
fields. -/
theorem exports_keep_object_types_apart (reached : schema.Reached) {written : Document}
    (declared : ofSchema schema = .ok written) :
    Entries.keys written.exports
        = ["Scalars", "InputTypes", "MainTypes"] ++ (capitals schema).eraseDups ++ ["Root"] ∧
      (∀ name exported, (name, exported) ∈ written.objects →
        ∃ before type after, schema.objects = before ++ (type.name, type) :: after ∧
          Text.capitalize type.name = name ∧
          (∀ entry ∈ after, Text.capitalize entry.2.name ≠ name) ∧
          Entries.keys exported.entries = Entries.keys type.fields) ∧
      ((Entries.keys written.exports).Nodup ∧
          written.exports.length = schema.objects.length + 4 ↔ Apart schema) ∧
      (Apart schema →
        Entries.keys written.exports
            = ["Scalars", "InputTypes", "MainTypes"] ++ capitals schema ++ ["Root"] ∧
          ∀ name type, (name, type) ∈ schema.objects → ∃ exported,
            Entries.get? written.exports (Text.capitalize type.name) = some exported ∧
              Entries.keys exported.entries = Entries.keys type.fields) := by
  obtain ⟨inputs, _, rfl⟩ := ofSchema_eq_ok_iff.mp declared
  have names : Entries.keys (document schema inputs).exports
      = ["Scalars", "InputTypes", "MainTypes"] ++ (capitals schema).eraseDups ++ ["Root"] := by
    rw [keys_exports, keys_objects]
  refine ⟨names, ?last, exports_apart_iff schema inputs, fun apart => ⟨?all, ?own⟩⟩
  case last =>
    intro name exported held
    obtain ⟨before, after, split, last⟩ := Entries.last_of_mem_ofList held
    obtain ⟨front, back, objects, rfl, rest⟩ := List.map_eq_append_iff.mp split
    obtain ⟨⟨key, type⟩, back, rfl, entry, rfl⟩ := List.map_eq_cons_iff.mp rest
    obtain ⟨rfl, rfl⟩ := Prod.mk.inj entry
    have own : key = type.name :=
      reached.sound.objects.own (key, type) (objects ▸ List.mem_append_right _ List.mem_cons_self)
    refine ⟨front, type, back, own ▸ objects, rfl, fun later inside same => last ?_, ?_⟩
    · rw [Entries.keys, List.map_map]
      exact List.mem_map.mpr ⟨later, inside, same⟩
    · exact keys_objectExport schema type
  case all =>
    rw [names, eraseDups_of_nodup apart.types]
  case own =>
    intro name type registered
    exact ⟨_, apart.get?_exports registered, keys_objectExport schema type⟩

/-- Books stand on shelves. -/
def bookRegistrations : List Registration :=
  [.object
      { name := "book"
        fields := [("title", .bare (.scalar Scalar.string)), ("shelf", .bare (.lookup "shelf"))] }
      false,
    .object
      { name := "shelf"
        fields := [("books", .bare (.lookup "book")), ("floor", .bare (.scalar Scalar.number))] }
      false]

theorem exports_keep_object_types_apart_book :
    ∃ written, ofSchema (Schema.base.attemptAll bookRegistrations) = .ok written ∧
      Apart (Schema.base.attemptAll bookRegistrations) ∧
      Entries.keys written.exports
        = ["Scalars", "InputTypes", "MainTypes", "Book", "Shelf", "Root"] ∧
      ∃ exported, Entries.get? written.exports "Shelf" = some exported ∧
        Entries.keys exported.entries = ["books", "floor"] := by
  have reached : (Schema.base.attemptAll bookRegistrations).Reached :=
    Schema.Reached.base.attemptAll bookRegistrations
  have declared : ∃ written, ofSchema (Schema.base.attemptAll bookRegistrations) = .ok written :=
    ⟨_, rfl⟩
  obtain ⟨written, declared⟩ := declared
  obtain ⟨names, _, iff, kept⟩ := exports_keep_object_types_apart reached declared
  have apart : Apart (Schema.base.attemptAll bookRegistrations) := ⟨by decide, by decide⟩
  obtain ⟨all, own⟩ := kept apart
  have shelf : Text.capitalize "shelf" = "Shelf" := by decide
  refine ⟨written, declared, apart, all, ?_⟩
  rw [← shelf]
  exact own "shelf" _ (List.mem_cons_of_mem _ List.mem_cons_self)

/-- Two object types come to one capitalized name. -/
def userRegistrations : List Registration :=
  [.object { name := "user", fields := [("id", .bare (.scalar Scalar.number))] } false,
    .object { name := "User", fields := [("name", .bare (.scalar Scalar.string))] } false]

/-- Of two object types only one is declared, and the fields of the other are not to be found. -/
theorem exports_lose_user :
    ∃ schema written, Schema.base.registerAll userRegistrations = .ok schema ∧
      Entries.keys schema.objects = ["user", "User"] ∧ ofSchema schema = .ok written ∧
      Entries.keys written.exports = ["Scalars", "InputTypes", "MainTypes", "User", "Root"] ∧
      ∀ declared ∈ written.exports, Entries.keys declared.2.entries ≠ ["id"] := by
  exact ⟨_, _, rfl, rfl, rfl, by decide, by decide⟩

end Declarations

end TypedQuery
